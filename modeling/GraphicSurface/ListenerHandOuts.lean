import GraphicSurface.AllocationFlag
import GraphicSurface.ListenerRequests

/-! What becomes of the buffers that a release has marked for the listener, when other threads
release buffers, register and unregister the listener, connect and clear the cache meanwhile. -/

namespace GraphicSurface

open Interleaving Runs SlotPool

/-- The numbers for which a release has to call the listener, the one of the callback under way
included. -/
def Pc.outstanding : Pc → List ℕ
  | releaseCallback handed | callback handed | clientCancel _ handed | takeBack handed =>
    handed.map (·.1)
  | _ => []

/-- The number for which a callback returns `GSERROR_OK`. -/
def Pc.tells : Pc → Action → Option ℕ
  | callback (d :: _), .answered (.function true) => some d.1
  | _, _ => none

def Pc.clears (q : BufferQueue) : Pc → Action → Bool
  | idle _, .call .cleanCache => !q.isAllocatingBuffer
  | clearWait, .go => true
  | _, _ => false

def Pc.ends : Pc → Action → Bool
  | callback [_], .answered (.function true) => true
  | takeBack [_], .go => true
  | _, _ => false

/-- `given t` is what the last release of thread `t` has marked for the listener, `told t` what
callbacks have taken of it since, and `waiting` what each thread has still to call the listener
for. -/
structure HandOutAccount where
  given : ℕ → List ℕ
  told : ℕ → List ℕ
  waiting : List (ℕ × ℕ)

def Action.isCall : Action → Bool
  | .call _ => true
  | _ => false

def Pc.isIdle : Pc → Bool
  | idle _ => true
  | _ => false

def Pc.hasMarked : Pc → Bool
  | releaseCallback _ => true
  | _ => false

def Pc.marked (given : List ℕ) (a : Action) (pc : Pc) : List ℕ :=
  if pc.hasMarked then pc.outstanding else if a.isCall then [] else given

def recordHandOuts (t : ℕ) (s : HandOutAccount) (q : BufferQueue) (pc : Pc) (a : Action)
    (r : Pc × BufferQueue) : HandOutAccount where
  given u :=
    if pc.clears q a then [] else if u = t then Pc.marked (s.given t) a r.1 else s.given u
  told u :=
    if u = t ∧ a.isCall then [] else (pc.tells a).toList.filter (· ∈ s.given u) ++ s.told u
  waiting := s.waiting.filter (·.1 ≠ t) ++ r.1.outstanding.map (t, ·)

def Action.listens : Action → Bool
  | .call (.releaseBuffer _ _ _ _) | .call .cleanCache | .call (.configure _) => true
  | .call _ => false
  | _ => true

def Pc.listens : Pc → Bool
  | idle _ | releaseCallback _ | callback _ | clientCancel _ _ | takeBack _ | unRegistering => true
  | _ => false

/-- A release that has marked buffers for the listener reads the pointer to it. -/
def Pc.readsListener : Pc → Action → Bool
  | releaseCallback (_ :: _), .go => true
  | _, _ => false

/-- The listener is there when it is read, and when a release returns no other one is about to call
the listener for a buffer that this one has taken back. -/
def Listened (t : ℕ) (s : BufferQueue × HandOutAccount) (pc : Pc) (a : Action) : Prop :=
  a.listens = true ∧ (pc.readsListener a = true → s.1.producerListener.isSome) ∧
    (pc.ends a = true → ∀ k ∈ s.2.given t, k ∉ pc.outstanding → k ∉ s.2.told t →
      ∀ w ∈ s.2.waiting, w.2 = k → w.1 = t)

instance (t : ℕ) (s : BufferQueue × HandOutAccount) (pc : Pc) (a : Action) :
    Decidable (Listened t s pc a) := inferInstanceAs (Decidable (_ ∧ (_ → _) ∧ (_ → _)))

namespace BufferQueue

variable {q q' : BufferQueue} {k : ℕ}

def stateOf (q : BufferQueue) (k : ℕ) : Option BufferState :=
  (q.bufferQueueCache.find k).map (·.state)

theorem stateOf_of_cache (h : q'.bufferQueueCache = q.bufferQueueCache) (k : ℕ) :
    q'.stateOf k = q.stateOf k := by
  unfold stateOf
  rw [h]

/-- A requested buffer comes back, and nothing else changes. -/
structure TakesBack (q : BufferQueue) (k : ℕ) (q' : BufferQueue) : Prop where
  back : q.stateOf k = some .requested → q'.stateOf k = some .released
  stays : q.stateOf k = some .released → q'.stateOf k = some .released
  others : ∀ j, j ≠ k → q'.stateOf j = q.stateOf j

theorem cancelBufferLocked_takesBack (q : BufferQueue) (sequence : ℕ) (bedata : Option ExtraData) :
    q.TakesBack sequence (q.cancelBufferLocked sequence bedata).2 := by
  unfold cancelBufferLocked
  cases he : q.bufferQueueCache.find sequence with
  | none => exact ⟨fun h => by simp [stateOf, he] at h, fun h => h, fun _ _ => rfl⟩
  | some e =>
    dsimp only
    split
    · rename_i hs
      refine ⟨fun h => ?_, fun h => h, fun _ _ => rfl⟩
      simp only [stateOf, he, Option.map_some, Option.some.injEq] at h
      exact absurd h hs.1
    · have hback : ({ q with
          freeList := q.freeList ++ [sequence]
          bufferQueueCache := q.bufferQueueCache.modify sequence
            (BufferElement.setCancelled bedata)
            (BufferElement.setCancelled_seqNum bedata) } : BufferQueue).stateOf sequence =
          some .released := by
        simp [stateOf, he, BufferElement.setCancelled]
      refine ⟨fun _ => hback, fun _ => hback, fun j hj => ?_⟩
      simp [stateOf, Ne.symm hj]

theorem takeBack_takesBack (q : BufferQueue) (sequence : ℕ) :
    q.TakesBack sequence (q.takeBack sequence) := by
  unfold takeBack
  split
  · rename_i hnone
    exact ⟨fun h => by simp [stateOf, hnone] at h, fun h => h, fun _ _ => rfl⟩
  · exact cancelBufferLocked_takesBack q sequence _

/-- Free buffers are marked for the listener, and the others that the producer has or could get
stay as they are. -/
structure Marks (q : BufferQueue) (handed : List ℕ) (q' : BufferQueue) : Prop where
  marked : ∀ k ∈ handed, q'.stateOf k = some .requested
  others : ∀ k, k ∉ handed → ∀ state, q.stateOf k = some state →
    state = .released ∨ state = .requested → q'.stateOf k = some state

theorem releaseBufferLocked_spares (sequence : ℕ) (fence : Option SyncFence) (env : ReleaseEnv)
    {state : BufferState} (hk : q.stateOf k = some state)
    (hstate : state = .released ∨ state = .requested) :
    (q.releaseBufferLocked sequence fence env).2.stateOf k = some state := by
  unfold releaseBufferLocked
  split
  · exact hk
  · rename_i e he
    split
    · exact hk
    · rename_i hs
      have hne : sequence ≠ k := by
        rintro rfl
        simp only [stateOf, he, Option.map_some, Option.some.injEq] at hk
        rw [← hk] at hstate
        rcases hstate with h | h <;> simp [h] at hs
      dsimp only
      split
      · unfold stateOf at hk ⊢
        rw [find_deleteNoWait, if_neg hne]
        simpa [markReleased, hne] using hk
      · unfold stateOf at hk ⊢
        simpa [markReleased, hne] using hk

theorem HandsOver.marks {handed : List ℕ} (h : HandsOver handed q q') : q.Marks handed q' := by
  refine ⟨fun k hk => ?_, fun k hk state hstate _ => ?_⟩
  · obtain ⟨e, he, hs⟩ := h.requested k hk
    simp [stateOf, he, hs]
  · have hprofile := congrArg (Option.map Profile.state) (h.profile k hk)
    simp only [Option.map_map] at hprofile
    exact Eq.trans hprofile hstate

theorem Marks.after {handed : List ℕ} {q₁ : BufferQueue}
    (hspares : ∀ k state, q.stateOf k = some state → state = .released ∨ state = .requested →
      q₁.stateOf k = some state) (h : q₁.Marks handed q') : q.Marks handed q' :=
  ⟨h.marked, fun k hk state hstate hs => h.others k hk state (hspares k state hstate hs) hs⟩

theorem Marks.none (h : ∀ k state, q.stateOf k = some state →
    state = .released ∨ state = .requested → q'.stateOf k = some state) : q.Marks [] q' :=
  ⟨by simp, fun k _ state => h k state⟩

theorem releaseSection_marks (h : q.Agrees) (hflag : q.isAllocatingBuffer = false) (sequence : ℕ)
    (fence : Option SyncFence) (now mergeFd : Int) :
    ((q.releaseSection sequence fence now mergeFd).1.isIdle = true ∧
          (q.releaseSection sequence fence now mergeFd).1.outstanding = [] ∨
        (q.releaseSection sequence fence now mergeFd).1.hasMarked = true) ∧
      (q.releaseSection sequence fence now mergeFd).1.listens = true ∧
      q.Marks (q.releaseSection sequence fence now mergeFd).1.outstanding
        (q.releaseSection sequence fence now mergeFd).2 ∧
      (q.releaseSection sequence fence now mergeFd).2.isAllocatingBuffer = false := by
  have hagrees := (releaseBufferLocked_refines h sequence fence ⟨now, mergeFd, fun _ => true⟩).agrees h
  have hspares (k : ℕ) (state : BufferState) (hk : q.stateOf k = some state)
      (hstate : state = .released ∨ state = .requested) :=
    releaseBufferLocked_spares sequence fence ⟨now, mergeFd, fun _ => true⟩ hk hstate
  have hflag₁ : (q.releaseBufferLocked sequence fence
      ⟨now, mergeFd, fun _ => true⟩).2.isAllocatingBuffer = false :=
    (congrArg Prod.fst (q.marks_releaseBufferLocked sequence fence _)).trans hflag
  unfold releaseSection
  rw [hflag]
  simp only [Bool.false_and, Bool.false_eq_true, if_false]
  split
  · split
    · exact ⟨.inl ⟨rfl, rfl⟩, rfl, .none hspares, hflag₁⟩
    · unfold afterRelease handOutSection
      rw [hflag₁]
      simp only [Bool.false_eq_true, if_false]
      split
      · exact ⟨.inr rfl, rfl, .after hspares (handOut_handsOver hagrees _ _).marks,
          (congrArg Prod.fst (marks_handOut _ _ _)).trans hflag₁⟩
      · exact ⟨.inr rfl, rfl, .none hspares, hflag₁⟩
  · exact ⟨.inl ⟨rfl, rfl⟩, rfl, .none fun _ _ hk _ => hk, hflag⟩

end BufferQueue

/-- The steps of the release path, by what they do to the buffers that are marked or free. -/
inductive HandStep (q : BufferQueue) : Pc → Action → Pc × BufferQueue → Prop
  | quiet {pc pc' : Pc} {a : Action} {q' : BufferQueue}
      (hcache : q'.bufferQueueCache = q.bufferQueueCache)
      (hout : pc'.outstanding = pc.outstanding) (hpc : pc'.hasMarked = false)
      (hclears : pc.clears q a = false) (hidle : pc.isIdle = true → a.isCall = true) :
      HandStep q pc a (pc', q')
  | clears {reply : Option Reply} {pc' : Pc} {q' : BufferQueue} (hout : pc'.outstanding = [])
      (hflag : q.isAllocatingBuffer = false) : HandStep q (.idle reply) (.call .cleanCache) (pc', q')
  | marks {reply : Option Reply} {sequence : ℕ} {fence : Option SyncFence} {now mergeFd : Int}
      {pc' : Pc} {q' : BufferQueue} (hmarks : q.Marks pc'.outstanding q')
      (hpc : pc'.isIdle = true ∧ pc'.outstanding = [] ∨ pc'.hasMarked = true) :
      HandStep q (.idle reply) (.call (.releaseBuffer sequence fence now mergeFd)) (pc', q')
  | tells {d : ℕ × Option SyncFence} {rest : List (ℕ × Option SyncFence)} :
      HandStep q (.callback (d :: rest)) (.answered (.function true))
        (BufferQueue.nextCallback rest, q)
  | clientCancels {d : ℕ × Option SyncFence} {rest : List (ℕ × Option SyncFence)}
      {bedata : Option ExtraData} {q' : BufferQueue} (hback : q.TakesBack d.1 q') :
      HandStep q (.clientCancel bedata (d :: rest)) .go (.takeBack (d :: rest), q')
  | takesBack {d : ℕ × Option SyncFence} {rest : List (ℕ × Option SyncFence)} {q' : BufferQueue}
      (hback : q.TakesBack d.1 q') :
      HandStep q (.takeBack (d :: rest)) .go (BufferQueue.nextCallback rest, q')

theorem nextCallback_outstanding (handed : List (ℕ × Option SyncFence)) :
    (BufferQueue.nextCallback handed).outstanding = handed.map (·.1) ∧
      (BufferQueue.nextCallback handed).listens = true ∧
      (BufferQueue.nextCallback handed).hasMarked = false := by
  unfold BufferQueue.nextCallback
  split
  · rename_i hnone
    rw [hnone]
    exact ⟨rfl, rfl, rfl⟩
  · exact ⟨rfl, rfl, rfl⟩

theorem Call.start_listens {q : BufferQueue} (h : q.Agrees) (hflag : q.isAllocatingBuffer = false)
    {c : Call} (hc : (Action.call c).listens = true) (reply : Option Reply) :
    HandStep q (.idle reply) (.call c) (c.start q) ∧ (c.start q).1.listens = true ∧
      (c.start q).2.isAllocatingBuffer = false := by
  cases c with
  | releaseBuffer sequence fence now mergeFd =>
    obtain ⟨hpc, hlistens, hmarks, hflag'⟩ :=
      q.releaseSection_marks h hflag sequence fence now mergeFd
    exact ⟨.marks hmarks hpc, hlistens, hflag'⟩
  | cleanCache =>
    unfold Call.start
    dsimp only
    rw [hflag]
    simp only [Bool.false_eq_true, if_false]
    exact ⟨.clears rfl hflag, rfl, hflag⟩
  | configure s => cases s <;> exact ⟨.quiet rfl rfl rfl rfl fun _ => rfl, rfl, hflag⟩
  | _ => cases hc

theorem Pc.advance_listens {q : BufferQueue} (h : q.Agrees) (hflag : q.isAllocatingBuffer = false)
    {pc : Pc} {a : Action} (hpc : pc.listens = true) (ha : a.listens = true)
    (hheard : pc.readsListener a = true → q.producerListener.isSome) {r : Pc × BufferQueue}
    (hr : pc.advance q a = some r) :
    HandStep q pc a r ∧ r.1.listens = true ∧ r.2.isAllocatingBuffer = false := by
  cases pc with
  | idle reply =>
    cases a with
    | call c =>
      obtain rfl := Option.some.inj hr
      exact Call.start_listens h hflag ha reply
    | _ => cases hr
  | releaseCallback handed =>
    cases a with
    | go =>
      obtain rfl := Option.some.inj hr
      obtain ⟨hout, hlistens, hnot⟩ := nextCallback_outstanding handed
      by_cases hlistener : q.producerListener.isSome = true
      · rw [if_pos hlistener]
        exact ⟨.quiet rfl hout hnot rfl nofun, hlistens, hflag⟩
      · rw [if_neg hlistener]
        cases handed with
        | nil => exact ⟨.quiet rfl rfl rfl rfl nofun, rfl, hflag⟩
        | cons d rest => exact absurd (hheard rfl) hlistener
    | _ => cases hr
  | callback handed =>
    cases a with
    | answered path =>
      cases path with
      | notCached =>
        obtain rfl := Option.some.inj hr
        exact ⟨.quiet rfl rfl rfl rfl nofun, rfl, hflag⟩
      | function ok =>
        obtain rfl := Option.some.inj hr
        cases ok with
        | false => exact ⟨.quiet rfl rfl rfl rfl nofun, rfl, hflag⟩
        | true =>
          cases handed with
          | nil => exact ⟨.quiet rfl rfl rfl rfl nofun, rfl, hflag⟩
          | cons d rest => exact ⟨.tells, (nextCallback_outstanding rest).2.1, hflag⟩
      | noFunction bedata =>
        obtain rfl := Option.some.inj hr
        exact ⟨.quiet rfl rfl rfl rfl nofun, rfl, hflag⟩
    | _ => cases hr
  | clientCancel bedata handed =>
    cases a with
    | go =>
      cases handed with
      | nil => cases hr
      | cons d rest =>
        obtain rfl := Option.some.inj hr
        dsimp only
        split
        · exact ⟨.clientCancels (q.cancelBufferLocked_takesBack d.1 bedata), rfl,
            (congrArg Prod.fst (q.marks_cancel d.1 bedata)).trans hflag⟩
        · exact ⟨.quiet rfl rfl rfl rfl nofun, rfl, hflag⟩
    | _ => cases hr
  | takeBack handed =>
    cases a with
    | go =>
      cases handed with
      | nil => cases hr
      | cons d rest =>
        obtain rfl := Option.some.inj hr
        exact ⟨.takesBack (q.takeBack_takesBack d.1), (nextCallback_outstanding rest).2.1,
          (congrArg Prod.fst (q.marks_takeBack d.1)).trans hflag⟩
    | _ => cases hr
  | unRegistering =>
    cases a with
    | go =>
      obtain rfl := Option.some.inj hr
      exact ⟨.quiet rfl rfl rfl rfl nofun, rfl, hflag⟩
    | _ => cases hr
  | _ => cases hpc

theorem Pc.calm_of_listens {q : BufferQueue} (hflag : q.isAllocatingBuffer = false) {pc : Pc}
    {a : Action} (hpc : pc.listens = true) : pc.Calm q a := by
  cases pc with
  | idle reply =>
    cases a with
    | call c =>
      cases c with
      | releaseBuffer => simp [Pc.Calm, Call.Calm, BufferQueue.releaseWaits, hflag]
      | _ => trivial
    | _ => trivial
  | flushDo | detachDelete | flushDelete | releaseDelete | attachDelete => cases hpc
  | _ => trivial

/-- What has become of a buffer that a release of thread `t` has marked. -/
def HandOutAccount.Settled (t k : ℕ) (s : BufferQueue × HandOutAccount) : Prop :=
  s.1.stateOf k = some .released ∨
    s.1.stateOf k = some .requested ∧ (k ∈ s.2.told t ∨ ∃ w ∈ s.2.waiting, w.2 = k)

structure HandOutInv (s : BufferQueue × HandOutAccount) : Prop where
  agrees : s.1.Agrees
  flag : s.1.isAllocatingBuffer = false
  settled : ∀ t, ∀ k ∈ s.2.given t, HandOutAccount.Settled t k s

/-- Where a thread of the release path stands. -/
structure HandOutAt (t : ℕ) (s : BufferQueue × HandOutAccount) (pc : Pc) : Prop where
  listens : pc.listens = true
  waiting : ∀ k, (t, k) ∈ s.2.waiting ↔ k ∈ pc.outstanding
  finished : pc.isIdle = false → pc.outstanding = [] → s.2.given t = []

namespace HandStep

variable {t u k : ℕ} {s : BufferQueue × HandOutAccount} {pc : Pc} {a : Action}
  {r : Pc × BufferQueue}

theorem mem_waiting {w : ℕ × ℕ} :
    w ∈ (recordHandOuts t s.2 s.1 pc a r).waiting ↔
      w ∈ s.2.waiting ∧ w.1 ≠ t ∨ w.1 = t ∧ w.2 ∈ r.1.outstanding := by
  simp only [recordHandOuts, List.mem_append, List.mem_filter, List.mem_map, decide_eq_true_eq]
  refine or_congr Iff.rfl ⟨?_, ?_⟩
  · rintro ⟨k, hk, rfl⟩
    exact ⟨rfl, hk⟩
  · rintro ⟨rfl, hk⟩
    exact ⟨w.2, hk, rfl⟩

theorem waits (hloc : HandOutAt t s pc)
    (hw : ∃ w ∈ s.2.waiting, w.2 = k) (hkept : k ∈ pc.outstanding → k ∈ r.1.outstanding) :
    ∃ w ∈ (recordHandOuts t s.2 s.1 pc a r).waiting, w.2 = k := by
  obtain ⟨w, hmem, rfl⟩ := hw
  refine ⟨w, mem_waiting.mpr ?_, rfl⟩
  by_cases ht : w.1 = t
  · refine .inr ⟨ht, hkept ((hloc.waiting w.2).mp ?_)⟩
    rw [← ht]
    exact hmem
  · exact .inl ⟨hmem, ht⟩

theorem told_kept (hcall : u = t → a.isCall = false) (hk : k ∈ s.2.told u) :
    k ∈ (recordHandOuts t s.2 s.1 pc a r).told u := by
  have hnot : ¬ (u = t ∧ a.isCall = true) := by
    rintro ⟨hu, ha⟩
    rw [hcall hu] at ha
    cases ha
  simp only [recordHandOuts, if_neg hnot, List.mem_append]
  exact .inr hk

theorem given_before (hpc : r.1.hasMarked = false)
    (hk : k ∈ (recordHandOuts t s.2 s.1 pc a r).given u) :
    k ∈ s.2.given u ∧ (u = t → a.isCall = false) := by
  simp only [recordHandOuts, Pc.marked, hpc, Bool.false_eq_true, if_false] at hk
  split_ifs at hk with hclears hu hcall
  · cases hk
  · cases hk
  · exact ⟨hu ▸ hk, fun _ => by simpa using hcall⟩
  · exact ⟨hk, fun heq => absurd heq hu⟩

theorem told_now (ht : a.isCall = false) (htells : pc.tells a = some k) (hk : k ∈ s.2.given u) :
    k ∈ (recordHandOuts t s.2 s.1 pc a r).told u := by
  simp [recordHandOuts, ht, htells, hk]

theorem settled (h : HandStep s.1 pc a r) (hloc : HandOutAt t s pc)
    (hinv : ∀ t, ∀ k ∈ s.2.given t, HandOutAccount.Settled t k s)
    (hk : k ∈ (recordHandOuts t s.2 s.1 pc a r).given u) :
    HandOutAccount.Settled u k (r.2, recordHandOuts t s.2 s.1 pc a r) := by
  cases h with
  | @quiet pc pc' a q' hcache hout hpc =>
    obtain ⟨hbefore, hcall⟩ := given_before hpc hk
    have hstate := BufferQueue.stateOf_of_cache hcache k
    rcases hinv u k hbefore with hfree | ⟨hrequested, htold | hwaits⟩
    · exact .inl (hstate.trans hfree)
    · exact .inr ⟨hstate.trans hrequested, .inl (told_kept hcall htold)⟩
    · exact .inr ⟨hstate.trans hrequested, .inr (waits hloc hwaits fun hin => hout ▸ hin)⟩
  | clears hout hflag =>
    simp [recordHandOuts, Pc.clears, hflag] at hk
  | @marks reply sequence fence now mergeFd pc' q' hmarks hpc =>
    have hin (hin : k ∈ pc'.outstanding) : HandOutAccount.Settled u k
        (q', recordHandOuts t s.2 s.1 (.idle reply) (.call (.releaseBuffer sequence fence now mergeFd))
          (pc', q')) :=
      .inr ⟨hmarks.marked k hin, .inr ⟨(t, k), mem_waiting.mpr (.inr ⟨rfl, hin⟩), rfl⟩⟩
    by_cases hout : k ∈ pc'.outstanding
    · exact hin hout
    have hold : u ≠ t ∧ k ∈ s.2.given u := by
      simp only [recordHandOuts, Pc.clears, Pc.marked, Action.isCall, Bool.false_eq_true, if_false,
        if_true] at hk
      split_ifs at hk with hu hmarked
      · exact absurd hk hout
      · cases hk
      · exact ⟨hu, hk⟩
    have hcall : u = t → (Action.call (.releaseBuffer sequence fence now mergeFd)).isCall = false :=
      fun heq => absurd heq hold.1
    rcases hinv u k hold.2 with hfree | ⟨hrequested, htold | hwaits⟩
    · exact .inl (hmarks.others k hout _ hfree (.inl rfl))
    · exact .inr ⟨hmarks.others k hout _ hrequested (.inr rfl), .inl (told_kept hcall htold)⟩
    · refine .inr ⟨hmarks.others k hout _ hrequested (.inr rfl), .inr (waits hloc hwaits ?_)⟩
      exact fun hnone => absurd hnone List.not_mem_nil
  | @tells d rest =>
    obtain ⟨hout, -, hpc⟩ := nextCallback_outstanding rest
    obtain ⟨hbefore, hcall⟩ := given_before hpc hk
    rcases hinv u k hbefore with hfree | ⟨hrequested, htold | hwaits⟩
    · exact .inl hfree
    · exact .inr ⟨hrequested, .inl (told_kept hcall htold)⟩
    · by_cases hd : k = d.1
      · exact .inr ⟨hrequested, .inl (told_now rfl (congrArg some hd.symm) hbefore)⟩
      · refine .inr ⟨hrequested, .inr (waits hloc hwaits fun hin => ?_)⟩
        rw [hout]
        exact (List.mem_cons.mp hin).resolve_left hd
  | @clientCancels d rest bedata q' hback =>
    obtain ⟨hbefore, hcall⟩ := given_before rfl hk
    by_cases hd : k = d.1
    · subst hd
      rcases hinv u _ hbefore with hfree | ⟨hrequested, -⟩
      · exact .inl (hback.stays hfree)
      · exact .inl (hback.back hrequested)
    · have hstate := hback.others k hd
      rcases hinv u k hbefore with hfree | ⟨hrequested, htold | hwaits⟩
      · exact .inl (hstate.trans hfree)
      · exact .inr ⟨hstate.trans hrequested, .inl (told_kept hcall htold)⟩
      · exact .inr ⟨hstate.trans hrequested, .inr (waits hloc hwaits fun hin => hin)⟩
  | @takesBack d rest q' hback =>
    obtain ⟨hout, -, hpc⟩ := nextCallback_outstanding rest
    obtain ⟨hbefore, hcall⟩ := given_before hpc hk
    by_cases hd : k = d.1
    · subst hd
      rcases hinv u _ hbefore with hfree | ⟨hrequested, -⟩
      · exact .inl (hback.stays hfree)
      · exact .inl (hback.back hrequested)
    · have hstate := hback.others k hd
      rcases hinv u k hbefore with hfree | ⟨hrequested, htold | hwaits⟩
      · exact .inl (hstate.trans hfree)
      · exact .inr ⟨hstate.trans hrequested, .inl (told_kept hcall htold)⟩
      · refine .inr ⟨hstate.trans hrequested, .inr (waits hloc hwaits fun hin => ?_)⟩
        rw [hout]
        exact (List.mem_cons.mp hin).resolve_left hd

theorem outstanding_of_idle (h : pc.isIdle = true) : pc.outstanding = [] := by
  cases pc with
  | idle reply => rfl
  | _ => cases h

theorem given_of_finished (h : HandStep s.1 pc a r) (hloc : HandOutAt t s pc)
    (hk : k ∈ (recordHandOuts t s.2 s.1 pc a r).given t) (hout : r.1.outstanding = []) :
    ∃ d, pc.outstanding = [d] ∧ r.1.isIdle = true ∧ k ∈ s.2.given t ∧ a.isCall = false ∧
      pc.ends a = true ∧ (pc.tells a = some d ∨ s.1.TakesBack d r.2) := by
  cases h with
  | @quiet pc pc' a q' hcache hsame hpc hclears hidle =>
    obtain ⟨hbefore, hcall⟩ := given_before hpc hk
    cases hpcIdle : pc.isIdle with
    | true =>
      have hnot := hcall rfl
      rw [hidle hpcIdle] at hnot
      cases hnot
    | false =>
      have hnone := hloc.finished hpcIdle (hsame.symm.trans hout)
      rw [hnone] at hbefore
      cases hbefore
  | clears _ hflag =>
    simp [recordHandOuts, Pc.clears, hflag] at hk
  | @marks reply sequence fence now mergeFd pc' q' hmarks hpc =>
    have hmarked : pc'.outstanding = [] := hout
    simp [recordHandOuts, Pc.clears, Pc.marked, Action.isCall, hmarked] at hk
  | @tells d rest =>
    obtain ⟨hrest, -, hpc⟩ := nextCallback_outstanding rest
    rw [hrest, List.map_eq_nil_iff] at hout
    subst hout
    exact ⟨d.1, rfl, rfl, (given_before hpc hk).1, rfl, rfl, .inl rfl⟩
  | clientCancels => cases hout
  | @takesBack d rest q' hback =>
    obtain ⟨hrest, -, hpc⟩ := nextCallback_outstanding rest
    rw [hrest, List.map_eq_nil_iff] at hout
    subst hout
    exact ⟨d.1, rfl, rfl, (given_before hpc hk).1, rfl, rfl, .inr hback⟩

theorem located (h : HandStep s.1 pc a r) (hlistens : r.1.listens = true)
    (hloc : HandOutAt t s pc) : HandOutAt t (r.2, recordHandOuts t s.2 s.1 pc a r) r.1 := by
  refine ⟨hlistens, fun k => ?_, fun hidle hout => ?_⟩
  · rw [mem_waiting]
    simp
  · refine List.eq_nil_iff_forall_not_mem.mpr fun k hk => ?_
    obtain ⟨d, -, hend, -⟩ := h.given_of_finished hloc hk hout
    rw [hidle] at hend
    cases hend

theorem settled_at_end (h : HandStep s.1 pc a r) (hloc : HandOutAt t s pc)
    (hinv : ∀ t, ∀ k ∈ s.2.given t, HandOutAccount.Settled t k s) (hok : Listened t s pc a)
    (hend : r.1.isIdle = true) (hk : k ∈ (recordHandOuts t s.2 s.1 pc a r).given t) :
    k ∈ (recordHandOuts t s.2 s.1 pc a r).told t ∨ r.2.stateOf k = some .released := by
  have hout := outstanding_of_idle hend
  obtain ⟨d, hpc, -, hbefore, hcall, hends, hlast⟩ := h.given_of_finished hloc hk hout
  by_cases hd : k = d
  · subst hd
    rcases hlast with htells | hback
    · exact .inl (told_now hcall htells hbefore)
    · rcases hinv t k hbefore with hfree | ⟨hrequested, -⟩
      · exact .inr (hback.stays hfree)
      · exact .inr (hback.back hrequested)
  · by_cases htold : k ∈ s.2.told t
    · exact .inl (told_kept (fun _ => hcall) htold)
    · have hnotOut : k ∉ pc.outstanding := by
        rw [hpc, List.mem_singleton]
        exact hd
      rcases h.settled hloc hinv hk with hfree | ⟨hrequested, htold' | ⟨w, hw, rfl⟩⟩
      · exact .inr hfree
      · exact .inl htold'
      · rcases mem_waiting.mp hw with ⟨hmem, hother⟩ | ⟨-, hin⟩
        · exact absurd (hok.2.2 hends w.2 hbefore hnotOut htold w hmem rfl) hother
        · rw [hout] at hin
          cases hin

end HandStep

abbrev handOutThread : Thread (BufferQueue × HandOutAccount) Pc Action :=
  Thread.observed queueThread recordHandOuts

def handOutStart (q : BufferQueue) : Machine (BufferQueue × HandOutAccount) Pc :=
  ⟨(q, ⟨fun _ => [], fun _ => [], []⟩), fun _ => .idle none⟩

theorem handOutThread_step {t : ℕ} {s : BufferQueue × HandOutAccount} {pc : Pc} {a : Action}
    {r : Pc × BufferQueue × HandOutAccount} (hinv : HandOutInv s) (hloc : HandOutAt t s pc)
    (hok : Listened t s pc a) (hr : handOutThread t s pc a = some r) :
    ∃ r', HandStep s.1 pc a r' ∧ r = (r'.1, r'.2, recordHandOuts t s.2 s.1 pc a r') ∧
      r'.1.listens = true ∧ r'.2.isAllocatingBuffer = false ∧ r'.2.Agrees := by
  obtain ⟨r', hr', rfl⟩ := Thread.observed_eq_some.mp hr
  obtain ⟨hstep, hlistens, hflag⟩ := Pc.advance_listens hinv.agrees hinv.flag hloc.listens hok.1
    hok.2.1 (queueThread_eq_some.mp hr').2.1
  exact ⟨r', hstep, rfl, hlistens, hflag,
    queueThread_agrees hinv.agrees (Pc.calm_of_listens hinv.flag hloc.listens) hr'⟩

theorem handOuts_invariant {q : BufferQueue} (hq : Reachable q) {ls : List (ℕ × Action)}
    {m : Machine (BufferQueue × HandOutAccount) Pc}
    (run : Run (TurnIf handOutThread Listened) (handOutStart q) ls m) :
    HandOutInv m.shared ∧ ∀ t, HandOutAt t m.shared (m.procs t) := by
  refine rely_guarantee HandOutInv HandOutAt ?own ?others ?inv ?loc run
  case own =>
    intro t s pc a r hinv hloc hok hr
    obtain ⟨r', hstep, rfl, hlistens, hflag, hagrees⟩ := handOutThread_step hinv hloc hok hr
    exact ⟨⟨hagrees, hflag, fun u k hk => hstep.settled hloc hinv.settled hk⟩,
      hstep.located hlistens hloc⟩
  case others =>
    intro t s pc a r u pc' _ _ _ hr hne hloc
    obtain ⟨r', -, rfl⟩ := Thread.observed_eq_some.mp hr
    refine ⟨hloc.listens, fun k => ?_, fun hidle hout => ?_⟩
    · rw [HandStep.mem_waiting, ← hloc.waiting k]
      simp [hne]
    · have hgiven := hloc.finished hidle hout
      simp [recordHandOuts, hne, hgiven]
  case inv => exact ⟨hq.agrees, hq.notAllocating, by simp [handOutStart]⟩
  case loc =>
    intro t
    exact ⟨rfl, by simp [handOutStart, Pc.outstanding], fun _ _ => rfl⟩

/-- A buffer that a release has marked for the listener is free again, or a callback has taken it,
or a release is still about to call the listener for it. When the release returns, the last of
these is no longer possible. -/
theorem no_hand_out_lost {q : BufferQueue} (hq : Reachable q) {ls : List (ℕ × Action)}
    {m : Machine (BufferQueue × HandOutAccount) Pc}
    (run : Run (TurnIf handOutThread Listened) (handOutStart q) ls m) :
    (∀ t, ∀ k ∈ m.shared.2.given t, m.shared.1.stateOf k = some .requested →
        k ∈ m.shared.2.told t ∨ ∃ w ∈ m.shared.2.waiting, w.2 = k) ∧
      ∀ t a m', TurnIf handOutThread Listened m (t, a) m' → (m'.procs t).isIdle = true →
        ∀ k ∈ m'.shared.2.given t, k ∈ m'.shared.2.told t ∨
          k ∈ m'.shared.1.freeList ∧ m'.shared.1.stateOf k = some .released := by
  obtain ⟨hinv, hloc⟩ := handOuts_invariant hq run
  refine ⟨fun t k hk hrequested => ?_, fun t a m' hturn hend k hk => ?_⟩
  · rcases hinv.settled t k hk with hfree | ⟨-, hsettled⟩
    · rw [hfree] at hrequested
      cases hrequested
    · exact hsettled
  · obtain ⟨hturn, hok⟩ := hturn
    obtain ⟨r, hr, rfl⟩ := hturn.cases
    obtain ⟨r', hstep, rfl, hlistens, hflag, hagrees⟩ := handOutThread_step hinv (hloc t) hok hr
    rw [Machine.procs_put_self] at hend
    refine (hstep.settled_at_end (hloc t) hinv.settled hok hend hk).imp_right fun hfree => ?_
    obtain ⟨e, he, hs⟩ := Option.map_eq_some_iff.mp hfree
    exact ⟨(hagrees.mem_free_iff he).mpr hs, hfree⟩

def heldWhileListening : List Op :=
  [.requestBuffer sampleConfig ⟨1, 1, true, true⟩,
    .flushBuffer ⟨1, some ∅, invalidFence, ⟨[], 0, 0⟩, ⟨.ok, 0⟩⟩, .acquireBuffer 0,
    .configure (.setConnectedPidLocked 5), .configure (.setListenerSeqAndFenceCallingPid 5),
    .configure (.registerProducerReleaseListener 1 true)]

theorem reachable_heldWhileListening :
    Reachable (execute Op.next (BufferQueue.start { listener := true }) heldWhileListening) :=
  Reachable.of_legal
    (show Legal _ _ (BufferQueue.start { listener := true }) heldWhileListening by decide)

def releaseHeld (rest : List (ℕ × Action)) : List (ℕ × Action) :=
  (0, .call (.releaseBuffer 1 none 0 0)) :: rest

theorem no_hand_out_lost_releaseHeld :
    ∃ q m, Reachable q ∧ Run (TurnIf handOutThread Listened) (handOutStart q) (releaseHeld [(0, .go)]) m ∧
      m.shared.2.waiting = [(0, 1)] ∧ ∃ m', TurnIf handOutThread Listened m
        (0, .answered (.function true)) m' ∧ m'.shared.2.given 0 = [1] ∧
          (1 ∈ m'.shared.2.told 0 ∨ 1 ∈ m'.shared.1.freeList ∧
            m'.shared.1.stateOf 1 = some .released) := by
  have legal : Legal (Machine.next handOutThread)
      (fun m l => (m.next? handOutThread l).isSome ∧ Listened l.1 m.shared (m.procs l.1) l.2)
      (handOutStart (execute Op.next (BufferQueue.start { listener := true }) heldWhileListening))
      (releaseHeld [(0, .go)]) := by
    decide
  have run : Run (TurnIf handOutThread Listened)
      (handOutStart (execute Op.next (BufferQueue.start { listener := true }) heldWhileListening))
      (releaseHeld [(0, .go)]) _ :=
    .of_legal (fun _ _ h => ⟨Turn.next h.1, h.2⟩) legal
  have hturn : TurnIf handOutThread Listened _ (0, .answered (.function true)) _ :=
    ⟨Turn.next (m := execute (Machine.next handOutThread) (handOutStart
      (execute Op.next (BufferQueue.start { listener := true }) heldWhileListening))
      (releaseHeld [(0, .go)])) (by decide), by decide⟩
  exact ⟨_, _, reachable_heldWhileListening, run, by decide, _, hturn, by decide,
    (no_hand_out_lost reachable_heldWhileListening run).2 _ _ _ hturn (by decide) 1 (by decide)⟩

/-- The listener is removed after the section that has marked the buffer: it stays requested, and
no one has been told. -/
theorem hand_out_lost :
    ¬ ∀ (q : BufferQueue) (ls : List (ℕ × Action))
      (m m' : Machine (BufferQueue × HandOutAccount) Pc) (t : ℕ) (a : Action), Reachable q →
      Run (Turn handOutThread) (handOutStart q) ls m → Turn handOutThread m (t, a) m' →
      (m'.procs t).isIdle = true → ∀ k ∈ m'.shared.2.given t, k ∈ m'.shared.2.told t ∨
        k ∈ m'.shared.1.freeList ∧ m'.shared.1.stateOf k = some .released := by
  intro h
  have legal : Legal (Machine.next handOutThread) (fun m l => (m.next? handOutThread l).isSome)
      (handOutStart (execute Op.next (BufferQueue.start { listener := true }) heldWhileListening))
      (releaseHeld [(1, .call (.configure .unRegisterProducerReleaseListener)), (1, .go)]) := by
    decide
  have run : Run (Turn handOutThread)
      (handOutStart (execute Op.next (BufferQueue.start { listener := true }) heldWhileListening))
      (releaseHeld [(1, .call (.configure .unRegisterProducerReleaseListener)), (1, .go)]) _ :=
    .of_legal (fun _ _ h => Turn.next h) legal
  have hlost := h _ _ _ _ 0 .go reachable_heldWhileListening run (Turn.next (by decide))
    (by decide) 1 (by decide)
  exact absurd hlost (by decide)

end GraphicSurface
