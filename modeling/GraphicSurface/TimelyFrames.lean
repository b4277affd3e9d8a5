import GraphicSurface.Agreement
import GraphicSurface.ConcurrencyMoves

/-! `AcquireBuffer` with a present timestamp among other threads. The section that judges the frame
at the front of `dirtyList_` and the one that takes the front are apart, with the releases of
`ReleaseDropBuffers` and their callbacks between them. -/

namespace GraphicSurface

open Interleaving Runs BufferElement

/-- The time for which a frame was flushed, unless it is an automatic one. -/
def BufferElement.presentTime (e : BufferElement) : Option Int :=
  if e.isAutoTimestamp then none else some e.desiredPresentTimestamp

/-- A frame may be shown when its time has come, or is more than a second ahead. -/
def DueBy (expect : Int) (time : Option Int) : Prop :=
  ∀ ts, time = some ts → ts ≤ expect ∨ expect + oneSecondTimestamp < ts

/-- `dropBuffers` holds what `ReleaseDropBuffers` has not released yet, and `release` the call of
`ReleaseBuffer` that is under way. `judged` tells the frames dropped by time from those dropped by
level. -/
inductive TimedPc
  | plain (pc : Pc)
  | dropping (expect : Int) (auto judged : Bool) (release : Pc) (dropBuffers : List BufferAndFence)

inductive TimedAction
  | plain (a : Action)
  | acquire (expect : Int) (auto : Bool) (now : Int)
  | release (now mergeFd : Int)
  | proceed (now : Int)

namespace BufferQueue

def startTimed (q : BufferQueue) (expect : Int) (auto : Bool) (now : Int) : TimedPc × BufferQueue :=
  if expect ≤ 0 then
    match q.acquireBuffer now with
    | (reply, q) => (.plain (.idle (some (.acquire reply))), q)
  else if q.dirtyList = [] then (.plain (.idle (some (.acquire (.error .noBuffer)))), q)
  else
    match q.dropBuffersByLevel now with
    | (dropBuffers, q) => (.dropping expect auto false (.idle none) dropBuffers, q)

def judgeTimed (q : BufferQueue) (expect : Int) (auto : Bool) : TimedPc × BufferQueue :=
  match q.acquireByTimestampSection expect auto with
  | (ret, dropBuffers, q) =>
    if ret ≠ .ok then (.plain (.idle (some (.acquire (.error ret)))), q)
    else (.dropping expect auto true (.idle none) dropBuffers, q)

def takeTimed (q : BufferQueue) (now : Int) : TimedPc × BufferQueue :=
  match q.acquireBuffer now with
  | (reply, q) => (.plain (.idle (some (.acquire reply))), q)

end BufferQueue

def TimedPc.advance (t : ℕ) (q : BufferQueue) : TimedPc → TimedAction → Option (TimedPc × BufferQueue)
  | plain pc, .plain a => (queueThread t q pc a).map fun r => (plain r.1, r.2)
  | plain (.idle _), .acquire expect auto now => some (q.startTimed expect auto now)
  | dropping expect auto judged (.idle _) (d :: dropBuffers), .release now mergeFd =>
    (queueThread t q (.idle none) (.call (.releaseBuffer d.1.seqNum d.2 now mergeFd))).map fun r =>
      (dropping expect auto judged r.1 dropBuffers, r.2)
  | dropping expect auto false (.idle _) [], .proceed _ => some (q.judgeTimed expect auto)
  | dropping _ _ true (.idle _) [], .proceed now => some (q.takeTimed now)
  | dropping _ _ _ (.idle _) _, _ => none
  | dropping expect auto judged release dropBuffers, .plain a =>
    (queueThread t q release a).map fun r => (dropping expect auto judged r.1 dropBuffers, r.2)
  | _, _ => none

def timedThread : Thread BufferQueue TimedPc TimedAction := fun t q pc a =>
  (pc.advance t q a).filter fun r => !r.2.fault

/-- What the judging sections have left at the front of the list, and the frames that have been
shown, with the times that they were expected for. -/
structure FrameWatch where
  judged : ℕ → Option (ℕ × Option Int)
  shown : List (Int × BufferElement)

def BufferQueue.frontFrame (q : BufferQueue) : Option (ℕ × Option Int) :=
  q.dirtyList.head?.bind fun k => (q.bufferQueueCache.find k).map fun e => (k, e.presentTime)

def TimedPc.shows (q' : BufferQueue) : TimedPc → TimedPc → Option (Int × BufferElement)
  | dropping expect _ true (.idle _) [], plain (.idle (some (.acquire reply))) =>
    if reply.ret = .ok then
      reply.buffer.bind fun buffer => (q'.bufferQueueCache.find buffer.seqNum).map (expect, ·)
    else none
  | _, _ => none

def TimedPc.judges : TimedPc → TimedAction → Bool
  | dropping _ _ false (.idle _) [], .proceed _ => true
  | _, _ => false

def TimedPc.takes : TimedPc → TimedAction → Bool
  | dropping _ _ true (.idle _) [], .proceed _ => true
  | _, _ => false

/-- Another thread that takes the frame away, or flushes over it, undoes the judgement. -/
def watchFrames (t : ℕ) (w : FrameWatch) (_ : BufferQueue) (pc : TimedPc) (a : TimedAction)
    (r : TimedPc × BufferQueue) : FrameWatch where
  judged u :=
    if u = t then if pc.judges a then r.2.frontFrame else w.judged t
    else (w.judged u).filter fun f => r.2.frontFrame = some f
  shown := w.shown ++ (pc.shows r.2 r.1).toList

/-- What is at the front when the last section takes it is what this call has judged. -/
def StillInFront (t : ℕ) (s : BufferQueue × FrameWatch) (pc : TimedPc) (a : TimedAction) : Prop :=
  pc.takes a = true → s.1.dirtyList = [] ∨ (s.2.judged t).isSome

instance (t : ℕ) (s : BufferQueue × FrameWatch) (pc : TimedPc) (a : TimedAction) :
    Decidable (StillInFront t s pc a) := inferInstanceAs (Decidable (_ → _))

namespace BufferQueue

variable {q q₁ q₂ : BufferQueue}

structure KeepsTimes (q q' : BufferQueue) : Prop where
  dirtyList : q'.dirtyList = q.dirtyList
  times : ∀ k e', q'.bufferQueueCache.find k = some e' →
    ∃ e, q.bufferQueueCache.find k = some e ∧ e'.presentTime = e.presentTime

namespace KeepsTimes

theorem of_cache (hdirty : q₁.dirtyList = q.dirtyList)
    (hcache : q₁.bufferQueueCache = q.bufferQueueCache) : KeepsTimes q q₁ :=
  ⟨hdirty, fun _ e he => ⟨e, hcache ▸ he, rfl⟩⟩

theorem refl : KeepsTimes q q := of_cache rfl rfl

theorem trans (h₁ : KeepsTimes q q₁) (h₂ : KeepsTimes q₁ q₂) : KeepsTimes q q₂ := by
  refine ⟨h₂.dirtyList.trans h₁.dirtyList, fun k e₂ he₂ => ?_⟩
  obtain ⟨e₁, he₁, htime₁⟩ := h₂.times k e₂ he₂
  obtain ⟨e, he, htime⟩ := h₁.times k e₁ he₁
  exact ⟨e, he, htime₁.trans htime⟩

theorem of_modify {sequence : ℕ} {f : BufferElement → BufferElement}
    (hf : ∀ e, (f e).buffer.seqNum = e.buffer.seqNum) (hdirty : q₁.dirtyList = q.dirtyList)
    (hcache : q₁.bufferQueueCache = q.bufferQueueCache.modify sequence f hf)
    (htime : ∀ e, (f e).presentTime = e.presentTime) : KeepsTimes q q₁ := by
  refine ⟨hdirty, fun k e' he' => ?_⟩
  rw [hcache, BufferCache.find_modify] at he'
  split_ifs at he'
  · obtain ⟨e, he, rfl⟩ := Option.map_eq_some_iff.mp he'
    exact ⟨e, he, htime e⟩
  · exact ⟨e', he', rfl⟩

theorem of_erase {sequence : ℕ} (hdirty : q₁.dirtyList = q.dirtyList)
    (hcache : q₁.bufferQueueCache = q.bufferQueueCache.erase sequence) : KeepsTimes q q₁ := by
  refine ⟨hdirty, fun k e' he' => ?_⟩
  rw [hcache, BufferCache.find_erase] at he'
  split_ifs at he'
  exact ⟨e', he', rfl⟩

end KeepsTimes

/-! What a release does, its requests for a listener included. -/

theorem deleteNoWait_keepsTimes (q : BufferQueue) (sequence : ℕ) :
    KeepsTimes q (q.deleteBufferInCacheNoWaitForAllocatingState sequence) := by
  unfold deleteBufferInCacheNoWaitForAllocatingState
  split
  · exact .refl
  · split <;> exact .of_erase rfl rfl

theorem markReleased_keepsTimes (q : BufferQueue) (sequence : ℕ) (lastAcquireTime : Int)
    (fence : Option SyncFence) (env : ReleaseEnv) :
    KeepsTimes q (q.markReleased sequence lastAcquireTime fence env) :=
  .of_modify (setReleased_seqNum _ _) rfl rfl fun _ => rfl

theorem releaseBufferLocked_keepsTimes (q : BufferQueue) (sequence : ℕ) (fence : Option SyncFence)
    (env : ReleaseEnv) : KeepsTimes q (q.releaseBufferLocked sequence fence env).2 := by
  unfold releaseBufferLocked
  split
  · exact .refl
  · rename_i ele _
    have hmark := q.markReleased_keepsTimes sequence ele.lastAcquireTime fence env
    split
    · exact .refl
    · dsimp only
      split
      · exact hmark.trans (deleteNoWait_keepsTimes _ sequence)
      · exact hmark.trans (.of_cache rfl rfl)

theorem updateReuse_keepsTimes (q : BufferQueue) (sequence : ℕ) :
    KeepsTimes q (q.updateReuseBufferState false sequence true).2 := by
  have hmark : KeepsTimes q ((q.markRequested sequence).addDeletingBuffersLocked []).2 :=
    .of_modify (setState_seqNum _) rfl rfl fun _ => rfl
  unfold updateReuseBufferState
  split
  · exact .of_cache rfl rfl
  · dsimp only
    split
    · exact hmark.trans (.of_modify (setState_seqNum _) rfl rfl fun _ => rfl)
    · exact hmark

theorem popFromFreeListLocked_keepsTimes (q : BufferQueue) (config : BufferRequestConfig) :
    KeepsTimes q (q.popFromFreeListLocked config).2 :=
  popFromFreeListLocked_induct q config (fun _ => .of_cache rfl rfl) (.of_cache rfl rfl)
    fun _ _ => .of_modify (recolour_seqNum _ _) rfl rfl fun _ => rfl

theorem requestBufferBody_keepsTimes (q : BufferQueue) (config : BufferRequestConfig) :
    KeepsTimes q (q.requestBufferBody config true).2 := by
  have hpop := q.popFromFreeListLocked_keepsTimes config
  unfold requestBufferBody
  simp only [Bool.or_true, if_true]
  split
  · rename_i buffer q₁ h
    rw [h] at hpop
    unfold reuseBuffer
    split
    · exact hpop
    · split
      · exact hpop.trans (updateReuse_keepsTimes q₁ _)
      · exact hpop.trans (.of_cache rfl rfl)
  · rename_i q₁ h
    rw [h] at hpop
    exact hpop

theorem requestForListener_keepsTimes (q : BufferQueue) (config : BufferRequestConfig) :
    KeepsTimes q (q.requestBufferLocked config noAllocation true).2 := by
  unfold requestBufferLocked
  split
  · exact .refl
  · rename_i updateConfig _
    obtain ⟨reply, hdone⟩ := requestBufferBody_listener_done q updateConfig
    have hsplit : q.requestBufferBody updateConfig true =
        (.reached (.done reply), (q.requestBufferBody updateConfig true).2) := Prod.ext hdone rfl
    rw [hsplit]
    exact q.requestBufferBody_keepsTimes updateConfig

theorem setRequestedFromListener_keepsTimes (q : BufferQueue) (sequence : ℕ) :
    KeepsTimes q (q.setRequestedFromListener sequence) :=
  .of_modify (setRequestedFromListener_seqNum _) rfl rfl fun _ => rfl

theorem handOut_keepsTimes (q : BufferQueue) (fuel : ℕ) (configs : List BufferRequestConfig) :
    KeepsTimes q (q.handOut fuel configs).2 := by
  induction fuel generalizing q configs with
  | zero => exact .refl
  | succ fuel ih =>
    cases configs with
    | nil => exact .refl
    | cons config configs =>
      have hone := q.requestForListener_keepsTimes config
      unfold handOut
      dsimp only
      split
      · exact (hone.trans (setRequestedFromListener_keepsTimes _ _)).trans (ih _ (config :: configs))
      · exact hone.trans (ih _ configs)

theorem cancelBufferLocked_keepsTimes (q : BufferQueue) (sequence : ℕ) (bedata : Option ExtraData) :
    KeepsTimes q (q.cancelBufferLocked sequence bedata).2 := by
  unfold cancelBufferLocked
  split
  · exact .refl
  · split
    · exact .refl
    · exact .of_modify (setCancelled_seqNum bedata) rfl rfl fun _ => rfl

theorem takeBack_keepsTimes (q : BufferQueue) (sequence : ℕ) : KeepsTimes q (q.takeBack sequence) := by
  unfold takeBack
  split
  · exact .refl
  · exact cancelBufferLocked_keepsTimes q sequence _

end BufferQueue

/-- Where a thread stands in a call of `ReleaseBuffer`. -/
def Pc.releasing : Pc → Bool
  | idle _ | releaseDelete _ | handOutWait _ _ | releaseCallback _ | callback _ | clientCancel _ _
    | takeBack _ => true
  | _ => false

def Releases (q : BufferQueue) (r : Pc × BufferQueue) : Prop :=
  r.1.releasing = true ∧ q.KeepsTimes r.2

namespace BufferQueue

variable {q : BufferQueue}

theorem handOutSection_releases (q : BufferQueue) : Releases q q.handOutSection := by
  unfold handOutSection
  dsimp only
  split
  · split <;> exact ⟨rfl, .refl⟩
  · exact ⟨rfl, q.handOut_keepsTimes _ _⟩

theorem afterRelease_releases (q : BufferQueue) : Releases q q.afterRelease := by
  unfold afterRelease
  split
  · exact q.handOutSection_releases
  · exact ⟨rfl, .refl⟩

theorem handOutResume_releases (q : BufferQueue) (updateConfig : BufferRequestConfig)
    (configs : List BufferRequestConfig) : Releases q (q.handOutResume updateConfig configs) := by
  have hkeeps := q.requestBufferBody_keepsTimes updateConfig
  obtain ⟨reply, hdone⟩ := requestBufferBody_listener_done q updateConfig
  have hsplit : q.requestBufferBody updateConfig true =
      (.reached (.done reply), (q.requestBufferBody updateConfig true).2) := Prod.ext hdone rfl
  unfold handOutResume
  rw [hsplit]
  dsimp only
  split
  · exact ⟨rfl, (hkeeps.trans (setRequestedFromListener_keepsTimes _ _)).trans
      (handOut_keepsTimes _ _ _)⟩
  · exact ⟨rfl, hkeeps.trans (handOut_keepsTimes _ _ _)⟩

theorem releaseSection_releases (q : BufferQueue) (sequence : ℕ) (fence : Option SyncFence)
    (now mergeFd : Int) : Releases q (q.releaseSection sequence fence now mergeFd) := by
  have hlocked := q.releaseBufferLocked_keepsTimes sequence fence ⟨now, mergeFd, fun _ => true⟩
  unfold releaseSection
  dsimp only
  split
  · split
    · exact ⟨rfl, q.markReleased_keepsTimes sequence _ fence _⟩
    · split
      · exact ⟨rfl, hlocked⟩
      · obtain ⟨hpc, hkeeps⟩ :=
          (q.releaseBufferLocked sequence fence ⟨now, mergeFd, fun _ => true⟩).2.afterRelease_releases
        exact ⟨hpc, hlocked.trans hkeeps⟩
  · exact ⟨rfl, .refl⟩

theorem nextCallback_releases (handed : List (ℕ × Option SyncFence)) :
    (nextCallback handed).releasing = true := by
  unfold nextCallback
  split <;> rfl

end BufferQueue

open BufferQueue in
theorem Pc.advance_releases {q : BufferQueue} {pc : Pc} {a : Action} {r : Pc × BufferQueue}
    (hpc : pc.releasing = true) (hbusy : ∀ reply, pc ≠ .idle reply) (h : pc.advance q a = some r) :
    Releases q r := by
  cases pc with
  | idle reply => exact absurd rfl (hbusy reply)
  | releaseDelete sequence =>
    cases a with
    | go =>
      simp only [advance] at h
      split at h
      · cases h
      · obtain rfl := Option.some.inj h
        obtain ⟨hafter, hkeeps⟩ :=
          (q.deleteBufferInCacheNoWaitForAllocatingState sequence).afterRelease_releases
        exact ⟨hafter, (q.deleteNoWait_keepsTimes sequence).trans hkeeps⟩
    | _ => cases h
  | handOutWait updateConfig configs =>
    cases a with
    | go =>
      simp only [advance] at h
      split at h
      · cases h
      · obtain rfl := Option.some.inj h
        exact q.handOutResume_releases updateConfig configs
    | _ => cases h
  | releaseCallback handed =>
    cases a with
    | go =>
      obtain rfl := Option.some.inj h
      refine ⟨?_, .refl⟩
      dsimp only
      split
      · exact nextCallback_releases handed
      · rfl
    | _ => cases h
  | callback handed =>
    cases a with
    | answered path =>
      cases path with
      | notCached =>
        obtain rfl := Option.some.inj h
        exact ⟨rfl, .refl⟩
      | function ok =>
        obtain rfl := Option.some.inj h
        refine ⟨?_, .refl⟩
        cases ok with
        | true => exact nextCallback_releases handed.tail
        | false => rfl
      | noFunction bedata =>
        obtain rfl := Option.some.inj h
        exact ⟨rfl, .refl⟩
    | _ => cases h
  | clientCancel bedata handed =>
    cases a with
    | go =>
      cases handed with
      | nil => cases h
      | cons d rest =>
        obtain rfl := Option.some.inj h
        refine ⟨rfl, ?_⟩
        dsimp only
        split
        · exact q.cancelBufferLocked_keepsTimes d.1 bedata
        · exact .refl
    | _ => cases h
  | takeBack handed =>
    cases a with
    | go =>
      cases handed with
      | nil => cases h
      | cons d rest =>
        obtain rfl := Option.some.inj h
        exact ⟨nextCallback_releases rest, q.takeBack_keepsTimes d.1⟩
    | _ => cases h
  | _ => cases hpc

/-- The frame is at the front, and has the time that it was judged by. -/
def BufferQueue.HasFront (q : BufferQueue) (f : ℕ × Option Int) : Prop :=
  q.dirtyList.head? = some f.1 ∧
    ∀ e, q.bufferQueueCache.find f.1 = some e → e.presentTime = f.2

namespace BufferQueue

variable {q q' : BufferQueue} {f : ℕ × Option Int} {expect : Int} {auto : Bool} {now : Int}

theorem KeepsTimes.hasFront (h : KeepsTimes q q') (hfront : q.HasFront f) : q'.HasFront f := by
  refine ⟨h.dirtyList ▸ hfront.1, fun e' he' => ?_⟩
  obtain ⟨e, he, htime⟩ := h.times f.1 e' he'
  exact htime.trans (hfront.2 e he)

theorem hasFront_of_frontFrame (h : q.frontFrame = some f) : q.HasFront f := by
  obtain ⟨k, hk, hframe⟩ := Option.bind_eq_some_iff.mp h
  obtain ⟨e, he, rfl⟩ := Option.map_eq_some_iff.mp hframe
  refine ⟨hk, fun e' he' => ?_⟩
  rw [he, Option.some.injEq] at he'
  rw [he']

theorem timely_of_ready {e : BufferElement} (hready : (!e.isAutoTimestamp &&
    !isPresentTimestampReady e.desiredPresentTimestamp expect) = false) :
    DueBy expect e.presentTime := by
  intro ts hts
  unfold presentTime at hts
  split_ifs at hts with hauto
  obtain rfl := Option.some.inj hts
  rw [Bool.not_eq_true] at hauto
  simp only [hauto, isPresentTimestampReady, Bool.not_false, Bool.true_and, Bool.not_eq_false',
    Bool.or_eq_true, decide_eq_true_eq] at hready
  omega

theorem acquireByTimestampSection_ready (hok : (q.acquireByTimestampSection expect auto).1 = .ok) :
    ∃ e, (q.acquireByTimestampSection expect auto).2.2.dirtyList.head?.bind
        (q.acquireByTimestampSection expect auto).2.2.bufferQueueCache.find = some e ∧
      (!e.isAutoTimestamp &&
        !isPresentTimestampReady e.desiredPresentTimestamp expect) = false := by
  obtain ⟨r, hr⟩ : ∃ r, q.acquireByTimestampSection expect auto = r := ⟨_, rfl⟩
  rw [hr] at hok ⊢
  unfold acquireByTimestampSection at hr
  split at hr
  · exact absurd hok (by rw [← hr]; exact nofun)
  · split at hr
    · exact absurd hok (by rw [← hr]; exact nofun)
    · split at hr
      · exact absurd hok (by rw [← hr]; exact nofun)
      · dsimp only at hr
        split at hr
        · exact absurd hok (by rw [← hr]; exact nofun)
        · rename_i e hhead
          split at hr
          · exact absurd hok (by rw [← hr]; exact nofun)
          · rename_i hready
            rw [← hr]
            exact ⟨e, hhead, Bool.eq_false_iff.mpr hready⟩

theorem judgeTimed_cases (q : BufferQueue) (expect : Int) (auto : Bool) :
    (∃ reply, (q.judgeTimed expect auto).1 = .plain (.idle reply)) ∨
      ∃ dropBuffers, (q.judgeTimed expect auto).1 =
          .dropping expect auto true (.idle none) dropBuffers ∧
        ∀ f, (q.judgeTimed expect auto).2.frontFrame = some f → DueBy expect f.2 := by
  unfold judgeTimed
  dsimp only
  split
  · exact .inl ⟨_, rfl⟩
  · rename_i hok
    rw [not_not] at hok
    refine .inr ⟨_, rfl, fun f hf => ?_⟩
    obtain ⟨e, he, hready⟩ := acquireByTimestampSection_ready hok
    obtain ⟨k, hk, hframe⟩ := Option.bind_eq_some_iff.mp hf
    obtain ⟨e', he', rfl⟩ := Option.map_eq_some_iff.mp hframe
    have hhead : (q.acquireByTimestampSection expect auto).2.2.dirtyList.head? = some k := hk
    have hfind : (q.acquireByTimestampSection expect auto).2.2.bufferQueueCache.find k = some e' := he'
    rw [hhead, Option.bind_some, hfind, Option.some.injEq] at he
    exact timely_of_ready (he ▸ hready)

theorem takeTimed_shows {reply : Option Reply} {p : Int × BufferElement}
    (h : (TimedPc.dropping expect auto true (.idle reply) []).shows (q.takeTimed now).2
      (q.takeTimed now).1 = some p) :
    ∃ k e, q.dirtyList.head? = some k ∧ q.bufferQueueCache.find k = some e ∧
      p = (expect, e.setAcquired now) := by
  unfold takeTimed acquireBuffer popFromDirtyListLocked at h
  cases hdirty : q.dirtyList with
  | nil => simp [hdirty, TimedPc.shows, AcquireReply.error] at h
  | cons k rest =>
    cases he : q.bufferQueueCache.find k with
    | none => simp [hdirty, he, TimedPc.shows, AcquireReply.error] at h
    | some e =>
      refine ⟨k, e, rfl, he, ?_⟩
      simp [hdirty, he, TimedPc.shows, markAcquired, BufferCache.seqNum_of_find he] at h
      exact h.symm

end BufferQueue

/-- What a thread may rely on: the frame that it has judged may be shown, and is at the front as
long as no one has taken it. -/
def TimedPc.Sound (t : ℕ) (s : BufferQueue × FrameWatch) : TimedPc → Prop
  | dropping expect _ judged release _ => release.releasing = true ∧
      (judged = true → ∀ f, s.2.judged t = some f → DueBy expect f.2 ∧ s.1.HasFront f)
  | plain _ => True

/-- The steps of a call, by what they do to the pending frames. -/
inductive TimedStep (q : BufferQueue) : TimedPc → TimedAction → TimedPc × BufferQueue → Prop
  | plain {pc pc' : Pc} {a : Action} {q' : BufferQueue} :
      TimedStep q (.plain pc) (.plain a) (.plain pc', q')
  | start {reply : Option Reply} {expect : Int} {auto : Bool} {now : Int} :
      TimedStep q (.plain (.idle reply)) (.acquire expect auto now) (q.startTimed expect auto now)
  | releases {expect : Int} {auto judged : Bool} {release release' : Pc}
      {dropBuffers left : List BufferAndFence} {a : TimedAction} {q' : BufferQueue}
      (hreleases : Releases q (release', q')) (ha : ∀ now, a ≠ .proceed now) :
      TimedStep q (.dropping expect auto judged release dropBuffers) a
        (.dropping expect auto judged release' left, q')
  | judge {expect : Int} {auto : Bool} {reply : Option Reply} {now : Int} :
      TimedStep q (.dropping expect auto false (.idle reply) []) (.proceed now)
        (q.judgeTimed expect auto)
  | take {expect : Int} {auto : Bool} {reply : Option Reply} {now : Int} :
      TimedStep q (.dropping expect auto true (.idle reply) []) (.proceed now) (q.takeTimed now)

theorem timedThread_step {t : ℕ} {s : BufferQueue × FrameWatch} {pc : TimedPc} {a : TimedAction}
    {r : TimedPc × BufferQueue} (hpc : pc.Sound t s) (h : timedThread t s.1 pc a = some r) :
    TimedStep s.1 pc a r := by
  have hadvance : pc.advance t s.1 a = some r := (Option.filter_eq_some_iff.mp h).1
  have hsection {pc' : Pc} {a' : Action} {r' : Pc × BufferQueue}
      (hr' : queueThread t s.1 pc' a' = some r') : pc'.advance s.1 a' = some r' :=
    (queueThread_eq_some.mp hr').2.1
  cases pc with
  | plain pc =>
    cases a with
    | plain a =>
      obtain ⟨r', -, rfl⟩ := Option.map_eq_some_iff.mp hadvance
      exact .plain
    | acquire expect auto now =>
      cases pc with
      | idle reply =>
        obtain rfl := Option.some.inj hadvance
        exact .start
      | _ => cases hadvance
    | _ => cases hadvance
  | dropping expect auto judged release dropBuffers =>
    by_cases hidle : ∃ reply, release = .idle reply
    · obtain ⟨reply, rfl⟩ := hidle
      cases a with
      | release now mergeFd =>
        cases dropBuffers with
        | nil => cases judged <;> cases hadvance
        | cons d dropBuffers =>
          obtain ⟨r', hr', rfl⟩ := Option.map_eq_some_iff.mp hadvance
          obtain rfl := Option.some.inj (hsection hr')
          exact .releases (s.1.releaseSection_releases _ _ now mergeFd) nofun
      | proceed now =>
        cases dropBuffers with
        | nil =>
          cases judged with
          | false =>
            obtain rfl := Option.some.inj hadvance
            exact .judge
          | true =>
            obtain rfl := Option.some.inj hadvance
            exact .take
        | cons d dropBuffers => cases judged <;> cases hadvance
      | _ => cases judged <;> cases dropBuffers <;> cases hadvance
    · have hbusy : ∀ reply, release ≠ .idle reply := fun reply heq => hidle ⟨reply, heq⟩
      cases a with
      | plain a =>
        have hinner : (queueThread t s.1 release a).map (fun r =>
            (TimedPc.dropping expect auto judged r.1 dropBuffers, r.2)) = some r := by
          cases release with
          | idle reply => exact absurd rfl (hbusy reply)
          | _ => exact hadvance
        obtain ⟨r', hr', rfl⟩ := Option.map_eq_some_iff.mp hinner
        exact .releases (Pc.advance_releases hpc.1 hbusy (hsection hr')) nofun
      | _ =>
        cases release with
        | idle reply => exact absurd rfl (hbusy reply)
        | _ => cases hadvance

namespace TimedStep

variable {t : ℕ} {s : BufferQueue × FrameWatch} {pc : TimedPc} {a : TimedAction}
  {r : TimedPc × BufferQueue}

theorem shows_timely (h : TimedStep s.1 pc a r) (hpc : pc.Sound t s) (hok : StillInFront t s pc a)
    {p : Int × BufferElement} (hp : pc.shows r.2 r.1 = some p) : DueBy p.1 p.2.presentTime := by
  cases h with
  | @take _ _ _ now =>
    obtain ⟨k, e, hfront, he, rfl⟩ := BufferQueue.takeTimed_shows hp
    have hpending : s.1.dirtyList ≠ [] := by
      intro hnone
      rw [hnone] at hfront
      cases hfront
    obtain ⟨f, hf⟩ := Option.isSome_iff_exists.mp ((hok rfl).resolve_left hpending)
    obtain ⟨htimely, hhead, htime⟩ := hpc.2 rfl f hf
    obtain rfl : k = f.1 := Option.some.inj (hfront.symm.trans hhead)
    have hsame : (e.setAcquired now).presentTime = f.2 := htime e he
    rw [hsame]
    exact htimely
  | releases =>
    unfold TimedPc.shows at hp
    split at hp
    · contradiction
    · cases hp
  | plain | start | judge => cases hp

theorem sound (h : TimedStep s.1 pc a r) (hpc : pc.Sound t s) :
    r.1.Sound t (r.2, watchFrames t s.2 s.1 pc a r) := by
  cases h with
  | plain => trivial
  | @start _ expect auto now =>
    unfold BufferQueue.startTimed
    split_ifs
    · trivial
    · trivial
    · exact ⟨rfl, nofun⟩
  | @releases _ _ judged release release' dropBuffers left a q' hreleases ha =>
    refine ⟨hreleases.1, fun hjudged f hf => ?_⟩
    subst hjudged
    have hkept : s.2.judged t = some f := by
      simpa [watchFrames, TimedPc.judges] using hf
    obtain ⟨htimely, hfront⟩ := hpc.2 rfl f hkept
    exact ⟨htimely, hreleases.2.hasFront hfront⟩
  | @judge expect auto reply now =>
    rcases s.1.judgeTimed_cases expect auto with ⟨reply, hreply⟩ | ⟨dropBuffers, hdrop, htimely⟩
    · rw [hreply]
      trivial
    · rw [hdrop]
      refine ⟨rfl, fun _ f hf => ?_⟩
      have hfront : (s.1.judgeTimed expect auto).2.frontFrame = some f := by
        simpa [watchFrames, TimedPc.judges] using hf
      exact ⟨htimely f hfront, BufferQueue.hasFront_of_frontFrame hfront⟩
  | take => trivial

end TimedStep

theorem TimedPc.Sound.others {t u : ℕ} {s : BufferQueue × FrameWatch} {pc pc' : TimedPc}
    {a : TimedAction} {r : TimedPc × BufferQueue} (hne : u ≠ t) (h : pc'.Sound u s) :
    pc'.Sound u (r.2, watchFrames t s.2 s.1 pc a r) := by
  cases pc' with
  | plain => trivial
  | dropping expect auto judged release dropBuffers =>
    refine ⟨h.1, fun hjudged f hf => ?_⟩
    have hkept : (s.2.judged u).filter (fun f => r.2.frontFrame = some f) = some f := by
      simpa [watchFrames, hne] using hf
    obtain ⟨hf', hfront⟩ := Option.filter_eq_some_iff.mp hkept
    exact ⟨(h.2 hjudged f hf').1, BufferQueue.hasFront_of_frontFrame (of_decide_eq_true hfront)⟩

def timedStart (s : QueueSettings) : Machine (BufferQueue × FrameWatch) TimedPc :=
  ⟨(BufferQueue.start s, ⟨fun _ => none, []⟩), fun _ => .plain (.idle none)⟩

/-- As long as every acquire takes the frame that it has judged, no frame is shown before its
time. -/
theorem frames_shown_in_time {s : QueueSettings} {ls : List (ℕ × TimedAction)}
    {m : Machine (BufferQueue × FrameWatch) TimedPc}
    (run : Run (TurnIf (Thread.observed timedThread watchFrames) StillInFront) (timedStart s) ls m) :
    ∀ p ∈ m.shared.2.shown, p.2.isAutoTimestamp = false →
      p.2.desiredPresentTimestamp ≤ p.1 ∨ p.1 + oneSecondTimestamp < p.2.desiredPresentTimestamp := by
  have hsound := rely_guarantee
    (fun s : BufferQueue × FrameWatch => ∀ p ∈ s.2.shown, DueBy p.1 p.2.presentTime)
    (fun t s pc => pc.Sound t s) ?own ?others (by simp [timedStart]) (fun _ => trivial) run
  · intro p hp hfixed
    exact hsound.1 p hp _ (by simp [presentTime, hfixed])
  case own =>
    intro t s pc a r hshown hpc hok hr
    obtain ⟨r', hr', rfl⟩ := Thread.observed_eq_some.mp hr
    have hstep := timedThread_step hpc hr'
    refine ⟨fun p hp => ?_, hstep.sound hpc⟩
    rcases List.mem_append.mp hp with hp | hp
    · exact hshown p hp
    · exact hstep.shows_timely hpc hok (Option.mem_toList.mp hp)
  case others =>
    intro t s pc a r u pc' _ _ _ hr hne hpc'
    obtain ⟨r', -, rfl⟩ := Thread.observed_eq_some.mp hr
    exact hpc'.others hne

/-- A frame that is due and one that is not, before `acquires`. -/
def oneDueOneLater (acquires : List (ℕ × TimedAction)) : List (ℕ × TimedAction) :=
  [(0, .plain (.call (.requestBuffer sampleConfig))), (0, .plain (.allocated ⟨1, 1, true, true⟩)),
    (0, .plain (.call (.requestBuffer sampleConfig))), (0, .plain (.allocated ⟨2, 2, true, true⟩)),
    (0, .plain (.call (.flushBuffer ⟨1, some ∅, invalidFence, ⟨[], 0, 5⟩, ⟨.ok, 0⟩⟩))),
    (0, .plain .go), (0, .plain .go), (0, .plain .go),
    (0, .plain (.call (.flushBuffer ⟨2, some ∅, invalidFence, ⟨[], 0, 20⟩, ⟨.ok, 0⟩⟩))),
    (0, .plain .go), (0, .plain .go), (0, .plain .go)] ++ acquires

/-- The one that is due is shown. -/
theorem frames_shown_in_time_oneDue :
    ∃ m, Run (TurnIf (Thread.observed timedThread watchFrames) StillInFront)
        (timedStart { listener := true })
        (oneDueOneLater [(1, .acquire 10 false 0), (1, .proceed 0), (1, .proceed 0)]) m ∧
      m.shared.2.shown.map (fun p => (p.1, p.2.desiredPresentTimestamp)) = [(10, 5)] ∧
      ∀ p ∈ m.shared.2.shown, p.2.isAutoTimestamp = false →
        p.2.desiredPresentTimestamp ≤ p.1 ∨
          p.1 + oneSecondTimestamp < p.2.desiredPresentTimestamp := by
  have legal : Legal (Machine.next (Thread.observed timedThread watchFrames))
      (fun m l => (m.next? (Thread.observed timedThread watchFrames) l).isSome ∧
        StillInFront l.1 m.shared (m.procs l.1) l.2)
      (timedStart { listener := true })
      (oneDueOneLater [(1, .acquire 10 false 0), (1, .proceed 0), (1, .proceed 0)]) := by
    decide
  have run : Run (TurnIf (Thread.observed timedThread watchFrames) StillInFront)
      (timedStart { listener := true })
      (oneDueOneLater [(1, .acquire 10 false 0), (1, .proceed 0), (1, .proceed 0)]) _ :=
    .of_legal (fun _ _ h => ⟨Turn.next h.1, h.2⟩) legal
  exact ⟨_, run, by decide, frames_shown_in_time run⟩

/-- Another thread takes it in between, and the one that is not due is shown. -/
theorem frame_shown_too_early :
    ¬ ∀ (s : QueueSettings) (ls : List (ℕ × TimedAction))
      (m : Machine (BufferQueue × FrameWatch) TimedPc),
      Run (Turn (Thread.observed timedThread watchFrames)) (timedStart s) ls m →
      ∀ p ∈ m.shared.2.shown, p.2.isAutoTimestamp = false →
        p.2.desiredPresentTimestamp ≤ p.1 ∨
          p.1 + oneSecondTimestamp < p.2.desiredPresentTimestamp := by
  intro h
  have legal : Legal (Machine.next (Thread.observed timedThread watchFrames))
      (fun m l => (m.next? (Thread.observed timedThread watchFrames) l).isSome)
      (timedStart { listener := true })
      (oneDueOneLater [(1, .acquire 10 false 0), (1, .proceed 0),
        (2, .plain (.call (.acquireBuffer 0))), (1, .proceed 0)]) := by
    decide
  have hshown := h _ _ _ (.of_legal (fun _ _ h => Turn.next h) legal)
  exact absurd hshown (by decide)

end GraphicSurface
