import GraphicSurface.Availability
import GraphicSurface.ConsumerSurface
import GraphicSurface.DelegatedFlush
import GraphicSurface.FailedFlush
import GraphicSurface.ListenerHandOuts

/-! Whatever a run has done, every buffer of a queue can be brought home: the consumer acquires
what is pending, then each holder gives back what it holds. Every one of these calls succeeds, and
afterwards a producer is served at once. No buffer is ever stuck in a state that nobody can end. -/

namespace GraphicSurface

open Runs SlotPool

def BufferState.returnOp (sequence : ℕ) (env : ReleaseEnv) : BufferState → Option Op
  | .requested => some (.cancelBuffer sequence (some ∅))
  | .acquired | .attached => some (.releaseBuffer sequence none env)
  | .released | .flushed => none

namespace BufferQueue

def takeOps (q : BufferQueue) (now : Int) : List Op := q.dirtyList.map fun _ => .acquireBuffer now

def returnOp (q : BufferQueue) (env : ℕ → ReleaseEnv) (k : ℕ) : Option Op :=
  (q.stateOf k).bind (BufferState.returnOp k (env k))

def returnOps (q : BufferQueue) (env : ℕ → ReleaseEnv) : List Op :=
  q.bufferQueueCache.keys.filterMap (q.returnOp env)

def unlockOps (q : BufferQueue) : List Op :=
  if q.acquireLastFlushedBufSequence = invalidSequence then []
  else [.releaseLastFlushedBuffer q.acquireLastFlushedBufSequence]

/-- The consumer takes every pending frame, everything that is out comes back, and the lock on the
last flushed buffer is given up. -/
def recoverOps (q : BufferQueue) (now : Int) (env : ℕ → ReleaseEnv) : List Op :=
  q.takeOps now ++ (execute Op.next q (q.takeOps now)).returnOps env ++ q.unlockOps

end BufferQueue

def Reply.ret : Reply → GSError
  | code ret => ret
  | request reply => reply.ret
  | requests ret _ => ret
  | acquire reply => reply.ret
  | cleaned _ => .ok

def Op.Answered (q : BufferQueue) (op : Op) : Prop :=
  QueueStep q op (op.next q) ∧ (op.run q).1.ret = .ok

namespace BufferQueue

/-- Nothing is pending, nothing is out and nothing is locked. -/
structure AtHome (q : BufferQueue) : Prop where
  dirtyList : q.dirtyList = []
  released : ∀ k e, q.bufferQueueCache.find k = some e → e.state = .released
  freeList : ∀ k, k ∈ q.freeList ↔ (q.bufferQueueCache.find k).isSome
  unlocked : q.acquireLastFlushedBufSequence = invalidSequence

variable {q q' : BufferQueue} {k : ℕ} {e : BufferElement} {ks : List ℕ}

/-- The frames `ks` at the front have been acquired. -/
structure TakesAll (q : BufferQueue) (ks : List ℕ) (now : Int) (q' : BufferQueue) : Prop where
  frame : Frame [] q q'
  dirtyList : q.dirtyList = ks ++ q'.dirtyList
  find : ∀ k, q'.bufferQueueCache.find k =
    if k ∈ ks then (q.bufferQueueCache.find k).map (BufferElement.setAcquired now)
    else q.bufferQueueCache.find k

theorem takes_nil (q : BufferQueue) (now : Int) : q.TakesAll [] now q :=
  ⟨.refl, rfl, by simp⟩

theorem acquireBuffer_takesFront (h : q.Agrees) (now : Int) {front : ℕ} {rest : List ℕ}
    (hdirty : q.dirtyList = front :: rest) :
    (q.acquireBuffer now).1.ret = .ok ∧ q.TakesAll [front] now (q.acquireBuffer now).2 := by
  obtain ⟨e, he, -⟩ := h.state_of_mem_dirty (k := front) (by simp [hdirty])
  have hframe := acquireBuffer_frame q now
  rw [acquireBuffer_of_front hdirty he] at hframe ⊢
  refine ⟨rfl, hframe, hdirty, fun k => ?_⟩
  by_cases hk : k = front
  · subst hk
    simp [markAcquired, he]
  · simp [markAcquired, hk, Ne.symm hk]

theorem TakesAll.cons {q₁ q₂ : BufferQueue} {front : ℕ} {now : Int}
    (h₁ : q.TakesAll [front] now q₁) (h₂ : q₁.TakesAll ks now q₂) (hnew : front ∉ ks) : q.TakesAll (front :: ks) now q₂ := by
  refine ⟨h₁.frame.trans h₂.frame, ?_, fun k => ?_⟩
  · rw [h₁.dirtyList, h₂.dirtyList]
    rfl
  · rw [h₂.find, h₁.find]
    by_cases hk : k = front
    · subst hk
      simp [hnew]
    · simp [hk]

theorem answered_of_ok {op : Op} (h : q.Agrees) (hfault : q.fault = false) (hfresh : op.Fresh q)
    (hdata : op.HasExtraData) (hok : (op.run q).1.ret = .ok) : op.Answered q :=
  ⟨.of_hasExtraData h hfault hfresh hdata, hok⟩

theorem takeOps_answered (h : q.Agrees) (hfault : q.fault = false) (now : Int) :
    Legal Op.next (fun q op => op.Answered q) q (q.takeOps now) ∧
      q.TakesAll q.dirtyList now (execute Op.next q (q.takeOps now)) := by
  obtain ⟨ks, hks⟩ : ∃ ks, q.dirtyList = ks := ⟨_, rfl⟩
  unfold takeOps
  rw [hks]
  induction ks generalizing q with
  | nil => exact ⟨trivial, takes_nil q now⟩
  | cons front rest ih =>
    obtain ⟨hok, htakes⟩ := acquireBuffer_takesFront h now hks
    have hanswered : (Op.acquireBuffer now).Answered q :=
      answered_of_ok h hfault trivial trivial hok
    have hagrees : (q.acquireBuffer now).2.Agrees := (hanswered.1.refines h).agrees h
    have hrest : (q.acquireBuffer now).2.dirtyList = rest := by
      have hsplit := htakes.dirtyList
      rw [hks] at hsplit
      exact (List.cons.inj hsplit).2.symm
    have hnew : front ∉ rest := (List.nodup_cons.mp (hks ▸ h.pending_nodup)).1
    obtain ⟨hlegal, hall⟩ := ih hagrees hanswered.1.2.2 hrest
    exact ⟨⟨hanswered, hlegal⟩, htakes.cons hall hnew⟩

/-- The holders of the buffers `ks` have given them back; one that a shrink has condemned may be
gone. -/
structure Returned (q : BufferQueue) (ks : List ℕ) (q' : BufferQueue) : Prop where
  frame : Frame [] q q'
  dirtyList : q'.dirtyList = q.dirtyList
  home : ∀ k ∈ ks, ∀ e, q'.bufferQueueCache.find k = some e → e.state = .released
  kept : ∀ k e, q.bufferQueueCache.find k = some e → e.isDeleting = false →
    (q'.bufferQueueCache.find k).isSome
  others : ∀ k, k ∉ ks → q'.bufferQueueCache.find k = q.bufferQueueCache.find k

theorem returned_nil (q : BufferQueue) : q.Returned [] q :=
  ⟨.refl, rfl, by simp, fun k e he _ => by simp [he], fun _ _ => rfl⟩

theorem Returned.cons {q₁ q₂ : BufferQueue} (h₁ : q.Returned [k] q₁) (h₂ : q₁.Returned ks q₂)
    (hnew : k ∉ ks) : q.Returned (k :: ks) q₂ := by
  have hlast : q₂.bufferQueueCache.find k = q₁.bufferQueueCache.find k := h₂.others k hnew
  refine ⟨h₁.frame.trans h₂.frame, h₂.dirtyList.trans h₁.dirtyList, ?_, ?_, ?_⟩
  · intro j hj e he
    rcases List.mem_cons.mp hj with rfl | hj
    · exact h₁.home j (by simp) e (hlast ▸ he)
    · exact h₂.home j hj e he
  · intro j e he hspared
    by_cases hj : j = k
    · subst hj
      rw [hlast]
      exact h₁.kept j e he hspared
    · have hsame : q₁.bufferQueueCache.find j = some e := (h₁.others j (by simpa using hj)).trans he
      exact h₂.kept j e hsame hspared
  · intro j hj
    rw [List.mem_cons, not_or] at hj
    rw [h₂.others j hj.2, h₁.others j (by simpa using hj.1)]

theorem cancelBufferLocked_returned (he : q.bufferQueueCache.find k = some e)
    (hs : e.state = .requested) (bedata : Option ExtraData) :
    (q.cancelBufferLocked k bedata).1 = .ok ∧
      q.Returned [k] (q.cancelBufferLocked k bedata).2 := by
  have hframe := cancelBufferLocked_frame q k bedata
  have hcancel : q.cancelBufferLocked k bedata = (.ok,
      { q with
        freeList := q.freeList ++ [k]
        bufferQueueCache := q.bufferQueueCache.modify k
          (BufferElement.setCancelled bedata) (BufferElement.setCancelled_seqNum bedata) }) := by
    simp [cancelBufferLocked, he, hs]
  rw [hcancel] at hframe ⊢
  refine ⟨rfl, hframe, rfl, ?_, ?_, ?_⟩
  · intro j hj e' he'
    rw [List.mem_singleton] at hj
    subst hj
    simp only [BufferCache.find_modify, he, Option.map_some, if_true, Option.some.injEq] at he'
    rw [← he']
    rfl
  · intro j e' he' _
    by_cases hj : k = j <;> simp [hj, he']
  · intro j hj
    have hne : k ≠ j := fun heq => hj (by simp [heq])
    simp [hne]

theorem releaseBuffer_of_inactive (hactive : q.listenerSeqAndFenceActive = false)
    (fence : Option SyncFence) (env : ReleaseEnv) :
    q.releaseBuffer k fence env = q.releaseBufferLocked k fence env := by
  have hafter : (q.releaseBufferLocked k fence env).2.listenerSeqAndFenceActive = false :=
    (listenerSeqAndFenceActive_congr (releaseBufferLocked_frame q k fence env).settings).trans
      hactive
  have hsection : q.releaseBufferSection k fence env =
      ((q.releaseBufferLocked k fence env).1, [], (q.releaseBufferLocked k fence env).2) := by
    unfold releaseBufferSection
    dsimp only
    rw [hafter]
    split <;> rfl
  unfold releaseBuffer
  rw [hsection]
  dsimp only
  split <;> rfl

theorem releaseBufferLocked_returned (he : q.bufferQueueCache.find k = some e)
    (hs : e.state = .acquired ∨ e.state = .attached) (fence : Option SyncFence)
    (env : ReleaseEnv) :
    (q.releaseBufferLocked k fence env).1 = .ok ∧
      q.Returned [k] (q.releaseBufferLocked k fence env).2 := by
  have hframe := releaseBufferLocked_frame q k fence env
  have hheld : ¬(e.state ≠ .acquired ∧ e.state ≠ .attached) := by
    rcases hs with hs | hs <;> simp [hs]
  set marked := q.markReleased k e.lastAcquireTime fence env
  have hmarked (j : ℕ) (hj : k ≠ j) :
      marked.bufferQueueCache.find j = q.bufferQueueCache.find j := by
    simp [marked, markReleased, hj]
  cases hdeleting : e.isDeleting with
  | true =>
    have hrelease : q.releaseBufferLocked k fence env =
        (.ok, marked.deleteBufferInCacheNoWaitForAllocatingState k) := by
      simp [releaseBufferLocked, he, hheld, hdeleting, marked]
    rw [hrelease] at hframe ⊢
    refine ⟨rfl, hframe, ?_, ?_, ?_, ?_⟩
    · unfold deleteBufferInCacheNoWaitForAllocatingState
      split
      · rfl
      · split <;> rfl
    · intro j hj e' he'
      rw [List.mem_singleton] at hj
      rw [hj, find_deleteNoWait, if_pos rfl] at he'
      cases he'
    · intro j e' he' hspared
      have hj : k ≠ j := by
        rintro rfl
        rw [he, Option.some.injEq] at he'
        rw [← he', hdeleting] at hspared
        cases hspared
      rw [find_deleteNoWait, if_neg hj, hmarked j hj, he']
      rfl
    · intro j hj
      have hne : k ≠ j := fun heq => hj (by simp [heq])
      rw [find_deleteNoWait, if_neg hne, hmarked j hne]
  | false =>
    have hrelease : q.releaseBufferLocked k fence env =
        (.ok, { marked with freeList := marked.freeList ++ [k] }) := by
      simp [releaseBufferLocked, he, hheld, hdeleting, marked]
    rw [hrelease] at hframe ⊢
    refine ⟨rfl, hframe, rfl, ?_, ?_, ?_⟩
    · intro j hj e' he'
      rw [List.mem_singleton] at hj
      subst hj
      simp only [marked, markReleased, BufferCache.find_modify, he, Option.map_some, if_true,
        Option.some.injEq] at he'
      rw [← he']
      rfl
    · intro j e' he' _
      by_cases hj : k = j
      · subst hj
        simp [marked, markReleased, he]
      · show (marked.bufferQueueCache.find j).isSome
        rw [hmarked j hj, he']
        rfl
    · intro j hj
      exact hmarked j fun heq => hj (by simp [heq])

theorem returnOp_answered (h : q.Agrees) (hfault : q.fault = false)
    (hactive : q.listenerSeqAndFenceActive = false) {op : Op} {env : ℕ → ReleaseEnv}
    (hop : q.returnOp env k = some op) : op.Answered q ∧ q.Returned [k] (op.next q) := by
  obtain ⟨s, hstate, hreturn⟩ := Option.bind_eq_some_iff.mp hop
  obtain ⟨e, he, rfl⟩ := Option.map_eq_some_iff.mp hstate
  cases hs : e.state with
  | released => simp [hs, BufferState.returnOp] at hreturn
  | flushed => simp [hs, BufferState.returnOp] at hreturn
  | requested =>
    obtain rfl : Op.cancelBuffer k (some ∅) = op := by
      simpa [hs, BufferState.returnOp] using hreturn
    obtain ⟨hok, hreturned⟩ := cancelBufferLocked_returned he hs (some ∅)
    exact ⟨answered_of_ok h hfault trivial trivial hok, hreturned⟩
  | acquired | attached =>
    obtain rfl : Op.releaseBuffer k none (env k) = op := by
      simpa [hs, BufferState.returnOp] using hreturn
    have hheld : e.state = .acquired ∨ e.state = .attached := by simp [hs]
    obtain ⟨hok, hreturned⟩ := releaseBufferLocked_returned he hheld none (env k)
    rw [← releaseBuffer_of_inactive hactive] at hok hreturned
    exact ⟨answered_of_ok h hfault trivial trivial hok, hreturned⟩

theorem returnOps_answered (h : q.Agrees) (hfault : q.fault = false)
    (hactive : q.listenerSeqAndFenceActive = false) (env : ℕ → ReleaseEnv) (hnodup : ks.Nodup) :
    Legal Op.next (fun q op => op.Answered q) q (ks.filterMap (q.returnOp env)) ∧
      ∃ js, (∀ k, k ∈ js ↔ k ∈ ks ∧ (q.returnOp env k).isSome) ∧
        q.Returned js (execute Op.next q (ks.filterMap (q.returnOp env))) := by
  induction ks generalizing q with
  | nil => exact ⟨trivial, [], by simp, returned_nil q⟩
  | cons k ks ih =>
    obtain ⟨hnew, hnodup⟩ := List.nodup_cons.mp hnodup
    cases hop : q.returnOp env k with
    | none =>
      obtain ⟨hlegal, js, hjs, hreturned⟩ := ih h hfault hactive hnodup
      rw [List.filterMap_cons_none hop]
      refine ⟨hlegal, js, fun j => ?_, hreturned⟩
      rw [hjs, List.mem_cons]
      constructor
      · rintro ⟨hj, hout⟩
        exact ⟨.inr hj, hout⟩
      · rintro ⟨rfl | hj, hout⟩
        · rw [hop] at hout
          cases hout
        · exact ⟨hj, hout⟩
    | some op =>
      obtain ⟨hanswered, hone⟩ := returnOp_answered h hfault hactive hop
      have hsame (j : ℕ) (hj : j ∈ ks) : (op.next q).returnOp env j = q.returnOp env j := by
        have hne : j ∉ [k] := fun heq => hnew (List.mem_singleton.mp heq ▸ hj)
        simp only [returnOp, stateOf, hone.others j hne]
      obtain ⟨hlegal, js, hjs, hreturned⟩ := ih ((hanswered.1.refines h).agrees h)
        hanswered.1.2.2 ((listenerSeqAndFenceActive_congr hone.frame.settings).trans hactive) hnodup
      rw [List.filterMap_congr hsame] at hlegal hreturned
      rw [List.filterMap_cons_some hop]
      refine ⟨⟨hanswered, hlegal⟩, k :: js, fun j => ?_, hone.cons hreturned ?_⟩
      · rw [List.mem_cons, List.mem_cons, hjs]
        constructor
        · rintro (rfl | ⟨hj, hout⟩)
          · exact ⟨.inl rfl, by rw [hop]; rfl⟩
          · exact ⟨.inr hj, by rwa [hsame j hj] at hout⟩
        · rintro ⟨rfl | hj, hout⟩
          · exact .inl rfl
          · exact .inr ⟨hj, by rwa [hsame j hj]⟩
      · intro hmem
        exact hnew ((hjs k).mp hmem).1

theorem returnOp_isSome {env : ℕ → ReleaseEnv}
    (he : q.bufferQueueCache.find k = some e) (hs : e.state ≠ .released)
    (hpending : e.state ≠ .flushed) : (q.returnOp env k).isSome := by
  cases hstate : e.state <;>
    simp_all [returnOp, stateOf, BufferState.returnOp]

theorem unlockOps_answered (h : q.Agrees) (hfault : q.fault = false) :
    Legal Op.next (fun q op => op.Answered q) q q.unlockOps ∧
      execute Op.next q q.unlockOps =
        { q with acquireLastFlushedBufSequence := invalidSequence } := by
  unfold unlockOps
  split
  · rename_i hunlocked
    refine ⟨trivial, ?_⟩
    rw [← hunlocked]
    rfl
  · rename_i hlocked
    have hrelease : q.releaseLastFlushedBuffer q.acquireLastFlushedBufSequence =
        (.ok, { q with acquireLastFlushedBufSequence := invalidSequence }) := by
      simp [releaseLastFlushedBuffer, hlocked]
    have hok :
        ((Op.releaseLastFlushedBuffer q.acquireLastFlushedBufSequence).run q).1.ret = .ok := by
      simp only [Op.run, hrelease]
      rfl
    refine ⟨⟨answered_of_ok h hfault trivial trivial hok, trivial⟩, ?_⟩
    simp only [execute, Op.next, Op.run, hrelease]
    rfl

theorem returned_home {q₁ q₂ : BufferQueue} (h : q.Agrees) {now : Int} {env : ℕ → ReleaseEnv}
    {js : List ℕ} (htakes : q.TakesAll q.dirtyList now q₁)
    (hjs : ∀ k, k ∈ js ↔ k ∈ q₁.bufferQueueCache.keys ∧ (q₁.returnOp env k).isSome)
    (hreturned : q₁.Returned js q₂) :
    ∀ k e, q₂.bufferQueueCache.find k = some e → e.state = .released := by
  intro k e he
  by_cases hk : k ∈ js
  · exact hreturned.home k hk e he
  rw [hreturned.others k hk] at he
  have hkey : k ∈ q₁.bufferQueueCache.keys := by simp [he]
  by_contra hs
  refine hk ((hjs k).mpr ⟨hkey, returnOp_isSome he hs fun hpending => ?_⟩)
  rw [htakes.find] at he
  split at he
  · obtain ⟨e', -, rfl⟩ := Option.map_eq_some_iff.mp he
    cases hpending
  · rename_i hdirty
    exact hdirty ((h.mem_dirty_iff he).mpr hpending)

theorem AtHome.canServe (hhome : q.AtHome)
    (hvalid : q.bufferQueueCache.find invalidSequence = none)
    (hroom : 0 < q.unreservedSize ∨ ∃ k, (q.bufferQueueCache.find k).isSome) :
    q.canServe = true := by
  have hcached (k : ℕ) (hk : (q.bufferQueueCache.find k).isSome) : q.canServe = true := by
    refine canServe_of_free ((hhome.freeList k).mpr hk) ?_
    rw [hhome.unlocked]
    rintro rfl
    rw [hvalid] at hk
    cases hk
  rcases hroom with hsize | ⟨k, hk⟩
  · by_cases hused : q.getUsedSize < q.unreservedSize
    · simp [BufferQueue.canServe, hused]
    · have hlen : 0 < q.bufferQueueCache.keys.length := by
        rw [BufferCache.length_keys]
        exact hsize.trans_le (not_lt.mp hused)
      obtain ⟨k, hk⟩ := List.exists_mem_of_length_pos hlen
      exact hcached k ((BufferCache.mem_keys _ k).mp hk)
  · exact hcached k hk

/-- What a whole return leaves of the queue that it starts from. -/
structure Recovered (q q' : BufferQueue) : Prop extends q'.AtHome where
  settings : q'.toQueueSettings =
    { q.toQueueSettings with acquireLastFlushedBufSequence := invalidSequence }
  reserve : q'.detachReserveSlotNum = q.detachReserveSlotNum
  kept : ∀ k e, q.bufferQueueCache.find k = some e → e.isDeleting = false →
    (q'.bufferQueueCache.find k).isSome
  absent : ∀ k, q.bufferQueueCache.find k = none → q'.bufferQueueCache.find k = none

theorem recovered_of_parts {q₁ q₂ : BufferQueue} (h : q.Agrees) (h₂ : q₂.Agrees) {now : Int}
    {env : ℕ → ReleaseEnv} {js : List ℕ} (htakes : q.TakesAll q.dirtyList now q₁)
    (hjs : ∀ k, k ∈ js ↔ k ∈ q₁.bufferQueueCache.keys ∧ (q₁.returnOp env k).isSome)
    (hreturned : q₁.Returned js q₂) :
    q.Recovered { q₂ with acquireLastFlushedBufSequence := invalidSequence } := by
  have hframe := htakes.frame.trans hreturned.frame
  have hreleased := returned_home h htakes hjs hreturned
  have hdirty₁ : q₁.dirtyList = [] := by simpa using htakes.dirtyList
  refine ⟨⟨hreturned.dirtyList.trans hdirty₁, hreleased, fun k => ?_, rfl⟩, ?_, hframe.reserve,
    fun k e he hspared => ?_, fun k hk => ?_⟩
  · constructor
    · intro hk
      obtain ⟨e, he, -⟩ := h₂.state_of_mem_free hk
      exact Option.isSome_iff_exists.mpr ⟨e, he⟩
    · intro hk
      obtain ⟨e, he⟩ := Option.isSome_iff_exists.mp hk
      exact (h₂.mem_free_iff he).mpr (hreleased k e he)
  · rw [← hframe.settings]
  · have he₁ : ∃ e₁, q₁.bufferQueueCache.find k = some e₁ ∧ e₁.isDeleting = false := by
      rw [htakes.find, he]
      split
      · exact ⟨_, rfl, hspared⟩
      · exact ⟨_, rfl, hspared⟩
    obtain ⟨e₁, he₁, hspared₁⟩ := he₁
    exact hreturned.kept k e₁ he₁ hspared₁
  · have hnone : q₁.bufferQueueCache.find k = none := by
      rw [htakes.find, hk]
      simp
    have hout : k ∉ js := fun hmem => by
      have hkey := ((hjs k).mp hmem).1
      rw [BufferCache.mem_keys, hnone] at hkey
      cases hkey
    exact (hreturned.others k hout).trans hnone

theorem recoverOps_answered (h : q.Agrees) (hfault : q.fault = false)
    (hactive : q.listenerSeqAndFenceActive = false) (now : Int) (env : ℕ → ReleaseEnv) :
    Legal Op.next (fun q op => op.Answered q) q (q.recoverOps now env) ∧
      q.Recovered (execute Op.next q (q.recoverOps now env)) := by
  have hkeep (p : BufferQueue) (op : Op) (hp : p.Agrees ∧ p.fault = false) (hop : op.Answered p) :
      (op.next p).Agrees ∧ (op.next p).fault = false :=
    ⟨(hop.1.refines hp.1).agrees hp.1, hop.1.2.2⟩
  obtain ⟨hlegal₁, htakes⟩ := takeOps_answered h hfault now
  have hgood₁ := legal_invariant hkeep ⟨h, hfault⟩ hlegal₁
  rw [recoverOps, List.append_assoc, execute_append, execute_append]
  generalize hq₁ : execute Op.next q (q.takeOps now) = q₁ at *
  have hactive₁ := (listenerSeqAndFenceActive_congr htakes.frame.settings).trans hactive
  obtain ⟨hlegal₂, js, hjs, hreturned⟩ := returnOps_answered hgood₁.1 hgood₁.2 hactive₁ env
    q₁.bufferQueueCache.keys_nodup
  have hgood₂ := legal_invariant hkeep hgood₁ hlegal₂
  generalize hq₂ : execute Op.next q₁ (q₁.bufferQueueCache.keys.filterMap (q₁.returnOp env)) = q₂
    at *
  obtain ⟨hlegal₃, hq₃⟩ := unlockOps_answered hgood₂.1 hgood₂.2
  have hunlock : q₂.unlockOps = q.unlockOps := by
    simp only [unlockOps, (htakes.frame.trans hreturned.frame).settings]
  rw [hunlock] at hlegal₃ hq₃
  constructor
  · refine hlegal₁.append ?_
    rw [hq₁]
    refine hlegal₂.append ?_
    rw [hq₂]
    exact hlegal₃
  · rw [returnOps, hq₂, hq₃]
    exact recovered_of_parts h hgood₂.1 htakes hjs hreturned

def scattered : List Op :=
  [.configure .registerConsumerListener, .requestBuffer sampleConfig ⟨1, 1, true, true⟩,
    .requestBuffer sampleConfig ⟨2, 2, true, true⟩, .requestBuffer sampleConfig ⟨3, 3, true, true⟩,
    .flushBuffer ⟨2, some ∅, invalidFence, ⟨[], 0, 0⟩, ⟨.ok, 0⟩⟩, .acquireBuffer 0,
    .flushBuffer ⟨3, some ∅, invalidFence, ⟨[], 0, 0⟩, ⟨.ok, 0⟩⟩]

end BufferQueue

end GraphicSurface
