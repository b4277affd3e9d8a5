import GraphicSurface.Attributes
import GraphicSurface.BlockedRequests

/-! What a critical section takes out of `bufferQueueCache_`, told from the state before it. Most
sections keep every entry. The others are listed by `takesOut`: the clears, the deletions of one
buffer, those of `DeleteBuffersLocked`, and the requests that cannot use the buffer they chose. -/

namespace GraphicSurface

open BufferElement

def KeepsCached (q q' : BufferQueue) : Prop :=
  ∀ k, (q'.bufferQueueCache.find k).map (·.config) = (q.bufferQueueCache.find k).map (·.config)

/-- Of the cached numbers exactly those of `out` go. New ones may come. -/
def Erases (out : ℕ → Prop) (q q' : BufferQueue) : Prop :=
  ∀ k, (q.bufferQueueCache.find k).isSome → (q'.bufferQueueCache.find k = none ↔ out k)

namespace KeepsCached

variable {q q₁ q₂ : BufferQueue} {k : ℕ}

theorem of_cache (h : q₁.bufferQueueCache = q.bufferQueueCache) : KeepsCached q q₁ :=
  fun k => by rw [h]

theorem refl : KeepsCached q q := of_cache rfl

theorem trans (h₁ : KeepsCached q q₁) (h₂ : KeepsCached q₁ q₂) : KeepsCached q q₂ :=
  fun k => (h₂ k).trans (h₁ k)

theorem of_modify {f : BufferElement → BufferElement}
    (hseq : ∀ e, (f e).buffer.seqNum = e.buffer.seqNum) (hf : ∀ e, (f e).config = e.config)
    (h : q₁.bufferQueueCache = q.bufferQueueCache.modify k f hseq) : KeepsCached q q₁ := by
  intro j
  rw [h, BufferCache.find_modify]
  split_ifs
  · rw [Option.map_map]
    exact congrArg (Option.map · _) (funext hf)
  · rfl

theorem find_eq_none (h : KeepsCached q q₁) :
    q₁.bufferQueueCache.find k = none ↔ q.bufferQueueCache.find k = none := by
  rw [← Option.map_eq_none_iff (f := (·.config)), h k, Option.map_eq_none_iff]

theorem isSome (h : KeepsCached q q₁) (hk : (q.bufferQueueCache.find k).isSome) :
    (q₁.bufferQueueCache.find k).isSome := by
  rw [Option.isSome_iff_ne_none, ne_eq] at hk ⊢
  rwa [h.find_eq_none]

theorem erases (h : KeepsCached q q₁) : Erases (fun _ => False) q q₁ :=
  fun k hk => iff_false_intro fun hnone => by simp [h.find_eq_none.mp hnone] at hk

end KeepsCached

namespace Erases

variable {out out' : ℕ → Prop} {q q₁ q₂ : BufferQueue} {sequence : ℕ}

theorem congr (h : Erases out q q₁)
    (hout : ∀ k, (q.bufferQueueCache.find k).isSome → (out k ↔ out' k)) : Erases out' q q₁ :=
  fun k hk => (h k hk).trans (hout k hk)

theorem after (h₁ : KeepsCached q q₁) (h₂ : Erases out q₁ q₂) : Erases out q q₂ :=
  fun k hk => h₂ k (h₁.isSome hk)

theorem before (h₁ : Erases out q q₁) (h₂ : KeepsCached q₁ q₂) : Erases out q q₂ :=
  fun k hk => h₂.find_eq_none.trans (h₁ k hk)

theorem of_erase (h : ∀ k, q₁.bufferQueueCache.find k =
      if sequence = k then none else q.bufferQueueCache.find k) : Erases (· = sequence) q q₁ := by
  intro k hk
  rw [h]
  by_cases hsame : sequence = k
  · simp [hsame]
  · simp [hsame, Ne.symm hsame, Option.isSome_iff_ne_none.mp hk]

theorem of_isSome (h : ∀ k, (q.bufferQueueCache.find k).isSome →
    (q₁.bufferQueueCache.find k).isSome) : Erases (fun _ => False) q q₁ :=
  fun k hk => iff_false_intro (Option.isSome_iff_ne_none.mp (h k hk))

theorem of_members {l : List ℕ} (h : ∀ k, q₁.bufferQueueCache.find k =
      if k ∈ l then none else q.bufferQueueCache.find k) : Erases (· ∈ l) q q₁ := by
  intro k hk
  change _ ↔ k ∈ l
  rw [h]
  by_cases hin : k ∈ l <;> simp [hin, Option.isSome_iff_ne_none.mp hk]

theorem put (h : Erases out q q₁) {e : BufferElement}
    (habsent : q.bufferQueueCache.find e.buffer.seqNum = none)
    (hcache : q₂.bufferQueueCache = q₁.bufferQueueCache.put e) : Erases out q q₂ := by
  intro k hk
  have hother : e.buffer.seqNum ≠ k := by
    rintro rfl
    simp [habsent] at hk
  rw [hcache, BufferCache.find_put, if_neg hother]
  exact h k hk

end Erases

namespace BufferQueue

variable {q : BufferQueue} {sequence k : ℕ}

theorem popFromFreeListLocked_keeps (q : BufferQueue) (config : BufferRequestConfig) :
    KeepsCached q (q.popFromFreeListLocked config).2 :=
  popFromFreeListLocked_induct q config (fun _ => .of_cache rfl) (.of_cache rfl)
    fun _ _ => .of_modify (recolour_seqNum _ _) (fun _ => rfl) rfl

theorem popFromFreeListLocked_unchanged {config : BufferRequestConfig}
    (h : (q.popFromFreeListLocked config).1 = none) :
    (q.popFromFreeListLocked config).2 = q ∨
      (q.popFromFreeListLocked config).2 = { q with fault := true } := by
  unfold popFromFreeListLocked popFrontFree at h ⊢
  cases hfind : q.freeList.find? (q.reusable config) with
  | some sequence =>
    have hreusable := List.find?_some hfind
    unfold reusable at hreusable
    cases he : q.bufferQueueCache.find sequence with
    | none => simp [he] at hreusable
    | some e => simp [hfind, he] at h
  | none =>
    rw [hfind] at h
    dsimp only at h ⊢
    split_ifs at h ⊢
    · exact .inl rfl
    · cases hfree : q.rotateLocked with
      | nil => exact .inl rfl
      | cons front rest =>
        cases he : q.bufferQueueCache.find front with
        | none => exact .inr (by simp only [he])
        | some e => simp [hfree, he] at h

theorem popFromDirtyListLocked_keeps (q : BufferQueue) :
    KeepsCached q q.popFromDirtyListLocked.2 :=
  popFromDirtyListLocked_induct q (fun _ => .of_cache rfl) (.of_cache rfl)

theorem updateReuseBufferState_keeps (q : BufferQueue) (needRealloc : Bool) (sequence : ℕ)
    (listener : Bool) :
    KeepsCached q (q.updateReuseBufferState needRealloc sequence listener).2 := by
  have hdrain : KeepsCached q ((q.markRequested sequence).addDeletingBuffersLocked []).2 :=
    .of_modify (setState_seqNum _) (fun _ => rfl) rfl
  unfold updateReuseBufferState
  split
  · exact .of_cache rfl
  · dsimp only
    split
    · split
      · exact hdrain.trans (.of_modify (setState_seqNum _) (fun _ => rfl) rfl)
      · exact hdrain.trans (.of_modify setDelivered_seqNum (fun _ => rfl) rfl)
    · exact hdrain

theorem cancelBufferLocked_keeps (q : BufferQueue) (sequence : ℕ) (bedata : Option ExtraData) :
    KeepsCached q (q.cancelBufferLocked sequence bedata).2 := by
  unfold cancelBufferLocked
  split
  · exact .refl
  · split
    · exact .refl
    · exact .of_modify (setCancelled_seqNum bedata) (fun _ => rfl) rfl

theorem takeBack_keeps (q : BufferQueue) (sequence : ℕ) : KeepsCached q (q.takeBack sequence) := by
  unfold takeBack
  split
  · exact .refl
  · exact cancelBufferLocked_keeps q sequence _

theorem attachBufferUpdateStatus_keeps (q : BufferQueue) (sequence : ℕ) (state : BufferState) :
    KeepsCached q (q.attachBufferUpdateStatus sequence state).2 := by
  unfold attachBufferUpdateStatus
  split
  · exact .of_modify (setState_seqNum _) (fun _ => rfl) rfl
  · exact .refl

theorem acquireBuffer_keeps (q : BufferQueue) (now : Int) :
    KeepsCached q (q.acquireBuffer now).2 :=
  acquireBuffer_induct (popFromDirtyListLocked_keeps q) (fun _ h => h.trans (.of_cache rfl))
    fun _ _ h => h.trans (.of_modify (setAcquired_seqNum now) (fun _ => rfl) rfl)

theorem markDeleting_keeps (q : BufferQueue) (l : List ℕ) : KeepsCached q (q.markDeleting l) :=
  markDeleting_induct .refl
    (fun _ _ h => h.trans (.of_modify setDeleting_seqNum (fun _ => rfl) rfl)) l

/-! A request for the listener takes a free buffer as it is, or none. -/

theorem requestBufferBody_listener (q : BufferQueue) (config : BufferRequestConfig) :
    ∃ reply, (q.requestBufferBody config true).1 = .reached (.done reply) ∧
      KeepsCached q (q.requestBufferBody config true).2 := by
  have hpop : KeepsCached q (q.popFromFreeListLocked config).2 := popFromFreeListLocked_keeps q config
  unfold requestBufferBody
  simp only [Bool.or_true, if_true]
  split
  · rename_i buffer q₁ h
    rw [h] at hpop
    unfold reuseBuffer
    split
    · exact ⟨_, rfl, hpop⟩
    · split
      · exact ⟨_, rfl, hpop.trans (updateReuseBufferState_keeps q₁ false buffer.seqNum true)⟩
      · exact ⟨_, rfl, hpop.trans (.of_cache rfl)⟩
  · rename_i q₁ h
    rw [h] at hpop
    exact ⟨_, rfl, hpop⟩

theorem requestBufferLocked_listener_keeps (q : BufferQueue) (config : BufferRequestConfig)
    (a : Allocation) : KeepsCached q (q.requestBufferLocked config a true).2 := by
  unfold requestBufferLocked
  split
  · exact .refl
  · rename_i updateConfig _
    obtain ⟨reply, hreply, hkeeps⟩ := requestBufferBody_listener q updateConfig
    split
    · rename_i point q₁ h
      rw [h] at hreply hkeeps
      obtain rfl : point = .done reply := by simpa using hreply
      exact hkeeps
    · rename_i config' q₁ h
      rw [h] at hreply
      cases hreply

theorem setRequestedFromListener_keeps (q : BufferQueue) (sequence : ℕ) :
    KeepsCached q (q.setRequestedFromListener sequence) :=
  .of_modify (setRequestedFromListener_seqNum _) (fun _ => rfl) rfl

theorem handOut_keeps (q : BufferQueue) (fuel : ℕ) (configs : List BufferRequestConfig) :
    KeepsCached q (q.handOut fuel configs).2 := by
  induction fuel generalizing q configs with
  | zero => exact .refl
  | succ fuel ih =>
    cases configs with
    | nil => exact .refl
    | cons config configs =>
      have hrequest : KeepsCached q (q.requestBufferLocked config noAllocation true).2 :=
        requestBufferLocked_listener_keeps q config noAllocation
      unfold handOut
      dsimp only
      split
      · exact (hrequest.trans (setRequestedFromListener_keeps _ _)).trans (ih _ _)
      · exact hrequest.trans (ih _ _)

theorem handOutSection_keeps (q : BufferQueue) : KeepsCached q q.handOutSection.2 := by
  unfold handOutSection
  dsimp only
  split
  · split <;> exact .refl
  · exact handOut_keeps q _ _

theorem handOutResume_keeps (q : BufferQueue) (updateConfig : BufferRequestConfig)
    (configs : List BufferRequestConfig) :
    KeepsCached q (q.handOutResume updateConfig configs).2 := by
  obtain ⟨reply, hreply, hkeeps⟩ := requestBufferBody_listener q updateConfig
  unfold handOutResume
  dsimp only
  split
  · rename_i reply' q₁ h
    rw [h] at hkeeps
    split
    · exact (hkeeps.trans (setRequestedFromListener_keeps _ _)).trans (handOut_keeps _ _ _)
    · exact hkeeps.trans (handOut_keeps _ _ _)
  · rename_i point q₁ h
    rw [h] at hkeeps
    exact hkeeps

theorem afterRelease_keeps (q : BufferQueue) : KeepsCached q q.afterRelease.2 := by
  unfold afterRelease
  split
  · exact handOutSection_keeps q
  · exact .refl

theorem deleteNoWait_erases (q : BufferQueue) (sequence : ℕ) :
    Erases (· = sequence) q (q.deleteBufferInCacheNoWaitForAllocatingState sequence) :=
  .of_erase fun k => find_deleteNoWait q sequence k

theorem eraseForRS_erases (q : BufferQueue) (sequence : ℕ) :
    Erases (· = sequence) q (q.eraseForRS sequence) :=
  .of_erase fun k => BufferCache.find_erase q.bufferQueueCache sequence k

theorem detachForConsumer_erases (q : BufferQueue) (sequence : ℕ) (isReserveSlot : Bool) :
    Erases (· = sequence) q (q.detachForConsumer sequence isReserveSlot) := by
  unfold detachForConsumer
  split
  · exact (deleteNoWait_erases q sequence).before (.of_cache rfl)
  · exact deleteNoWait_erases q sequence

theorem detachBufferFromQueueLocked_erases (q : BufferQueue) (sequence : ℕ)
    (invokerType : InvokerType) (isReserveSlot : Bool) :
    Erases (fun k => k = sequence ∧ q.detachBufferCheck sequence invokerType = .ok) q
      (q.detachBufferFromQueueLocked sequence invokerType isReserveSlot).2 := by
  unfold detachBufferFromQueueLocked
  by_cases hcheck : q.detachBufferCheck sequence invokerType = .ok
  · rw [if_neg (not_not.mpr hcheck)]
    cases invokerType with
    | producerInvoker => exact (eraseForRS_erases q sequence).congr fun k _ => by simp [hcheck]
    | consumerInvoker =>
      exact (detachForConsumer_erases q sequence isReserveSlot).congr fun k _ => by simp [hcheck]
  · rw [if_pos hcheck]
    exact KeepsCached.refl.erases.congr fun k _ => by simp [hcheck]

def condemned (q : BufferQueue) (sequence : ℕ) : Bool :=
  (q.bufferQueueCache.find sequence).any (·.isDeleting)

theorem doFlushBufferLocked_erases (q : BufferQueue) (sequence : ℕ) (bedata : Option ExtraData)
    (fence : SyncFence) (config : BufferFlushConfigWithDamages) (env : FlushEnv) :
    Erases (fun k => k = sequence ∧ q.condemned sequence = true) q
      (q.doFlushBufferLocked sequence bedata fence config env).2 := by
  unfold doFlushBufferLocked condemned
  cases he : q.bufferQueueCache.find sequence with
  | none => exact KeepsCached.refl.erases.congr fun k _ => by simp
  | some e =>
    dsimp only
    by_cases hdeleting : e.isDeleting = true
    · rw [if_pos hdeleting]
      exact (deleteNoWait_erases q sequence).congr fun k _ => by simp [hdeleting]
    · rw [if_neg hdeleting]
      have hkeeps : Erases (fun k => k = sequence ∧ (some e).any (·.isDeleting) = true) q q :=
        KeepsCached.refl.erases.congr fun k _ => by simp [hdeleting]
      cases bedata with
      | none => exact hkeeps.before (.of_cache rfl)
      | some bedata =>
        have hprepare : KeepsCached q (q.prepareFlush sequence bedata) :=
          .of_modify (setPrepared_seqNum _ _ _) (fun _ => rfl) rfl
        dsimp only
        split
        · exact hkeeps.before hprepare
        · refine hkeeps.before (hprepare.trans (.of_modify (setFlushed_seqNum _ _ _) (fun e => ?_) rfl))
          unfold setFlushed setDesiredPresentTimestampAndUiTimestamp
          split_ifs <;> rfl

def deletesReleased (q : BufferQueue) (sequence : ℕ) : Bool :=
  (q.bufferQueueCache.find sequence).any fun e =>
    e.isDeleting && (e.state == .acquired || e.state == .attached)

theorem markReleased_keeps (q : BufferQueue) (sequence : ℕ) (lastAcquireTime : Int)
    (fence : Option SyncFence) (env : ReleaseEnv) :
    KeepsCached q (q.markReleased sequence lastAcquireTime fence env) :=
  .of_modify (setReleased_seqNum _ _) (fun _ => rfl) rfl

theorem releaseBufferLocked_erases (q : BufferQueue) (sequence : ℕ) (fence : Option SyncFence)
    (env : ReleaseEnv) :
    Erases (fun k => k = sequence ∧ q.deletesReleased sequence = true) q
      (q.releaseBufferLocked sequence fence env).2 := by
  unfold releaseBufferLocked deletesReleased
  cases he : q.bufferQueueCache.find sequence with
  | none => exact KeepsCached.refl.erases.congr fun k _ => by simp
  | some e =>
    dsimp only
    have hmark := markReleased_keeps q sequence e.lastAcquireTime fence env
    split
    · rename_i hstate
      exact KeepsCached.refl.erases.congr fun k _ => by simp [hstate]
    · rename_i hstate
      have hheld : e.state = .acquired ∨ e.state = .attached := by
        by_contra hnone
        exact hstate (not_or.mp hnone)
      split
      · rename_i hdeleting
        exact (Erases.after hmark (deleteNoWait_erases _ sequence)).congr fun k _ => by
          simp [hdeleting, hheld]
      · rename_i hdeleting
        exact (hmark.trans (.of_cache rfl)).erases.congr fun k _ => by simp [hdeleting]

theorem detachBuffer_erases (q : BufferQueue) (sequence : ℕ) :
    Erases (fun k => k = sequence ∧ (q.bufferQueueCache.find sequence).any
      (fun e => e.state == .requested || e.state == .acquired) = true) q (q.detachBuffer sequence).2 := by
  unfold detachBuffer
  cases he : q.bufferQueueCache.find sequence with
  | none => exact KeepsCached.refl.erases.congr fun k _ => by simp
  | some e =>
    dsimp only
    split
    · rename_i hstate
      exact (eraseForRS_erases q sequence).congr fun k _ => by simp [hstate]
    · rename_i hstate
      exact KeepsCached.refl.erases.congr fun k _ => by simp [hstate]

/-- The numbers that the first loop of `DeleteBuffersLocked` takes from the free list. Without a
number that is in the list twice they are its first `count` ones. -/
def freeFronts (q : BufferQueue) : ℕ → List ℕ
  | 0 => []
  | count + 1 =>
    match q.freeList with
    | [] => []
    | sequence :: _ => sequence :: (q.deleteFreeFront sequence).freeFronts count

def dirtyFronts (q : BufferQueue) : ℕ → List ℕ
  | 0 => []
  | count + 1 =>
    match q.dirtyList with
    | [] => []
    | sequence :: rest => sequence :: (q.deleteDirtyFront sequence rest).dirtyFronts count

def deletedBuffers (q : BufferQueue) (count : ℕ) : List ℕ :=
  q.freeFronts count ++ (q.deleteFree count).2.dirtyFronts (q.deleteFree count).1

theorem deleteFree_cache (q : BufferQueue) (count k : ℕ) :
    (q.deleteFree count).2.bufferQueueCache.find k =
      if k ∈ q.freeFronts count then none else q.bufferQueueCache.find k := by
  induction count generalizing q with
  | zero => simp [deleteFree, freeFronts]
  | succ count ih =>
    unfold deleteFree freeFronts
    cases hfree : q.freeList with
    | nil => simp
    | cons sequence rest =>
      have hfront : (q.deleteFreeFront sequence).bufferQueueCache.find k =
          if sequence = k then none else q.bufferQueueCache.find k := find_deleteNoWait q sequence k
      dsimp only
      rw [ih, hfront]
      by_cases hk : sequence = k
      · simp [hk]
      · simp [hk, Ne.symm hk]

theorem deleteDirty_cache (q : BufferQueue) (count k : ℕ) :
    (q.deleteDirty count).2.bufferQueueCache.find k =
      if k ∈ q.dirtyFronts count then none else q.bufferQueueCache.find k := by
  induction count generalizing q with
  | zero => simp [deleteDirty, dirtyFronts]
  | succ count ih =>
    unfold deleteDirty dirtyFronts
    cases hdirty : q.dirtyList with
    | nil => simp
    | cons sequence rest =>
      have hfront : (q.deleteDirtyFront sequence rest).bufferQueueCache.find k =
          if sequence = k then none else q.bufferQueueCache.find k := find_deleteNoWait q sequence k
      dsimp only
      rw [ih, hfront]
      by_cases hk : sequence = k
      · simp [hk]
      · simp [hk, Ne.symm hk]

theorem deleteBuffersLocked_erases (q : BufferQueue) (count : ℕ) :
    Erases (· ∈ q.deletedBuffers count) q (q.deleteBuffersLocked count) := by
  refine Erases.before (.of_members fun k => ?_) (markDeleting_keeps _ _)
  rw [deleteDirty_cache, deleteFree_cache]
  by_cases hfree : k ∈ q.freeFronts count <;> simp [deletedBuffers, hfree]

/-- The free buffers that `CleanReleasedBuffers` does not spare. -/
def cleanable (q : BufferQueue) (l : List ℕ) : List ℕ :=
  l.filter fun k => k != q.lastFlusedSequence && k != q.acquireLastFlushedBufSequence

theorem cleanReleasedBuffersLocked_erases (q : BufferQueue) (l : List ℕ) :
    Erases (· ∈ q.cleanable l) q (q.cleanReleasedBuffersLocked l).2 := by
  refine .of_members fun k => ?_
  induction l generalizing q with
  | nil => rfl
  | cons sequence rest ih =>
    unfold cleanReleasedBuffersLocked
    split
    · rename_i hspared
      have hout : q.cleanable (sequence :: rest) = q.cleanable rest :=
        List.filter_cons_of_neg (by rcases hspared with h | h <;> simp [h])
      rw [ih, hout]
    · rename_i hcleaned
      have hin : q.cleanable (sequence :: rest) = sequence :: q.cleanable rest :=
        List.filter_cons_of_pos (by simpa [not_or] using hcleaned)
      have hnext (q₁ : BufferQueue) (hcache : q₁.bufferQueueCache = q.bufferQueueCache.erase sequence)
          (hlists : q₁.cleanable rest = q.cleanable rest) :
          (q₁.cleanReleasedBuffersLocked rest).2.bufferQueueCache.find k =
            if k ∈ q.cleanable (sequence :: rest) then none else q.bufferQueueCache.find k := by
        rw [ih, hlists, hin, hcache, BufferCache.find_erase]
        by_cases hk : sequence = k
        · simp [hk]
        · simp [hk, Ne.symm hk]
      exact hnext _ (by split <;> rfl) (by unfold cleanable; split <;> rfl)

theorem cleanProducerBySeqNum_erases (q : BufferQueue) (seqNums : List ℕ) :
    Erases (· ∈ seqNums) q (q.cleanProducerBySeqNum seqNums) := by
  refine .of_members fun k => ?_
  unfold cleanProducerBySeqNum
  induction seqNums generalizing q with
  | nil => simp
  | cons sequence rest ih =>
    have hone : (q.cleanProducerOne sequence).bufferQueueCache.find k =
        if sequence = k then none else q.bufferQueueCache.find k := by
      unfold cleanProducerOne
      split
      · exact BufferCache.find_erase q.bufferQueueCache sequence k
      · rename_i habsent
        split_ifs with hsame
        · rw [← hsame]
          simpa using habsent
        · rfl
    rw [List.foldl_cons, ih, hone]
    by_cases hk : sequence = k
    · simp [hk]
    · simp [hk, Ne.symm hk]

theorem clearLocked_erases (q : BufferQueue) : Erases (fun _ => True) q q.clearLocked :=
  fun k _ => iff_of_true (BufferCache.find_empty k) trivial

/-! A request loses the buffer that it chose when it cannot use it. -/

/-- The comparison in `ReuseBuffer`. -/
def needsRealloc (q : BufferQueue) (config : BufferRequestConfig) (k : ℕ) : Bool :=
  ((q.bufferQueueCache.find k).map (·.config)).any fun c => !config.same c

/-- The free or dirty buffer that `RequestBufferLocked` chooses. -/
def chosen (q : BufferQueue) (config : BufferRequestConfig) : Option SurfaceBuffer :=
  if q.isPriorityAlloc && decide (q.getUsedSize < q.unreservedSize) then none
  else if (q.popFromFreeListLocked config).1.isSome then (q.popFromFreeListLocked config).1
  else if q.unreservedSize ≤ q.getUsedSize ∧ q.requestBufferNoBlockMode = true then
    q.popFromDirtyListLocked.1
  else none

def chosenAfterWait (q : BufferQueue) (config : BufferRequestConfig) : Option SurfaceBuffer :=
  if !q.isValidStatus && !q.isBatch then none else (q.popFromFreeListLocked config).1

/-- A buffer that is used goes only when the call detaches it. -/
def losesChosen (q : BufferQueue) (detach : Bool) (config : BufferRequestConfig)
    (choice : Option SurfaceBuffer) (k : ℕ) : Prop :=
  choice.any (·.seqNum == k) = true ∧ (detach || q.needsRealloc config k) = true

theorem losesChosen_none {detach : Bool} {config : BufferRequestConfig} :
    ¬ q.losesChosen detach config none k := fun h => by simp [losesChosen] at h

theorem losesChosen_congr {q₁ : BufferQueue} (h : KeepsCached q q₁) {detach : Bool}
    {config : BufferRequestConfig} {choice : Option SurfaceBuffer} :
    q₁.losesChosen detach config choice k ↔ q.losesChosen detach config choice k := by
  unfold losesChosen needsRealloc
  rw [h k]

theorem finishCall_error (detach : Bool) {reply : RequestReply} (hret : reply.ret ≠ .ok) :
    (q.finishCall detach reply).2 = q := by
  simp [finishCall, hret]

/-- `RequestAndDetachBuffer` detaches what the request has given it. -/
theorem finishCall_erases (detach : Bool) {reply : RequestReply} (hret : reply.ret = .ok)
    (hcheck : q.detachBufferCheck reply.retval.sequence .producerInvoker = .ok) :
    Erases (fun k => k = reply.retval.sequence ∧ detach = true) q (q.finishCall detach reply).2 := by
  unfold finishCall
  cases detach with
  | false => exact KeepsCached.refl.erases.congr fun k _ => by simp
  | true =>
    simp only [hret, beq_self_eq_true, Bool.and_self, if_true]
    exact (detachBufferFromQueueLocked_erases q reply.retval.sequence .producerInvoker false).congr
      fun k _ => by simp [hcheck]

theorem detachBufferCheck_updateReuse {e : BufferElement}
    (he : q.bufferQueueCache.find sequence = some e) (needRealloc : Bool) :
    (q.updateReuseBufferState needRealloc sequence false).2.detachBufferCheck sequence
      .producerInvoker = .ok := by
  obtain ⟨e', he', -, -, hstate⟩ := find_updateReuse_self needRealloc false he
  have hrequested : e'.state = .requested := hstate.resolve_right fun h => nomatch h.1
  simp [detachBufferCheck, he', hrequested]

theorem ret_updateReuse {e : BufferElement} (he : q.bufferQueueCache.find sequence = some e)
    (needRealloc : Bool) : (q.updateReuseBufferState needRealloc sequence false).1.ret = .ok := by
  unfold updateReuseBufferState
  rw [he]
  dsimp only
  split
  · rfl
  · rfl

theorem reuseBuffer_erases (q : BufferQueue) (detach : Bool) (config : BufferRequestConfig)
    (buffer : SurfaceBuffer) :
    Erases (q.losesChosen detach config (some buffer)) q
      ((q.reuseBuffer config buffer false).2.reach detach (q.reuseBuffer config buffer false).1).2 := by
  have hchoice (k : ℕ) : (some buffer).any (·.seqNum == k) = true ↔ k = buffer.seqNum := by
    rw [Option.any_some, beq_iff_eq, eq_comm]
  unfold reuseBuffer
  cases he : q.bufferQueueCache.find buffer.seqNum with
  | none =>
    dsimp only [reach]
    rw [finishCall_error detach (by simp [RequestReply.error])]
    refine KeepsCached.refl.erases.congr fun k hk => iff_of_false id fun h => ?_
    rw [(hchoice k).mp h.1, he] at hk
    cases hk
  | some e =>
    dsimp only
    split
    · rename_i hsame
      have hfinish := finishCall_erases detach (ret_updateReuse he false)
        (by rw [sequence_updateReuse false false he]; exact detachBufferCheck_updateReuse he false)
      rw [sequence_updateReuse false false he] at hfinish
      refine (hfinish.after (updateReuseBufferState_keeps q false buffer.seqNum false)).congr
        fun k _ => ?_
      rw [losesChosen, hchoice]
      refine and_congr_right fun hk => ?_
      subst hk
      simp [needsRealloc, he, hsame]
    · rename_i hsame
      rw [if_neg Bool.false_ne_true]
      have hdelete : Erases (· = buffer.seqNum) q (q.reallocBufferLocked config buffer.seqNum).2 :=
        (deleteNoWait_erases q buffer.seqNum).before (.of_cache rfl)
      refine hdelete.congr fun k _ => ?_
      rw [losesChosen, hchoice]
      refine (and_iff_left_of_imp fun hk => ?_).symm
      subst hk
      simp [needsRealloc, he, hsame]

theorem reach_error_erases {q₁ : BufferQueue} (hkeeps : KeepsCached q q₁) (detach : Bool)
    (config : BufferRequestConfig) {ret : GSError} (hret : ret ≠ .ok) :
    Erases (q.losesChosen detach config none) q (q₁.reach detach (.done (.error ret))).2 := by
  dsimp only [reach]
  rw [finishCall_error detach hret]
  exact hkeeps.erases.congr fun k _ => iff_of_false id losesChosen_none

theorem reuseBufferForBlockMode_erases (q : BufferQueue) (detach : Bool)
    (config : BufferRequestConfig) :
    Erases (q.losesChosen detach config (q.chosenAfterWait config)) q
      ((q.reuseBufferForBlockMode config).2.reach detach (q.reuseBufferForBlockMode config).1).2 := by
  have hpop : KeepsCached q (q.popFromFreeListLocked config).2 := popFromFreeListLocked_keeps q config
  unfold reuseBufferForBlockMode chosenAfterWait
  split
  · exact reach_error_erases .refl detach config nofun
  · split
    · rename_i buffer q₁ h
      rw [h] at hpop ⊢
      exact ((reuseBuffer_erases q₁ detach config buffer).after hpop).congr
        fun k _ => losesChosen_congr hpop
    · rename_i q₁ h
      rw [h] at hpop ⊢
      exact reach_error_erases hpop detach config nofun

theorem reuseBufferForNoBlockMode_erases (q : BufferQueue) (detach : Bool)
    (config : BufferRequestConfig) :
    Erases (q.losesChosen detach config q.popFromDirtyListLocked.1) q
      ((q.reuseBufferForNoBlockMode config).2.reach detach
        (q.reuseBufferForNoBlockMode config).1).2 := by
  have hpop : KeepsCached q q.popFromDirtyListLocked.2 := popFromDirtyListLocked_keeps q
  unfold reuseBufferForNoBlockMode
  split
  · rename_i buffer q₁ h
    rw [h] at hpop
    dsimp only
    have hrecolour : KeepsCached q { q₁ with
        bufferQueueCache := q₁.bufferQueueCache.modify buffer.seqNum
          (recolour config.colorGamut config.transform) (recolour_seqNum _ _) } :=
      hpop.trans (.of_modify (recolour_seqNum _ _) (fun _ => rfl) rfl)
    refine ((reuseBuffer_erases _ detach config _).after hrecolour).congr fun k _ => ?_
    rw [losesChosen_congr hrecolour, h]
    exact Iff.rfl
  · rename_i q₁ h
    rw [h] at hpop
    rw [h]
    exact reach_error_erases hpop detach config nofun

/-- Where a request stands at the end of its section. -/
def settle (q : BufferQueue) (detach : Bool) : RequestPoint → Pc × BufferQueue
  | .reached point => q.reach detach point
  | .waitReq config => (.requestBlocked detach config, q)

theorem chosen_eq_free {config : BufferRequestConfig}
    (h : (!(q.isPriorityAlloc && decide (q.getUsedSize < q.unreservedSize)) || false) = true)
    {buffer : SurfaceBuffer} (hpop : (q.popFromFreeListLocked config).1 = some buffer) :
    q.chosen config = some buffer := by
  rw [Bool.or_false, Bool.not_eq_true'] at h
  simp [chosen, h, hpop]

theorem chosen_eq_dirty {config : BufferRequestConfig}
    (h : (!(q.isPriorityAlloc && decide (q.getUsedSize < q.unreservedSize)) || false) = true)
    (hpop : (q.popFromFreeListLocked config).1 = none) :
    q.chosen config = if q.unreservedSize ≤ q.getUsedSize ∧ q.requestBufferNoBlockMode = true then
      q.popFromDirtyListLocked.1 else none := by
  rw [Bool.or_false, Bool.not_eq_true'] at h
  simp [chosen, h, hpop]

theorem popFromDirtyListLocked_fault (q : BufferQueue) :
    { q with fault := true }.popFromDirtyListLocked.1 = q.popFromDirtyListLocked.1 := by
  unfold popFromDirtyListLocked
  cases q.dirtyList with
  | nil => rfl
  | cons front rest =>
    dsimp only
    cases q.bufferQueueCache.find front with
    | none => rfl
    | some e => rfl

theorem requestBufferBody_erases (q : BufferQueue) (detach : Bool) (config : BufferRequestConfig) :
    Erases (q.losesChosen detach config (q.chosen config)) q
      ((q.requestBufferBody config false).2.settle detach (q.requestBufferBody config false).1).2 := by
  have hpop : KeepsCached q (q.popFromFreeListLocked config).2 := popFromFreeListLocked_keeps q config
  have hkept {q₁ : BufferQueue} (hkeeps : KeepsCached q q₁) (hchosen : q.chosen config = none) :
      Erases (q.losesChosen detach config (q.chosen config)) q q₁ := by
    rw [hchosen]
    exact hkeeps.erases.congr fun k _ => iff_of_false id losesChosen_none
  unfold requestBufferBody
  dsimp only
  split
  · rename_i hpops
    split
    · rename_i buffer q₁ h
      have hchosen := chosen_eq_free hpops (congrArg Prod.fst h)
      rw [h] at hpop
      rw [hchosen]
      exact ((reuseBuffer_erases q₁ detach config buffer).after hpop).congr
        fun k _ => losesChosen_congr hpop
    · rename_i q₁ h
      have hchosen := chosen_eq_dirty hpops (congrArg Prod.fst h)
      have hsame := popFromFreeListLocked_unchanged (congrArg Prod.fst h)
      rw [h] at hpop hsame
      dsimp only at hsame
      have hfull : q₁.unreservedSize ≤ q₁.getUsedSize ↔ q.unreservedSize ≤ q.getUsedSize := by
        rcases hsame with hsame | hsame
        · rw [hsame]
        · rw [hsame]
          rfl
      have hmode : q₁.requestBufferNoBlockMode = q.requestBufferNoBlockMode := by
        rcases hsame with hsame | hsame <;> rw [hsame]
      have hdirty : q₁.popFromDirtyListLocked.1 = q.popFromDirtyListLocked.1 := by
        rcases hsame with hsame | hsame <;> rw [hsame]
        exact popFromDirtyListLocked_fault q
      split
      · rename_i hlistener
        cases hlistener
      · split
        · rename_i hroom
          split
          · rename_i hblocks
            refine hkept hpop (hchosen.trans (if_neg fun h => ?_))
            rw [hmode, h.2] at hblocks
            cases hblocks
          · rename_i hnoBlock
            have hno : q.requestBufferNoBlockMode = true := by simpa [hmode] using hnoBlock
            rw [hchosen, if_pos ⟨hfull.mp hroom, hno⟩, ← hdirty]
            exact ((reuseBufferForNoBlockMode_erases q₁ detach config).after hpop).congr
              fun k _ => losesChosen_congr hpop
        · rename_i hroom
          refine hkept (hpop.trans (.of_cache rfl)) (hchosen.trans (if_neg fun h => ?_))
          exact hroom (hfull.mpr h.1)
  · rename_i hpriority
    refine hkept (.of_cache rfl) ?_
    rw [Bool.or_false, Bool.not_eq_true', Bool.not_eq_false] at hpriority
    rw [chosen, if_pos hpriority]

/-- `RequestBufferLocked` after the wait for a running allocation. -/
theorem requestSection_erases (q : BufferQueue) (detach : Bool) (config : BufferRequestConfig) :
    Erases (q.losesChosen detach config (q.chosen config)) q (q.requestSection detach config).2 := by
  have hbody := requestBufferBody_erases q detach config
  unfold requestSection
  split
  · rename_i point q₁ h
    rw [h] at hbody
    exact hbody
  · rename_i config' q₁ h
    rw [h] at hbody
    exact hbody

/-! The sections of the calls, each with what it takes out. -/

def startConfig (q : BufferQueue) (config : BufferRequestConfig) : Option BufferRequestConfig :=
  match q.requestBufferCheck config with
  | .error _ => none
  | .ok updateConfig => if q.isAllocatingBuffer then none else some updateConfig

def startLoses (q : BufferQueue) (detach : Bool) (config : BufferRequestConfig) (k : ℕ) : Prop :=
  ∃ updateConfig ∈ q.startConfig config,
    q.losesChosen detach updateConfig (q.chosen updateConfig) k

theorem startRequest_erases (q : BufferQueue) (detach : Bool) (config : BufferRequestConfig) :
    Erases (q.startLoses detach config) q (q.startRequest detach config).2 := by
  have hkept (hnone : q.startConfig config = none) : Erases (q.startLoses detach config) q q :=
    KeepsCached.refl.erases.congr fun k _ => by simp [startLoses, hnone]
  unfold startRequest
  cases hcheck : q.requestBufferCheck config with
  | error ret => exact hkept (by simp [startConfig, hcheck])
  | ok updateConfig =>
    dsimp only
    split
    · rename_i hallocating
      exact hkept (by simp [startConfig, hcheck, hallocating])
    · rename_i hallocating
      exact (requestSection_erases q detach updateConfig).congr fun k _ => by
        simp [startLoses, startConfig, hcheck, hallocating]

theorem flushSection_erases (q : BufferQueue) (f : FlushArgs) :
    Erases (fun k => k = f.sequence ∧ q.condemned f.sequence = true ∧ q.isAllocatingBuffer = false) q
      (q.flushSection f).2 := by
  unfold flushSection
  split
  · rename_i hwaits
    refine KeepsCached.refl.erases.congr fun k _ => iff_of_false id fun h => ?_
    rw [Bool.and_eq_true, h.2.2] at hwaits
    exact Bool.false_ne_true hwaits.1
  · rename_i hgoes
    refine (doFlushBufferLocked_erases q f.sequence f.bedata f.fence f.config f.env).congr
      fun k _ => and_congr_right fun _ => (and_iff_left_of_imp fun hcondemned => ?_).symm
    rw [Bool.and_eq_true, not_and] at hgoes
    exact Bool.eq_false_iff.mpr fun hallocating => hgoes hallocating hcondemned

theorem detachSection_erases (q : BufferQueue) (sequence : ℕ) (invokerType : InvokerType)
    (isReserveSlot : Bool) :
    Erases (fun k => k = sequence ∧ q.detachBufferCheck sequence invokerType = .ok ∧
        ¬ (invokerType = .consumerInvoker ∧ q.isAllocatingBuffer = true)) q
      (q.detachSection sequence invokerType isReserveSlot).2 := by
  unfold detachSection
  split
  · rename_i hwaits
    exact KeepsCached.refl.erases.congr fun k _ => by simp [hwaits]
  · rename_i hgoes
    refine (detachBufferFromQueueLocked_erases q sequence invokerType isReserveSlot).congr
      fun k _ => and_congr_right fun _ => (and_iff_left_of_imp fun hcheck => ?_).symm
    exact fun h => hgoes ⟨h.1, hcheck, h.2⟩

theorem releaseSection_erases (q : BufferQueue) (sequence : ℕ) (fence : Option SyncFence)
    (now mergeFd : Int) :
    Erases (fun k => k = sequence ∧ q.deletesReleased sequence = true ∧
        q.isAllocatingBuffer = false) q
      (q.releaseSection sequence fence now mergeFd).2 := by
  have hrelease (env : ReleaseEnv) := releaseBufferLocked_erases q sequence fence env
  unfold releaseSection
  cases he : q.bufferQueueCache.find sequence with
  | none => exact KeepsCached.refl.erases.congr fun k _ => by simp [deletesReleased, he]
  | some e =>
    have hdeletes : q.deletesReleased sequence =
        (e.isDeleting && (e.state == .acquired || e.state == .attached)) := by
      simp [deletesReleased, he]
    dsimp only
    rw [Bool.and_assoc, ← hdeletes]
    split
    · rename_i hwaits
      rw [Bool.and_eq_true] at hwaits
      exact (markReleased_keeps q sequence _ fence _).erases.congr fun k _ => by simp [hwaits.1]
    · rename_i hgoes
      have hout (k : ℕ) : (k = sequence ∧ q.deletesReleased sequence = true) ↔
          (k = sequence ∧ q.deletesReleased sequence = true ∧ q.isAllocatingBuffer = false) := by
        refine and_congr_right fun _ => (and_iff_left_of_imp fun h => ?_).symm
        rw [Bool.and_eq_true, not_and] at hgoes
        exact Bool.eq_false_iff.mpr fun hallocating => hgoes hallocating h
      split
      · exact (hrelease _).congr fun k _ => hout k
      · exact ((hrelease _).before (afterRelease_keeps _)).congr fun k _ => hout k

def attachDeletes (q : BufferQueue) (buffer : SurfaceBuffer) : List ℕ :=
  if (q.bufferQueueCache.find buffer.seqNum).isSome then []
  else
    match q.attachDeleteCount with
    | none => []
    | some count => if 0 < count ∧ q.isAllocatingBuffer = true then [] else q.deletedBuffers count

theorem attachSection_erases (q : BufferQueue) (buffer : SurfaceBuffer) (timeOut : Int) :
    Erases (· ∈ q.attachDeletes buffer) q (q.attachSection buffer timeOut).2 := by
  have hkept {q₁ : BufferQueue} (hkeeps : KeepsCached q q₁) (hnone : q.attachDeletes buffer = []) :
      Erases (· ∈ q.attachDeletes buffer) q q₁ :=
    hkeeps.erases.congr fun k _ => by simp [hnone]
  unfold attachSection
  cases he : q.bufferQueueCache.find buffer.seqNum with
  | some e =>
    have hnone : q.attachDeletes buffer = [] := by simp [attachDeletes, he]
    dsimp only
    split
    · exact hkept (attachBufferUpdateStatus_keeps q _ _) hnone
    · exact hkept .refl hnone
  | none =>
    cases hcount : q.attachDeleteCount with
    | none => exact hkept .refl (by simp [attachDeletes, he, hcount])
    | some count =>
      dsimp only
      split
      · rename_i hwaits
        exact hkept .refl (by simp [attachDeletes, he, hcount, hwaits])
      · rename_i hgoes
        refine ((deleteBuffersLocked_erases q count).put (e := q.attachElement buffer timeOut) he
          rfl).congr fun k _ => ?_
        simp only [attachDeletes, he, hcount, hgoes, Option.isSome_none, Bool.false_eq_true, if_false]

theorem attachBufferToQueueLocked_erases (q : BufferQueue) (buffer : SurfaceBuffer)
    (invokerType : InvokerType) :
    Erases (fun _ => False) q (q.attachBufferToQueueLocked buffer invokerType).2 := by
  unfold attachBufferToQueueLocked
  split_ifs with hlistener hfull hcached
  · exact KeepsCached.refl.erases
  · exact KeepsCached.refl.erases
  · exact KeepsCached.refl.erases
  · have habsent : q.bufferQueueCache.find buffer.seqNum = none := by simpa using hcached
    cases invokerType with
    | producerInvoker => exact KeepsCached.refl.erases.put habsent rfl
    | consumerInvoker => exact KeepsCached.refl.erases.put habsent rfl

theorem isSome_flushBufferImprovedLocked (q : BufferQueue) (sequence : ℕ) (bedata : Option ExtraData)
    (fence : SyncFence) (config : BufferFlushConfigWithDamages) (env : FlushEnv) {k : ℕ}
    (hk : k ≠ sequence) (hcached : (q.bufferQueueCache.find k).isSome) :
    ((q.flushBufferImprovedLocked sequence bedata fence config env).2.bufferQueueCache.find k).isSome := by
  refine flushBufferImprovedLocked_cases (motive := fun r => (r.2.bufferQueueCache.find k).isSome)
    ?_ ?_
  · exact fun _ _ => hcached
  · intro _
    rw [Option.isSome_iff_ne_none, ne_eq,
      doFlushBufferLocked_erases q sequence bedata fence config env k hcached]
    exact fun h => hk h.1

theorem attachAndFlushBuffer_erases (q : BufferQueue) (buffer : SurfaceBuffer)
    (bedata : Option ExtraData) (fence : SyncFence) (config : BufferFlushConfigWithDamages)
    (env : FlushEnv) :
    Erases (fun _ => False) q (q.attachAndFlushBuffer buffer bedata fence config env).2 := by
  have hattach := attachBufferToQueueLocked_erases q buffer .producerInvoker
  unfold attachAndFlushBuffer
  dsimp only
  split
  · exact hattach
  · rename_i hok
    have hother {k : ℕ} (hk : (q.bufferQueueCache.find k).isSome) : k ≠ buffer.seqNum := by
      rintro rfl
      simp [absent_of_attached (not_not.mp hok)] at hk
    have hflush {k : ℕ} (hk : (q.bufferQueueCache.find k).isSome) :=
      isSome_flushBufferImprovedLocked (q.attachBufferToQueueLocked buffer .producerInvoker).2
        buffer.seqNum bedata fence config env (hother hk)
        (Option.isSome_iff_ne_none.mpr fun hnone => (hattach k hk).mp hnone)
    split
    · refine .of_isSome fun k hk => ?_
      rw [BufferCache.find_erase, if_neg (Ne.symm (hother hk))]
      exact hflush hk
    · exact .of_isSome fun k hk => hflush hk

theorem finishRequest_erases (q : BufferQueue) (a : Allocation) (point : ReusePoint) :
    Erases (fun _ => False) q (q.finishRequest a point).2 := by
  refine .of_isSome fun k hk => ?_
  refine finishRequest_induct (P := fun q' => (q'.bufferQueueCache.find k).isSome) q a point
    (fun _ _ => hk) (fun job _ => ?_) (fun _ h => h)
    fun q₁ sequence h => (updateReuseBufferState_keeps q₁ true sequence false).isSome h
  unfold allocBufferEnd
  dsimp only
  split
  · rw [BufferCache.find_put]
    split_ifs
    · rfl
    · exact hk
  · exact hk

theorem allocated_erases (q : BufferQueue) (detach : Bool) (a : Allocation) {point : ReusePoint}
    (hpoint : ∀ reply, point ≠ .done reply) (hfresh : q.bufferQueueCache.find a.sequence = none) :
    Erases (fun _ => False) q
      ((q.finishRequest a point).2.finishCall detach (q.finishRequest a point).1).2 := by
  have hfinish := finishRequest_erases q a point
  refine .of_isSome fun k hk => ?_
  have hk₁ : ((q.finishRequest a point).2.bufferQueueCache.find k).isSome :=
    Option.isSome_iff_ne_none.mpr fun hnone => (hfinish k hk).mp hnone
  by_cases hret : (q.finishRequest a point).1.ret = .ok
  · unfold finishCall
    split
    · rw [sequence_finishRequest q a hpoint hret, Option.isSome_iff_ne_none, ne_eq,
        detachBufferFromQueueLocked_erases _ a.sequence _ _ k hk₁]
      rintro ⟨rfl, -⟩
      simp [hfresh] at hk
    · exact hk₁
  · rw [finishCall_error detach hret]
    exact hk₁

/-- What `SetQueueSizeLocked` deletes at once. -/
def resizeDeletes (q : BufferQueue) (queueSize k : ℕ) : Prop :=
  (q.detachReserveSlotNum ≤ q.clampedSize queueSize ∧ q.clampedSize queueSize < q.bufferQueueSize) ∧
    q.isAllocatingBuffer = false ∧
    k ∈ q.deletedBuffers (q.bufferQueueSize - q.clampedSize queueSize)

theorem resize_erases (q : BufferQueue) (queueSize : ℕ) :
    Erases (q.resizeDeletes queueSize) q (q.resize queueSize).2 := by
  have hlocked : (q.setQueueSizeLocked queueSize).2 =
      if q.clampedSize queueSize < q.detachReserveSlotNum then q
      else if q.clampedSize queueSize < q.bufferQueueSize then
        { q.deleteBuffersLocked (q.bufferQueueSize - q.clampedSize queueSize) with
          bufferQueueSize := q.clampedSize queueSize }
      else { q with bufferQueueSize := q.clampedSize queueSize } := by
    unfold setQueueSizeLocked
    rw [apply_ite Prod.snd, apply_ite Prod.snd]
    rfl
  unfold resize
  split
  · rename_i hwaits
    exact KeepsCached.refl.erases.congr fun k _ => by simp [resizeDeletes, hwaits.2.2]
  · rename_i hgoes
    dsimp only
    rw [hlocked]
    by_cases hreserved : q.clampedSize queueSize < q.detachReserveSlotNum
    · rw [if_pos hreserved]
      exact KeepsCached.refl.erases.congr fun k _ =>
        iff_of_false id fun h => not_lt.mpr h.1.1 hreserved
    · rw [if_neg hreserved]
      by_cases hshrinks : q.clampedSize queueSize < q.bufferQueueSize
      · rw [if_pos hshrinks]
        have hrange := And.intro (not_lt.mp hreserved) hshrinks
        refine ((deleteBuffersLocked_erases q _).before (.of_cache rfl)).congr fun k _ => ?_
        refine ((and_iff_right hrange).trans (and_iff_right ?_)).symm
        exact Bool.eq_false_iff.mpr fun h => hgoes ⟨hrange.1, hrange.2, h⟩
      · rw [if_neg hshrinks]
        exact (KeepsCached.of_cache rfl).erases.congr fun k _ =>
          iff_of_false id fun h => hshrinks h.1.2

end BufferQueue

def Call.takesOut (q : BufferQueue) : Call → ℕ → Prop
  | requestBuffer config, k => q.startLoses false config k
  | requestAndDetachBuffer config, k => q.startLoses true config k
  | detachBufferFromQueue sequence invokerType _, k =>
    k = sequence ∧ q.detachBufferCheck sequence invokerType = .ok ∧
      ¬ (invokerType = .consumerInvoker ∧ q.isAllocatingBuffer = true)
  | releaseBuffer sequence _ _ _, k =>
    k = sequence ∧ q.deletesReleased sequence = true ∧ q.isAllocatingBuffer = false
  | cleanCache, _ => q.isAllocatingBuffer = false
  | _, _ => False

def Pc.takesOut (q : BufferQueue) : Pc → Action → ℕ → Prop
  | idle _, .call c, k => c.takesOut q k
  | requestWait detach config, .go, k => q.losesChosen detach config (q.chosen config) k
  | requestBlocked detach config, .go, k =>
    q.losesChosen detach config (q.chosenAfterWait config) k
  | flushDo f, .go, k =>
    k = f.sequence ∧ q.condemned f.sequence = true ∧ q.isAllocatingBuffer = false
  | flushDelete sequence, .go, k | detachDelete sequence _, .go, k
  | releaseDelete sequence, .go, k => k = sequence
  | attachMain buffer _, .go, k => k ∈ q.attachDeletes buffer
  | attachDelete _ count, .go, k => k ∈ q.deletedBuffers count
  | clearWait, .go, _ => True
  | _, _, _ => False

def RoomWait.takesOut (q : BufferQueue) : RoomWait → ℕ → Prop
  | setQueueSize _ count, k => k ∈ q.deletedBuffers count
  | goBackground, _ => True
  | cleanReleasedBuffers, k => k ∈ q.cleanable q.freeList

def RoomCall.takesOut (q : BufferQueue) : RoomCall → ℕ → Prop
  | setQueueSize queueSize, k =>
    ¬ (queueSize = 0 ∨ surfaceMaxQueueSize < queueSize) ∧ q.resizeDeletes queueSize k
  | setMaxQueueSize queueSize, k =>
    ¬ (queueSize = 0 ∨ surfaceMaxQueueSize < queueSize) ∧ queueSize < q.bufferQueueSize ∧
      { q with maxQueueSize := queueSize }.resizeDeletes queueSize k
  | goBackground, _ => q.isAllocatingBuffer = false
  | cleanReleasedBuffers, k => q.isAllocatingBuffer = false ∧ k ∈ q.cleanable q.freeList
  | cleanProducerBySeqNum seqNums, k => k ∈ seqNums
  | detachBuffer sequence, k =>
    k = sequence ∧ (q.bufferQueueCache.find sequence).any
      (fun e => e.state == .requested || e.state == .acquired) = true
  | setBatchHandle _, _ => False

def RoomPc.takesOut (q : BufferQueue) : RoomPc → RoomAction → ℕ → Prop
  | queue pc, .queue a, k => pc.takesOut q a k
  | queue (.idle _), .call c, k => c.takesOut q k
  | waiting w, .go, k => w.takesOut q k
  | _, _, _ => False

/-- Where the entries of the section have gone. `attachDelete` puts its element in afterwards,
which may have the number of a deleted one. -/
def Pc.emptied (q q' : BufferQueue) : Pc → Action → BufferQueue
  | attachDelete _ count, .go => q.deleteBuffersLocked count
  | _, _ => q'

def RoomPc.emptied (q q' : BufferQueue) : RoomPc → RoomAction → BufferQueue
  | queue pc, .queue a => pc.emptied q q' a
  | _, _ => q'

open BufferQueue

theorem Call.start_erases (q : BufferQueue) (c : Call) : Erases (c.takesOut q) q (c.start q).2 := by
  have hkept : Erases (fun _ => False) q q := KeepsCached.refl.erases
  cases c with
  | requestBuffer config => exact startRequest_erases q false config
  | requestAndDetachBuffer config => exact startRequest_erases q true config
  | cancelBuffer sequence bedata => exact (cancelBufferLocked_keeps q sequence bedata).erases
  | flushBuffer f =>
    simp only [Call.start]
    split
    · exact hkept
    · split
      · exact hkept
      · exact hkept
  | detachBufferFromQueue sequence invokerType isReserveSlot =>
    exact detachSection_erases q sequence invokerType isReserveSlot
  | acquireBuffer now => exact (acquireBuffer_keeps q now).erases
  | releaseBuffer sequence fence now mergeFd => exact releaseSection_erases q sequence fence now mergeFd
  | attachBufferToQueue buffer invokerType => exact attachBufferToQueueLocked_erases q buffer invokerType
  | attachBuffer buffer timeOut =>
    simp only [Call.start]
    split
    · exact hkept
    · exact hkept
  | attachAndFlushBuffer buffer bedata fence config env =>
    exact attachAndFlushBuffer_erases q buffer bedata fence config env
  | preAllocBuffers config allocBufferCount =>
    simp only [Call.start, preAllocSection]
    split
    · exact hkept
    · split
      · exact hkept
      · exact hkept
  | cleanCache =>
    simp only [Call.start]
    split
    · rename_i hwaits
      exact hkept.congr fun k _ => by simp [takesOut, hwaits]
    · rename_i hgoes
      exact (clearLocked_erases q).congr fun k _ => by simp [takesOut, hgoes]
  | configure s =>
    refine KeepsCached.erases (.of_cache ?_)
    cases s <;> rfl

theorem Pc.advance_erases {q : BufferQueue} {pc : Pc} {a : Action} {r : Pc × BufferQueue}
    (hproper : pc.Proper) (hfresh : a.fresh q pc = true) (hr : pc.advance q a = some r) :
    Erases (pc.takesOut q a) q (pc.emptied q r.2 a) := by
  have hkept {q₁ : BufferQueue} (hkeeps : KeepsCached q q₁) : Erases (fun _ => False) q q₁ :=
    hkeeps.erases
  unfold advance at hr
  split at hr
  · cases hr
    exact Call.start_erases q _
  · split_ifs at hr
    cases hr
    exact requestSection_erases q _ _
  · cases hr
    exact reuseBufferForBlockMode_erases q _ _
  · rename_i detach point a
    cases hr
    refine allocated_erases q detach a (fun reply h => ?_) (by simpa [Action.fresh] using hfresh)
    rw [h] at hproper
    exact hproper
  · split_ifs at hr <;> cases hr <;> exact hkept .refl
  · cases hr
    exact hkept .refl
  · cases hr
    exact hkept (cancelBufferLocked_keeps q _ _)
  · cases hr
    exact flushSection_erases q _
  · split_ifs at hr
    cases hr
    exact deleteNoWait_erases q _
  · split_ifs at hr
    cases hr
    exact detachForConsumer_erases q _ _
  · split_ifs at hr
    cases hr
    exact (deleteNoWait_erases q _).before (afterRelease_keeps _)
  · split_ifs at hr
    cases hr
    exact hkept (handOutResume_keeps q _ _)
  · cases hr
    exact hkept .refl
  · split at hr <;> cases hr <;> exact hkept .refl
  · split at hr
    · cases hr
    · cases hr
      dsimp only [emptied, takesOut]
      split
      · exact hkept (cancelBufferLocked_keeps q _ _)
      · exact hkept .refl
  · split at hr
    · cases hr
    · cases hr
      exact hkept (takeBack_keeps q _)
  · split_ifs at hr <;> cases hr <;> exact hkept .refl
  · cases hr
    exact attachSection_erases q _ _
  · split at hr
    · cases hr
    · cases hr
      exact hkept (attachBufferUpdateStatus_keeps q _ _)
  · split_ifs at hr
    cases hr
    exact deleteBuffersLocked_erases q _
  · cases hr
    exact .of_isSome fun k hk => isSome_insertPreAlloc q _ _ hk
  · cases hr
    exact hkept (.of_cache rfl)
  · split_ifs at hr
    cases hr
    exact clearLocked_erases q
  · cases hr

theorem RoomWait.finish_erases (q : BufferQueue) (w : RoomWait) :
    Erases (w.takesOut q) q (w.finish q).2 := by
  cases w with
  | setQueueSize queueSize count => exact (deleteBuffersLocked_erases q count).before (.of_cache rfl)
  | goBackground => exact (clearLocked_erases q).before (.of_cache rfl)
  | cleanReleasedBuffers => exact cleanReleasedBuffersLocked_erases q q.freeList

theorem RoomWait.start_erases (q : BufferQueue) (w : RoomWait) :
    Erases (fun k => q.isAllocatingBuffer = false ∧ w.takesOut q k) q (w.start q).2 := by
  unfold start
  split
  · rename_i hwaits
    exact KeepsCached.refl.erases.congr fun k _ => by simp [hwaits]
  · rename_i hgoes
    exact (w.finish_erases q).congr fun k _ => by simp [hgoes]

theorem RoomCall.start_erases (q : BufferQueue) (c : RoomCall) :
    Erases (c.takesOut q) q (c.start q).2 := by
  have hkept {out : ℕ → Prop} {q₁ : BufferQueue} (hkeeps : KeepsCached q q₁)
      (hout : ∀ k, ¬ out k) : Erases out q q₁ :=
    hkeeps.erases.congr fun k _ => iff_of_false id (hout k)
  cases c with
  | setQueueSize queueSize =>
    simp only [start]
    split
    · rename_i hrange
      exact hkept .refl fun k h => h.1 hrange
    · rename_i hrange
      exact (resize_erases q queueSize).congr fun k _ => (and_iff_right hrange).symm
  | setMaxQueueSize queueSize =>
    simp only [start]
    split
    · rename_i hrange
      exact hkept .refl fun k h => h.1 hrange
    · rename_i hrange
      split
      · rename_i hshrinks
        refine ((resize_erases { q with maxQueueSize := queueSize } queueSize).after
          (.of_cache rfl)).congr fun k _ => ?_
        exact ((and_iff_right hrange).trans (and_iff_right hshrinks)).symm
      · rename_i hgrows
        exact hkept (.of_cache rfl) fun k h => hgrows h.2.1
  | goBackground =>
    exact (RoomWait.start_erases q .goBackground).congr fun k _ => and_iff_left trivial
  | cleanReleasedBuffers =>
    simp only [start]
    split
    · rename_i hempty
      exact hkept .refl fun k h => by simp [takesOut, hempty, cleanable] at h
    · exact RoomWait.start_erases q .cleanReleasedBuffers
  | cleanProducerBySeqNum seqNums => exact cleanProducerBySeqNum_erases q seqNums
  | detachBuffer sequence => exact detachBuffer_erases q sequence
  | setBatchHandle batch => exact hkept (.of_cache rfl) fun k => id

theorem roomThread_erases {t : ℕ} {q : BufferQueue} {pc : RoomPc} {a : RoomAction}
    {r : RoomPc × BufferQueue} (hproper : pc.Proper) (hr : roomThread t q pc a = some r) :
    Erases (pc.takesOut q a) q (pc.emptied q r.2 a) := by
  unfold roomThread at hr
  split at hr
  · rename_i pc a
    obtain ⟨r, hqueue, rfl⟩ := Option.map_eq_some_iff.mp hr
    obtain ⟨hfresh, hadvance, -⟩ := queueThread_eq_some.mp hqueue
    exact Pc.advance_erases hproper hfresh hadvance
  · rename_i reply c
    cases hr
    exact RoomCall.start_erases q c
  · rename_i w
    split_ifs at hr
    cases hr
    exact RoomWait.finish_erases q w
  · cases hr

end GraphicSurface
