import GraphicSurface.Agreement
import GraphicSurface.Frames

/-! How many buffers a call can add to the cache. A section of a request either ends the request,
or leaves room for the one buffer that the allocator will bring. -/

namespace GraphicSurface

open Runs SlotPool

def ReusePoint.Room (q q' : BufferQueue) : ReusePoint → Prop
  | .done _ => q'.getUsedSize ≤ q.getUsedSize
  | .reallocBuffer _ => q'.getUsedSize + 1 ≤ q.getUsedSize
  | .setupNewBuffer _ => q'.getUsedSize ≤ q.getUsedSize ∧ q'.getUsedSize + 1 ≤ q.unreservedSize

def RequestPoint.Room (q q' : BufferQueue) : RequestPoint → Prop
  | .reached point => point.Room q q'
  | .waitReq _ => q'.getUsedSize ≤ q.getUsedSize

theorem Frame.unreservedSize {told : List ℕ} {q q' : BufferQueue} (h : Frame told q q') :
    q'.unreservedSize = q.unreservedSize := by
  simp only [BufferQueue.unreservedSize, h.settings, h.reserve]

theorem ReusePoint.Room.of_used {q q₁ q' : BufferQueue} {point : ReusePoint} (h : point.Room q₁ q')
    (hused : q₁.getUsedSize = q.getUsedSize) (hsize : q₁.unreservedSize = q.unreservedSize) :
    point.Room q q' := by
  cases point <;> simp_all [ReusePoint.Room]

namespace BufferQueue

variable {q q' : BufferQueue}

theorem getUsedSize_deleteNoWait_le (q : BufferQueue) (sequence : ℕ) :
    (q.deleteBufferInCacheNoWaitForAllocatingState sequence).getUsedSize ≤ q.getUsedSize := by
  cases hfind : q.bufferQueueCache.find sequence with
  | none => simp [deleteBufferInCacheNoWaitForAllocatingState, hfind]
  | some e =>
    have hpool := pool_deleteNoWait hfind
    simp only [pool, Pool.mk.injEq] at hpool
    omega

theorem getUsedSize_deleteNoWait {sequence : ℕ} {e : BufferElement}
    (he : q.bufferQueueCache.find sequence = some e) :
    (q.deleteBufferInCacheNoWaitForAllocatingState sequence).getUsedSize + 1 = q.getUsedSize := by
  have hpool := pool_deleteNoWait he
  simp only [pool, Pool.mk.injEq] at hpool
  have hpos : 0 < q.getUsedSize := BufferCache.size_pos (k := sequence) (by simp [he])
  omega

@[simp] theorem getUsedSize_pop (q : BufferQueue) (config : BufferRequestConfig) :
    (q.popFromFreeListLocked config).2.getUsedSize = q.getUsedSize :=
  popFromFreeListLocked_induct (P := fun q' => q'.getUsedSize = q.getUsedSize) q config
    (fun _ => rfl) rfl
    fun _ _ => BufferCache.size_modify _ _ _ (BufferElement.recolour_seqNum _ _)

@[simp] theorem getUsedSize_popDirty (q : BufferQueue) :
    q.popFromDirtyListLocked.2.getUsedSize = q.getUsedSize :=
  popFromDirtyListLocked_induct (P := fun q' => q'.getUsedSize = q.getUsedSize) q (fun _ => rfl) rfl

@[simp] theorem getUsedSize_pushProducerCacheList (q : BufferQueue) (sequence : ℕ) :
    (q.pushProducerCacheList sequence).getUsedSize = q.getUsedSize :=
  pushProducerCacheList_induct (P := fun q' => q'.getUsedSize = q.getUsedSize) q sequence
    fun _ _ => rfl

@[simp] theorem getUsedSize_updateReuse (q : BufferQueue) (needRealloc : Bool) (sequence : ℕ)
    (listener : Bool) :
    (q.updateReuseBufferState needRealloc sequence listener).2.getUsedSize = q.getUsedSize := by
  unfold updateReuseBufferState
  split
  · rfl
  · dsimp only
    split
    · split <;> simp [getUsedSize, putBack, deliverObject, markRequested, addDeletingBuffersLocked]
    · simp [getUsedSize, markRequested, addDeletingBuffersLocked]

theorem reuseBuffer_room (q : BufferQueue) (config : BufferRequestConfig) (buffer : SurfaceBuffer)
    (listener : Bool) :
    (q.reuseBuffer config buffer listener).1.Room q (q.reuseBuffer config buffer listener).2 := by
  unfold reuseBuffer
  split
  · exact le_rfl
  · rename_i e he
    split
    · exact (getUsedSize_updateReuse q false buffer.seqNum listener).le
    · split
      · exact le_rfl
      · exact (getUsedSize_deleteNoWait he).le

theorem reuseBufferForBlockMode_room (q : BufferQueue) (config : BufferRequestConfig) :
    (q.reuseBufferForBlockMode config).1.Room q (q.reuseBufferForBlockMode config).2 := by
  have hused := getUsedSize_pop q config
  have hframe := (popFromFreeListLocked_frame q config).unreservedSize
  unfold reuseBufferForBlockMode
  split
  · exact le_rfl
  · split
    · rename_i buffer q₁ hpop
      rw [hpop] at hused hframe
      exact (reuseBuffer_room q₁ config buffer false).of_used hused hframe
    · rename_i q₁ hpop
      rw [hpop] at hused
      exact hused.le

theorem reuseBufferForNoBlockMode_room (q : BufferQueue) (config : BufferRequestConfig) :
    (q.reuseBufferForNoBlockMode config).1.Room q (q.reuseBufferForNoBlockMode config).2 := by
  have hused := getUsedSize_popDirty q
  have hframe := (popFromDirtyListLocked_frame q).unreservedSize
  unfold reuseBufferForNoBlockMode
  split
  · rename_i buffer q₁ hpop
    rw [hpop] at hused hframe
    refine (reuseBuffer_room _ config _ false).of_used ?_ hframe
    simpa [getUsedSize] using hused
  · rename_i q₁ hpop
    rw [hpop] at hused
    exact hused.le

theorem requestBufferBody_room (q : BufferQueue) (config : BufferRequestConfig) (listener : Bool) :
    (q.requestBufferBody config listener).1.Room q (q.requestBufferBody config listener).2 := by
  have hused := getUsedSize_pop q config
  have hframe := (popFromFreeListLocked_frame q config).unreservedSize
  unfold requestBufferBody
  by_cases hfree : (!(q.isPriorityAlloc && decide (q.getUsedSize < q.unreservedSize)) ||
      listener) = true
  · simp only [hfree, if_true]
    split
    · rename_i buffer q₁ hpop
      rw [hpop] at hused hframe
      exact (reuseBuffer_room q₁ config buffer listener).of_used hused hframe
    · rename_i q₁ hpop
      rw [hpop] at hused hframe
      dsimp only at hused hframe
      split
      · exact hused.le
      · split
        · split
          · exact hused.le
          · exact (reuseBufferForNoBlockMode_room q₁ config).of_used hused hframe
        · rename_i hroom
          exact ⟨hused.le, by
            show q₁.getUsedSize + 1 ≤ q.unreservedSize
            omega⟩
  · have hroom : q.getUsedSize < q.unreservedSize := by
      by_contra hfull
      simp [hfull] at hfree
    simp only [hfree]
    exact ⟨le_rfl, hroom⟩

theorem getUsedSize_allocBufferEnd (q : BufferQueue) (job : AllocJob) (a : Allocation) :
    (q.allocBufferEnd job a).2.getUsedSize ≤ q.getUsedSize + 1 := by
  unfold allocBufferEnd
  dsimp only
  split
  · simp only [getUsedSize, BufferCache.size_put]
    split_ifs <;> omega
  · simp [getUsedSize]

theorem getUsedSize_finishRequest_job (q : BufferQueue) (a : Allocation) (point : ReusePoint) :
    (q.finishRequest a point).2.getUsedSize ≤ q.getUsedSize + 1 :=
  finishRequest_induct (P := fun q' => q'.getUsedSize ≤ q.getUsedSize + 1) q a point
    (fun _ _ => Nat.le_succ _) (fun job _ => getUsedSize_allocBufferEnd q job a) (fun _ h => h)
    fun q₁ sequence h => (getUsedSize_updateReuse q₁ true sequence false).le.trans h

theorem getUsedSize_finish_le {point : ReusePoint} (h : point.Room q q') (a : Allocation) :
    (q'.finishRequest a point).2.getUsedSize ≤ max q.getUsedSize q.unreservedSize := by
  have hjob := getUsedSize_finishRequest_job q' a point
  cases point with
  | done reply => exact h.trans (le_max_left _ _)
  | reallocBuffer job =>
    have hroom : q'.getUsedSize + 1 ≤ q.getUsedSize := h
    exact hjob.trans (hroom.trans (le_max_left _ _))
  | setupNewBuffer job => exact hjob.trans (h.2.trans (le_max_right _ _))

theorem getUsedSize_requestBufferLocked (q : BufferQueue) (config : BufferRequestConfig)
    (a : Allocation) (listener : Bool) :
    (q.requestBufferLocked config a listener).2.getUsedSize ≤
      max q.getUsedSize q.unreservedSize := by
  unfold requestBufferLocked
  split
  · exact le_max_left _ _
  · rename_i updateConfig _
    have hbody := requestBufferBody_room q updateConfig listener
    have hframe := requestBufferBody_frame q updateConfig listener
    split
    · rename_i point q₁ h
      rw [h] at hbody
      exact getUsedSize_finish_le hbody a
    · rename_i config' q₁ h
      rw [h] at hbody hframe
      have hused : q₁.getUsedSize ≤ q.getUsedSize := hbody
      have hfinish := getUsedSize_finish_le (reuseBufferForBlockMode_room q₁ config') a
      have hsize : q₁.unreservedSize = q.unreservedSize := hframe.unreservedSize
      rw [hsize] at hfinish
      exact hfinish.trans (max_le_max hused le_rfl)

theorem getUsedSize_requestBuffersLoop (q : BufferQueue) (config : BufferRequestConfig)
    (as : List Allocation) :
    (q.requestBuffersLoop config as).2.2.getUsedSize ≤ max q.getUsedSize q.unreservedSize := by
  induction as generalizing q with
  | nil => exact le_max_left _ _
  | cons a as ih =>
    have hone := getUsedSize_requestBufferLocked q config a false
    have hsize := (requestBufferLocked_frame q config a false).unreservedSize
    unfold requestBuffersLoop requestBuffer
    dsimp only
    split
    · exact hone
    · have hrest := ih (q.requestBufferLocked config a false).2
      rw [hsize] at hrest
      exact hrest.trans (max_le hone (le_max_right _ _))

theorem getUsedSize_insertPreAlloc (q : BufferQueue) (config : BufferRequestConfig)
    (buffers : List SurfaceBuffer) :
    (q.insertPreAlloc config buffers).2.getUsedSize ≤ max q.getUsedSize q.unreservedSize := by
  induction buffers generalizing q with
  | nil => exact le_max_left _ _
  | cons buffer rest ih =>
    unfold insertPreAlloc
    split
    · exact le_max_left _ _
    · rename_i hroom
      refine (ih _).trans (max_le ?_ (le_max_right _ _))
      have hput : (q.bufferQueueCache.put
          { BufferElement.init buffer .released config (some invalidFence) with
            isPreAllocBuffer := true }).size ≤ q.getUsedSize + 1 := by
        simp only [getUsedSize, BufferCache.size_put]
        split_ifs <;> omega
      refine hput.trans ?_
      omega

end BufferQueue

end GraphicSurface
