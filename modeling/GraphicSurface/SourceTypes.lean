import GraphicSurface.RequestOutcome

/-! A request does not look at the `sourceType` of any configuration, neither its own nor those in
the cache; it only carries them along. So requests that differ in nothing else run alike. -/

namespace GraphicSurface

def SurfaceBuffer.stamp (sourceType : Int) (b : SurfaceBuffer) : SurfaceBuffer :=
  { b with bufferRequestConfig := b.bufferRequestConfig.withSource sourceType }

/-- The element as if everything had been requested from this source. -/
def BufferElement.stamp (sourceType : Int) (e : BufferElement) : BufferElement :=
  { e with buffer := e.buffer.stamp sourceType, config := e.config.withSource sourceType }

theorem BufferElement.stamp_seqNum (sourceType : Int) (e : BufferElement) :
    (e.stamp sourceType).buffer.seqNum = e.buffer.seqNum := rfl

namespace BufferCache

variable (c : BufferCache) (sourceType : Int)

def stamp : BufferCache :=
  c.mapAll (BufferElement.stamp sourceType) (BufferElement.stamp_seqNum sourceType)

@[simp] theorem find_stamp (k : ℕ) :
    (c.stamp sourceType).find k = (c.find k).map (BufferElement.stamp sourceType) :=
  c.find_mapAll _ _ k

@[simp] theorem size_stamp : (c.stamp sourceType).size = c.size :=
  c.size_mapAll _ _

@[simp] theorem keys_stamp : (c.stamp sourceType).keys = c.keys :=
  Std.ExtTreeMap.keys_map

theorem put_stamp (e : BufferElement) :
    (c.stamp sourceType).put (e.stamp sourceType) = (c.put e).stamp sourceType := by
  ext1 k
  simp only [find_put, find_stamp, BufferElement.stamp_seqNum]
  split_ifs <;> rfl

theorem erase_stamp (k : ℕ) : (c.stamp sourceType).erase k = (c.erase k).stamp sourceType := by
  ext1 j
  simp only [find_erase, find_stamp]
  split_ifs <;> rfl

theorem modify_stamp (k : ℕ) {f : BufferElement → BufferElement}
    (hf : ∀ e, (f e).buffer.seqNum = e.buffer.seqNum)
    (hstamp : ∀ e, f (e.stamp sourceType) = (f e).stamp sourceType) :
    (c.stamp sourceType).modify k f hf = (c.modify k f hf).stamp sourceType := by
  ext1 j
  simp only [find_modify, find_stamp]
  split_ifs
  · cases c.find j with
    | none => rfl
    | some e => exact congrArg some (hstamp e)
  · rfl

end BufferCache

def RequestReply.stamp (sourceType : Int) (reply : RequestReply) : RequestReply :=
  { reply with retval := { reply.retval with
      buffer := reply.retval.buffer.map (SurfaceBuffer.stamp sourceType) } }

def ReusePoint.stamp (sourceType : Int) : ReusePoint → ReusePoint
  | .done reply => .done (reply.stamp sourceType)
  | .setupNewBuffer job => .setupNewBuffer { job with config := job.config.withSource sourceType }
  | .reallocBuffer job => .reallocBuffer { job with config := job.config.withSource sourceType }

def RequestPoint.stamp (sourceType : Int) : RequestPoint → RequestPoint
  | .reached point => .reached (point.stamp sourceType)
  | .waitReq config => .waitReq (config.withSource sourceType)

namespace BufferQueue

variable (q : BufferQueue) (sourceType : Int) (config : BufferRequestConfig)

def stamp : BufferQueue := { q with bufferQueueCache := q.bufferQueueCache.stamp sourceType }

@[simp] theorem getUsedSize_stamp : (q.stamp sourceType).getUsedSize = q.getUsedSize :=
  q.bufferQueueCache.size_stamp sourceType

theorem reusable_stamp (sequence : ℕ) :
    (q.stamp sourceType).reusable (config.withSource sourceType) sequence =
      q.reusable config sequence := by
  unfold reusable stamp
  dsimp only
  rw [BufferCache.find_stamp]
  cases q.bufferQueueCache.find sequence <;> rfl

theorem popFrontFree_stamp :
    (q.stamp sourceType).popFrontFree (config.withSource sourceType) =
      ((q.popFrontFree config).1.map (SurfaceBuffer.stamp sourceType),
        (q.popFrontFree config).2.stamp sourceType) := by
  have hrotate : (q.stamp sourceType).rotateLocked = q.rotateLocked := rfl
  unfold popFrontFree
  rw [hrotate]
  cases q.rotateLocked with
  | nil => rfl
  | cons front rest =>
    dsimp only
    cases he : q.bufferQueueCache.find front with
    | none =>
      have he' : (q.stamp sourceType).bufferQueueCache.find front = none := by simp [stamp, he]
      rw [he']
      rfl
    | some e =>
      have he' : (q.stamp sourceType).bufferQueueCache.find front = some (e.stamp sourceType) := by
        simp [stamp, he]
      rw [he']
      dsimp only
      refine Prod.ext rfl ?_
      simp only [stamp, BufferQueue.mk.injEq, true_and, and_true]
      exact q.bufferQueueCache.modify_stamp sourceType front _ fun _ => rfl

theorem popFromFreeListLocked_stamp :
    (q.stamp sourceType).popFromFreeListLocked (config.withSource sourceType) =
      ((q.popFromFreeListLocked config).1.map (SurfaceBuffer.stamp sourceType),
        (q.popFromFreeListLocked config).2.stamp sourceType) := by
  have hfind : (q.stamp sourceType).freeList.find?
      ((q.stamp sourceType).reusable (config.withSource sourceType)) =
      q.freeList.find? (q.reusable config) := by
    rw [funext (reusable_stamp q sourceType config)]
    rfl
  unfold popFromFreeListLocked
  rw [hfind]
  cases q.freeList.find? (q.reusable config) with
  | some sequence =>
    refine Prod.ext ?_ rfl
    simp only [stamp, BufferCache.find_stamp, Option.map_map]
    rfl
  | none =>
    dsimp only
    rw [popFrontFree_stamp, getUsedSize_stamp]
    change (if q.freeList = [] ∨ q.getUsedSize < q.unreservedSize ∨
      q.freeList = [q.acquireLastFlushedBufSequence] then _ else _) = _
    split_ifs <;> rfl

theorem popFromDirtyListLocked_stamp :
    (q.stamp sourceType).popFromDirtyListLocked =
      (q.popFromDirtyListLocked.1.map (SurfaceBuffer.stamp sourceType),
        q.popFromDirtyListLocked.2.stamp sourceType) := by
  have hdirty : (q.stamp sourceType).dirtyList = q.dirtyList := rfl
  unfold popFromDirtyListLocked
  rw [hdirty]
  cases q.dirtyList with
  | nil => rfl
  | cons front rest =>
    dsimp only
    cases he : q.bufferQueueCache.find front with
    | none =>
      have he' : (q.stamp sourceType).bufferQueueCache.find front = none := by simp [stamp, he]
      rw [he']
      rfl
    | some e =>
      have he' : (q.stamp sourceType).bufferQueueCache.find front = some (e.stamp sourceType) := by
        simp [stamp, he]
      rw [he']
      rfl

theorem deleteNoWait_stamp (sequence : ℕ) :
    (q.stamp sourceType).deleteBufferInCacheNoWaitForAllocatingState sequence =
      (q.deleteBufferInCacheNoWaitForAllocatingState sequence).stamp sourceType := by
  have herase : (q.stamp sourceType).bufferQueueCache.erase sequence =
      (q.bufferQueueCache.erase sequence).stamp sourceType :=
    q.bufferQueueCache.erase_stamp sourceType sequence
  unfold deleteBufferInCacheNoWaitForAllocatingState
  cases he : q.bufferQueueCache.find sequence with
  | none =>
    have he' : (q.stamp sourceType).bufferQueueCache.find sequence = none := by simp [stamp, he]
    rw [he']
  | some e =>
    have he' : (q.stamp sourceType).bufferQueueCache.find sequence = some (e.stamp sourceType) := by
      simp [stamp, he]
    have hprealloc : (e.stamp sourceType).isPreAllocBuffer = e.isPreAllocBuffer := rfl
    rw [he']
    dsimp only
    rw [herase, hprealloc]
    split <;> rfl

theorem pushProducerCacheList_stamp (sequence : ℕ) :
    (q.stamp sourceType).pushProducerCacheList sequence =
      (q.pushProducerCacheList sequence).stamp sourceType := by
  have hcheck (l : List ℕ) :
      checkProducerCacheListLocked { q.stamp sourceType with producerCacheList := l } =
        checkProducerCacheListLocked { q with producerCacheList := l } := by
    unfold checkProducerCacheListLocked stamp
    rw [BufferCache.keys_stamp]
  unfold pushProducerCacheList
  rw [hcheck]
  have hclean : (q.stamp sourceType).producerCacheClean = q.producerCacheClean := rfl
  rw [hclean]
  split
  · rfl
  · change (if checkProducerCacheListLocked { q with
      producerCacheList := q.producerCacheList ++ [sequence] } = true then _ else _) = _
    split_ifs <;> rfl

theorem modifyCache_stamp {f : BufferElement → BufferElement}
    (hf : ∀ e, (f e).buffer.seqNum = e.buffer.seqNum)
    (hstamp : ∀ e, f (e.stamp sourceType) = (f e).stamp sourceType) (sequence : ℕ) :
    { q.stamp sourceType with
      bufferQueueCache := (q.stamp sourceType).bufferQueueCache.modify sequence f hf } =
      BufferQueue.stamp
        { q with bufferQueueCache := q.bufferQueueCache.modify sequence f hf } sourceType := by
  simp only [stamp, BufferQueue.mk.injEq, true_and, and_true]
  exact q.bufferQueueCache.modify_stamp sourceType sequence hf hstamp

theorem updateReuseBufferState_stamp (needRealloc : Bool) (sequence : ℕ) :
    (q.stamp sourceType).updateReuseBufferState needRealloc sequence false =
      ((q.updateReuseBufferState needRealloc sequence false).1.stamp sourceType,
        (q.updateReuseBufferState needRealloc sequence false).2.stamp sourceType) := by
  have hmark : (q.stamp sourceType).markRequested sequence =
      (q.markRequested sequence).stamp sourceType :=
    q.modifyCache_stamp sourceType (BufferElement.setState_seqNum _) (fun _ => rfl) sequence
  unfold updateReuseBufferState
  rw [hmark]
  cases he : q.bufferQueueCache.find sequence with
  | none =>
    have he' : (q.stamp sourceType).bufferQueueCache.find sequence = none := by simp [stamp, he]
    rw [he']
    rfl
  | some e =>
    have he' : (q.stamp sourceType).bufferQueueCache.find sequence = some (e.stamp sourceType) := by
      simp [stamp, he]
    rw [he']
    generalize q.markRequested sequence = p
    have hadd : (p.stamp sourceType).addDeletingBuffersLocked [] =
        ((p.addDeletingBuffersLocked []).1, (p.addDeletingBuffersLocked []).2.stamp sourceType) := rfl
    have hneeds (p : BufferQueue) : (p.stamp sourceType).needsObject needRealloc (e.stamp sourceType) =
        p.needsObject needRealloc e := rfl
    have hdeliver (p : BufferQueue) : (p.stamp sourceType).deliverObject sequence =
        (p.deliverObject sequence).stamp sourceType := by
      unfold deliverObject
      rw [pushProducerCacheList_stamp]
      simp only [stamp, BufferQueue.mk.injEq, true_and, and_true]
      exact p.bufferQueueCache.modify_stamp sourceType sequence _ fun _ => rfl
    dsimp only
    rw [hadd]
    dsimp only
    rw [hneeds]
    simp only [Bool.false_eq_true, if_false]
    split_ifs
    · rw [hdeliver]
      rfl
    · rfl

theorem reuseBuffer_stamp (buffer : SurfaceBuffer) :
    (q.stamp sourceType).reuseBuffer (config.withSource sourceType) (buffer.stamp sourceType) false =
      ((q.reuseBuffer config buffer false).1.stamp sourceType,
        (q.reuseBuffer config buffer false).2.stamp sourceType) := by
  have hseq : (buffer.stamp sourceType).seqNum = buffer.seqNum := rfl
  unfold reuseBuffer
  rw [hseq]
  cases he : q.bufferQueueCache.find buffer.seqNum with
  | none =>
    have he' : (q.stamp sourceType).bufferQueueCache.find buffer.seqNum = none := by
      simp [stamp, he]
    rw [he']
    rfl
  | some e =>
    have he' : (q.stamp sourceType).bufferQueueCache.find buffer.seqNum =
        some (e.stamp sourceType) := by simp [stamp, he]
    have hsame : (config.withSource sourceType).same (e.stamp sourceType).config =
        config.same e.config := rfl
    rw [he']
    dsimp only
    rw [hsame, updateReuseBufferState_stamp]
    split
    · rfl
    · unfold reallocBufferLocked
      rw [deleteNoWait_stamp]
      rfl

theorem reuseBufferForBlockMode_stamp :
    (q.stamp sourceType).reuseBufferForBlockMode (config.withSource sourceType) =
      ((q.reuseBufferForBlockMode config).1.stamp sourceType,
        (q.reuseBufferForBlockMode config).2.stamp sourceType) := by
  have hstatus : (!(q.stamp sourceType).isValidStatus && !(q.stamp sourceType).isBatch) =
      (!q.isValidStatus && !q.isBatch) := rfl
  unfold reuseBufferForBlockMode
  rw [hstatus, popFromFreeListLocked_stamp]
  split
  · rfl
  · cases q.popFromFreeListLocked config with
    | mk found q₁ =>
      cases found with
      | none => rfl
      | some buffer => exact q₁.reuseBuffer_stamp sourceType config buffer

theorem reuseBufferForNoBlockMode_stamp :
    (q.stamp sourceType).reuseBufferForNoBlockMode (config.withSource sourceType) =
      ((q.reuseBufferForNoBlockMode config).1.stamp sourceType,
        (q.reuseBufferForNoBlockMode config).2.stamp sourceType) := by
  unfold reuseBufferForNoBlockMode
  rw [popFromDirtyListLocked_stamp]
  cases q.popFromDirtyListLocked with
  | mk found q₁ =>
    cases found with
    | none => rfl
    | some buffer =>
      have hcolour := q₁.modifyCache_stamp sourceType
        (BufferElement.recolour_seqNum config.colorGamut config.transform) (fun _ => rfl) buffer.seqNum
      dsimp only [Option.map_some]
      exact (congrArg (fun p => p.reuseBuffer (config.withSource sourceType)
        ((buffer.setColorGamutAndTransform config.colorGamut config.transform).stamp sourceType) false)
        hcolour).trans (reuseBuffer_stamp _ sourceType config _)

theorem requestBufferCheck_stamp :
    (q.stamp sourceType).requestBufferCheck (config.withSource sourceType) =
      (q.requestBufferCheck config).map (·.withSource sourceType) :=
  q.requestBufferCheck_withSource config sourceType

theorem requestBufferBody_stamp :
    (q.stamp sourceType).requestBufferBody (config.withSource sourceType) false =
      ((q.requestBufferBody config false).1.stamp sourceType,
        (q.requestBufferBody config false).2.stamp sourceType) := by
  have hpriority : ((q.stamp sourceType).isPriorityAlloc &&
      decide ((q.stamp sourceType).getUsedSize < (q.stamp sourceType).unreservedSize)) =
      (q.isPriorityAlloc && decide (q.getUsedSize < q.unreservedSize)) := by
    rw [getUsedSize_stamp]
    rfl
  unfold requestBufferBody
  dsimp only
  rw [hpriority, popFromFreeListLocked_stamp]
  split
  · cases q.popFromFreeListLocked config with
    | mk found q₁ =>
      cases found with
      | some buffer =>
        dsimp only [Option.map_some]
        rw [reuseBuffer_stamp]
        rfl
      | none =>
        have hfull : ((q₁.stamp sourceType).unreservedSize ≤ (q₁.stamp sourceType).getUsedSize) =
            (q₁.unreservedSize ≤ q₁.getUsedSize) := by
          rw [getUsedSize_stamp]
          rfl
        have hblock : (q₁.stamp sourceType).requestBufferNoBlockMode =
            q₁.requestBufferNoBlockMode := rfl
        dsimp only [Option.map_none]
        rw [hblock, reuseBufferForNoBlockMode_stamp]
        simp only [hfull, Bool.false_eq_true, if_false]
        split_ifs <;> rfl
  · rfl

theorem allocBufferEnd_stamp (job : AllocJob) (a : Allocation) :
    (q.stamp sourceType).allocBufferEnd { job with config := job.config.withSource sourceType } a =
      ((q.allocBufferEnd job a).1.map (SurfaceBuffer.stamp sourceType),
        (q.allocBufferEnd job a).2.stamp sourceType) := by
  have hput := q.bufferQueueCache.put_stamp sourceType (job.element a)
  unfold allocBufferEnd
  change (if (a.alloc && (job.config.usage &&& bufferUsageProtected != 0 || a.map)) = true then _
    else _ : Option SurfaceBuffer × BufferQueue) = _
  split_ifs
  · refine Prod.ext rfl ?_
    simp only [stamp, BufferQueue.mk.injEq, true_and, and_true]
    exact hput
  · rfl

theorem finishRequest_stamp (a : Allocation) (point : ReusePoint) :
    (q.stamp sourceType).finishRequest a (point.stamp sourceType) =
      ((q.finishRequest a point).1.stamp sourceType, (q.finishRequest a point).2.stamp sourceType) := by
  cases point with
  | done reply => rfl
  | setupNewBuffer job =>
    unfold finishRequest ReusePoint.stamp
    dsimp only
    rw [allocBufferEnd_stamp]
    cases q.allocBufferEnd job a with
    | mk found q₁ => cases found <;> rfl
  | reallocBuffer job =>
    unfold finishRequest ReusePoint.stamp
    dsimp only
    rw [allocBufferEnd_stamp]
    cases q.allocBufferEnd job a with
    | mk found q₁ =>
      cases found with
      | none => rfl
      | some buffer => exact q₁.updateReuseBufferState_stamp sourceType true buffer.seqNum

theorem requestBuffer_stamp (a : Allocation) :
    (q.stamp sourceType).requestBuffer (config.withSource sourceType) a =
      ((q.requestBuffer config a).1.stamp sourceType, (q.requestBuffer config a).2.stamp sourceType) := by
  unfold requestBuffer requestBufferLocked
  rw [requestBufferCheck_stamp]
  cases q.requestBufferCheck config with
  | error ret => rfl
  | ok updateConfig =>
    simp only [Except.map]
    rw [requestBufferBody_stamp]
    cases q.requestBufferBody updateConfig false with
    | mk point q₁ =>
      cases point with
      | reached point => exact q₁.finishRequest_stamp sourceType a point
      | waitReq config =>
        have hwait := q₁.reuseBufferForBlockMode_stamp sourceType config
        simp only [RequestPoint.stamp, hwait]
        exact finishRequest_stamp _ sourceType a _

theorem requestBuffersLoop_stamp (as : List Allocation) :
    (q.stamp sourceType).requestBuffersLoop (config.withSource sourceType) as =
      ((q.requestBuffersLoop config as).1,
        (q.requestBuffersLoop config as).2.1.map (RequestReply.stamp sourceType),
        (q.requestBuffersLoop config as).2.2.stamp sourceType) := by
  induction as generalizing q with
  | nil => rfl
  | cons a as ih =>
    unfold requestBuffersLoop
    rw [requestBuffer_stamp]
    have hret : ((q.requestBuffer config a).1.stamp sourceType).ret =
        (q.requestBuffer config a).1.ret := rfl
    dsimp only
    rw [hret, ih]
    split_ifs <;> rfl

theorem requestBuffersLoop_withSource (as : List Allocation) :
    (q.requestBuffersLoop (config.withSource sourceType) as).1 = (q.requestBuffersLoop config as).1 ∧
      (q.requestBuffersLoop (config.withSource sourceType) as).2.1.map (RequestReply.stamp sourceType) =
        (q.requestBuffersLoop config as).2.1.map (RequestReply.stamp sourceType) := by
  have hsame := (requestBuffersLoop_stamp q sourceType (config.withSource sourceType) as).symm.trans
    (requestBuffersLoop_stamp q sourceType config as)
  obtain ⟨hret, hrest⟩ := Prod.mk.inj hsame
  exact ⟨hret, (Prod.mk.inj hrest).1⟩

end BufferQueue

end GraphicSurface
