import GraphicSurface.Operations

/-! What the reply of a request says about the queue that it leaves behind: a buffer that is
handed out is cached under the number in the reply and marked `REQUESTED`, an object in the reply
has that number, and a request of the producer that fails reports no deletion. -/

namespace GraphicSurface

structure RequestReply.Sound (reply : RequestReply) (listener : Bool) (q' : BufferQueue) : Prop where
  marked : reply.ret = .ok → ∃ e, q'.bufferQueueCache.find reply.retval.sequence = some e ∧
    e.state = .requested
  object : reply.ret = .ok → ∀ b, reply.retval.buffer = some b → b.seqNum = reply.retval.sequence
  quiet : listener = false → reply.ret ≠ .ok → reply.retval.deletingBuffers = []

theorem RequestReply.Sound.error {ret : GSError} (hret : ret ≠ .ok) (listener : Bool)
    (q' : BufferQueue) : (RequestReply.error ret).Sound listener q' where
  marked h := absurd h hret
  object h := absurd h hret
  quiet _ _ := rfl

def ReusePoint.Sound (listener : Bool) (q' : BufferQueue) : ReusePoint → Prop
  | .done reply => reply.Sound listener q'
  | .setupNewBuffer _ | .reallocBuffer _ => True

def RequestPoint.Sound (listener : Bool) (q' : BufferQueue) : RequestPoint → Prop
  | .reached point => point.Sound listener q'
  | .waitReq _ => True

namespace BufferQueue

variable {q q' : BufferQueue}

theorem find_pushProducerCacheList (q : BufferQueue) (sequence : ℕ) :
    (q.pushProducerCacheList sequence).bufferQueueCache = q.bufferQueueCache :=
  pushProducerCacheList_induct (P := fun q' => q'.bufferQueueCache = q.bufferQueueCache) q sequence
    fun _ _ => rfl

theorem updateReuse_sound (q : BufferQueue) (needRealloc : Bool) (sequence : ℕ) (listener : Bool) :
    (q.updateReuseBufferState needRealloc sequence listener).1.Sound listener
      (q.updateReuseBufferState needRealloc sequence listener).2 := by
  unfold updateReuseBufferState
  split
  · exact .error (by simp) _ _
  · rename_i ele he
    have hseq := BufferCache.seqNum_of_find he
    dsimp only
    split
    · cases listener with
      | true => exact ⟨by simp, by simp, by simp⟩
      | false =>
        refine ⟨fun _ => ⟨(ele.setState .requested).setDelivered, ?_, rfl⟩, fun _ b hb => ?_, by simp⟩
        · simp [deliverObject, markRequested, addDeletingBuffersLocked, he]
        · cases hb
          exact hseq
    · refine ⟨fun _ => ⟨ele.setState .requested, ?_, rfl⟩, by simp, by simp⟩
      simp [markRequested, addDeletingBuffersLocked, he]

theorem reuseBuffer_sound (q : BufferQueue) (config : BufferRequestConfig) (buffer : SurfaceBuffer)
    (listener : Bool) :
    (q.reuseBuffer config buffer listener).1.Sound listener
      (q.reuseBuffer config buffer listener).2 := by
  unfold reuseBuffer
  split
  · exact RequestReply.Sound.error (by simp) _ _
  · split
    · exact updateReuse_sound q false buffer.seqNum listener
    · split
      · exact RequestReply.Sound.error (by simp) _ _
      · trivial

theorem reuseBufferForBlockMode_sound (q : BufferQueue) (config : BufferRequestConfig) :
    (q.reuseBufferForBlockMode config).1.Sound false (q.reuseBufferForBlockMode config).2 := by
  unfold reuseBufferForBlockMode
  split
  · exact RequestReply.Sound.error (by simp) _ _
  · split
    · exact reuseBuffer_sound _ config _ false
    · exact RequestReply.Sound.error (by simp) _ _

theorem reuseBufferForNoBlockMode_sound (q : BufferQueue) (config : BufferRequestConfig) :
    (q.reuseBufferForNoBlockMode config).1.Sound false (q.reuseBufferForNoBlockMode config).2 := by
  unfold reuseBufferForNoBlockMode
  split
  · exact reuseBuffer_sound _ config _ false
  · exact RequestReply.Sound.error (by simp) _ _

theorem requestBufferBody_sound (q : BufferQueue) (config : BufferRequestConfig) (listener : Bool) :
    (q.requestBufferBody config listener).1.Sound listener
      (q.requestBufferBody config listener).2 := by
  unfold requestBufferBody
  dsimp only
  split
  · split
    · exact reuseBuffer_sound _ config _ listener
    · split
      · exact RequestReply.Sound.error (by simp) _ _
      · rename_i hproducer
        obtain rfl : listener = false := by simpa using hproducer
        split
        · split
          · trivial
          · exact reuseBufferForNoBlockMode_sound _ config
        · trivial
  · trivial

theorem finishRequest_sound {listener : Bool} {point : ReusePoint} (h : point.Sound listener q)
    (a : Allocation) :
    (q.finishRequest a point).1.Sound listener (q.finishRequest a point).2 := by
  cases point with
  | done reply => exact h
  | setupNewBuffer job =>
    unfold finishRequest allocBufferEnd
    dsimp only
    split
    · exact .error (by simp) _ _
    · rename_i buffer q₁ halloc
      split_ifs at halloc
      · cases halloc
        refine ⟨fun _ => ⟨job.element a, ?_, rfl⟩, fun _ b hb => ?_, by simp⟩
        · simp [addDeletingBuffersLocked]
        · cases hb
          rfl
      · cases halloc
  | reallocBuffer job =>
    unfold finishRequest
    dsimp only
    split
    · exact .error (by simp) _ _
    · rename_i buffer q₁ _
      have hreuse := updateReuse_sound q₁ true buffer.seqNum false
      exact ⟨hreuse.marked, hreuse.object, fun _ => hreuse.quiet rfl⟩

theorem requestBufferCheck_error {config : BufferRequestConfig} {ret : GSError}
    (hcheck : q.requestBufferCheck config = .error ret) : ret ≠ .ok := by
  unfold requestBufferCheck at hcheck
  split at hcheck
  · rename_i hstatus
    cases hcheck
    exact hstatus
  · dsimp only at hcheck
    split at hcheck
    · cases hcheck
      simp
    · cases hcheck

theorem requestBufferLocked_sound (q : BufferQueue) (config : BufferRequestConfig) (a : Allocation)
    (listener : Bool) :
    (q.requestBufferLocked config a listener).1.Sound listener
      (q.requestBufferLocked config a listener).2 := by
  unfold requestBufferLocked
  split
  · rename_i ret hcheck
    exact .error (requestBufferCheck_error hcheck) _ _
  · rename_i updateConfig _
    have hbody := requestBufferBody_sound q updateConfig listener
    split
    · rename_i point q₁ h
      rw [h] at hbody
      exact finishRequest_sound hbody a
    · rename_i config' q₁ h
      have hwait := finishRequest_sound (reuseBufferForBlockMode_sound q₁ config') a
      exact ⟨hwait.marked, hwait.object, fun _ => hwait.quiet rfl⟩

theorem requestAndDetach_ret (q : BufferQueue) (config : BufferRequestConfig) (a : Allocation) :
    (q.requestAndDetachBuffer config a).1 = (q.requestBufferLocked config a false).1 := by
  have hsound := requestBufferLocked_sound q config a false
  unfold requestAndDetachBuffer
  dsimp only
  split
  · rfl
  · rename_i hret
    have hret := not_not.mp hret
    obtain ⟨e, he, hs⟩ := hsound.marked hret
    have hcheck : (q.requestBufferLocked config a false).2.detachBufferCheck
        (q.requestBufferLocked config a false).1.retval.sequence .producerInvoker = .ok := by
      simp [detachBufferCheck, he, hs]
    unfold detachBufferFromQueueLocked
    simp only [hcheck, ne_eq, not_true_eq_false, if_false]
    rw [← hret]

end BufferQueue

end GraphicSurface
