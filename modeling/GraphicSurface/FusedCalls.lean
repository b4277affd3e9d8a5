import GraphicSurface.ReservedSlots

/-! The fused calls against the calls that they stand for. -/

namespace GraphicSurface

namespace BufferQueue

/-- `RequestBuffer`, and at once `DetachBufferFromQueue` of the buffer that it returned. -/
def requestThenDetach (q : BufferQueue) (config : BufferRequestConfig) (a : Allocation) :
    RequestReply × BufferQueue :=
  match q.requestBuffer config a with
  | (reply, q) =>
    if reply.ret ≠ .ok then (reply, q)
    else
      match q.detachBufferFromQueue reply.retval.sequence .producerInvoker false with
      | (ret, q) => ({ reply with ret := ret }, q)

/-- `AttachBufferToQueue` by the producer, and at once `FlushBuffer` of the same buffer. -/
def attachThenFlush (q : BufferQueue) (buffer : SurfaceBuffer) (bedata : Option ExtraData)
    (fence : SyncFence) (config : BufferFlushConfigWithDamages) (env : FlushEnv) :
    GSError × BufferQueue :=
  match q.attachBufferToQueue buffer .producerInvoker with
  | (ret, q) =>
    if ret ≠ .ok then (ret, q) else q.flushBuffer buffer.seqNum bedata fence config env

variable {q : BufferQueue}

theorem requestAndDetachBuffer_eq (q : BufferQueue) (config : BufferRequestConfig)
    (a : Allocation) : q.requestAndDetachBuffer config a = q.requestThenDetach config a := rfl

theorem flushBufferImprovedLocked_eq (h : q.listenerRegistered) (sequence : ℕ)
    (bedata : Option ExtraData) (fence : SyncFence) (config : BufferFlushConfigWithDamages)
    (env : FlushEnv) :
    q.flushBufferImprovedLocked sequence bedata fence config env =
      q.flushBuffer sequence bedata fence config env := by
  unfold flushBufferImprovedLocked flushBuffer
  simp only [h, Bool.not_true, Bool.false_eq_true, if_false]

theorem listenerRegistered_attachBufferToQueueLocked (q : BufferQueue) (buffer : SurfaceBuffer)
    (invokerType : InvokerType) :
    (q.attachBufferToQueueLocked buffer invokerType).2.listenerRegistered =
      q.listenerRegistered := by
  unfold attachBufferToQueueLocked
  split_ifs
  · rfl
  · rfl
  · rfl
  · cases invokerType <;> rfl

theorem attachAndFlushBuffer_eq (h : q.listenerRegistered) (buffer : SurfaceBuffer)
    (bedata : Option ExtraData) (fence : SyncFence) (config : BufferFlushConfigWithDamages)
    (env : FlushEnv) :
    (q.attachAndFlushBuffer buffer bedata fence config env).1 =
        (q.attachThenFlush buffer bedata fence config env).1 ∧
      ((q.attachThenFlush buffer bedata fence config env).1 = .ok →
        (q.attachAndFlushBuffer buffer bedata fence config env).2 =
          (q.attachThenFlush buffer bedata fence config env).2) := by
  have hlistener := listenerRegistered_attachBufferToQueueLocked q buffer .producerInvoker
  rw [h] at hlistener
  unfold attachAndFlushBuffer attachThenFlush attachBufferToQueue
  generalize q.attachBufferToQueueLocked buffer .producerInvoker = attached at hlistener
  obtain ⟨ret, q₁⟩ := attached
  dsimp only at hlistener ⊢
  by_cases hret : ret ≠ .ok
  · rw [if_pos hret, if_pos hret]
    exact ⟨rfl, fun _ => rfl⟩
  · rw [if_neg hret, if_neg hret, flushBufferImprovedLocked_eq hlistener]
    generalize q₁.flushBuffer buffer.seqNum bedata fence config env = flushed
    obtain ⟨ret₂, q₂⟩ := flushed
    dsimp only
    by_cases hret₂ : ret₂ ≠ .ok
    · rw [if_pos hret₂]
      exact ⟨rfl, fun hok => absurd hok hret₂⟩
    · rw [if_neg hret₂]
      exact ⟨rfl, fun _ => rfl⟩

end BufferQueue

/-- From every state, the fused request is the request followed by the detach, and with a consumer
listening the fused attach succeeds when the two calls do and then leaves the same queue. -/
theorem fused_calls_refine (q : BufferQueue) :
    (∀ config a, q.requestAndDetachBuffer config a = q.requestThenDetach config a) ∧
      (q.listenerRegistered → ∀ buffer bedata fence config env,
        ((q.attachAndFlushBuffer buffer bedata fence config env).1 = .ok ↔
            (q.attachThenFlush buffer bedata fence config env).1 = .ok) ∧
          ((q.attachAndFlushBuffer buffer bedata fence config env).1 = .ok →
            (q.attachAndFlushBuffer buffer bedata fence config env).2 =
              (q.attachThenFlush buffer bedata fence config env).2)) := by
  refine ⟨BufferQueue.requestAndDetachBuffer_eq q, ?_⟩
  intro h buffer bedata fence config env
  obtain ⟨hret, hqueue⟩ := BufferQueue.attachAndFlushBuffer_eq h buffer bedata fence config env
  rw [hret]
  exact ⟨Iff.rfl, hqueue⟩

theorem fused_calls_refine_listening :
    (({ listener := true } : BufferQueue).attachAndFlushBuffer (sampleBuffer 1) (some ∅)
        invalidFence ⟨[], 0, 0⟩ ⟨.ok, 7⟩).2 =
      (({ listener := true } : BufferQueue).attachThenFlush (sampleBuffer 1) (some ∅)
        invalidFence ⟨[], 0, 0⟩ ⟨.ok, 7⟩).2 :=
  ((fused_calls_refine { listener := true }).2 rfl (sampleBuffer 1) (some ∅) invalidFence
    ⟨[], 0, 0⟩ ⟨.ok, 7⟩).2 (by decide)

end GraphicSurface
