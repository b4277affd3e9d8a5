import GraphicSurface.Agreement
import GraphicSurface.ProducerSurface

/-! What the calls of a surface do to its queue: each of them is a few operations of the queue, so a
queue behind a surface is a reachable one. -/

namespace GraphicSurface

open Runs

/-- Some operations of the queue lead from `q` to `q'`. -/
def Operates (q q' : BufferQueue) : Prop := ∃ ops, Run QueueStep q ops q'

namespace Operates

variable {q q₁ q' : BufferQueue}

theorem refl (q : BufferQueue) : Operates q q := ⟨[], .nil⟩

theorem trans (h : Operates q q₁) (h' : Operates q₁ q') : Operates q q' := by
  obtain ⟨ops, run⟩ := h
  obtain ⟨ops', run'⟩ := h'
  exact ⟨ops ++ ops', run.append run'⟩

theorem op (op : Op) (hfresh : op.Fresh q) (hfault : (op.next q).fault = false) :
    Operates q (op.next q) :=
  ⟨[op], .single ⟨hfresh, rfl, hfault⟩⟩

theorem reachable (h : Operates q q') (hq : Reachable q) : Reachable q' := by
  obtain ⟨s, ops, run⟩ := hq
  obtain ⟨ops', run'⟩ := h
  exact ⟨s, ops ++ ops', run.append run'⟩

end Operates

namespace BufferQueueProducer

variable {s : BufferQueueProducer}

/-- `Connect` leaves the queue alone or writes the pid. -/
theorem connect_operates (s : BufferQueueProducer) (callingPid : Int)
    (hfault : s.bufferQueue.fault = false) :
    Operates s.bufferQueue (s.connect callingPid).2.bufferQueue := by
  by_cases h : (s.connect callingPid).1 = .ok
  · rw [connect_of_ok h]
    exact .op (.configure (.setConnectedPidLocked callingPid)) trivial hfault
  · rw [connect_of_error h]
    exact .refl _

theorem connect_cache (s : BufferQueueProducer) (callingPid : Int) :
    (s.connect callingPid).2.bufferQueue.bufferQueueCache = s.bufferQueue.bufferQueueCache := by
  unfold connect
  split_ifs <;> rfl

end BufferQueueProducer

namespace ProducerSurface

/-- Only the two caches and the count of crossings may differ. -/
structure SameBehind (s s' : ProducerSurface) : Prop where
  producer : s'.producer = s.producer
  mLockedBuffer : s'.mLockedBuffer = s.mLockedBuffer
  fault : s'.fault = s.fault

namespace SameBehind

variable {s s₁ s' : ProducerSurface}

theorem refl (s : ProducerSurface) : SameBehind s s := ⟨rfl, rfl, rfl⟩

theorem trans (h : SameBehind s s₁) (h' : SameBehind s₁ s') : SameBehind s s' :=
  ⟨h'.producer.trans h.producer, h'.mLockedBuffer.trans h.mLockedBuffer, h'.fault.trans h.fault⟩

theorem queue (h : SameBehind s s') : s'.queue = s.queue :=
  congrArg BufferQueueProducer.bufferQueue h.producer

theorem foldl {α : Type} {f : ProducerSurface → α → ProducerSurface}
    (hone : ∀ s a, SameBehind s (f s a)) (l : List α) (s : ProducerSurface) :
    SameBehind s (l.foldl f s) := by
  induction l generalizing s with
  | nil => exact .refl s
  | cons a l ih => exact (hone s a).trans (ih (f s a))

end SameBehind

variable (link : Link) (s : ProducerSurface)

theorem deleteCacheBufferLocked_same (deletingBuffers : List ℕ) :
    SameBehind s (s.deleteCacheBufferLocked deletingBuffers) :=
  .foldl (fun s seqNum => (⟨rfl, rfl, rfl⟩ : SameBehind s (s.eraseBuffer seqNum))) deletingBuffers s

theorem syncProducerCacheLocked_same : SameBehind s (s.syncProducerCacheLocked link) := by
  unfold syncProducerCacheLocked
  dsimp only
  split
  · exact .foldl (fun s e => (⟨rfl, rfl, rfl⟩ : SameBehind s (s.keepReceived link e))) _ s
  · exact .refl s

theorem addCacheLocked_same (retval : RequestBufferReturnValue) :
    SameBehind s (s.addCacheLocked link retval).2 := by
  unfold addCacheLocked
  dsimp only [receive]
  split
  · refine SameBehind.trans ?_ (deleteCacheBufferLocked_same _ _)
    exact ⟨rfl, rfl, rfl⟩
  · split
    · exact s.deleteCacheBufferLocked_same _
    · exact (s.syncProducerCacheLocked_same link).trans (deleteCacheBufferLocked_same _ _)

theorem updateCacheLocked_same (retval : RequestBufferReturnValue) :
    SameBehind s (s.updateCacheLocked link retval).2 := by
  unfold updateCacheLocked
  cases retval.buffer with
  | some buffer =>
    refine SameBehind.trans ?_ (deleteCacheBufferLocked_same _ _)
    exact ⟨rfl, rfl, rfl⟩
  | none =>
    dsimp only
    split
    · exact s.deleteCacheBufferLocked_same _
    · refine SameBehind.trans ?_ (deleteCacheBufferLocked_same _ _)
      exact ⟨rfl, rfl, rfl⟩

theorem addCachesLocked_same (retvalues : List RequestBufferReturnValue) :
    SameBehind s (s.addCachesLocked link retvalues).2 := by
  induction retvalues generalizing s with
  | nil => exact .refl s
  | cons retval retvalues ih => exact (s.addCacheLocked_same link retval).trans (ih _)

theorem addAttachedLocked_same (buffer : BufferRef) :
    SameBehind s (s.addAttachedLocked buffer) := by
  unfold addAttachedLocked
  split_ifs
  · exact .refl s
  · exact ⟨rfl, rfl, rfl⟩
  · exact ⟨rfl, rfl, rfl⟩

theorem cleanReleased_same (cleanedSeqNums : List ℕ) :
    SameBehind s (cleanedSeqNums.foldl eraseBuffer s) :=
  s.deleteCacheBufferLocked_same cleanedSeqNums

variable {s}

theorem cleanCacheLocked_operates (hfault : s.queue.fault = false) :
    Operates s.queue (s.cleanCacheLocked link).2.queue := by
  rw [cleanCacheLocked_eq]
  split
  · exact .op .cleanCache trivial hfault
  · exact .refl _

theorem cleanCacheLocked_fault : (s.cleanCacheLocked link).2.queue.fault = s.queue.fault := by
  rw [cleanCacheLocked_eq]
  split <;> rfl

theorem cleanIf_operates (c : Prop) [Decidable c] (hfault : s.queue.fault = false) :
    Operates s.queue (if c then (s.cleanCacheLocked link).2 else s).queue := by
  split
  · exact cleanCacheLocked_operates link hfault
  · exact .refl _

theorem cleanIf_fault (c : Prop) [Decidable c] :
    (if c then (s.cleanCacheLocked link).2 else s).queue.fault = s.queue.fault := by
  split
  · exact cleanCacheLocked_fault link
  · rfl

theorem requestFailed_queue (reply : RequestReply) :
    (s.requestFailed link reply).2.queue =
      (if reply.ret = .noConsumer then (s.cleanCacheLocked link).2 else s).queue := by
  unfold requestFailed
  dsimp only
  split <;> rfl

variable (s) in
theorem requestWith_operates
    (request : BufferQueue → BufferRequestConfig → Allocation → RequestReply × BufferQueue)
    (config : BufferRequestConfig) (a : Allocation) (op : Op)
    (hnext : ∀ q, op.next q = (request q config a).2)
    (hfresh : ∀ q, q.bufferQueueCache = s.queue.bufferQueueCache → op.Fresh q)
    (hfault : s.queue.fault = false)
    (hend : (BufferQueueProducer.requestWith request s.producer link.callingPid config
      a).2.bufferQueue.fault = false) :
    Operates s.queue (BufferQueueProducer.requestWith request s.producer link.callingPid config
      a).2.bufferQueue := by
  have hconnect := s.producer.connect_operates link.callingPid hfault
  have hcache := s.producer.connect_cache link.callingPid
  unfold BufferQueueProducer.requestWith at hend ⊢
  generalize s.producer.connect link.callingPid = r at hconnect hcache hend ⊢
  obtain ⟨ret, p⟩ := r
  dsimp only at hend ⊢
  split at hend
  · rename_i hret
    rw [if_pos hret]
    exact hconnect
  · rename_i hret
    rw [if_neg hret]
    refine hconnect.trans ?_
    have hop := Operates.op op (hfresh _ hcache) ((congrArg BufferQueue.fault (hnext _)).trans hend)
    rw [hnext] at hop
    exact hop

theorem endOfRequest_operates {q : BufferQueue} (reply : RequestReply)
    {add : ProducerSurface → RequestBufferReturnValue → Option BufferRef × ProducerSurface}
    (hadd : ∀ s retval, SameBehind s (add s retval).2)
    (hstart : s.queue.fault = false → Operates q s.queue)
    (hend : (if reply.ret ≠ .ok then s.requestFailed link reply
      else ({ ret := .ok, buffers := [(add { s with isDisconnected := false } reply.retval).1]
              fences := [reply.retval.fence] },
        (add { s with isDisconnected := false } reply.retval).2)).2.queue.fault = false) :
    Operates q (if reply.ret ≠ .ok then s.requestFailed link reply
      else ({ ret := .ok, buffers := [(add { s with isDisconnected := false } reply.retval).1]
              fences := [reply.retval.fence] },
        (add { s with isDisconnected := false } reply.retval).2)).2.queue := by
  split at hend
  · rename_i hret
    rw [requestFailed_queue, cleanIf_fault] at hend
    rw [if_pos hret, requestFailed_queue]
    exact (hstart hend).trans (cleanIf_operates link _ hend)
  · rename_i hret
    have hqueue := (hadd { s with isDisconnected := false } reply.retval).queue
    rw [if_neg hret, hqueue]
    exact hstart ((congrArg BufferQueue.fault hqueue).symm.trans hend)

theorem requestBufferLocked_operates (config : BufferRequestConfig) (a : Allocation)
    (hfresh : (Op.requestBuffer config a).Fresh s.queue) (hfault : s.queue.fault = false)
    (hend : (s.requestBufferLocked link config a).2.queue.fault = false) :
    Operates s.queue (s.requestBufferLocked link config a).2.queue :=
  endOfRequest_operates link _ (addCacheLocked_same link)
    (s.requestWith_operates link BufferQueue.requestBuffer config a (.requestBuffer config a)
      (fun _ => rfl)
      (fun _ hq => (congrArg (fun c : BufferCache => c.find a.sequence = none) hq).mpr hfresh)
      hfault) hend

theorem requestAndDetachBuffer_operates (config : BufferRequestConfig) (a : Allocation)
    (hfresh : (Op.requestAndDetachBuffer config a).Fresh s.queue) (hfault : s.queue.fault = false)
    (hend : (s.requestAndDetachBuffer link config a).2.queue.fault = false) :
    Operates s.queue (s.requestAndDetachBuffer link config a).2.queue :=
  endOfRequest_operates link _ (updateCacheLocked_same link)
    (s.requestWith_operates link BufferQueue.requestAndDetachBuffer config a
      (.requestAndDetachBuffer config a) (fun _ => rfl)
      (fun _ hq => (congrArg (fun c : BufferCache => c.find a.sequence = none) hq).mpr hfresh)
      hfault) hend

theorem requestBatch_operates (config : BufferRequestConfig) (as : List Allocation)
    (hfresh : (Op.requestBuffers config as).Fresh s.queue) (hfault : s.queue.fault = false)
    (hend : (s.producer.requestBuffers link.callingPid config as).2.2.bufferQueue.fault = false) :
    Operates s.queue (s.producer.requestBuffers link.callingPid config as).2.2.bufferQueue := by
  have hconnect := s.producer.connect_operates link.callingPid hfault
  have hcache := s.producer.connect_cache link.callingPid
  unfold BufferQueueProducer.requestBuffers at hend ⊢
  generalize s.producer.connect link.callingPid = r at hconnect hcache hend ⊢
  obtain ⟨ret, p⟩ := r
  dsimp only at hcache hend ⊢
  split at hend <;> rename_i hret
  · rw [if_pos hret]
    exact hconnect
  · rw [if_neg hret]
    refine hconnect.trans (.op (.requestBuffers config as) ?_ hend)
    change (as.map (·.sequence)).Nodup ∧
      ∀ a ∈ as, p.bufferQueue.bufferQueueCache.find a.sequence = none
    rw [hcache]
    exact hfresh

theorem requestBuffers_operates (config : BufferRequestConfig) (as : ℕ → Allocation)
    (hfresh : (SurfaceCall.requestBuffers config as).Fresh s) (hfault : s.queue.fault = false)
    (hend : (s.requestBuffers link config as).2.queue.fault = false) :
    Operates s.queue (s.requestBuffers link config as).2.queue := by
  have hproducer := requestBatch_operates link config ((List.range surfaceMaxQueueSize).map as)
    hfresh hfault
  unfold requestBuffers at hend ⊢
  generalize s.producer.requestBuffers link.callingPid config
    ((List.range surfaceMaxQueueSize).map as) = r at hproducer hend ⊢
  obtain ⟨ret, retvalues, producer⟩ := r
  dsimp only at hproducer hend ⊢
  split at hend <;> rename_i hret
  · rw [if_pos hret]
    dsimp only at hend ⊢
    split at hend <;> rename_i hconnected
    · rw [if_pos hconnected]
      exact hproducer hend
    · rw [if_neg hconnected]
      exact hproducer hend
  · have hqueue := (addCachesLocked_same link
      { s with producer := producer, isDisconnected := false } retvalues).queue
    rw [if_neg hret]
    change Operates s.queue (addCachesLocked link _ retvalues).2.queue
    rw [hqueue]
    exact hproducer ((congrArg BufferQueue.fault hqueue).symm.trans hend)

theorem cleanAfter_operates {q : BufferQueue} {c : Prop} [Decidable c]
    (hstart : s.queue.fault = false → Operates q s.queue)
    (hend : (if c then (s.cleanCacheLocked link).2 else s).queue.fault = false) :
    Operates q (if c then (s.cleanCacheLocked link).2 else s).queue := by
  rw [cleanIf_fault] at hend
  exact (hstart hend).trans (cleanIf_operates link _ hend)

theorem flushBuffer_operates (f : FlushArgs)
    (hend : (s.flushBuffer link f).2.queue.fault = false) :
    Operates s.queue (s.flushBuffer link f).2.queue := by
  unfold flushBuffer at hend ⊢
  split at hend <;> rename_i hbedata
  · rw [if_pos hbedata]
    exact .refl _
  · rw [if_neg hbedata]
    refine cleanAfter_operates link (fun hflushed => ?_) hend
    unfold BufferQueueProducer.flushBuffer at hflushed ⊢
    split at hflushed <;> rename_i hstrict
    · rw [if_pos hstrict]
      exact .refl _
    · rw [if_neg hstrict]
      exact .op (.flushBuffer f) trivial hflushed

theorem flushBuffers_operates (fs : List FlushArgs)
    (hend : (s.flushBuffers link fs).2.queue.fault = false) :
    Operates s.queue (s.flushBuffers link fs).2.queue := by
  unfold flushBuffers at hend ⊢
  split at hend <;> rename_i hsize
  · rw [if_pos hsize]
    exact .refl _
  · rw [if_neg hsize]
    refine cleanAfter_operates link (fun hflushed => ?_) hend
    unfold BufferQueueProducer.flushBuffers at hflushed ⊢
    split at hflushed <;> rename_i hstrict
    · rw [if_pos hstrict]
      exact .refl _
    · rw [if_neg hstrict]
      exact .op (.flushBuffers fs) trivial hflushed

theorem cancelBuffer_operates (sequence : ℕ) (bedata : Option ExtraData)
    (hend : (s.cancelBuffer sequence bedata).2.queue.fault = false) :
    Operates s.queue (s.cancelBuffer sequence bedata).2.queue := by
  unfold cancelBuffer at hend ⊢
  split at hend <;> rename_i hbedata
  · rw [if_pos hbedata]
    exact .refl _
  · rw [if_neg hbedata]
    have hop := Operates.op (q := s.queue) (.cancelBuffer sequence bedata) trivial
    dsimp only at hend ⊢
    split at hend <;> rename_i hret
    · rw [if_pos hret]
      exact hop hend
    · rw [if_neg hret]
      exact hop hend

theorem attachBufferToQueue_operates (buffer : SurfaceBuffer)
    (hend : (s.attachBufferToQueue link buffer).2.queue.fault = false) :
    Operates s.queue (s.attachBufferToQueue link buffer).2.queue := by
  have hop := Operates.op (q := s.queue)
    (.attachBufferToQueue (link.toServer s.crossings buffer) .producerInvoker) trivial
  unfold attachBufferToQueue at hend ⊢
  dsimp only [send] at hend ⊢
  split at hend <;> rename_i hret
  · rw [if_pos hret]
    exact hop hend
  · rw [if_neg hret]
    split at hend <;> rename_i hcached
    · rw [if_pos hcached]
      exact hop hend
    · rw [if_neg hcached]
      exact hop hend

theorem detachBufferFromQueue_operates (buffer : SurfaceBuffer)
    (hend : (s.detachBufferFromQueue buffer).2.queue.fault = false) :
    Operates s.queue (s.detachBufferFromQueue buffer).2.queue := by
  have hop := Operates.op (q := s.queue)
    (.detachBufferFromQueue buffer.seqNum .producerInvoker false) trivial
  unfold detachBufferFromQueue at hend ⊢
  dsimp only at hend ⊢
  split at hend <;> rename_i hret
  · rw [if_pos hret]
    exact hop hend
  · rw [if_neg hret]
    split at hend <;> rename_i hcached
    · rw [if_pos hcached]
      exact hop hend
    · rw [if_neg hcached]
      exact hop hend

theorem attachBuffer_operates (buffer : SurfaceBuffer) (timeOut : Int)
    (hend : (s.attachBuffer link buffer timeOut).2.queue.fault = false) :
    Operates s.queue (s.attachBuffer link buffer timeOut).2.queue := by
  have hop := Operates.op (q := s.queue)
    (.attachBuffer (link.toServer s.crossings buffer) timeOut) trivial
  unfold attachBuffer at hend ⊢
  dsimp only [send] at hend ⊢
  split at hend <;> rename_i hret
  · rw [if_pos hret, (addAttachedLocked_same _ _).queue]
    rw [(addAttachedLocked_same _ _).queue] at hend
    exact hop hend
  · rw [if_neg hret]
    exact hop hend

theorem attachAndFlushBuffer_operates (buffer : SurfaceBuffer) (bedata : Option ExtraData)
    (fence : SyncFence) (config : BufferFlushConfigWithDamages) (env : FlushEnv)
    (hend : (s.attachAndFlushBuffer link buffer bedata fence config env).2.queue.fault = false) :
    Operates s.queue (s.attachAndFlushBuffer link buffer bedata fence config env).2.queue := by
  have hproducer : (s.producer.attachAndFlushBuffer (link.toServer s.crossings buffer) bedata fence
      config env).2.bufferQueue.fault = false →
      Operates s.queue (s.producer.attachAndFlushBuffer (link.toServer s.crossings buffer) bedata
        fence config env).2.bufferQueue := by
    unfold BufferQueueProducer.attachAndFlushBuffer
    split
    · exact fun _ => .refl _
    · exact .op (.attachAndFlushBuffer (link.toServer s.crossings buffer) bedata fence config env)
        trivial
  unfold attachAndFlushBuffer at hend ⊢
  split at hend <;> rename_i hbedata
  · rw [if_pos hbedata]
    exact .refl _
  · rw [if_neg hbedata]
    dsimp only [send] at hend ⊢
    split at hend <;> rename_i hret
    · rw [if_pos hret]
      split at hend <;> rename_i hcached
      · rw [if_pos hcached]
        exact hproducer hend
      · rw [if_neg hcached]
        exact hproducer hend
    · rw [if_neg hret]
      exact cleanAfter_operates link hproducer hend

theorem goBackground_operates (hend : (s.goBackground link).2.queue.fault = false) :
    Operates s.queue (s.goBackground link).2.queue := by
  change Operates s.queue (s.producer.goBackground link.callingPid).2.bufferQueue
  change (s.producer.goBackground link.callingPid).2.bufferQueue.fault = false at hend
  unfold BufferQueueProducer.goBackground at hend ⊢
  split at hend <;> rename_i hret
  · rw [if_pos hret]
    exact .refl _
  · rw [if_neg hret]
    exact .op (.setProducerCacheCleanFlag true) trivial hend

theorem cleanReleasedBuffers_operates
    (hend : (s.cleanReleasedBuffers link).2.queue.fault = false) :
    Operates s.queue (s.cleanReleasedBuffers link).2.queue := by
  have hproducer : (s.producer.cleanReleasedBuffers link.callingPid).2.2.bufferQueue.fault = false →
      Operates s.queue (s.producer.cleanReleasedBuffers link.callingPid).2.2.bufferQueue := by
    unfold BufferQueueProducer.cleanReleasedBuffers
    split
    · exact fun _ => .refl _
    · exact .op .cleanReleasedBuffers trivial
  unfold cleanReleasedBuffers at hend ⊢
  dsimp only at hend ⊢
  split at hend <;> rename_i hret
  · rw [if_pos hret]
    exact hproducer hend
  · rw [if_neg hret]
    rw [(cleanReleased_same _ _).queue] at hend ⊢
    exact hproducer hend

theorem connect_operates (hfault : s.queue.fault = false) :
    Operates s.queue (s.connect link).2.queue := by
  have hconnect := s.producer.connect_operates link.callingPid hfault
  unfold connect
  split
  · exact .refl _
  · dsimp only
    split <;> exact hconnect

theorem disconnect_operates (hfault : s.queue.fault = false) :
    Operates s.queue (s.disconnect link).2.queue := by
  have hdisconnect : Operates s.queue (s.producer.disconnect link.callingPid).2.bufferQueue := by
    unfold BufferQueueProducer.disconnect BufferQueueProducer.disconnectLocked
    by_cases hret : s.producer.checkConnectLocked link.callingPid = .ok
    · rw [if_neg (not_not.mpr hret)]
      exact (Operates.op (q := s.queue) (.configure (.setConnectedPidLocked 0)) trivial hfault).trans
        (.op .cleanCache trivial hfault)
    · rw [if_pos hret]
      dsimp only
      rw [if_pos hret]
      exact .refl _
  unfold disconnect
  split
  · exact .refl _
  · dsimp only
    split <;> exact hdisconnect

theorem cancelBuffer_fault (sequence : ℕ) (bedata : Option ExtraData) :
    (s.cancelBuffer sequence bedata).2.queue.fault = s.queue.fault := by
  unfold cancelBuffer
  split
  · rfl
  · dsimp only
    split <;> exact BufferQueue.fault_cancelBufferLocked s.queue sequence bedata

theorem lockRequested_queue (buffer : BufferRef) (fence : SyncFence) (region : Region)
    (env : LockEnv) : (s.lockRequested buffer fence region env).2.queue = s.queue ∨
      ∃ s' : ProducerSurface, s'.queue = s.queue ∧ (s.lockRequested buffer fence region env).2.queue =
        (s'.cancelBuffer buffer.seqNum env.bedata).2.queue := by
  unfold lockRequested
  split
  · exact .inr ⟨s, rfl, rfl⟩
  · dsimp only
    split
    · refine .inr ⟨s.lock buffer region, rfl, ?_⟩
      split <;> rfl
    · exact .inl rfl

theorem lockRequested_fault (buffer : BufferRef) (fence : SyncFence) (region : Region)
    (env : LockEnv) : (s.lockRequested buffer fence region env).2.queue.fault = s.queue.fault := by
  rcases lockRequested_queue (s := s) buffer fence region env with hqueue | ⟨s', hsame, hqueue⟩
  · rw [hqueue]
  · rw [hqueue, cancelBuffer_fault, hsame]

theorem lockRequested_operates (buffer : BufferRef) (fence : SyncFence) (region : Region)
    (env : LockEnv) (hfault : s.queue.fault = false) :
    Operates s.queue (s.lockRequested buffer fence region env).2.queue := by
  rcases lockRequested_queue (s := s) buffer fence region env with hqueue | ⟨s', hsame, hqueue⟩
  · rw [hqueue]
    exact .refl _
  · rw [hqueue, ← hsame]
    refine cancelBuffer_operates _ _ ?_
    rw [cancelBuffer_fault, hsame, hfault]

theorem producerSurfaceLockBuffer_operates (config : BufferRequestConfig) (region : Region)
    (env : LockEnv) (hfresh : (Op.requestBuffer config env.allocation).Fresh s.queue)
    (hfault : s.queue.fault = false)
    (hend : (s.producerSurfaceLockBuffer link config region env).2.queue.fault = false) :
    Operates s.queue (s.producerSurfaceLockBuffer link config region env).2.queue := by
  unfold producerSurfaceLockBuffer at hend ⊢
  by_cases hlocked : s.mLockedBuffer.isSome = true
  · rw [if_pos hlocked]
    exact .refl _
  · rw [if_neg hlocked] at hend ⊢
    have hrequest := requestBufferLocked_operates link
      { config with usage := config.usage ||| (bufferUsageCpuRead ||| bufferUsageCpuWrite) }
      env.allocation hfresh hfault
    dsimp only at hend ⊢
    generalize s.requestBufferLocked link { config with usage := config.usage |||
      (bufferUsageCpuRead ||| bufferUsageCpuWrite) } env.allocation = r at hrequest hend ⊢
    obtain ⟨⟨ret, buffers, fences, cleanedSeqNums⟩, s₁⟩ := r
    dsimp only at hrequest hend ⊢
    by_cases hret : ret ≠ .ok
    · rw [if_pos hret] at hend ⊢
      exact hrequest hend
    · rw [if_neg hret] at hend ⊢
      split at hend
      · rw [lockRequested_fault] at hend
        exact (hrequest hend).trans (lockRequested_operates _ _ region env hend)
      · exact hrequest hend

theorem producerSurfaceUnlockAndFlushBuffer_operates (env : UnlockEnv)
    (hend : (s.producerSurfaceUnlockAndFlushBuffer link env).2.queue.fault = false) :
    Operates s.queue (s.producerSurfaceUnlockAndFlushBuffer link env).2.queue := by
  unfold producerSurfaceUnlockAndFlushBuffer at hend ⊢
  cases hlocked : s.mLockedBuffer with
  | none => exact .refl _
  | some buffer =>
    rw [hlocked] at hend
    have hflush := flushBuffer_operates (s := s) link ⟨buffer.seqNum, env.bedata, invalidFence,
      ⟨s.unlockDamages, env.timestamp, env.desiredPresentTimestamp⟩, env.flush⟩
    dsimp only at hend ⊢
    split at hend <;> rename_i hret
    · rw [if_pos hret]
      exact hflush hend
    · rw [if_neg hret]
      exact hflush hend

theorem nativeWindowRequestBuffer_queue (gameUpscaleProcessor : Int × Int → Int × Int)
    (config : BufferRequestConfig) (a : Allocation) :
    (s.nativeWindowRequestBuffer link gameUpscaleProcessor config a).2.queue =
      (s.requestBuffer link gameUpscaleProcessor config a).2.queue := by
  unfold nativeWindowRequestBuffer
  generalize s.requestBuffer link gameUpscaleProcessor config a = r
  obtain ⟨reply, s₁⟩ := r
  dsimp only
  split
  · rfl
  · split
    · rename_i sfbuffer window _ _
      have hsame : (s₁.nativeWindowAddToCache window sfbuffer).2.queue = s₁.queue := by
        unfold nativeWindowAddToCache
        split <;> rfl
      split <;> exact hsame
    · rfl

end ProducerSurface

theorem SurfaceStep.operates {link : Link} {s s' : ProducerSurface} {c : SurfaceCall}
    (h : SurfaceStep link s c s') (hfault : s.queue.fault = false) : Operates s.queue s'.queue := by
  obtain ⟨⟨hfresh, -, hend⟩, rfl⟩ := h
  cases c with
  | requestBuffer gameUpscaleProcessor config a =>
    exact ProducerSurface.requestBufferLocked_operates link _ a hfresh hfault hend
  | requestBuffers config as =>
    exact ProducerSurface.requestBuffers_operates link config as hfresh hfault hend
  | requestAndDetachBuffer config a =>
    exact ProducerSurface.requestAndDetachBuffer_operates link config a hfresh hfault hend
  | flushBuffer f => exact ProducerSurface.flushBuffer_operates link f hend
  | flushBuffers fs => exact ProducerSurface.flushBuffers_operates link fs hend
  | cancelBuffer sequence bedata => exact ProducerSurface.cancelBuffer_operates sequence bedata hend
  | attachBufferToQueue buffer => exact ProducerSurface.attachBufferToQueue_operates link buffer hend
  | detachBufferFromQueue buffer => exact ProducerSurface.detachBufferFromQueue_operates buffer hend
  | attachBuffer buffer timeOut => exact ProducerSurface.attachBuffer_operates link buffer timeOut hend
  | attachAndFlushBuffer buffer bedata fence config env =>
    exact ProducerSurface.attachAndFlushBuffer_operates link buffer bedata fence config env hend
  | cleanCache => exact ProducerSurface.cleanCacheLocked_operates link hfault
  | goBackground => exact ProducerSurface.goBackground_operates link hend
  | cleanReleasedBuffers => exact ProducerSurface.cleanReleasedBuffers_operates link hend
  | connect => exact ProducerSurface.connect_operates link hfault
  | disconnect => exact ProducerSurface.disconnect_operates link hfault
  | setDisconnectStrictly value => exact .refl _
  | lockBuffer config region env =>
    exact ProducerSurface.producerSurfaceLockBuffer_operates link config region env hfresh hfault hend
  | unlockAndFlushBuffer env =>
    exact ProducerSurface.producerSurfaceUnlockAndFlushBuffer_operates link env hend
  | nativeWindowRequestBuffer gameUpscaleProcessor config a =>
    have hqueue := ProducerSurface.nativeWindowRequestBuffer_queue (s := s) link
      gameUpscaleProcessor config a
    change Operates s.queue (s.nativeWindowRequestBuffer link gameUpscaleProcessor config a).2.queue
    rw [hqueue]
    exact ProducerSurface.requestBufferLocked_operates link _ a hfresh hfault
      ((congrArg BufferQueue.fault hqueue).symm.trans hend)
  | queue op => exact .op op hfresh hend

theorem SurfaceStep.reachable {link : Link} {s s' : ProducerSurface} {c : SurfaceCall}
    (h : SurfaceStep link s c s') (hs : Reachable s.queue ∧ s.queue.fault = false) :
    Reachable s'.queue ∧ s'.queue.fault = false :=
  ⟨(h.operates hs.2).reachable hs.1, by rw [h.2]; exact h.1.2.2⟩

end GraphicSurface
