import GraphicSurface.Replies
import GraphicSurface.SurfaceRuns

/-! The cache of a surface in a run: the object that it has under a number was made with this number,
and so what a request hands out has the number in the reply of the queue. -/

namespace GraphicSurface

open Runs

namespace BufferQueue

variable {q : BufferQueue}

theorem requestBuffersLoop_objects (q : BufferQueue) (config : BufferRequestConfig)
    (as : List Allocation) : ∀ reply ∈ (q.requestBuffersLoop config as).2.1,
      ∀ b, reply.retval.buffer = some b → b.seqNum = reply.retval.sequence := by
  induction as generalizing q with
  | nil => simp [requestBuffersLoop]
  | cons a as ih =>
    unfold requestBuffersLoop
    dsimp only
    split
    · simp
    · rename_i hret
      intro reply hreply
      rcases List.mem_cons.mp hreply with rfl | hreply
      · exact (requestBufferLocked_sound q config a false).object (not_not.mp hret)
      · exact ih _ reply hreply

end BufferQueue

namespace BufferQueueProducer

variable {s : BufferQueueProducer} {callingPid : Int}

theorem requestBuffer_of_connect (h : (s.connect callingPid).1 = .ok) (config : BufferRequestConfig)
    (a : Allocation) :
    s.requestBuffer callingPid config a =
      ({ ((s.connect callingPid).2.bufferQueue.requestBuffer config a).1 with
          retval :=
            { ((s.connect callingPid).2.bufferQueue.requestBuffer config a).1.retval with
              isConnected := true } },
        { (s.connect callingPid).2 with
          bufferQueue := ((s.connect callingPid).2.bufferQueue.requestBuffer config a).2 }) := by
  unfold requestBuffer requestWith
  generalize s.connect callingPid = r at h ⊢
  obtain ⟨ret, p⟩ := r
  dsimp only at h ⊢
  rw [if_neg (not_not.mpr h)]

theorem requestBuffer_of_error (h : (s.connect callingPid).1 ≠ .ok) (config : BufferRequestConfig)
    (a : Allocation) :
    s.requestBuffer callingPid config a = (.error (s.connect callingPid).1, s) := by
  have hsame := connect_of_error h
  unfold requestBuffer requestWith
  generalize s.connect callingPid = r at h hsame ⊢
  obtain ⟨ret, p⟩ := r
  dsimp only at h hsame ⊢
  rw [if_pos h, hsame]

theorem requestBuffer_sound (s : BufferQueueProducer) (callingPid : Int)
    (config : BufferRequestConfig) (a : Allocation) :
    (s.requestBuffer callingPid config a).1.Sound false
      (s.requestBuffer callingPid config a).2.bufferQueue := by
  by_cases h : (s.connect callingPid).1 = .ok
  · rw [requestBuffer_of_connect h]
    have hsound := BufferQueue.requestBufferLocked_sound (s.connect callingPid).2.bufferQueue config a
      false
    exact ⟨hsound.marked, hsound.object, hsound.quiet⟩
  · rw [requestBuffer_of_error h]
    exact .error h false _

theorem requestBuffers_objects (s : BufferQueueProducer) (callingPid : Int)
    (config : BufferRequestConfig) (as : List Allocation) :
    ∀ retval ∈ (s.requestBuffers callingPid config as).2.1,
      ∀ b, retval.buffer = some b → b.seqNum = retval.sequence := by
  unfold requestBuffers
  dsimp only
  split
  · intro retval hretval b hb
    obtain ⟨a, -, rfl⟩ := List.mem_map.mp hretval
    cases hb
  · dsimp only
    split
    · intro retval hretval b hb
      obtain rfl := List.mem_singleton.mp hretval
      cases hb
    · intro retval hretval
      obtain ⟨reply, hreply, rfl⟩ := List.mem_map.mp hretval
      exact BufferQueue.requestBuffersLoop_objects _ config as reply hreply

end BufferQueueProducer

namespace ProducerSurface

def Keyed (s : ProducerSurface) : Prop :=
  ∀ k buffer, s.bufferProducerCache.lookup k = some buffer → buffer.seqNum = k

namespace Keyed

variable {s s' : ProducerSurface} (link : Link)

theorem of_cache (h : s.Keyed) (hcache : s'.bufferProducerCache = s.bufferProducerCache) :
    s'.Keyed := by
  unfold Keyed
  rwa [hcache]

theorem of_empty (hcache : s.bufferProducerCache = ∅) : s.Keyed := by
  intro k buffer hbuffer
  rw [hcache, AList.lookup_empty] at hbuffer
  cases hbuffer

theorem of_erase (h : s.Keyed) {sequence : ℕ}
    (hcache : s'.bufferProducerCache = s.bufferProducerCache.erase sequence) : s'.Keyed := by
  intro k buffer hbuffer
  rw [hcache] at hbuffer
  by_cases hk : k = sequence
  · subst hk
    rw [AList.lookup_erase] at hbuffer
    cases hbuffer
  · rw [AList.lookup_erase_ne hk] at hbuffer
    exact h k buffer hbuffer

theorem keep (h : s.Keyed) {sequence : ℕ} {buffer : BufferRef} (hbuffer : buffer.seqNum = sequence) :
    (s.keep sequence buffer).Keyed := by
  intro k kept hkept
  by_cases hk : k = sequence
  · subst hk
    rw [ProducerSurface.keep, AList.lookup_insert] at hkept
    cases hkept
    exact hbuffer
  · rw [ProducerSurface.keep, AList.lookup_insert_ne hk] at hkept
    exact h k kept hkept

theorem foldl {α : Type} {f : ProducerSurface → α → ProducerSurface}
    (hone : ∀ s a, Keyed s → Keyed (f s a)) (l : List α) (h : s.Keyed) : (l.foldl f s).Keyed := by
  induction l generalizing s with
  | nil => exact h
  | cons a l ih => exact ih (hone s a h)

theorem deleteCacheBufferLocked (h : s.Keyed) (deletingBuffers : List ℕ) :
    (s.deleteCacheBufferLocked deletingBuffers).Keyed :=
  foldl (fun _ _ h => h.of_erase rfl) deletingBuffers h

theorem syncProducerCacheLocked (h : s.Keyed) : (s.syncProducerCacheLocked link).Keyed := by
  unfold ProducerSurface.syncProducerCacheLocked
  dsimp only
  split
  · refine foldl (fun s e h => ?_) _ h
    exact keep (s := { s with crossings := s.crossings + 1 }) (h.of_cache rfl)
      (link.toClient_seqNum _ _)
  · exact h

theorem addCacheLocked (h : s.Keyed) {retval : RequestBufferReturnValue}
    (hobject : ∀ b, retval.buffer = some b → b.seqNum = retval.sequence) :
    (s.addCacheLocked link retval).2.Keyed := by
  unfold ProducerSurface.addCacheLocked
  split
  · rename_i buffer hbuffer
    refine deleteCacheBufferLocked (keep ?_ ?_) _
    · exact h.of_cache rfl
    · exact (link.toClient_seqNum _ _).trans (hobject buffer hbuffer)
  · dsimp only
    split
    · exact h.deleteCacheBufferLocked _
    · exact (h.syncProducerCacheLocked link).deleteCacheBufferLocked _

theorem updateCacheLocked (h : s.Keyed) (retval : RequestBufferReturnValue) :
    (s.updateCacheLocked link retval).2.Keyed := by
  unfold ProducerSurface.updateCacheLocked
  cases retval.buffer with
  | some buffer => exact (h.of_erase rfl).deleteCacheBufferLocked _
  | none =>
    dsimp only
    split
    · exact h.deleteCacheBufferLocked _
    · exact (h.of_erase rfl).deleteCacheBufferLocked _

theorem addCachesLocked (h : s.Keyed) (retvalues : List RequestBufferReturnValue)
    (hobjects : ∀ retval ∈ retvalues, ∀ b, retval.buffer = some b → b.seqNum = retval.sequence) :
    (s.addCachesLocked link retvalues).2.Keyed := by
  induction retvalues generalizing s with
  | nil => exact h
  | cons retval retvalues ih =>
    exact ih (h.addCacheLocked link (hobjects retval List.mem_cons_self))
      fun r hr => hobjects r (List.mem_cons_of_mem _ hr)

theorem addAttachedLocked (h : s.Keyed) {buffer : BufferRef} :
    (s.addAttachedLocked buffer).Keyed := by
  unfold ProducerSurface.addAttachedLocked
  split_ifs
  · exact h
  · exact keep (of_empty rfl) rfl
  · exact h.keep rfl

theorem cleanIf (h : s.Keyed) (c : Prop) [Decidable c] :
    (if c then (s.cleanCacheLocked link).2 else s).Keyed := by
  split
  · exact of_empty rfl
  · exact h

theorem requestFailed (h : s.Keyed) (reply : RequestReply) :
    (s.requestFailed link reply).2.Keyed := by
  unfold ProducerSurface.requestFailed
  dsimp only
  split <;> exact (h.cleanIf link _).of_cache rfl

theorem requestBufferLocked (h : s.Keyed) (config : BufferRequestConfig) (a : Allocation) :
    (s.requestBufferLocked link config a).2.Keyed := by
  have hsound := s.producer.requestBuffer_sound link.callingPid config a
  unfold ProducerSurface.requestBufferLocked
  dsimp only
  split
  · refine requestFailed link ?_ _
    exact h.of_cache rfl
  · rename_i hret
    refine addCacheLocked link ?_ (hsound.object (not_not.mp hret))
    exact h.of_cache rfl

theorem requestAndDetachBuffer (h : s.Keyed) (config : BufferRequestConfig) (a : Allocation) :
    (s.requestAndDetachBuffer link config a).2.Keyed := by
  unfold ProducerSurface.requestAndDetachBuffer
  dsimp only
  split
  · refine requestFailed link ?_ _
    exact h.of_cache rfl
  · refine updateCacheLocked link ?_ _
    exact h.of_cache rfl

theorem requestBuffers (h : s.Keyed) (config : BufferRequestConfig) (as : ℕ → Allocation) :
    (s.requestBuffers link config as).2.Keyed := by
  have hobjects := s.producer.requestBuffers_objects link.callingPid config
    ((List.range surfaceMaxQueueSize).map as)
  unfold ProducerSurface.requestBuffers
  generalize s.producer.requestBuffers link.callingPid config
    ((List.range surfaceMaxQueueSize).map as) = r at hobjects ⊢
  obtain ⟨ret, retvalues, producer⟩ := r
  dsimp only at hobjects ⊢
  split
  · dsimp only
    split <;> exact h.of_cache rfl
  · refine addCachesLocked link ?_ retvalues hobjects
    exact h.of_cache rfl

theorem flushBuffer (h : s.Keyed) (f : FlushArgs) : (s.flushBuffer link f).2.Keyed := by
  unfold ProducerSurface.flushBuffer
  split
  · exact h
  · refine cleanIf link ?_ _
    exact h.of_cache rfl

theorem flushBuffers (h : s.Keyed) (fs : List FlushArgs) : (s.flushBuffers link fs).2.Keyed := by
  unfold ProducerSurface.flushBuffers
  split
  · exact h
  · refine cleanIf link ?_ _
    exact h.of_cache rfl

theorem cancelBuffer (h : s.Keyed) (sequence : ℕ) (bedata : Option ExtraData) :
    (s.cancelBuffer sequence bedata).2.Keyed := by
  unfold ProducerSurface.cancelBuffer
  split
  · exact h
  · dsimp only
    split <;> exact h.of_cache rfl

theorem attachBufferToQueue (h : s.Keyed) (buffer : SurfaceBuffer) :
    (s.attachBufferToQueue link buffer).2.Keyed := by
  unfold ProducerSurface.attachBufferToQueue
  dsimp only
  split_ifs
  · exact h.of_cache rfl
  · exact h.of_cache rfl
  · refine keep ?_ rfl
    exact h.of_cache rfl

theorem detachBufferFromQueue (h : s.Keyed) (buffer : SurfaceBuffer) :
    (s.detachBufferFromQueue buffer).2.Keyed := by
  unfold ProducerSurface.detachBufferFromQueue
  dsimp only
  split_ifs
  · exact h.of_cache rfl
  · exact h.of_cache rfl
  · exact h.of_erase rfl

theorem attachBuffer (h : s.Keyed) (buffer : SurfaceBuffer) (timeOut : Int) :
    (s.attachBuffer link buffer timeOut).2.Keyed := by
  unfold ProducerSurface.attachBuffer
  dsimp only
  split
  · refine addAttachedLocked ?_
    exact h.of_cache rfl
  · exact h.of_cache rfl

theorem attachAndFlushBuffer (h : s.Keyed) (buffer : SurfaceBuffer) (bedata : Option ExtraData)
    (fence : SyncFence) (config : BufferFlushConfigWithDamages) (env : FlushEnv) :
    (s.attachAndFlushBuffer link buffer bedata fence config env).2.Keyed := by
  unfold ProducerSurface.attachAndFlushBuffer
  split
  · exact h
  · dsimp only
    split_ifs
    · exact h.of_cache rfl
    · refine keep ?_ rfl
      exact h.of_cache rfl
    · exact of_empty rfl
    · exact h.of_cache rfl

theorem cleanReleasedBuffers (h : s.Keyed) : (s.cleanReleasedBuffers link).2.Keyed := by
  unfold ProducerSurface.cleanReleasedBuffers
  dsimp only
  split
  · exact h.of_cache rfl
  · refine deleteCacheBufferLocked ?_ _
    exact h.of_cache rfl

theorem connect (h : s.Keyed) : (s.connect link).2.Keyed := by
  unfold ProducerSurface.connect
  split
  · exact h
  · dsimp only
    split <;> exact h.of_cache rfl

theorem disconnect (h : s.Keyed) : (s.disconnect link).2.Keyed := by
  unfold ProducerSurface.disconnect
  split
  · exact h
  · exact of_empty rfl

theorem lockRequested (h : s.Keyed) (buffer : BufferRef) (fence : SyncFence) (region : Region)
    (env : LockEnv) : (s.lockRequested buffer fence region env).2.Keyed := by
  have hlock : (s.lock buffer region).Keyed := h.of_cache rfl
  unfold ProducerSurface.lockRequested
  split
  · exact h.cancelBuffer _ _
  · dsimp only
    split
    · have hcancel := hlock.cancelBuffer buffer.seqNum env.bedata
      dsimp only
      split <;> exact hcancel.of_cache rfl
    · exact hlock

theorem producerSurfaceLockBuffer (h : s.Keyed) (config : BufferRequestConfig) (region : Region)
    (env : LockEnv) : (s.producerSurfaceLockBuffer link config region env).2.Keyed := by
  unfold ProducerSurface.producerSurfaceLockBuffer
  split
  · exact h
  · have hrequest := h.requestBufferLocked link
      { config with usage := config.usage ||| (bufferUsageCpuRead ||| bufferUsageCpuWrite) }
      env.allocation
    dsimp only
    split
    · exact hrequest
    · split
      · exact hrequest.lockRequested _ _ region env
      · exact hrequest.of_cache rfl

theorem producerSurfaceUnlockAndFlushBuffer (h : s.Keyed) (env : UnlockEnv) :
    (s.producerSurfaceUnlockAndFlushBuffer link env).2.Keyed := by
  unfold ProducerSurface.producerSurfaceUnlockAndFlushBuffer
  split
  · exact h
  · rename_i buffer _
    have hflush := h.flushBuffer link ⟨buffer.seqNum, env.bedata, invalidFence,
      ⟨s.unlockDamages, env.timestamp, env.desiredPresentTimestamp⟩, env.flush⟩
    dsimp only
    split
    · exact hflush
    · exact hflush.of_cache rfl

theorem nativeWindowRequestBuffer (h : s.Keyed) (gameUpscaleProcessor : Int × Int → Int × Int)
    (config : BufferRequestConfig) (a : Allocation) :
    (s.nativeWindowRequestBuffer link gameUpscaleProcessor config a).2.Keyed := by
  have hrequest : (s.requestBuffer link gameUpscaleProcessor config a).2.Keyed :=
    h.requestBufferLocked link _ a
  unfold ProducerSurface.nativeWindowRequestBuffer
  generalize s.requestBuffer link gameUpscaleProcessor config a = r at hrequest ⊢
  obtain ⟨reply, s₁⟩ := r
  dsimp only at hrequest ⊢
  split
  · exact hrequest
  · split
    · rename_i sfbuffer window _ _
      have hwindow : (s₁.nativeWindowAddToCache window sfbuffer).2.Keyed := by
        unfold nativeWindowAddToCache
        split <;> exact hrequest.of_cache rfl
      split <;> exact hwindow.of_cache rfl
    · exact hrequest

end Keyed

section HandedOut

variable {link : Link} {s : ProducerSurface} {buffer : BufferRef}

theorem seqNum_of_addCacheLocked (h : s.Keyed) {retval : RequestBufferReturnValue}
    (hobject : ∀ b, retval.buffer = some b → b.seqNum = retval.sequence)
    (hbuffer : (s.addCacheLocked link retval).1 = some buffer) : buffer.seqNum = retval.sequence := by
  unfold addCacheLocked at hbuffer
  split at hbuffer
  · rename_i b hb
    obtain rfl : link.toClient s.crossings b = buffer := Option.some.inj hbuffer
    exact (link.toClient_seqNum _ _).trans (hobject b hb)
  · split at hbuffer
    · rename_i cached hcached
      obtain rfl : cached = buffer := Option.some.inj hbuffer
      exact h _ _ hcached
    · exact h.syncProducerCacheLocked link _ _ hbuffer

theorem requested_of_requestBufferLocked (h : s.Keyed) {config : BufferRequestConfig}
    {a : Allocation} (hbuffers : (s.requestBufferLocked link config a).1.buffers = [some buffer]) :
    ∃ e, (s.requestBufferLocked link config a).2.queue.bufferQueueCache.find buffer.seqNum = some e ∧
      e.state = .requested := by
  have hsound := s.producer.requestBuffer_sound link.callingPid config a
  unfold requestBufferLocked at hbuffers ⊢
  dsimp only at hbuffers ⊢
  split at hbuffers <;> rename_i hret
  · cases hbuffers
  · have hret := not_not.mp hret
    rw [if_neg (not_not.mpr hret)]
    have hkeyed : { s with
        producer := (s.producer.requestBuffer link.callingPid config a).2
        isDisconnected := false }.Keyed := h.of_cache rfl
    have hseqNum := seqNum_of_addCacheLocked hkeyed (hsound.object hret) (List.cons.inj hbuffers).1
    rw [hseqNum, (addCacheLocked_same link _ _).queue]
    exact hsound.marked hret

end HandedOut

end ProducerSurface

theorem SurfaceCall.next_keyed (link : Link) {s : ProducerSurface} (h : s.Keyed) (c : SurfaceCall) :
    (c.next link s).Keyed := by
  cases c with
  | requestBuffer gameUpscaleProcessor config a => exact h.requestBufferLocked link _ a
  | requestBuffers config as => exact h.requestBuffers link config as
  | requestAndDetachBuffer config a => exact h.requestAndDetachBuffer link config a
  | flushBuffer f => exact h.flushBuffer link f
  | flushBuffers fs => exact h.flushBuffers link fs
  | cancelBuffer sequence bedata => exact h.cancelBuffer sequence bedata
  | attachBufferToQueue buffer => exact h.attachBufferToQueue link buffer
  | detachBufferFromQueue buffer => exact h.detachBufferFromQueue buffer
  | attachBuffer buffer timeOut => exact h.attachBuffer link buffer timeOut
  | attachAndFlushBuffer buffer bedata fence config env =>
    exact h.attachAndFlushBuffer link buffer bedata fence config env
  | cleanCache | goBackground => exact .of_empty rfl
  | cleanReleasedBuffers => exact h.cleanReleasedBuffers link
  | connect => exact h.connect link
  | disconnect => exact h.disconnect link
  | setDisconnectStrictly value => exact h.of_cache rfl
  | lockBuffer config region env => exact h.producerSurfaceLockBuffer link config region env
  | unlockAndFlushBuffer env => exact h.producerSurfaceUnlockAndFlushBuffer link env
  | nativeWindowRequestBuffer gameUpscaleProcessor config a =>
    exact h.nativeWindowRequestBuffer link gameUpscaleProcessor config a
  | queue op => exact h.of_cache rfl

end GraphicSurface
