import GraphicSurface.HandOuts

/-! The lock on the last flushed buffer. It is one number that every pop has to test. The pops from
the free list and the hand-out to the listener do; the pop from the dirty list in the no-block mode
does not. -/

namespace GraphicSurface

open Runs SlotPool

namespace BufferQueue

/-- The no-block branch of a request would return the locked buffer from the dirty list. -/
def takesLocked (q : BufferQueue) (config : BufferRequestConfig) : Bool :=
  match q.requestBufferCheck config with
  | .error _ => false
  | .ok config =>
    !(q.isPriorityAlloc && decide (q.getUsedSize < q.unreservedSize)) &&
      (q.popFromFreeListLocked config).1.isNone && decide (q.unreservedSize ≤ q.getUsedSize) &&
      q.requestBufferNoBlockMode && q.dirtyList.head? == some q.acquireLastFlushedBufSequence &&
      (q.bufferQueueCache.find q.acquireLastFlushedBufSequence).any fun e => config.same e.config

def batchTakesLocked (q : BufferQueue) (config : BufferRequestConfig) : List Allocation → Bool
  | [] => false
  | a :: as =>
    q.takesLocked config ||
      match q.requestBuffer config a with
      | (reply, q) => reply.ret == .ok && q.batchTakesLocked config as

end BufferQueue

namespace Op

/-- The calls that go wrong: a request takes the locked buffer from the dirty list, or the number
to be locked is the one that stands for no lock. -/
def takesLocked (q : BufferQueue) : Op → Bool
  | requestBuffer config _ | requestAndDetachBuffer config _ => q.takesLocked config
  | requestBuffers config as => { q with isBatch := true }.batchTakesLocked config as
  | acquireLastFlushedBuffer => q.lastFlusedSequence == invalidSequence
  | _ => false

/-- The numbers that the `SurfaceBufferImpl` constructor gives out in this call. -/
def allocates : Op → List ℕ
  | requestBuffer _ a | requestAndDetachBuffer _ a => [a.sequence]
  | requestBuffers _ as => as.map (·.sequence)
  | preAllocBuffers _ count as => (List.range count).map fun i => (as i).sequence
  | _ => []

end Op

/-- The buffer for which `AcquireLastFlushedBuffer` has succeeded and `ReleaseLastFlushedBuffer`
has not yet. -/
def recordLock (held : Option ℕ) (q : BufferQueue) : Op → Option ℕ
  | .acquireLastFlushedBuffer =>
    if q.acquireLastFlushedBuffer.1 = .ok then some q.lastFlusedSequence else held
  | .releaseLastFlushedBuffer sequence =>
    if held = some sequence ∧ (q.releaseLastFlushedBuffer sequence).1 = .ok then none else held
  | _ => held

/-- A step beside that record. Whoever holds the lock has the buffer, so the constructor does not
give its number to another one. -/
def LockStep (s : BufferQueue × Option ℕ) (op : Op) (t : BufferQueue × Option ℕ) : Prop :=
  QueueStep s.1 op t.1 ∧ t.2 = recordLock s.2 s.1 op ∧ ∀ k ∈ op.allocates, s.2 ≠ some k

def ReusePoint.Avoids (k : ℕ) : ReusePoint → Prop
  | .done reply => reply.ret = .ok → reply.retval.sequence ≠ k
  | .setupNewBuffer _ | .reallocBuffer _ => True

def RequestPoint.Avoids (k : ℕ) : RequestPoint → Prop
  | .reached point => point.Avoids k
  | .waitReq _ => True

theorem ReusePoint.Avoids.error {k : ℕ} {ret : GSError} (hret : ret ≠ .ok) :
    (ReusePoint.done (.error ret)).Avoids k := fun h => absurd h hret

namespace BufferQueue

variable {q q' : BufferQueue} {k : ℕ}

theorem pop_avoids (h : q.Agrees) {config : BufferRequestConfig} {buffer : SurfaceBuffer}
    (hp : q.popFromFreeListLocked config = (some buffer, q')) :
    buffer.seqNum ≠ q.acquireLastFlushedBufSequence := by
  unfold popFromFreeListLocked at hp
  split at hp
  · rename_i sequence hfind
    have hreusable := List.find?_some hfind
    unfold reusable at hreusable
    split at hreusable
    · rename_i e he
      simp only [he, Option.map_some, Prod.mk.injEq, Option.some.injEq] at hp
      obtain ⟨rfl, -⟩ := hp
      rw [BufferCache.seqNum_of_find he]
      exact bne_iff_ne.mp (Bool.and_eq_true_iff.mp hreusable).2
    · cases hreusable
  · split_ifs at hp with hempty
    · cases hp
    · simp only [not_or] at hempty
      unfold popFrontFree at hp
      split at hp
      · cases hp
      · rename_i front rest hrot
        split at hp
        · cases hp
        · rename_i e he
          obtain ⟨hbuffer, -⟩ := Prod.mk.inj hp
          rw [← Option.some.inj hbuffer, BufferElement.recolour_seqNum,
            BufferCache.seqNum_of_find he]
          exact front_rotateLocked h hempty.2.2 hrot

theorem reuseBuffer_avoids (q : BufferQueue) (config : BufferRequestConfig) {buffer : SurfaceBuffer}
    (listener : Bool) (hne : buffer.seqNum ≠ k) : (q.reuseBuffer config buffer listener).1.Avoids k := by
  unfold reuseBuffer
  split
  · exact .error (by simp)
  · rename_i e he
    dsimp only
    split
    · intro _
      rw [sequence_updateReuse false listener he]
      exact hne
    · split
      · exact .error (by simp)
      · trivial

theorem reuseBufferForBlockMode_avoids (h : q.Agrees) (config : BufferRequestConfig) :
    (q.reuseBufferForBlockMode config).1.Avoids q.acquireLastFlushedBufSequence := by
  unfold reuseBufferForBlockMode
  split
  · exact ReusePoint.Avoids.error (by simp)
  · split
    · rename_i buffer q₁ hpop
      exact reuseBuffer_avoids q₁ config false (pop_avoids h hpop)
    · exact ReusePoint.Avoids.error (by simp)

theorem reuseBufferForNoBlockMode_avoids (q : BufferQueue) (config : BufferRequestConfig)
    (hok : (q.dirtyList.head? == some q.acquireLastFlushedBufSequence &&
      (q.bufferQueueCache.find q.acquireLastFlushedBufSequence).any
        fun e => config.same e.config) = false) :
    (q.reuseBufferForNoBlockMode config).1.Avoids q.acquireLastFlushedBufSequence := by
  unfold reuseBufferForNoBlockMode
  split
  · rename_i buffer q₁ hpop
    obtain ⟨rest, e, hdirty, he, rfl, rfl⟩ := popFromDirtyListLocked_some hpop
    by_cases hlocked : e.buffer.seqNum = q.acquireLastFlushedBufSequence
    · have hother : config.same e.config = false := by
        rw [← hlocked] at hok
        simpa [hdirty, he] using hok
      have hfind : (q.bufferQueueCache.modify e.buffer.seqNum
          (BufferElement.recolour config.colorGamut config.transform)
          (BufferElement.recolour_seqNum _ _)).find
            (e.buffer.setColorGamutAndTransform config.colorGamut config.transform).seqNum =
          some (e.recolour config.colorGamut config.transform) := by
        change BufferCache.find _ e.buffer.seqNum = _
        simp [he]
      have hother' : config.same (e.recolour config.colorGamut config.transform).config = false :=
        hother
      simp only [reuseBuffer, hfind, hother', Bool.false_eq_true, if_false]
      trivial
    · exact reuseBuffer_avoids _ config false hlocked
  · exact ReusePoint.Avoids.error (by simp)

theorem requestBufferBody_avoids (h : q.Agrees) (config : BufferRequestConfig) (listener : Bool)
    (hok : listener = false →
      (!(q.isPriorityAlloc && decide (q.getUsedSize < q.unreservedSize)) &&
        (q.popFromFreeListLocked config).1.isNone && decide (q.unreservedSize ≤ q.getUsedSize) &&
        q.requestBufferNoBlockMode && q.dirtyList.head? == some q.acquireLastFlushedBufSequence &&
        (q.bufferQueueCache.find q.acquireLastFlushedBufSequence).any
          fun e => config.same e.config) = false) :
    (q.requestBufferBody config listener).1.Avoids q.acquireLastFlushedBufSequence := by
  unfold requestBufferBody
  dsimp only
  split
  · rename_i hpops
    split
    · rename_i buffer q₁ hpop
      exact reuseBuffer_avoids q₁ config listener (pop_avoids h hpop)
    · rename_i q₁ hpop
      obtain rfl := popFromFreeListLocked_none h hpop
      split
      · exact ReusePoint.Avoids.error (by simp)
      · rename_i hlistener
        have hlistener' : listener = false := by simpa using hlistener
        split
        · rename_i hfull
          split
          · trivial
          · rename_i hmode
            refine reuseBufferForNoBlockMode_avoids q₁ config ?_
            have hpops' : (!(q₁.isPriorityAlloc && decide (q₁.getUsedSize < q₁.unreservedSize))) =
                true := by
              simpa [hlistener'] using hpops
            have hmode' : q₁.requestBufferNoBlockMode = true := by simpa using hmode
            have hempty : (q₁.popFromFreeListLocked config).1.isNone = true := by simp [hpop]
            simpa [hpops', hempty, hfull, hmode'] using hok hlistener'
        · trivial
  · trivial

theorem requestBufferLocked_avoids (h : q.Agrees) (config : BufferRequestConfig) {a : Allocation}
    (hfresh : a.sequence ≠ q.acquireLastFlushedBufSequence) (hok : q.takesLocked config = false)
    (hret : (q.requestBufferLocked config a false).1.ret = .ok) :
    (q.requestBufferLocked config a false).1.retval.sequence ≠ q.acquireLastFlushedBufSequence := by
  have hpoint {p : BufferQueue} {point : ReusePoint}
      (havoids : point.Avoids q.acquireLastFlushedBufSequence)
      (hret : (p.finishRequest a point).1.ret = .ok) :
      (p.finishRequest a point).1.retval.sequence ≠ q.acquireLastFlushedBufSequence := by
    cases point with
    | done reply => exact havoids hret
    | setupNewBuffer job => exact sequence_finishRequest p a (by simp) hret ▸ hfresh
    | reallocBuffer job => exact sequence_finishRequest p a (by simp) hret ▸ hfresh
  unfold takesLocked at hok
  revert hret
  unfold requestBufferLocked
  split
  · rename_i ret hcheck
    exact fun hret => absurd hret (requestBufferCheck_error hcheck)
  · rename_i updateConfig hcheck
    rw [hcheck] at hok
    have havoids := requestBufferBody_avoids h updateConfig false fun _ => hok
    split
    · rename_i point q₁ hb
      rw [hb] at havoids
      exact hpoint havoids
    · rename_i config' q₁ hb
      obtain rfl := requestBufferBody_waits h hb
      exact hpoint (reuseBufferForBlockMode_avoids h config')

theorem requestForListener_avoids (h : q.Agrees) (config : BufferRequestConfig)
    (hret : (q.requestBufferLocked config noAllocation true).1.ret = .ok) :
    (q.requestBufferLocked config noAllocation true).1.retval.sequence ≠
      q.acquireLastFlushedBufSequence := by
  revert hret
  unfold requestBufferLocked
  split
  · rename_i ret hcheck
    exact fun hret => absurd hret (requestBufferCheck_error hcheck)
  · rename_i updateConfig _
    have havoids := requestBufferBody_avoids h updateConfig true (by simp)
    obtain ⟨reply, hdone⟩ := requestBufferBody_listener_done q updateConfig
    split
    · rename_i point q₁ hb
      rw [hb] at havoids hdone
      cases hdone
      exact havoids
    · rename_i config' q₁ hb
      rw [hb] at hdone
      cases hdone

theorem handOut_avoids (h : q.Agrees) (fuel : ℕ) (configs : List BufferRequestConfig) :
    ∀ d ∈ (q.handOut fuel configs).1, d.1 ≠ q.acquireLastFlushedBufSequence := by
  induction fuel generalizing q configs with
  | zero => simp [handOut]
  | succ fuel ih =>
    cases configs with
    | nil => simp [handOut]
    | cons config configs =>
      have hagrees := (requestBufferLocked_refines_listener h config noAllocation).agrees h
      have hlock : (q.requestBufferLocked config noAllocation true).2.acquireLastFlushedBufSequence =
          q.acquireLastFlushedBufSequence := by
        rw [(requestBufferLocked_frame q config noAllocation true).settings]
      unfold handOut
      dsimp only
      split
      · rename_i hret
        have hagrees' : ((q.requestBufferLocked config noAllocation true).2.setRequestedFromListener
            (q.requestBufferLocked config noAllocation true).1.retval.sequence).Agrees := by
          rw [Agrees, pool_setRequestedFromListener]
          exact hagrees
        intro d hd
        rcases List.mem_cons.mp hd with rfl | hd
        · exact requestForListener_avoids h config hret
        · exact hlock ▸ ih hagrees' _ d hd
      · intro d hd
        exact hlock ▸ ih hagrees _ d hd

theorem releaseGiven_avoids (h : q.Agrees) {sequence : ℕ} {fence : Option SyncFence}
    {env : ReleaseEnv} : q.acquireLastFlushedBufSequence ∉ q.releaseGiven sequence fence env := by
  have hagrees := (releaseBufferLocked_refines h sequence fence env).agrees h
  have hlock : (q.releaseBufferLocked sequence fence env).2.acquireLastFlushedBufSequence =
      q.acquireLastFlushedBufSequence := by
    rw [(releaseBufferLocked_frame q sequence fence env).settings]
  unfold releaseGiven releaseBufferSection requestBuffersForListenerLocked
  dsimp only
  split
  · simp
  · split
    · intro hk
      obtain ⟨d, hd, heq⟩ := List.mem_map.mp hk
      exact handOut_avoids hagrees _ _ d hd (heq.trans hlock.symm)
    · simp

theorem releaseDropsGiven_avoids (h : q.Agrees) {envs : ℕ → ReleaseEnv}
    {dropBuffers : List BufferAndFence} :
    q.acquireLastFlushedBufSequence ∉ q.releaseDropsGiven envs dropBuffers := by
  induction dropBuffers generalizing q with
  | nil => simp [releaseDropsGiven]
  | cons d dropBuffers ih =>
    have hagrees := (releaseBuffer_refines h d.1.seqNum d.2 (envs d.1.seqNum)).agrees h
    have hlock : (q.releaseBuffer d.1.seqNum d.2
        (envs d.1.seqNum)).2.acquireLastFlushedBufSequence = q.acquireLastFlushedBufSequence := by
      rw [(releaseBuffer_frame q d.1.seqNum d.2 (envs d.1.seqNum)).settings]
    intro hk
    rcases List.mem_append.mp hk with hk | hk
    · exact releaseGiven_avoids h hk
    · exact ih hagrees (hlock ▸ hk)

theorem acquireGiven_avoids (h : q.Agrees) {expect : Int} {auto : Bool} {now : Int}
    {envs : ℕ → ReleaseEnv} :
    q.acquireLastFlushedBufSequence ∉ q.acquireGiven expect auto now envs := by
  have hlevel := dropBuffersByLevel_frame q now
  have hagrees₁ := (dropBuffersByLevel_refines h now).agrees h
  have hreleased := hlevel.after (releaseDropBuffers_frame _ envs (q.dropBuffersByLevel now).1)
  have hagrees₂ := (releaseDropBuffers_refines hagrees₁ envs (q.dropBuffersByLevel now).1).agrees
    hagrees₁
  have hsection := hreleased.before (acquireByTimestampSection_frame _ expect auto)
  have hagrees₃ := (acquireByTimestampSection_refines hagrees₂ expect auto).agrees hagrees₂
  unfold acquireGiven
  split
  · simp
  · dsimp only
    intro hk
    rcases List.mem_append.mp hk with hk | hk
    · rw [← hlevel.settings] at hk
      exact releaseDropsGiven_avoids hagrees₁ hk
    · split at hk
      · cases hk
      · rw [← hsection.settings] at hk
        exact releaseDropsGiven_avoids hagrees₃ hk

theorem requestBuffersReplies_avoids (h : q.Agrees) (config : BufferRequestConfig)
    (as : List Allocation) (hnodup : (as.map (·.sequence)).Nodup)
    (hfresh : ∀ a ∈ as, q.bufferQueueCache.find a.sequence = none)
    (hlive : ∀ a ∈ as, a.sequence ≠ q.acquireLastFlushedBufSequence)
    (hok : q.batchTakesLocked config as = false) :
    ∀ r ∈ q.requestBuffersReplies config as, r.1.ret = .ok →
      r.1.retval.sequence ≠ q.acquireLastFlushedBufSequence := by
  induction as generalizing q with
  | nil => simp [requestBuffersReplies]
  | cons a as ih =>
    rw [List.map_cons, List.nodup_cons] at hnodup
    have hfirst := hfresh a List.mem_cons_self
    have hrefines := requestBufferLocked_refines h config a hfirst
    obtain ⟨hone, hrest⟩ := Bool.or_eq_false_iff.mp hok
    have havoids := requestBufferLocked_avoids h config (hlive a List.mem_cons_self) hone
    have hlock : (q.requestBufferLocked config a false).2.acquireLastFlushedBufSequence =
        q.acquireLastFlushedBufSequence := by
      rw [(requestBufferLocked_frame q config a false).settings]
    unfold requestBuffersReplies requestBuffer
    dsimp only
    split
    · intro r hr
      obtain rfl := List.mem_singleton.mp hr
      exact havoids
    · rename_i hret
      intro r hr hretr
      rcases List.mem_cons.mp hr with rfl | hr
      · exact havoids hretr
      · rw [← hlock]
        refine ih (hrefines.agrees h) hnodup.2 (fun b hb => ?_) (fun b hb => ?_) ?_ r hr hretr
        · have hne : b.sequence ∉ [a.sequence] := by
            intro heq
            exact hnodup.1 (List.mem_singleton.mp heq ▸ List.mem_map_of_mem hb)
          exact hrefines.absent (fun m hm => ne_of_requests hm hne)
            (hfresh b (List.mem_cons_of_mem a hb))
        · rw [hlock]
          exact hlive b (List.mem_cons_of_mem a hb)
        · simpa [requestBuffer, not_not.mp hret] using hrest

/-! The lock itself changes only in its own two calls. -/

theorem lock_detach (q : BufferQueue) (sequence : ℕ) (invokerType : InvokerType)
    (isReserveSlot : Bool) :
    (q.detachBufferFromQueueLocked sequence invokerType isReserveSlot).2.acquireLastFlushedBufSequence =
      q.acquireLastFlushedBufSequence := by
  have hdelete := (deleteNoWait_frame q sequence).settings
  unfold detachBufferFromQueueLocked
  split
  · rfl
  · cases invokerType with
    | producerInvoker => rfl
    | consumerInvoker =>
      unfold detachForConsumer
      dsimp only
      split <;> simp [hdelete]

theorem lock_attach (q : BufferQueue) (buffer : SurfaceBuffer) (invokerType : InvokerType) :
    (q.attachBufferToQueueLocked buffer invokerType).2.acquireLastFlushedBufSequence =
      q.acquireLastFlushedBufSequence := by
  unfold attachBufferToQueueLocked
  split_ifs
  · rfl
  · rfl
  · rfl
  · cases invokerType <;> rfl

theorem lock_attachAndFlush (q : BufferQueue) (buffer : SurfaceBuffer) (bedata : Option ExtraData)
    (fence : SyncFence) (config : BufferFlushConfigWithDamages) (env : FlushEnv) :
    (q.attachAndFlushBuffer buffer bedata fence config env).2.acquireLastFlushedBufSequence =
      q.acquireLastFlushedBufSequence := by
  have hattach := lock_attach q buffer .producerInvoker
  have hflush := (flushBufferImprovedLocked_frame (q.attachBufferToQueueLocked buffer
    .producerInvoker).2 buffer.seqNum bedata fence config env).settings
  unfold attachAndFlushBuffer
  dsimp only
  split
  · exact hattach
  · split <;> simp only [hflush, hattach]

theorem lock_setQueueSizeLocked (q : BufferQueue) (queueSize : ℕ) :
    (q.setQueueSizeLocked queueSize).2.acquireLastFlushedBufSequence =
      q.acquireLastFlushedBufSequence :=
  setQueueSizeLocked_induct
    (P := fun q' => q'.acquireLastFlushedBufSequence = q.acquireLastFlushedBufSequence) rfl
    (fun count => by rw [(deleteBuffersLocked_frame q count).settings]) (fun _ _ h => h) queueSize

end BufferQueue

theorem Op.run_lock {q : BufferQueue} {op : Op} (hacquire : op ≠ .acquireLastFlushedBuffer)
    (hrelease : ∀ sequence, op ≠ .releaseLastFlushedBuffer sequence) :
    (op.run q).2.acquireLastFlushedBufSequence = q.acquireLastFlushedBufSequence := by
  have hlock {told : List ℕ} {q q' : BufferQueue} (h : Frame told q q') :
      q'.acquireLastFlushedBufSequence = q.acquireLastFlushedBufSequence := by
    rw [h.settings]
  cases op with
  | requestBuffer config a => exact hlock (BufferQueue.requestBufferLocked_frame q config a false)
  | requestBuffers config as =>
    obtain ⟨told, hframe⟩ := BufferQueue.requestBuffersLoop_frame { q with isBatch := true } config as
    exact congrArg (·.acquireLastFlushedBufSequence) hframe.settings
  | requestAndDetachBuffer config a =>
    have hrequest := hlock (BufferQueue.requestBufferLocked_frame q config a false)
    change (q.requestAndDetachBuffer config a).2.acquireLastFlushedBufSequence = _
    unfold BufferQueue.requestAndDetachBuffer
    dsimp only
    split
    · exact hrequest
    · exact (BufferQueue.lock_detach _ _ _ _).trans hrequest
  | cancelBuffer sequence bedata =>
    exact hlock (BufferQueue.cancelBufferLocked_frame q sequence bedata)
  | flushBuffer f => exact hlock (BufferQueue.flushBuffer_frame q _ _ _ _ _)
  | flushBuffers fs => exact hlock (BufferQueue.flushBuffers_frame q fs)
  | acquireBuffer now => exact hlock (BufferQueue.acquireBuffer_frame q now)
  | acquireBufferByTimestamp expect auto now envs =>
    exact hlock (BufferQueue.acquireBufferByTimestamp_frame q expect auto now envs)
  | releaseBuffer sequence fence env =>
    exact hlock (BufferQueue.releaseBuffer_frame q sequence fence env)
  | attachBufferToQueue buffer invokerType => exact BufferQueue.lock_attach q buffer invokerType
  | detachBufferFromQueue sequence invokerType isReserveSlot =>
    exact BufferQueue.lock_detach q sequence invokerType isReserveSlot
  | attachBuffer buffer timeOut => exact hlock (BufferQueue.attachBuffer_frame q buffer timeOut)
  | detachBuffer sequence => exact hlock (BufferQueue.detachBuffer_frame q sequence)
  | attachAndFlushBuffer buffer bedata fence config env =>
    exact BufferQueue.lock_attachAndFlush q buffer bedata fence config env
  | setQueueSize queueSize =>
    change (q.setQueueSize queueSize).2.acquireLastFlushedBufSequence = _
    unfold BufferQueue.setQueueSize
    split
    · rfl
    · exact BufferQueue.lock_setQueueSizeLocked q queueSize
  | setMaxQueueSize queueSize =>
    change (q.setMaxQueueSize queueSize).2.acquireLastFlushedBufSequence = _
    unfold BufferQueue.setMaxQueueSize
    dsimp only
    split
    · rfl
    · split
      · exact BufferQueue.lock_setQueueSizeLocked { q with maxQueueSize := queueSize } queueSize
      · rfl
  | preAllocBuffers config count as =>
    exact hlock (BufferQueue.preAllocBuffers_frame q config count as)
  | cleanCache | goBackground | onConsumerDied => rfl
  | setProducerCacheCleanFlag flag =>
    change (q.setProducerCacheCleanFlag flag).acquireLastFlushedBufSequence = _
    unfold BufferQueue.setProducerCacheCleanFlag
    split <;> rfl
  | cleanReleasedBuffers => exact hlock (BufferQueue.cleanReleasedBuffersLocked_frame q q.freeList)
  | cleanProducerBySeqNum seqNums =>
    exact hlock (BufferQueue.cleanProducerBySeqNum_frame q seqNums)
  | acquireLastFlushedBuffer => exact absurd rfl hacquire
  | releaseLastFlushedBuffer sequence => exact absurd rfl (hrelease sequence)
  | setScalingMode | setVideoDimensionType | setSingleBufferMode => rfl
  | setBufferScalingMode sequence scalingMode =>
    change (q.setBufferScalingMode sequence scalingMode).2.acquireLastFlushedBufSequence = _
    unfold BufferQueue.setBufferScalingMode
    split <;> rfl
  | configure s => cases s <;> first | rfl | (simp only [run, BufferQueue.configure, Setting.apply]; split <;> rfl)

theorem Op.given_avoids {q : BufferQueue} {op : Op} (h : q.Agrees) (hfresh : op.Fresh q)
    (hlive : ∀ k ∈ op.allocates, k ≠ q.acquireLastFlushedBufSequence)
    (hok : op.takesLocked q = false) : q.acquireLastFlushedBufSequence ∉ op.given q := by
  cases op with
  | requestBuffer config a | requestAndDetachBuffer config a =>
    intro hk
    obtain ⟨r, hr, hseq⟩ := List.mem_map.mp hk
    obtain ⟨hr, hret⟩ := List.mem_filter.mp hr
    obtain rfl := List.mem_singleton.mp hr
    exact BufferQueue.requestBufferLocked_avoids h config (hlive _ List.mem_cons_self) hok
      (beq_iff_eq.mp hret) hseq
  | requestBuffers config as =>
    intro hk
    obtain ⟨r, hr, hseq⟩ := List.mem_map.mp hk
    obtain ⟨hr, hret⟩ := List.mem_filter.mp hr
    exact BufferQueue.requestBuffersReplies_avoids (q := { q with isBatch := true }) h config as
      hfresh.1 hfresh.2 (fun a ha => hlive _ (List.mem_map_of_mem ha)) hok r hr
      (beq_iff_eq.mp hret) hseq
  | releaseBuffer sequence fence env => exact BufferQueue.releaseGiven_avoids h
  | acquireBufferByTimestamp expect auto now envs => exact BufferQueue.acquireGiven_avoids h
  | _ => simp [given, replies]

theorem BufferQueue.acquireLastFlushedBuffer_lock (q : BufferQueue) :
    (q.acquireLastFlushedBuffer.1 = .ok →
      q.acquireLastFlushedBuffer.2.acquireLastFlushedBufSequence = q.lastFlusedSequence) ∧
    (q.acquireLastFlushedBuffer.1 ≠ .ok → q.acquireLastFlushedBuffer.2 = q) := by
  unfold acquireLastFlushedBuffer
  split_ifs
  · simp
  · split
    · simp
    · split_ifs <;> simp

theorem BufferQueue.releaseLastFlushedBuffer_lock (q : BufferQueue) (sequence : ℕ) :
    ((q.releaseLastFlushedBuffer sequence).1 = .ok → q.acquireLastFlushedBufSequence = sequence) ∧
    ((q.releaseLastFlushedBuffer sequence).1 ≠ .ok → (q.releaseLastFlushedBuffer sequence).2 = q) := by
  unfold releaseLastFlushedBuffer
  split_ifs with h
  · simp
  · simp only [not_or, not_not] at h
    simp [h.2]

/-- The queue knows of the lock that is held. -/
structure Locks (s : BufferQueue × Option ℕ) : Prop where
  agrees : s.1.Agrees
  held : ∀ k, s.2 = some k → s.1.acquireLastFlushedBufSequence = k ∧ k ≠ invalidSequence

theorem Locks.step {s t : BufferQueue × Option ℕ} {op : Op} (h : Locks s) (hstep : LockStep s op t)
    (hok : op.takesLocked s.1 = false) : Locks t := by
  obtain ⟨q, held⟩ := s
  obtain ⟨q', held'⟩ := t
  obtain ⟨hqueue, hheld, -⟩ := hstep
  dsimp only at hqueue hheld hok
  refine ⟨(hqueue.refines h.agrees).agrees h.agrees, fun k hk => ?_⟩
  obtain ⟨-, rfl, -⟩ := hqueue
  dsimp only at hk ⊢
  rw [hheld] at hk
  by_cases hacquire : op = .acquireLastFlushedBuffer
  · subst hacquire
    have hvalid : q.lastFlusedSequence ≠ invalidSequence := by simpa [Op.takesLocked] using hok
    obtain ⟨hlocked, hfailed⟩ := q.acquireLastFlushedBuffer_lock
    change (q.acquireLastFlushedBuffer).2.acquireLastFlushedBufSequence = k ∧ _
    change (if q.acquireLastFlushedBuffer.1 = .ok then some q.lastFlusedSequence else held) = _ at hk
    split_ifs at hk with hret
    · obtain rfl := Option.some.inj hk
      exact ⟨hlocked hret, hvalid⟩
    · rw [hfailed hret]
      exact h.held k hk
  · by_cases hrelease : ∃ sequence, op = .releaseLastFlushedBuffer sequence
    · obtain ⟨sequence, rfl⟩ := hrelease
      obtain ⟨hunlocked, hfailed⟩ := q.releaseLastFlushedBuffer_lock sequence
      change (q.releaseLastFlushedBuffer sequence).2.acquireLastFlushedBufSequence = k ∧ _
      change (if held = some sequence ∧ (q.releaseLastFlushedBuffer sequence).1 = .ok then none
        else held) = _ at hk
      split_ifs at hk with hret
      have hlock := h.held k hk
      by_cases hdone : (q.releaseLastFlushedBuffer sequence).1 = .ok
      · exact absurd ⟨by rw [hk, ← hlock.1, hunlocked hdone], hdone⟩ hret
      · rw [hfailed hdone]
        exact hlock
    · have hrelease' : ∀ sequence, op ≠ .releaseLastFlushedBuffer sequence :=
        fun sequence heq => hrelease ⟨sequence, heq⟩
      have hsame : recordLock held q op = held := by
        unfold recordLock
        split
        · exact absurd rfl hacquire
        · exact absurd rfl (hrelease' _)
        · rfl
      rw [hsame] at hk
      rw [Op.run_lock hacquire hrelease']
      exact h.held k hk

def lockNext (s : BufferQueue × Option ℕ) (op : Op) : BufferQueue × Option ℕ :=
  (op.next s.1, recordLock s.2 s.1 op)

def lockWhileFree : List Op :=
  [.configure .registerConsumerListener, .requestBuffer sampleConfig ⟨1, 1, true, true⟩,
    .flushBuffer ⟨1, some ∅, invalidFence, ⟨[], 0, 0⟩, ⟨.ok, 0⟩⟩, .acquireLastFlushedBuffer,
    .acquireBuffer 0, .releaseBuffer 1 none ⟨0, 0, fun _ => true⟩]

def lockWhileFlushed : List Op :=
  [.configure .registerConsumerListener, .configure (.setRequestBufferNoblockMode true),
    .setQueueSize 1, .requestBuffer sampleConfig ⟨1, 1, true, true⟩,
    .flushBuffer ⟨1, some ∅, invalidFence, ⟨[], 0, 0⟩, ⟨.ok, 0⟩⟩, .acquireLastFlushedBuffer]

end GraphicSurface
