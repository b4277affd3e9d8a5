import GraphicSurface.ReservedSlots

/-! The size of the queue against the two limits on it: `maxQueueSize_`, which the setters clamp it
to, and `detachReserveSlotNum_`, for which they refuse a size that is too small. -/

namespace GraphicSurface

open Runs

structure WithinLimits (q : BufferQueue) : Prop where
  max : q.maxQueueSize = 0 ∨ q.bufferQueueSize ≤ q.maxQueueSize
  reserve : q.detachReserveSlotNum ≤ q.bufferQueueSize

namespace Op

/-- A new maximum that the queue cannot be shrunk to, because more slots are reserved; and a
reserved slot more than the queue has slots. -/
def overruns (q : BufferQueue) : Op → Prop
  | setMaxQueueSize queueSize =>
    0 < queueSize ∧ queueSize ≤ surfaceMaxQueueSize ∧ queueSize < q.bufferQueueSize ∧
      queueSize < q.detachReserveSlotNum
  | detachBufferFromQueue sequence .consumerInvoker true =>
    q.detachBufferCheck sequence .consumerInvoker = .ok ∧
      q.bufferQueueSize ≤ q.detachReserveSlotNum
  | _ => False

/-- A size that is refused leaves the sizes and the cache as they are. -/
def RefusalsChangeNothing (q : BufferQueue) (op : Op) : Prop :=
  (∃ queueSize, op = setQueueSize queueSize ∨ op = setMaxQueueSize queueSize) →
    (op.run q).1 ≠ .code .ok →
      (op.next q).maxQueueSize = q.maxQueueSize ∧ (op.next q).bufferQueueSize = q.bufferQueueSize ∧
        (op.next q).bufferQueueCache = q.bufferQueueCache

instance (q : BufferQueue) (op : Op) : Decidable (op.overruns q) := by
  unfold overruns
  split <;> infer_instance

end Op

namespace BufferQueue

variable {q q' : BufferQueue}

def sizes (q : BufferQueue) : ℕ × ℕ × ℕ :=
  (q.maxQueueSize, q.bufferQueueSize, q.detachReserveSlotNum)

theorem sizes_of_frame {told : List ℕ} (h : Frame told q q') : q'.sizes = q.sizes := by
  unfold sizes
  rw [h.settings, h.reserve]

theorem sizes_attachToQueue_producer (q : BufferQueue) (buffer : SurfaceBuffer) :
    (q.attachBufferToQueueLocked buffer .producerInvoker).2.sizes = q.sizes := by
  rcases attachToQueue_cases q buffer with ⟨-, hsame⟩ | ⟨-, -, hattach⟩
  · rw [hsame]
  · rw [hattach]
    rfl

theorem sizes_attachToQueue_consumer (q : BufferQueue) (buffer : SurfaceBuffer) :
    (q.attachBufferToQueueLocked buffer .consumerInvoker).2.sizes = q.sizes ∨
      (q.attachBufferToQueueLocked buffer .consumerInvoker).2.sizes =
        (q.maxQueueSize, q.bufferQueueSize, q.detachReserveSlotNum - 1) := by
  unfold attachBufferToQueueLocked
  split_ifs
  · exact .inl rfl
  · exact .inl rfl
  · exact .inl rfl
  · exact .inr rfl

theorem sizes_detachFromQueue (q : BufferQueue) (sequence : ℕ) (invokerType : InvokerType)
    (isReserveSlot : Bool) (h : invokerType = .producerInvoker ∨ isReserveSlot = false) :
    (q.detachBufferFromQueueLocked sequence invokerType isReserveSlot).2.sizes = q.sizes := by
  unfold detachBufferFromQueueLocked
  split
  · rfl
  · cases invokerType with
    | producerInvoker => rfl
    | consumerInvoker =>
      obtain rfl : isReserveSlot = false := by simpa using h
      exact sizes_of_frame (deleteNoWait_frame q sequence)

theorem sizes_detachWithReserve {sequence : ℕ}
    (hcheck : q.detachBufferCheck sequence .consumerInvoker = .ok) :
    (q.detachBufferFromQueueLocked sequence .consumerInvoker true).2.sizes =
      (q.maxQueueSize, q.bufferQueueSize, (q.detachReserveSlotNum + 1) % 2 ^ 32) := by
  have hframe := deleteNoWait_frame q sequence
  unfold detachBufferFromQueueLocked
  rw [if_neg (not_not.mpr hcheck)]
  simp only [detachForConsumer, if_true, sizes, hframe.settings, hframe.reserve]

theorem sizes_requestAndDetach (q : BufferQueue) (config : BufferRequestConfig) (a : Allocation) :
    (q.requestAndDetachBuffer config a).2.sizes = q.sizes := by
  have hrequest := sizes_of_frame (requestBufferLocked_frame q config a false)
  unfold requestAndDetachBuffer
  dsimp only
  split
  · exact hrequest
  · exact (sizes_detachFromQueue _ _ _ _ (.inl rfl)).trans hrequest

theorem sizes_requestBuffers (q : BufferQueue) (config : BufferRequestConfig)
    (as : List Allocation) : (q.requestBuffers config as).2.2.sizes = q.sizes := by
  obtain ⟨told, hframe⟩ := requestBuffersLoop_frame { q with isBatch := true } config as
  have hloop := sizes_of_frame hframe
  exact hloop

theorem sizes_attachAndFlush (q : BufferQueue) (buffer : SurfaceBuffer)
    (bedata : Option ExtraData) (fence : SyncFence) (config : BufferFlushConfigWithDamages)
    (env : FlushEnv) : (q.attachAndFlushBuffer buffer bedata fence config env).2.sizes = q.sizes := by
  have hattach := sizes_attachToQueue_producer q buffer
  have hflush := sizes_of_frame (flushBufferImprovedLocked_frame (q.attachBufferToQueueLocked buffer
    .producerInvoker).2 buffer.seqNum bedata fence config env)
  unfold attachAndFlushBuffer
  dsimp only
  split
  · exact hattach
  · split <;> exact hflush.trans hattach

theorem sizes_configure (q : BufferQueue) (s : Setting) : (q.configure s).sizes = q.sizes := by
  cases s with
  | setDropFrameLevel level =>
    simp only [configure, Setting.apply]
    split <;> rfl
  | _ => rfl

theorem setQueueSizeLocked_cases (q : BufferQueue) (queueSize : ℕ) :
    ∃ size, (q.maxQueueSize = 0 ∧ size = queueSize ∨
        q.maxQueueSize ≠ 0 ∧ size = min queueSize q.maxQueueSize) ∧
      ((size < q.detachReserveSlotNum ∧ q.setQueueSizeLocked queueSize = (.invalidArguments, q)) ∨
        (q.detachReserveSlotNum ≤ size ∧ (q.setQueueSizeLocked queueSize).1 = .ok ∧
          (q.setQueueSizeLocked queueSize).2.sizes =
            (q.maxQueueSize, size, q.detachReserveSlotNum))) := by
  unfold setQueueSizeLocked
  dsimp only
  generalize hsize : (if q.maxQueueSize ≠ 0 ∧ q.maxQueueSize < queueSize then q.maxQueueSize
    else queueSize) = size
  refine ⟨size, ?_, ?_⟩
  · split_ifs at hsize with hclamp
    · right
      omega
    · omega
  · by_cases hrefuse : size < q.detachReserveSlotNum
    · rw [if_pos hrefuse]
      exact .inl ⟨hrefuse, rfl⟩
    · rw [if_neg hrefuse]
      refine .inr ⟨not_lt.mp hrefuse, ?_⟩
      by_cases hshrink : size < q.bufferQueueSize
      · rw [if_pos hshrink]
        have hframe := deleteBuffersLocked_frame q (q.bufferQueueSize - size)
        simp only [sizes, hframe.settings, hframe.reserve, and_self]
      · rw [if_neg hshrink]
        exact ⟨rfl, rfl⟩

end BufferQueue

namespace Op

def resizes : Op → Bool
  | setQueueSize _ | setMaxQueueSize _ | attachBufferToQueue _ .consumerInvoker
  | detachBufferFromQueue _ .consumerInvoker true => true
  | _ => false

theorem sizes_next {op : Op} (q : BufferQueue) (h : op.resizes = false) :
    (op.next q).sizes = q.sizes := by
  cases op with
  | requestBuffer config a =>
    exact BufferQueue.sizes_of_frame (BufferQueue.requestBufferLocked_frame q config a false)
  | requestBuffers config as => exact BufferQueue.sizes_requestBuffers q config as
  | requestAndDetachBuffer config a => exact BufferQueue.sizes_requestAndDetach q config a
  | cancelBuffer sequence bedata =>
    exact BufferQueue.sizes_of_frame (BufferQueue.cancelBufferLocked_frame q sequence bedata)
  | flushBuffer f =>
    exact BufferQueue.sizes_of_frame (BufferQueue.flushBuffer_frame q _ _ _ _ _)
  | flushBuffers fs => exact BufferQueue.sizes_of_frame (BufferQueue.flushBuffers_frame q fs)
  | acquireBuffer now => exact BufferQueue.sizes_of_frame (BufferQueue.acquireBuffer_frame q now)
  | acquireBufferByTimestamp expect auto now envs =>
    exact BufferQueue.sizes_of_frame
      (BufferQueue.acquireBufferByTimestamp_frame q expect auto now envs)
  | releaseBuffer sequence fence env =>
    exact BufferQueue.sizes_of_frame (BufferQueue.releaseBuffer_frame q sequence fence env)
  | attachBufferToQueue buffer invokerType =>
    cases invokerType with
    | producerInvoker => exact BufferQueue.sizes_attachToQueue_producer q buffer
    | consumerInvoker => simp [resizes] at h
  | detachBufferFromQueue sequence invokerType isReserveSlot =>
    refine BufferQueue.sizes_detachFromQueue q sequence invokerType isReserveSlot ?_
    cases invokerType with
    | producerInvoker => exact .inl rfl
    | consumerInvoker =>
      cases isReserveSlot with
      | false => exact .inr rfl
      | true => simp [resizes] at h
  | attachBuffer buffer timeOut =>
    exact BufferQueue.sizes_of_frame (BufferQueue.attachBuffer_frame q buffer timeOut)
  | detachBuffer sequence =>
    exact BufferQueue.sizes_of_frame (BufferQueue.detachBuffer_frame q sequence)
  | attachAndFlushBuffer buffer bedata fence config env =>
    exact BufferQueue.sizes_attachAndFlush q buffer bedata fence config env
  | setQueueSize | setMaxQueueSize => simp [resizes] at h
  | preAllocBuffers config count as =>
    exact BufferQueue.sizes_of_frame (BufferQueue.preAllocBuffers_frame q config count as)
  | cleanCache | goBackground | onConsumerDied => rfl
  | setProducerCacheCleanFlag flag =>
    change (q.setProducerCacheCleanFlag flag).sizes = _
    unfold BufferQueue.setProducerCacheCleanFlag
    split <;> rfl
  | cleanReleasedBuffers =>
    exact BufferQueue.sizes_of_frame (BufferQueue.cleanReleasedBuffersLocked_frame q q.freeList)
  | cleanProducerBySeqNum seqNums =>
    exact BufferQueue.sizes_of_frame (BufferQueue.cleanProducerBySeqNum_frame q seqNums)
  | acquireLastFlushedBuffer =>
    exact BufferQueue.acquireLastFlushedBuffer_induct (P := fun q' => q'.sizes = q.sizes) q rfl rfl
  | releaseLastFlushedBuffer sequence =>
    exact BufferQueue.releaseLastFlushedBuffer_induct (P := fun q' => q'.sizes = q.sizes) q sequence
      rfl rfl
  | setScalingMode | setVideoDimensionType | setSingleBufferMode => rfl
  | setBufferScalingMode sequence scalingMode =>
    change (q.setBufferScalingMode sequence scalingMode).2.sizes = _
    unfold BufferQueue.setBufferScalingMode
    split <;> rfl
  | configure s => exact BufferQueue.sizes_configure q s

end Op

/-- The limits together with the largest size that a setter accepts. -/
structure Bounded (q : BufferQueue) : Prop extends WithinLimits q where
  width : q.bufferQueueSize ≤ surfaceMaxQueueSize

namespace Bounded

variable {q q' : BufferQueue} {m n r : ℕ}

theorem of_sizes (hsizes : q.sizes = (m, n, r)) (hmax : m = 0 ∨ n ≤ m) (hreserve : r ≤ n)
    (hwidth : n ≤ surfaceMaxQueueSize) : Bounded q := by
  simp only [BufferQueue.sizes, Prod.mk.injEq] at hsizes
  obtain ⟨rfl, rfl, rfl⟩ := hsizes
  exact ⟨⟨hmax, hreserve⟩, hwidth⟩

theorem of_eq (h : Bounded q) (hsizes : q'.sizes = q.sizes) : Bounded q' :=
  .of_sizes hsizes h.max h.reserve h.width

theorem setQueueSize (h : Bounded q) (queueSize : ℕ) : Bounded (q.setQueueSize queueSize).2 := by
  unfold BufferQueue.setQueueSize
  split_ifs with hsize
  · exact h
  · rw [not_or, not_lt] at hsize
    obtain ⟨size, hclamp, ⟨-, hrefused⟩ | ⟨hreserve, -, hsizes⟩⟩ :=
      q.setQueueSizeLocked_cases queueSize
    · rw [hrefused]
      exact h
    · have hmax := h.max
      exact .of_sizes hsizes (by omega) hreserve (by omega)

theorem setMaxQueueSize (h : Bounded q) {queueSize : ℕ}
    (hok : ¬ (Op.setMaxQueueSize queueSize).overruns q) :
    Bounded (q.setMaxQueueSize queueSize).2 := by
  unfold BufferQueue.setMaxQueueSize
  dsimp only
  split_ifs with hsize hshrink
  · exact h
  · rw [not_or, not_lt] at hsize
    have hreserve : q.detachReserveSlotNum ≤ queueSize := by
      simp only [Op.overruns, not_and, not_lt] at hok
      exact hok (Nat.pos_of_ne_zero hsize.1) hsize.2 hshrink
    obtain ⟨size, hclamp, ⟨hrefused, -⟩ | ⟨-, -, hsizes⟩⟩ :=
      BufferQueue.setQueueSizeLocked_cases { q with maxQueueSize := queueSize } queueSize
    all_goals
      dsimp only at hclamp
      obtain rfl : size = queueSize := by omega
    · dsimp only at hrefused
      omega
    · exact .of_sizes hsizes (.inr le_rfl) hreserve hsize.2
  · exact ⟨⟨.inr (not_lt.mp hshrink), h.reserve⟩, h.width⟩

theorem attachForConsumer (h : Bounded q) (buffer : SurfaceBuffer) :
    Bounded (q.attachBufferToQueueLocked buffer .consumerInvoker).2 := by
  have hreserve := h.reserve
  rcases q.sizes_attachToQueue_consumer buffer with hsame | hless
  · exact h.of_eq hsame
  · exact .of_sizes hless h.max (by omega) h.width

theorem detachWithReserve (h : Bounded q) {sequence : ℕ}
    (hok : ¬ (Op.detachBufferFromQueue sequence .consumerInvoker true).overruns q) :
    Bounded (q.detachBufferFromQueueLocked sequence .consumerInvoker true).2 := by
  by_cases hcheck : q.detachBufferCheck sequence .consumerInvoker = .ok
  · have hroom : q.detachReserveSlotNum < q.bufferQueueSize := by
      simpa [Op.overruns, hcheck] using hok
    have hmod := Nat.mod_le (q.detachReserveSlotNum + 1) (2 ^ 32)
    exact .of_sizes (BufferQueue.sizes_detachWithReserve hcheck) h.max (by omega) h.width
  · unfold BufferQueue.detachBufferFromQueueLocked
    rw [if_pos hcheck]
    exact h

theorem step {op : Op} (h : Bounded q) (hok : ¬ op.overruns q) : Bounded (op.next q) := by
  by_cases hresizes : op.resizes = true
  · unfold Op.resizes at hresizes
    split at hresizes
    · exact h.setQueueSize _
    · exact h.setMaxQueueSize hok
    · exact h.attachForConsumer _
    · exact h.detachWithReserve hok
    · simp at hresizes
  · exact h.of_eq (Op.sizes_next q (by simpa using hresizes))

theorem not_withinLimits_of_overruns {op : Op} (h : Bounded q) (hover : op.overruns q) :
    ¬ WithinLimits (op.next q) := by
  have hwidth : q.bufferQueueSize ≤ 64 := h.width
  unfold Op.overruns at hover
  split at hover
  · rename_i queueSize
    obtain ⟨hpos, hle, hshrink, hreserve⟩ := hover
    change ¬ WithinLimits (q.setMaxQueueSize queueSize).2
    unfold BufferQueue.setMaxQueueSize
    dsimp only
    rw [if_neg (by omega), if_pos hshrink]
    obtain ⟨size, hclamp, ⟨-, hrefused⟩ | ⟨hgrow, -, -⟩⟩ :=
      BufferQueue.setQueueSizeLocked_cases { q with maxQueueSize := queueSize } queueSize
    · rw [hrefused]
      rintro ⟨hmax, -⟩
      dsimp only at hmax
      omega
    · dsimp only at hclamp hgrow
      omega
  · rename_i sequence
    obtain ⟨hcheck, hfull⟩ := hover
    have hreserve := h.reserve
    have hsizes := BufferQueue.sizes_detachWithReserve hcheck
    change ¬ WithinLimits (q.detachBufferFromQueueLocked sequence .consumerInvoker true).2
    revert hsizes
    generalize (q.detachBufferFromQueueLocked sequence .consumerInvoker true).2 = q'
    intro hsizes hlimits
    simp only [BufferQueue.sizes, Prod.mk.injEq] at hsizes
    have hreserve' := hlimits.reserve
    omega
  · exact hover.elim

theorem refusalsChangeNothing {op : Op} (hok : ¬ op.overruns q) : op.RefusalsChangeNothing q := by
  rintro ⟨queueSize, rfl | rfl⟩ hret
  · change Reply.code (q.setQueueSize queueSize).1 ≠ _ at hret
    change (q.setQueueSize queueSize).2.maxQueueSize = _ ∧
      (q.setQueueSize queueSize).2.bufferQueueSize = _ ∧
        (q.setQueueSize queueSize).2.bufferQueueCache = _
    unfold BufferQueue.setQueueSize at hret ⊢
    split_ifs at hret ⊢
    · exact ⟨rfl, rfl, rfl⟩
    · obtain ⟨size, -, ⟨-, hrefused⟩ | ⟨-, hret', -⟩⟩ := q.setQueueSizeLocked_cases queueSize
      · rw [hrefused]
        exact ⟨rfl, rfl, rfl⟩
      · rw [hret'] at hret
        exact absurd rfl hret
  · change Reply.code (q.setMaxQueueSize queueSize).1 ≠ _ at hret
    change (q.setMaxQueueSize queueSize).2.maxQueueSize = _ ∧
      (q.setMaxQueueSize queueSize).2.bufferQueueSize = _ ∧
        (q.setMaxQueueSize queueSize).2.bufferQueueCache = _
    unfold BufferQueue.setMaxQueueSize at hret ⊢
    dsimp only at hret ⊢
    split_ifs at hret ⊢ with hsize hshrink
    · exact ⟨rfl, rfl, rfl⟩
    · rw [not_or, not_lt] at hsize
      have hreserve : q.detachReserveSlotNum ≤ queueSize := by
        simp only [Op.overruns, not_and, not_lt] at hok
        exact hok (Nat.pos_of_ne_zero hsize.1) hsize.2 hshrink
      obtain ⟨size, hclamp, ⟨hrefused, -⟩ | ⟨-, hret', -⟩⟩ :=
        BufferQueue.setQueueSizeLocked_cases { q with maxQueueSize := queueSize } queueSize
      · dsimp only at hclamp hrefused
        omega
      · rw [hret'] at hret
        exact absurd rfl hret
    · exact absurd rfl hret

end Bounded

/-- A run in which no call overruns a limit stays within both, and its next call keeps the limits
and changes nothing when it is refused exactly when it does not overrun one. -/
theorem queue_stays_within_limits {s : QueueSettings} (hmax : s.maxQueueSize = 0)
    (hsize : s.bufferQueueSize ≤ surfaceMaxQueueSize) {ops : List Op} {q : BufferQueue}
    (run : Run (restrict QueueStep fun q op => ¬ op.overruns q) (BufferQueue.start s) ops q) :
    WithinLimits q ∧ ∀ op q', QueueStep q op q' →
      (WithinLimits q' ∧ op.RefusalsChangeNothing q ↔ ¬ op.overruns q) := by
  have hstart : Bounded (BufferQueue.start s) := ⟨⟨.inl hmax, Nat.zero_le _⟩, hsize⟩
  have hbounded : Bounded q := by
    refine run.invariant ?_ hstart
    rintro q op q' h ⟨⟨-, rfl, -⟩, hok⟩
    exact h.step hok
  refine ⟨hbounded.toWithinLimits, ?_⟩
  rintro op q' ⟨-, rfl, -⟩
  constructor
  · rintro ⟨hlimits, -⟩ hover
    exact hbounded.not_withinLimits_of_overruns hover hlimits
  · intro hok
    exact ⟨(hbounded.step hok).toWithinLimits, Bounded.refusalsChangeNothing hok⟩

def reserveTwoSlots : List Op :=
  [.attachBufferToQueue (sampleBuffer 1) .consumerInvoker,
    .attachBufferToQueue (sampleBuffer 2) .consumerInvoker,
    .detachBufferFromQueue 1 .consumerInvoker true, .detachBufferFromQueue 2 .consumerInvoker true]

theorem queue_stays_within_limits_reserveTwoSlots :
    WithinLimits (execute Op.next (BufferQueue.start {}) reserveTwoSlots) := by
  have legal : Legal Op.next (fun q op => (op.Fresh q ∧ (op.next q).fault = false) ∧
      ¬ op.overruns q) (BufferQueue.start {}) reserveTwoSlots := by decide
  exact (queue_stays_within_limits rfl (by decide)
    (.of_legal (fun _ _ h => ⟨⟨h.1.1, rfl, h.1.2⟩, h.2⟩) legal)).1

/-- A maximum of one is refused after that, and stays behind as the maximum of a queue of three. -/
theorem refused_maximum_is_stored :
    ¬ ∀ (ops : List Op) (q : BufferQueue), Run QueueStep (BufferQueue.start {}) ops q →
      WithinLimits q ∧ ∀ op q', QueueStep q op q' → op.RefusalsChangeNothing q := by
  intro h
  have legal : Legal Op.next (fun q op => op.Fresh q ∧ (op.next q).fault = false)
      (BufferQueue.start {}) (reserveTwoSlots ++ [.setMaxQueueSize 1]) := by decide
  have hlimits := (h _ _ (.of_legal (fun _ _ h => ⟨h.1, rfl, h.2⟩) legal)).1.max
  revert hlimits
  decide

end GraphicSurface
