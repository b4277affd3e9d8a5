import GraphicSurface.AttachMoves
import GraphicSurface.Edits
import GraphicSurface.ReservedSlots

/-! Every buffer that the consumer has acquired and that then leaves the queue is reported to it
through `OnBufferDeleteForRS`, in sequential runs in which no frame is acquired that is still marked
as pre-allocated. Such a frame comes from an `AttachBuffer` of a free buffer that no request has
handed out: only a request takes the mark away. -/

namespace GraphicSurface

open Runs

namespace BufferQueue

variable {q : BufferQueue}

/-! The operations that are not one section of those above. -/

theorem requestBuffersLoop_edits (q : BufferQueue) (config : BufferRequestConfig)
    {as : List Allocation} (hnodup : (as.map (·.sequence)).Nodup)
    (hfresh : ∀ a ∈ as, q.bufferQueueCache.find a.sequence = none) :
    Edits (fun e => ∃ a ∈ as, a.makes e) q (q.requestBuffersLoop config as).2.2 := by
  induction as generalizing q with
  | nil => exact .refl
  | cons a as ih =>
    rw [List.map_cons, List.nodup_cons] at hnodup
    obtain ⟨hout, hnodup⟩ := hnodup
    have hone : Edits a.makes q (q.requestBuffer config a).2 :=
      q.requestBufferLocked_edits config false fun _ => hfresh a List.mem_cons_self
    have hother : ∀ a' ∈ as, ∀ e, a.makes e → e.buffer.seqNum ≠ a'.sequence := by
      rintro a' ha' e ⟨-, hseq⟩ hsame
      exact hout (by rw [← hseq, hsame]; exact List.mem_map_of_mem ha')
    have hrest := ih (q.requestBuffer config a).2 hnodup fun a' ha' =>
      hone.absent_of_made (hfresh a' (List.mem_cons_of_mem _ ha')) (hother a' ha')
    unfold requestBuffersLoop
    dsimp only
    split
    · exact hone.mono fun e he => ⟨a, List.mem_cons_self, he⟩
    · refine (hone.trans hrest ?_).mono ?_
      · rintro e ⟨a', ha', -, hseq⟩
        rw [hseq]
        exact ⟨hfresh a' (List.mem_cons_of_mem _ ha'), hother a' ha'⟩
      · rintro e (he | ⟨a', ha', he⟩)
        · exact ⟨a, List.mem_cons_self, he⟩
        · exact ⟨a', List.mem_cons_of_mem _ ha', he⟩

theorem requestBuffers_edits (q : BufferQueue) (config : BufferRequestConfig)
    {as : List Allocation} (hnodup : (as.map (·.sequence)).Nodup)
    (hfresh : ∀ a ∈ as, q.bufferQueueCache.find a.sequence = none) :
    Edits (fun e => ∃ a ∈ as, a.makes e) q (q.requestBuffers config as).2.2 := by
  have hbatch : Edits nothing q { q with isBatch := true } := .of_cache ⟨rfl, rfl⟩ rfl rfl
  have hloop := requestBuffersLoop_edits { q with isBatch := true } config hnodup hfresh
  refine (hbatch.after hloop ?_).before (.of_cache ⟨rfl, rfl⟩ rfl rfl)
  rintro e ⟨a, ha, -, hseq⟩
  rw [hseq]
  exact hfresh a ha

theorem requestAndDetachBuffer_edits (q : BufferQueue) (config : BufferRequestConfig)
    {a : Allocation} (hfresh : q.bufferQueueCache.find a.sequence = none) :
    Edits a.makes q (q.requestAndDetachBuffer config a).2 := by
  have hrequest := q.requestBufferLocked_edits config false fun _ : a.alloc = true => hfresh
  unfold requestAndDetachBuffer
  dsimp only
  split
  · exact hrequest
  · exact hrequest.before (detachBufferFromQueueLocked_edits _ _ _ _)

theorem flushBuffer_edits (q : BufferQueue) (sequence : ℕ) (bedata : Option ExtraData)
    (fence : SyncFence) (config : BufferFlushConfigWithDamages) (env : FlushEnv) :
    Edits nothing q (q.flushBuffer sequence bedata fence config env).2 := by
  refine flushBuffer_cases (motive := fun r => Edits nothing q r.2) ?_ ?_ ?_
  · exact fun _ _ => .refl
  · exact fun _ _ _ _ => cancelBufferLocked_edits q sequence bedata
  · exact fun _ => doFlushBufferLocked_edits q sequence bedata fence config env

theorem flushBuffers_edits (q : BufferQueue) (fs : List FlushArgs) :
    Edits nothing q (q.flushBuffers fs).2 :=
  flushBuffers_preserves (fun _ => .refl)
    (fun q f => flushBuffer_edits q f.sequence f.bedata f.fence f.config f.env) .before q fs

theorem acquireBufferByTimestamp_edits (q : BufferQueue) (expect : Int) (auto : Bool) (now : Int)
    (envs : ℕ → ReleaseEnv) :
    Edits nothing q (q.acquireBufferByTimestamp expect auto now envs).2 := by
  have hlevel := (dropBuffersByLevel_edits q now).before
    (releaseDropBuffers_edits _ envs (q.dropBuffersByLevel now).1)
  unfold acquireBufferByTimestamp
  split
  · exact acquireBuffer_edits q now
  · split
    · exact .refl
    · dsimp only
      have hsection := hlevel.before (acquireByTimestampSection_edits _ expect auto)
      split
      · exact hsection
      · exact (hsection.before (releaseDropBuffers_edits _ envs _)).before (acquireBuffer_edits _ now)

theorem setQueueSizeLocked_edits (q : BufferQueue) (queueSize : ℕ) :
    Edits nothing q (q.setQueueSizeLocked queueSize).2 :=
  setQueueSizeLocked_induct .refl (fun count => deleteBuffersLocked_edits q count)
    (fun _ _ h => h.before (.of_cache ⟨rfl, rfl⟩ rfl rfl)) queueSize

theorem setQueueSize_edits (q : BufferQueue) (queueSize : ℕ) :
    Edits nothing q (q.setQueueSize queueSize).2 := by
  unfold setQueueSize
  split
  · exact .refl
  · exact setQueueSizeLocked_edits q queueSize

theorem setMaxQueueSize_edits (q : BufferQueue) (queueSize : ℕ) :
    Edits nothing q (q.setMaxQueueSize queueSize).2 := by
  have hmax : Edits nothing q { q with maxQueueSize := queueSize } := .of_cache ⟨rfl, rfl⟩ rfl rfl
  unfold setMaxQueueSize
  split
  · exact .refl
  · dsimp only
    split
    · exact hmax.before (setQueueSizeLocked_edits _ queueSize)
    · exact hmax

theorem preAllocBuffers_edits (q : BufferQueue) (config : BufferRequestConfig) (count : ℕ)
    {as : ℕ → Allocation} (hfresh : ∀ i < count, q.bufferQueueCache.find (as i).sequence = none) :
    ∃ made, Edits made q (q.preAllocBuffers config count as).2 := by
  unfold preAllocBuffers
  split
  · exact ⟨nothing, .refl⟩
  · dsimp only
    split
    · exact ⟨nothing, .refl⟩
    · obtain ⟨hnodup, hmade⟩ := allocBuffers_spec
        { config with usage := config.usage ||| q.defaultUsage } (q.preAllocBuffersCount count) as
      refine ⟨_, insertPreAlloc_edits q _ hnodup fun b hb => ?_⟩
      obtain ⟨i, hi, hseq⟩ := hmade b hb
      rw [← hseq]
      exact hfresh i (hi.trans_le (Nat.min_le_left _ _))

theorem setProducerCacheCleanFlag_edits (q : BufferQueue) (flag : Bool) :
    Edits nothing q (q.setProducerCacheCleanFlag flag) := by
  unfold setProducerCacheCleanFlag
  dsimp only
  split
  · exact q.clearLocked_edits.before (.of_cache ⟨rfl, rfl⟩ rfl rfl)
  · exact .of_cache ⟨rfl, rfl⟩ rfl rfl

end BufferQueue

/-- What an operation does to the cache, as far as the marks and the reports go. -/
structure Losses (q q' : BufferQueue) : Prop where
  marks : ∀ k e', q'.bufferQueueCache.find k = some e' → q.bufferQueueCache.find k = none ∨
    ∃ e, q.bufferQueueCache.find k = some e ∧
      (e'.isPreAllocBuffer = true → e.isPreAllocBuffer = true)
  reports : ∃ new, q'.deletedForRS = q.deletedForRS ++ new ∧ new.Nodup ∧
    ∀ k e, q.bufferQueueCache.find k = some e → q'.bufferQueueCache.find k = none →
      e.isPreAllocBuffer = false → k ∈ new

namespace Losses

variable {made : BufferElement → Prop} {q q' : BufferQueue}

theorem of_edits (h : Edits made q q') : Losses q q' := by
  obtain ⟨new, hreport, hnodup, -, hall⟩ := h.reports
  refine ⟨fun k e' he' => ?_, new, hreport, hnodup, hall⟩
  rcases h.entries k e' he' with ⟨e, he, hwrites⟩ | ⟨hnone, -⟩
  · exact .inr ⟨e, he, hwrites.preAlloc⟩
  · exact .inl hnone

theorem of_quiet (h : Edits nothing q q') : Losses q q' := of_edits h

theorem of_find {f : BufferElement → BufferElement}
    (hf : ∀ e, (f e).isPreAllocBuffer = e.isPreAllocBuffer)
    (hfind : ∀ k, q'.bufferQueueCache.find k = (q.bufferQueueCache.find k).map f ∨
      q'.bufferQueueCache.find k = q.bufferQueueCache.find k)
    (hreport : q'.deletedForRS = q.deletedForRS) : Losses q q' := by
  refine ⟨fun k e' he' => ?_, [], by simp [hreport], List.nodup_nil, fun k e he hnone _ => ?_⟩
  · right
    rcases hfind k with h | h
    · rw [h, Option.map_eq_some_iff] at he'
      obtain ⟨e, he, rfl⟩ := he'
      exact ⟨e, he, fun hmark => hf e ▸ hmark⟩
    · exact ⟨e', h ▸ he', id⟩
  · rcases hfind k with h | h <;> rw [h, he] at hnone <;> cases hnone

end Losses

theorem QueueStep.losses {q q' : BufferQueue} {op : Op} (hstep : QueueStep q op q') :
    Losses q q' := by
  obtain ⟨hfresh, rfl, -⟩ := hstep
  cases op with
  | requestBuffer config a =>
    exact .of_edits (q.requestBufferLocked_edits config false fun _ => hfresh)
  | requestBuffers config as =>
    exact .of_edits (q.requestBuffers_edits config hfresh.1 hfresh.2)
  | requestAndDetachBuffer config a =>
    exact .of_edits (q.requestAndDetachBuffer_edits config hfresh)
  | cancelBuffer sequence bedata => exact .of_edits (q.cancelBufferLocked_edits sequence bedata)
  | flushBuffer f => exact .of_edits (q.flushBuffer_edits _ _ _ _ _)
  | flushBuffers fs => exact .of_edits (q.flushBuffers_edits fs)
  | acquireBuffer now => exact .of_edits (q.acquireBuffer_edits now)
  | acquireBufferByTimestamp expect auto now envs =>
    exact .of_edits (q.acquireBufferByTimestamp_edits expect auto now envs)
  | releaseBuffer sequence fence env =>
    exact .of_edits (q.releaseBuffer_edits sequence fence env)
  | attachBufferToQueue buffer invoker =>
    exact .of_edits (q.attachBufferToQueueLocked_edits buffer invoker)
  | detachBufferFromQueue sequence invoker reserve =>
    exact .of_edits (q.detachBufferFromQueueLocked_edits sequence invoker reserve)
  | attachBuffer buffer timeOut => exact .of_edits (q.attachBuffer_edits buffer timeOut)
  | detachBuffer sequence => exact .of_edits (q.detachBuffer_edits sequence)
  | attachAndFlushBuffer buffer bedata fence config env =>
    exact .of_edits (q.attachAndFlushBuffer_edits buffer bedata fence config env)
  | setQueueSize size => exact .of_edits (q.setQueueSize_edits size)
  | setMaxQueueSize size => exact .of_edits (q.setMaxQueueSize_edits size)
  | preAllocBuffers config count as =>
    obtain ⟨made, h⟩ := q.preAllocBuffers_edits config count hfresh
    exact .of_edits h
  | cleanCache => exact .of_edits q.clearLocked_edits
  | goBackground =>
    exact .of_edits (q.clearLocked_edits.before (.of_cache ⟨rfl, rfl⟩ rfl rfl))
  | onConsumerDied => exact .of_edits q.clearLocked_edits
  | setProducerCacheCleanFlag flag => exact .of_edits (q.setProducerCacheCleanFlag_edits flag)
  | cleanReleasedBuffers => exact .of_edits (q.cleanReleasedBuffersLocked_edits q.freeList)
  | cleanProducerBySeqNum seqNums => exact .of_edits (q.cleanProducerBySeqNum_edits seqNums)
  | acquireLastFlushedBuffer =>
    exact .of_quiet (BufferQueue.acquireLastFlushedBuffer_induct q .refl
      (.of_cache ⟨rfl, rfl⟩ rfl rfl))
  | releaseLastFlushedBuffer sequence =>
    exact .of_quiet (BufferQueue.releaseLastFlushedBuffer_induct q sequence .refl
      (.of_cache ⟨rfl, rfl⟩ rfl rfl))
  | setScalingMode mode =>
    exact .of_find (f := BufferElement.setScalingMode mode) (fun _ => rfl)
      (fun k => .inl (BufferCache.find_mapAll _ _ (BufferElement.setScalingMode_seqNum _) k)) rfl
  | setBufferScalingMode sequence mode =>
    change Losses q (q.setBufferScalingMode sequence mode).2
    unfold BufferQueue.setBufferScalingMode
    split
    · refine .of_find (f := BufferElement.setScalingMode mode) (fun _ => rfl) (fun k => ?_) rfl
      dsimp only
      rw [BufferCache.find_modify]
      split_ifs
      · exact .inl rfl
      · exact .inr rfl
    · exact .of_quiet .refl
  | setVideoDimensionType type =>
    exact .of_find (f := BufferElement.setVideoDimensionType type) (fun _ => rfl)
      (fun k => .inl (BufferCache.find_mapAll _ _ (BufferElement.setVideoDimensionType_seqNum _) k))
      rfl
  | setSingleBufferMode mode => exact .of_quiet (.of_cache ⟨rfl, rfl⟩ rfl rfl)
  | configure s => exact .of_edits (q.configure_edits s)

def Op.acquired? (q : BufferQueue) (op : Op) : Option ℕ :=
  match (op.run q).1 with
  | .acquire reply => reply.buffer.map (·.seqNum)
  | _ => none

/-- The consumer gets a frame that is still marked as pre-allocated. -/
def Op.takesPreAlloc (q : BufferQueue) (op : Op) : Bool :=
  (op.acquired? q).any fun k => (q.bufferQueueCache.find k).any (·.isPreAllocBuffer)

/-- The numbers that the consumer has acquired since they were put in the cache. -/
def recordAcquired (acquired : List ℕ) (q : BufferQueue) (op : Op) : List ℕ :=
  ((op.acquired? q).toList ++ acquired).filter fun k =>
    ((op.next q).bufferQueueCache.find k).isSome

def AcquiredStep (s : BufferQueue × List ℕ) (op : Op) (t : BufferQueue × List ℕ) : Prop :=
  QueueStep s.1 op t.1 ∧ t.2 = recordAcquired s.2 s.1 op

theorem Op.cached_of_acquired {q : BufferQueue} {op : Op} {k : ℕ} (h : op.acquired? q = some k)
    (hk : q.bufferQueueCache.find k = none) : (op.next q).bufferQueueCache.find k = none := by
  cases op with
  | acquireBuffer now => exact (q.acquireBuffer_edits now).absent hk
  | acquireBufferByTimestamp expect auto now envs =>
    exact (q.acquireBufferByTimestamp_edits expect auto now envs).absent hk
  | _ => cases h

/-- Every buffer that the consumer has acquired is in the cache and not marked. -/
def AcquiredUnmarked (s : BufferQueue × List ℕ) : Prop :=
  ∀ k ∈ s.2, ∃ e, s.1.bufferQueueCache.find k = some e ∧ e.isPreAllocBuffer = false

namespace AcquiredUnmarked

theorem step {s t : BufferQueue × List ℕ} {op : Op} (h : AcquiredUnmarked s)
    (hstep : AcquiredStep s op t) (hok : op.takesPreAlloc s.1 = false) : AcquiredUnmarked t := by
  obtain ⟨hqueue, hacquired⟩ := hstep
  have hlosses := hqueue.losses
  obtain ⟨-, hnext, -⟩ := hqueue
  have hbefore : ∀ k ∈ t.2, s.1.bufferQueueCache.find k = none →
      t.1.bufferQueueCache.find k = none := by
    intro k hk hnone
    rw [hacquired, recordAcquired, List.mem_filter, List.mem_append, Option.mem_toList] at hk
    rcases hk.1 with hk | hk
    · rw [hnext]
      exact Op.cached_of_acquired hk hnone
    · obtain ⟨e, he, -⟩ := h k hk
      rw [hnone] at he
      cases he
  have hunmarked : ∀ k ∈ t.2, ∀ e, s.1.bufferQueueCache.find k = some e →
      e.isPreAllocBuffer = false := by
    intro k hk e he
    rw [hacquired, recordAcquired, List.mem_filter, List.mem_append, Option.mem_toList] at hk
    rcases hk.1 with hk | hk
    · rw [Op.takesPreAlloc, Option.mem_def.mp hk] at hok
      simpa [he] using hok
    · obtain ⟨e', he', hfalse⟩ := h k hk
      rw [he, Option.some.injEq] at he'
      rwa [he']
  intro k hk
  have hcached : (t.1.bufferQueueCache.find k).isSome := by
    have hin := hk
    rw [hacquired, recordAcquired, List.mem_filter] at hin
    rw [hnext]
    exact hin.2
  obtain ⟨e', he'⟩ := Option.isSome_iff_exists.mp hcached
  refine ⟨e', he', ?_⟩
  rcases hlosses.marks k e' he' with hnone | ⟨e, he, hmark⟩
  · rw [hbefore k hk hnone] at he'
    cases he'
  · by_contra hmarked
    rw [Bool.not_eq_false] at hmarked
    have hfalse := hunmarked k hk e he
    rw [hmark hmarked] at hfalse
    cases hfalse

theorem of_run {s t : BufferQueue × List ℕ} {ops : List Op} (h : AcquiredUnmarked s)
    (run : Run (restrict AcquiredStep fun s op => op.takesPreAlloc s.1 = false) s ops t) :
    AcquiredUnmarked t :=
  run.invariant (fun _ _ _ hs hstep => hs.step hstep.1 hstep.2) h

end AcquiredUnmarked

def acquiredNext (s : BufferQueue × List ℕ) (op : Op) : BufferQueue × List ℕ :=
  (op.next s.1, recordAcquired s.2 s.1 op)

def requestToAcquire : List Op :=
  [.configure .registerConsumerListener, .requestBuffer sampleConfig ⟨1, 1, true, true⟩,
    .flushBuffer ⟨1, some ∅, invalidFence, ⟨[], 0, 0⟩, ⟨.ok, 0⟩⟩, .acquireBuffer 0]

/-- A free buffer of `PreAllocBuffers` that goes to the consumer by way of `AttachBuffer`. -/
def attachPreAllocated : List Op :=
  [.configure .registerConsumerListener,
    .preAllocBuffers sampleConfig 1 fun _ => ⟨1, 1, true, true⟩, .attachBuffer (sampleBuffer 1) 0,
    .flushBuffer ⟨1, some ∅, invalidFence, ⟨[], 0, 0⟩, ⟨.ok, 0⟩⟩, .acquireBuffer 0]

end GraphicSurface
