import GraphicSurface.HandOuts
import GraphicSurface.ReservedSlots

/-! A deletion notice tells the producer to forget a number. A buffer that was detached may come
back under the same number while the notice still waits, and no attach withdraws it. As long as
that does not happen, no notice names a cached buffer, neither in the list nor in a reply. -/

namespace GraphicSurface

open Runs SlotPool

namespace BufferQueue

/-- No waiting notice is about a cached buffer. -/
def Quiet (q : BufferQueue) : Prop := ∀ k ∈ q.deletingList, q.bufferQueueCache.find k = none

def admits (q : BufferQueue) (buffer : SurfaceBuffer) (invokerType : InvokerType) : Bool :=
  !(invokerType == .consumerInvoker && q.listenerSeqAndFenceActive) &&
    decide (q.getUsedSize < q.bufferQueueSize) && (q.bufferQueueCache.find buffer.seqNum).isNone

/-- A flush of a buffer that has just been attached would go through. -/
def flushes (q : BufferQueue) (buffer : SurfaceBuffer) (config : BufferFlushConfigWithDamages)
    (env : FlushEnv) : Bool :=
  q.isValidStatus && q.listenerRegistered && checkFlushConfig config == .ok &&
    (buffer.bufferRequestConfig.usage &&& bufferUsageCpuWrite == 0 || env.flushCache == .ok)

end BufferQueue

/-- The call brings a buffer in under a number that a waiting notice names. -/
def Op.revives (q : BufferQueue) : Op → Bool
  | attachBufferToQueue buffer invokerType =>
    q.deletingList.contains buffer.seqNum && q.admits buffer invokerType
  | attachBuffer buffer _ =>
    q.deletingList.contains buffer.seqNum && q.isValidStatus && q.listenerRegistered &&
      (q.bufferQueueCache.find buffer.seqNum).isNone && q.attachDeleteCount.isSome
  | attachAndFlushBuffer buffer _ _ config env =>
    q.deletingList.contains buffer.seqNum && q.admits buffer .producerInvoker &&
      q.flushes buffer config env
  | requestBuffer _ a | requestAndDetachBuffer _ a => q.deletingList.contains a.sequence
  | requestBuffers _ as => as.any fun a => q.deletingList.contains a.sequence
  | preAllocBuffers _ count as =>
    (List.range count).any fun i => q.deletingList.contains (as i).sequence
  | _ => false

namespace BufferQueue

variable {q q' : BufferQueue}

theorem Quiet.of_buries {ins : List ℕ} (h : q.Quiet) (hburies : Buries ins q q')
    (hins : ∀ k ∈ ins, k ∈ q.deletingList → q'.bufferQueueCache.find k = none) : q'.Quiet := by
  obtain ⟨new, -, hdeleting, hgone⟩ := hburies.notices
  intro k hk
  rcases hdeleting k hk with hk | hk
  · by_cases hin : k ∈ ins
    · exact hins k hin hk
    · exact hburies.absent k (h k hk) hin
  · exact (hgone k hk).2

theorem Quiet.request (h : q.Quiet) (hagrees : q.Agrees) (config : BufferRequestConfig)
    {a : Allocation} (hfresh : q.bufferQueueCache.find a.sequence = none)
    (hok : a.sequence ∉ q.deletingList) :
    (q.requestBufferLocked config a false).2.Quiet ∧
      ∀ k ∈ (q.requestBufferLocked config a false).1.retval.deletingBuffers,
        (q.requestBufferLocked config a false).2.bufferQueueCache.find k = none := by
  have hsettles : Settles false [a.sequence] q _ :=
    requestBufferLocked_settles hagrees config a hfresh
  have hins : ∀ k ∈ [a.sequence], k ∉ q.deletingList := by simpa using hok
  refine ⟨h.of_buries hsettles.toBuries fun k hk hin => absurd hin (hins k hk), fun k hk => ?_⟩
  obtain ⟨new, hnoticed, hbalance⟩ := (requestBufferLocked_frame q config a false).balance
  obtain ⟨new', hnoticed', -, hgone⟩ := hsettles.notices
  obtain rfl : new = new' := List.append_cancel_left (hnoticed.symm.trans hnoticed')
  have hmem : k ∈ q.deletingList ++ new := by
    rw [hbalance]
    exact List.mem_append_left _ hk
  rcases List.mem_append.mp hmem with hk | hk
  · exact hsettles.absent k (h k hk) fun hin => hins k hin hk
  · exact (hgone k hk).2

theorem Quiet.requestBuffersReplies (h : q.Quiet) (hagrees : q.Agrees)
    (config : BufferRequestConfig) (as : List Allocation) (hnodup : (as.map (·.sequence)).Nodup)
    (hfresh : ∀ a ∈ as, q.bufferQueueCache.find a.sequence = none)
    (hok : ∀ a ∈ as, a.sequence ∉ q.deletingList) :
    ∀ r ∈ q.requestBuffersReplies config as, ∀ k ∈ r.1.retval.deletingBuffers,
      r.2.bufferQueueCache.find k = none := by
  induction as generalizing q with
  | nil => simp [BufferQueue.requestBuffersReplies]
  | cons a as ih =>
    rw [List.map_cons, List.nodup_cons] at hnodup
    have hfirst := hfresh a List.mem_cons_self
    have hone := h.request hagrees config hfirst (hok a List.mem_cons_self)
    have hsettles : Settles false [a.sequence] q _ :=
      requestBufferLocked_settles hagrees config a hfirst
    have hagrees' := (requestBufferLocked_refines hagrees config a hfirst).agrees hagrees
    have hrest : ∀ b ∈ as, b.sequence ∉ [a.sequence] := by
      intro b hb heq
      exact hnodup.1 (List.mem_singleton.mp heq ▸ List.mem_map_of_mem hb)
    unfold BufferQueue.requestBuffersReplies requestBuffer
    dsimp only
    split
    · simpa using hone.2
    · intro r hr
      rcases List.mem_cons.mp hr with rfl | hr
      · exact hone.2
      · refine ih hone.1 hagrees' hnodup.2 (fun b hb => ?_) (fun b hb hin => ?_) r hr
        · exact hsettles.absent _ (hfresh b (List.mem_cons_of_mem a hb)) (hrest b hb)
        · obtain ⟨new, -, hdeleting, hgone⟩ := hsettles.notices
          rcases hdeleting _ hin with hin | hin
          · exact hok b (List.mem_cons_of_mem a hb) hin
          · rcases (hgone _ hin).1 with hcached | hnew
            · simp [hfresh b (List.mem_cons_of_mem a hb)] at hcached
            · exact hrest b hb hnew

theorem attachBufferToQueue_refuses {buffer : SurfaceBuffer} {invokerType : InvokerType}
    (hok : q.admits buffer invokerType = false) :
    (q.attachBufferToQueueLocked buffer invokerType).2 = q := by
  unfold attachBufferToQueueLocked
  split_ifs with hlistener hfull hin
  · rfl
  · rfl
  · rfl
  · rw [not_and] at hlistener
    have hadmits : q.admits buffer invokerType = true := by
      unfold admits
      cases invokerType <;> simp_all
    rw [hok] at hadmits
    cases hadmits

theorem attachBuffer_refuses {buffer : SurfaceBuffer} {timeOut : Int}
    (habsent : q.bufferQueueCache.find buffer.seqNum = none)
    (hok : (q.isValidStatus && q.listenerRegistered && q.attachDeleteCount.isSome) = false) :
    (q.attachBuffer buffer timeOut).2 = q := by
  unfold attachBuffer
  rw [habsent]
  cases hvalid : q.isValidStatus
  · rfl
  · cases hlistener : q.listenerRegistered
    · simp
    · cases hcount : q.attachDeleteCount
      · simp
      · simp [hvalid, hlistener, hcount] at hok

theorem attachAndFlushBuffer_refuses {buffer : SurfaceBuffer} {bedata : Option ExtraData}
    {fence : SyncFence} {config : BufferFlushConfigWithDamages} {env : FlushEnv}
    (habsent : q.bufferQueueCache.find buffer.seqNum = none)
    (hok : (q.admits buffer .producerInvoker && q.flushes buffer config env) = false) :
    (q.attachAndFlushBuffer buffer bedata fence config env).2.bufferQueueCache.find buffer.seqNum =
      none := by
  unfold attachAndFlushBuffer
  rcases attachToQueue_cases q buffer with ⟨hret, hsame⟩ | ⟨-, hroom, hattach⟩
  · simp only [hret, ne_eq, not_false_eq_true, if_true, hsame]
    exact habsent
  · have hadmits : q.admits buffer .producerInvoker = true := by
      simp [admits, hroom, habsent]
    rw [hadmits, Bool.true_and] at hok
    set ele : BufferElement := .init (q.attachedBuffer buffer) .requested
      buffer.bufferRequestConfig (some invalidFence)
    rw [hattach]
    simp only [ne_eq, not_true_eq_false, if_false]
    generalize hp : { q with bufferQueueCache := q.bufferQueueCache.put ele } = p
    have hfind : p.bufferQueueCache.find buffer.seqNum = some ele := by
      have hseq : ele.buffer.seqNum = buffer.seqNum := rfl
      simp [← hp, hseq]
    by_cases hret : (p.flushBufferImprovedLocked buffer.seqNum bedata fence config env).1 = .ok
    · obtain ⟨hvalid, hlistener, hconfig, hcache⟩ := flushImproved_ok hfind rfl hret
      have hvalid' : q.isValidStatus = true := by rw [← hvalid, ← hp]
      have hlistener' : q.listenerRegistered = true := by rw [← hlistener, ← hp]; rfl
      have husage : ele.config.usage = buffer.bufferRequestConfig.usage := rfl
      rw [husage] at hcache
      have hflushes : q.flushes buffer config env = true := by
        simp [flushes, hvalid', hlistener', hconfig, hcache]
      rw [hok] at hflushes
      cases hflushes
    · simp [hret]

end BufferQueue

theorem Op.absent_of_not_revives {q : BufferQueue} {op : Op} (hquiet : q.Quiet)
    (hok : op.revives q = false) {k : ℕ} (hk : k ∈ op.inserts) (hin : k ∈ q.deletingList) :
    (op.run q).2.bufferQueueCache.find k = none := by
  have hnone := hquiet k hin
  cases op with
  | requestBuffer config a | requestAndDetachBuffer config a =>
    obtain rfl := List.mem_singleton.mp hk
    simp [revives, hin] at hok
  | requestBuffers config as =>
    obtain ⟨a, ha, rfl⟩ := List.mem_map.mp hk
    have hnot := List.any_eq_false.mp hok a ha
    simp [hin] at hnot
  | preAllocBuffers config count as =>
    obtain ⟨i, hi, rfl⟩ := List.mem_map.mp hk
    have hnot := List.any_eq_false.mp hok i hi
    simp [hin] at hnot
  | attachBufferToQueue buffer invokerType =>
    obtain rfl := List.mem_singleton.mp hk
    have hadmits : q.admits buffer invokerType = false := by simpa [revives, hin] using hok
    have hsame := BufferQueue.attachBufferToQueue_refuses hadmits
    change (q.attachBufferToQueueLocked buffer invokerType).2.bufferQueueCache.find _ = none
    rw [hsame, hnone]
  | attachBuffer buffer timeOut =>
    obtain rfl := List.mem_singleton.mp hk
    have hsame : (q.attachBuffer buffer timeOut).2 = q :=
      BufferQueue.attachBuffer_refuses hnone (by simpa [revives, hin, hnone] using hok)
    change (q.attachBuffer buffer timeOut).2.bufferQueueCache.find _ = none
    rw [hsame, hnone]
  | attachAndFlushBuffer buffer bedata fence config env =>
    obtain rfl := List.mem_singleton.mp hk
    exact BufferQueue.attachAndFlushBuffer_refuses hnone (by simpa [revives, hin] using hok)
  | _ => cases hk

theorem QueueStep.quiet {q q' : BufferQueue} {op : Op} (hstep : QueueStep q op q')
    (hagrees : q.Agrees) (h : q.Quiet) (hok : op.revives q = false) : q'.Quiet := by
  obtain ⟨hfresh, rfl, _⟩ := hstep
  have hsettles : Settles false op.inserts q (op.run q).2 :=
    op.run_settles hagrees (by simp) hfresh (by simp)
  exact h.of_buries hsettles.toBuries fun k hk hin => op.absent_of_not_revives h hok hk hin

theorem Op.replies_quiet {q : BufferQueue} {op : Op} (hagrees : q.Agrees) (h : q.Quiet)
    (hfresh : op.Fresh q) (hok : op.revives q = false) :
    ∀ r ∈ op.replies q, ∀ k ∈ r.1.retval.deletingBuffers, r.2.bufferQueueCache.find k = none := by
  cases op with
  | requestBuffer config a | requestAndDetachBuffer config a =>
    intro r hr
    obtain rfl := List.mem_singleton.mp hr
    exact (h.request hagrees config hfresh (by simpa [revives] using hok)).2
  | requestBuffers config as =>
    have hquiet : BufferQueue.Quiet { q with isBatch := true } := h
    refine hquiet.requestBuffersReplies hagrees config as hfresh.1 hfresh.2 fun a ha => ?_
    have hnot := List.any_eq_false.mp hok a ha
    simpa using hnot
  | _ => simp [replies]

/-- As long as no call brings a buffer back under the number of a waiting notice, no notice is
about a cached buffer: not in the list, and not in a reply at the moment when it is built. -/
theorem notices_name_no_live_buffer {s : QueueSettings} {ops : List Op} {q : BufferQueue}
    (run : Run (restrict QueueStep fun q op => op.revives q = false) (BufferQueue.start s) ops q) :
    q.deletingList.Disjoint q.bufferQueueCache.keys ∧
      ∀ op q', QueueStep q op q' → op.revives q = false → ∀ r ∈ op.replies q,
        r.1.retval.deletingBuffers.Disjoint r.2.bufferQueueCache.keys := by
  have hdisjoint {l : List ℕ} {c : BufferCache} (h : ∀ k ∈ l, c.find k = none) :
      l.Disjoint c.keys := by
    intro k hk hin
    simp [h k hk] at hin
  have h : q.Agrees ∧ q.Quiet :=
    run.invariant₂ (fun _ _ _ hq hstep => (hstep.1.refines hq).agrees hq)
      (fun _ _ _ hq hinv hstep => hstep.1.quiet hq hinv hstep.2) (agrees_start s)
      (by simp [BufferQueue.Quiet, BufferQueue.start])
  exact ⟨hdisjoint h.2, fun op q' hstep hok r hr =>
    hdisjoint (op.replies_quiet h.1 h.2 hstep.1 hok r hr)⟩

def detachByConsumer : List Op :=
  [.configure .registerConsumerListener, .requestBuffer sampleConfig ⟨1, 1, true, true⟩,
    .flushBuffer ⟨1, some ∅, invalidFence, ⟨[], 0, 0⟩, ⟨.ok, 0⟩⟩, .acquireBuffer 0,
    .detachBufferFromQueue 1 .consumerInvoker false]

theorem notices_name_no_live_buffer_detachByConsumer :
    (execute Op.next (BufferQueue.start {}) detachByConsumer).deletingList = [1] ∧
      ((execute Op.next (BufferQueue.start {}) detachByConsumer).deletingList.Disjoint
        (execute Op.next (BufferQueue.start {}) detachByConsumer).bufferQueueCache.keys) := by
  have legal : Legal Op.next (fun q op => (op.Fresh q ∧ (op.next q).fault = false) ∧
      op.revives q = false) (BufferQueue.start {}) detachByConsumer := by decide
  have h := notices_name_no_live_buffer (.of_legal (fun _ _ h => ⟨⟨h.1.1, rfl, h.1.2⟩, h.2⟩) legal)
  exact ⟨by decide, h.1⟩

/-- The buffer comes back before the notice is sent. The next reply tells the producer to forget a
buffer that the queue still has. -/
theorem notice_names_live_buffer :
    ¬ ∀ (ops : List Op) (q : BufferQueue), Run QueueStep (BufferQueue.start {}) ops q →
      q.deletingList.Disjoint q.bufferQueueCache.keys ∧
        ∀ op q', QueueStep q op q' → ∀ r ∈ op.replies q,
          r.1.retval.deletingBuffers.Disjoint r.2.bufferQueueCache.keys := by
  intro h
  have legal : Legal Op.next (fun q op => op.Fresh q ∧ (op.next q).fault = false)
      (BufferQueue.start {})
      (detachByConsumer ++ [.attachBufferToQueue (sampleBuffer 1) .consumerInvoker]) := by decide
  obtain ⟨hlist, -⟩ := h _ _ (.of_legal (fun _ _ h => ⟨h.1, rfl, h.2⟩) legal)
  exact hlist (a := 1) (by decide) (by decide)

end GraphicSurface
