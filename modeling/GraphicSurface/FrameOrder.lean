import GraphicSurface.Agreement
import GraphicSurface.Frames
import GraphicSurface.Tickets

/-! The history of the frames. A ledger gives a ticket to every successful flush whose buffer
enters the dirty list; the frames that `AcquireBuffer` returns are checked off against it, and a
ticket that leaves the dirty list otherwise is filed under the call that removed it. -/

namespace GraphicSurface

open Runs SlotPool Tickets

/-- How a flushed frame may leave the queue without being returned. -/
inductive Removal
  | drop
  | noBlockReuse
  | queueSize
  | attachBuffer
  | cleanProducer
  | clear
deriving DecidableEq, Repr

namespace BufferQueue

def markedDeleting (q : BufferQueue) (sequence : ℕ) : Bool :=
  (q.bufferQueueCache.find sequence).any (·.isDeleting)

/-- The flush that `FlushBuffer` performs when it succeeds, and whether the buffer was condemned. -/
def successfulFlush (q : BufferQueue) (f : FlushArgs) : List (ℕ × Bool) :=
  if (q.flushBuffer f.sequence f.bedata f.fence f.config f.env).1 = .ok then
    [(f.sequence, q.markedDeleting f.sequence)]
  else []

def successfulFlushes (q : BufferQueue) : List FlushArgs → List (ℕ × Bool)
  | [] => []
  | f :: fs =>
    match q.flushBuffer f.sequence f.bedata f.fence f.config f.env with
    | (ret, q') =>
      q.successfulFlush f ++ if ret ≠ .ok then [] else q'.successfulFlushes fs

end BufferQueue

def AcquireReply.frame (reply : AcquireReply) : Option ℕ :=
  if reply.ret = .ok then reply.buffer.map (·.seqNum) else none

namespace Op

def flushes (q : BufferQueue) : Op → List (ℕ × Bool)
  | flushBuffer f => q.successfulFlush f
  | flushBuffers fs => q.successfulFlushes fs
  | attachAndFlushBuffer buffer bedata fence config env =>
    if (q.attachAndFlushBuffer buffer bedata fence config env).1 = .ok then
      [(buffer.seqNum, (q.attachBufferToQueueLocked buffer .producerInvoker).2.markedDeleting
        buffer.seqNum)]
    else []
  | _ => []

def frame (q : BufferQueue) (op : Op) : Option ℕ :=
  match (op.run q).1 with
  | .acquire reply => reply.frame
  | _ => none

/-- Why a call may take frames out of the dirty list without returning them; `none` for a call
that does not. -/
def removal (q : BufferQueue) : Op → Option Removal
  | acquireBufferByTimestamp _ _ _ _ => some .drop
  | requestBuffer _ _ | requestBuffers _ _ | requestAndDetachBuffer _ _ =>
    if q.requestBufferNoBlockMode then some .noBlockReuse else none
  | setQueueSize _ | setMaxQueueSize _ => some .queueSize
  | attachBuffer _ _ => some .attachBuffer
  | cleanProducerBySeqNum _ => some .cleanProducer
  | cleanCache | goBackground | onConsumerDied => some .clear
  | setProducerCacheCleanFlag flag =>
    if flag && q.listenerSeqAndFenceActive then some .clear else none
  | _ => none

end Op

def unmarked (flushes : List (ℕ × Bool)) : List ℕ :=
  (flushes.filter fun f => !f.2).map (·.1)

@[simp] theorem unmarked_nil : unmarked [] = [] := rfl

theorem unmarked_append (fs gs : List (ℕ × Bool)) :
    unmarked (fs ++ gs) = unmarked fs ++ unmarked gs := by
  simp [unmarked]

structure FrameHistory where
  flushes : List (ℕ × Bool) := []
  frames : List ℕ := []
  ledger : Ledger ℕ (Option Removal) := {}

def FrameHistory.record (h : FrameHistory) (q : BufferQueue) (op : Op) : FrameHistory where
  flushes := h.flushes ++ op.flushes q
  frames := h.frames ++ (op.frame q).toList
  ledger := h.ledger.observe (unmarked (op.flushes q)) (op.frame q) (op.next q).dirtyList
    (op.removal q)

def HistoryStep (s : BufferQueue × FrameHistory) (op : Op) (t : BufferQueue × FrameHistory) : Prop :=
  QueueStep s.1 op t.1 ∧ t.2 = s.2.record s.1 op

theorem requests_of_requestsBlocking {fresh : List ℕ} {m : Move ℕ}
    (h : requestsBlocking fresh m) : requests fresh m :=
  h.imp_left reuses_of_lends

theorem quiet_of_requestsBlocking {fresh : List ℕ} {m : Move ℕ}
    (h : requestsBlocking fresh m) : m.quiet := by
  rcases h with h | h
  · cases m <;> simp_all [lends, Move.quiet]
  · cases m <;> simp_all [adopts, Move.quiet]

theorem silent_of_requests {fresh : List ℕ} {m : Move ℕ} (h : requests fresh m) : m.silent := by
  rcases h with h | h
  · cases m <;> simp_all [reuses, Move.silent]
  · cases m <;> simp_all [adopts, Move.silent]

theorem quiet_of_detaches {m : Move ℕ} (h : detaches m) : m.quiet := by
  cases m <;> simp_all [detaches, Move.quiet]

namespace BufferQueue

variable {q q' : BufferQueue}

theorem doFlush_dirtyList {sequence : ℕ} {bedata : Option ExtraData} {fence : SyncFence}
    {config : BufferFlushConfigWithDamages} {env : FlushEnv}
    (hret : (q.doFlushBufferLocked sequence bedata fence config env).1 = .ok) :
    (q.doFlushBufferLocked sequence bedata fence config env).2.dirtyList =
      q.dirtyList ++ unmarked [(sequence, q.markedDeleting sequence)] := by
  unfold doFlushBufferLocked at hret ⊢
  cases hfind : q.bufferQueueCache.find sequence with
  | none => simp [hfind] at hret
  | some e =>
    simp only [hfind] at hret ⊢
    by_cases hdeleting : e.isDeleting = true
    · have hpool := pool_deleteNoWait hfind
      simp only [pool, Pool.mk.injEq] at hpool
      simp [hdeleting, unmarked, markedDeleting, hfind, hpool]
    · rw [if_neg hdeleting] at hret ⊢
      cases bedata with
      | none => simp at hret
      | some bedata =>
        dsimp only at hret ⊢
        by_cases hcache : e.config.usage &&& bufferUsageCpuWrite ≠ 0 ∧ env.flushCache ≠ .ok
        · rw [if_pos hcache] at hret
          exact absurd hret hcache.2
        · rw [if_neg hcache]
          simp [unmarked, markedDeleting, hfind, hdeleting, commitFlush, prepareFlush]

theorem doFlush_dirtyList_error {sequence : ℕ} {bedata : Option ExtraData} {fence : SyncFence}
    {config : BufferFlushConfigWithDamages} {env : FlushEnv}
    (hret : (q.doFlushBufferLocked sequence bedata fence config env).1 ≠ .ok) :
    (q.doFlushBufferLocked sequence bedata fence config env).2.dirtyList = q.dirtyList := by
  have hpool := pool_doFlush_error hret
  simp only [pool, Pool.mk.injEq] at hpool
  exact hpool.2.2.1

theorem cancelBufferLocked_dirtyList (q : BufferQueue) (sequence : ℕ) (bedata : Option ExtraData) :
    (q.cancelBufferLocked sequence bedata).2.dirtyList = q.dirtyList := by
  unfold cancelBufferLocked
  split
  · rfl
  · split <;> rfl

theorem flushBuffer_dirtyList (q : BufferQueue) (f : FlushArgs) :
    (q.flushBuffer f.sequence f.bedata f.fence f.config f.env).2.dirtyList =
      q.dirtyList ++ unmarked (q.successfulFlush f) := by
  unfold successfulFlush
  by_cases hret : (q.flushBuffer f.sequence f.bedata f.fence f.config f.env).1 = .ok
  · rw [if_pos hret]
    revert hret
    refine flushBuffer_cases (motive := fun r => r.1 = .ok →
      r.2.dirtyList = q.dirtyList ++ unmarked [(f.sequence, q.markedDeleting f.sequence)]) ?_ ?_ ?_
    · exact fun _ hret hok => absurd hok hret
    · exact fun _ _ _ _ hok => absurd hok nofun
    · exact fun _ => doFlush_dirtyList
  · rw [if_neg hret, unmarked_nil, List.append_nil]
    revert hret
    refine flushBuffer_cases (motive := fun r => r.1 ≠ .ok → r.2.dirtyList = q.dirtyList) ?_ ?_ ?_
    · exact fun _ _ _ => rfl
    · exact fun _ _ _ _ _ => cancelBufferLocked_dirtyList q _ _
    · exact fun _ => doFlush_dirtyList_error

theorem flushBuffers_dirtyList (q : BufferQueue) (fs : List FlushArgs) :
    (q.flushBuffers fs).2.dirtyList = q.dirtyList ++ unmarked (q.successfulFlushes fs) := by
  induction fs generalizing q with
  | nil => simp [flushBuffers, successfulFlushes]
  | cons f fs ih =>
    unfold flushBuffers successfulFlushes
    dsimp only
    split
    · rw [List.append_nil, flushBuffer_dirtyList]
    · rw [ih, flushBuffer_dirtyList, unmarked_append, List.append_assoc]

theorem flushImproved_dirtyList {sequence : ℕ} {bedata : Option ExtraData} {fence : SyncFence}
    {config : BufferFlushConfigWithDamages} {env : FlushEnv}
    (hret : (q.flushBufferImprovedLocked sequence bedata fence config env).1 = .ok) :
    (q.flushBufferImprovedLocked sequence bedata fence config env).2.dirtyList =
      q.dirtyList ++ unmarked [(sequence, q.markedDeleting sequence)] := by
  revert hret
  refine flushBufferImprovedLocked_cases (motive := fun r => r.1 = .ok →
    r.2.dirtyList = q.dirtyList ++ unmarked [(sequence, q.markedDeleting sequence)]) ?_ ?_
  · exact fun _ hret hok => absurd hok hret
  · exact fun _ => doFlush_dirtyList

theorem attachAndFlushBuffer_dirtyList (h : q.Agrees) (buffer : SurfaceBuffer)
    (bedata : Option ExtraData) (fence : SyncFence) (config : BufferFlushConfigWithDamages)
    (env : FlushEnv) :
    (q.attachAndFlushBuffer buffer bedata fence config env).2.dirtyList =
      q.dirtyList ++ unmarked ((Op.attachAndFlushBuffer buffer bedata fence config env).flushes q) := by
  have hattach := attachBufferToQueueLocked_refines q buffer .producerInvoker
  have hbefore := hattach.dirtyList_eq fun m hm => by cases m <;> simp_all [adoptsOne, Move.quiet]
  have hagrees := hattach.agrees h
  have hheld (hok : (q.attachBufferToQueueLocked buffer .producerInvoker).1 = .ok) :=
    held_of_attach hok
  unfold Op.flushes attachAndFlushBuffer
  rcases hq : q.attachBufferToQueueLocked buffer .producerInvoker with ⟨ret, p⟩
  simp only [hq] at hbefore hagrees hheld ⊢
  by_cases hok : ret = .ok
  · by_cases hret : (p.flushBufferImprovedLocked buffer.seqNum bedata fence config env).1 = .ok
    · simp only [hok, hret, ne_eq, not_true_eq_false, if_false, if_true, ← hbefore]
      exact flushImproved_dirtyList hret
    · have hpool := pool_flushImproved_error hret
      simp only [pool, Pool.mk.injEq] at hpool
      have hout : buffer.seqNum ∉ p.dirtyList := by
        intro hmem
        simpa [hheld hok] using (hagrees.mem_pending buffer.seqNum).mp hmem
      simp [hok, hret, hpool, ← hbefore, List.erase_of_not_mem hout]
  · simp [hok, hbefore]

theorem acquireBuffer_dirtyList (h : q.Agrees) (now : Int) :
    q.dirtyList = (q.acquireBuffer now).1.frame.toList ++ (q.acquireBuffer now).2.dirtyList := by
  unfold acquireBuffer
  split
  · rename_i q₁ hpop
    obtain ⟨rfl, _⟩ := popFromDirtyListLocked_none h hpop
    rfl
  · rename_i buffer q₁ hpop
    obtain ⟨rest, e, hdirty, he, _, rfl⟩ := popFromDirtyListLocked_some hpop
    simp [he, AcquireReply.frame, markAcquired, hdirty]

theorem acquireBufferByTimestamp_dirtyList (h : q.Agrees) (expect : Int) (auto : Bool) (now : Int)
    (envs : ℕ → ReleaseEnv) :
    ∃ dropped, q.dirtyList = dropped ++
      ((q.acquireBufferByTimestamp expect auto now envs).1.frame.toList ++
        (q.acquireBufferByTimestamp expect auto now envs).2.dirtyList) := by
  have ofTakes {p p' : BufferQueue} (hp : Refines takes p p') : Refines acquires p p' :=
    hp.mono fun _ => Or.inl
  have ofReleases {p p' : BufferQueue} (hp : Refines releases p p') : Refines acquires p p' :=
    hp.mono fun _ => Or.inr
  have hsuffix {p : BufferQueue} (hp : Refines acquires q p) : ∃ dropped,
      q.dirtyList = dropped ++ p.dirtyList := by
    obtain ⟨dropped, hdropped⟩ := hp.dirtyList_suffix fun m hm => by
      rcases hm with hm | hm
      · cases m <;> simp_all [takes]
      · exact .inl (quiet_of_releases hm)
    exact ⟨dropped, hdropped.symm⟩
  unfold acquireBufferByTimestamp
  split
  · exact ⟨[], acquireBuffer_dirtyList h now⟩
  · split
    · exact ⟨[], rfl⟩
    · have hlevel := ofTakes (dropBuffersByLevel_refines h now)
      have hreleased := hlevel.trans (ofReleases (releaseDropBuffers_refines (hlevel.agrees h) envs
        (q.dropBuffersByLevel now).1))
      have hsection := hreleased.trans (ofTakes (acquireByTimestampSection_refines
        (hreleased.agrees h) expect auto))
      rcases hs : ((q.dropBuffersByLevel now).2.releaseDropBuffers envs
        (q.dropBuffersByLevel now).1).acquireByTimestampSection expect auto with ⟨ret, ds, p⟩
      simp only [hs] at hsection ⊢
      by_cases hret : ret = .ok
      · have hfinal := hsection.trans (ofReleases (releaseDropBuffers_refines (hsection.agrees h)
          envs ds))
        obtain ⟨dropped, hdropped⟩ := hsuffix hfinal
        refine ⟨dropped, ?_⟩
        simp only [hret, ne_eq, not_true_eq_false, if_false]
        rw [← acquireBuffer_dirtyList (hfinal.agrees h) now]
        exact hdropped
      · obtain ⟨dropped, hdropped⟩ := hsuffix hsection
        refine ⟨dropped, ?_⟩
        simpa [AcquireReply.frame, AcquireReply.error, hret] using hdropped

theorem requestBuffersLoop_dirtyList (h : q.Agrees) (hblock : !q.requestBufferNoBlockMode)
    (config : BufferRequestConfig) (as : List Allocation) (hnodup : (as.map (·.sequence)).Nodup)
    (hfresh : ∀ a ∈ as, q.bufferQueueCache.find a.sequence = none) :
    (q.requestBuffersLoop config as).2.2.dirtyList = q.dirtyList := by
  induction as generalizing q with
  | nil => rfl
  | cons a as ih =>
    rw [List.map_cons, List.nodup_cons] at hnodup
    have hone := requestBufferLocked_refines_block h hblock config a (hfresh a List.mem_cons_self)
    have hdirty := hone.dirtyList_eq fun m => quiet_of_requestsBlocking
    have hframe := requestBufferLocked_frame q config a false
    unfold requestBuffersLoop requestBuffer
    dsimp only
    split_ifs
    · exact hdirty
    · refine (ih (hone.agrees h) ?_ hnodup.2 fun b hb => ?_).trans hdirty
      · simpa [hframe.settings] using hblock
      · have hne : b.sequence ≠ a.sequence := by
          rintro heq
          exact hnodup.1 (heq ▸ List.mem_map_of_mem hb)
        refine hone.absent (fun m hm => ?_) (hfresh b (List.mem_cons_of_mem a hb))
        exact ne_of_requests (requests_of_requestsBlocking hm) (by simpa using hne)

end BufferQueue

/-- What one call does to the dirty list, in the terms of the history. -/
structure Accounts (q : BufferQueue) (op : Op) (q' : BufferQueue) : Prop where
  nodup : (q.dirtyList ++ unmarked (op.flushes q)).Nodup
  flow : Sound.Flow (q.dirtyList ++ unmarked (op.flushes q)) (op.frame q) q'.dirtyList
  kept : op.removal q = none →
    q.dirtyList ++ unmarked (op.flushes q) = (op.frame q).toList ++ q'.dirtyList

namespace Accounts

variable {q q' : BufferQueue} {op : Op}

theorem of_flush (h' : q'.Agrees) (hframe : op.frame q = none)
    (hdirty : q'.dirtyList = q.dirtyList ++ unmarked (op.flushes q)) : Accounts q op q' where
  nodup := hdirty ▸ h'.pending_nodup
  flow := by
    rw [hframe, ← hdirty]
    exact List.Sublist.refl _
  kept _ := by simp [hframe, hdirty]

theorem of_sublist (h : q.Agrees) (hflushes : op.flushes q = []) (hframe : op.frame q = none)
    (hsub : q'.dirtyList.Sublist q.dirtyList)
    (hkept : op.removal q = none → q'.dirtyList = q.dirtyList) : Accounts q op q' where
  nodup := by
    have hnodup : q.dirtyList.Nodup := h.pending_nodup
    simpa [hflushes] using hnodup
  flow := by
    rw [hflushes, hframe, unmarked_nil, List.append_nil]
    exact hsub
  kept hnone := by simp [hflushes, hframe, hkept hnone]

theorem of_quiet (h : q.Agrees) (hflushes : op.flushes q = []) (hframe : op.frame q = none)
    (hrefines : Refines op.moves q q') (hquiet : ∀ m, op.moves m → m.quiet) : Accounts q op q' := by
  have hdirty := hrefines.dirtyList_eq hquiet
  exact of_sublist h hflushes hframe (hdirty ▸ List.Sublist.refl _) fun _ => hdirty

theorem of_silent (h : q.Agrees) (hflushes : op.flushes q = []) (hframe : op.frame q = none)
    (hrefines : Refines op.moves q q') (hsilent : ∀ m, op.moves m → m.silent)
    (hremoval : op.removal q ≠ none) : Accounts q op q' :=
  of_sublist h hflushes hframe (hrefines.dirtyList_sublist hsilent) fun hnone =>
    absurd hnone hremoval

theorem of_request (h : q.Agrees) (hflushes : op.flushes q = []) (hframe : op.frame q = none)
    (hremoval : op.removal q = if q.requestBufferNoBlockMode then some .noBlockReuse else none)
    (hsub : q'.dirtyList.Sublist q.dirtyList)
    (hblock : (!q.requestBufferNoBlockMode) = true → q'.dirtyList = q.dirtyList) :
    Accounts q op q' := by
  refine of_sublist h hflushes hframe hsub fun hnone => hblock ?_
  rw [hremoval] at hnone
  cases hmode : q.requestBufferNoBlockMode <;> simp_all

theorem of_acquire (h : q.Agrees) (hflushes : op.flushes q = []) {dropped : List ℕ}
    (hdirty : q.dirtyList = dropped ++ ((op.frame q).toList ++ q'.dirtyList))
    (hnone : op.removal q = none → dropped = []) : Accounts q op q' where
  nodup := by
    have hnodup : q.dirtyList.Nodup := h.pending_nodup
    simpa [hflushes] using hnodup
  flow := by
    rw [hflushes, unmarked_nil, List.append_nil, hdirty]
    cases hframe : op.frame q with
    | none => exact List.sublist_append_right _ _
    | some k => exact ⟨dropped, rfl⟩
  kept hremoval := by
    rw [hnone hremoval, List.nil_append] at hdirty
    simpa [hflushes] using hdirty

end Accounts

theorem requestAndDetach_dirtyList {q : BufferQueue} (h : q.Agrees)
    (hblock : (!q.requestBufferNoBlockMode) = true) (config : BufferRequestConfig) (a : Allocation)
    (hfresh : q.bufferQueueCache.find a.sequence = none) :
    (q.requestAndDetachBuffer config a).2.dirtyList = q.dirtyList := by
  have hrequest := BufferQueue.requestBufferLocked_refines_block h hblock config a hfresh
  have hdirty := hrequest.dirtyList_eq fun m => quiet_of_requestsBlocking
  unfold BufferQueue.requestAndDetachBuffer
  dsimp only
  split
  · exact hdirty
  · have hdetach := BufferQueue.detachBufferFromQueueLocked_refines (hrequest.agrees h)
      (q.requestBufferLocked config a false).1.retval.sequence .producerInvoker false
    exact (hdetach.dirtyList_eq fun m => quiet_of_detaches).trans hdirty

theorem QueueStep.accounts {q q' : BufferQueue} {op : Op} (h : q.Agrees)
    (hstep : QueueStep q op q') : Accounts q op q' := by
  have hrefines := hstep.refines h
  have hagrees := hrefines.agrees h
  obtain ⟨hfresh, rfl, _⟩ := hstep
  cases op with
  | requestBuffer config a =>
    refine .of_request h rfl rfl rfl (hrefines.dirtyList_sublist fun m => silent_of_requests)
      fun hblock => ?_
    exact (BufferQueue.requestBufferLocked_refines_block h hblock config a hfresh).dirtyList_eq
      fun m => quiet_of_requestsBlocking
  | requestBuffers config as =>
    refine .of_request h rfl rfl rfl (hrefines.dirtyList_sublist fun m => silent_of_requests)
      fun hblock => ?_
    have hbatch : Refines (fun _ => False) q { q with isBatch := true } := .of_pool_eq rfl rfl
    exact BufferQueue.requestBuffersLoop_dirtyList (hbatch.agrees h) hblock config as hfresh.1
      hfresh.2
  | requestAndDetachBuffer config a =>
    refine .of_request h rfl rfl rfl (hrefines.dirtyList_sublist fun m hm => ?_) fun hblock => ?_
    · rcases hm with hm | hm
      · exact silent_of_requests hm
      · exact Move.silent_of_quiet (quiet_of_detaches hm)
    · exact requestAndDetach_dirtyList h hblock config a hfresh
  | flushBuffer f => exact .of_flush hagrees rfl (BufferQueue.flushBuffer_dirtyList q f)
  | flushBuffers fs => exact .of_flush hagrees rfl (BufferQueue.flushBuffers_dirtyList q fs)
  | attachAndFlushBuffer buffer bedata fence config env =>
    exact .of_flush hagrees rfl
      (BufferQueue.attachAndFlushBuffer_dirtyList h buffer bedata fence config env)
  | acquireBuffer now =>
    exact .of_acquire h rfl (BufferQueue.acquireBuffer_dirtyList h now) fun _ => rfl
  | acquireBufferByTimestamp expect auto now envs =>
    obtain ⟨dropped, hdirty⟩ :=
      BufferQueue.acquireBufferByTimestamp_dirtyList h expect auto now envs
    exact .of_acquire h rfl hdirty fun hnone => by simp [Op.removal] at hnone
  | cancelBuffer | releaseBuffer => exact .of_quiet h rfl rfl hrefines fun m => quiet_of_releases
  | attachBufferToQueue =>
    exact .of_quiet h rfl rfl hrefines fun m hm => by
      cases m <;> simp_all [Op.moves, adoptsOne, Move.quiet]
  | detachBufferFromQueue | detachBuffer =>
    exact .of_quiet h rfl rfl hrefines fun m => quiet_of_detaches
  | preAllocBuffers =>
    exact .of_quiet h rfl rfl hrefines fun m hm => by
      cases m <;> simp_all [Op.moves, stocks, Move.quiet]
  | cleanReleasedBuffers =>
    exact .of_quiet h rfl rfl hrefines fun m hm => by
      cases m <;> simp_all [Op.moves, cleansFree, Move.quiet]
  | attachBuffer =>
    exact .of_silent h rfl rfl hrefines (fun m hm => by
      cases m <;> simp_all [Op.moves, attaches, drops, adoptsOne, Move.silent]) (by simp [Op.removal])
  | setQueueSize | setMaxQueueSize =>
    exact .of_silent h rfl rfl hrefines (fun m hm => by
      cases m <;> simp_all [Op.moves, drops, Move.silent]) (by simp [Op.removal])
  | cleanProducerBySeqNum =>
    exact .of_silent h rfl rfl hrefines (fun m hm => by
      cases m <;> simp_all [Op.moves, cleans, Move.silent]) (by simp [Op.removal])
  | cleanCache | goBackground | onConsumerDied =>
    exact .of_silent h rfl rfl hrefines (fun m hm => by
      cases m <;> simp_all [Op.moves, clears, Move.silent]) (by simp [Op.removal])
  | setProducerCacheCleanFlag flag =>
    refine .of_sublist h rfl rfl (hrefines.dirtyList_sublist fun m hm => ?_) fun hnone => ?_
    · cases m <;> simp_all [Op.moves, clears, Move.silent]
    · have hinactive : (flag && q.listenerSeqAndFenceActive) = false := by
        simpa [Op.removal] using hnone
      simp [Op.run, BufferQueue.setProducerCacheCleanFlag, hinactive,
        BufferQueue.setProducerCacheCleanFlagLocked]
  | acquireLastFlushedBuffer | releaseLastFlushedBuffer | setScalingMode | setBufferScalingMode
  | setVideoDimensionType | setSingleBufferMode | configure =>
    exact .of_quiet h rfl rfl hrefines fun m hm => hm.elim

/-- The history is exact for the queue that it belongs to. -/
structure Exact (s : BufferQueue × FrameHistory) : Prop where
  agrees : s.1.Agrees
  sound : Sound s.2.ledger s.1.dirtyList s.2.frames
  log : s.2.ledger.log = unmarked s.2.flushes
  reasons : ∀ t ∈ s.2.ledger.removed, t.2 ≠ none

namespace Exact

theorem start (s : QueueSettings) : Exact (BufferQueue.start s, {}) where
  agrees := agrees_start s
  sound := .start
  log := rfl
  reasons := by simp

theorem step {s t : BufferQueue × FrameHistory} {op : Op} (hexact : Exact s)
    (hstep : HistoryStep s op t) : Exact t := by
  obtain ⟨q, h⟩ := s
  obtain ⟨q', h'⟩ := t
  obtain ⟨hqueue, rfl⟩ := hstep
  have haccounts := hqueue.accounts hexact.agrees
  have hnext : (op.next q).dirtyList = q'.dirtyList := by
    rw [show q' = op.next q from hqueue.2.1]
  refine ⟨(hqueue.refines hexact.agrees).agrees hexact.agrees, ?_, ?_, ?_⟩
  · simp only [FrameHistory.record, hnext]
    exact hexact.sound.observe haccounts.nodup haccounts.flow
  · have hlog : (h.record q op).ledger.log = h.ledger.log ++ unmarked (op.flushes q) := rfl
    rw [hlog, hexact.log, ← unmarked_append]
    rfl
  · intro t ht
    cases hremoval : op.removal q with
    | none =>
      have hsame : (h.record q op).ledger.removed = h.ledger.removed := by
        simp only [FrameHistory.record, hnext]
        exact hexact.sound.removed_observe haccounts.nodup (haccounts.kept hremoval)
      exact hexact.reasons t (hsame ▸ ht)
    | some reason =>
      rcases Sound.mem_removed_observe ht with hold | hnew
      · exact hexact.reasons t hold
      · rw [hnew, hremoval]
        simp

theorem of_run {s t : BufferQueue × FrameHistory} {ops : List Op} (hexact : Exact s)
    (run : Run HistoryStep s ops t) : Exact t :=
  run.invariant (fun _ _ _ h hstep => h.step hstep) hexact

end Exact

/-- Frames come out in the order of their flushes, each one at most once, and every flush of a
buffer that is not condemned is returned, waiting in its place, or removed for a reason. -/
theorem frames_in_order {s : QueueSettings} {ops : List Op} {q : BufferQueue} {h : FrameHistory}
    (run : Run HistoryStep (BufferQueue.start s, {}) ops (q, h)) :
    h.frames.Sublist (h.flushes.map (·.1)) ∧
      h.ledger.log = unmarked h.flushes ∧
      h.ledger.returned.map (·.1) = h.frames ∧
      h.ledger.pending.map (·.1) = q.dirtyList ∧
      ((h.ledger.returned ++ h.ledger.pending).map (·.2)).Pairwise (· < ·) ∧
      (∀ t ∈ h.ledger.returned ++ h.ledger.pending, h.ledger.log[t.2]? = some t.1) ∧
      (h.ledger.returned.map (·.2) ++ h.ledger.pending.map (·.2) ++
        h.ledger.removed.map (·.1)).Perm (List.range h.ledger.log.length) ∧
      (∀ t ∈ h.ledger.removed, t.2 ≠ none) := by
  have hexact := (Exact.start s).of_run run
  have hsound := hexact.sound
  refine ⟨?_, hexact.log, hsound.returned_keys, hsound.pending_keys, hsound.ordered, hsound.keyed,
    ?_, hexact.reasons⟩
  · refine hsound.frames_sublist.trans ?_
    rw [hexact.log]
    exact List.filter_sublist.map _
  · simpa using hsound.accounted

def flushThreeAcquireOne : List Op :=
  let flush (k : ℕ) (time : Int) : Op :=
    .flushBuffer ⟨k, some ∅, invalidFence, ⟨[], 0, time⟩, ⟨.ok, 0⟩⟩
  [.configure .registerConsumerListener, .requestBuffer sampleConfig ⟨1, 1, true, true⟩,
    .requestBuffer sampleConfig ⟨2, 2, true, true⟩, .requestBuffer sampleConfig ⟨3, 3, true, true⟩,
    flush 1 10, flush 2 20, flush 3 90, .acquireBufferByTimestamp 50 false 0 fun _ => ⟨0, 0, fun _ => true⟩]

def historyNext (s : BufferQueue × FrameHistory) (op : Op) : BufferQueue × FrameHistory :=
  (op.next s.1, s.2.record s.1 op)

theorem frames_in_order_flushThreeAcquireOne :
    (execute historyNext (BufferQueue.start {}, {}) flushThreeAcquireOne).2.frames = [2] ∧
      [2].Sublist [1, 2, 3] ∧
      (execute historyNext (BufferQueue.start {}, {}) flushThreeAcquireOne).1.dirtyList = [3] := by
  have legal : Legal historyNext (fun s op => op.Fresh s.1 ∧ (op.next s.1).fault = false)
      (BufferQueue.start {}, {}) flushThreeAcquireOne := by decide
  have run : Run HistoryStep (BufferQueue.start {}, {}) flushThreeAcquireOne
      (execute historyNext (BufferQueue.start {}, {}) flushThreeAcquireOne) :=
    .of_legal (fun _ _ h => ⟨⟨h.1, rfl, h.2⟩, rfl⟩) legal
  have h := frames_in_order run
  exact ⟨by decide, h.1, by decide⟩

end GraphicSurface
