import GraphicSurface.FusedCalls

/-! What a failed flush leaves behind. `DoFlushBufferLocked` writes the buffer, the pending single
buffer mode and the fast-compose flag before `FlushCache`, and no error path takes that back. -/

namespace GraphicSurface

open Runs

/-- A flush by itself, and the one that attaches its buffer first. -/
inductive FlushCall
  | flushBuffer (f : FlushArgs)
  | attachAndFlushBuffer (buffer : SurfaceBuffer) (bedata : Option ExtraData) (fence : SyncFence)
      (config : BufferFlushConfigWithDamages) (env : FlushEnv)

def BufferElement.plain (e : BufferElement) : BufferElement :=
  { e with buffer := { e.buffer with extraData := none } }

def ExtraData.supportsFastCompose (bedata : ExtraData) : Bool :=
  (bedata.getInt32 bufferSupportFastComposeKey).getD 0 != 0

/-- The entries with their buffers, the lists, the two members that a flush consumes and the
record of the last flushed buffer are the same. -/
structure Untouched (q q' : BufferQueue) : Prop where
  cache : ∀ k, (q'.bufferQueueCache.find k).map BufferElement.plain =
    (q.bufferQueueCache.find k).map BufferElement.plain
  freeList : q'.freeList = q.freeList
  dirtyList : q'.dirtyList = q.dirtyList
  deletingList : q'.deletingList = q.deletingList
  singleBufferMode : q'.singleBufferMode = q.singleBufferMode
  bufferSupportFastCompose : q'.bufferSupportFastCompose = q.bufferSupportFastCompose
  lastFlusedSequence : q'.lastFlusedSequence = q.lastFlusedSequence
  lastFlusedFence : q'.lastFlusedFence = q.lastFlusedFence
  lastFlushedTransform : q'.lastFlushedTransform = q.lastFlushedTransform
  lastFlushedDesiredPresentTimeStamp :
    q'.lastFlushedDesiredPresentTimeStamp = q.lastFlushedDesiredPresentTimeStamp

theorem Untouched.refl (q : BufferQueue) : Untouched q q :=
  ⟨fun _ => rfl, rfl, rfl, rfl, rfl, rfl, rfl, rfl, rfl, rfl⟩

namespace BufferQueue

variable {q : BufferQueue} {sequence : ℕ} {e : BufferElement} {bedata : Option ExtraData}
  {fence : SyncFence} {config : BufferFlushConfigWithDamages} {env : FlushEnv}

/-- A flush of this element passes every check, and then `FlushCache` fails. -/
def CacheFails (q : BufferQueue) (e : BufferElement) (config : BufferFlushConfigWithDamages)
    (env : FlushEnv) : Prop :=
  q.isValidStatus ∧ q.listenerRegistered ∧ checkFlushConfig config = .ok ∧
    (e.state = .requested ∨ e.state = .attached) ∧ e.isDeleting = false ∧
    e.config.usage &&& bufferUsageCpuWrite ≠ 0 ∧ env.flushCache ≠ .ok

/-- What a flush writes before `FlushCache` is there already: the transform of the buffer, no
pending mode and the flag. -/
def PreparedAlready (q : BufferQueue) (buffer : SurfaceBuffer) (bedata : ExtraData) : Prop :=
  buffer.surfaceBufferTransform = q.transform ∧ q.singleBufferMode = singleBufferModeNone ∧
    q.bufferSupportFastCompose = bedata.supportsFastCompose

theorem flushImproved_of_cacheFails (he : q.bufferQueueCache.find sequence = some e)
    (hfails : q.CacheFails e config env) (bedata : ExtraData) (fence : SyncFence) :
    q.flushBufferImprovedLocked sequence (some bedata) fence config env =
      (env.flushCache, q.prepareFlush sequence bedata) := by
  obtain ⟨hvalid, hlistener, hconfig, hstate, hdeleting, husage, hflush⟩ := hfails
  have hcheck : q.checkBufferQueueCacheLocked sequence = .ok := by
    rw [checkBufferQueueCacheLocked, he]
    exact if_neg fun h => hstate.elim h.1 h.2
  unfold flushBufferImprovedLocked doFlushBufferLocked
  rw [he]
  simp [hvalid, hconfig, hcheck, hlistener, hdeleting, husage, hflush]

/-- A null pointer is met before `FlushCache`. -/
theorem fault_of_cacheFails (he : q.bufferQueueCache.find sequence = some e)
    (hfails : q.CacheFails e config env) :
    (q.flushBufferImprovedLocked sequence none fence config env).2.fault = true := by
  obtain ⟨hvalid, hlistener, hconfig, hstate, hdeleting, -⟩ := hfails
  have hcheck : q.checkBufferQueueCacheLocked sequence = .ok := by
    rw [checkBufferQueueCacheLocked, he]
    exact if_neg fun h => hstate.elim h.1 h.2
  unfold flushBufferImprovedLocked doFlushBufferLocked
  rw [he]
  simp [hvalid, hconfig, hcheck, hlistener, hdeleting]

theorem flushImproved_of_not_cacheFails
    (hpass : ∀ e, q.bufferQueueCache.find sequence = some e → ¬ q.CacheFails e config env)
    (hret : (q.flushBufferImprovedLocked sequence bedata fence config env).1 ≠ .ok)
    (hfault : (q.flushBufferImprovedLocked sequence bedata fence config env).2.fault = false) :
    (q.flushBufferImprovedLocked sequence bedata fence config env).2 = q := by
  unfold flushBufferImprovedLocked at hret hfault ⊢
  by_cases hvalid : (!q.isValidStatus) = true
  · rw [if_pos hvalid]
  · rw [if_neg hvalid] at hret hfault ⊢
    by_cases hconfig : checkFlushConfig config ≠ .ok
    · rw [if_pos hconfig]
    · rw [if_neg hconfig] at hret hfault ⊢
      by_cases hcheck : q.checkBufferQueueCacheLocked sequence ≠ .ok
      · rw [if_pos hcheck]
      · rw [if_neg hcheck] at hret hfault ⊢
        by_cases hlistener : (!q.listenerRegistered) = true
        · rw [if_pos hlistener]
        · rw [if_neg hlistener] at hret hfault ⊢
          unfold doFlushBufferLocked at hret hfault ⊢
          cases hfind : q.bufferQueueCache.find sequence with
          | none => rfl
          | some e =>
            rw [hfind] at hret hfault
            dsimp only at hret hfault ⊢
            by_cases hdeleting : e.isDeleting = true
            · simp [hdeleting] at hret
            · rw [if_neg hdeleting] at hret hfault ⊢
              cases bedata with
              | none => simp at hfault
              | some bedata =>
                dsimp only at hret hfault
                by_cases hcache : e.config.usage &&& bufferUsageCpuWrite ≠ 0 ∧ env.flushCache ≠ .ok
                · have hstate : e.state = .requested ∨ e.state = .attached := by
                    simpa [checkBufferQueueCacheLocked, hfind, ← or_iff_not_imp_left] using hcheck
                  exact absurd ⟨by simpa using hvalid, by simpa using hlistener,
                    not_not.mp hconfig, hstate, by simpa using hdeleting, hcache⟩ (hpass e hfind)
                · simp [if_neg hcache] at hret

theorem untouched_prepareFlush_iff (he : q.bufferQueueCache.find sequence = some e)
    (bedata : ExtraData) :
    Untouched q (q.prepareFlush sequence bedata) ↔ q.PreparedAlready e.buffer bedata := by
  constructor
  · intro h
    have hentry := h.cache sequence
    rw [prepareFlush, BufferCache.find_modify, if_pos rfl, he] at hentry
    have htransform := congrArg (fun e : Option BufferElement =>
      e.map (·.buffer.surfaceBufferTransform)) hentry
    exact ⟨(Option.some.inj htransform).symm, h.singleBufferMode.symm,
      h.bufferSupportFastCompose.symm⟩
  · rintro ⟨htransform, hmode, hflag⟩
    refine ⟨fun k => ?_, rfl, rfl, rfl, hmode.symm, hflag.symm, rfl, rfl, rfl, rfl⟩
    rw [prepareFlush, BufferCache.find_modify]
    by_cases hk : sequence = k
    · rw [if_pos hk, ← hk, he]
      simp [BufferElement.plain, BufferElement.setPrepared, SurfaceBuffer.setFlushed, hmode,
        ← htransform]
    · rw [if_neg hk]

def attachAndFlushObject (q : BufferQueue) (buffer : SurfaceBuffer) (bedata : Option ExtraData)
    (fence : SyncFence) (config : BufferFlushConfigWithDamages) (env : FlushEnv) : SurfaceBuffer :=
  match q.attachBufferToQueueLocked buffer .producerInvoker with
  | (ret, q) =>
    if ret ≠ .ok then buffer
    else
      match (q.flushBufferImprovedLocked buffer.seqNum bedata fence config
          env).2.bufferQueueCache.find buffer.seqNum with
      | some ele => ele.buffer
      | none => buffer

/-- The element that a producer's attach makes of the buffer. -/
def attachToQueueElement (q : BufferQueue) (buffer : SurfaceBuffer) : BufferElement :=
  .init (q.attachedBuffer buffer) .requested buffer.bufferRequestConfig (some invalidFence)

def attachedForFlush (q : BufferQueue) (buffer : SurfaceBuffer) : BufferQueue :=
  { q with bufferQueueCache := q.bufferQueueCache.put (q.attachToQueueElement buffer) }

theorem find_attachedForFlush (q : BufferQueue) (buffer : SurfaceBuffer) (k : ℕ) :
    (q.attachedForFlush buffer).bufferQueueCache.find k =
      if buffer.seqNum = k then some (q.attachToQueueElement buffer)
      else q.bufferQueueCache.find k :=
  BufferCache.find_put _ _ k

def rollback (q : BufferQueue) (sequence : ℕ) : BufferQueue :=
  { q with
    dirtyList := q.dirtyList.erase sequence
    bufferQueueCache := q.bufferQueueCache.erase sequence }

section Attached

variable {buffer : SurfaceBuffer}

theorem attachAndFlush_of_attach
    (hattach : q.attachBufferToQueueLocked buffer .producerInvoker =
      (.ok, q.attachedForFlush buffer))
    (hret : ((q.attachedForFlush buffer).flushBufferImprovedLocked buffer.seqNum bedata fence
      config env).1 ≠ .ok) :
    q.attachAndFlushBuffer buffer bedata fence config env =
      (((q.attachedForFlush buffer).flushBufferImprovedLocked buffer.seqNum bedata fence config
          env).1,
        ((q.attachedForFlush buffer).flushBufferImprovedLocked buffer.seqNum bedata fence config
          env).2.rollback buffer.seqNum) := by
  unfold attachAndFlushBuffer
  rw [hattach]
  simp only [ne_eq, not_true_eq_false, if_false, hret, not_false_eq_true, if_true]
  rfl

theorem attachAndFlushObject_of_attach
    (hattach : q.attachBufferToQueueLocked buffer .producerInvoker =
      (.ok, q.attachedForFlush buffer))
    (he : ((q.attachedForFlush buffer).flushBufferImprovedLocked buffer.seqNum bedata fence
      config env).2.bufferQueueCache.find buffer.seqNum = some e) :
    q.attachAndFlushObject buffer bedata fence config env = e.buffer := by
  unfold attachAndFlushObject
  rw [hattach]
  simp only [ne_eq, not_true_eq_false, if_false, he]

theorem untouched_rollback_attach (hagrees : q.Agrees)
    (habsent : q.bufferQueueCache.find buffer.seqNum = none) :
    Untouched q ((q.attachedForFlush buffer).rollback buffer.seqNum) := by
  have hdirty : buffer.seqNum ∉ q.dirtyList := by
    intro hmem
    obtain ⟨e, he, -⟩ := BufferCache.find_of_place ((hagrees.mem_pending buffer.seqNum).mp hmem)
    simp [habsent] at he
  refine ⟨fun k => ?_, rfl, List.erase_of_not_mem hdirty, rfl, rfl, rfl, rfl, rfl, rfl, rfl⟩
  rw [rollback, BufferCache.find_erase, find_attachedForFlush]
  by_cases hk : buffer.seqNum = k
  · rw [if_pos hk, ← hk, habsent]
  · rw [if_neg hk, if_neg hk]

theorem untouched_rollback_prepare_iff (hagrees : q.Agrees)
    (habsent : q.bufferQueueCache.find buffer.seqNum = none) (bedata : ExtraData) :
    (Untouched q (((q.attachedForFlush buffer).prepareFlush buffer.seqNum bedata).rollback
        buffer.seqNum) ∧
      ((q.attachToQueueElement buffer).setPrepared bedata q.transform
        q.singleBufferMode).buffer.surfaceBufferTransform = buffer.surfaceBufferTransform ∧
      ((q.attachToQueueElement buffer).setPrepared bedata q.transform
        q.singleBufferMode).buffer.singleBufferMode = buffer.singleBufferMode) ↔
      q.PreparedAlready buffer bedata := by
  have hplain := untouched_rollback_attach hagrees habsent
  constructor
  · rintro ⟨h, htransform, -⟩
    exact ⟨htransform.symm, h.singleBufferMode.symm, h.bufferSupportFastCompose.symm⟩
  · rintro ⟨htransform, hmode, hflag⟩
    refine ⟨⟨fun k => ?_, rfl, hplain.dirtyList, rfl, hmode.symm, hflag.symm, rfl, rfl, rfl, rfl⟩,
      htransform.symm, if_pos hmode⟩
    rw [← hplain.cache k, rollback, rollback, BufferCache.find_erase, BufferCache.find_erase,
      prepareFlush, BufferCache.find_modify]
    by_cases hk : buffer.seqNum = k
    · rw [if_pos hk, if_pos hk]
    · rw [if_neg hk, if_neg hk, if_neg hk]

end Attached

end BufferQueue

namespace FlushCall

def run (q : BufferQueue) : FlushCall → GSError × BufferQueue
  | flushBuffer f => q.flushBuffer f.sequence f.bedata f.fence f.config f.env
  | attachAndFlushBuffer buffer bedata fence config env =>
    q.attachAndFlushBuffer buffer bedata fence config env

def Fails (q : BufferQueue) (c : FlushCall) : Prop :=
  (c.run q).1 ≠ .ok ∧ (c.run q).2.fault = false

/-- A failure changes nothing, the object of the caller included. -/
def ChangesNothing (q : BufferQueue) (c : FlushCall) : Prop :=
  c.Fails q →
    match c with
    | flushBuffer _ => q.listenerRegistered → Untouched q (c.run q).2
    | attachAndFlushBuffer buffer bedata fence config env =>
      Untouched q (c.run q).2 ∧
        (q.attachAndFlushObject buffer bedata fence config env).surfaceBufferTransform =
          buffer.surfaceBufferTransform ∧
        (q.attachAndFlushObject buffer bedata fence config env).singleBufferMode =
          buffer.singleBufferMode

/-- `FlushCache` does not fail, or there is nothing that it would have had to take back. -/
def Harmless (q : BufferQueue) : FlushCall → Prop
  | flushBuffer f => ∀ bedata e, f.bedata = some bedata →
      q.bufferQueueCache.find f.sequence = some e → q.CacheFails e f.config f.env →
      q.PreparedAlready e.buffer bedata
  | attachAndFlushBuffer buffer bedata _ config env => ∀ b, bedata = some b →
      q.getUsedSize < q.bufferQueueSize → q.bufferQueueCache.find buffer.seqNum = none →
      q.CacheFails (q.attachToQueueElement buffer) config env → q.PreparedAlready buffer b

theorem flushBuffer_changesNothing_iff {q : BufferQueue} (hfault : q.fault = false)
    (f : FlushArgs) : (flushBuffer f).ChangesNothing q ↔ (flushBuffer f).Harmless q := by
  by_cases hlistener : q.listenerRegistered = true
  · have hrun : (flushBuffer f).run q =
        q.flushBufferImprovedLocked f.sequence f.bedata f.fence f.config f.env :=
      (BufferQueue.flushBufferImprovedLocked_eq hlistener _ _ _ _ _).symm
    unfold ChangesNothing Fails
    rw [hrun]
    constructor
    · intro h bedata e hbedata he hfails
      rw [hbedata, BufferQueue.flushImproved_of_cacheFails he hfails] at h
      exact (BufferQueue.untouched_prepareFlush_iff he bedata).mp
        (h ⟨hfails.2.2.2.2.2.2, hfault⟩ hlistener)
    · rintro h ⟨hret, hreturns⟩ -
      by_cases hpass : ∀ e, q.bufferQueueCache.find f.sequence = some e →
          ¬ q.CacheFails e f.config f.env
      · rw [BufferQueue.flushImproved_of_not_cacheFails hpass hret hreturns]
        exact .refl q
      · push Not at hpass
        obtain ⟨e, he, hfails⟩ := hpass
        cases hbedata : f.bedata with
        | none =>
          rw [hbedata, BufferQueue.fault_of_cacheFails he hfails] at hreturns
          cases hreturns
        | some bedata =>
          rw [BufferQueue.flushImproved_of_cacheFails he hfails]
          exact (BufferQueue.untouched_prepareFlush_iff he bedata).mpr (h bedata e hbedata he hfails)
  · refine iff_of_true (fun _ h => absurd h hlistener) ?_
    rintro bedata e - - hfails
    exact absurd hfails.2.1 hlistener

theorem changesNothing_of_refused {q : BufferQueue} {buffer : SurfaceBuffer}
    {bedata : Option ExtraData} {fence : SyncFence} {config : BufferFlushConfigWithDamages}
    {env : FlushEnv} (hret : (q.attachBufferToQueueLocked buffer .producerInvoker).1 ≠ .ok)
    (hsame : (q.attachBufferToQueueLocked buffer .producerInvoker).2 = q) :
    (attachAndFlushBuffer buffer bedata fence config env).ChangesNothing q := by
  rintro -
  have hrun : (q.attachAndFlushBuffer buffer bedata fence config env).2 = q := by
    unfold BufferQueue.attachAndFlushBuffer
    dsimp only
    rw [if_pos hret, hsame]
  have hobject : q.attachAndFlushObject buffer bedata fence config env = buffer := by
    unfold BufferQueue.attachAndFlushObject
    dsimp only
    rw [if_pos hret]
  dsimp only [run]
  rw [hrun, hobject]
  exact ⟨.refl q, rfl, rfl⟩

theorem changesNothing_of_attach {q : BufferQueue} {buffer : SurfaceBuffer}
    {bedata : Option ExtraData} {fence : SyncFence} {config : BufferFlushConfigWithDamages}
    {env : FlushEnv} {r : GSError × BufferQueue}
    (hattach : q.attachBufferToQueueLocked buffer .producerInvoker =
      (.ok, q.attachedForFlush buffer))
    (hr : (q.attachedForFlush buffer).flushBufferImprovedLocked buffer.seqNum bedata fence config
      env = r) :
    (attachAndFlushBuffer buffer bedata fence config env).ChangesNothing q ↔
      (r.1 ≠ .ok → r.2.fault = false → Untouched q (r.2.rollback buffer.seqNum) ∧
        (q.attachAndFlushObject buffer bedata fence config env).surfaceBufferTransform =
          buffer.surfaceBufferTransform ∧
        (q.attachAndFlushObject buffer bedata fence config env).singleBufferMode =
          buffer.singleBufferMode) := by
  subst hr
  unfold ChangesNothing Fails
  dsimp only [run]
  rw [and_imp]
  by_cases hret : ((q.attachedForFlush buffer).flushBufferImprovedLocked buffer.seqNum bedata fence
      config env).1 = .ok
  · have hok : (q.attachAndFlushBuffer buffer bedata fence config env).1 = .ok := by
      unfold BufferQueue.attachAndFlushBuffer
      simp [hattach, hret]
    exact iff_of_true (fun h => absurd hok h) fun h => absurd hret h
  · rw [BufferQueue.attachAndFlush_of_attach hattach hret]
    rfl

theorem attachAndFlush_changesNothing_iff {q : BufferQueue} (hagrees : q.Agrees)
    (hfault : q.fault = false) (buffer : SurfaceBuffer) (bedata : Option ExtraData)
    (fence : SyncFence) (config : BufferFlushConfigWithDamages) (env : FlushEnv) :
    (attachAndFlushBuffer buffer bedata fence config env).ChangesNothing q ↔
      (attachAndFlushBuffer buffer bedata fence config env).Harmless q := by
  rcases q.attachToQueue_cases buffer with ⟨hret, hsame⟩ | ⟨habsent, hroom, hattach⟩
  · refine iff_of_true (changesNothing_of_refused hret hsame) ?_
    intro _ _ hroom habsent
    simp [BufferQueue.attachBufferToQueueLocked, habsent, not_le.mpr hroom] at hret
  · have he : (q.attachedForFlush buffer).bufferQueueCache.find buffer.seqNum =
        some (q.attachToQueueElement buffer) := by
      rw [BufferQueue.find_attachedForFlush, if_pos rfl]
    by_cases hfails : q.CacheFails (q.attachToQueueElement buffer) config env
    · have hfails' : (q.attachedForFlush buffer).CacheFails (q.attachToQueueElement buffer) config
          env := hfails
      cases bedata with
      | none =>
        refine iff_of_true ((changesNothing_of_attach hattach rfl).mpr fun _ hreturns => ?_)
          fun _ h => nomatch h
        rw [BufferQueue.fault_of_cacheFails he hfails'] at hreturns
        cases hreturns
      | some bedata =>
        have hflush := BufferQueue.flushImproved_of_cacheFails he hfails' bedata fence
        have hentry : ((q.attachedForFlush buffer).prepareFlush buffer.seqNum
            bedata).bufferQueueCache.find buffer.seqNum =
              some ((q.attachToQueueElement buffer).setPrepared bedata q.transform
                q.singleBufferMode) := by
          rw [BufferQueue.prepareFlush, BufferCache.find_modify, if_pos rfl, he]
          rfl
        have hobject : q.attachAndFlushObject buffer (some bedata) fence config env = _ :=
          BufferQueue.attachAndFlushObject_of_attach hattach (by rw [hflush]; exact hentry)
        rw [changesNothing_of_attach hattach hflush, hobject,
          BufferQueue.untouched_rollback_prepare_iff hagrees habsent bedata]
        constructor
        · rintro h b hb - - -
          cases hb
          exact h hfails.2.2.2.2.2.2 hfault
        · intro h _ _
          exact h bedata rfl hroom habsent hfails
    · refine iff_of_true ((changesNothing_of_attach hattach rfl).mpr fun hret hreturns => ?_)
        fun _ _ _ _ h => absurd h hfails
      have hpass : ∀ e, (q.attachedForFlush buffer).bufferQueueCache.find buffer.seqNum = some e →
          ¬ (q.attachedForFlush buffer).CacheFails e config env := by
        intro e hfind
        rw [he, Option.some.injEq] at hfind
        exact hfind ▸ hfails
      have hsame := BufferQueue.flushImproved_of_not_cacheFails hpass hret hreturns
      rw [hsame, BufferQueue.attachAndFlushObject_of_attach hattach (by rw [hsame]; exact he)]
      exact ⟨BufferQueue.untouched_rollback_attach hagrees habsent, rfl, rfl⟩

end FlushCall

theorem Reachable.fault {q : BufferQueue} (h : Reachable q) : q.fault = false := by
  obtain ⟨s, ops, run⟩ := h
  cases run with
  | nil => rfl
  | snoc _ last => exact last.2.2

def modePending : List Op :=
  [.setSingleBufferMode 1,
    .requestBuffer { sampleConfig with usage := bufferUsageCpuWrite } ⟨1, 1, true, true⟩]

def failingFlush : FlushCall :=
  .flushBuffer ⟨1, some ∅, invalidFence, ⟨[], 0, 0⟩, ⟨.apiFailed, 0⟩⟩

def modePendingQueue : BufferQueue :=
  execute Op.next (BufferQueue.start { listener := true }) modePending

theorem modePending_reachable : Reachable modePendingQueue :=
  .of_legal (by decide)

end GraphicSurface
