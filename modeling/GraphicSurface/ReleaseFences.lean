import GraphicSurface.ConsumeTimes

/-! The fence that a release stores. `SetAndMergeSyncFence` collects fences in the buffer object,
and the release adds what it finds there to the fence of the consumer. It never resets the object.
`FenceHistory` is no part of the code: it holds what was merged into the buffer before the last
release and since. Merges are unions here, which they are when the descriptor is not negative. -/

namespace GraphicSurface

open Runs BufferElement

namespace SyncFence

/-- The points that a wait on the fence waits for. -/
def pending : Option SyncFence → Finset ℕ
  | none => ∅
  | some f => if f.fenceFd < 0 then ∅ else f.points

theorem pending_of_invalid {f : SyncFence} (h : f.isValid = false) : pending (some f) = ∅ := by
  have hfd : f.fenceFd = -1 := by simpa [isValid] using h
  simp [pending, hfd]

theorem pending_mergeFence {newFenceFd : Int} (h : 0 ≤ newFenceFd) (f g : SyncFence) :
    pending (some (mergeFence newFenceFd (some f) (some g))) = pending (some f) ∪ pending (some g) := by
  have hfd : newFenceFd ≠ -1 := by omega
  have hvalid : ¬ newFenceFd < 0 := by omega
  unfold mergeFence
  by_cases hf : f.fenceFd < 0 <;> by_cases hg : g.fenceFd < 0 <;>
    simp [pending, hf, hg, hfd, hvalid, invalidFence]

theorem pending_collect {old : Option SyncFence} {newFenceFd : Int} (h : 0 ≤ newFenceFd)
    (f : SyncFence) :
    pending (if old.any (·.isValid) = true then some (mergeFence newFenceFd old (some f))
      else some f) = pending old ∪ pending (some f) := by
  cases old with
  | none => simp [pending]
  | some old =>
    by_cases hvalid : old.isValid = true
    · simp [hvalid, pending_mergeFence h]
    · rw [Bool.not_eq_true] at hvalid
      simp [hvalid, pending_of_invalid]

end SyncFence

open SyncFence

theorem BufferElement.pending_releaseFence (e : BufferElement) (fence : Option SyncFence)
    {mergeFd : Int} (h : 0 ≤ mergeFd) :
    pending (e.releaseFence fence mergeFd) = pending fence ∪ pending e.buffer.syncFence := by
  cases fence with
  | none => simp [releaseFence, pending]
  | some f =>
    rw [Finset.union_comm]
    exact pending_collect h f

theorem SurfaceBuffer.pending_setAndMergeSyncFence (b : SurfaceBuffer)
    (syncFence : Option SyncFence) {mergeFd : Int} (h : 0 ≤ mergeFd) :
    pending (b.setAndMergeSyncFence syncFence mergeFd).syncFence =
      pending b.syncFence ∪ pending syncFence := by
  cases syncFence with
  | none => simp [setAndMergeSyncFence, pending]
  | some f =>
    have hfence : (b.setAndMergeSyncFence (some f) mergeFd).syncFence =
        if b.syncFence.any (·.isValid) = true then some (mergeFence mergeFd b.syncFence (some f))
        else some f := by
      unfold setAndMergeSyncFence
      dsimp only
      split <;> rfl
    rw [hfence, pending_collect h f]

namespace BufferElement

def mergeSyncFence (syncFence : Option SyncFence) (mergeFd : Int) (e : BufferElement) :
    BufferElement :=
  { e with buffer := e.buffer.setAndMergeSyncFence syncFence mergeFd }

theorem mergeSyncFence_seqNum (syncFence : Option SyncFence) (mergeFd : Int) (e : BufferElement) :
    (e.mergeSyncFence syncFence mergeFd).buffer.seqNum = e.buffer.seqNum := by
  unfold mergeSyncFence SurfaceBuffer.setAndMergeSyncFence
  cases syncFence with
  | none => rfl
  | some f =>
    dsimp only
    split <;> rfl

end BufferElement

/-- What was merged into a buffer before its last release and since, and the points of the fence
that this release stored. -/
structure FenceHistory where
  before : Finset ℕ := ∅
  since : Finset ℕ := ∅
  last : Finset ℕ := ∅

namespace FenceHistory

def merged (history : FenceHistory) (points : Finset ℕ) : FenceHistory :=
  { history with since := history.since ∪ points }

def released (history : FenceHistory) (points : Finset ℕ) : FenceHistory :=
  ⟨history.before ∪ history.since, ∅, points⟩

end FenceHistory

/-- A call on the queue, with the history of the buffer object when it attaches one, or a merge
into a cached buffer. -/
inductive FenceCall
  | consume (c : ConsumeCall) (brought : FenceHistory)
  | setAndMergeSyncFence (sequence : ℕ) (syncFence : Option SyncFence) (mergeFd : Int)

namespace ConsumeCall

/-- `AcquireBuffer` with a timestamp is several sections. -/
def isSection : ConsumeCall → Bool
  | lpp (.queue (.acquireBufferByTimestamp _ _ _ _)) => false
  | _ => true

def attached : ConsumeCall → Option SurfaceBuffer
  | lpp (.queue (.attachBufferToQueue buffer _)) | lpp (.queue (.attachBuffer buffer _))
  | lpp (.queue (.attachAndFlushBuffer buffer _ _ _ _)) => some buffer
  | _ => none

/-- The points of the fence that the call stores for a buffer that it releases. -/
def releases (l : LppQueue) : ConsumeCall → ℕ → Option (Finset ℕ)
  | lpp (.queue (.releaseBuffer sequence fence env)), k =>
    if k = sequence ∧ (l.queue.releaseBufferLocked sequence fence env).1 = .ok then
      (l.queue.bufferQueueCache.find k).map fun e => pending (e.releaseFence fence env.mergeFd)
    else none
  | _, _ => none

/-- An entry that the call makes has a new object, or the attached one. -/
def makes (q : BufferQueue) : ConsumeCall → BufferElement → Prop
  | lpp (.queue op) => op.makes q
  | _ => nothing

end ConsumeCall

namespace FenceCall

def next (l : LppQueue) : FenceCall → LppQueue
  | consume c _ => c.next l
  | setAndMergeSyncFence sequence syncFence mergeFd =>
    { l with queue := { l.queue with
        bufferQueueCache := l.queue.bufferQueueCache.modify sequence
          (mergeSyncFence syncFence mergeFd) (mergeSyncFence_seqNum _ _) } }

/-- The sequence numbers are fresh, the history of an attached buffer accounts for its fence, and
merges succeed. -/
def Legitimate (l : LppQueue) : FenceCall → Prop
  | consume c brought => c.isSection = true ∧ c.Fresh l ∧
      ∀ buffer ∈ c.attached, pending buffer.syncFence = brought.before ∪ brought.since
  | setAndMergeSyncFence sequence _ mergeFd =>
    (l.queue.bufferQueueCache.find sequence).isSome ∧ 0 ≤ mergeFd

instance (l : LppQueue) (a : FenceCall) : Decidable (a.Legitimate l) := by
  cases a <;> unfold Legitimate <;> infer_instance

end FenceCall

/-- Of a buffer that was not cached there is no history, apart from the one it is brought with. -/
def historyAfter (l : LppQueue) (histories : ℕ → FenceHistory) : FenceCall → ℕ → FenceHistory
  | .consume c brought, k =>
    let history :=
      if l.queue.bufferQueueCache.find k = none then
        if k ∈ c.attached.map (·.seqNum) then brought else {}
      else histories k
    match c.releases l k with
    | none => history
    | some points => history.released points
  | .setAndMergeSyncFence sequence syncFence _, k =>
    if k = sequence then (histories k).merged (pending syncFence) else histories k

def fenceNext (s : LppQueue × (ℕ → FenceHistory)) (a : FenceCall) : LppQueue × (ℕ → FenceHistory) :=
  (a.next s.1, historyAfter s.1 s.2 a)

def FenceStep (s : LppQueue × (ℕ → FenceHistory)) (a : FenceCall)
    (s' : LppQueue × (ℕ → FenceHistory)) : Prop :=
  a.Legitimate s.1 ∧ s' = fenceNext s a ∧ s'.1.queue.fault = false

/-- The object of a cached buffer holds everything that was ever merged into it. -/
def Collected (q : BufferQueue) (histories : ℕ → FenceHistory) : Prop :=
  ∀ k e, q.bufferQueueCache.find k = some e →
    pending e.buffer.syncFence = (histories k).before ∪ (histories k).since

theorem ElementWrite.syncFence_apply (w : ElementWrite) (e : BufferElement) :
    (w.apply e).buffer.syncFence = e.buffer.syncFence := by
  cases w with
  | setFlushed fence config now =>
    change (e.setFlushed fence config now).buffer.syncFence = _
    unfold BufferElement.setFlushed setDesiredPresentTimestampAndUiTimestamp
    split_ifs <;> rfl
  | _ => rfl

namespace ConsumeCall

theorem next_edited (l : LppQueue) {c : ConsumeCall} (hc : c.isSection = true) :
    Edited ElementWrite.Anything (c.makes l.queue) l.queue (c.next l).queue := by
  cases c with
  | lpp op =>
    by_cases hop : ∃ o, op = .queue o
    · obtain ⟨op, rfl⟩ := hop
      by_cases hacquire : op.isAcquire = true
      · cases op with
        | acquireBuffer now => exact BufferQueue.acquireBuffer_edited l.queue now
        | acquireBufferByTimestamp expect auto now envs => cases hc
        | _ => cases hacquire
      · rw [Bool.not_eq_true] at hacquire
        exact (op.run_edited l.queue hacquire).mono (fun _ _ => trivial) fun _ => id
    · rcases op.next_queue l (fun o h => hop ⟨o, h⟩) with ⟨-, hqueue⟩ | ⟨s, e, -, -, hqueue⟩
      · change Edited _ _ _ (op.next l).queue
        rw [hqueue]
        exact .refl
      · change Edited _ _ _ (op.next l).queue
        rw [hqueue]
        exact .of_modify (.setLppAcquired l.queue.transform) trivial rfl rfl
  | dropBuffersByLevel now => exact BufferQueue.dropBuffersByLevel_edited l.queue now
  | acquireByTimestampSection expect auto =>
    exact BufferQueue.acquireByTimestampSection_edited l.queue expect auto
  | markDelegated sequence => exact .of_modify (.setState .acquired) trivial rfl rfl

theorem syncFence_of_makes {l : LppQueue} {c : ConsumeCall} {e : BufferElement}
    (h : c.makes l.queue e) :
    c.attached = none ∧ e.buffer.syncFence = none ∨
      ∃ buffer, c.attached = some buffer ∧ e.buffer.seqNum = buffer.seqNum ∧
        e.buffer.syncFence = buffer.syncFence := by
  cases c with
  | lpp op =>
    cases op with
    | queue op =>
      cases op with
      | requestBuffer config a | requestAndDetachBuffer config a => exact .inl ⟨rfl, h.2.1.syncFence⟩
      | requestBuffers config as =>
        obtain ⟨a, -, -, hblank, -⟩ := h
        exact .inl ⟨rfl, hblank.syncFence⟩
      | preAllocBuffers config count as => exact .inl ⟨rfl, h.1.syncFence⟩
      | attachBufferToQueue buffer invokerType => exact .inr ⟨buffer, rfl, h.2.1, h.2.2.1⟩
      | attachBuffer buffer timeOut => exact .inr ⟨buffer, rfl, h.2.1, h.2.2.1⟩
      | attachAndFlushBuffer buffer bedata fence config env =>
        exact .inr ⟨buffer, rfl, h.2.1, h.2.2.1⟩
      | _ => exact h.elim
    | _ => exact h.elim
  | _ => exact h.elim

theorem absent_of_makes {l : LppQueue} {c : ConsumeCall} (hfresh : c.Fresh l) {e : BufferElement}
    (h : c.makes l.queue e) : l.queue.bufferQueueCache.find e.buffer.seqNum = none := by
  cases c with
  | lpp op =>
    cases op with
    | queue op => exact Op.Fresh.absent hfresh h
    | _ => exact h.elim
  | _ => exact h.elim

theorem releases_of_absent {l : LppQueue} (c : ConsumeCall) {k : ℕ}
    (h : l.queue.bufferQueueCache.find k = none) : c.releases l k = none := by
  unfold releases
  split
  · rw [h, Option.map_none, ite_self]
  · rfl

end ConsumeCall

namespace Collected

variable {l : LppQueue} {histories : ℕ → FenceHistory}

theorem start (s : QueueSettings) (histories : ℕ → FenceHistory) :
    Collected (BufferQueue.start s) histories :=
  fun k e he => by simp [BufferQueue.start] at he

theorem consume {c : ConsumeCall} {brought : FenceHistory} (h : Collected l.queue histories)
    (hlegitimate : (FenceCall.consume c brought).Legitimate l) :
    Collected (c.next l).queue (historyAfter l histories (.consume c brought)) := by
  intro k e' he'
  obtain ⟨hsection, hfresh, hbrought⟩ := hlegitimate
  have hdescends := (ConsumeCall.next_edited l hsection).descends
    (R := fun e e' => e'.buffer.syncFence = e.buffer.syncFence) (fun _ => rfl)
    (fun _ _ _ h₁ h₂ => h₂.trans h₁) (fun w _ e => w.syncFence_apply e) he'
  rcases hdescends with ⟨e, he, hfence⟩ | ⟨e, hmade, rfl, hfence⟩
  · rw [hfence, h k e he]
    simp only [historyAfter, he, reduceCtorEq, if_false]
    cases c.releases l k with
    | none => rfl
    | some points => simp [FenceHistory.released]
  · have habsent := ConsumeCall.absent_of_makes hfresh hmade
    simp only [historyAfter, c.releases_of_absent habsent, habsent, if_true, hfence]
    rcases ConsumeCall.syncFence_of_makes hmade with ⟨hattached, hnone⟩ |
      ⟨buffer, hattached, hseq, hbuffer⟩
    · simp [hattached, hnone, pending]
    · simp [hattached, hseq, hbuffer, hbrought buffer hattached]

theorem merge {sequence : ℕ} {syncFence : Option SyncFence} {mergeFd : Int}
    (h : Collected l.queue histories) (hmerge : 0 ≤ mergeFd) :
    Collected (FenceCall.next l (.setAndMergeSyncFence sequence syncFence mergeFd)).queue
      (historyAfter l histories (.setAndMergeSyncFence sequence syncFence mergeFd)) := by
  intro k e' he'
  simp only [FenceCall.next, BufferCache.find_modify] at he'
  by_cases hk : sequence = k
  · subst hk
    rw [if_pos rfl] at he'
    obtain ⟨e, he, rfl⟩ := Option.map_eq_some_iff.mp he'
    simp [historyAfter, FenceHistory.merged, mergeSyncFence, h sequence e he,
      SurfaceBuffer.pending_setAndMergeSyncFence _ _ hmerge, Finset.union_assoc]
  · rw [if_neg hk] at he'
    simpa [historyAfter, Ne.symm hk] using h k e' he'

end Collected

theorem collected_of_run {settings : QueueSettings} {as : List FenceCall}
    {s : LppQueue × (ℕ → FenceHistory)}
    (run : Run FenceStep (LppQueue.start settings, fun _ => {}) as s) : Collected s.1.queue s.2 := by
  refine @Run.invariant _ _ _ _ _ _ (fun s => Collected s.1.queue s.2) ?_
    (Collected.start settings fun _ => {}) run
  rintro ⟨l, histories⟩ a s' h ⟨hlegitimate, rfl, -⟩
  cases a with
  | consume c brought => exact h.consume hlegitimate
  | setAndMergeSyncFence sequence syncFence mergeFd => exact h.merge hlegitimate.2

namespace BufferQueue

theorem fence_releaseBufferLocked {q : BufferQueue} {sequence : ℕ} {fence : Option SyncFence}
    {env : ReleaseEnv} (hret : (q.releaseBufferLocked sequence fence env).1 = .ok) {e' : BufferElement}
    (he' : (q.releaseBufferLocked sequence fence env).2.bufferQueueCache.find sequence = some e') :
    ∃ e, q.bufferQueueCache.find sequence = some e ∧
      e'.fence = e.releaseFence fence env.mergeFd := by
  unfold releaseBufferLocked at hret he'
  cases he : q.bufferQueueCache.find sequence with
  | none => simp [he] at hret
  | some e =>
    refine ⟨e, rfl, ?_⟩
    simp only [he] at hret he'
    split_ifs at hret he' with hstate hdeleting
    · rw [find_deleteNoWait, if_pos rfl] at he'
      cases he'
    · simp only [markReleased, BufferCache.find_modify, if_true, he, Option.map_some,
        Option.some.injEq] at he'
      rw [← he']
      rfl

end BufferQueue

/-- The release stores the points of its own fence and of those merged since the last release. A point
of the last release that is given again is one of these; no other is stored again. -/
def DelaysOneReuse (s : LppQueue × (ℕ → FenceHistory)) (sequence : ℕ) (fence : Option SyncFence)
    (stored : BufferElement) : Prop :=
  pending stored.fence = pending fence ∪ (s.2 sequence).since ∧
    ∀ p ∈ (s.2 sequence).last, p ∉ pending fence ∪ (s.2 sequence).since → p ∉ pending stored.fence

/-- After any run a release stores the right points exactly when everything that was merged before
the last release is given again. -/
theorem delaysOneReuse_iff {settings : QueueSettings} {as : List FenceCall}
    {s : LppQueue × (ℕ → FenceHistory)}
    (run : Run FenceStep (LppQueue.start settings, fun _ => {}) as s) {sequence : ℕ}
    {fence : Option SyncFence} {env : ReleaseEnv} (hmerge : 0 ≤ env.mergeFd)
    (hret : (s.1.queue.releaseBufferLocked sequence fence env).1 = .ok) {stored : BufferElement}
    (hstored : (s.1.queue.releaseBufferLocked sequence fence env).2.bufferQueueCache.find sequence =
      some stored) :
    DelaysOneReuse s sequence fence stored ↔
      (s.2 sequence).before ⊆ pending fence ∪ (s.2 sequence).since := by
  obtain ⟨e, he, hfence⟩ := BufferQueue.fence_releaseBufferLocked hret hstored
  have hpoints : pending stored.fence =
      (s.2 sequence).before ∪ (pending fence ∪ (s.2 sequence).since) := by
    rw [hfence, e.pending_releaseFence fence hmerge, collected_of_run run sequence e he,
      Finset.union_left_comm]
  unfold DelaysOneReuse
  rw [hpoints, Finset.union_eq_right]
  refine and_iff_left_of_imp fun hbefore p _ hp => ?_
  rwa [Finset.union_eq_right.mpr hbefore]

def noFence : Option SyncFence := some invalidFence

def mergedBeforeRelease : List FenceCall :=
  [.consume (.lpp (.queue (.requestBuffer sampleConfig ⟨1, 1, true, true⟩))) {},
    .consume (.lpp (.queue (.flushBuffer ⟨1, some ∅, invalidFence, ⟨[], 0, 1⟩, ⟨.ok, 10⟩⟩))) {},
    .consume (.lpp (.queue (.acquireBuffer 20))) {},
    .setAndMergeSyncFence 1 (some ⟨7, {5}⟩) 8,
    .consume (.lpp (.queue (.releaseBuffer 1 noFence ⟨30, 9, fun _ => true⟩))) {},
    .consume (.lpp (.queue (.requestBuffer sampleConfig ⟨2, 2, true, true⟩))) {},
    .consume (.lpp (.queue (.flushBuffer ⟨1, some ∅, invalidFence, ⟨[], 0, 1⟩, ⟨.ok, 40⟩⟩))) {},
    .consume (.lpp (.queue (.acquireBuffer 50))) {}]

def afterMerge : LppQueue × (ℕ → FenceHistory) :=
  execute fenceNext (LppQueue.start { listener := true }, fun _ => {}) mergedBeforeRelease

theorem mergedBeforeRelease_run :
    Run FenceStep (LppQueue.start { listener := true }, fun _ => {}) mergedBeforeRelease afterMerge :=
  .of_legal (fun _ _ h => ⟨h.1, rfl, h.2⟩) (show Legal fenceNext (fun s a =>
    a.Legitimate s.1 ∧ (fenceNext s a).1.queue.fault = false) _ _ by decide)

theorem second_release : ∃ stored,
    (afterMerge.1.queue.releaseBufferLocked 1 noFence ⟨60, 9, fun _ => true⟩).1 = .ok ∧
      (afterMerge.1.queue.releaseBufferLocked 1 noFence
        ⟨60, 9, fun _ => true⟩).2.bufferQueueCache.find 1 = some stored :=
  ⟨_, rfl, rfl⟩

theorem delaysOneReuse_iff_mergedBeforeRelease : ∃ stored,
    (afterMerge.1.queue.releaseBufferLocked 1 noFence
      ⟨60, 9, fun _ => true⟩).2.bufferQueueCache.find 1 = some stored ∧
    (DelaysOneReuse afterMerge 1 noFence stored ↔
      (afterMerge.2 1).before ⊆ pending noFence ∪ (afterMerge.2 1).since) := by
  obtain ⟨stored, hret, hstored⟩ := second_release
  exact ⟨stored, hstored, delaysOneReuse_iff mergedBeforeRelease_run (by decide) hret hstored⟩

/-- The second release stores the merged fence again, although nothing was merged since. -/
theorem release_keeps_merged_fence :
    ¬ ∀ (settings : QueueSettings) (as : List FenceCall) (s : LppQueue × (ℕ → FenceHistory))
      (sequence : ℕ) (fence : Option SyncFence) (env : ReleaseEnv) (stored : BufferElement),
      Run FenceStep (LppQueue.start settings, fun _ => {}) as s → 0 ≤ env.mergeFd →
      (s.1.queue.releaseBufferLocked sequence fence env).1 = .ok →
      (s.1.queue.releaseBufferLocked sequence fence env).2.bufferQueueCache.find sequence =
        some stored →
      DelaysOneReuse s sequence fence stored := by
  intro h
  obtain ⟨stored, hret, hstored⟩ := second_release
  have hpoints := (h _ _ _ 1 noFence _ stored mergedBeforeRelease_run (by decide) hret hstored).1
  have hkept : ((afterMerge.1.queue.releaseBufferLocked 1 noFence
      ⟨60, 9, fun _ => true⟩).2.bufferQueueCache.find 1).map (fun e => pending e.fence) =
        some {5} := by decide
  rw [hstored, Option.map_some, Option.some.injEq, hpoints] at hkept
  exact absurd hkept (by decide)

end GraphicSurface
