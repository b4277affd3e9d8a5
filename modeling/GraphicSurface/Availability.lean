import GraphicSurface.AllocationFlag
import GraphicSurface.BlockedRequests
import GraphicSurface.RequestEffects

/-! `QueryIfBufferAvailable` beside the request that it speaks of. The query looks at
`bufferQueueSize_` and the length of the free list; the request also knows the reserved slots and
the locked last-flushed buffer. -/

namespace GraphicSurface

open Runs

namespace BufferQueue

def queryIfBufferAvailable (q : BufferQueue) : Bool :=
  q.freeList != [] || decide (q.getUsedSize < q.bufferQueueSize)

def waitForCondition (q : BufferQueue) : Bool :=
  (q.freeList != [] && q.freeList != [q.acquireLastFlushedBufSequence]) ||
    decide (q.getUsedSize < q.unreservedSize) || !q.isValidStatus

/-- The request goes to sleep: for a running allocation, or on `waitReqCon_` with a predicate that
does not hold yet. -/
def requestWaits (q : BufferQueue) (config : BufferRequestConfig) : Bool :=
  match q.requestBufferCheck config with
  | .error _ => false
  | .ok updateConfig =>
    q.isAllocatingBuffer ||
      match q.requestBufferBody updateConfig false with
      | (.waitReq _, q) => !q.waitForCondition
      | (.reached _, _) => false

/-- The query's answer and what a request gets that is made at once. -/
def PredictsRequest (q : BufferQueue) (config : BufferRequestConfig) (a : Allocation) : Prop :=
  (q.queryIfBufferAvailable = true →
    (q.requestBuffer config a).1.ret = .ok ∧ q.requestWaits config = false) ∧
  (q.queryIfBufferAvailable = false → q.requestWaits config = true)

instance (q : BufferQueue) (config : BufferRequestConfig) (a : Allocation) :
    Decidable (q.PredictsRequest config a) := by
  unfold PredictsRequest
  infer_instance

/-- Without a free buffer the reserved slots make no difference, and a free buffer that is the
locked one does not stand alone in a full queue. -/
def QueryIsPrecise (q : BufferQueue) : Prop :=
  (q.freeList = [] → (q.getUsedSize < q.bufferQueueSize ↔ q.getUsedSize < q.unreservedSize)) ∧
  (q.freeList = [q.acquireLastFlushedBufSequence] → q.getUsedSize < q.unreservedSize)

variable {q q' : BufferQueue} {config : BufferRequestConfig} {buffer : SurfaceBuffer}
  {a : Allocation}

def canServe (q : BufferQueue) : Bool :=
  (q.freeList != [] && q.freeList != [q.acquireLastFlushedBufSequence]) ||
    decide (q.getUsedSize < q.unreservedSize)

theorem waitForCondition_eq (hstatus : q.isValidStatus = true) :
    q.waitForCondition = q.canServe := by
  simp [waitForCondition, canServe, hstatus]

theorem canServe_eq_false : q.canServe = false ↔ q.unreservedSize ≤ q.getUsedSize ∧
    (q.freeList = [] ∨ q.freeList = [q.acquireLastFlushedBufSequence]) := by
  simp only [canServe, Bool.or_eq_false_iff, Bool.and_eq_false_iff, bne_eq_false_iff_eq,
    decide_eq_false_iff_not, not_lt]
  exact and_comm

theorem canServe_of_free {k : ℕ} (hfree : k ∈ q.freeList)
    (hunlocked : k ≠ q.acquireLastFlushedBufSequence) : q.canServe = true := by
  have hne : q.freeList ≠ [] := List.ne_nil_of_mem hfree
  have hother : q.freeList ≠ [q.acquireLastFlushedBufSequence] := by
    intro hlist
    rw [hlist, List.mem_singleton] at hfree
    exact hunlocked hfree
  simp only [canServe, bne_iff_ne.mpr hne, bne_iff_ne.mpr hother, Bool.and_self, Bool.true_or]

theorem queryIsPrecise_iff : q.QueryIsPrecise ↔ q.queryIfBufferAvailable = q.canServe := by
  unfold QueryIsPrecise queryIfBufferAvailable canServe
  by_cases hempty : q.freeList = []
  · simp [hempty]
  · have hne : (q.freeList != []) = true := bne_iff_ne.mpr hempty
    by_cases hlocked : q.freeList = [q.acquireLastFlushedBufSequence]
    · have hsame : (q.freeList != [q.acquireLastFlushedBufSequence]) = false :=
        bne_eq_false_iff_eq.mpr hlocked
      rw [hne, hsame]
      simp [hlocked]
    · have hother : (q.freeList != [q.acquireLastFlushedBufSequence]) = true :=
        bne_iff_ne.mpr hlocked
      rw [hne, hother]
      simp [hempty, hlocked]

theorem AllocJob.granted_of_success (job : AllocJob) (halloc : a.alloc = true)
    (hmap : a.map = true) : job.granted a = true := by
  simp [AllocJob.granted, halloc, hmap]

/-- Where an allocation succeeds, so does the request that it is made for. -/
theorem finishRequest_ok {point : ReusePoint} (halloc : a.alloc = true) (hmap : a.map = true)
    (hpoint : ∀ reply, point = .done reply → reply.ret = .ok) :
    (q.finishRequest a point).1.ret = .ok := by
  cases hp : point with
  | done reply => exact hpoint reply hp
  | setupNewBuffer job =>
    have hanswer := finishRequest_grants (q := q) (a := a)
      (.inl rfl : ReusePoint.setupNewBuffer job = .setupNewBuffer job ∨ _)
    rw [if_pos (AllocJob.granted_of_success job halloc hmap)] at hanswer
    exact hanswer.ret
  | reallocBuffer job =>
    have hanswer := finishRequest_grants (q := q) (a := a)
      (.inr rfl : ReusePoint.reallocBuffer job = .setupNewBuffer job ∨ _)
    rw [if_pos (AllocJob.granted_of_success job halloc hmap)] at hanswer
    exact hanswer.ret

theorem Reuses.done_ok {sequence : ℕ} {r : ReusePoint × BufferQueue} (h : Reuses sequence r) :
    ∀ reply, r.1 = .done reply → reply.ret = .ok := by
  intro reply hdone
  rcases h with ⟨reply', hdone', hok, -⟩ | ⟨job, hjob, -⟩
  · rw [hdone', ReusePoint.done.injEq] at hdone
    rw [← hdone]
    exact hok
  · rw [hjob] at hdone
    cases hdone

theorem requestBufferBody_of_pop (h : q.Agrees) (hprio : q.isPriorityAlloc = false)
    (hpop : q.popFromFreeListLocked config = (some buffer, q')) :
    ∃ point q'', q.requestBufferBody config false = (.reached point, q'') ∧
      ∀ reply, point = .done reply → reply.ret = .ok := by
  have hbody := requestBufferBody_of_some (by rw [hprio, Bool.false_and]) hpop
  exact ⟨_, _, hbody, (popAndReuse_reuses h hpop).2.done_ok⟩

/-- A request in blocking mode reaches `waitReqCon_` exactly when nothing can be had, and otherwise
leaves its first section with a buffer or on the way to the allocator. -/
theorem requestBufferBody_blocking (h : q.Agrees) (config : BufferRequestConfig)
    (hprio : q.isPriorityAlloc = false) (hblock : q.requestBufferNoBlockMode = false) :
    (q.canServe = true ∧ ∃ point q', q.requestBufferBody config false = (.reached point, q') ∧
      ∀ reply, point = .done reply → reply.ret = .ok) ∨
    (q.canServe = false ∧ q.requestBufferBody config false = (.waitReq config, q)) := by
  have hnotPrio : (q.isPriorityAlloc && decide (q.getUsedSize < q.unreservedSize)) = false := by
    rw [hprio, Bool.false_and]
  cases hfind : q.freeList.find? (q.reusable config) with
  | some k =>
    obtain ⟨e, hpop, hseq, -, hpicked⟩ := picked_reusable h hfind
    have hreusable : q.reusable config k = true := List.find?_some hfind
    have hunlocked : k ≠ q.acquireLastFlushedBufSequence := by
      simp only [reusable, hpicked.entry, Bool.and_eq_true, bne_iff_ne] at hreusable
      exact hreusable.2
    exact .inl ⟨canServe_of_free (List.mem_of_find?_eq_some hfind) hunlocked,
      requestBufferBody_of_pop h hprio hpop⟩
  | none =>
    have hnone : q.freeList.any (q.reusable config) = false := by
      simpa using List.find?_eq_none.mp hfind
    rcases pop_of_not_reusable h hnone with ⟨hpop, hwhy⟩ | ⟨front, rest, e, hoff⟩
    · have hbody := requestBufferBody_of_none hnotPrio hpop
      by_cases hfull : q.unreservedSize ≤ q.getUsedSize
      · rw [if_pos hfull, hblock, if_neg Bool.false_ne_true] at hbody
        have hlists : q.freeList = [] ∨ q.freeList = [q.acquireLastFlushedBufSequence] :=
          hwhy.imp_right fun h => h.resolve_left (not_lt.mpr hfull)
        exact .inr ⟨canServe_eq_false.mpr ⟨hfull, hlists⟩, hbody⟩
      · rw [if_neg hfull] at hbody
        have hserve : q.canServe = true := by
          rw [canServe, decide_eq_true (Nat.not_le.mp hfull), Bool.or_true]
        have hsetup : (q.setupNewBufferLocked config).1 =
            .setupNewBuffer (q.allocBufferBegin config).1 := rfl
        refine .inl ⟨hserve, _, _, hbody, fun reply hdone => ?_⟩
        rw [hsetup] at hdone
        cases hdone
    · have hmem : front ∈ q.freeList := (mem_rotateLocked q).subset (by simp [hoff.order])
      exact .inl ⟨canServe_of_free hmem hoff.unlocked, requestBufferBody_of_pop h hprio hoff.pop⟩

/-- In blocking mode a request that is made at once gets its buffer without waiting, or has to wait,
as `canServe` says. -/
theorem requestBuffer_blocking (hq : Reachable q) {updateConfig : BufferRequestConfig}
    (hcheck : q.requestBufferCheck config = .ok updateConfig) (hstatus : q.isValidStatus = true)
    (hprio : q.isPriorityAlloc = false) (hblock : q.requestBufferNoBlockMode = false)
    (halloc : a.alloc = true) (hmap : a.map = true) :
    if q.canServe then (q.requestBuffer config a).1.ret = .ok ∧ q.requestWaits config = false
    else q.requestWaits config = true := by
  have hidle := hq.notAllocating
  rcases requestBufferBody_blocking hq.agrees updateConfig hprio hblock with
    ⟨hserve, point, q', hbody, hdone⟩ | ⟨hserve, hbody⟩
  · rw [if_pos hserve]
    constructor
    · rw [requestBuffer_eq, requestPoint_of_check hcheck hbody]
      exact finishRequest_ok halloc hmap hdone
    · simp only [requestWaits, hcheck, hidle, hbody, Bool.or_self]
  · rw [hserve, if_neg Bool.false_ne_true]
    simp only [requestWaits, hcheck, hidle, hbody, waitForCondition_eq hstatus, hserve,
      Bool.not_false, Bool.or_true]

theorem requestBufferCheck_valid (hstatus : q.isValidStatus = true)
    (hlistener : q.listenerRegistered = true)
    (hvalid : checkRequestConfig (q.requestedConfig config) = .ok) :
    q.requestBufferCheck config = .ok (q.requestedConfig config) := by
  have hcheck : q.requestBufferCheckStatus = .ok := by
    simp [requestBufferCheckStatus, hstatus, hlistener]
  simp only [requestedConfig] at hvalid ⊢
  simp [requestBufferCheck, hcheck, hvalid]

end BufferQueue

/-- A queue of three slots. One is reserved by a consumer that has detached its buffer, and the
producer owns the buffers in the other two. -/
def lastSlotReserved : List Op :=
  [.requestBuffer sampleConfig ⟨1, 1, true, true⟩,
    .flushBuffer ⟨1, some ∅, invalidFence, ⟨[], 0, 0⟩, ⟨.ok, 0⟩⟩, .acquireBuffer 0,
    .detachBufferFromQueue 1 .consumerInvoker true,
    .requestBuffer sampleConfig ⟨2, 2, true, true⟩, .requestBuffer sampleConfig ⟨3, 3, true, true⟩]

end GraphicSurface
