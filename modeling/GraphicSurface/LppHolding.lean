import GraphicSurface.FrameOrder
import GraphicSurface.LppSlots
import GraphicSurface.Passages

/-! What becomes of a buffer that `AcquireLppBuffer` has returned. The call writes `ACQUIRED` to
whatever cached buffer the table names and looks at neither list, so a buffer that was in one of
them stays there; and the flush with which the low-power mode ends finds a state that it rejects. -/

namespace GraphicSurface

open Runs SlotPool BufferElement

namespace LppQueue

variable {l l' : LppQueue} {r : LppReads}

/-- The sequence number of the buffer that an `AcquireLppBuffer` with these reads returns. -/
def acquires (l : LppQueue) (r : LppReads) : Option ℕ :=
  match (l.acquireLppBuffer r).1 with
  | some reply => reply.frame
  | none => none

/-- A call on the queue `q` leaves it alone, or writes to the one entry that it returns. -/
structure AcquiresOnly (q : BufferQueue) (res : Option AcquireReply × LppQueue) : Prop where
  cases : (res.2.queue = q ∧ ∀ reply, res.1 = some reply → reply.ret ≠ .ok) ∨
    ∃ s e timestamp damages, q.bufferQueueCache.find s = some e ∧
      res.1 = some ⟨.ok, some (e.setLppAcquired q.transform).buffer, some invalidFence,
        timestamp, damages⟩ ∧
      res.2.queue = { q with
        bufferQueueCache := q.bufferQueueCache.modify s (setLppAcquired q.transform)
          (setLppAcquired_seqNum _) }

theorem AcquiresOnly.error {q : BufferQueue} {ret : GSError} (hret : ret ≠ .ok)
    (h : l.queue = q) : AcquiresOnly q (some (.error ret), l) := by
  refine ⟨.inl ⟨h, fun reply hreply => ?_⟩⟩
  rw [Option.some.injEq] at hreply
  exact hreply ▸ hret

theorem AcquiresOnly.touch {q : BufferQueue} {as : List LppAccess}
    {next : LppQueue → Option AcquireReply × LppQueue} (hq : l.queue = q)
    (h : AcquiresOnly q (next { l with accesses := l.accesses ++ as })) :
    AcquiresOnly q (l.touch as next) := by
  unfold LppQueue.touch
  dsimp only
  split_ifs
  · exact h
  · exact ⟨.inl ⟨hq, by simp⟩⟩

theorem takeLppBuffer_acquiresOnly {q : BufferQueue} (hq : l.queue = q) (s : BufferSlot) :
    AcquiresOnly q (Prod.map some id (l.takeLppBuffer s)) := by
  subst hq
  unfold takeLppBuffer
  split
  · exact .error (by decide) rfl
  · rename_i e he
    exact ⟨.inr ⟨s.seqId, e, s.timestamp, _, he, rfl, rfl⟩⟩

theorem takeLppSlot_acquiresOnly {q : BufferQueue} (hq : l.queue = q) (s : LppSlotInfo)
    (readOffset : Int) : AcquiresOnly q (l.takeLppSlot s readOffset) := by
  subst hq
  unfold takeLppSlot
  refine .touch rfl (.touch rfl (.touch rfl (takeLppBuffer_acquiresOnly ?_ _)))
  rfl

theorem checkLppFenceLocked_queue (l : LppQueue) (unsignalled : SyncFence → Bool) :
    (l.checkLppFenceLocked unsignalled).2.queue = l.queue := by
  unfold checkLppFenceLocked
  split <;> rfl

theorem acquireLppBuffer_acquiresOnly (l : LppQueue) (r : LppReads) :
    AcquiresOnly l.queue (l.acquireLppBuffer r) := by
  have hqueue := l.checkLppFenceLocked_queue r.unsignalled
  unfold acquireLppBuffer
  split
  · exact .error (by decide) rfl
  · split
    · exact .error (by decide) rfl
    · split
      · rename_i l₁ hcheck
        exact .error (by decide) (by rw [← hqueue, hcheck])
      · rename_i l₁ hcheck
        rw [hcheck] at hqueue
        rw [← hqueue]
        refine .touch rfl ?_
        dsimp only
        split
        · exact .error (by decide) rfl
        · unfold readLppSlotInfo
          refine .touch rfl ?_
          split
          · refine .touch rfl ?_
            split
            · exact .error (by decide) rfl
            · refine takeLppSlot_acquiresOnly ?_ _ _
              rfl
          · refine takeLppSlot_acquiresOnly ?_ _ _
            rfl

theorem acquires_some {s : ℕ} (h : l.acquires r = some s) :
    ∃ e reply, l.queue.bufferQueueCache.find s = some e ∧
      (l.acquireLppBuffer r).1 = some reply ∧ reply.ret = .ok ∧
      reply.buffer = some (e.setLppAcquired l.queue.transform).buffer ∧
      (l.acquireLppBuffer r).2.queue = { l.queue with
        bufferQueueCache := l.queue.bufferQueueCache.modify s (setLppAcquired l.queue.transform)
          (setLppAcquired_seqNum _) } := by
  rcases (l.acquireLppBuffer_acquiresOnly r).cases with ⟨-, hret⟩ | ⟨k, e, _, _, he, hreply, hstate⟩
  · unfold acquires at h
    split at h
    · rename_i reply hreply
      simp [AcquireReply.frame, hret reply hreply] at h
    · cases h
  · obtain rfl : k = s := by
      rw [acquires, hreply] at h
      simpa [AcquireReply.frame, setLppAcquired, BufferCache.seqNum_of_find he] using h
    exact ⟨e, _, he, hreply, rfl, rfl, hstate⟩

theorem acquires_none (h : l.acquires r = none) : (l.acquireLppBuffer r).2.queue = l.queue := by
  rcases (l.acquireLppBuffer_acquiresOnly r).cases with ⟨hqueue, -⟩ | ⟨k, e, _, _, he, hreply, -⟩
  · exact hqueue
  · rw [acquires, hreply] at h
    simp [AcquireReply.frame] at h

end LppQueue

namespace BufferQueue

theorem flushBuffer_acquired {q : BufferQueue} {sequence : ℕ} {e : BufferElement}
    (he : q.bufferQueueCache.find sequence = some e) (hacquired : e.state = .acquired)
    (bedata : Option ExtraData) (fence : SyncFence) (config : BufferFlushConfigWithDamages)
    (env : FlushEnv) : (q.flushBuffer sequence bedata fence config env).2 = q := by
  have hcheck : q.checkBufferQueueCacheLocked sequence ≠ .ok := by
    simp [checkBufferQueueCacheLocked, he, hacquired]
  unfold flushBuffer
  split_ifs <;> rfl

end BufferQueue

namespace LppQueue

variable {l : LppQueue} {r : LppReads}

theorem flushLppBuffer_queue (l : LppQueue) (r : LppReads) (env : FlushEnv) :
    (l.flushLppBuffer r env).queue = (l.acquireLppBuffer r).2.queue := by
  unfold flushLppBuffer
  split
  · rename_i buffer fence timestamp damages l₁ hreply
    have hacquires : l.acquires r = some buffer.seqNum := by
      simp [acquires, hreply, AcquireReply.frame]
    obtain ⟨e, reply, he, -, -, -, hqueue⟩ := acquires_some hacquires
    rw [hreply] at hqueue ⊢
    dsimp only at hqueue ⊢
    have hfind : l₁.queue.bufferQueueCache.find buffer.seqNum =
        some (e.setLppAcquired l.queue.transform) := by
      simp [hqueue, he]
    exact BufferQueue.flushBuffer_acquired hfind rfl _ _ _ _
  · rename_i hother
    rw [hother]

/-- The buffer waits as the newest frame, with the time that the table had for it. -/
def HandsOver (l : LppQueue) (s : ℕ) (timestamp : Int) : Prop :=
  ∃ e, l.queue.bufferQueueCache.find s = some e ∧ e.state = .flushed ∧ e.timestamp = timestamp ∧
    l.queue.dirtyList.getLast? = some s

/-- Whatever `SetLppShareFd` acquires when the low-power mode ends is not handed over: the buffer
is left acquired. -/
theorem setLppShareFd_strands {s : ℕ} {reply : AcquireReply}
    (hreply : (l.acquireLppBuffer r).1 = some reply) (hs : reply.frame = some s) (fd : Int)
    (mapped : Bool) (env : FlushEnv) :
    (∃ e, (l.setLppShareFd fd false mapped r env).2.queue.bufferQueueCache.find s = some e ∧
      e.state = .acquired) ∧
      ¬ HandsOver (l.setLppShareFd fd false mapped r env).2 s reply.timestamp := by
  have hacquires : l.acquires r = some s := by simp [acquires, hreply, hs]
  obtain ⟨e, -, he, -, -, -, hqueue⟩ := acquires_some hacquires
  have hend : (l.setLppShareFd fd false mapped r env).2.queue = (l.acquireLppBuffer r).2.queue := by
    rw [← flushLppBuffer_queue l r env]
    rfl
  have hfind : (l.setLppShareFd fd false mapped r env).2.queue.bufferQueueCache.find s =
      some (e.setLppAcquired l.queue.transform) := by
    rw [hend, hqueue]
    simp [he]
  refine ⟨⟨_, hfind, rfl⟩, ?_⟩
  rintro ⟨e', he', hflushed, -⟩
  rw [hfind, Option.some.injEq] at he'
  rw [← he', setLppAcquired_state] at hflushed
  cases hflushed

end LppQueue

theorem setLppShareFd_strands_oneLppBuffer :
    let l := execute (fun l op => LppOp.next l op) (LppQueue.start { listener := true }) oneLppBuffer
    ∃ reply, (l.acquireLppBuffer quietReads).1 = some reply ∧ reply.frame = some 1 ∧
      ¬ LppQueue.HandsOver (l.setLppShareFd 3 false true quietReads ⟨.ok, 0⟩).2 1 reply.timestamp := by
  intro l
  have hreply : ∃ reply, (l.acquireLppBuffer quietReads).1 = some reply ∧ reply.frame = some 1 :=
    ⟨_, rfl, by decide⟩
  obtain ⟨reply, hreply, hframe⟩ := hreply
  exact ⟨reply, hreply, hframe, (LppQueue.setLppShareFd_strands hreply hframe 3 true ⟨.ok, 0⟩).2⟩

theorem frame_not_handed_over :
    ¬ ∀ (s : QueueSettings) (ops : List LppOp) (l : LppQueue) (r : LppReads) (reply : AcquireReply)
      (k : ℕ) (fd : Int) (mapped : Bool) (env : FlushEnv),
      Run LppStep (LppQueue.start s) ops l → l.queue.listenerRegistered = true →
      (l.acquireLppBuffer r).1 = some reply → reply.frame = some k →
      LppQueue.HandsOver (l.setLppShareFd fd false mapped r env).2 k reply.timestamp := by
  intro h
  have legal : Legal (fun l op => LppOp.next l op)
      (fun l op => op.Fresh l ∧ (op.next l).queue.fault = false)
      (LppQueue.start { listener := true }) oneLppBuffer := by
    decide
  obtain ⟨e, he, hflushed, -⟩ := h _ _ _ quietReads _ 1 3 true ⟨.ok, 0⟩
    (.of_legal (fun _ _ h => ⟨h.1, rfl, h.2⟩) legal) (by decide) rfl (by decide)
  revert he hflushed
  revert e
  decide

def RequestReply.lent (reply : RequestReply) : List ℕ :=
  if reply.ret = .ok then [reply.retval.sequence] else []

theorem RequestReply.not_mem_lent {reply : RequestReply} {k : ℕ}
    (h : reply.ret = .ok → reply.retval.sequence ≠ k) : k ∉ reply.lent := by
  unfold RequestReply.lent
  split
  · rename_i hok
    simpa using (h hok).symm
  · simp

/-- The numbers of the buffers that an operation gives to the producer. -/
def Op.lent (q : BufferQueue) (op : Op) : List ℕ :=
  match (op.run q).1 with
  | .request reply => reply.lent
  | .requests _ replies => replies.map (·.retval.sequence)
  | _ => []

namespace BufferQueue

variable {q : BufferQueue} {k : ℕ}

def Holds (q : BufferQueue) (k : ℕ) : Prop :=
  ∃ e, q.bufferQueueCache.find k = some e ∧ e.state = .acquired

theorem Holds.not_mem_lists (h : q.Holds k) (hq : q.Agrees) : k ∉ q.freeList ∧ k ∉ q.dirtyList := by
  obtain ⟨e, he, hacquired⟩ := h
  simp [hq.mem_free_iff he, hq.mem_dirty_iff he, hacquired]

theorem releaseBuffer_acquired {e : BufferElement} (he : q.bufferQueueCache.find k = some e)
    (hacquired : e.state = .acquired) (fence : Option SyncFence) (env : ReleaseEnv) :
    (q.releaseBuffer k fence env).1 = .ok := by
  have hlocked : (q.releaseBufferLocked k fence env).1 = .ok := by
    simp only [releaseBufferLocked, he, hacquired]
    simp only [ne_eq, not_true_eq_false, false_and, if_false]
    split <;> rfl
  have hsection : (q.releaseBufferSection k fence env).1 = .ok := by
    unfold releaseBufferSection
    dsimp only
    split
    · exact hlocked
    · split <;> exact hlocked
  unfold releaseBuffer
  dsimp only
  split <;> exact hsection

theorem Holds.requestBufferLocked (h : q.Holds k) (hq : q.Agrees) (config : BufferRequestConfig)
    (a : Allocation) (hfresh : q.bufferQueueCache.find a.sequence = none) :
    (q.requestBufferLocked config a false).2.Holds k ∧
      ((q.requestBufferLocked config a false).1.ret = .ok →
        (q.requestBufferLocked config a false).1.retval.sequence ≠ k) := by
  obtain ⟨e, he, hacquired⟩ := h
  have hlends : Lends true q _ := requestBufferLocked_lends hq config a hfresh
  refine ⟨?_, ?_⟩
  · obtain ⟨e', he', hcore⟩ := hlends.kept k e he (by simp [Parked, hacquired])
    exact ⟨e', he', hcore.state.trans hacquired⟩
  · rintro hok rfl
    rcases requestBufferLocked_took hq config a hok with ⟨e', he', hparked⟩ | hnew
    · rw [he, Option.some.injEq] at he'
      subst he'
      simp [Parked, hacquired] at hparked
    · rw [hnew, hfresh] at he
      cases he

theorem Holds.requestBuffersLoop (h : q.Holds k) (hq : q.Agrees) (config : BufferRequestConfig)
    (as : List Allocation) (hnodup : (as.map (·.sequence)).Nodup)
    (hfresh : ∀ a ∈ as, q.bufferQueueCache.find a.sequence = none) :
    k ∉ (q.requestBuffersLoop config as).2.1.map (·.retval.sequence) := by
  induction as generalizing q with
  | nil => simp [BufferQueue.requestBuffersLoop]
  | cons a as ih =>
    rw [List.map_cons, List.nodup_cons] at hnodup
    have hfirst := hfresh a List.mem_cons_self
    obtain ⟨hkept, hne⟩ := h.requestBufferLocked hq config a hfirst
    have hone : Passes (fun _ => False) [a.sequence] q _ :=
      requestBufferLocked_passes hq config a hfirst
    have hrest := ih hkept ((requestBufferLocked_refines hq config a hfirst).agrees hq) hnodup.2
      fun b hb => by
        have hb' : b.sequence ≠ a.sequence := fun heq => hnodup.1 (heq ▸ List.mem_map_of_mem hb)
        exact hone.absent _ (hfresh b (List.mem_cons_of_mem a hb)) (by simpa using hb')
    unfold BufferQueue.requestBuffersLoop requestBuffer
    dsimp only
    split
    · simp
    · rename_i hok
      rw [List.map_cons, List.mem_cons, not_or]
      exact ⟨(hne (not_not.mp hok)).symm, hrest⟩

theorem requestAndDetachBuffer_reply (q : BufferQueue) (config : BufferRequestConfig)
    (a : Allocation) (hok : (q.requestAndDetachBuffer config a).1.ret = .ok) :
    (q.requestBufferLocked config a false).1.ret = .ok ∧
      (q.requestAndDetachBuffer config a).1.retval.sequence =
        (q.requestBufferLocked config a false).1.retval.sequence := by
  have hcall : q.requestAndDetachBuffer config a = if (q.requestBufferLocked config a false).1.ret ≠ .ok
      then q.requestBufferLocked config a false
      else ({ (q.requestBufferLocked config a false).1 with
          ret := ((q.requestBufferLocked config a false).2.detachBufferFromQueueLocked
            (q.requestBufferLocked config a false).1.retval.sequence .producerInvoker false).1 },
        ((q.requestBufferLocked config a false).2.detachBufferFromQueueLocked
          (q.requestBufferLocked config a false).1.retval.sequence .producerInvoker false).2) := rfl
  by_cases hlent : (q.requestBufferLocked config a false).1.ret = .ok
  · rw [hcall, if_neg (not_not.mpr hlent)]
    exact ⟨hlent, rfl⟩
  · rw [hcall, if_pos hlent] at hok
    exact absurd hok hlent

end BufferQueue

theorem BufferQueue.Holds.not_given {q : BufferQueue} {k : ℕ} (h : q.Holds k) (hq : q.Agrees)
    {op : Op} (hfresh : op.Fresh q) : k ∉ op.lent q ∧ op.frame q ≠ some k := by
  have hout := (h.not_mem_lists hq).2
  cases op with
  | requestBuffer config a =>
    exact ⟨RequestReply.not_mem_lent (h.requestBufferLocked hq config a hfresh).2,
      by simp [Op.frame, Op.run]⟩
  | requestBuffers config as =>
    have hbatch : { q with isBatch := true }.Holds k := h
    exact ⟨hbatch.requestBuffersLoop hq config as hfresh.1 hfresh.2, by simp [Op.frame, Op.run]⟩
  | requestAndDetachBuffer config a =>
    have hreply : k ∉ (q.requestAndDetachBuffer config a).1.lent := by
      refine RequestReply.not_mem_lent fun hok => ?_
      obtain ⟨hlent, hsame⟩ := q.requestAndDetachBuffer_reply config a hok
      rw [hsame]
      exact (h.requestBufferLocked hq config a hfresh).2 hlent
    exact ⟨hreply, by simp [Op.frame, Op.run]⟩
  | acquireBuffer now =>
    refine ⟨by simp [Op.lent, Op.run], fun hframe => hout ?_⟩
    rw [BufferQueue.acquireBuffer_dirtyList hq now]
    change (q.acquireBuffer now).1.frame = some k at hframe
    simp [hframe]
  | acquireBufferByTimestamp expect auto now envs =>
    refine ⟨by simp [Op.lent, Op.run], fun hframe => hout ?_⟩
    obtain ⟨dropped, hdropped⟩ :=
      BufferQueue.acquireBufferByTimestamp_dirtyList hq expect auto now envs
    rw [hdropped]
    change (q.acquireBufferByTimestamp expect auto now envs).1.frame = some k at hframe
    simp [hframe]
  | _ => exact ⟨by simp [Op.lent, Op.run], by simp [Op.frame, Op.run]⟩

namespace LppOp

/-- The buffer that the operation acquires from the table, also in `FlushLppBuffer`. -/
def taken (l : LppQueue) (op : LppOp) : Option ℕ :=
  op.reads.bind l.acquires

def released (l : LppQueue) : LppOp → Option ℕ
  | queue (.releaseBuffer sequence fence env) =>
    if (l.queue.releaseBuffer sequence fence env).1 = .ok then some sequence else none
  | _ => none

/-- The buffers that the operation gives to the producer or, by `AcquireBuffer`, to the
consumer. -/
def given (l : LppQueue) : LppOp → List ℕ
  | queue op => op.lent l.queue ++ (op.frame l.queue).toList
  | _ => []

/-- What the operation acquires from the table is in neither list. -/
def TakesOutside (l : LppQueue) (op : LppOp) : Prop :=
  ∀ k ∈ op.taken l, k ∉ l.queue.freeList ∧ k ∉ l.queue.dirtyList

theorem next_queue (l : LppQueue) {op : LppOp} (hop : ∀ o, op ≠ queue o) :
    (op.taken l = none ∧ (op.next l).queue = l.queue) ∨
      ∃ s e, op.taken l = some s ∧ l.queue.bufferQueueCache.find s = some e ∧
        (op.next l).queue = { l.queue with
          bufferQueueCache := l.queue.bufferQueueCache.modify s (setLppAcquired l.queue.transform)
            (setLppAcquired_seqNum _) } := by
  have hacquire (r : LppReads) : (l.acquires r = none ∧ (l.acquireLppBuffer r).2.queue = l.queue) ∨
      ∃ s e, l.acquires r = some s ∧ l.queue.bufferQueueCache.find s = some e ∧
        (l.acquireLppBuffer r).2.queue = { l.queue with
          bufferQueueCache := l.queue.bufferQueueCache.modify s (setLppAcquired l.queue.transform)
            (setLppAcquired_seqNum _) } := by
    cases h : l.acquires r with
    | none => exact .inl ⟨rfl, LppQueue.acquires_none h⟩
    | some s =>
      obtain ⟨e, -, he, -, -, -, hqueue⟩ := LppQueue.acquires_some h
      exact .inr ⟨s, e, rfl, he, hqueue⟩
  cases op with
  | queue o => exact absurd rfl (hop o)
  | setSurfaceSourceType sourceType => exact .inl ⟨rfl, rfl⟩
  | acquireLppBuffer r => exact hacquire r
  | setLppShareFd fd state mapped r env =>
    cases state with
    | true =>
      refine .inl ⟨rfl, ?_⟩
      simp only [next, LppQueue.setLppShareFd, if_true]
      split_ifs
      · rfl
      · rfl
      · rfl
      · exact LppQueue.checkLppFenceLocked_queue _ _
    | false =>
      have hend : (next l (setLppShareFd fd false mapped r env)).queue =
          (l.acquireLppBuffer r).2.queue := by
        rw [← LppQueue.flushLppBuffer_queue l r env]
        rfl
      rw [hend]
      exact hacquire r
  | setLppDrawSource isShbSource isRsSource isStopShbDraw unsignalled =>
    refine .inl ⟨rfl, ?_⟩
    simp only [next, LppQueue.setLppDrawSource]
    split_ifs
    all_goals first | rfl | exact LppQueue.checkLppFenceLocked_queue _ _

end LppOp

/-- The buffers acquired from the table that are still in the cache and not released. -/
def recordHeld (held : List ℕ) (l : LppQueue) (op : LppOp) : List ℕ :=
  ((op.taken l).toList ++ held).filter fun k =>
    decide (op.released l ≠ some k) && ((op.next l).queue.bufferQueueCache.find k).isSome

def HeldStep (s : LppQueue × List ℕ) (op : LppOp) (t : LppQueue × List ℕ) : Prop :=
  LppStep s.1 op t.1 ∧ t.2 = recordHeld s.2 s.1 op

/-- What is held is acquired, in a queue whose lists agree with the states. -/
structure KeepsHeld (s : LppQueue × List ℕ) : Prop where
  agrees : s.1.queue.Agrees
  holds : ∀ k ∈ s.2, s.1.queue.Holds k

namespace KeepsHeld

variable {s t : LppQueue × List ℕ}

theorem queueStep {op : Op} (h : KeepsHeld s) (hstep : HeldStep s (.queue op) t) : KeepsHeld t := by
  obtain ⟨⟨hfresh, hnext, hfault⟩, hheld⟩ := hstep
  have hqueue : QueueStep s.1.queue op (op.run s.1.queue).2 :=
    ⟨hfresh, rfl, by rw [hnext] at hfault; exact hfault⟩
  have hpasses : Passes (op.frees s.1.queue) op.inserts s.1.queue (op.run s.1.queue).2 :=
    Op.run_passes h.agrees hfresh
  refine ⟨by rw [hnext]; exact (hqueue.refines h.agrees).agrees h.agrees, fun k hk => ?_⟩
  rw [hheld, recordHeld] at hk
  obtain ⟨hk, hleft⟩ := List.mem_filter.mp hk
  rw [Bool.and_eq_true, decide_eq_true_eq] at hleft
  obtain ⟨e, he, hacquired⟩ := h.holds k (by simpa [LppOp.taken, LppOp.reads] using hk)
  obtain ⟨e', he'⟩ := Option.isSome_iff_exists.mp hleft.2
  have hnot : ¬ op.frees s.1.queue k := by
    intro hfrees
    cases op with
    | releaseBuffer sequence fence env =>
      obtain rfl : k = sequence := hfrees
      refine hleft.1 ?_
      have hok : (s.1.queue.releaseBuffer k fence env).1 = .ok :=
        BufferQueue.releaseBuffer_acquired he hacquired fence env
      simp [LppOp.released, hok]
    | acquireBufferByTimestamp expect auto now envs =>
      exact ((h.holds k (by simpa [LppOp.taken, LppOp.reads] using hk)).not_mem_lists h.agrees).2
        hfrees
    | _ => exact hfrees
  exact ⟨e', by rw [hnext]; exact he', (hpasses.entries k e e' he he').acquired hnot hacquired⟩

theorem lppStep {op : LppOp} (h : KeepsHeld s) (hop : ∀ o, op ≠ .queue o)
    (hstep : HeldStep s op t) (hok : op.TakesOutside s.1) : KeepsHeld t := by
  obtain ⟨⟨-, hnext, -⟩, hheld⟩ := hstep
  have hmem : ∀ k ∈ t.2, k ∈ (op.taken s.1).toList ∨ k ∈ s.2 := by
    intro k hk
    rw [hheld, recordHeld] at hk
    exact List.mem_append.mp (List.mem_filter.mp hk).1
  rcases op.next_queue s.1 hop with ⟨htaken, hqueue⟩ | ⟨j, e, htaken, he, hqueue⟩
  · refine ⟨by rw [hnext, hqueue]; exact h.agrees, fun k hk => ?_⟩
    rw [hnext, hqueue]
    exact h.holds k (by simpa [htaken] using hmem k hk)
  · have hout := hok j htaken
    have hplace : e.state.place = .held := by
      rw [h.agrees.mem_free_iff he, h.agrees.mem_dirty_iff he] at hout
      cases hs : e.state <;> simp_all [BufferState.place]
    have hpool : t.1.queue.pool = s.1.queue.pool := by
      rw [hnext, hqueue]
      simp only [BufferQueue.pool, BufferQueue.getUsedSize, BufferCache.size_modify, Pool.mk.injEq,
        and_true]
      funext k
      rw [BufferCache.place_modify he]
      by_cases hk : k = j
      · subst hk
        rw [Function.update_self, BufferCache.place_of_find he, hplace]
        rfl
      · simp [hk]
    refine ⟨by rw [BufferQueue.Agrees, hpool]; exact h.agrees, fun k hk => ?_⟩
    rw [hnext, hqueue]
    by_cases hkj : j = k
    · subst hkj
      exact ⟨e.setLppAcquired s.1.queue.transform, by simp [he], rfl⟩
    · have hin : k ∈ s.2 := (hmem k hk).resolve_left (by simpa [htaken] using Ne.symm hkj)
      obtain ⟨e', he', hacquired⟩ := h.holds k hin
      exact ⟨e', by simp [hkj, he'], hacquired⟩

end KeepsHeld

/-- As long as what is acquired from the table is in neither list, it stays acquired and in neither
list until it is released, and no operation gives it away again; and the next buffer that is
acquired from the table is taken out of circulation exactly when it is in neither list. -/
theorem lpp_buffer_kept {s : QueueSettings} {ops : List LppOp} {l : LppQueue} {held : List ℕ}
    (run : Run (restrict HeldStep fun s op => op.TakesOutside s.1) (LppQueue.start s, []) ops
      (l, held)) :
    (∀ k ∈ held, l.queue.Holds k ∧ k ∉ l.queue.freeList ∧ k ∉ l.queue.dirtyList) ∧
      ∀ op l', LppStep l op l' → (∀ k ∈ held, k ∉ op.given l) ∧
        ∀ k ∈ op.taken l,
          (l'.queue.Holds k ∧ k ∉ l'.queue.freeList ∧ k ∉ l'.queue.dirtyList ↔
            op.TakesOutside l) := by
  have hkept : KeepsHeld (l, held) := by
    refine run.invariant (fun s op t hs hstep => ?_) ⟨agrees_start s, by simp⟩
    cases op with
    | queue op => exact hs.queueStep hstep.1
    | _ => exact hs.lppStep (by simp) hstep.1 hstep.2
  refine ⟨fun k hk => ⟨hkept.holds k hk, (hkept.holds k hk).not_mem_lists hkept.agrees⟩,
    fun op l' hstep => ⟨fun k hk => ?_, fun k hk => ?_⟩⟩
  · cases op with
    | queue op =>
      obtain ⟨hlent, hframe⟩ := (hkept.holds k hk).not_given hkept.agrees hstep.1
      rw [LppOp.given, List.mem_append, not_or, Option.mem_toList]
      exact ⟨hlent, hframe⟩
    | _ => simp [LppOp.given]
  · obtain ⟨-, rfl, -⟩ := hstep
    have hop : ∀ o, op ≠ .queue o := by
      rintro o rfl
      simp [LppOp.taken, LppOp.reads] at hk
    rcases op.next_queue l hop with ⟨htaken, -⟩ | ⟨j, e, htaken, he, hqueue⟩
    · simp [htaken] at hk
    · obtain rfl : j = k := by simpa [htaken] using hk
      have hholds : (op.next l).queue.Holds j :=
        ⟨e.setLppAcquired l.queue.transform, by simp [hqueue, he], rfl⟩
      have hfree : (op.next l).queue.freeList = l.queue.freeList := by rw [hqueue]
      have hdirty : (op.next l).queue.dirtyList = l.queue.dirtyList := by rw [hqueue]
      rw [hfree, hdirty, and_iff_right hholds, LppOp.TakesOutside, htaken]
      simp

instance (l : LppQueue) (op : LppOp) : Decidable (op.TakesOutside l) :=
  match h : op.taken l with
  | none => .isTrue (by simp [LppOp.TakesOutside, h])
  | some k => decidable_of_iff (k ∉ l.queue.freeList ∧ k ∉ l.queue.dirtyList)
      (by simp [LppOp.TakesOutside, h])

theorem lpp_buffer_kept_oneLppBuffer :
    ∃ l, Run (restrict HeldStep fun s op => op.TakesOutside s.1)
        (LppQueue.start { listener := true }, []) (oneLppBuffer ++ [.acquireLppBuffer quietReads])
        (l, [1]) ∧
      l.queue.Holds 1 ∧ 1 ∉ l.queue.freeList ∧ 1 ∉ l.queue.dirtyList := by
  have legal : Legal (fun (s : LppQueue × List ℕ) op => (LppOp.next s.1 op, recordHeld s.2 s.1 op))
      (fun s op => (op.Fresh s.1 ∧ (op.next s.1).queue.fault = false) ∧ op.TakesOutside s.1)
      (LppQueue.start { listener := true }, [])
      (oneLppBuffer ++ [.acquireLppBuffer quietReads]) := by
    decide
  have run : Run (restrict HeldStep fun s op => op.TakesOutside s.1)
      (LppQueue.start { listener := true }, []) (oneLppBuffer ++ [.acquireLppBuffer quietReads]) _ :=
    .of_legal (fun _ _ h => ⟨⟨⟨h.1.1, rfl, h.1.2⟩, rfl⟩, h.2⟩) legal
  exact ⟨_, run, (lpp_buffer_kept run).1 1 (by decide)⟩

def freeLppBuffer : List LppOp :=
  oneLppBuffer ++ [.queue (.cancelBuffer 1 (some ∅)), .acquireLppBuffer quietReads]

theorem lpp_buffer_given_twice :
    ¬ ∀ (s : QueueSettings) (ops : List LppOp) (l : LppQueue) (held : List ℕ),
      Run HeldStep (LppQueue.start s, []) ops (l, held) →
      ∀ k ∈ held, (l.queue.Holds k ∧ k ∉ l.queue.freeList ∧ k ∉ l.queue.dirtyList) ∧
        ∀ op l', LppStep l op l' → k ∉ op.given l := by
  intro h
  have legal : Legal (fun (s : LppQueue × List ℕ) op => (LppOp.next s.1 op, recordHeld s.2 s.1 op))
      (fun s op => op.Fresh s.1 ∧ (op.next s.1).queue.fault = false)
      (LppQueue.start { listener := true }, []) freeLppBuffer := by
    decide
  have hfree := (h _ _ _ _ (.of_legal (fun _ _ h => ⟨⟨h.1, rfl, h.2⟩, rfl⟩) legal) 1
    (by decide)).2 (.queue (.requestBuffer sampleConfig ⟨2, 2, true, true⟩)) _
    ⟨by decide, rfl, by decide⟩
  exact absurd hfree (by decide)

end GraphicSurface
