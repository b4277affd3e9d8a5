import GraphicSurface.Operations
import GraphicSurface.Settling

/-! The low-power player. It writes its frames to a table of slots in shared memory, and
`AcquireLppBuffer` takes the newest one from there instead of from `dirtyList_`. Whatever the call
reads from the table is decided by the other side at the moment of the read, so every read is an
argument of its own. `accesses` is not in the source: it records every index into `slot[]` and the
result of every `int32_t` addition on an offset. -/

namespace GraphicSurface

open Runs SlotPool BufferElement

inductive OHSurfaceSource
  | default
  | ui
  | game
  | camera
  | video
  | lowPowerVideo
deriving DecidableEq

def lppSlotSize : Int := 8

def maxLppSkipCount : Int := 10

def maxLppAcquireBufferSize : ℕ := 2

structure BufferSlot where
  seqId : ℕ
  timestamp : Int
deriving DecidableEq

/-- The copy that `AcquireLppBuffer` takes of the table. -/
structure LppSlotInfo where
  readOffset : Int32
  writeOffset : Int32
  slot : Fin 8 → BufferSlot

def LppSlotInfo.slotAt (s : LppSlotInfo) (index : Int) : BufferSlot :=
  s.slot (Fin.ofNat 8 index.toNat)

/-- What the reads of one `AcquireLppBuffer` return: the four of the check, the one from which the
offset is computed, and the copy. `unsignalled` says of which fences a `Wait(0)` fails. -/
structure LppReads where
  readOffset₁ : Int32
  readOffset₂ : Int32
  writeOffset₁ : Int32
  writeOffset₂ : Int32
  writeOffset : Int32
  slotInfo : LppSlotInfo
  unsignalled : SyncFence → Bool

inductive LppAccess
  | slot (index : Int)
  | sum (value : Int)
deriving DecidableEq

/-- The index is one of the table, the sum is an `int32_t`. -/
def LppAccess.Safe : LppAccess → Prop
  | slot index => 0 ≤ index ∧ index < lppSlotSize
  | sum value => -2 ^ 31 ≤ value ∧ value < 2 ^ 31

instance : DecidablePred LppAccess.Safe := fun a => by
  cases a <;> unfold LppAccess.Safe <;> infer_instance

/-- A queue with the members that `AcquireLppBuffer` and `SetLppShareFd` use. `lppSlotInfo` says
whether a table is mapped. -/
structure LppQueue where
  queue : BufferQueue
  sourceType : OHSurfaceSource := .default
  lppSlotInfo : Bool := false
  lppFenceMap : List ℕ := []
  lastLppWriteOffset : Int := -1
  lastLppWriteTimestamp : Int := -1
  isRsDrawLpp : Bool := false
  lppSkipCount : Int := 0
  lastRsToShbWriteOffset : Int := -1
  accesses : List LppAccess := []

def BufferElement.setLppAcquired (transform : Int) (e : BufferElement) : BufferElement :=
  { e with
    state := .acquired
    buffer := { e.buffer with surfaceBufferTransform := transform } }

theorem BufferElement.setLppAcquired_seqNum (transform : Int) (e : BufferElement) :
    (e.setLppAcquired transform).buffer.seqNum = e.buffer.seqNum := rfl

@[simp] theorem BufferElement.setLppAcquired_state (transform : Int) (e : BufferElement) :
    (e.setLppAcquired transform).state = .acquired := rfl

/-- `(offset + LPP_SLOT_SIZE - 1) % LPP_SLOT_SIZE`. -/
def previousSlot (offset : Int32) : Int := (offset.toInt + lppSlotSize - 1).tmod lppSlotSize

/-- The two additions in `previousSlot`. -/
def previousSlotSums (offset : Int32) : List LppAccess :=
  [.sum (offset.toInt + lppSlotSize), .sum (offset.toInt + lppSlotSize - 1)]

def LppReads.verified (r : LppReads) : Bool :=
  !(decide (r.readOffset₁.toInt < 0) || decide (lppSlotSize ≤ r.readOffset₂.toInt) ||
    decide (r.writeOffset₁.toInt < 0) || decide (lppSlotSize ≤ r.writeOffset₂.toInt))

namespace LppQueue

/-- The call goes on as long as what it touches is defined. -/
def touch (l : LppQueue) (as : List LppAccess)
    (next : LppQueue → Option AcquireReply × LppQueue) : Option AcquireReply × LppQueue :=
  let l := { l with accesses := l.accesses ++ as }
  if ∀ a ∈ as, a.Safe then next l else (none, l)

/-- The consumer may still read the buffer. -/
def isUnreleasableFence (l : LppQueue) (unsignalled : SyncFence → Bool) (seqId : ℕ) : Bool :=
  (l.queue.bufferQueueCache.find seqId).any fun e =>
    e.state == .acquired ||
      (e.state == .released && e.fence.any fun f => f.isValid && unsignalled f)

def checkLppFenceLocked (l : LppQueue) (unsignalled : SyncFence → Bool) : Bool × LppQueue :=
  if !l.lppSlotInfo then (false, { l with lppFenceMap := [] })
  else
    let left := l.lppFenceMap.filter (l.isUnreleasableFence unsignalled)
    (decide (left.length ≤ maxLppAcquireBufferSize), { l with lppFenceMap := left })

/-- The last frame that was written is the one of the last acquire. -/
def sameLppFrame (l : LppQueue) (s : LppSlotInfo) : Bool :=
  decide (0 ≤ l.lastLppWriteOffset ∧ l.lastLppWriteOffset < lppSlotSize) &&
    decide (s.writeOffset.toInt = l.lastLppWriteOffset) &&
    decide (s.readOffset.toInt = previousSlot s.writeOffset)

/-- `lppFenceMap_[seqId] = slot`. -/
def insertLppFence (l : LppQueue) (seqId : ℕ) : LppQueue :=
  if seqId ∈ l.lppFenceMap then l else { l with lppFenceMap := l.lppFenceMap ++ [seqId] }

/-- The end of `AcquireLppBuffer`, once the slot has been read. -/
def takeLppBuffer (l : LppQueue) (s : BufferSlot) : AcquireReply × LppQueue :=
  match l.queue.bufferQueueCache.find s.seqId with
  | none => (.error .noBuffer, l)
  | some e =>
    let ele := e.setLppAcquired l.queue.transform
    (⟨.ok, some ele.buffer, some invalidFence, s.timestamp,
        [⟨0, 0, e.buffer.width, e.buffer.height⟩]⟩,
      { l.insertLppFence s.seqId with
        queue := { l.queue with
          bufferQueueCache := l.queue.bufferQueueCache.modify s.seqId
            (setLppAcquired l.queue.transform) (setLppAcquired_seqNum _) } })

/-- From the write to `slot[readOffset].isRsUsing` on. -/
def takeLppSlot (l : LppQueue) (s : LppSlotInfo) (readOffset : Int) :
    Option AcquireReply × LppQueue :=
  l.touch [.slot readOffset, .slot readOffset] fun l =>
    let l := { l with lppSkipCount := 0, lastLppWriteOffset := s.writeOffset.toInt }
    l.touch [.slot l.lastLppWriteOffset] fun l =>
      let l := { l with lastLppWriteTimestamp := (s.slotAt l.lastLppWriteOffset).timestamp }
      l.touch [.slot readOffset] fun l =>
        Prod.map some id (l.takeLppBuffer (s.slotAt readOffset))

/-- From the copy of the table on. -/
def readLppSlotInfo (l : LppQueue) (s : LppSlotInfo) (readOffset : Int) :
    Option AcquireReply × LppQueue :=
  l.touch (previousSlotSums s.writeOffset) fun l =>
    if l.sameLppFrame s then
      l.touch [.slot l.lastLppWriteOffset] fun l =>
        if (s.slotAt l.lastLppWriteOffset).timestamp = l.lastLppWriteTimestamp then
          (some (.error .noBuffer), l)
        else l.takeLppSlot s readOffset
    else l.takeLppSlot s readOffset

/-- `AcquireLppBuffer`; there is no answer when the call touches something it must not. -/
def acquireLppBuffer (l : LppQueue) (r : LppReads) : Option AcquireReply × LppQueue :=
  if l.sourceType ≠ .lowPowerVideo ∨ l.lppSlotInfo = false then (some (.error .typeError), l)
  else if !r.verified then (some (.error .invalidArguments), l)
  else
    match l.checkLppFenceLocked r.unsignalled with
    | (false, l) => (some (.error .noBuffer), l)
    | (true, l) =>
      l.touch (previousSlotSums r.writeOffset) fun l =>
        let readOffset := previousSlot r.writeOffset
        if readOffset < 0 ∨ lppSlotSize ≤ readOffset then (some (.error .invalidArguments), l)
        else l.readLppSlotInfo r.slotInfo readOffset

/-- `FlushLppBuffer`: the acquired buffer goes through `FlushBuffer`. -/
def flushLppBuffer (l : LppQueue) (r : LppReads) (env : FlushEnv) : LppQueue :=
  match l.acquireLppBuffer r with
  | (some ⟨.ok, some buffer, _, timestamp, damages⟩, l) =>
    { l with queue := (l.queue.flushBuffer buffer.seqNum buffer.extraData invalidFence
        ⟨damages, timestamp, -1⟩ env).2 }
  | (_, l) => l

/-- `SetLppShareFd`; `mapped` is the success of `mmap`. -/
def setLppShareFd (l : LppQueue) (fd : Int) (state mapped : Bool) (r : LppReads) (env : FlushEnv) :
    GSError × LppQueue :=
  if state then
    if l.sourceType ≠ .lowPowerVideo then (.typeError, l)
    else if fd < 0 then (.invalidArguments, l)
    else
      let l := { l with lppFenceMap := [], lppSlotInfo := false }
      if !mapped then (.invalidArguments, l)
      else (.ok, ({ l with lppSlotInfo := true }.checkLppFenceLocked r.unsignalled).2)
  else
    let l := { l.flushLppBuffer r env with lppFenceMap := [], lppSlotInfo := false }
    (.ok, (l.checkLppFenceLocked r.unsignalled).2)

/-- `SetLppDrawSource`; `isStopShbDraw` is what the table says. -/
def setLppDrawSource (l : LppQueue) (isShbSource isRsSource isStopShbDraw : Bool)
    (unsignalled : SyncFence → Bool) : GSError × LppQueue :=
  if l.sourceType ≠ .lowPowerVideo ∨ l.lppSlotInfo = false then
    (.typeError, { l with isRsDrawLpp := false })
  else if maxLppSkipCount ≤ l.lppSkipCount then (.outOfRange, { l with isRsDrawLpp := false })
  else
    let l := { l with isRsDrawLpp := isRsSource }
    if !isShbSource then (.ok, { l with lastRsToShbWriteOffset := -1 })
    else if isStopShbDraw then
      (.noConsumer, { l with lastRsToShbWriteOffset := l.lastLppWriteOffset })
    else
      let shbFrameCount :=
        if l.lastRsToShbWriteOffset ≠ -1 then
          (l.lastLppWriteOffset - l.lastRsToShbWriteOffset + lppSlotSize).tmod lppSlotSize
        else 0
      if shbFrameCount ≤ maxLppAcquireBufferSize then (.noConsumer, l)
      else (.ok, ({ l with lppFenceMap := [] }.checkLppFenceLocked unsignalled).2)

variable {l l' : LppQueue} {P Q : Prop}

/-- What was touched on the way from `l` to `l'` was all safe exactly when `P` holds. -/
def Touches (l l' : LppQueue) (P : Prop) : Prop :=
  ∃ new, l'.accesses = l.accesses ++ new ∧ ((∀ a ∈ new, a.Safe) ↔ P)

namespace Touches

theorem of_accesses (h : l'.accesses = l.accesses) (hP : P) : l.Touches l' P :=
  ⟨[], by simp [h], by simp [hP]⟩

theorem congr (h : l.Touches l' P) (hiff : P ↔ Q) : l.Touches l' Q := by
  obtain ⟨new, hnew, hsafe⟩ := h
  exact ⟨new, hnew, hsafe.trans hiff⟩

theorem touch {as : List LppAccess} {next : LppQueue → Option AcquireReply × LppQueue}
    (h : (∀ a ∈ as, a.Safe) → Touches { l with accesses := l.accesses ++ as }
      (next { l with accesses := l.accesses ++ as }).2 P) :
    l.Touches (l.touch as next).2 ((∀ a ∈ as, a.Safe) ∧ P) := by
  unfold LppQueue.touch
  dsimp only
  split_ifs with hsafe
  · obtain ⟨new, hnew, hiff⟩ := h hsafe
    refine ⟨as ++ new, by rw [hnew, List.append_assoc], ?_⟩
    rw [List.forall_mem_append, hiff]
  · exact ⟨as, rfl, by simp [hsafe]⟩

/-- The accesses before the call being safe, those after it are exactly when `P` holds. -/
theorem all_safe_iff (h : l.Touches l' P) (hsafe : ∀ a ∈ l.accesses, a.Safe) :
    (∀ a ∈ l'.accesses, a.Safe) ↔ P := by
  obtain ⟨new, hnew, hiff⟩ := h
  rw [hnew, List.forall_mem_append, hiff]
  exact and_iff_right hsafe

end Touches

theorem previousSlot_lt (offset : Int32) : previousSlot offset < lppSlotSize :=
  Int.tmod_lt_of_pos _ (by decide)

/-- Only an offset close to the largest `int32_t` makes the additions overflow. -/
theorem previousSlotSums_safe_iff (offset : Int32) :
    (∀ a ∈ previousSlotSums offset, a.Safe) ↔ offset.toInt + lppSlotSize < 2 ^ 31 := by
  have hlow := offset.le_toInt
  simp only [previousSlotSums, List.forall_mem_cons, LppAccess.Safe, lppSlotSize]
  constructor
  · rintro ⟨⟨-, hlt⟩, -⟩
    exact hlt
  · intro hlt
    refine ⟨⟨?_, hlt⟩, ⟨?_, ?_⟩, by simp⟩ <;> omega

@[simp] theorem checkLppFenceLocked_accesses (l : LppQueue) (unsignalled : SyncFence → Bool) :
    (l.checkLppFenceLocked unsignalled).2.accesses = l.accesses := by
  unfold checkLppFenceLocked
  split <;> rfl

@[simp] theorem takeLppBuffer_accesses (l : LppQueue) (s : BufferSlot) :
    (l.takeLppBuffer s).2.accesses = l.accesses := by
  unfold takeLppBuffer insertLppFence
  split
  · rfl
  · dsimp only
    split <;> rfl

theorem takeLppSlot_touches (l : LppQueue) (s : LppSlotInfo) {readOffset : Int}
    (hread : 0 ≤ readOffset ∧ readOffset < lppSlotSize) :
    l.Touches (l.takeLppSlot s readOffset).2
      (0 ≤ s.writeOffset.toInt ∧ s.writeOffset.toInt < lppSlotSize) := by
  have hslot : ∀ a ∈ [LppAccess.slot readOffset], a.Safe := by simpa [LppAccess.Safe] using hread
  have hslots : ∀ a ∈ [LppAccess.slot readOffset, .slot readOffset], a.Safe := by
    simpa [LppAccess.Safe] using hread
  have hlast : (∀ a ∈ [LppAccess.slot s.writeOffset.toInt], a.Safe) ↔
      0 ≤ s.writeOffset.toInt ∧ s.writeOffset.toInt < lppSlotSize := by
    simp [LppAccess.Safe]
  unfold takeLppSlot
  refine Touches.congr (.touch fun _ => .touch fun _ => .touch fun _ =>
    .of_accesses (takeLppBuffer_accesses _ _) trivial) ?_
  rw [hlast]
  tauto

theorem readLppSlotInfo_touches (l : LppQueue) (s : LppSlotInfo) {readOffset : Int}
    (hread : 0 ≤ readOffset ∧ readOffset < lppSlotSize) :
    l.Touches (l.readLppSlotInfo s readOffset).2
      (0 ≤ s.writeOffset.toInt ∧ s.writeOffset.toInt < lppSlotSize) := by
  have hsums : 0 ≤ s.writeOffset.toInt ∧ s.writeOffset.toInt < lppSlotSize →
      ∀ a ∈ previousSlotSums s.writeOffset, a.Safe := by
    intro hrange
    rw [previousSlotSums_safe_iff]
    unfold lppSlotSize at hrange ⊢
    omega
  unfold readLppSlotInfo
  refine Touches.congr (.touch (P := 0 ≤ s.writeOffset.toInt ∧ s.writeOffset.toInt < lppSlotSize)
    fun _ => ?_) (and_iff_right_of_imp hsums)
  split
  · rename_i hsame
    -- the offset is the last one, which was found to be an index
    have hrange : 0 ≤ s.writeOffset.toInt ∧ s.writeOffset.toInt < lppSlotSize := by
      simp only [sameLppFrame, Bool.and_eq_true, decide_eq_true_eq] at hsame
      rw [hsame.1.2]
      exact hsame.1.1
    have hlast : ∀ a ∈ [LppAccess.slot l.lastLppWriteOffset], a.Safe := by
      simp only [sameLppFrame, Bool.and_eq_true, decide_eq_true_eq] at hsame
      simpa [LppAccess.Safe] using hsame.1.1
    refine Touches.congr (.touch (P := 0 ≤ s.writeOffset.toInt ∧ s.writeOffset.toInt < lppSlotSize)
      fun _ => ?_) (and_iff_right hlast)
    split
    · exact .of_accesses rfl hrange
    · exact takeLppSlot_touches _ s hread
  · exact takeLppSlot_touches _ s hread

def reachesOffset (l : LppQueue) (r : LppReads) : Bool :=
  decide (l.sourceType = .lowPowerVideo) && l.lppSlotInfo && r.verified &&
    (l.checkLppFenceLocked r.unsignalled).1

/-- The offset that is read again is still too small to overflow, and the one in the copy is
still an index. -/
def OffsetsStay (l : LppQueue) (r : LppReads) : Prop :=
  l.reachesOffset r = true →
    r.writeOffset.toInt + lppSlotSize < 2 ^ 31 ∧
      (0 ≤ previousSlot r.writeOffset →
        0 ≤ r.slotInfo.writeOffset.toInt ∧ r.slotInfo.writeOffset.toInt < lppSlotSize)

theorem acquireLppBuffer_touches (l : LppQueue) (r : LppReads) :
    l.Touches (l.acquireLppBuffer r).2 (l.OffsetsStay r) := by
  have hquiet (hnot : l.reachesOffset r = false) : l.OffsetsStay r := by
    intro hreach
    rw [hnot] at hreach
    cases hreach
  unfold acquireLppBuffer
  split
  · rename_i hsource
    refine .of_accesses rfl (hquiet ?_)
    rcases hsource with hsource | hsource <;> simp [reachesOffset, hsource]
  · rename_i hsource
    rw [not_or, not_not, Bool.not_eq_false] at hsource
    split
    · rename_i hverified
      exact .of_accesses rfl (hquiet (by simp_all [reachesOffset]))
    · rename_i hverified
      have hsame := checkLppFenceLocked_accesses l r.unsignalled
      split
      · rename_i l₁ hcheck
        rw [hcheck] at hsame
        exact .of_accesses hsame (hquiet (by simp [reachesOffset, hcheck]))
      · rename_i l₁ hcheck
        rw [hcheck] at hsame
        have hreach : l.reachesOffset r = true := by simp_all [reachesOffset]
        have htouch : l₁.Touches (l₁.touch (previousSlotSums r.writeOffset) fun l =>
            let readOffset := previousSlot r.writeOffset
            if readOffset < 0 ∨ lppSlotSize ≤ readOffset then (some (.error .invalidArguments), l)
            else l.readLppSlotInfo r.slotInfo readOffset).2
            ((∀ a ∈ previousSlotSums r.writeOffset, a.Safe) ∧ (0 ≤ previousSlot r.writeOffset →
              0 ≤ r.slotInfo.writeOffset.toInt ∧ r.slotInfo.writeOffset.toInt < lppSlotSize)) := by
          refine .touch fun _ => ?_
          have hlt := previousSlot_lt r.writeOffset
          dsimp only
          split
          · rename_i hrange
            exact .of_accesses rfl fun hge => by omega
          · rename_i hrange
            exact Touches.congr (readLppSlotInfo_touches _ r.slotInfo (by omega))
              ⟨fun h _ => h, fun h => h (by omega)⟩
        obtain ⟨new, hnew, hiff⟩ := htouch
        refine ⟨new, by rw [hnew, hsame], ?_⟩
        rw [hiff, previousSlotSums_safe_iff]
        exact ⟨fun h _ => h, fun h => h hreach⟩

def start (s : QueueSettings) : LppQueue := { queue := BufferQueue.start s }

end LppQueue

inductive LppOp
  | queue (op : Op)
  | setSurfaceSourceType (sourceType : OHSurfaceSource)
  | acquireLppBuffer (r : LppReads)
  | setLppShareFd (fd : Int) (state mapped : Bool) (r : LppReads) (env : FlushEnv)
  | setLppDrawSource (isShbSource isRsSource isStopShbDraw : Bool)
      (unsignalled : SyncFence → Bool)

namespace LppOp

def next (l : LppQueue) : LppOp → LppQueue
  | queue op => { l with queue := (op.run l.queue).2 }
  | setSurfaceSourceType sourceType => { l with sourceType := sourceType }
  | acquireLppBuffer r => (l.acquireLppBuffer r).2
  | setLppShareFd fd state mapped r env => (l.setLppShareFd fd state mapped r env).2
  | setLppDrawSource isShbSource isRsSource isStopShbDraw unsignalled =>
    (l.setLppDrawSource isShbSource isRsSource isStopShbDraw unsignalled).2

def Fresh (l : LppQueue) : LppOp → Prop
  | queue op => op.Fresh l.queue
  | _ => True

instance (l : LppQueue) (op : LppOp) : Decidable (op.Fresh l) := by
  cases op <;> unfold LppOp.Fresh <;> infer_instance

/-- What an operation reads in its `AcquireLppBuffer`, when it calls it. -/
def reads : LppOp → Option LppReads
  | acquireLppBuffer r => some r
  | setLppShareFd _ state _ r _ => if state then none else some r
  | _ => none

/-- The reads of the operation leave the offsets as they were checked. -/
def OffsetsStay (l : LppQueue) (op : LppOp) : Prop :=
  ∀ r ∈ op.reads, l.OffsetsStay r

end LppOp

def LppStep (l : LppQueue) (op : LppOp) (l' : LppQueue) : Prop :=
  op.Fresh l ∧ l' = op.next l ∧ l'.queue.fault = false

theorem LppOp.next_touches (l : LppQueue) (op : LppOp) :
    l.Touches (op.next l) (op.OffsetsStay l) := by
  have hnone {op : LppOp} (hreads : op.reads = none) : op.OffsetsStay l := by
    simp [LppOp.OffsetsStay, hreads]
  cases op with
  | queue op => exact .of_accesses rfl (hnone rfl)
  | setSurfaceSourceType sourceType => exact .of_accesses rfl (hnone rfl)
  | acquireLppBuffer r =>
    refine (l.acquireLppBuffer_touches r).congr ?_
    simp [LppOp.OffsetsStay, LppOp.reads]
  | setLppShareFd fd state mapped r env =>
    cases state with
    | true =>
      refine .of_accesses ?_ (hnone rfl)
      simp only [LppOp.next, LppQueue.setLppShareFd, if_true]
      split_ifs <;> simp
    | false =>
      obtain ⟨new, hnew, hiff⟩ := l.acquireLppBuffer_touches r
      refine ⟨new, ?_, hiff.trans (by simp [LppOp.OffsetsStay, LppOp.reads])⟩
      simp only [LppOp.next, LppQueue.setLppShareFd, Bool.false_eq_true, if_false,
        LppQueue.checkLppFenceLocked_accesses, LppQueue.flushLppBuffer]
      rw [← hnew]
      split <;> simp_all
  | setLppDrawSource isShbSource isRsSource isStopShbDraw unsignalled =>
    refine .of_accesses ?_ (hnone rfl)
    simp only [LppOp.next, LppQueue.setLppDrawSource]
    split_ifs <;> simp

/-- In a run in which the other side leaves the offsets as they were checked, every index is one
of the table and no addition overflows; and the next operation goes wrong exactly when they are
changed under it. -/
theorem lpp_accesses_safe {s : QueueSettings} {ops : List LppOp} {l : LppQueue}
    (run : Run (restrict LppStep fun l op => op.OffsetsStay l) (LppQueue.start s) ops l) :
    (∀ a ∈ l.accesses, a.Safe) ∧
      ∀ op l', LppStep l op l' → ((∀ a ∈ l'.accesses, a.Safe) ↔ op.OffsetsStay l) := by
  have hsafe : ∀ a ∈ l.accesses, a.Safe := by
    induction run with
    | nil => simp [LppQueue.start]
    | @snoc _ l _ op _ last ih =>
      obtain ⟨⟨-, rfl, -⟩, hok⟩ := last
      exact ((op.next_touches l).all_safe_iff ih).mpr hok
  refine ⟨hsafe, ?_⟩
  rintro op l' ⟨-, rfl, -⟩
  exact (op.next_touches l).all_safe_iff hsafe

def oneSlotTable : LppSlotInfo := ⟨0, 1, fun _ => ⟨1, 5⟩⟩

def quietReads : LppReads := ⟨0, 0, 1, 1, 1, oneSlotTable, fun _ => false⟩

def oneLppBuffer : List LppOp :=
  [.setSurfaceSourceType .lowPowerVideo, .setLppShareFd 3 true true quietReads ⟨.ok, 0⟩,
    .queue (.requestBuffer sampleConfig ⟨1, 1, true, true⟩)]

instance (l : LppQueue) (op : LppOp) : Decidable (op.OffsetsStay l) :=
  match h : op.reads with
  | none => .isTrue (by simp [LppOp.OffsetsStay, h])
  | some r =>
    decidable_of_iff (l.reachesOffset r = true →
      r.writeOffset.toInt + lppSlotSize < 2 ^ 31 ∧
        (0 ≤ previousSlot r.writeOffset →
          0 ≤ r.slotInfo.writeOffset.toInt ∧ r.slotInfo.writeOffset.toInt < lppSlotSize))
      (by simp [LppOp.OffsetsStay, LppQueue.OffsetsStay, h])

theorem lpp_accesses_safe_oneLppBuffer :
    ∃ l, Run (restrict LppStep fun l op => op.OffsetsStay l) (LppQueue.start { listener := true })
        (oneLppBuffer ++ [.acquireLppBuffer quietReads]) l ∧
      l.accesses.length = 8 ∧ ∀ a ∈ l.accesses, a.Safe := by
  have legal : Legal (fun l op => LppOp.next l op)
      (fun l op => (op.Fresh l ∧ (op.next l).queue.fault = false) ∧ op.OffsetsStay l)
      (LppQueue.start { listener := true }) (oneLppBuffer ++ [.acquireLppBuffer quietReads]) := by
    decide
  have run : Run (restrict LppStep fun l op => op.OffsetsStay l)
      (LppQueue.start { listener := true }) (oneLppBuffer ++ [.acquireLppBuffer quietReads]) _ :=
    .of_legal (fun _ _ h => ⟨⟨h.1.1, rfl, h.1.2⟩, h.2⟩) legal
  exact ⟨_, run, by decide, (lpp_accesses_safe run).1⟩

def movedReads : LppReads :=
  { quietReads with slotInfo := { oneSlotTable with writeOffset := 8 } }

theorem lpp_index_out_of_range :
    ¬ ∀ (s : QueueSettings) (ops : List LppOp) (l : LppQueue),
      Run LppStep (LppQueue.start s) ops l → ∀ a ∈ l.accesses, a.Safe := by
  intro h
  have legal : Legal (fun l op => LppOp.next l op)
      (fun l op => op.Fresh l ∧ (op.next l).queue.fault = false)
      (LppQueue.start { listener := true }) (oneLppBuffer ++ [.acquireLppBuffer movedReads]) := by
    decide
  have hbad := h _ _ _ (.of_legal (fun _ _ h => ⟨h.1, rfl, h.2⟩) legal)
  exact absurd (hbad (.slot 8) (by decide)) (by decide)

end GraphicSurface
