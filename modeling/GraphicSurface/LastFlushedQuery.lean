import GraphicSurface.Agreement
import GraphicSurface.TextureMatrix

/-! `GetLastFlushedBuffer`: the buffer that was flushed last, its fence and its texture matrix. The
matrix is computed with `lastFlushedTransform_` passed by reference. -/

namespace GraphicSurface

open Runs SurfaceUtils

/-- What the call returns and writes to its arguments. -/
structure LastFlushedReply (R : Type*) where
  ret : GSError
  buffer : Option SurfaceBuffer
  fence : Option SyncFence
  matrix : Option (MatrixArray R)

namespace BufferQueue

section Query

variable (R : Type*) [Zero R] [One R] [Neg R] [Add R] [Sub R] [Mul R] [Div R] [IntCast R] [LT R]
  [DecidableLT R]

def getLastFlushedBuffer (q : BufferQueue) (isUseNewMatrix needRecordSequence : Bool) :
    LastFlushedReply R × BufferQueue :=
  if needRecordSequence ∧ q.acquireLastFlushedBufSequence ≠ invalidSequence then
    (⟨.bufferStateInvalid, none, none, none⟩, q)
  else
    match q.bufferQueueCache.find q.lastFlusedSequence with
    | none => (⟨.internal, none, none, none⟩, q)
    | some ele =>
      if ele.state = .requested then (⟨.bufferStateInvalid, none, none, none⟩, q)
      else if ele.buffer.usage &&& bufferUsageProtected ≠ 0 then
        (⟨.notSupport, some ele.buffer, none, none⟩, q)
      else
        let damage : Rect := ⟨0, 0, ele.buffer.width, ele.buffer.height⟩
        let (matrix, lastFlushedTransform) : MatrixArray R × Int :=
          if isUseNewMatrix then
            computeTransformMatrixV2 ele.buffer.width ele.buffer.height q.lastFlushedTransform damage
          else computeTransformMatrix ele.buffer.width ele.buffer.height q.lastFlushedTransform damage
        let q := { q with lastFlushedTransform := lastFlushedTransform }
        (⟨.ok, some ele.buffer, q.lastFlusedFence, some matrix⟩,
          if needRecordSequence then { q with acquireLastFlushedBufSequence := q.lastFlusedSequence }
          else q)

/-- Calls of the query one after the other, each with the old or the new matrix. -/
def queryAll (q : BufferQueue) : List Bool → List (LastFlushedReply R) × BufferQueue
  | [] => ([], q)
  | isUseNewMatrix :: rest =>
    let (reply, q) := q.getLastFlushedBuffer R isUseNewMatrix false
    let (replies, q) := q.queryAll rest
    (reply :: replies, q)

/-- Each of the calls leaves the queue as it is, and answers as it would have answered first. -/
def QueriesPurely (q : BufferQueue) (calls : List Bool) : Prop :=
  ∀ n, q.queryAll R (calls.take n) =
    ((calls.take n).map fun isUseNewMatrix =>
      (q.getLastFlushedBuffer R isUseNewMatrix false).1, q)

/-- The buffer that was flushed last can be read, and its transform is a rotation by a right angle
to one side. -/
def turnsOnQuery (q : BufferQueue) : Bool :=
  ((q.bufferQueueCache.find q.lastFlusedSequence).any fun ele =>
    ele.state != .requested && ele.buffer.usage &&& bufferUsageProtected == 0) &&
    (q.lastFlushedTransform == graphicRotate90 || q.lastFlushedTransform == graphicRotate270)

variable {R}

theorem getLastFlushedBuffer_state (q : BufferQueue) (isUseNewMatrix : Bool) :
    (q.getLastFlushedBuffer R isUseNewMatrix false).2 =
      if isUseNewMatrix && q.turnsOnQuery then
        { q with lastFlushedTransform := swapRotations q.lastFlushedTransform }
      else q := by
  have hsame (h : ¬ (q.lastFlushedTransform = graphicRotate90 ∨
      q.lastFlushedTransform = graphicRotate270)) :
      { q with lastFlushedTransform := swapRotations q.lastFlushedTransform } = q := by
    rw [swapRotations_eq_iff.mpr (not_or.mp h)]
  unfold getLastFlushedBuffer turnsOnQuery
  simp only [Bool.false_eq_true, false_and, if_false]
  cases hfind : q.bufferQueueCache.find q.lastFlusedSequence with
  | none => simp
  | some ele =>
    by_cases hrequested : ele.state = .requested
    · simp [hrequested]
    · by_cases hprotected : ele.buffer.usage &&& bufferUsageProtected = 0
      · cases isUseNewMatrix with
        | false => simp [hrequested, hprotected, computeTransformMatrix]
        | true =>
          by_cases hturn : q.lastFlushedTransform = graphicRotate90 ∨
              q.lastFlushedTransform = graphicRotate270
          · simp [hrequested, hprotected, computeTransformMatrixV2, hturn]
          · simp [hrequested, hprotected, computeTransformMatrixV2, hturn, hsame hturn]
      · simp [hrequested, hprotected]

theorem getLastFlushedBuffer_unchanged_iff (q : BufferQueue) (isUseNewMatrix : Bool) :
    (q.getLastFlushedBuffer R isUseNewMatrix false).2 = q ↔
      (isUseNewMatrix = true → q.turnsOnQuery = false) := by
  rw [getLastFlushedBuffer_state]
  cases isUseNewMatrix with
  | false => simp
  | true =>
    cases hturns : q.turnsOnQuery with
    | false => simp
    | true =>
      simp only [turnsOnQuery, Bool.and_eq_true, Bool.or_eq_true, beq_iff_eq] at hturns
      simp only [Bool.and_self, if_true, true_implies, Bool.true_eq_false, iff_false]
      intro hsame
      have htransform := congrArg lastFlushedTransform hsame
      obtain ⟨hnot90, hnot270⟩ := swapRotations_eq_iff.mp htransform
      exact hturns.2.elim hnot90 hnot270

theorem queriesPurely_cons (q : BufferQueue) (isUseNewMatrix : Bool) (rest : List Bool) :
    q.QueriesPurely R (isUseNewMatrix :: rest) ↔
      (q.getLastFlushedBuffer R isUseNewMatrix false).2 = q ∧ q.QueriesPurely R rest := by
  constructor
  · intro h
    have hfirst : (q.getLastFlushedBuffer R isUseNewMatrix false).2 = q :=
      congrArg Prod.snd (h 1)
    refine ⟨hfirst, fun n => ?_⟩
    have hnext := h (n + 1)
    rw [List.take_succ_cons, List.map_cons, queryAll] at hnext
    dsimp only at hnext
    rw [hfirst, Prod.mk.injEq, List.cons.injEq] at hnext
    exact Prod.ext hnext.1.2 hnext.2
  · rintro ⟨hfirst, hrest⟩ n
    cases n with
    | zero => rfl
    | succ n =>
      rw [List.take_succ_cons, List.map_cons, queryAll]
      dsimp only
      rw [hfirst, hrest n]

/-- The calls are pure exactly when none uses the new matrix, or no buffer can be read, or the one
that was flushed last was not turned by a right angle. -/
theorem queriesPurely_iff (q : BufferQueue) (calls : List Bool) :
    q.QueriesPurely R calls ↔ (true ∈ calls → q.turnsOnQuery = false) := by
  induction calls with
  | nil => simp [QueriesPurely, queryAll]
  | cons isUseNewMatrix rest ih =>
    rw [queriesPurely_cons, getLastFlushedBuffer_unchanged_iff, ih, List.mem_cons]
    cases isUseNewMatrix with
    | false => simp
    | true => simp; tauto

end Query

end BufferQueue

def flushedTurned : List Op :=
  [.configure (.setTransform graphicRotate90), .requestBuffer sampleConfig ⟨1, 1, true, true⟩,
    .flushBuffer ⟨1, some ∅, invalidFence, ⟨[], 0, 0⟩, ⟨.ok, 0⟩⟩]

/-- The first query with the new matrix leaves the opposite rotation behind. -/
theorem query_turns_transform :
    ¬ ∀ (q : BufferQueue) (calls : List Bool), Reachable q → q.QueriesPurely ℚ calls := by
  intro h
  have hpure := h _ [true] (Reachable.of_legal
    (show Legal _ _ (BufferQueue.start { listener := true }) flushedTurned by decide)) 1
  have htransform := congrArg (fun r => r.2.lastFlushedTransform) hpure
  exact absurd htransform (by decide)

end GraphicSurface
