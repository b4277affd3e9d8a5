import GraphicSurface.RequestOutcome
import GraphicSurface.ReservedSlots

/-! The calls of `ConsumerSurface` that do more than pass on: `AcquireBuffer` for a single damage, and
the attach and detach, which write a flag of the caller's object before the queue is asked. -/

namespace GraphicSurface

open Runs

/-- `fence` is an object or a descriptor. A parameter that is not written keeps the caller's value. -/
structure SingleAcquireReply (F : Type) where
  ret : GSError
  buffer : Option SurfaceBuffer
  fence : F
  timestamp : Int
  damage : Rect
deriving DecidableEq

namespace BufferQueue

/-- `AcquireBuffer` with one rectangle. -/
def acquireBufferSingle (q : BufferQueue) (now : Int) (damage : Rect) :
    SingleAcquireReply (Option SyncFence) × BufferQueue :=
  match q.acquireBuffer now with
  | (reply, q) =>
    if reply.ret ≠ .ok then (⟨reply.ret, reply.buffer, reply.fence, reply.timestamp, damage⟩, q)
    else
      match reply.damages with
      | [only] => (⟨.ok, reply.buffer, reply.fence, reply.timestamp, only⟩, q)
      | _ => (⟨.invalidArguments, reply.buffer, reply.fence, reply.timestamp, damage⟩, q)

/-- The same with a descriptor for the fence; `dupFd` is what `Dup` of the fence gives. -/
def acquireBufferSingleFd (q : BufferQueue) (now : Int) (damage : Rect) (dupFd : Int) :
    SingleAcquireReply Int × BufferQueue :=
  match q.acquireBufferSingle now damage with
  | (reply, q) =>
    if reply.ret ≠ .ok then (⟨reply.ret, reply.buffer, -1, reply.timestamp, reply.damage⟩, q)
    else
      (⟨.ok, reply.buffer, dupFd, reply.timestamp, reply.damage⟩,
        { q with fault := q.fault || reply.fence.isNone })

/-- The queue is the same, and the frame at its front is pending there for the vector variant. -/
structure KeepsFront (q q' : BufferQueue) : Prop where
  queue : q' = q
  front : ∀ sequence rest, q.dirtyList = sequence :: rest → q'.dirtyList = sequence :: rest ∧
    ∃ e, q'.bufferQueueCache.find sequence = some e ∧ e.state = .flushed ∧
      ∀ now, (q'.acquireBuffer now).1.ret = .ok ∧ (q'.acquireBuffer now).1.buffer = some e.buffer

def FrontHasOneDamage (q : BufferQueue) : Prop :=
  ∀ sequence rest e, q.dirtyList = sequence :: rest → q.bufferQueueCache.find sequence = some e →
    e.damages.length = 1

variable {q : BufferQueue} {sequence : ℕ} {rest : List ℕ} {e : BufferElement}

theorem acquireBuffer_of_empty (h : q.dirtyList = []) (now : Int) :
    q.acquireBuffer now = (.error .noBuffer, q) := by
  simp [acquireBuffer, popFromDirtyListLocked, h]

theorem acquireBuffer_of_front (hdirty : q.dirtyList = sequence :: rest)
    (he : q.bufferQueueCache.find sequence = some e) (now : Int) :
    q.acquireBuffer now = (⟨.ok, some e.buffer, e.fence, e.timestamp, e.damages⟩,
      { q with dirtyList := rest }.markAcquired sequence now) := by
  simp [acquireBuffer, popFromDirtyListLocked, hdirty, he, BufferCache.seqNum_of_find he]

theorem keepsFront_refl (h : q.Agrees) : KeepsFront q q := by
  refine ⟨rfl, fun sequence rest hdirty => ⟨hdirty, ?_⟩⟩
  obtain ⟨e, he, hstate⟩ := h.state_of_mem_dirty (k := sequence) (by simp [hdirty])
  refine ⟨e, he, hstate, fun now => ?_⟩
  rw [acquireBuffer_of_front hdirty he]
  exact ⟨rfl, rfl⟩

theorem acquireBufferSingle_queue (q : BufferQueue) (now : Int) (damage : Rect) :
    (q.acquireBufferSingle now damage).2 = (q.acquireBuffer now).2 := by
  unfold acquireBufferSingle
  dsimp only
  split_ifs
  · rfl
  · split <;> rfl

theorem acquireBufferSingle_of_front (hdirty : q.dirtyList = sequence :: rest)
    (he : q.bufferQueueCache.find sequence = some e) (now : Int) (damage : Rect) :
    (q.acquireBufferSingle now damage).1.ret =
      if e.damages.length = 1 then .ok else .invalidArguments := by
  unfold acquireBufferSingle
  rw [acquireBuffer_of_front hdirty he]
  dsimp only
  rw [if_neg (not_not.mpr rfl)]
  split
  · rename_i only honly
    rw [honly]
    rfl
  · rename_i hmany
    rw [if_neg fun hlength => ?_]
    obtain ⟨only, honly⟩ := List.length_eq_one_iff.mp hlength
    exact hmany only honly

theorem acquireBufferSingle_takes (hdirty : q.dirtyList = sequence :: rest)
    (he : q.bufferQueueCache.find sequence = some e) (now : Int) (damage : Rect) :
    (q.acquireBufferSingle now damage).2.dirtyList = rest := by
  rw [acquireBufferSingle_queue, acquireBuffer_of_front hdirty he]
  rfl

theorem acquireBufferSingle_keepsFront (h : q.Agrees) (now : Int) (damage : Rect) :
    ((q.acquireBufferSingle now damage).1.ret ≠ .ok →
      KeepsFront q (q.acquireBufferSingle now damage).2) ↔ q.FrontHasOneDamage := by
  cases hdirty : q.dirtyList with
  | nil =>
    have hqueue : (q.acquireBufferSingle now damage).2 = q := by
      rw [acquireBufferSingle_queue, acquireBuffer_of_empty hdirty]
    refine iff_of_true (fun _ => ?_) fun sequence rest e hcons => ?_
    · rw [hqueue]
      exact keepsFront_refl h
    · rw [hdirty] at hcons
      cases hcons
  | cons sequence rest =>
    obtain ⟨e, he, -⟩ := h.state_of_mem_dirty (k := sequence) (by simp [hdirty])
    have hcondition : q.FrontHasOneDamage ↔ e.damages.length = 1 := by
      refine ⟨fun hone => hone sequence rest e hdirty he, fun hone sequence' rest' e' hcons he' => ?_⟩
      obtain ⟨rfl, rfl⟩ := List.cons.inj (hdirty.symm.trans hcons)
      rw [he] at he'
      rw [← Option.some.inj he']
      exact hone
    rw [hcondition, acquireBufferSingle_of_front hdirty he]
    split_ifs with hone
    · exact iff_of_true (fun hret => absurd rfl hret) hone
    · refine iff_of_false (fun hkeeps => ?_) hone
      have hsame := congrArg BufferQueue.dirtyList (hkeeps nofun).queue
      rw [acquireBufferSingle_takes hdirty he, hdirty] at hsame
      exact List.cons_ne_self _ _ hsame.symm

theorem acquireBufferSingleFd_error (q : BufferQueue) (now : Int) (damage : Rect) (dupFd : Int) :
    (q.acquireBufferSingleFd now damage dupFd).1.ret = (q.acquireBufferSingle now damage).1.ret ∧
      ((q.acquireBufferSingle now damage).1.ret ≠ .ok →
        (q.acquireBufferSingleFd now damage dupFd).2 = (q.acquireBufferSingle now damage).2) := by
  unfold acquireBufferSingleFd
  dsimp only
  split_ifs with hret
  · exact ⟨rfl, fun _ => rfl⟩
  · exact ⟨(not_not.mp hret).symm, fun h => absurd h hret⟩

/-- In a reachable queue a failing acquire for one damage leaves the frame where it is exactly when
the first frame, if there is one, was flushed with one damage. -/
theorem acquireBufferSingle_spares_iff (hq : Reachable q) (now : Int) (damage : Rect) (dupFd : Int) :
    (((q.acquireBufferSingle now damage).1.ret ≠ .ok →
        KeepsFront q (q.acquireBufferSingle now damage).2) ↔ q.FrontHasOneDamage) ∧
      (((q.acquireBufferSingleFd now damage dupFd).1.ret ≠ .ok →
        KeepsFront q (q.acquireBufferSingleFd now damage dupFd).2) ↔ q.FrontHasOneDamage) := by
  have hobject := acquireBufferSingle_keepsFront hq.agrees now damage
  obtain ⟨hret, hqueue⟩ := q.acquireBufferSingleFd_error now damage dupFd
  refine ⟨hobject, Iff.trans ?_ hobject⟩
  rw [hret]
  exact imp_congr_right fun hne => by rw [hqueue hne]

end BufferQueue

def flushedWith (damages : List Rect) : List Op :=
  [.requestBuffer sampleConfig ⟨1, 1, true, true⟩,
    .flushBuffer ⟨1, some ∅, invalidFence, ⟨damages, 0, 0⟩, ⟨.ok, 0⟩⟩]

theorem reachable_flushedOnce :
    Reachable (execute Op.next (BufferQueue.start { listener := true })
      (flushedWith [⟨0, 0, 10, 10⟩])) :=
  Reachable.of_legal (show Legal _ _ (BufferQueue.start { listener := true })
    (flushedWith [⟨0, 0, 10, 10⟩]) by decide)

theorem reachable_flushedTwice :
    Reachable (execute Op.next (BufferQueue.start { listener := true })
      (flushedWith [⟨0, 0, 5, 5⟩, ⟨5, 5, 5, 5⟩])) :=
  Reachable.of_legal (show Legal _ _ (BufferQueue.start { listener := true })
    (flushedWith [⟨0, 0, 5, 5⟩, ⟨5, 5, 5, 5⟩]) by decide)

theorem acquireBufferSingle_spares_once :
    ∃ q, Reachable q ∧ q.dirtyList = [1] ∧ ∀ now damage,
      (q.acquireBufferSingle now damage).1.ret ≠ .ok →
        BufferQueue.KeepsFront q (q.acquireBufferSingle now damage).2 := by
  refine ⟨_, reachable_flushedOnce, by decide, fun now damage => ?_⟩
  refine (BufferQueue.acquireBufferSingle_spares_iff reachable_flushedOnce now damage 0).1.mpr ?_
  intro sequence rest e hdirty he
  obtain ⟨rfl, -⟩ := List.cons.inj hdirty.symm
  obtain rfl := Option.some.inj he
  decide

/-- With two damages the call fails, and the frame has been acquired all the same. -/
theorem acquireBufferSingle_takes_frame :
    ¬ ∀ (q : BufferQueue) (now : Int) (damage : Rect), Reachable q →
      (q.acquireBufferSingle now damage).1.ret ≠ .ok →
        BufferQueue.KeepsFront q (q.acquireBufferSingle now damage).2 := by
  intro h
  have hkeeps := h _ 0 ⟨0, 0, 0, 0⟩ reachable_flushedTwice (by decide)
  exact absurd (congrArg BufferQueue.dirtyList hkeeps.queue) (by decide)

/-! The attach and the detach. Objects are told apart by `object`; the caller and the queue may hold
the same one. -/

def SurfaceBuffer.setConsumerAttachBufferFlag (value : Bool) (buffer : SurfaceBuffer) :
    SurfaceBuffer := { buffer with consumerAttachBufferFlag := value }

def BufferElement.setConsumerAttachBufferFlag (object : ℕ) (value : Bool) (e : BufferElement) :
    BufferElement :=
  if e.buffer.object = object then { e with buffer := e.buffer.setConsumerAttachBufferFlag value }
  else e

theorem BufferElement.setConsumerAttachBufferFlag_seqNum (object : ℕ) (value : Bool)
    (e : BufferElement) :
    (e.setConsumerAttachBufferFlag object value).buffer.seqNum = e.buffer.seqNum := by
  unfold BufferElement.setConsumerAttachBufferFlag
  split_ifs <;> rfl

@[simp] theorem BufferElement.setConsumerAttachBufferFlag_state (object : ℕ) (value : Bool)
    (e : BufferElement) : (e.setConsumerAttachBufferFlag object value).state = e.state := by
  unfold BufferElement.setConsumerAttachBufferFlag
  split_ifs <;> rfl

namespace BufferQueue

def setConsumerAttachBufferFlag (q : BufferQueue) (object : ℕ) (value : Bool) : BufferQueue :=
  { q with
    bufferQueueCache := q.bufferQueueCache.mapAll
      (BufferElement.setConsumerAttachBufferFlag object value)
      (BufferElement.setConsumerAttachBufferFlag_seqNum object value) }

/-- `ConsumerSurface::AttachBufferToQueue`, with the caller's object as the call leaves it. -/
def consumerAttachBufferToQueue (q : BufferQueue) (buffer : SurfaceBuffer) :
    GSError × SurfaceBuffer × BufferQueue :=
  let buffer := buffer.setConsumerAttachBufferFlag true
  match (q.setConsumerAttachBufferFlag buffer.object true).attachBufferToQueue buffer
    .consumerInvoker with
  | (ret, q') => (ret, if ret = .ok then q.attachedBuffer buffer else buffer, q')

/-- `ConsumerSurface::DetachBufferFromQueue`. -/
def consumerDetachBufferFromQueue (q : BufferQueue) (buffer : SurfaceBuffer) (isReserveSlot : Bool) :
    GSError × SurfaceBuffer × BufferQueue :=
  let buffer := buffer.setConsumerAttachBufferFlag false
  match (q.setConsumerAttachBufferFlag buffer.object false).detachBufferFromQueue buffer.seqNum
    .consumerInvoker isReserveSlot with
  | (ret, q') => (ret, buffer, q')

/-- What the caller passes and what the queue may hold under its object are one object. -/
def OneObject (q : BufferQueue) (buffer : SurfaceBuffer) : Prop :=
  ∀ k e, q.bufferQueueCache.find k = some e → e.buffer.object = buffer.object →
    e.buffer.consumerAttachBufferFlag = buffer.consumerAttachBufferFlag

/-- A request sends the object of every buffer that it hands out while its flag is up in `q`. -/
def SendsAttached (q q' : BufferQueue) : Prop :=
  ∀ config a e, q'.bufferQueueCache.find a.sequence = none → (q'.requestBuffer config a).1.ret = .ok →
    q.bufferQueueCache.find (q'.requestBuffer config a).1.retval.sequence = some e →
    e.buffer.consumerAttachBufferFlag = true →
    ∃ b, (q'.requestBuffer config a).1.retval.buffer = some b ∧ b.object = e.buffer.object

structure Undisturbed (q : BufferQueue) (buffer : SurfaceBuffer)
    (r : GSError × SurfaceBuffer × BufferQueue) : Prop where
  queue : r.2.2 = q
  flag : r.2.1.consumerAttachBufferFlag = buffer.consumerAttachBufferFlag
  sends : SendsAttached q r.2.2

def AttachSpares (q : BufferQueue) (buffer : SurfaceBuffer) : Prop :=
  buffer.consumerAttachBufferFlag = true ∨
    q.listenerSeqAndFenceActive = false ∧ q.getUsedSize < q.bufferQueueSize ∧
      q.bufferQueueCache.find buffer.seqNum = none

def DetachSpares (q : BufferQueue) (buffer : SurfaceBuffer) : Prop :=
  buffer.consumerAttachBufferFlag = false ∨
    ∃ e, q.bufferQueueCache.find buffer.seqNum = some e ∧ e.state = .acquired

variable {q q' : BufferQueue} {buffer : SurfaceBuffer} {sequence : ℕ} {e : BufferElement}

/-! A request hands out an object whose flag is up: what the pops of its lists change of an entry is
its colour. -/

def KeepsObjects (q q' : BufferQueue) : Prop :=
  ∀ k e, q.bufferQueueCache.find k = some e → ∃ e', q'.bufferQueueCache.find k = some e' ∧
    e'.buffer.object = e.buffer.object ∧
    e'.buffer.consumerAttachBufferFlag = e.buffer.consumerAttachBufferFlag

/-- A reply that is ready sends every object that has to go. -/
def ReadySends (q : BufferQueue) (point : ReusePoint) : Prop :=
  ∀ reply e, point = .done reply → reply.ret = .ok →
    q.bufferQueueCache.find reply.retval.sequence = some e →
    e.buffer.consumerAttachBufferFlag = true →
    ∃ b, reply.retval.buffer = some b ∧ b.object = e.buffer.object

theorem KeepsObjects.of_cache (h : q'.bufferQueueCache = q.bufferQueueCache) : KeepsObjects q q' :=
  fun k e he => ⟨e, by rw [h, he], rfl, rfl⟩

theorem KeepsObjects.of_recolour {colorGamut transform : Int}
    (h : q'.bufferQueueCache = q.bufferQueueCache.modify sequence
      (BufferElement.recolour colorGamut transform) (BufferElement.recolour_seqNum _ _)) :
    KeepsObjects q q' := by
  intro k e he
  rw [h, BufferCache.find_modify, he]
  split_ifs
  · exact ⟨_, rfl, rfl, rfl⟩
  · exact ⟨e, rfl, rfl, rfl⟩

theorem popFromFreeListLocked_keepsObjects (q : BufferQueue) (config : BufferRequestConfig) :
    KeepsObjects q (q.popFromFreeListLocked config).2 :=
  popFromFreeListLocked_induct q config (fun _ => .of_cache rfl) (.of_cache rfl)
    fun _ _ => .of_recolour rfl

theorem ReadySends.error (q : BufferQueue) {ret : GSError} (h : ret ≠ .ok) :
    q.ReadySends (.done (.error ret)) := by
  rintro reply e hdone hret
  obtain rfl := ReusePoint.done.inj hdone
  exact absurd hret h

theorem ReadySends.of_alloc (q : BufferQueue) {job : AllocJob} {point : ReusePoint}
    (h : point = .setupNewBuffer job ∨ point = .reallocBuffer job) : q.ReadySends point := by
  rintro reply e rfl
  rcases h with h | h <;> cases h

theorem ReadySends.before {point : ReusePoint} (h : q'.ReadySends point)
    (hkeeps : KeepsObjects q q') : q.ReadySends point := by
  intro reply e hdone hret he hflag
  obtain ⟨e', he', hobject, hsame⟩ := hkeeps _ _ he
  obtain ⟨b, hb, hbobject⟩ := h reply e' hdone hret he' (hsame.trans hflag)
  exact ⟨b, hb, hbobject.trans hobject⟩

theorem updateReuse_sends (q : BufferQueue) (needRealloc : Bool) (sequence : ℕ) :
    q.ReadySends (.done (q.updateReuseBufferState needRealloc sequence false).1) := by
  rintro reply e hdone hret he hflag
  obtain rfl := ReusePoint.done.inj hdone
  revert hret he
  unfold updateReuseBufferState
  split
  · intro hret
    cases hret
  · rename_i ele hele
    dsimp only
    split
    · intro _ he
      simp only [Bool.false_eq_true, if_false] at he ⊢
      rw [hele] at he
      obtain rfl := Option.some.inj he
      exact ⟨_, rfl, rfl⟩
    · rename_i hneeds
      intro _ he
      rw [hele] at he
      obtain rfl := Option.some.inj he
      simp [needsObject, hflag] at hneeds

theorem reuseBuffer_sends (q : BufferQueue) (config : BufferRequestConfig) (buffer : SurfaceBuffer) :
    q.ReadySends (q.reuseBuffer config buffer false).1 := by
  unfold reuseBuffer
  split
  · exact .error q (by simp)
  · split
    · exact q.updateReuse_sends false buffer.seqNum
    · exact .of_alloc _ (.inr rfl)

theorem popFromDirtyListLocked_cache (q : BufferQueue) :
    q.popFromDirtyListLocked.2.bufferQueueCache = q.bufferQueueCache :=
  popFromDirtyListLocked_induct (P := fun q' => q'.bufferQueueCache = q.bufferQueueCache) q
    (fun _ => rfl) rfl

theorem KeepsObjects.trans {q'' : BufferQueue} (h : KeepsObjects q q') (h' : KeepsObjects q' q'') :
    KeepsObjects q q'' := by
  intro k e he
  obtain ⟨e', he', hobject, hflag⟩ := h k e he
  obtain ⟨e'', he'', hobject', hflag'⟩ := h' k e' he'
  exact ⟨e'', he'', hobject'.trans hobject, hflag'.trans hflag⟩

theorem requestPoint_sends (q : BufferQueue) (config : BufferRequestConfig) :
    q.ReadySends (q.requestPoint config).1 :=
  requestPoint_induction (S := KeepsObjects) (P := fun r => q.ReadySends r.1) (.of_cache rfl)
    (fun q₁ config h => h.trans (q₁.popFromFreeListLocked_keepsObjects config))
    (fun q₁ h => h.trans (.of_cache q₁.popFromDirtyListLocked_cache))
    (fun _ _ _ _ h => h.trans (.of_recolour rfl))
    (fun _ _ _ hret => .error q hret)
    (fun _ _ _ => .of_alloc q (.inl rfl))
    (fun q₁ config buffer h => (q₁.reuseBuffer_sends config buffer).before h)

theorem requestBuffer_sends (q : BufferQueue) : SendsAttached q q := by
  intro config a e hfresh hret he hflag
  have hready := q.requestPoint_sends config
  rw [requestBuffer_eq] at hret he ⊢
  have hnew {job : AllocJob} (hpoint : (q.requestPoint config).1 = .setupNewBuffer job ∨
      (q.requestPoint config).1 = .reallocBuffer job) : False := by
    have hanswer := finishRequest_answer (q.requestPoint config).2 a job hpoint
    split_ifs at hanswer
    · have hsequence := (Prod.mk.inj hanswer).2
      rw [hsequence, hfresh] at he
      cases he
    · rw [RequestReply.answer, hret] at hanswer
      cases (Prod.mk.inj hanswer).1
  cases hpoint : (q.requestPoint config).1 with
  | done reply =>
    rw [hpoint] at hret he hready
    exact hready reply e rfl hret he hflag
  | setupNewBuffer job => exact (hnew (.inl hpoint)).elim
  | reallocBuffer job => exact (hnew (.inr hpoint)).elim

theorem setConsumerAttachBufferFlag_of_same (hone : q.OneObject buffer) {value : Bool}
    (hsame : buffer.consumerAttachBufferFlag = value) :
    q.setConsumerAttachBufferFlag buffer.object value = q := by
  have hcache : q.bufferQueueCache.mapAll
      (BufferElement.setConsumerAttachBufferFlag buffer.object value)
      (BufferElement.setConsumerAttachBufferFlag_seqNum buffer.object value) =
        q.bufferQueueCache := by
    ext1 k
    rw [BufferCache.find_mapAll]
    cases he : q.bufferQueueCache.find k with
    | none => rfl
    | some e =>
      rw [Option.map_some, BufferElement.setConsumerAttachBufferFlag]
      split_ifs with hobject
      · have hflag := (hone k e he hobject).trans hsame
        rw [SurfaceBuffer.setConsumerAttachBufferFlag, ← hflag]
      · rfl
  rw [setConsumerAttachBufferFlag, hcache]

/-! The queue's own answer, in which the flag has no part. -/

theorem attachBufferToQueue_ok_iff (q : BufferQueue) (buffer : SurfaceBuffer) (value : Bool) :
    ((q.setConsumerAttachBufferFlag buffer.object value).attachBufferToQueue
        (buffer.setConsumerAttachBufferFlag value) .consumerInvoker).1 = .ok ↔
      q.listenerSeqAndFenceActive = false ∧ q.getUsedSize < q.bufferQueueSize ∧
        q.bufferQueueCache.find buffer.seqNum = none := by
  have hactive : (q.setConsumerAttachBufferFlag buffer.object value).listenerSeqAndFenceActive =
      q.listenerSeqAndFenceActive := rfl
  have hsize : (q.setConsumerAttachBufferFlag buffer.object value).getUsedSize = q.getUsedSize := by
    simp [setConsumerAttachBufferFlag, getUsedSize]
  have hcached : ((q.setConsumerAttachBufferFlag buffer.object value).bufferQueueCache.find
      (buffer.setConsumerAttachBufferFlag value).seqNum).isSome =
        (q.bufferQueueCache.find buffer.seqNum).isSome := by
    simp [setConsumerAttachBufferFlag, SurfaceBuffer.setConsumerAttachBufferFlag]
  unfold attachBufferToQueue attachBufferToQueueLocked
  rw [hactive, hsize, hcached]
  split_ifs with hlistener hfull hincache
  · simp [hlistener.2]
  · have hfull : q.bufferQueueSize ≤ q.getUsedSize := hfull
    simp [Nat.not_lt.mpr hfull]
  · rw [Option.isSome_iff_ne_none] at hincache
    simp [hincache]
  · simp only [true_and, Bool.not_eq_true] at hlistener
    rw [Bool.not_eq_true, Option.isSome_eq_false_iff, Option.isNone_iff_eq_none] at hincache
    exact iff_of_true rfl ⟨hlistener, Nat.lt_of_not_le hfull, hincache⟩

theorem attachBufferToQueue_refused {invokerType : InvokerType}
    (h : (q.attachBufferToQueue buffer invokerType).1 ≠ .ok) :
    (q.attachBufferToQueue buffer invokerType).2 = q := by
  unfold attachBufferToQueue attachBufferToQueueLocked at h ⊢
  split_ifs at h ⊢
  · rfl
  · rfl
  · rfl
  · cases invokerType <;> exact absurd rfl h

theorem detachBufferFromQueue_ok_iff (q : BufferQueue) (buffer : SurfaceBuffer)
    (value isReserveSlot : Bool) :
    ((q.setConsumerAttachBufferFlag buffer.object value).detachBufferFromQueue buffer.seqNum
        .consumerInvoker isReserveSlot).1 = .ok ↔
      ∃ e, q.bufferQueueCache.find buffer.seqNum = some e ∧ e.state = .acquired := by
  unfold detachBufferFromQueue detachBufferFromQueueLocked detachBufferCheck
  simp only [setConsumerAttachBufferFlag, BufferCache.find_mapAll]
  cases he : q.bufferQueueCache.find buffer.seqNum with
  | none => simp
  | some e => by_cases hstate : e.state = .acquired <;> simp [hstate]

theorem detachBufferFromQueue_refused {invokerType : InvokerType} {isReserveSlot : Bool}
    (h : (q.detachBufferFromQueue sequence invokerType isReserveSlot).1 ≠ .ok) :
    (q.detachBufferFromQueue sequence invokerType isReserveSlot).2 = q := by
  unfold detachBufferFromQueue detachBufferFromQueueLocked at h ⊢
  split_ifs at h ⊢
  · rfl
  · cases invokerType <;> exact absurd rfl h

/-- A refused call has written `value` to the object and nothing else. -/
theorem undisturbed_iff (hone : q.OneObject buffer) {value : Bool} {ret : GSError} :
    Undisturbed q buffer (ret, buffer.setConsumerAttachBufferFlag value,
      q.setConsumerAttachBufferFlag buffer.object value) ↔
      buffer.consumerAttachBufferFlag = value := by
  constructor
  · exact fun h => h.flag.symm
  · intro hsame
    have hqueue := setConsumerAttachBufferFlag_of_same hone hsame
    refine ⟨hqueue, hsame.symm, ?_⟩
    rw [hqueue]
    exact q.requestBuffer_sends

theorem consumerAttach_undisturbed (hone : q.OneObject buffer) :
    ((q.consumerAttachBufferToQueue buffer).1 ≠ .ok →
      Undisturbed q buffer (q.consumerAttachBufferToQueue buffer)) ↔ q.AttachSpares buffer := by
  have hok := q.attachBufferToQueue_ok_iff buffer true
  unfold AttachSpares
  rw [← hok]
  by_cases hret : ((q.setConsumerAttachBufferFlag buffer.object true).attachBufferToQueue
      (buffer.setConsumerAttachBufferFlag true) .consumerInvoker).1 = .ok
  · exact iff_of_true (fun hne => absurd hret hne) (.inr hret)
  · have hcall : q.consumerAttachBufferToQueue buffer =
        (((q.setConsumerAttachBufferFlag buffer.object true).attachBufferToQueue
          (buffer.setConsumerAttachBufferFlag true) .consumerInvoker).1,
          buffer.setConsumerAttachBufferFlag true,
          q.setConsumerAttachBufferFlag buffer.object true) := by
      unfold consumerAttachBufferToQueue
      dsimp only
      exact congrArg₂ (fun b p => (_, b, p)) (if_neg hret) (attachBufferToQueue_refused hret)
    rw [hcall]
    exact ⟨fun h => .inl ((undisturbed_iff hone).mp (h hret)),
      fun h _ => (undisturbed_iff hone).mpr (h.resolve_right hret)⟩

theorem consumerDetach_undisturbed (hone : q.OneObject buffer) (isReserveSlot : Bool) :
    ((q.consumerDetachBufferFromQueue buffer isReserveSlot).1 ≠ .ok →
      Undisturbed q buffer (q.consumerDetachBufferFromQueue buffer isReserveSlot)) ↔
      q.DetachSpares buffer := by
  have hok := q.detachBufferFromQueue_ok_iff buffer false isReserveSlot
  unfold DetachSpares
  rw [← hok]
  by_cases hret : ((q.setConsumerAttachBufferFlag buffer.object false).detachBufferFromQueue
      buffer.seqNum .consumerInvoker isReserveSlot).1 = .ok
  · exact iff_of_true (fun hne => absurd hret hne) (.inr hret)
  · have hcall : q.consumerDetachBufferFromQueue buffer isReserveSlot =
        (((q.setConsumerAttachBufferFlag buffer.object false).detachBufferFromQueue
          buffer.seqNum .consumerInvoker isReserveSlot).1,
          buffer.setConsumerAttachBufferFlag false,
          q.setConsumerAttachBufferFlag buffer.object false) :=
      congrArg (fun p => (_, _, p)) (detachBufferFromQueue_refused hret)
    rw [hcall]
    exact ⟨fun h => .inl ((undisturbed_iff hone).mp (h hret)),
      fun h _ => (undisturbed_iff hone).mpr (h.resolve_right hret)⟩

/-- A refused attach or detach of the consumer leaves the queue and the flag of the object alone, so
that a request still sends it, exactly when the flag was already what the call writes or the queue
does not refuse. -/
theorem consumer_calls_spare_iff (hone : q.OneObject buffer) :
    (((q.consumerAttachBufferToQueue buffer).1 ≠ .ok →
        Undisturbed q buffer (q.consumerAttachBufferToQueue buffer)) ↔ q.AttachSpares buffer) ∧
      ∀ isReserveSlot, ((q.consumerDetachBufferFromQueue buffer isReserveSlot).1 ≠ .ok →
        Undisturbed q buffer (q.consumerDetachBufferFromQueue buffer isReserveSlot)) ↔
          q.DetachSpares buffer :=
  ⟨consumerAttach_undisturbed hone, consumerDetach_undisturbed hone⟩

end BufferQueue

/-- A buffer that the consumer attaches, and releases before the producer has ever received it. -/
def attachedUnseen : List Op :=
  [.attachBufferToQueue ((sampleBuffer 9).setConsumerAttachBufferFlag true) .consumerInvoker,
    .releaseBuffer 9 none ⟨0, 0, fun _ => true⟩]

theorem reachable_attachedUnseen :
    Reachable (execute Op.next (BufferQueue.start { listener := true }) attachedUnseen) :=
  Reachable.of_legal (show Legal _ _ (BufferQueue.start { listener := true }) attachedUnseen by decide)

theorem oneObject_attachedUnseen :
    (execute Op.next (BufferQueue.start { listener := true }) attachedUnseen).OneObject
      ((sampleBuffer 9).setConsumerAttachBufferFlag true) := by
  intro k e he _
  have hkeys : (execute Op.next (BufferQueue.start { listener := true })
      attachedUnseen).bufferQueueCache.keys = [9] := by decide
  have hmem := (BufferCache.mem_keys _ k).mpr (Option.isSome_iff_exists.mpr ⟨e, he⟩)
  rw [hkeys] at hmem
  obtain rfl := List.mem_singleton.mp hmem
  have hflag : ((execute Op.next (BufferQueue.start { listener := true })
      attachedUnseen).bufferQueueCache.find 9).all (·.buffer.consumerAttachBufferFlag) := by decide
  rw [he] at hflag
  exact hflag

/-- An attach of a buffer that the queue has already is refused and changes nothing. -/
theorem consumer_attach_spares_unseen :
    ∃ q, Reachable q ∧ (q.consumerAttachBufferToQueue
        ((sampleBuffer 9).setConsumerAttachBufferFlag true)).1 = .bufferIsIncache ∧
      (q.consumerAttachBufferToQueue
        ((sampleBuffer 9).setConsumerAttachBufferFlag true)).2.2 = q := by
  refine ⟨_, reachable_attachedUnseen, by decide, ?_⟩
  exact ((BufferQueue.consumer_calls_spare_iff oneObject_attachedUnseen).1.mpr (.inl rfl)
    (by decide)).queue

/-- A refused detach takes the flag away, and the next request hands the buffer out without its
object. -/
theorem consumer_detach_hides_object :
    ¬ ∀ (q : BufferQueue) (buffer : SurfaceBuffer) (isReserveSlot : Bool), Reachable q →
      q.OneObject buffer → (q.consumerDetachBufferFromQueue buffer isReserveSlot).1 ≠ .ok →
        BufferQueue.Undisturbed q buffer (q.consumerDetachBufferFromQueue buffer isReserveSlot) := by
  intro h
  have hsends := (h _ _ false reachable_attachedUnseen oneObject_attachedUnseen (by decide)).sends
    sampleConfig ⟨5, 5, true, true⟩
  have hflag : ((execute Op.next (BufferQueue.start { listener := true })
      attachedUnseen).bufferQueueCache.find 9).any (·.buffer.consumerAttachBufferFlag) := by decide
  obtain ⟨e, he, hup⟩ := (Option.any_eq_true _ _).mp hflag
  obtain ⟨b, hb, -⟩ := hsends e (by decide) (by decide) he hup
  have hobject := Option.isSome_iff_exists.mpr ⟨b, hb⟩
  revert hobject
  decide

end GraphicSurface
