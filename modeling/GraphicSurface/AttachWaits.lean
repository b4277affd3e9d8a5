import GraphicSurface.EntryErasures

/-! `AttachBuffer` on a cached number waits on `waitAttachCon_` with an iterator in its hand, which
the predicate of the wait and the code after it go through. The wait lets go of `mutex_`. `EntryWait`
is no part of the code: it says of a wait whether its entry has been erased since it began. -/

namespace GraphicSurface

open Runs Interleaving

/-- The entry whose iterator a thread holds while it waits. -/
def Pc.awaited : Pc → Option ℕ
  | attachWait sequence => some sequence
  | _ => none

def RoomPc.awaited : RoomPc → Option ℕ
  | queue pc => pc.awaited
  | waiting _ => none

structure EntryWait where
  thread : ℕ
  sequence : ℕ
  erased : Bool
deriving DecidableEq

def EntryWait.mark (w : EntryWait) (q : BufferQueue) : EntryWait :=
  { w with erased := w.erased || (q.bufferQueueCache.find w.sequence).isNone }

def recordWaits (t : ℕ) (waits : List EntryWait) (q : BufferQueue) (pc : RoomPc) (a : RoomAction)
    (r : RoomPc × BufferQueue) : List EntryWait :=
  (r.1.awaited.map (⟨t, ·, false⟩)).toList ++
    (waits.filter (·.thread ≠ t)).map (·.mark (pc.emptied q r.2 a))

abbrev waitingThread : Thread (BufferQueue × List EntryWait) RoomPc RoomAction :=
  roomThread.observed recordWaits

def waitingStart (s : QueueSettings) : Machine (BufferQueue × List EntryWait) RoomPc :=
  ⟨(BufferQueue.start s, []), fun _ => .queue (.idle none)⟩

/-- The step takes out no entry that another thread waits for. -/
def SparesAwaited (t : ℕ) (s : BufferQueue × List EntryWait) (pc : RoomPc) (a : RoomAction) :
    Prop :=
  ∀ w ∈ s.2, w.thread ≠ t → ¬ pc.takesOut s.1 a w.sequence

/-- Every thread that waits holds an iterator to an entry that is cached and was never erased. -/
def HoldEntries (m : Machine (BufferQueue × List EntryWait) RoomPc) : Prop :=
  ∀ t sequence, (m.procs t).awaited = some sequence →
    ⟨t, sequence, false⟩ ∈ m.shared.2 ∧ (m.shared.1.bufferQueueCache.find sequence).isSome

namespace BufferQueue

variable {q : BufferQueue}

theorem awaited_reach (q : BufferQueue) (detach : Bool) (point : ReusePoint) :
    (q.reach detach point).1.awaited = none := by
  cases point with
  | done reply =>
    unfold reach finishCall
    dsimp only
    split <;> rfl
  | setupNewBuffer job => rfl
  | reallocBuffer job => rfl

theorem awaited_requestSection (q : BufferQueue) (detach : Bool) (config : BufferRequestConfig) :
    (q.requestSection detach config).1.awaited = none := by
  unfold requestSection
  split
  · exact awaited_reach _ detach _
  · rfl

theorem awaited_startRequest (q : BufferQueue) (detach : Bool) (config : BufferRequestConfig) :
    (q.startRequest detach config).1.awaited = none := by
  unfold startRequest
  split
  · rfl
  · split
    · rfl
    · exact awaited_requestSection q detach _

theorem awaited_flushSection (q : BufferQueue) (f : FlushArgs) :
    (q.flushSection f).1.awaited = none := by
  unfold flushSection
  split <;> rfl

theorem awaited_detachSection (q : BufferQueue) (sequence : ℕ) (invokerType : InvokerType)
    (isReserveSlot : Bool) : (q.detachSection sequence invokerType isReserveSlot).1.awaited = none := by
  unfold detachSection
  split <;> rfl

theorem awaited_afterRelease (q : BufferQueue) : q.afterRelease.1.awaited = none := by
  unfold afterRelease handOutSection
  dsimp only
  split
  · split
    · split <;> rfl
    · rfl
  · rfl

theorem awaited_handOutResume (q : BufferQueue) (updateConfig : BufferRequestConfig)
    (configs : List BufferRequestConfig) :
    (q.handOutResume updateConfig configs).1.awaited = none := by
  unfold handOutResume
  dsimp only
  split
  · split <;> rfl
  · rfl

theorem awaited_releaseSection (q : BufferQueue) (sequence : ℕ) (fence : Option SyncFence)
    (now mergeFd : Int) : (q.releaseSection sequence fence now mergeFd).1.awaited = none := by
  unfold releaseSection
  dsimp only
  split
  · split
    · rfl
    · split
      · rfl
      · exact awaited_afterRelease _
  · rfl

theorem awaited_preAllocSection (q : BufferQueue) (config : BufferRequestConfig) (count : ℕ) :
    (q.preAllocSection config count).1.awaited = none := by
  unfold preAllocSection
  dsimp only
  split
  · rfl
  · split <;> rfl

theorem awaited_nextCallback (handed : List (ℕ × Option SyncFence)) :
    (nextCallback handed).awaited = none := by
  unfold nextCallback
  split <;> rfl

/-- Only `AttachBuffer` waits so, and it does with an entry that it has found. -/
theorem attachSection_awaited {buffer : SurfaceBuffer} {timeOut : Int} {k : ℕ}
    (hk : (q.attachSection buffer timeOut).1.awaited = some k) :
    ((q.attachSection buffer timeOut).2.bufferQueueCache.find k).isSome := by
  unfold attachSection at hk ⊢
  cases he : q.bufferQueueCache.find buffer.seqNum with
  | some e =>
    simp only [he] at hk ⊢
    split_ifs at hk ⊢
    · cases hk
    · obtain rfl : buffer.seqNum = k := Option.some.inj hk
      rw [he]
      rfl
  | none =>
    simp only [he] at hk
    split at hk
    · cases hk
    · split_ifs at hk <;> cases hk

end BufferQueue

open BufferQueue

theorem Call.awaited_start (q : BufferQueue) (c : Call) : (c.start q).1.awaited = none := by
  cases c with
  | requestBuffer config => exact awaited_startRequest q false config
  | requestAndDetachBuffer config => exact awaited_startRequest q true config
  | cancelBuffer sequence bedata => rfl
  | flushBuffer f =>
    simp only [start]
    split_ifs <;> rfl
  | detachBufferFromQueue sequence invokerType isReserveSlot =>
    exact awaited_detachSection q sequence invokerType isReserveSlot
  | acquireBuffer now => rfl
  | releaseBuffer sequence fence now mergeFd => exact awaited_releaseSection q sequence fence now mergeFd
  | attachBufferToQueue buffer invokerType => rfl
  | attachBuffer buffer timeOut =>
    simp only [start]
    split_ifs <;> rfl
  | attachAndFlushBuffer buffer bedata fence config env => rfl
  | preAllocBuffers config allocBufferCount => exact awaited_preAllocSection q config allocBufferCount
  | cleanCache =>
    simp only [start]
    split_ifs <;> rfl
  | configure s => cases s <;> rfl

theorem Pc.advance_awaited {q : BufferQueue} {pc : Pc} {a : Action} {r : Pc × BufferQueue}
    (hr : pc.advance q a = some r) {k : ℕ} (hk : r.1.awaited = some k) :
    (r.2.bufferQueueCache.find k).isSome := by
  by_cases hmain : ∃ buffer timeOut, pc = .attachMain buffer timeOut ∧ a = .go
  · obtain ⟨buffer, timeOut, rfl, rfl⟩ := hmain
    cases hr
    exact attachSection_awaited hk
  · refine absurd hk ?_
    have hnone : r.1.awaited = none := by
      unfold advance at hr
      split at hr
      · cases hr
        exact Call.awaited_start q _
      · split_ifs at hr
        cases hr
        exact awaited_requestSection q _ _
      · cases hr
        exact awaited_reach _ _ _
      · cases hr
        exact awaited_reach _ _ (.done _)
      · split_ifs at hr <;> cases hr <;> rfl
      · cases hr
        dsimp only
        split <;> rfl
      · cases hr
        rfl
      · cases hr
        exact awaited_flushSection q _
      · split_ifs at hr
        cases hr
        rfl
      · split_ifs at hr
        cases hr
        rfl
      · split_ifs at hr
        cases hr
        exact awaited_afterRelease _
      · split_ifs at hr
        cases hr
        exact awaited_handOutResume q _ _
      · cases hr
        dsimp only
        split
        · exact awaited_nextCallback _
        · rfl
      · split at hr <;> cases hr
        · rfl
        · dsimp only
          split
          · exact awaited_nextCallback _
          · rfl
        · rfl
      · split at hr <;> cases hr
        rfl
      · split at hr <;> cases hr
        exact awaited_nextCallback _
      · split_ifs at hr <;> cases hr <;> rfl
      · exact absurd ⟨_, _, rfl, rfl⟩ hmain
      · split at hr <;> cases hr
        rfl
      · split_ifs at hr
        cases hr
        rfl
      · cases hr
        rfl
      · cases hr
        rfl
      · split_ifs at hr
        cases hr
        rfl
      · cases hr
    rw [hnone]
    exact nofun

theorem RoomWait.awaited_start (q : BufferQueue) (w : RoomWait) : (w.start q).1.awaited = none := by
  unfold start
  split
  · rfl
  · cases w <;> rfl

theorem BufferQueue.awaited_resize (q : BufferQueue) (queueSize : ℕ) :
    (q.resize queueSize).1.awaited = none := by
  unfold resize
  split <;> rfl

theorem RoomCall.awaited_start (q : BufferQueue) (c : RoomCall) : (c.start q).1.awaited = none := by
  cases c with
  | setQueueSize queueSize =>
    simp only [start]
    split_ifs
    · rfl
    · exact awaited_resize q queueSize
  | setMaxQueueSize queueSize =>
    simp only [start]
    split_ifs
    · rfl
    · exact awaited_resize _ queueSize
    · rfl
  | goBackground => exact RoomWait.awaited_start q _
  | cleanReleasedBuffers =>
    simp only [start]
    split_ifs
    · rfl
    · exact RoomWait.awaited_start q _
  | cleanProducerBySeqNum | detachBuffer | setBatchHandle => rfl

section Step

variable {t : ℕ} {q : BufferQueue} {pc : RoomPc} {a : RoomAction} {r : RoomPc × BufferQueue}

theorem roomThread_awaited (hr : roomThread t q pc a = some r) {k : ℕ}
    (hk : r.1.awaited = some k) : (r.2.bufferQueueCache.find k).isSome := by
  unfold roomThread at hr
  split at hr
  · rename_i pc a
    obtain ⟨r, hqueue, rfl⟩ := Option.map_eq_some_iff.mp hr
    exact Pc.advance_awaited (queueThread_eq_some.mp hqueue).2.1 hk
  · rename_i reply c
    cases hr
    refine absurd hk ?_
    rw [RoomCall.awaited_start]
    exact nofun
  · rename_i w
    split_ifs at hr
    cases hr
    cases w <;> cases hk
  · cases hr

/-- The element that `attachDelete` puts in at the end removes nothing. -/
theorem isSome_of_emptied (hr : roomThread t q pc a = some r) {k : ℕ}
    (hk : ((pc.emptied q r.2 a).bufferQueueCache.find k).isSome) :
    (r.2.bufferQueueCache.find k).isSome := by
  unfold RoomPc.emptied Pc.emptied at hk
  split at hk
  · split at hk
    · rename_i ele count
      obtain ⟨r, hqueue, rfl⟩ := Option.map_eq_some_iff.mp hr
      have hadvance := (queueThread_eq_some.mp hqueue).2.1
      simp only [Pc.advance] at hadvance
      split_ifs at hadvance
      cases hadvance
      dsimp only
      rw [BufferCache.find_put]
      split_ifs
      · rfl
      · exact hk
    · exact hk
  · exact hk

variable {s : BufferQueue × List EntryWait}

theorem mem_recordWaits {waits : List EntryWait} {w : EntryWait} :
    w ∈ recordWaits t waits q pc a r ↔
      (∃ k, r.1.awaited = some k ∧ w = ⟨t, k, false⟩) ∨
        ∃ w' ∈ waits, w'.thread ≠ t ∧ w = w'.mark (pc.emptied q r.2 a) := by
  simp only [recordWaits, List.mem_append, Option.mem_toList, Option.map_eq_some_iff,
    List.mem_map, List.mem_filter, decide_eq_true_eq]
  refine or_congr ?_ ?_
  · exact exists_congr fun k => and_congr_right fun _ => eq_comm
  · exact exists_congr fun w' => and_assoc.trans
      (and_congr_right fun _ => and_congr_right fun _ => eq_comm)

theorem mark_of_spared (hproper : pc.Proper) (hr : roomThread t q pc a = some r) {w : EntryWait}
    (hw : w.erased = false) (hcached : (q.bufferQueueCache.find w.sequence).isSome) :
    (w.mark (pc.emptied q r.2 a)).erased = false ↔ ¬ pc.takesOut q a w.sequence := by
  rw [← roomThread_erases hproper hr w.sequence hcached, EntryWait.mark, hw, Bool.false_or,
    Option.isNone_eq_false_iff, Option.isSome_iff_ne_none]

theorem recordWaits_intact_iff (hproper : pc.Proper) (hr : roomThread t s.1 pc a = some r)
    (hwaits : ∀ w ∈ s.2, w.erased = false ∧ (s.1.bufferQueueCache.find w.sequence).isSome) :
    (∀ w ∈ recordWaits t s.2 s.1 pc a r, w.erased = false) ↔ SparesAwaited t s pc a := by
  constructor
  · intro h w hw ht
    obtain ⟨hintact, hcached⟩ := hwaits w hw
    exact (mark_of_spared hproper hr hintact hcached).mp
      (h _ (mem_recordWaits.mpr (.inr ⟨w, hw, ht, rfl⟩)))
  · intro h w hw
    rcases mem_recordWaits.mp hw with ⟨k, -, rfl⟩ | ⟨w', hw', ht, rfl⟩
    · rfl
    · obtain ⟨hintact, hcached⟩ := hwaits w' hw'
      exact (mark_of_spared hproper hr hintact hcached).mpr (h w' hw' ht)

theorem recordWaits_cached (hr : roomThread t s.1 pc a = some r)
    (hintact : ∀ w ∈ recordWaits t s.2 s.1 pc a r, w.erased = false) {w : EntryWait}
    (hw : w ∈ recordWaits t s.2 s.1 pc a r) : (r.2.bufferQueueCache.find w.sequence).isSome := by
  have herased := hintact w hw
  rcases mem_recordWaits.mp hw with ⟨k, hk, rfl⟩ | ⟨w, -, -, rfl⟩
  · exact roomThread_awaited hr hk
  · refine isSome_of_emptied hr ?_
    rw [EntryWait.mark, Bool.or_eq_false_iff, Option.isNone_eq_false_iff] at herased
    exact herased.2

end Step

/-- When no step takes out an entry that another thread waits for, every waiting thread holds the
entry that it found, and it is cached. Any next step keeps that exactly if it does so too. -/
theorem waits_hold_entries {s : QueueSettings} {ls : List (ℕ × RoomAction)}
    {m : Machine (BufferQueue × List EntryWait) RoomPc}
    (run : Run (TurnIf waitingThread SparesAwaited) (waitingStart s) ls m) :
    HoldEntries m ∧ ∀ t a r, waitingThread t m.shared (m.procs t) a = some r →
      ((∀ w ∈ r.2.2, w.erased = false) ↔ SparesAwaited t m.shared (m.procs t) a) := by
  obtain ⟨hwaits, hthreads⟩ := rely_guarantee
    (fun s : BufferQueue × List EntryWait =>
      ∀ w ∈ s.2, w.erased = false ∧ (s.1.bufferQueueCache.find w.sequence).isSome)
    (fun t s pc => pc.Proper ∧ ∀ k, pc.awaited = some k → ⟨t, k, false⟩ ∈ s.2)
    (fun t s pc a r hinv hloc hspares hr => by
      obtain ⟨r, hroom, rfl⟩ := Thread.observed_eq_some.mp hr
      have hintact := (recordWaits_intact_iff hloc.1 hroom hinv).mpr hspares
      refine ⟨fun w hw => ⟨hintact w hw, recordWaits_cached hroom hintact hw⟩, ?_, fun k hk => ?_⟩
      · exact (roomThread_answers hloc.1 hroom).1
      · exact mem_recordWaits.mpr (.inl ⟨k, hk, rfl⟩))
    (fun t s pc a r u pc' hinv hloc hspares hr hu hother => by
      obtain ⟨r, hroom, rfl⟩ := Thread.observed_eq_some.mp hr
      refine ⟨hother.1, fun k hk => ?_⟩
      have hmem := hother.2 k hk
      have hspared := (mark_of_spared hloc.1 hroom rfl (hinv _ hmem).2).mpr (hspares _ hmem hu)
      refine mem_recordWaits.mpr (.inr ⟨_, hmem, hu, ?_⟩)
      rw [EntryWait.mark, EntryWait.mk.injEq]
      exact ⟨rfl, rfl, hspared.symm⟩)
    (show ∀ w ∈ (waitingStart s).shared.2, _ from fun w hw => by cases hw)
    (fun _ => ⟨trivial, nofun⟩) run
  refine ⟨fun t k hk => ?_, fun t a r hr => ?_⟩
  · have hmem := (hthreads t).2 k hk
    exact ⟨hmem, (hwaits _ hmem).2⟩
  · obtain ⟨r, hroom, rfl⟩ := Thread.observed_eq_some.mp hr
    exact recordWaits_intact_iff (hthreads t).1 hroom hwaits

instance (q : BufferQueue) (detach : Bool) (config : BufferRequestConfig)
    (choice : Option SurfaceBuffer) (k : ℕ) : Decidable (q.losesChosen detach config choice k) :=
  inferInstanceAs (Decidable (_ ∧ _))

instance (q : BufferQueue) (detach : Bool) (config : BufferRequestConfig) (k : ℕ) :
    Decidable (q.startLoses detach config k) :=
  inferInstanceAs (Decidable (∃ updateConfig ∈ q.startConfig config, _))

instance (q : BufferQueue) (queueSize k : ℕ) : Decidable (q.resizeDeletes queueSize k) :=
  inferInstanceAs (Decidable (_ ∧ _))

instance (q : BufferQueue) (c : Call) (k : ℕ) : Decidable (c.takesOut q k) := by
  cases c <;> unfold Call.takesOut <;> infer_instance

instance (q : BufferQueue) (pc : Pc) (a : Action) (k : ℕ) : Decidable (pc.takesOut q a k) := by
  unfold Pc.takesOut
  split <;> infer_instance

instance (q : BufferQueue) (w : RoomWait) (k : ℕ) : Decidable (w.takesOut q k) := by
  cases w <;> unfold RoomWait.takesOut <;> infer_instance

instance (q : BufferQueue) (c : RoomCall) (k : ℕ) : Decidable (c.takesOut q k) := by
  cases c <;> unfold RoomCall.takesOut <;> infer_instance

instance (q : BufferQueue) (pc : RoomPc) (a : RoomAction) (k : ℕ) :
    Decidable (pc.takesOut q a k) := by
  unfold RoomPc.takesOut
  split <;> infer_instance

instance (t : ℕ) (s : BufferQueue × List EntryWait) (pc : RoomPc) (a : RoomAction) :
    Decidable (SparesAwaited t s pc a) :=
  inferInstanceAs (Decidable (∀ w ∈ s.2, _))

def attachMeanwhile (meanwhile : List (ℕ × RoomAction)) : List (ℕ × RoomAction) :=
  [(0, .queue (.call (.requestBuffer sampleConfig))), (0, .queue (.allocated ⟨1, 1, true, true⟩)),
    (1, .queue (.call (.attachBuffer (.allocated ⟨1, 1, true, true⟩ sampleConfig) 100))),
    (1, .queue .go), (1, .queue .go)] ++ meanwhile

/-- The producer cancels: the entry is there. -/
theorem waits_hold_entries_attachMeanwhile :
    ∃ m, Run (TurnIf waitingThread SparesAwaited) (waitingStart { listener := true })
        (attachMeanwhile [(0, .queue (.call (.cancelBuffer 1 none)))]) m ∧
      (m.procs 1).awaited = some 1 ∧ HoldEntries m := by
  have legal : Legal (Machine.next waitingThread)
      (fun m l => (m.next? waitingThread l).isSome ∧ SparesAwaited l.1 m.shared (m.procs l.1) l.2)
      (waitingStart { listener := true })
      (attachMeanwhile [(0, .queue (.call (.cancelBuffer 1 none)))]) := by
    decide
  have run : Run (TurnIf waitingThread SparesAwaited) (waitingStart { listener := true })
      (attachMeanwhile [(0, .queue (.call (.cancelBuffer 1 none)))]) _ :=
    .of_legal (fun _ _ h => ⟨Turn.next h.1, h.2⟩) legal
  exact ⟨_, run, rfl, (waits_hold_entries run).1⟩

/-- The cache is cleaned: the thread goes on with an iterator to nothing. -/
theorem wait_loses_entry :
    ¬ ∀ (s : QueueSettings) (ls : List (ℕ × RoomAction))
      (m : Machine (BufferQueue × List EntryWait) RoomPc),
      Run (Turn waitingThread) (waitingStart s) ls m → HoldEntries m := by
  intro h
  have legal : Legal (Machine.next waitingThread) (fun m l => (m.next? waitingThread l).isSome)
      (waitingStart { listener := true }) (attachMeanwhile [(0, .queue (.call .cleanCache))]) := by
    decide
  have hholds := h _ _ _ (.of_legal (fun _ _ h => Turn.next h) legal) 1 1 rfl
  exact absurd hholds.2 (by decide)

end GraphicSurface
