import GraphicSurface.FlushRace

/-! `CleanCache` and the information about the cached buffers that a consumer listener can ask for.
The clear collects it in `bufferInfoMap_` when it is told the listener, and `CleanCache` hands it
over after `mutex_` is released. Threads make clean-ups among the calls of the queue; the clear in
`Call` stands for the other ways to `ClearLocked`. -/

namespace GraphicSurface

open Runs Interleaving

structure ConsumerListener where
  isNeedBufferInfo : Bool

structure CleanCacheBufferInfo where
  buffer : SurfaceBuffer
  fence : Option SyncFence
  isAcquired : Bool
deriving DecidableEq

def BufferElement.info (e : BufferElement) : CleanCacheBufferInfo :=
  ⟨e.buffer, e.fence, e.state == .acquired⟩

def BufferCache.infos (c : BufferCache) : List CleanCacheBufferInfo :=
  c.keys.filterMap fun k => (c.find k).map BufferElement.info

structure InfoQueue where
  queue : BufferQueue
  bufferInfoMap : List CleanCacheBufferInfo := []

namespace InfoQueue

def onCleanCacheForBufferInfoMapLocked (s : InfoQueue) : Option ConsumerListener → InfoQueue
  | none => s
  | some listener =>
    if !listener.isNeedBufferInfo then s
    else { s with bufferInfoMap := s.queue.bufferQueueCache.infos }

/-- `ClearLocked` with its optional parameter. -/
def clearLocked (s : InfoQueue) (listener : Option ConsumerListener) : InfoQueue :=
  { s.onCleanCacheForBufferInfoMapLocked listener with queue := s.queue.clearLocked }

/-- The section of `CleanCache`, which leaves the parameter of `ClearLocked` to its default. -/
def cleanCacheSection (s : InfoQueue) : InfoQueue := s.clearLocked none

/-- The end of `CleanCache`: the calls of `OnCleanCacheForBufferInfoMap` that it makes. -/
def deliver (s : InfoQueue) (listener : Option ConsumerListener) :
    List (List CleanCacheBufferInfo) × InfoQueue :=
  if listener.isSome && s.bufferInfoMap != [] then
    ([s.bufferInfoMap], { s with bufferInfoMap := [] })
  else ([], s)

end InfoQueue

inductive CleanPc
  | queue (pc : Pc)
  | clearing (listener : Option ConsumerListener)
  | delivering (listener : Option ConsumerListener)

inductive CleanAction
  | queue (a : Action)
  | cleanCache (registered : ConsumerListener)
  | go

/-- `CleanCache` reads `listener_` before it takes `mutex_`. `OnGoBackground` and `OnCleanCache` are
called in between, where every other thread may go on as well. -/
def cleanThread : Thread InfoQueue CleanPc CleanAction := fun t s pc a =>
  match pc, a with
  | .queue pc, .queue a =>
    (queueThread t s.queue pc a).map fun r => (.queue r.1, { s with queue := r.2 })
  | .queue (.idle _), .cleanCache registered =>
    some (.clearing (if s.queue.listener then some registered else none), s)
  | .clearing listener, .go =>
    if s.queue.isAllocatingBuffer then none else some (.delivering listener, s.cleanCacheSection)
  | .delivering listener, .go =>
    some (.queue (.idle (some (.code .ok))), (s.deliver listener).2)
  | _, _ => none

/-- What each thread's latest clean-up has cleared. -/
def recordCleared (t : ℕ) (cleared : ℕ → BufferCache) (s : InfoQueue) (pc : CleanPc)
    (_ : CleanAction) (_ : CleanPc × InfoQueue) : ℕ → BufferCache :=
  match pc with
  | .clearing _ => Function.update cleared t s.queue.bufferQueueCache
  | _ => cleared

def Informs (listener : ConsumerListener) (cleared : BufferCache)
    (calls : List (List CleanCacheBufferInfo)) : Prop :=
  if listener.isNeedBufferInfo && cleared.size != 0 then
    ∃ infos, calls = [infos] ∧ infos.Perm cleared.infos
  else calls = []

def cleanStart (s : QueueSettings) : Machine (InfoQueue × (ℕ → BufferCache)) CleanPc :=
  ⟨(⟨BufferQueue.start s, []⟩, fun _ => BufferCache.empty), fun _ => .queue (.idle none)⟩

theorem cleanThread_bufferInfoMap {t : ℕ} {s : InfoQueue} {pc : CleanPc} {a : CleanAction}
    {r : CleanPc × InfoQueue} (hempty : s.bufferInfoMap = [])
    (hr : cleanThread t s pc a = some r) : r.2.bufferInfoMap = [] := by
  unfold cleanThread at hr
  split at hr
  · obtain ⟨r', -, rfl⟩ := Option.map_eq_some_iff.mp hr
    exact hempty
  · obtain rfl := Option.some.inj hr
    exact hempty
  · simp only [Option.ite_none_left_eq_some, Option.some.injEq] at hr
    obtain ⟨-, rfl⟩ := hr
    exact hempty
  · obtain rfl := Option.some.inj hr
    simp [InfoQueue.deliver, hempty]
  · cases hr

/-- Nobody tells `ClearLocked` the listener, so that nothing is ever collected. -/
theorem bufferInfoMap_empty {s : QueueSettings} {ls : List (ℕ × CleanAction)}
    {m : Machine (InfoQueue × (ℕ → BufferCache)) CleanPc}
    (run : Run (Turn (cleanThread.observed recordCleared)) (cleanStart s) ls m) :
    m.shared.1.bufferInfoMap = [] := by
  have hstep : ∀ (m : Machine (InfoQueue × (ℕ → BufferCache)) CleanPc) (l : ℕ × CleanAction) m',
      m.shared.1.bufferInfoMap = [] → Turn (cleanThread.observed recordCleared) m l m' →
        m'.shared.1.bufferInfoMap = [] := by
    intro m l m' hempty turn
    obtain ⟨r, hr, rfl⟩ := turn.cases
    obtain ⟨r', hr', rfl⟩ := Thread.observed_eq_some.mp hr
    exact cleanThread_bufferInfoMap hempty hr'
  exact @Run.invariant _ _ _ _ _ _ (fun m => m.shared.1.bufferInfoMap = []) hstep rfl run

/-- In every reachable state, a thread that hands over to a registered listener what its clear has
collected keeps the listener informed exactly when there is nothing to be told. -/
theorem cleanCache_informs_iff {s : QueueSettings} {ls : List (ℕ × CleanAction)}
    {m : Machine (InfoQueue × (ℕ → BufferCache)) CleanPc}
    (run : Run (Turn (cleanThread.observed recordCleared)) (cleanStart s) ls m) (t : ℕ)
    (listener : ConsumerListener) :
    Informs listener (m.shared.2 t) (m.shared.1.deliver (some listener)).1 ↔
      listener.isNeedBufferInfo = false ∨ (m.shared.2 t).size = 0 := by
  have hcalls : (m.shared.1.deliver (some listener)).1 = [] := by
    simp [InfoQueue.deliver, bufferInfoMap_empty run]
  rw [hcalls, Informs]
  by_cases hneed : listener.isNeedBufferInfo = true
  · by_cases hsize : (m.shared.2 t).size = 0
    · simp [hsize]
    · simp [hneed, hsize]
  · simp [hneed]

def cleanWithOneBuffer (listener : ConsumerListener) : List (ℕ × CleanAction) :=
  [(0, .queue (.call (.requestBuffer sampleConfig))),
    (0, .queue (.allocated ⟨1, 1, true, true⟩)), (1, .cleanCache listener), (1, .go)]

theorem run_cleaning {m : Machine (InfoQueue × (ℕ → BufferCache)) CleanPc}
    {ls : List (ℕ × CleanAction)}
    (legal : Legal (Machine.next (cleanThread.observed recordCleared))
      (fun m l => (m.next? (cleanThread.observed recordCleared) l).isSome) m ls) :
    Run (Turn (cleanThread.observed recordCleared)) m ls
      (execute (Machine.next (cleanThread.observed recordCleared)) m ls) :=
  .of_legal (fun _ _ h => Turn.next h) legal

theorem cleanCache_informs_oneBuffer :
    ∃ m, Run (Turn (cleanThread.observed recordCleared)) (cleanStart listening)
      (cleanWithOneBuffer ⟨false⟩) m ∧ (m.shared.2 1).size = 1 ∧
      (Informs ⟨false⟩ (m.shared.2 1) (m.shared.1.deliver (some ⟨false⟩)).1 ↔
        (⟨false⟩ : ConsumerListener).isNeedBufferInfo = false ∨ (m.shared.2 1).size = 0) := by
  have run : Run (Turn (cleanThread.observed recordCleared)) (cleanStart listening)
      (cleanWithOneBuffer ⟨false⟩) _ := run_cleaning (by decide)
  exact ⟨_, run, by decide, cleanCache_informs_iff run 1 ⟨false⟩⟩

/-- The listener asks for the information, a buffer is cached, and nothing is handed over. -/
theorem listener_not_informed :
    ¬ ∀ (s : QueueSettings) (ls : List (ℕ × CleanAction))
      (m : Machine (InfoQueue × (ℕ → BufferCache)) CleanPc) (t : ℕ) (listener : ConsumerListener),
      Run (Turn (cleanThread.observed recordCleared)) (cleanStart s) ls m →
      m.procs t = .delivering (some listener) →
      Informs listener (m.shared.2 t) (m.shared.1.deliver (some listener)).1 := by
  intro h
  have run : Run (Turn (cleanThread.observed recordCleared)) (cleanStart listening)
      (cleanWithOneBuffer ⟨true⟩) _ := run_cleaning (by decide)
  have hinforms := h _ _ _ 1 ⟨true⟩ run rfl
  obtain ⟨infos, hcalls, -⟩ := hinforms
  cases hcalls

end GraphicSurface
