import GraphicSurface.Producer

/-! Clients that come, connect, request and die. A producer watches one death token: that of the
process which was the last to ask for the init info, whoever is connected. -/

namespace GraphicSurface

open Runs

inductive ClientEvent
  | getProducerInitInfo (pid : Int)
  | connect (pid : Int)
  | requestBuffer (pid : Int) (config : BufferRequestConfig) (a : Allocation)
  | disconnect (pid : Int)
  | died (pid : Int)
deriving DecidableEq

/-- `AddDeathRecipient` succeeds, so the death of a process is told to the producer that has its
token. -/
def ClientEvent.apply (s : BufferQueueProducer) : ClientEvent → BufferQueueProducer
  | getProducerInitInfo pid => s.handleDeathRecipient pid
  | connect pid => (s.connect pid).2
  | requestBuffer pid config a => (s.requestBuffer pid config a).2
  | disconnect pid => (s.disconnect pid).2
  | died pid => s.onRemoteDied pid

def lastAsker : List ClientEvent → Option Int
  | [] => none
  | .getProducerInitInfo pid :: events => (lastAsker events).or (some pid)
  | _ :: events => lastAsker events

namespace BufferQueueProducer

variable {s : BufferQueueProducer}

/-- A death is followed as it should: that of the connected process resets the connection and clears
the cache, any other one changes neither. -/
def FollowsDeath (s : BufferQueueProducer) (pid : Int) : Prop :=
  if s.connectedPid ≠ 0 ∧ s.connectedPid = pid then
    (s.onRemoteDied pid).connectedPid = 0 ∧
      (s.onRemoteDied pid).bufferQueue.bufferQueueCache = BufferCache.empty
  else
    (s.onRemoteDied pid).connectedPid = s.connectedPid ∧
      (s.onRemoteDied pid).bufferQueue.bufferQueueCache = s.bufferQueue.bufferQueueCache

instance (s : BufferQueueProducer) (pid : Int) : Decidable (s.FollowsDeath pid) := by
  unfold FollowsDeath
  infer_instance

theorem onRemoteDied_of_unconnected (h : s.connectedPid = 0) (pid : Int) :
    s.onRemoteDied pid = s := by
  unfold onRemoteDied onBufferProducerRemoteDied remoteDiedLocked
  simp [h]

theorem onRemoteDied_of_connected (h : s.connectedPid ≠ 0) {pid : Int} (htoken : s.token = some pid) :
    s.onRemoteDied pid = (s.setConnectedPidLocked 0).cleanQueue := by
  unfold onRemoteDied onBufferProducerRemoteDied remoteDiedLocked
  simp [h, htoken]

theorem onRemoteDied_of_stranger {pid : Int} (htoken : s.token ≠ some pid) :
    s.onRemoteDied pid = s := by
  unfold onRemoteDied
  rw [if_pos htoken]

theorem followsDeath_iff (s : BufferQueueProducer) (pid : Int) :
    s.FollowsDeath pid ↔ s.connectedPid = 0 ∨ (s.token = some pid ↔ s.connectedPid = pid) := by
  unfold FollowsDeath
  by_cases hnone : s.connectedPid = 0
  · rw [if_neg fun h => h.1 hnone, onRemoteDied_of_unconnected hnone]
    simp [hnone]
  · by_cases htoken : s.token = some pid
    · rw [onRemoteDied_of_connected hnone htoken]
      by_cases hpid : s.connectedPid = pid
      · rw [if_pos ⟨hnone, hpid⟩]
        simp only [htoken, hpid, or_true, iff_true]
        exact ⟨rfl, rfl⟩
      · rw [if_neg fun h => hpid h.2]
        simp only [hnone, htoken, hpid, iff_false, not_true_eq_false, or_self]
        exact fun h => hnone h.1.symm
    · rw [onRemoteDied_of_stranger htoken]
      by_cases hpid : s.connectedPid = pid
      · rw [if_pos ⟨hnone, hpid⟩]
        simp [htoken, hpid, hpid ▸ hnone]
      · rw [if_neg fun h => hpid h.2]
        simp [htoken, hpid]

theorem token_connect (s : BufferQueueProducer) (pid : Int) : (s.connect pid).2.token = s.token := by
  unfold connect
  split_ifs <;> rfl

theorem token_requestBuffer (s : BufferQueueProducer) (pid : Int) (config : BufferRequestConfig)
    (a : Allocation) : (s.requestBuffer pid config a).2.token = s.token := by
  have hconnect := s.token_connect pid
  unfold requestBuffer requestWith
  split
  rename_i ret s₁ h
  rw [h] at hconnect
  split_ifs
  · exact hconnect
  · exact hconnect

theorem token_disconnect (s : BufferQueueProducer) (pid : Int) :
    (s.disconnect pid).2.token = s.token := by
  unfold disconnect disconnectLocked
  split_ifs with hcheck
  · simp [hcheck]
  · rfl

theorem token_onRemoteDied (s : BufferQueueProducer) (pid : Int) :
    (s.onRemoteDied pid).token = s.token := by
  unfold onRemoteDied onBufferProducerRemoteDied remoteDiedLocked
  split_ifs <;> rfl

end BufferQueueProducer

theorem token_execute (events : List ClientEvent) (s : BufferQueueProducer) :
    (execute ClientEvent.apply s events).token = (lastAsker events).or s.token := by
  induction events generalizing s with
  | nil => rfl
  | cons event events ih =>
    rw [execute, ih]
    cases event with
    | getProducerInitInfo pid =>
      rw [lastAsker, Option.or_assoc]
      rfl
    | connect pid => exact congrArg _ (s.token_connect pid)
    | requestBuffer pid config a => exact congrArg _ (s.token_requestBuffer pid config a)
    | disconnect pid => exact congrArg _ (s.token_disconnect pid)
    | died pid => exact congrArg _ (s.token_onRemoteDied pid)

/-- Every death in a history has the property, where a process that dies connected is one that had
asked for the init info. -/
def AtDeaths (q : BufferQueue) (events : List ClientEvent)
    (property : List ClientEvent → BufferQueueProducer → Int → Prop) : Prop :=
  ∀ before pid after, events = before ++ .died pid :: after →
    let s := execute ClientEvent.apply (.start q) before
    (s.connectedPid = pid → .getProducerInitInfo pid ∈ before) → property before s pid

/-- Deaths are followed exactly in the histories in which, at every death while a process is
connected, the dead process was the last to ask for the init info if and only if it is the connected
one. -/
theorem deaths_follow_connected (q : BufferQueue) (events : List ClientEvent) :
    AtDeaths q events (fun _ s pid => s.FollowsDeath pid) ↔
      AtDeaths q events fun before s pid =>
        s.connectedPid = 0 ∨ (lastAsker before = some pid ↔ s.connectedPid = pid) := by
  have hdeath (before : List ClientEvent) (pid : Int) :
      (execute ClientEvent.apply (.start q) before).FollowsDeath pid ↔
        (execute ClientEvent.apply (.start q) before).connectedPid = 0 ∨
          (lastAsker before = some pid ↔
            (execute ClientEvent.apply (.start q) before).connectedPid = pid) := by
    have htoken : (execute ClientEvent.apply (.start q) before).token = lastAsker before := by
      rw [token_execute]
      exact Option.or_none
    rw [BufferQueueProducer.followsDeath_iff, htoken]
  constructor
  · intro h before pid after hevents s hasked
    exact (hdeath before pid).mp (h before pid after hevents hasked)
  · intro h before pid after hevents s hasked
    exact (hdeath before pid).mpr (h before pid after hevents hasked)

/-- Process 1 is connected and has a buffer; process 2 asks for the init info and dies, and the
connection of process 1 and its buffer are gone. -/
theorem death_of_a_stranger :
    ¬ ∀ (q : BufferQueue) (events : List ClientEvent),
      AtDeaths q events fun _ s pid => s.FollowsDeath pid := by
  intro h
  have hdeath := h (.start { listener := true })
    ([.getProducerInitInfo 1,
      .requestBuffer 1 ⟨1, 1, 8, 12, 0, 0, 4, 0, 1⟩ ⟨7, 7, true, true⟩,
      .getProducerInitInfo 2] ++ .died 2 :: []) _ 2 [] rfl
  exact absurd (hdeath (by decide +kernel)) (by decide +kernel)

end GraphicSurface
