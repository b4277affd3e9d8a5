import GraphicSurface.Parcel
import GraphicSurface.Runs
import GraphicSurface.Types

/-! `SetTunnelLayerInfo`: the tunnel layer of a queue and what its consumer's listener is told about
it, for calls in the queue's process and through a parcel. -/

namespace GraphicSurface

open Parcels Runs

def tunnelPropInvalid : UInt32 := 0
def tunnelPropPostion : UInt32 := (1 : UInt32) <<< 0
def tunnelPropBufferAddr : UInt32 := (1 : UInt32) <<< 1
def tunnelPropDeviceCommit : UInt32 := (1 : UInt32) <<< 3
def tunnelPropWithReleaseFence : UInt32 := (1 : UInt32) <<< 5

def tunnelTypeNone : UInt32 := 0
def tunnelTypeHardCursor : UInt32 := 1
def tunnelTypeLpp : UInt32 := 2
def tunnelTypeStylus : UInt32 := 3
def tunnelTypeVideo : UInt32 := 4
def tunnelTypeAnco : UInt32 := 5

structure TunnelLayerInfo where
  tunnelTypeMask : UInt32 := tunnelTypeNone
  reserved : UInt64 := 0
deriving DecidableEq

structure TunnelLayerState where
  tunnelLayerInfo : TunnelLayerInfo := {}
  tunnelLayerId : UInt64 := 0
  property : UInt32 := tunnelPropInvalid
deriving DecidableEq

namespace TunnelLayerState

def layer (t : TunnelLayerState) : UInt64 × UInt32 := (t.tunnelLayerId, t.property)

end TunnelLayerState

/-- The answer, and the two parameters as the function leaves them. `TUNNEL_TYPE_GAME` is among the
types that it does not know. -/
def resolveTunnelLayerConfig (tunnelTypeMask : UInt32) (uniqueId : UInt64) :
    GSError × UInt64 × UInt32 :=
  if tunnelTypeMask = tunnelTypeNone then (.ok, 0, tunnelPropInvalid)
  else if tunnelTypeMask = tunnelTypeLpp then
    (.ok, uniqueId, tunnelPropBufferAddr ||| tunnelPropDeviceCommit)
  else if tunnelTypeMask = tunnelTypeHardCursor then (.ok, uniqueId, tunnelPropPostion)
  else if tunnelTypeMask = tunnelTypeStylus ∨ tunnelTypeMask = tunnelTypeVideo then
    (.ok, uniqueId, tunnelPropBufferAddr)
  else if tunnelTypeMask = tunnelTypeAnco then
    (.ok, uniqueId, tunnelPropBufferAddr ||| tunnelPropWithReleaseFence)
  else (.invalidArguments, 0, tunnelPropInvalid)

section Codec

variable {P : Type} [Parcel P]

open Parcel

def readTunnelLayerInfo : Coded GSError P TunnelLayerInfo := do
  let tunnelTypeMaskVal ← readUint32.orFail .binder
  let reserved ← readUint64.orFail .binder
  pure ⟨tunnelTypeMaskVal, reserved⟩

theorem readTunnelLayerInfo_failsWith :
    Coded.FailsWith GSError.binder (readTunnelLayerInfo : Coded GSError P TunnelLayerInfo) :=
  (Coded.FailsWith.orFail GSError.binder readUint32).bind fun _ =>
    (Coded.FailsWith.orFail GSError.binder readUint64).bind fun _ => .pure GSError.binder _

end Codec

/-- The part of a `BufferQueue` that its tunnel layer is about. A listener of either kind is there or
not; `notices` lists what `OnTunnelLayerInfoChanged` was called with, the newest last, and is read by
no call. -/
structure TunnelLayers where
  uniqueId : UInt64
  tunnelLayerState : TunnelLayerState := {}
  listener : Bool := false
  listenerClazz : Bool := false
  notices : List TunnelLayerState := []
deriving DecidableEq

/-- The calls, with what a stub was sent left in its parcel. A listener may be null. -/
inductive TunnelLayerCall (P : Type)
  | registerConsumerListener (listener : Bool)
  | registerConsumerListenerClazz (listener : Bool)
  | unregisterConsumerListener
  | setTunnelLayerInfo (info : TunnelLayerInfo)
  | setTunnelLayerInfoRemote (arguments : P)

namespace TunnelLayers

variable {s : TunnelLayers}

def start (uniqueId : UInt64) : TunnelLayers := { uniqueId := uniqueId }

def hasListener (s : TunnelLayers) : Bool := s.listener || s.listenerClazz

def lastNoticed (s : TunnelLayers) : UInt64 × UInt32 := (s.notices.getLast?.getD {}).layer

/-- The answer for a type and the layer that it stands for in this queue. -/
def resolved (s : TunnelLayers) (info : TunnelLayerInfo) : GSError × UInt64 × UInt32 :=
  resolveTunnelLayerConfig info.tunnelTypeMask s.uniqueId

/-- The state as the critical section leaves it, also when the type is not known. -/
def written (s : TunnelLayers) (info : TunnelLayerInfo) : TunnelLayerState where
  tunnelLayerInfo := info
  tunnelLayerId := (s.resolved info).2.1
  property := (s.resolved info).2.2

/-- The listener is called without the locks. -/
def setTunnelLayerInfo (s : TunnelLayers) (info : TunnelLayerInfo) : GSError × TunnelLayers :=
  let oldState := s.tunnelLayerState
  let newState := s.written info
  let set := { s with tunnelLayerState := newState }
  if (s.resolved info).1 ≠ .ok then ((s.resolved info).1, set)
  else if oldState.layer = newState.layer then (.ok, set)
  else if s.hasListener then (.ok, { set with notices := s.notices ++ [newState] })
  else (.consumerUnregisterListener, set)

section Calls

variable {P : Type} [Parcel P]

def setTunnelLayerInfoRemote (s : TunnelLayers) (arguments : P) : GSError × TunnelLayers :=
  match (readTunnelLayerInfo arguments).1 with
  | .ok info => s.setTunnelLayerInfo info
  | .error ret => (ret, s)

def next (s : TunnelLayers) : TunnelLayerCall P → TunnelLayers
  | .registerConsumerListener listener => { s with listener := listener }
  | .registerConsumerListenerClazz listener => { s with listenerClazz := listener }
  | .unregisterConsumerListener => { s with listener := false, listenerClazz := false }
  | .setTunnelLayerInfo info => (s.setTunnelLayerInfo info).2
  | .setTunnelLayerInfoRemote arguments => (s.setTunnelLayerInfoRemote arguments).2

/-- A call that fails leaves the state as it was; after one that succeeds a listener has been told
the layer that is set. -/
def Informs (s : TunnelLayers) (r : GSError × TunnelLayers) : Prop :=
  (r.1 ≠ .ok → r.2.tunnelLayerState = s.tunnelLayerState) ∧
    (r.1 = .ok → r.2.hasListener → r.2.tunnelLayerState.layer = r.2.lastNoticed)

instance (s : TunnelLayers) (r : GSError × TunnelLayers) : Decidable (Informs s r) :=
  inferInstanceAs (Decidable (_ ∧ _))

def Announced (s : TunnelLayers) : TunnelLayerCall P → Prop
  | .setTunnelLayerInfo info => s.Informs (s.setTunnelLayerInfo info)
  | .setTunnelLayerInfoRemote arguments => s.Informs (s.setTunnelLayerInfoRemote arguments)
  | _ => True

/-- The type is a known one, and there is somebody to tell or nothing to be told. -/
def CanTell (s : TunnelLayers) (info : TunnelLayerInfo) : Prop :=
  (s.resolved info).1 = .ok ∧ (s.hasListener ∨ s.tunnelLayerState.layer = (s.resolved info).2)

/-- The same of the information that a call brings; arguments that cannot be read bring none. -/
def CanAnnounce (s : TunnelLayers) : TunnelLayerCall P → Prop
  | .setTunnelLayerInfo info => s.CanTell info
  | .setTunnelLayerInfoRemote arguments =>
    ∀ info, (readTunnelLayerInfo arguments).1 = .ok info → s.CanTell info
  | _ => True

/-- The layer is the one told last, and the type that it was set by is a known one. -/
def Told (s : TunnelLayers) : Prop :=
  s.tunnelLayerState.layer = s.lastNoticed ∧
    (s.resolved s.tunnelLayerState.tunnelLayerInfo).1 = .ok

end Calls

theorem told_start (uniqueId : UInt64) : (start uniqueId).Told := ⟨rfl, rfl⟩

theorem state_setTunnelLayerInfo (s : TunnelLayers) (info : TunnelLayerInfo) :
    (s.setTunnelLayerInfo info).2.tunnelLayerState =
      s.written info := by
  unfold setTunnelLayerInfo
  dsimp only
  split_ifs <;> rfl

theorem uniqueId_setTunnelLayerInfo (s : TunnelLayers) (info : TunnelLayerInfo) :
    (s.setTunnelLayerInfo info).2.uniqueId = s.uniqueId := by
  unfold setTunnelLayerInfo
  dsimp only
  split_ifs <;> rfl

variable {info : TunnelLayerInfo}

theorem setTunnelLayerInfo_of_canTell (h : s.Told) (hcan : s.CanTell info) :
    (s.setTunnelLayerInfo info).1 = .ok ∧ (s.setTunnelLayerInfo info).2.Told := by
  have hanswer : (s.setTunnelLayerInfo info).1 = .ok ∧
      (s.written info).layer = (s.setTunnelLayerInfo info).2.lastNoticed := by
    unfold setTunnelLayerInfo
    dsimp only
    rw [if_neg (not_not.mpr hcan.1)]
    split_ifs with hsame hheard
    · exact ⟨rfl, hsame.symm.trans h.1⟩
    · simp [lastNoticed]
    · exact absurd (hcan.2.resolve_left hheard) hsame
  refine ⟨hanswer.1, ?_, ?_⟩
  · rw [state_setTunnelLayerInfo]
    exact hanswer.2
  · rw [state_setTunnelLayerInfo, resolved, uniqueId_setTunnelLayerInfo]
    exact hcan.1

/-- A call that cannot tell fails and leaves a state that was not there before. -/
theorem setTunnelLayerInfo_of_not_canTell (h : s.Told) (hcan : ¬ s.CanTell info) :
    (s.setTunnelLayerInfo info).1 ≠ .ok ∧
      (s.setTunnelLayerInfo info).2.tunnelLayerState ≠ s.tunnelLayerState := by
  rw [state_setTunnelLayerInfo]
  by_cases hknown : (s.resolved info).1 = .ok
  · have hboth : ¬ s.hasListener = true ∧ ¬ s.tunnelLayerState.layer = (s.written info).layer :=
      not_or.mp fun hor => hcan ⟨hknown, hor⟩
    refine ⟨?_, fun hsame => hboth.2 (congrArg TunnelLayerState.layer hsame).symm⟩
    unfold setTunnelLayerInfo
    dsimp only
    rw [if_neg (not_not.mpr hknown), if_neg hboth.2, if_neg hboth.1]
    exact nofun
  · -- the state before was set by a type that is known
    refine ⟨?_, fun hsame => hknown ?_⟩
    · unfold setTunnelLayerInfo
      dsimp only
      rw [if_pos hknown]
      exact hknown
    · have hold := h.2
      rwa [← hsame] at hold

theorem informs_setTunnelLayerInfo (h : s.Told) :
    s.Informs (s.setTunnelLayerInfo info) ↔ s.CanTell info := by
  constructor
  · intro hinforms
    by_contra hcan
    obtain ⟨hret, hstate⟩ := setTunnelLayerInfo_of_not_canTell h hcan
    exact hstate (hinforms.1 hret)
  · intro hcan
    obtain ⟨hret, htold⟩ := setTunnelLayerInfo_of_canTell h hcan
    exact ⟨fun hne => absurd hret hne, fun _ _ => htold.1⟩

section Runs

variable {P : Type} [Parcel P]

theorem announced_iff_canAnnounce (h : s.Told) (call : TunnelLayerCall P) :
    s.Announced call ↔ s.CanAnnounce call := by
  cases call with
  | setTunnelLayerInfo info => exact informs_setTunnelLayerInfo h
  | setTunnelLayerInfoRemote arguments =>
    unfold Announced CanAnnounce setTunnelLayerInfoRemote
    dsimp only
    cases hread : (readTunnelLayerInfo arguments).1 with
    | ok info => simpa using informs_setTunnelLayerInfo h
    | error ret =>
      have hret : ret = .binder :=
        readTunnelLayerInfo_failsWith arguments ret _ (Coded.eq_of_fst hread)
      subst hret
      exact iff_of_true ⟨fun _ => rfl, nofun⟩ nofun
  | registerConsumerListener | registerConsumerListenerClazz | unregisterConsumerListener =>
    exact Iff.rfl

theorem Told.next (h : s.Told) {call : TunnelLayerCall P} (hcan : s.CanAnnounce call) :
    (s.next call).Told := by
  cases call with
  | setTunnelLayerInfo info => exact (setTunnelLayerInfo_of_canTell h hcan).2
  | setTunnelLayerInfoRemote arguments =>
    unfold TunnelLayers.next setTunnelLayerInfoRemote
    dsimp only
    cases hread : (readTunnelLayerInfo arguments).1 with
    | ok info => exact (setTunnelLayerInfo_of_canTell h (hcan info hread)).2
    | error ret => exact h
  | registerConsumerListener | registerConsumerListenerClazz | unregisterConsumerListener => exact h

/-- A run of calls keeps the state and the notices together exactly when every call in it brings a
known type and either finds a listener or changes nothing. -/
theorem run_announced_iff (uniqueId : UInt64) (calls : List (TunnelLayerCall P)) :
    Legal next Announced (start uniqueId) calls ↔ Legal next CanAnnounce (start uniqueId) calls :=
  legal_congr Told (fun _ call h => announced_iff_canAnnounce h call)
    (fun _ _ h hcan => h.next hcan) (told_start uniqueId) calls

end Runs

/-- The notice that a call without a listener could not give is not given by the same call later. -/
theorem run_lost_notice : ¬ ∀ (uniqueId : UInt64) (calls : List (TunnelLayerCall Wire)),
    Legal next Announced (start uniqueId) calls := by
  intro h
  obtain ⟨-, -, hlast, -⟩ := h 7 [.setTunnelLayerInfo ⟨tunnelTypeVideo, 0⟩,
    .registerConsumerListener true, .setTunnelLayerInfo ⟨tunnelTypeVideo, 0⟩]
  change Informs _ _ at hlast
  revert hlast
  decide

end TunnelLayers

end GraphicSurface
