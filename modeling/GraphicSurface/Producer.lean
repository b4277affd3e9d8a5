import GraphicSurface.Operations

/-! `BufferQueueProducer`: the queue behind a connection. One client process at a time is connected,
and every process that asks for the init info leaves a token whose death is watched; there is room
for one token. The functions named `…Locked` are the sections of the producer's own `mutex_`. -/

namespace GraphicSurface

/-- `token` is the process that the registered token belongs to. -/
structure BufferQueueProducer where
  connectedPid : Int := 0
  isDisconnectStrictly : Bool := false
  token : Option Int := none
  bufferQueue : BufferQueue
deriving DecidableEq

namespace BufferQueueProducer

def start (q : BufferQueue) : BufferQueueProducer := { bufferQueue := q }

def setConnectedPidLocked (s : BufferQueueProducer) (connectedPid : Int) : BufferQueueProducer :=
  { s with
    connectedPid := connectedPid
    bufferQueue := s.bufferQueue.configure (.setConnectedPidLocked connectedPid) }

def checkConnectLocked (s : BufferQueueProducer) (callingPid : Int) : GSError :=
  if s.connectedPid = 0 then .consumerDisconnected
  else if s.connectedPid ≠ callingPid then .consumerIsConnected
  else .ok

def connect (s : BufferQueueProducer) (callingPid : Int) : GSError × BufferQueueProducer :=
  if s.connectedPid ≠ 0 ∧ s.connectedPid ≠ callingPid then (.consumerIsConnected, s)
  else if s.isDisconnectStrictly then (.consumerDisconnected, s)
  else (.ok, s.setConnectedPidLocked callingPid)

/-- The section of `Disconnect`; the queue is cleaned after it. -/
def disconnectLocked (s : BufferQueueProducer) (callingPid : Int) : GSError × BufferQueueProducer :=
  if s.checkConnectLocked callingPid ≠ .ok then (s.checkConnectLocked callingPid, s)
  else (.ok, s.setConnectedPidLocked 0)

/-- The section of `OnBufferProducerRemoteDied`, with whether the queue is cleaned after it. -/
def remoteDiedLocked (s : BufferQueueProducer) : Bool × BufferQueueProducer :=
  if s.connectedPid = 0 then (false, s) else (true, s.setConnectedPidLocked 0)

def handleDeathRecipient (s : BufferQueueProducer) (token : Int) : BufferQueueProducer :=
  { s with token := some token }

def cleanQueue (s : BufferQueueProducer) : BufferQueueProducer :=
  { s with bufferQueue := s.bufferQueue.cleanCache }

/-! The calls, with nothing in between their sections. -/

def disconnect (s : BufferQueueProducer) (callingPid : Int) : GSError × BufferQueueProducer :=
  match s.disconnectLocked callingPid with
  | (ret, s) => if ret ≠ .ok then (ret, s) else (.ok, s.cleanQueue)

def onBufferProducerRemoteDied (s : BufferQueueProducer) : BufferQueueProducer :=
  match s.remoteDiedLocked with
  | (died, s) => if died then s.cleanQueue else s

/-- `ProducerSurfaceDeathRecipient::OnRemoteDied` for the token of a process. -/
def onRemoteDied (s : BufferQueueProducer) (pid : Int) : BufferQueueProducer :=
  if s.token ≠ some pid then s else s.onBufferProducerRemoteDied

/-- A request of the queue behind `Connect()`. -/
def requestWith (request : BufferQueue → BufferRequestConfig → Allocation → RequestReply × BufferQueue)
    (s : BufferQueueProducer) (callingPid : Int) (config : BufferRequestConfig) (a : Allocation) :
    RequestReply × BufferQueueProducer :=
  match s.connect callingPid with
  | (ret, s) =>
    if ret ≠ .ok then (.error ret, s)
    else
      match request s.bufferQueue config a with
      | (reply, q) =>
        ({ reply with retval := { reply.retval with isConnected := true } },
          { s with bufferQueue := q })

def requestBuffer := requestWith BufferQueue.requestBuffer

def requestAndDetachBuffer := requestWith BufferQueue.requestAndDetachBuffer

variable {s : BufferQueueProducer} {callingPid : Int}

theorem checkConnectLocked_ok :
    s.checkConnectLocked callingPid = .ok ↔ s.connectedPid ≠ 0 ∧ s.connectedPid = callingPid := by
  unfold checkConnectLocked
  split_ifs with hnone hother
  · simp [hnone]
  · simp [hother]
  · exact ⟨fun _ => ⟨hnone, not_not.mp hother⟩, fun _ => rfl⟩

theorem connect_ok : (s.connect callingPid).1 = .ok ↔
    (s.connectedPid = 0 ∨ s.connectedPid = callingPid) ∧ s.isDisconnectStrictly = false := by
  unfold connect
  split_ifs with hother hstrict
  · simp [hother.1, hother.2]
  · simp [hstrict]
  · have hfree : s.connectedPid = 0 ∨ s.connectedPid = callingPid := by
      by_contra hneither
      exact hother (not_or.mp hneither)
    simp [hfree, hstrict]

theorem connect_of_ok (h : (s.connect callingPid).1 = .ok) :
    s.connect callingPid = (.ok, s.setConnectedPidLocked callingPid) := by
  unfold connect at h ⊢
  split_ifs at h ⊢
  rfl

theorem connect_of_error (h : (s.connect callingPid).1 ≠ .ok) : (s.connect callingPid).2 = s := by
  unfold connect at h ⊢
  split_ifs at h ⊢
  · rfl
  · rfl
  · exact absurd rfl h

theorem connect_ret_ne_noBuffer (s : BufferQueueProducer) (callingPid : Int) :
    (s.connect callingPid).1 ≠ .noBuffer := by
  unfold connect
  split_ifs <;> simp

end BufferQueueProducer

end GraphicSurface
