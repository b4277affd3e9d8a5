import GraphicSurface.Agreement
import GraphicSurface.ConcurrencyMoves
import GraphicSurface.Producer

/-! Producers that follow each other on one queue. `Disconnect`, `CleanCache` and `GoBackground`
check who is connected under the producer's `mutex_` and clear the cache later, under the queue's;
nothing keeps the next process out in between. A step is one section of either mutex. -/

namespace GraphicSurface

open Runs Interleaving

/-- Where a thread of the server stands. `inQueue` is a call of the queue, made for a client or by
somebody else; `background` is whether the cache is cleared inside of `SetProducerCacheCleanFlag`.
The clearing after a remote death is authorised for no pid. -/
inductive ProducerPc
  | idle (reply : Option Reply)
  | requesting (pid : Int) (config : BufferRequestConfig)
  | inQueue (client : Option Int) (pc : Pc)
  | goingBackground (pid : Int)
  | clearing (authorised : Option Int) (background : Bool)
  | flagging (authorised : Option Int)

/-- Whether a remote death is that of the watched token is left open. -/
inductive ProducerCall
  | connect
  | requestBuffer (config : BufferRequestConfig)
  | disconnect
  | cleanCache
  | goBackground
  | remoteDied

/-- `queue` is a step inside of the queue; from an idle thread it is a call of somebody else. -/
inductive ProducerAction
  | call (pid : Int) (c : ProducerCall)
  | go
  | queue (a : Action)

namespace ProducerPc

def done (ret : GSError) : ProducerPc := .idle (some (.code ret))

def back (client : Option Int) : Pc → ProducerPc
  | .idle reply => .idle reply
  | pc => .inQueue client pc

def client : ProducerPc → Option Int
  | requesting pid _ => some pid
  | inQueue client _ => client
  | _ => none

/-- The client for which the connection was checked, until its call is over. -/
def authorised : ProducerPc → Option Int
  | goingBackground pid => some pid
  | clearing authorised _ => authorised
  | flagging authorised => authorised
  | _ => none

/-- The buffer that a request hands out as it returns. -/
def granted : ProducerPc → List ℕ
  | idle (some (.request reply)) => if reply.ret = .ok then [reply.retval.sequence] else []
  | _ => []

end ProducerPc

namespace BufferQueueProducer

open ProducerPc

/-- The section of the producer's `mutex_` that a call starts with. -/
def startCall (s : BufferQueueProducer) (pid : Int) :
    ProducerCall → ProducerPc × BufferQueueProducer
  | .connect =>
    match s.connect pid with
    | (ret, s) => (done ret, s)
  | .requestBuffer config =>
    match s.connect pid with
    | (ret, s) => (if ret = .ok then requesting pid config else done ret, s)
  | .disconnect =>
    match s.disconnectLocked pid with
    | (ret, s) => (if ret = .ok then clearing (some pid) false else done ret, s)
  | .cleanCache =>
    let ret := s.checkConnectLocked pid
    (if ret = .ok then clearing (some pid) false else done ret, s)
  | .goBackground =>
    let ret := s.checkConnectLocked pid
    (if ret = .ok then goingBackground pid else done ret, s)
  | .remoteDied =>
    match s.remoteDiedLocked with
    | (died, s) => (if died then clearing none false else done .ok, s)

def queueSection (s : BufferQueueProducer) (t : ℕ) (client : Option Int) (pc : Pc) (a : Action) :
    Option (ProducerPc × BufferQueueProducer) :=
  (queueThread t s.bufferQueue pc a).map fun r => (back client r.1, { s with bufferQueue := r.2 })

def setFlag (s : BufferQueueProducer) : BufferQueueProducer :=
  { s with bufferQueue := s.bufferQueue.setProducerCacheCleanFlagLocked true }

end BufferQueueProducer

/-- What a thread does next. `ClearLocked` and `SetProducerCacheCleanFlagLocked` wait for the end of
an allocation. -/
def ProducerPc.advance (t : ℕ) (s : BufferQueueProducer) :
    ProducerPc → ProducerAction → Option (ProducerPc × BufferQueueProducer)
  | idle _, .call pid c => some (s.startCall pid c)
  | idle _, .queue a => s.queueSection t none (.idle none) a
  | requesting pid config, .go =>
    s.queueSection t (some pid) (.idle none) (.call (.requestBuffer config))
  | inQueue client pc, .queue a => s.queueSection t client pc a
  | goingBackground pid, .go =>
    if s.bufferQueue.listenerSeqAndFenceActive then some (clearing (some pid) true, s)
    else if s.bufferQueue.isAllocatingBuffer then some (flagging (some pid), s)
    else some (done .ok, s.setFlag)
  | clearing authorised background, .go =>
    if s.bufferQueue.isAllocatingBuffer then none
    else some (if background then flagging authorised else done .ok, s.cleanQueue)
  | flagging _, .go =>
    if s.bufferQueue.isAllocatingBuffer then none else some (done .ok, s.setFlag)
  | _, _ => none

def producerThread : Thread BufferQueueProducer ProducerPc ProducerAction :=
  fun t s pc a => pc.advance t s a

/-- For each cached number the pid whose request got it last. -/
def recordRequested (_ : ℕ) (requestedBy : ℕ → Option Int) (s : BufferQueueProducer)
    (pc : ProducerPc) (_ : ProducerAction) (r : ProducerPc × BufferQueueProducer) :
    ℕ → Option Int := fun k =>
  if k ∈ r.1.granted then pc.client
  else if (s.bufferQueue.bufferQueueCache.find k).isSome ∧
      (r.2.bufferQueue.bufferQueueCache.find k).isSome then requestedBy k
  else none

abbrev Server := Machine (BufferQueueProducer × (ℕ → Option Int)) ProducerPc

def serverThread := Thread.observed producerThread recordRequested

namespace Server

def cached (m : Server) (k : ℕ) : Bool := (m.shared.1.bufferQueue.bufferQueueCache.find k).isSome

/-- Every cached buffer that some client requested is one of this client. -/
def OwnedBy (m : Server) (pid : Int) : Prop :=
  ∀ k other, m.cached k → m.shared.2 k = some other → other = pid

/-- No other client is in the middle of a request. -/
def RequestsOnly (m : Server) (pid : Int) : Prop :=
  ∀ u other, (m.procs u).client = some other → other = pid

/-- No call that was authorised for another client is still to clear the cache. -/
def CleansOnly (m : Server) (pid : Int) : Prop :=
  ∀ u other, (m.procs u).authorised = some other → other = pid

def start (q : BufferQueue) : Server := ⟨(.start q, fun _ => none), fun _ => .idle none⟩

end Server

/-- The client that takes a free connection with this step. -/
def takesOver (s : BufferQueueProducer) : ProducerPc → ProducerAction → Option Int
  | .idle _, .call pid .connect | .idle _, .call pid (.requestBuffer _) =>
    if s.connectedPid = 0 ∧ (s.connect pid).1 = .ok then some pid else none
  | _, _ => none

def grants (t : ℕ) (s : BufferQueueProducer) (pc : ProducerPc) (a : ProducerAction) : List ℕ :=
  ((pc.advance t s a).map (·.1.granted)).getD []

/-- A client takes the connection only when nothing is left of the others, and no request gets a
buffer while a call that was authorised for another client is still to clear the cache. -/
structure Orderly (m : Server) (l : ℕ × ProducerAction) : Prop where
  takeover : ∀ pid, takesOver m.shared.1 (m.procs l.1) l.2 = some pid →
    m.OwnedBy pid ∧ m.RequestsOnly pid
  request : ∀ pid, (m.procs l.1).client = some pid →
    grants l.1 m.shared.1 (m.procs l.1) l.2 ≠ [] → m.CleansOnly pid

/-- What a step does to the connection, and what becomes of the thread. -/
inductive ProducerEffect (s : BufferQueueProducer) :
    ProducerPc → ProducerAction → ProducerPc × BufferQueueProducer → Prop
  | connects {reply : Option Reply} {pid : Int} {c : ProducerCall} {pc' : ProducerPc}
      (hfree : s.connectedPid = 0 → takesOver s (.idle reply) (.call pid c) = some pid)
      (hown : s.connectedPid ≠ 0 → s.connectedPid = pid)
      (hclient : pc'.client = none ∨ pc'.client = some pid) (hauthorised : pc'.authorised = none) :
      ProducerEffect s (.idle reply) (.call pid c) (pc', s.setConnectedPidLocked pid)
  | authorises {reply : Option Reply} {pid : Int} {c : ProducerCall} {pc' : ProducerPc}
      {s' : BufferQueueProducer} (hconnected : s.connectedPid ≠ 0) (hpid : s.connectedPid = pid)
      (hafter : s'.connectedPid = s.connectedPid ∨ s'.connectedPid = 0)
      (hclient : pc'.client = none) (hauthorised : pc'.authorised = some pid) :
      ProducerEffect s (.idle reply) (.call pid c) (pc', s')
  | serves {pc pc' : ProducerPc} {a : ProducerAction} {s' : BufferQueueProducer}
      (hafter : s'.connectedPid = s.connectedPid ∨ s'.connectedPid = 0)
      (hclient : pc'.client = none ∨ pc'.client = pc.client)
      (hauthorised : pc'.authorised = none ∨ pc'.authorised = pc.authorised) :
      ProducerEffect s pc a (pc', s')

namespace ProducerEffect

variable {s : BufferQueueProducer} {t : ℕ}

theorem of_connect {reply : Option Reply} {pid : Int} {c : ProducerCall}
    (hc : c = .connect ∨ ∃ config, c = .requestBuffer config) :
    ProducerEffect s (.idle reply) (.call pid c) (s.startCall pid c) := by
  by_cases hok : (s.connect pid).1 = .ok
  · have hconnect := BufferQueueProducer.connect_of_ok hok
    have hfree (h : s.connectedPid = 0) :
        takesOver s (.idle reply) (.call pid c) = some pid := by
      rcases hc with rfl | ⟨config, rfl⟩ <;> simp [takesOver, h, hok]
    have hown (h : s.connectedPid ≠ 0) : s.connectedPid = pid :=
      (BufferQueueProducer.connect_ok.mp hok).1.resolve_left h
    rcases hc with rfl | ⟨config, rfl⟩
    · simp only [BufferQueueProducer.startCall, hconnect]
      exact .connects hfree hown (.inl rfl) rfl
    · simp only [BufferQueueProducer.startCall, hconnect, if_true]
      exact .connects hfree hown (.inr rfl) rfl
  · have hstay := BufferQueueProducer.connect_of_error hok
    rcases hc with rfl | ⟨config, rfl⟩
    · simp only [BufferQueueProducer.startCall, hstay]
      exact .serves (.inl rfl) (.inl rfl) (.inl rfl)
    · simp only [BufferQueueProducer.startCall, hstay, if_neg hok]
      exact .serves (.inl rfl) (.inl rfl) (.inl rfl)

theorem of_startCall (reply : Option Reply) (pid : Int) (c : ProducerCall) :
    ProducerEffect s (.idle reply) (.call pid c) (s.startCall pid c) := by
  cases c with
  | connect => exact of_connect (.inl rfl)
  | requestBuffer config => exact of_connect (.inr ⟨config, rfl⟩)
  | disconnect =>
    unfold BufferQueueProducer.startCall BufferQueueProducer.disconnectLocked
    by_cases hok : s.checkConnectLocked pid = .ok
    · obtain ⟨hconnected, hpid⟩ := BufferQueueProducer.checkConnectLocked_ok.mp hok
      simp only [hok, ne_eq, not_true_eq_false, if_false, if_true]
      exact .authorises hconnected hpid (.inr rfl) rfl rfl
    · simp only [ne_eq, hok, not_false_eq_true, if_true, if_false]
      exact .serves (.inl rfl) (.inl rfl) (.inl rfl)
  | cleanCache =>
    by_cases hok : s.checkConnectLocked pid = .ok
    · obtain ⟨hconnected, hpid⟩ := BufferQueueProducer.checkConnectLocked_ok.mp hok
      simp only [BufferQueueProducer.startCall, hok, if_true]
      exact .authorises hconnected hpid (.inl rfl) rfl rfl
    · simp only [BufferQueueProducer.startCall, if_neg hok]
      exact .serves (.inl rfl) (.inl rfl) (.inl rfl)
  | goBackground =>
    by_cases hok : s.checkConnectLocked pid = .ok
    · obtain ⟨hconnected, hpid⟩ := BufferQueueProducer.checkConnectLocked_ok.mp hok
      simp only [BufferQueueProducer.startCall, hok, if_true]
      exact .authorises hconnected hpid (.inl rfl) rfl rfl
    · simp only [BufferQueueProducer.startCall, if_neg hok]
      exact .serves (.inl rfl) (.inl rfl) (.inl rfl)
  | remoteDied =>
    unfold BufferQueueProducer.startCall BufferQueueProducer.remoteDiedLocked
    by_cases hnone : s.connectedPid = 0
    · simp only [hnone, if_true]
      exact .serves (.inl rfl) (.inl rfl) (.inl rfl)
    · simp only [hnone, if_false, if_true]
      exact .serves (.inr rfl) (.inl rfl) (.inl rfl)

theorem of_queueSection {client : Option Int} {pc₀ : Pc} {a₀ : Action} {pc : ProducerPc}
    {a : ProducerAction} {r : ProducerPc × BufferQueueProducer}
    (h : s.queueSection t client pc₀ a₀ = some r) (hclient : client = none ∨ client = pc.client) :
    ProducerEffect s pc a r := by
  obtain ⟨⟨pc₁, q₁⟩, -, rfl⟩ := Option.map_eq_some_iff.mp h
  refine .serves (.inl rfl) ?_ ?_
  · cases pc₁ <;> first | exact .inl rfl | exact hclient
  · cases pc₁ <;> exact .inl rfl

theorem of_advance {pc : ProducerPc} {a : ProducerAction} {r : ProducerPc × BufferQueueProducer}
    (h : pc.advance t s a = some r) : ProducerEffect s pc a r := by
  unfold ProducerPc.advance at h
  split at h
  · cases h
    exact of_startCall _ _ _
  · exact of_queueSection h (.inl rfl)
  · exact of_queueSection h (.inr rfl)
  · exact of_queueSection h (.inr rfl)
  · split_ifs at h <;> cases h
    · exact .serves (.inl rfl) (.inl rfl) (.inr rfl)
    · exact .serves (.inl rfl) (.inl rfl) (.inr rfl)
    · exact .serves (.inl rfl) (.inl rfl) (.inl rfl)
  · rename_i authorised background
    split_ifs at h <;> cases h
    · exact .serves (.inl rfl) (.inl rfl) (.inr rfl)
    · exact .serves (.inl rfl) (.inl rfl) (.inl rfl)
  · split_ifs at h
    cases h
    exact .serves (.inl rfl) (.inl rfl) (.inl rfl)
  · cases h

end ProducerEffect

/-- Nothing of another client is left while one is connected, and nothing of another client is
cached while a call is on its way to clear the cache. -/
structure Tidy (m : Server) : Prop where
  owned : m.shared.1.connectedPid ≠ 0 → m.OwnedBy m.shared.1.connectedPid
  requests : m.shared.1.connectedPid ≠ 0 → m.RequestsOnly m.shared.1.connectedPid
  cleans : ∀ u pid, (m.procs u).authorised = some pid → m.OwnedBy pid

section Steps

variable {m m' : Server} {l : ℕ × ProducerAction}

theorem serverThread_cases (h : Turn serverThread m l m') :
    ∃ r, (m.procs l.1).advance l.1 m.shared.1 l.2 = some r ∧
      m' = m.put l.1 (r.1, r.2,
        recordRequested l.1 m.shared.2 m.shared.1 (m.procs l.1) l.2 r) := by
  obtain ⟨r', hr', rfl⟩ := h.cases
  obtain ⟨r, hr, rfl⟩ := Thread.observed_eq_some.mp hr'
  exact ⟨r, hr, rfl⟩

/-- Only a grant to another client can end that everything belongs to `pid`. -/
theorem Server.OwnedBy.step {pid : Int} (h : m.OwnedBy pid) (hturn : Turn serverThread m l m')
    (hgrant : ∀ other, (m.procs l.1).client = some other →
      grants l.1 m.shared.1 (m.procs l.1) l.2 ≠ [] → other = pid) : m'.OwnedBy pid := by
  obtain ⟨r, hr, rfl⟩ := serverThread_cases hturn
  intro k other hcached howner
  change recordRequested l.1 m.shared.2 m.shared.1 (m.procs l.1) l.2 r k = some other at howner
  unfold recordRequested at howner
  split_ifs at howner with hnew hold
  · refine hgrant other howner ?_
    rw [grants, hr]
    exact List.ne_nil_of_mem hnew
  · exact h k other hold.1 howner

theorem Tidy.step (h : Tidy m) (hturn : Turn serverThread m l m') (hok : Orderly m l) : Tidy m' := by
  obtain ⟨r, hr, hm'⟩ := serverThread_cases hturn
  have heffect := ProducerEffect.of_advance hr
  have hself : m'.procs l.1 = r.1 := by
    rw [hm']
    exact Machine.procs_put_self m l.1 _
  have hothers (u : ℕ) (hu : u ≠ l.1) : m'.procs u = m.procs u := by
    rw [hm']
    exact Machine.procs_put_ne m _ hu
  have hconnected : m'.shared.1.connectedPid = r.2.connectedPid := by rw [hm']; rfl
  have hsame {s' : BufferQueueProducer}
      (hafter : s'.connectedPid = m.shared.1.connectedPid ∨ s'.connectedPid = 0)
      (hne : m'.shared.1.connectedPid ≠ 0) (hs' : r.2 = s') :
      m.shared.1.connectedPid ≠ 0 ∧ m'.shared.1.connectedPid = m.shared.1.connectedPid := by
    rw [hconnected, hs'] at hne ⊢
    have hstay := hafter.resolve_right hne
    exact ⟨hstay ▸ hne, hstay⟩
  -- a call that was pending before the step
  have hpending (u : ℕ) (pid : Int) (hu : (m.procs u).authorised = some pid) : m'.OwnedBy pid :=
    (h.cleans u pid hu).step hturn fun other hclient hgrant =>
      (hok.request other hclient hgrant u pid hu).symm
  generalize hpc : m.procs l.1 = pc at heffect
  generalize ha : l.2 = a at heffect
  obtain ⟨pc', s'⟩ := r
  cases heffect with
  | @connects reply pid c pc' hfree hown hclient hauthorised =>
    have hleft : m.OwnedBy pid ∧ m.RequestsOnly pid := by
      by_cases hnone : m.shared.1.connectedPid = 0
      · exact hok.takeover pid (by rw [hpc, ha]; exact hfree hnone)
      · rw [← hown hnone]
        exact ⟨h.owned hnone, h.requests hnone⟩
    have hconnected : m'.shared.1.connectedPid = pid := hconnected
    refine ⟨fun _ => ?_, fun _ u other hu => ?_, fun u other hu => ?_⟩
    · rw [hconnected]
      refine hleft.1.step hturn fun other hnoclient => ?_
      rw [hpc] at hnoclient
      cases hnoclient
    · rw [hconnected]
      by_cases hut : u = l.1
      · rw [hut, hself] at hu
        rcases hclient with hclient | hclient
        · rw [hclient] at hu
          cases hu
        · rw [hclient] at hu
          exact (Option.some.inj hu).symm
      · rw [hothers u hut] at hu
        exact hleft.2 u other hu
    · by_cases hut : u = l.1
      · rw [hut, hself, hauthorised] at hu
        cases hu
      · rw [hothers u hut] at hu
        exact hpending u other hu
  | @authorises reply pid c pc' s' hconn hpid hafter hclient hauthorised =>
    have howned : m'.OwnedBy m.shared.1.connectedPid := by
      refine (h.owned hconn).step hturn fun other hnoclient => ?_
      rw [hpc] at hnoclient
      cases hnoclient
    refine ⟨fun hne => ?_, fun hne u other hu => ?_, fun u other hu => ?_⟩
    · rw [(hsame hafter hne rfl).2]
      exact howned
    · rw [(hsame hafter hne rfl).2]
      by_cases hut : u = l.1
      · rw [hut, hself, hclient] at hu
        cases hu
      · rw [hothers u hut] at hu
        exact h.requests hconn u other hu
    · by_cases hut : u = l.1
      · rw [hut, hself, hauthorised] at hu
        rw [← Option.some.inj hu, ← hpid]
        exact howned
      · rw [hothers u hut] at hu
        exact hpending u other hu
  | @serves pc pc' a s' hafter hclient hauthorised =>
    refine ⟨fun hne => ?_, fun hne u other hu => ?_, fun u other hu => ?_⟩
    · obtain ⟨hconn, hpid⟩ := hsame hafter hne rfl
      rw [hpid]
      exact (h.owned hconn).step hturn fun other hc _ => h.requests hconn l.1 other hc
    · obtain ⟨hconn, hpid⟩ := hsame hafter hne rfl
      rw [hpid]
      by_cases hut : u = l.1
      · rw [hut, hself] at hu
        rcases hclient with hclient | hclient
        · rw [hclient] at hu
          cases hu
        · rw [hclient, ← hpc] at hu
          exact h.requests hconn l.1 other hu
      · rw [hothers u hut] at hu
        exact h.requests hconn u other hu
    · by_cases hut : u = l.1
      · rw [hut, hself] at hu
        rcases hauthorised with hauthorised | hauthorised
        · rw [hauthorised] at hu
          cases hu
        · rw [hauthorised, ← hpc] at hu
          exact hpending l.1 other hu
      · rw [hothers u hut] at hu
        exact hpending u other hu

def SparesOthers (m : Server) (l : ℕ × ProducerAction) (m' : Server) : Prop :=
  ∀ pid, (m.procs l.1).authorised = some pid → ∀ k other, m.cached k → m'.cached k = false →
    m.shared.2 k = some other → other = pid

end Steps

theorem tidy_start (q : BufferQueue) : Tidy (Server.start q) := by
  refine ⟨fun h => absurd rfl h, fun h => absurd rfl h, fun u pid hu => ?_⟩
  cases hu

/-- As long as a client takes the connection only when nothing is left of the others, and no request
gets a buffer while a call of another client is still to clear the cache, no call clears away what
another client has requested. -/
theorem cleaning_spares_others {q : BufferQueue} {ls : List (ℕ × ProducerAction)} {m : Server}
    (run : Run (restrict (Turn serverThread) Orderly) (Server.start q) ls m) :
    ∀ l m', Turn serverThread m l m' → SparesOthers m l m' := by
  have htidy : Tidy m :=
    run.invariant (fun _ _ _ h hstep => Tidy.step h hstep.1 hstep.2) (tidy_start q)
  intro l m' _ pid hauthorised k other hcached _ howner
  exact htidy.cleans l.1 pid hauthorised k other hcached howner

theorem Orderly.of_still {m : Server} {l : ℕ × ProducerAction}
    (htakes : takesOver m.shared.1 (m.procs l.1) l.2 = none)
    (hgrants : grants l.1 m.shared.1 (m.procs l.1) l.2 = []) : Orderly m l := by
  refine ⟨fun pid h => ?_, fun pid _ h => absurd hgrants h⟩
  rw [htakes] at h
  cases h

def requestAndClean : List (ℕ × ProducerAction) :=
  [(0, .call 1 (.requestBuffer sampleConfig)), (0, .go), (0, .queue (.allocated ⟨7, 7, true, true⟩)),
    (0, .call 1 .cleanCache)]

def firstServer : Server := .start (.start { listener := true })

theorem requestAndClean_run :
    Run (restrict (Turn serverThread) Orderly) firstServer requestAndClean
      (execute (Machine.next serverThread) firstServer requestAndClean) := by
  have hstep (m : Server) (l : ℕ × ProducerAction)
      (h : (m.next? serverThread l).isSome ∧ Orderly m l) :
      restrict (Turn serverThread) Orderly m l (m.next serverThread l) := ⟨Turn.next h.1, h.2⟩
  refine .of_legal hstep ⟨⟨by decide, ?_⟩, ⟨by decide, ?_⟩, ⟨by decide, ?_⟩, ⟨by decide, ?_⟩, trivial⟩
  · refine ⟨fun pid _ => ⟨fun k other _ h => ?_, fun u other h => ?_⟩, fun pid h => ?_⟩
    all_goals cases h
  · exact .of_still rfl (by decide)
  · refine ⟨fun pid h => (by cases h), fun pid _ _ u other h => ?_⟩
    by_cases hu : u = 0
    · subst hu
      cases h
    · have hstill : (execute (Machine.next serverThread) firstServer
          (requestAndClean.take 2)).procs u = .idle none :=
        Machine.procs_execute (by simp [requestAndClean, hu]) firstServer
      change ((execute (Machine.next serverThread) firstServer
        (requestAndClean.take 2)).procs u).authorised = some other at h
      rw [hstill] at h
      cases h
  · exact .of_still rfl (by decide)

theorem cleaning_spares_others_alone :
    SparesOthers (execute (Machine.next serverThread) firstServer requestAndClean) (0, .go)
      (Machine.next serverThread (execute (Machine.next serverThread) firstServer requestAndClean)
        (0, .go)) :=
  cleaning_spares_others requestAndClean_run _ _ (Turn.next (by decide))

def handOver : List (ℕ × ProducerAction) :=
  [(0, .call 1 .connect), (0, .call 1 .disconnect), (1, .call 2 (.requestBuffer sampleConfig)),
    (1, .go), (1, .queue (.allocated ⟨7, 7, true, true⟩))]

/-- Then the cache is cleared for client 1, and the buffer of client 2 is gone. -/
theorem successor_loses_buffer :
    ¬ ∀ (q : BufferQueue) (ls : List (ℕ × ProducerAction)) (m : Server),
      Run (Turn serverThread) (Server.start q) ls m →
        ∀ l m', Turn serverThread m l m' → SparesOthers m l m' := by
  intro h
  have run : Run (Turn serverThread) firstServer handOver
      (execute (Machine.next serverThread) firstServer handOver) :=
    .of_legal (fun _ _ => Turn.next) (by decide)
  have hspares := h _ _ _ run (0, .go) _ (Turn.next (by decide))
  exact absurd (hspares 1 rfl 7 2 (by decide) (by decide) (by decide)) (by decide)

end GraphicSurface
