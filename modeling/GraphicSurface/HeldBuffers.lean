import GraphicSurface.Circulation
import GraphicSurface.FlushRace
import GraphicSurface.ListenerHandOuts

/-! Buffers that `RequestBuffer` has returned, while a release hands buffers to the listener and
other threads request, flush and cancel: who takes such a buffer away again. -/

namespace GraphicSurface

open Interleaving Runs SlotPool

def Pc.detachesForConsumer : Pc → Action → Bool
  | idle _, .call (.detachBufferFromQueue _ .consumerInvoker _) | detachDelete _ _, .go => true
  | _, _ => false

/-- A release or a flush that has to wait for a running allocation before it deletes its buffer. -/
def Pc.awaitsDeletion (q : BufferQueue) : Pc → Action → Bool
  | idle _, .call (.releaseBuffer sequence _ _ _) => q.releaseWaits sequence
  | flushDo f, .go => q.releaseWaits f.sequence
  | _, _ => false

def Pc.returned : Pc → List ℕ
  | idle (some (.request reply)) => if reply.ret = .ok then [reply.retval.sequence] else []
  | _ => []

def Pc.withdraws : Pc → Action → Option ℕ
  | idle _, .call (.cancelBuffer sequence _) => some sequence
  | idle _, .call (.detachBufferFromQueue sequence .producerInvoker _) => some sequence
  | clientCancel _ (d :: _), .go => some d.1
  | _, _ => none

def Pc.flushes : Pc → Action → Option ℕ
  | flushCancel f, .go | flushDo f, .go => some f.sequence
  | _, _ => none

/-- The number that `OnReleaseBufferWithSequenceAndFence` cancels after a callback that failed. -/
def Pc.takesBack : Pc → Action → Option ℕ
  | takeBack (d :: _), .go => some d.1
  | _, _ => none

def Action.flushCalled : Action → Option ℕ
  | .call (.flushBuffer f) => some f.sequence
  | _ => none

/-- `held` has the numbers that `RequestBuffer` has returned and that have been requested ever
since. `current t` is the number that the last call of thread `t` is to flush, unless a request has
returned the number since that call. -/
structure Holdings where
  held : List ℕ
  current : ℕ → Option ℕ

def recordHoldings (t : ℕ) (s : Holdings) (_ : BufferQueue) (_ : Pc) (a : Action)
    (r : Pc × BufferQueue) : Holdings where
  held := (s.held ++ r.1.returned).filter fun k => r.2.stateOf k = some .requested
  current u := if u = t ∧ a.isCall then a.flushCalled else (s.current u).filter (· ∉ r.1.returned)

/-- The calls of the producer's threads and of a consumer that acquires and releases. -/
def Contends (_ : ℕ) (_ : BufferQueue × Holdings) (pc : Pc) (a : Action) : Prop :=
  a.circulates ∧ pc.detachesForConsumer a = false

/-- No callback that has failed has its number taken back, and no flush goes on, after a request
has returned the number; no second half of a flush meets a buffer that is free or flushed, and no
deletion has to wait. -/
def Uncontested (t : ℕ) (s : BufferQueue × Holdings) (pc : Pc) (a : Action) : Prop :=
  Contends t s pc a ∧ pc.awaitsDeletion s.1 a = false ∧ pc.collides s.1 a = false ∧
    (∀ k ∈ pc.takesBack a, k ∉ s.2.held) ∧
    ∀ k ∈ pc.flushes a, k ∈ s.2.held → s.2.current t = some k

theorem Lends.stays {keep : Bool} {q q' : BufferQueue} {k : ℕ} (h : Lends keep q q')
    (hk : q.stateOf k = some .requested) : q'.stateOf k = some .requested := by
  obtain ⟨e, he, hs⟩ := Option.map_eq_some_iff.mp hk
  have hout : ¬ e.Parked := by simp [BufferElement.Parked, hs]
  obtain ⟨e', he', hcore⟩ := h.kept k e he hout
  simp [BufferQueue.stateOf, he', hcore.state, hs]

namespace BufferQueue

variable {q : BufferQueue} {k : ℕ}

theorem doFlushBufferLocked_others (q : BufferQueue) (f : FlushArgs) (hne : f.sequence ≠ k) :
    (q.doFlushBufferLocked f.sequence f.bedata f.fence f.config f.env).2.stateOf k =
      q.stateOf k := by
  unfold doFlushBufferLocked
  split
  · rfl
  · split
    · simp [stateOf, find_deleteNoWait, hne]
    · split
      · rfl
      · dsimp only
        split <;> simp [stateOf, commitFlush, prepareFlush, hne]

theorem acquireBuffer_stays (h : q.Agrees) (now : Int) (hk : q.stateOf k = some .requested) :
    (q.acquireBuffer now).2.stateOf k = some .requested := by
  rcases acquire_cases h now with hsame | ⟨j, e, he, hs, hcache⟩
  · rwa [hsame]
  · have hne : j ≠ k := by
      rintro rfl
      simp [stateOf, he, hs] at hk
    rw [← hk]
    simp [stateOf, hcache, hne]

theorem releaseSection_stays (h : q.Agrees) {sequence : ℕ} (fence : Option SyncFence)
    (now mergeFd : Int) (hwaits : q.releaseWaits sequence = false) :
    (∀ k, q.stateOf k = some .requested →
        (q.releaseSection sequence fence now mergeFd).2.stateOf k = some .requested) ∧
      (q.releaseSection sequence fence now mergeFd).1.passes := by
  have hrelease := releaseBufferLocked_refines h sequence fence ⟨now, mergeFd, fun _ => true⟩
  have hspares (k : ℕ) (hk : q.stateOf k = some .requested) :=
    releaseBufferLocked_spares sequence fence ⟨now, mergeFd, fun _ => true⟩ hk (.inr rfl)
  unfold releaseSection
  dsimp only
  split
  · rename_i e he
    have hnot : (q.isAllocatingBuffer && e.isDeleting) = false := by
      simpa [releaseWaits, he] using hwaits
    rw [hnot, Bool.false_and, if_neg Bool.false_ne_true]
    split
    · exact ⟨hspares, rfl⟩
    · obtain ⟨hlends, hpc⟩ := afterRelease_lends (hrelease.agrees h)
      exact ⟨fun k hk => hlends.stays (hspares k hk), hpc⟩
  · exact ⟨fun k hk => hk, rfl⟩

theorem flushSection_others (f : FlushArgs) (hwaits : q.releaseWaits f.sequence = false) :
    (∀ k, f.sequence ≠ k → (q.flushSection f).2.stateOf k = q.stateOf k) ∧
      (q.flushSection f).1.passes := by
  unfold releaseWaits at hwaits
  unfold flushSection
  rw [hwaits, if_neg Bool.false_ne_true]
  exact ⟨fun k hne => q.doFlushBufferLocked_others f hne, rfl⟩

theorem detachSection_others (q : BufferQueue) (sequence : ℕ) (isReserveSlot : Bool) :
    (∀ k, sequence ≠ k →
        (q.detachSection sequence .producerInvoker isReserveSlot).2.stateOf k = q.stateOf k) ∧
      (q.detachSection sequence .producerInvoker isReserveSlot).1.passes := by
  unfold detachSection
  rw [if_neg (by simp)]
  refine ⟨fun k hne => ?_, rfl⟩
  rcases q.detach_cases sequence .producerInvoker isReserveSlot with hsame | hfind
  · exact congrArg (·.stateOf k) hsame
  · exact congrArg (Option.map (·.state)) ((hfind k).trans (if_neg hne))

end BufferQueue

/-- The ways in which a step can take a requested buffer away. -/
def Pc.Takes (q : BufferQueue) (pc : Pc) (a : Action) (k : ℕ) : Prop :=
  pc.clears q a = true ∨ pc.withdraws a = some k ∨ pc.flushes a = some k ∨ pc.takesBack a = some k

/-- What a step does to the requested buffers, and where it leads. -/
structure HoldStep (q : BufferQueue) (pc : Pc) (a : Action) (r : Pc × BufferQueue) : Prop where
  stays : ∀ k, q.stateOf k = some .requested → r.2.stateOf k = some .requested ∨ pc.Takes q a k
  circulates : r.1.circulates
  returned : ∀ k ∈ r.1.returned, r.2.stateOf k = some .requested

namespace HoldStep

variable {q : BufferQueue} {pc : Pc} {a : Action} {r : Pc × BufferQueue}

theorem of_passes (hpc : r.1.passes)
    (h : ∀ k, q.stateOf k = some .requested → r.2.stateOf k = some .requested ∨ pc.Takes q a k) :
    HoldStep q pc a r where
  stays := h
  circulates := (Outcome.of_passes (q := q) hpc).circulates
  returned k hk := by
    unfold Pc.passes at hpc
    split at hpc
    · cases hpc
    · rename_i hnot
      unfold Pc.returned at hk
      split at hk
      · rename_i reply heq
        exact absurd heq (hnot reply)
      · cases hk

theorem of_others {j : ℕ} (hpc : r.1.passes) (hj : pc.Takes q a j)
    (h : ∀ k, j ≠ k → r.2.stateOf k = q.stateOf k) : HoldStep q pc a r := by
  refine .of_passes hpc fun k hk => ?_
  by_cases hjk : j = k
  · exact .inr (hjk ▸ hj)
  · exact .inl ((h k hjk).trans hk)

theorem of_same (hpc : r.1.passes) (h : r.2 = q) : HoldStep q pc a r :=
  .of_passes hpc fun k hk => .inl ((congrArg (·.stateOf k) h).trans hk)

theorem of_outcome {keep : Bool} (hlends : Lends keep q r.2) (h : Outcome q r) :
    HoldStep q pc a r where
  stays _ hk := .inl (hlends.stays hk)
  circulates := h.circulates
  returned k hk := by
    unfold Pc.returned at hk
    split at hk
    · rename_i reply heq
      split at hk
      · rename_i hok
        obtain rfl := List.mem_singleton.mp hk
        obtain ⟨⟨e, he, hs⟩, -⟩ := h.granted reply heq hok
        simp [BufferQueue.stateOf, he, hs]
      · cases hk
    · cases hk

end HoldStep

theorem Call.start_holds {q : BufferQueue} (h : q.Agrees) {reply : Option Reply} {c : Call}
    (hc : c.circulates) (hdetach : (Pc.idle reply).detachesForConsumer (.call c) = false)
    (hwaits : (Pc.idle reply).awaitsDeletion q (.call c) = false) :
    HoldStep q (.idle reply) (.call c) (c.start q) := by
  cases c with
  | requestBuffer config =>
    obtain ⟨hlends, houtcome⟩ := BufferQueue.startRequest_lends h config
    exact .of_outcome hlends houtcome
  | cancelBuffer sequence bedata =>
    exact .of_others rfl (.inr (.inl rfl))
      fun k hne => (q.cancelBufferLocked_takesBack sequence bedata).others k (Ne.symm hne)
  | flushBuffer f =>
    unfold Call.start
    dsimp only
    split
    · exact .of_same rfl rfl
    · split <;> exact .of_same rfl rfl
  | detachBufferFromQueue sequence invokerType isReserveSlot =>
    cases invokerType with
    | producerInvoker =>
      obtain ⟨hothers, hpc⟩ := q.detachSection_others sequence isReserveSlot
      exact .of_others hpc (.inr (.inl rfl)) hothers
    | consumerInvoker => cases hdetach
  | acquireBuffer now =>
    exact .of_passes rfl fun k hk => .inl (BufferQueue.acquireBuffer_stays h now hk)
  | releaseBuffer sequence fence now mergeFd =>
    obtain ⟨hstays, hpc⟩ := BufferQueue.releaseSection_stays h fence now mergeFd hwaits
    exact .of_passes hpc fun k hk => .inl (hstays k hk)
  | cleanCache =>
    unfold Call.start
    dsimp only
    split
    · exact .of_same rfl rfl
    · rename_i hflag
      exact .of_passes rfl fun k _ => .inr (.inl (by simpa [Pc.clears] using hflag))
  | requestAndDetachBuffer | attachBufferToQueue | attachBuffer | attachAndFlushBuffer
  | preAllocBuffers | configure => cases hc

/-! The sections that follow the first one of a call, each with what it takes. -/

namespace Pc

variable {q : BufferQueue} {a : Action} {r : Pc × BufferQueue}

theorem requestWait_holds (h : q.Agrees) {detach : Bool} {config : BufferRequestConfig}
    (hpc : (requestWait detach config).circulates)
    (hr : (requestWait detach config).advance q a = some r) :
    HoldStep q (requestWait detach config) a r := by
  obtain rfl : detach = false := by cases detach <;> first | rfl | cases hpc
  cases a with
  | go =>
    obtain ⟨hlends, houtcome⟩ := BufferQueue.requestSection_lends h config
    simp only [advance, Option.ite_none_left_eq_some, Option.some.injEq] at hr
    obtain ⟨-, rfl⟩ := hr
    exact .of_outcome hlends houtcome
  | _ => cases hr

theorem requestBlocked_holds (h : q.Agrees) {detach : Bool} {config : BufferRequestConfig}
    (hpc : (requestBlocked detach config).circulates)
    (hr : (requestBlocked detach config).advance q a = some r) :
    HoldStep q (requestBlocked detach config) a r := by
  obtain rfl : detach = false := by cases detach <;> first | rfl | cases hpc
  cases a with
  | go =>
    obtain ⟨hlends, houtcome⟩ := BufferQueue.reachBlocked_lends h config
    obtain rfl := Option.some.inj hr
    exact .of_outcome hlends houtcome
  | _ => cases hr

theorem allocating_holds {detach : Bool} {point : ReusePoint}
    (hpc : (allocating detach point).circulates) (hfresh : a.fresh q (allocating detach point))
    (hr : (allocating detach point).advance q a = some r) :
    HoldStep q (allocating detach point) a r := by
  obtain ⟨rfl, hpoint⟩ : detach = false ∧ ∀ reply, point ≠ .done reply := by
    cases detach <;> cases point <;> simp_all [circulates]
  cases a with
  | allocated a =>
    have hnew : q.bufferQueueCache.find a.sequence = none := by
      simpa [Action.fresh] using hfresh
    obtain ⟨hlends, houtcome⟩ := BufferQueue.finishRequest_outcome hnew hpoint
    obtain rfl := Option.some.inj hr
    exact .of_outcome hlends houtcome
  | _ => cases hr

theorem flushChecking_holds {f : FlushArgs} (hr : (flushChecking f).advance q a = some r) :
    HoldStep q (flushChecking f) a r := by
  cases a with
  | go =>
    simp only [advance] at hr
    split at hr <;> obtain rfl := Option.some.inj hr <;> exact .of_same rfl rfl
  | _ => cases hr

theorem flushListener_holds {f : FlushArgs} (hr : (flushListener f).advance q a = some r) :
    HoldStep q (flushListener f) a r := by
  cases a with
  | go =>
    obtain rfl := Option.some.inj hr
    refine .of_same ?_ rfl
    dsimp only
    split <;> rfl
  | _ => cases hr

theorem flushCancel_holds {f : FlushArgs} (hr : (flushCancel f).advance q a = some r) :
    HoldStep q (flushCancel f) a r := by
  cases a with
  | go =>
    obtain rfl := Option.some.inj hr
    exact .of_others rfl (.inr (.inr (.inl rfl)))
      fun k hne => (q.cancelBufferLocked_takesBack f.sequence f.bedata).others k (Ne.symm hne)
  | _ => cases hr

theorem flushDo_holds {f : FlushArgs} (hwaits : (flushDo f).awaitsDeletion q a = false)
    (hr : (flushDo f).advance q a = some r) : HoldStep q (flushDo f) a r := by
  cases a with
  | go =>
    obtain ⟨hothers, hpc⟩ := BufferQueue.flushSection_others f hwaits
    obtain rfl := Option.some.inj hr
    exact .of_others hpc (.inr (.inr (.inl rfl))) hothers
  | _ => cases hr

theorem handOutWait_holds (h : q.Agrees) {updateConfig : BufferRequestConfig}
    {configs : List BufferRequestConfig}
    (hr : (handOutWait updateConfig configs).advance q a = some r) :
    HoldStep q (handOutWait updateConfig configs) a r := by
  cases a with
  | go =>
    obtain ⟨hlends, hpc⟩ := BufferQueue.handOutResume_lends h updateConfig configs
    simp only [advance, Option.ite_none_left_eq_some, Option.some.injEq] at hr
    obtain ⟨-, rfl⟩ := hr
    exact .of_passes hpc fun k hk => .inl (hlends.stays hk)
  | _ => cases hr

variable {handed : List (ℕ × Option SyncFence)}

theorem releaseCallback_holds (hr : (releaseCallback handed).advance q a = some r) :
    HoldStep q (releaseCallback handed) a r := by
  cases a with
  | go =>
    obtain rfl := Option.some.inj hr
    refine .of_same ?_ rfl
    dsimp only
    split
    · exact BufferQueue.nextCallback_passes handed
    · rfl
  | _ => cases hr

theorem callback_holds (hr : (callback handed).advance q a = some r) :
    HoldStep q (callback handed) a r := by
  cases a with
  | answered path =>
    cases path with
    | notCached | noFunction bedata =>
      obtain rfl := Option.some.inj hr
      exact .of_same rfl rfl
    | function ok =>
      obtain rfl := Option.some.inj hr
      cases ok with
      | false => exact .of_same rfl rfl
      | true => exact .of_same (BufferQueue.nextCallback_passes handed.tail) rfl
  | _ => cases hr

theorem clientCancel_holds {bedata : Option ExtraData}
    (hr : (clientCancel bedata handed).advance q a = some r) :
    HoldStep q (clientCancel bedata handed) a r := by
  cases a with
  | go =>
    cases handed with
    | nil => cases hr
    | cons d rest =>
      obtain rfl := Option.some.inj hr
      refine .of_others rfl (.inr (.inl rfl)) fun k hne => ?_
      dsimp only
      split
      · exact (q.cancelBufferLocked_takesBack d.1 bedata).others k (Ne.symm hne)
      · rfl
  | _ => cases hr

theorem takeBack_holds (hr : (takeBack handed).advance q a = some r) :
    HoldStep q (takeBack handed) a r := by
  cases a with
  | go =>
    cases handed with
    | nil => cases hr
    | cons d rest =>
      obtain rfl := Option.some.inj hr
      exact .of_others (BufferQueue.nextCallback_passes rest) (.inr (.inr (.inr rfl)))
        fun k hne => (q.takeBack_takesBack d.1).others k (Ne.symm hne)
  | _ => cases hr

theorem advance_holds (h : q.Agrees) {pc : Pc} (hpc : pc.circulates) (ha : a.circulates)
    (hdetach : pc.detachesForConsumer a = false) (hwaits : pc.awaitsDeletion q a = false)
    (hfresh : a.fresh q pc) (hr : pc.advance q a = some r) : HoldStep q pc a r := by
  cases pc with
  | idle reply =>
    cases a with
    | call c =>
      obtain rfl := Option.some.inj hr
      exact Call.start_holds h ha hdetach hwaits
    | _ => cases hr
  | requestWait detach config => exact requestWait_holds h hpc hr
  | requestBlocked detach config => exact requestBlocked_holds h hpc hr
  | allocating detach point => exact allocating_holds hpc hfresh hr
  | flushChecking f => exact flushChecking_holds hr
  | flushListener f => exact flushListener_holds hr
  | flushCancel f => exact flushCancel_holds hr
  | flushDo f => exact flushDo_holds hwaits hr
  | detachDelete sequence isReserveSlot =>
    cases a with
    | go => cases hdetach
    | _ => cases hr
  | handOutWait updateConfig configs => exact handOutWait_holds h hr
  | releaseCallback handed => exact releaseCallback_holds hr
  | callback handed => exact callback_holds hr
  | clientCancel bedata handed => exact clientCancel_holds hr
  | takeBack handed => exact takeBack_holds hr
  | clearWait =>
    cases a with
    | go =>
      simp only [advance, Option.ite_none_left_eq_some, Option.some.injEq] at hr
      obtain ⟨-, rfl⟩ := hr
      exact .of_passes rfl fun k _ => .inr (.inl rfl)
    | _ => cases hr
  | _ => cases hpc

end Pc

theorem Pc.calm_of_circulates {q : BufferQueue} {pc : Pc} {a : Action} (hpc : pc.circulates)
    (hdetach : pc.detachesForConsumer a = false) (hwaits : pc.awaitsDeletion q a = false)
    (hapart : pc.collides q a = false) : pc.Calm q a := by
  unfold Calm
  split
  · rename_i c
    cases c with
    | releaseBuffer => exact hwaits
    | _ => trivial
  · exact hapart
  · cases hdetach
  · cases hpc
  · cases hpc
  · cases hpc
  · trivial

abbrev holdThread : Thread (BufferQueue × Holdings) Pc Action :=
  Thread.observed queueThread recordHoldings

def holdStart (q : BufferQueue) : Machine (BufferQueue × Holdings) Pc :=
  ⟨(q, ⟨[], fun _ => none⟩), fun _ => .idle none⟩

structure HoldInv (s : BufferQueue × Holdings) : Prop where
  agrees : s.1.Agrees
  requested : ∀ k ∈ s.2.held, s.1.stateOf k = some .requested

theorem holdThread_step {t : ℕ} {s : BufferQueue × Holdings} {pc : Pc} {a : Action}
    {r : Pc × BufferQueue × Holdings} (hinv : HoldInv s) (hpc : pc.circulates)
    (hok : Uncontested t s pc a) (hr : holdThread t s pc a = some r) :
    HoldStep s.1 pc a (r.1, r.2.1) ∧ HoldInv r.2 ∧ ∀ k ∈ r.1.returned, k ∈ r.2.2.held := by
  obtain ⟨r, hr', rfl⟩ := Thread.observed_eq_some.mp hr
  obtain ⟨⟨ha, hdetach⟩, hwaits, hapart, -⟩ := hok
  obtain ⟨hfresh, hadvance, -⟩ := queueThread_eq_some.mp hr'
  have hcalm := Pc.calm_of_circulates hpc hdetach hwaits hapart
  have hstep := Pc.advance_holds hinv.agrees hpc ha hdetach hwaits hfresh hadvance
  refine ⟨hstep, ⟨queueThread_agrees hinv.agrees hcalm hr', fun k hk => ?_⟩, fun k hk => ?_⟩
  · simpa using (List.mem_filter.mp hk).2
  · exact List.mem_filter.mpr ⟨List.mem_append_right _ hk, by simpa using hstep.returned k hk⟩

theorem holdings_invariant {q : BufferQueue} (hq : Reachable q) {ls : List (ℕ × Action)}
    {m : Machine (BufferQueue × Holdings) Pc}
    (run : Run (TurnIf holdThread Uncontested) (holdStart q) ls m) :
    HoldInv m.shared ∧ ∀ t, (m.procs t).circulates = true := by
  refine rely_guarantee HoldInv (fun _ _ pc => pc.circulates = true) ?own ?others ?inv ?loc run
  case own =>
    intro t s pc a r hinv hpc hok hr
    obtain ⟨hstep, hinv', -⟩ := holdThread_step hinv hpc hok hr
    exact ⟨hinv', hstep.circulates⟩
  case others => exact fun _ _ _ _ _ _ _ _ _ _ _ _ hpc => hpc
  case inv => exact ⟨hq.agrees, by simp [holdStart]⟩
  case loc => exact fun _ => rfl

instance (t : ℕ) (s : BufferQueue × Holdings) (pc : Pc) (a : Action) :
    Decidable (Contends t s pc a) := inferInstanceAs (Decidable (_ = true ∧ _))

instance (t : ℕ) (s : BufferQueue × Holdings) (pc : Pc) (a : Action) :
    Decidable (Uncontested t s pc a) :=
  inferInstanceAs (Decidable (_ ∧ _ ∧ _ ∧ (∀ k ∈ pc.takesBack a, _) ∧ ∀ k ∈ pc.flushes a, _ → _))

theorem run_holding {ok : ℕ → BufferQueue × Holdings → Pc → Action → Prop}
    {m : Machine (BufferQueue × Holdings) Pc} {ls : List (ℕ × Action)}
    (legal : Legal (Machine.next holdThread)
      (fun m l => (m.next? holdThread l).isSome ∧ ok l.1 m.shared (m.procs l.1) l.2) m ls) :
    Run (TurnIf holdThread ok) m ls (execute (Machine.next holdThread) m ls) :=
  .of_legal (fun _ _ h => ⟨Turn.next h.1, h.2⟩) legal

/-- The client has no function for the buffer that the release of thread 0 hands out: it cancels the
buffer, and thread 1 requests it. -/
def requestBetween : List (ℕ × Action) :=
  releaseHeld [(0, .go), (0, .answered (.noFunction (some ∅))), (0, .go),
    (1, .call (.requestBuffer sampleConfig))]

/-- The same with the server's cancel before the request. -/
def requestAfter : List (ℕ × Action) :=
  releaseHeld [(0, .go), (0, .answered (.noFunction (some ∅))), (0, .go), (0, .go),
    (1, .call (.requestBuffer sampleConfig))]

end GraphicSurface
