import GraphicSurface.Runs

/-! The tracker of acquire fences, with the GPU frequency control on. `TrackFence` is called from any
thread and takes no lock; the tasks that it posts run on one worker, in the order of posting. -/

namespace GraphicSurface

open Runs

/-- How far a call of `TrackFence` is. -/
inductive TrackPhase
  /-- It has found its fence signalled. -/
  | signaled
  /-- It has raised `fencesQueued_` for a signalled fence. -/
  | counted
  /-- It has found its fence pending. -/
  | pending
  /-- It has read `fencesQueued_` for its announcement. -/
  | loaded (id : ℕ)
  /-- It has sent the id. -/
  | announced
  /-- It has posted the task, but not raised `fencesQueued_`. -/
  | posted
  | returned
deriving DecidableEq

def TrackPhase.settled : TrackPhase → Bool
  | announced | posted | returned => true
  | signaled | counted | pending | loaded _ => false

/-- Between the load of `fencesQueued_` for an announcement and its raise. -/
def TrackPhase.opened : TrackPhase → Bool
  | loaded _ | announced | posted => true
  | signaled | counted | pending | returned => false

/-- The other tasks of the worker touch no counter: the report of a slow fence, the setting of the
thread's priority. -/
inductive TrackerTask
  | loop (call : ℕ)
  | other
deriving DecidableEq

inductive WorkerPhase
  | idle
  /-- In `Loop`, before `MonitorGpuStart`. -/
  | looping (call : ℕ)
  /-- In `Loop`, after it. -/
  | waiting (call : ℕ)
deriving DecidableEq

/-- A call is named by its place in `calls`. The ids that go to `SendFenceId` and `MonitorGpuStart`
are kept with the call that they are for. -/
structure FenceTracker where
  fencesQueued : ℕ := 0
  fencesSignaled : ℕ := 0
  calls : List TrackPhase := []
  tasks : List TrackerTask := []
  worker : WorkerPhase := .idle
  sent : List (ℕ × ℕ) := []
  monitored : List (ℕ × ℕ) := []
deriving DecidableEq

/-- What a call of `TrackFence` is given and reads: no fence for the null pointer, else whether it
has a signal time. -/
structure TrackedFence where
  fence : Option Bool
  traceTag : Bool
  isGpuEnable : Bool
  isScbScene : Bool
deriving DecidableEq

namespace FenceTracker

def enters (call : TrackedFence) : TrackPhase :=
  match call.fence with
  | none => .returned
  | some signaled =>
    if !call.traceTag && !call.isGpuEnable && !call.isScbScene then .returned
    else if signaled then .signaled
    else .pending

def trackFence (t : FenceTracker) (call : TrackedFence) : FenceTracker :=
  { t with calls := t.calls ++ [enters call] }

def raiseQueued (t : FenceTracker) : FenceTracker :=
  { t with fencesQueued := (t.fencesQueued + 1) % 2 ^ 32 }

def raiseSignaled (t : FenceTracker) : FenceTracker :=
  { t with fencesSignaled := (t.fencesSignaled + 1) % 2 ^ 32 }

def moveTo (t : FenceTracker) (c : ℕ) (phase : TrackPhase) : FenceTracker :=
  { t with calls := t.calls.set c phase }

def sendFenceId (t : FenceTracker) (c id : ℕ) : FenceTracker :=
  { t with sent := t.sent ++ [(c, id)] }

def postTask (t : FenceTracker) (task : TrackerTask) : FenceTracker :=
  { t with tasks := t.tasks ++ [task] }

/-- The next step of the call `c`. -/
def advance (t : FenceTracker) (c : ℕ) : FenceTracker :=
  match t.calls[c]? with
  | some .signaled => t.raiseQueued.moveTo c .counted
  | some .counted => t.raiseSignaled.moveTo c .returned
  | some .pending => t.moveTo c (.loaded t.fencesQueued)
  | some (.loaded id) => (t.sendFenceId c id).moveTo c .announced
  | some .announced => (t.postTask (.loop c)).moveTo c .posted
  | some .posted => t.raiseQueued.moveTo c .returned
  | some .returned | none => t

def work (t : FenceTracker) : FenceTracker :=
  match t.worker with
  | .idle =>
    match t.tasks with
    | [] => t
    | .loop c :: tasks => { t with tasks := tasks, worker := .looping c }
    | .other :: tasks => { t with tasks := tasks }
  | .looping c =>
    { t with monitored := t.monitored ++ [(c, t.fencesSignaled)], worker := .waiting c }
  | .waiting _ => { t.raiseSignaled with worker := .idle }

/-- What is asked of the ids and the counters at any time. -/
structure IdsAgree (t : FenceTracker) : Prop where
  distinct : ∀ p ∈ t.sent, ∀ r ∈ t.sent, p.1 ≠ r.1 → p.2 ≠ r.2
  monitored : ∀ p ∈ t.monitored, p ∈ t.sent
  bound : t.fencesSignaled ≤ t.fencesQueued

end FenceTracker

inductive FenceAction
  | track (call : TrackedFence)
  | advance (call : ℕ)
  | work
  | post
deriving DecidableEq

/-- The tracker, and how many already signalled fences have raised `fencesQueued_` and
`fencesSignaled_`; for a pending fence, how many had raised `fencesQueued_` when it was read for its
announcement. -/
structure TrackerHistory where
  tracker : FenceTracker := {}
  countedQueued : ℕ := 0
  countedSignaled : ℕ := 0
  countedBefore : ℕ → ℕ := fun _ => 0

namespace TrackerHistory

def advance (h : TrackerHistory) (c : ℕ) : TrackerHistory :=
  let h' := { h with tracker := h.tracker.advance c }
  match h.tracker.calls[c]? with
  | some .signaled => { h' with countedQueued := h.countedQueued + 1 }
  | some .counted => { h' with countedSignaled := h.countedSignaled + 1 }
  | some .pending => { h' with countedBefore := Function.update h.countedBefore c h.countedQueued }
  | _ => h'

def apply (h : TrackerHistory) : FenceAction → TrackerHistory
  | .track call => { h with tracker := h.tracker.trackFence call }
  | .advance c => h.advance c
  | .work => { h with tracker := h.tracker.work }
  | .post => { h with tracker := h.tracker.postTask .other }

/-- `fencesQueued_` is not read for an announcement while another call has yet to raise it for its
own; the worker starts on a fence when the already signalled fences counted as signalled are as many
as were counted as queued at that reading, and ends it after the call that posted it has raised
`fencesQueued_`; the counter does not wrap. -/
def Orderly (h : TrackerHistory) : FenceAction → Prop
  | .advance c =>
    match h.tracker.calls[c]? with
    | some .pending => ∀ phase ∈ h.tracker.calls, phase.opened = false
    | some .signaled | some .posted => h.tracker.fencesQueued + 1 < 2 ^ 32
    | _ => True
  | .work =>
    match h.tracker.worker with
    | .looping c => h.countedSignaled = h.countedBefore c
    | .waiting c => h.tracker.calls[c]? = some .returned
    | .idle => True
  | .track _ | .post => True

instance (h : TrackerHistory) (a : FenceAction) : Decidable (h.Orderly a) := by
  unfold Orderly
  split
  · split <;> infer_instance
  · split <;> infer_instance
  · infer_instance
  · infer_instance

end TrackerHistory

namespace FenceTracker

variable {t : FenceTracker} {c d : ℕ} {p q r : TrackPhase}

theorem enters_not_open (call : TrackedFence) :
    (enters call).opened = false ∧ .counted ≠ enters call := by
  unfold enters
  cases call.fence with
  | none => exact ⟨rfl, nofun⟩
  | some signaled =>
    dsimp only
    split_ifs <;> exact ⟨rfl, nofun⟩

theorem moveTo_calls (hc : t.calls[c]? = some q) (p : TrackPhase) (d : ℕ) :
    (t.moveTo c p).calls[d]? = if c = d then some p else t.calls[d]? := by
  have hlt : c < t.calls.length := (List.getElem?_eq_some_iff.mp hc).1
  rw [moveTo, List.getElem?_set, if_pos hlt]

/-- A move between two other phases does not change who is in the phase `r`. -/
theorem moveTo_calls_iff (hc : t.calls[c]? = some q) (hq : q ≠ r) (hp : p ≠ r) (d : ℕ) :
    (t.moveTo c p).calls[d]? = some r ↔ t.calls[d]? = some r := by
  rw [moveTo_calls hc]
  split_ifs with hd
  · rw [← hd, hc]
    simp [hp, hq]
  · exact Iff.rfl

theorem moveTo_returned (hc : t.calls[c]? = some q) (hq : q ≠ .returned)
    (hd : t.calls[d]? = some .returned) (p : TrackPhase) :
    (t.moveTo c p).calls[d]? = some .returned := by
  rw [moveTo_calls hc, if_neg, hd]
  rintro rfl
  exact hq (Option.some.inj (hc.symm.trans hd))

/-- No step is left to the call that reads `fencesQueued_` for an announcement. -/
def Settled (t : FenceTracker) (c : ℕ) : Prop := ∃ q, t.calls[c]? = some q ∧ q.settled = true

theorem Settled.moveTo (h : t.Settled d) (hc : t.calls[c]? = some q)
    (hp : q.settled = true → p.settled = true) : (t.moveTo c p).Settled d := by
  obtain ⟨r, hr, hsettled⟩ := h
  unfold Settled
  rw [moveTo_calls hc]
  by_cases hd : c = d
  · rw [if_pos hd]
    rw [← hd, hc] at hr
    exact ⟨p, rfl, hp (Option.some.inj hr ▸ hsettled)⟩
  · rw [if_neg hd]
    exact ⟨r, hr, hsettled⟩

theorem moveTo_count (hc : t.calls[c]? = some q) (p r : TrackPhase) :
    (t.moveTo c p).calls.count r + (if q = r then 1 else 0) =
      t.calls.count r + if p = r then 1 else 0 := by
  obtain ⟨hlt, hget⟩ := List.getElem?_eq_some_iff.mp hc
  have hpos : q = r → 0 < t.calls.count r := by
    rintro rfl
    exact List.count_pos_iff.mpr (hget ▸ List.getElem_mem hlt)
  rw [moveTo, List.count_set hlt, hget]
  simp only [beq_iff_eq]
  split_ifs with hq hp <;> first | omega | (have hsome := hpos hq; omega)

def finished (t : FenceTracker) : List (ℕ × ℕ) :=
  match t.worker with
  | .waiting _ => t.monitored.dropLast
  | _ => t.monitored

theorem finished_part (t : FenceTracker) : t.finished <+: t.monitored := by
  unfold finished
  split
  · exact List.dropLast_prefix _
  · exact List.prefix_refl _

end FenceTracker

def WorkerPhase.taken : WorkerPhase → List ℕ
  | .looping c => [c]
  | _ => []

def TrackerTask.call : TrackerTask → Option ℕ
  | .loop c => some c
  | .other => none

/-- The one call, if any, that has read `fencesQueued_` for its announcement and not raised it. -/
inductive OpenCall
  | none
  | loaded (call id : ℕ)
  | announced (call : ℕ)
  | posted (call : ℕ)

namespace OpenCall

def call : OpenCall → Option ℕ
  | none | loaded _ _ => .none
  | announced c | posted c => some c

def count : OpenCall → ℕ
  | none | loaded _ _ => 0
  | announced _ | posted _ => 1

def toPost : OpenCall → List ℕ
  | announced c => [c]
  | _ => []

end OpenCall

namespace TrackerHistory

open FenceTracker

/-- The ids number the announced fences, shifted by the already signalled ones. -/
structure Issued (h : TrackerHistory) (o : OpenCall) : Prop where
  loaded_iff : ∀ c id, h.tracker.calls[c]? = some (.loaded id) ↔ o = .loaded c id
  announced_iff : ∀ c, h.tracker.calls[c]? = some .announced ↔ o = .announced c
  posted_iff : ∀ c, h.tracker.calls[c]? = some .posted ↔ o = .posted c
  queued : h.tracker.fencesQueued + o.count = h.tracker.sent.length + h.countedQueued
  width : h.tracker.fencesQueued < 2 ^ 32
  counted : h.countedQueued = h.countedSignaled + h.tracker.calls.count .counted
  ids : ∀ (i : ℕ) p, h.tracker.sent[i]? = some p → p.2 = i + h.countedBefore p.1
  before_le : ∀ p ∈ h.tracker.sent, h.countedBefore p.1 ≤ h.countedQueued
  increasing : h.tracker.sent.Pairwise fun p r => p.2 < r.2
  settled : ∀ p ∈ h.tracker.sent, h.tracker.Settled p.1
  opened : ∀ c ∈ o.call, ∃ p ∈ h.tracker.sent, p.1 = c
  next : ∀ c id, o = .loaded c id →
    id = h.tracker.sent.length + h.countedBefore c ∧ h.countedBefore c ≤ h.countedQueued ∧
      ∀ p ∈ h.tracker.sent, h.countedBefore p.1 ≤ h.countedBefore c

/-- The worker serves the fences in the order of their announcements. -/
structure Served (h : TrackerHistory) (o : OpenCall) : Prop where
  ahead : ∃ ahead, h.tracker.sent = h.tracker.monitored ++ ahead ∧ ahead.map Prod.fst =
    h.tracker.worker.taken ++ h.tracker.tasks.filterMap TrackerTask.call ++ o.toPost
  returned : ∀ p ∈ h.tracker.finished, h.tracker.calls[p.1]? = some .returned
  waiting : ∀ c, h.tracker.worker = .waiting c → ∃ id, h.tracker.monitored.getLast? = some (c, id)
  signaled : h.tracker.fencesSignaled = h.tracker.finished.length + h.countedSignaled

def Ordered (h : TrackerHistory) : Prop := ∃ o, h.Issued o ∧ h.Served o

variable {h : TrackerHistory} {o : OpenCall} {c : ℕ}

/-- Among the first announced fences, whose calls have all returned, there is none whose call has yet
to raise `fencesQueued_`. -/
theorem Issued.returned_count (hi : h.Issued o) {done : List (ℕ × ℕ)}
    (hpart : done <+: h.tracker.sent)
    (hreturned : ∀ p ∈ done, h.tracker.calls[p.1]? = some .returned) :
    done.length + o.count ≤ h.tracker.sent.length := by
  have hopen : ∀ c ∈ o.call, h.tracker.calls[c]? ≠ some .returned →
      done.length + 1 ≤ h.tracker.sent.length := by
    intro c hc hunreturned
    by_contra hlen
    have hall : done = h.tracker.sent := hpart.eq_of_length_le (by omega)
    obtain ⟨p, hp, rfl⟩ := hi.opened c hc
    exact hunreturned (hreturned p (hall ▸ hp))
  cases o with
  | none => exact hpart.length_le
  | loaded c id => exact hpart.length_le
  | announced c => exact hopen c rfl (by rw [(hi.announced_iff c).mpr rfl]; decide)
  | posted c => exact hopen c rfl (by rw [(hi.posted_iff c).mpr rfl]; decide)

theorem finished_count (hi : h.Issued o) (hs : h.Served o) :
    h.tracker.finished.length + o.count ≤ h.tracker.sent.length := by
  obtain ⟨ahead, hsent, -⟩ := hs.ahead
  exact hi.returned_count ((finished_part _).trans (hsent ▸ List.prefix_append _ _)) hs.returned

theorem Ordered.idsAgree (h' : h.Ordered) : h.tracker.IdsAgree := by
  obtain ⟨o, hi, hs⟩ := h'
  obtain ⟨ahead, hsent, -⟩ := hs.ahead
  refine ⟨fun p hp r hr hne => ?_, fun p hp => hsent ▸ List.mem_append_left _ hp, ?_⟩
  · have hdistinct : (h.tracker.sent.map Prod.snd).Nodup :=
      List.pairwise_map.mpr (hi.increasing.imp fun hlt => hlt.ne)
    exact fun hsame => hne (congrArg Prod.fst (List.inj_on_of_nodup_map hdistinct hp hr hsame))
  · have hfinished := finished_count hi hs
    have hqueued := hi.queued
    have hcounted := hi.counted
    have hsignaled := hs.signaled
    omega

theorem Served.of_same {h' : TrackerHistory} {o' : OpenCall} (hs : h.Served o)
    (hsent : h'.tracker.sent = h.tracker.sent)
    (hmonitored : h'.tracker.monitored = h.tracker.monitored)
    (hworker : h'.tracker.worker = h.tracker.worker)
    (hline : h'.tracker.tasks.filterMap TrackerTask.call ++ o'.toPost =
      h.tracker.tasks.filterMap TrackerTask.call ++ o.toPost)
    (hreturned : ∀ d : ℕ, h.tracker.calls[d]? = some .returned →
      h'.tracker.calls[d]? = some .returned)
    (hsignaled : h'.tracker.fencesSignaled + h.countedSignaled =
      h.tracker.fencesSignaled + h'.countedSignaled) : h'.Served o' := by
  have hfinished : h'.tracker.finished = h.tracker.finished := by
    unfold finished
    rw [hworker, hmonitored]
  obtain ⟨ahead, hahead, hline'⟩ := hs.ahead
  refine ⟨⟨ahead, ?_, ?_⟩, fun p hp => ?_, fun c hc => ?_, ?_⟩
  · rw [hsent, hmonitored, hahead]
  · rw [hworker, List.append_assoc, hline, ← List.append_assoc, hline']
  · exact hreturned p.1 (hs.returned p (hfinished ▸ hp))
  · rw [hmonitored]
    exact hs.waiting c (hworker ▸ hc)
  · have hold := hs.signaled
    rw [hfinished]
    omega

theorem Ordered.track (h' : h.Ordered) (call : TrackedFence) :
    Ordered { h with tracker := h.tracker.trackFence call } := by
  obtain ⟨o, hi, hs⟩ := h'
  have hphase : ∀ p : TrackPhase, p.opened = true → ∀ d : ℕ,
      (h.tracker.trackFence call).calls[d]? = some p ↔ h.tracker.calls[d]? = some p := by
    intro p hopened d
    have hp : p ≠ enters call := by
      rintro rfl
      rw [(enters_not_open call).1] at hopened
      cases hopened
    rw [trackFence, List.getElem?_append]
    split_ifs with hd
    · exact Iff.rfl
    · rw [List.getElem?_eq_none (not_lt.mp hd), List.getElem?_singleton]
      split_ifs
      · exact iff_of_false (fun h => hp (Option.some.inj h).symm) nofun
      · exact Iff.rfl
  have hkept : ∀ (d : ℕ) p, h.tracker.calls[d]? = some p →
      (h.tracker.trackFence call).calls[d]? = some p := by
    intro d p hd
    rw [trackFence, List.getElem?_append_left (List.getElem?_eq_some_iff.mp hd).1, hd]
  refine ⟨o, ?_, hs.of_same rfl rfl rfl rfl (fun d hd => hkept d _ hd) rfl⟩
  constructor
  · exact fun d id => (hphase _ rfl d).trans (hi.loaded_iff d id)
  · exact fun d => (hphase _ rfl d).trans (hi.announced_iff d)
  · exact fun d => (hphase _ rfl d).trans (hi.posted_iff d)
  · exact hi.queued
  · exact hi.width
  · have hcounted := hi.counted
    have hcount : (h.tracker.trackFence call).calls.count .counted =
        h.tracker.calls.count .counted := by
      rw [trackFence, List.count_append,
        List.count_eq_zero_of_not_mem fun hmem => (enters_not_open call).2 (List.mem_singleton.mp hmem),
        add_zero]
    dsimp only
    omega
  · exact hi.ids
  · exact hi.before_le
  · exact hi.increasing
  · intro p hp
    obtain ⟨q, hq, hsettled⟩ := hi.settled p hp
    exact ⟨q, hkept _ _ hq, hsettled⟩
  · exact hi.opened
  · exact hi.next

theorem Ordered.countQueued (h' : h.Ordered) (hc : h.tracker.calls[c]? = some .signaled)
    (hwidth : h.tracker.fencesQueued + 1 < 2 ^ 32) :
    Ordered { h with
      tracker := h.tracker.raiseQueued.moveTo c .counted
      countedQueued := h.countedQueued + 1 } := by
  obtain ⟨o, hi, hs⟩ := h'
  have hc' : h.tracker.raiseQueued.calls[c]? = some .signaled := hc
  refine ⟨o, ?_, hs.of_same rfl rfl rfl rfl (fun d hd => moveTo_returned hc' (by decide) hd _) rfl⟩
  constructor
  · exact fun d id => (moveTo_calls_iff hc' (by simp) (by simp) d).trans (hi.loaded_iff d id)
  · exact fun d => (moveTo_calls_iff hc' (by decide) (by decide) d).trans (hi.announced_iff d)
  · exact fun d => (moveTo_calls_iff hc' (by decide) (by decide) d).trans (hi.posted_iff d)
  · have hqueued := hi.queued
    change (h.tracker.fencesQueued + 1) % 2 ^ 32 + o.count = _
    rw [Nat.mod_eq_of_lt hwidth]
    dsimp only [moveTo, raiseQueued]
    omega
  · exact Nat.mod_lt _ (by decide)
  · have hcount : (h.tracker.raiseQueued.moveTo c .counted).calls.count .counted + 0 =
        h.tracker.calls.count .counted + 1 := moveTo_count hc' .counted .counted
    have hcounted := hi.counted
    dsimp only
    omega
  · exact hi.ids
  · exact fun p hp => (hi.before_le p hp).trans (Nat.le_succ _)
  · exact hi.increasing
  · exact fun p hp => (hi.settled p hp).moveTo hc' nofun
  · exact hi.opened
  · intro d id hd
    obtain ⟨hid, hle, hmono⟩ := hi.next d id hd
    exact ⟨hid, hle.trans (Nat.le_succ _), hmono⟩

theorem Ordered.countSignaled (h' : h.Ordered) (hc : h.tracker.calls[c]? = some .counted) :
    Ordered { h with
      tracker := h.tracker.raiseSignaled.moveTo c .returned
      countedSignaled := h.countedSignaled + 1 } := by
  have hbound := h'.idsAgree.bound
  obtain ⟨o, hi, hs⟩ := h'
  have hc' : h.tracker.raiseSignaled.calls[c]? = some .counted := hc
  have hcount : (h.tracker.raiseSignaled.moveTo c .returned).calls.count .counted + 1 =
      h.tracker.calls.count .counted + 0 := moveTo_count hc' .returned .counted
  have hcounted := hi.counted
  have hword : h.tracker.fencesSignaled + 1 < 2 ^ 32 := by
    have hfinished := finished_count hi hs
    have hqueued := hi.queued
    have hsignaled := hs.signaled
    have hwidth := hi.width
    omega
  have hraised : h.tracker.raiseSignaled.fencesSignaled = h.tracker.fencesSignaled + 1 :=
    Nat.mod_eq_of_lt hword
  refine ⟨o, ?_, hs.of_same rfl rfl rfl rfl (fun d hd => moveTo_returned hc' (by decide) hd _) ?_⟩
  · constructor
    · exact fun d id => (moveTo_calls_iff hc' (by simp) (by simp) d).trans (hi.loaded_iff d id)
    · exact fun d => (moveTo_calls_iff hc' (by decide) (by decide) d).trans (hi.announced_iff d)
    · exact fun d => (moveTo_calls_iff hc' (by decide) (by decide) d).trans (hi.posted_iff d)
    · exact hi.queued
    · exact hi.width
    · dsimp only
      omega
    · exact hi.ids
    · exact hi.before_le
    · exact hi.increasing
    · exact fun p hp => (hi.settled p hp).moveTo hc' nofun
    · exact hi.opened
    · exact hi.next
  · dsimp only [moveTo]
    omega

/-- Under the condition no call is open, so what is read is the number of raises so far. -/
theorem Ordered.load (h' : h.Ordered) (hc : h.tracker.calls[c]? = some .pending)
    (hnotOpen : ∀ phase ∈ h.tracker.calls, phase.opened = false) :
    Ordered { h with
      tracker := h.tracker.moveTo c (.loaded h.tracker.fencesQueued)
      countedBefore := Function.update h.countedBefore c h.countedQueued } := by
  obtain ⟨o, hi, hs⟩ := h'
  have hclosed : ∀ (d : ℕ) p, h.tracker.calls[d]? = some p → p.opened ≠ true := fun d p hd =>
    ne_true_of_eq_false (hnotOpen p (List.mem_of_getElem? hd))
  have hnone : o = .none := by
    cases o with
    | none => rfl
    | loaded d id => exact absurd rfl (hclosed d _ ((hi.loaded_iff d id).mpr rfl))
    | announced d => exact absurd rfl (hclosed d _ ((hi.announced_iff d).mpr rfl))
    | posted d => exact absurd rfl (hclosed d _ ((hi.posted_iff d).mpr rfl))
  subst hnone
  have hbefore : ∀ p ∈ h.tracker.sent,
      Function.update h.countedBefore c h.countedQueued p.1 = h.countedBefore p.1 := by
    refine fun p hp => Function.update_of_ne ?_ _ _
    rintro rfl
    obtain ⟨q, hq, hsettled⟩ := hi.settled p hp
    rw [hc] at hq
    cases hq
    exact absurd hsettled (by decide)
  have hqueued : h.tracker.fencesQueued = h.tracker.sent.length + h.countedQueued := hi.queued
  refine ⟨.loaded c h.tracker.fencesQueued, ?_,
    hs.of_same rfl rfl rfl rfl (fun d hd => moveTo_returned hc (by decide) hd _) rfl⟩
  constructor
  · intro d id
    rw [moveTo_calls hc, OpenCall.loaded.injEq]
    split_ifs with hd
    · rw [Option.some.injEq, TrackPhase.loaded.injEq]
      exact (and_iff_right hd).symm
    · exact iff_of_false (hclosed d _ · rfl) fun h => hd h.1
  · exact fun d => (moveTo_calls_iff hc (by simp) (by simp) d).trans
      ((hi.announced_iff d).trans (iff_of_false nofun nofun))
  · exact fun d => (moveTo_calls_iff hc (by simp) (by simp) d).trans
      ((hi.posted_iff d).trans (iff_of_false nofun nofun))
  · exact hqueued
  · exact hi.width
  · have hcount := moveTo_count hc (.loaded h.tracker.fencesQueued) .counted
    rw [if_neg (by decide), if_neg nofun] at hcount
    have hcounted := hi.counted
    dsimp only
    omega
  · intro i p hp
    dsimp only
    rw [hbefore p (List.mem_of_getElem? hp)]
    exact hi.ids i p hp
  · intro p hp
    dsimp only
    rw [hbefore p hp]
    exact hi.before_le p hp
  · exact hi.increasing
  · exact fun p hp => (hi.settled p hp).moveTo hc nofun
  · exact nofun
  · rintro d id ⟨⟩
    dsimp only
    rw [Function.update_self]
    refine ⟨hqueued, le_rfl, fun p hp => ?_⟩
    rw [hbefore p hp]
    exact hi.before_le p hp

/-- No other id was sent since the id was read, so it is still the next one. -/
theorem Ordered.send {id : ℕ} (h' : h.Ordered) (hc : h.tracker.calls[c]? = some (.loaded id)) :
    Ordered { h with tracker := (h.tracker.sendFenceId c id).moveTo c .announced } := by
  obtain ⟨o, hi, hs⟩ := h'
  have ho : o = .loaded c id := (hi.loaded_iff c id).mp hc
  subst ho
  have hc' : (h.tracker.sendFenceId c id).calls[c]? = some (.loaded id) := hc
  obtain ⟨hid, hle, hmono⟩ := hi.next c id rfl
  have hqueued : h.tracker.fencesQueued = h.tracker.sent.length + h.countedQueued := hi.queued
  refine ⟨.announced c, ?_, ?_⟩
  · constructor
    · intro d id'
      rw [moveTo_calls hc']
      split_ifs with hd
      · exact iff_of_false nofun nofun
      · refine (hi.loaded_iff d id').trans (iff_of_false ?_ nofun)
        rintro ⟨⟩
        exact hd rfl
    · intro d
      rw [moveTo_calls hc', OpenCall.announced.injEq]
      split_ifs with hd
      · exact iff_of_true rfl hd
      · exact iff_of_false (fun h => by cases (hi.announced_iff d).mp h) hd
    · intro d
      exact (moveTo_calls_iff hc' (by simp) (by simp) d).trans
        ((hi.posted_iff d).trans (iff_of_false nofun nofun))
    · change h.tracker.fencesQueued + 1 = (h.tracker.sent ++ [_]).length + h.countedQueued
      rw [List.length_append, List.length_singleton]
      omega
    · exact hi.width
    · have hcount := moveTo_count hc' .announced .counted
      rw [if_neg nofun, if_neg (by decide)] at hcount
      have hsame : (h.tracker.sendFenceId c id).calls = h.tracker.calls := rfl
      have hcounted := hi.counted
      rw [hsame] at hcount
      dsimp only
      omega
    · intro i p hp
      change (h.tracker.sent ++ [(c, id)])[i]? = some p at hp
      rw [List.getElem?_append] at hp
      split_ifs at hp with hlt
      · exact hi.ids i p hp
      · rw [List.getElem?_singleton] at hp
        split_ifs at hp with hlast
        cases hp
        dsimp only
        omega
    · intro p hp
      rcases List.mem_append.mp hp with hp | hp
      · exact hi.before_le p hp
      · rw [List.mem_singleton.mp hp]
        exact hle
    · refine List.pairwise_append.mpr ⟨hi.increasing, List.pairwise_singleton _ _, ?_⟩
      intro p hp r hr
      obtain ⟨i, hlt, hget⟩ := List.mem_iff_getElem.mp hp
      have hid' := hi.ids i p (List.getElem?_eq_some_iff.mpr ⟨hlt, hget⟩)
      have hle' := hmono p hp
      rw [List.mem_singleton.mp hr]
      dsimp only
      omega
    · intro p hp
      rcases List.mem_append.mp hp with hp | hp
      · exact (hi.settled p hp).moveTo hc' nofun
      · rw [List.mem_singleton.mp hp]
        exact ⟨.announced, by rw [moveTo_calls hc', if_pos rfl], rfl⟩
    · rintro d ⟨⟩
      exact ⟨_, List.mem_append_right _ (List.mem_singleton_self _), rfl⟩
    · exact nofun
  · obtain ⟨ahead, hsent, hline⟩ := hs.ahead
    refine ⟨⟨ahead ++ [(c, id)], ?_, ?_⟩, fun p hp => ?_, hs.waiting, hs.signaled⟩
    · change h.tracker.sent ++ _ = h.tracker.monitored ++ _
      rw [hsent, List.append_assoc]
    · rw [List.map_append, hline]
      exact congrArg (· ++ [c]) (List.append_nil _)
    · exact moveTo_returned hc' nofun (hs.returned p hp) _

theorem Ordered.post (h' : h.Ordered) (hc : h.tracker.calls[c]? = some .announced) :
    Ordered { h with tracker := (h.tracker.postTask (.loop c)).moveTo c .posted } := by
  obtain ⟨o, hi, hs⟩ := h'
  have ho : o = .announced c := (hi.announced_iff c).mp hc
  subst ho
  have hc' : (h.tracker.postTask (.loop c)).calls[c]? = some .announced := hc
  have hline : (h.tracker.tasks ++ [TrackerTask.loop c]).filterMap TrackerTask.call ++ [] =
      h.tracker.tasks.filterMap TrackerTask.call ++ [c] := by
    rw [List.append_nil, List.filterMap_append]
    rfl
  refine ⟨.posted c, ?_,
    hs.of_same rfl rfl rfl hline (fun d hd => moveTo_returned hc' (by decide) hd _) rfl⟩
  constructor
  · intro d id
    exact (moveTo_calls_iff hc' (by simp) (by simp) d).trans
      ((hi.loaded_iff d id).trans (iff_of_false nofun nofun))
  · intro d
    rw [moveTo_calls hc']
    split_ifs with hd
    · exact iff_of_false nofun nofun
    · refine (hi.announced_iff d).trans (iff_of_false ?_ nofun)
      rintro ⟨⟩
      exact hd rfl
  · intro d
    rw [moveTo_calls hc', OpenCall.posted.injEq]
    split_ifs with hd
    · exact iff_of_true rfl hd
    · exact (hi.posted_iff d).trans (iff_of_false nofun hd)
  · exact hi.queued
  · exact hi.width
  · have hcount : ((h.tracker.postTask (.loop c)).moveTo c .posted).calls.count .counted + 0 =
        h.tracker.calls.count .counted + 0 := moveTo_count hc' .posted .counted
    have hcounted := hi.counted
    dsimp only
    omega
  · exact hi.ids
  · exact hi.before_le
  · exact hi.increasing
  · exact fun p hp => (hi.settled p hp).moveTo hc' fun _ => rfl
  · exact hi.opened
  · exact nofun

theorem Ordered.raise (h' : h.Ordered) (hc : h.tracker.calls[c]? = some .posted)
    (hwidth : h.tracker.fencesQueued + 1 < 2 ^ 32) :
    Ordered { h with tracker := h.tracker.raiseQueued.moveTo c .returned } := by
  obtain ⟨o, hi, hs⟩ := h'
  have ho : o = .posted c := (hi.posted_iff c).mp hc
  subst ho
  have hc' : h.tracker.raiseQueued.calls[c]? = some .posted := hc
  have hqueued : h.tracker.fencesQueued + 1 = h.tracker.sent.length + h.countedQueued := hi.queued
  refine ⟨.none, ?_,
    hs.of_same rfl rfl rfl rfl (fun d hd => moveTo_returned hc' (by decide) hd _) rfl⟩
  constructor
  · intro d id
    exact (moveTo_calls_iff hc' (by simp) (by simp) d).trans
      ((hi.loaded_iff d id).trans (iff_of_false nofun nofun))
  · exact fun d => (moveTo_calls_iff hc' (by decide) (by decide) d).trans
      ((hi.announced_iff d).trans (iff_of_false nofun nofun))
  · intro d
    rw [moveTo_calls hc']
    split_ifs with hd
    · exact iff_of_false nofun nofun
    · refine (hi.posted_iff d).trans (iff_of_false ?_ nofun)
      rintro ⟨⟩
      exact hd rfl
  · change (h.tracker.fencesQueued + 1) % 2 ^ 32 + 0 = _
    rw [Nat.mod_eq_of_lt hwidth]
    exact hqueued
  · exact Nat.mod_lt _ (by decide)
  · have hcount : (h.tracker.raiseQueued.moveTo c .returned).calls.count .counted + 0 =
        h.tracker.calls.count .counted + 0 := moveTo_count hc' .returned .counted
    have hcounted := hi.counted
    dsimp only
    omega
  · exact hi.ids
  · exact hi.before_le
  · exact hi.increasing
  · exact fun p hp => (hi.settled p hp).moveTo hc' fun _ => rfl
  · exact nofun
  · exact nofun

theorem Issued.of_worker {t : FenceTracker} (hi : h.Issued o) (hcalls : t.calls = h.tracker.calls)
    (hsent : t.sent = h.tracker.sent) (hqueued : t.fencesQueued = h.tracker.fencesQueued) :
    Issued { h with tracker := t } o := by
  constructor
  · exact hcalls ▸ hi.loaded_iff
  · exact hcalls ▸ hi.announced_iff
  · exact hcalls ▸ hi.posted_iff
  · exact hsent ▸ hqueued ▸ hi.queued
  · exact hqueued ▸ hi.width
  · exact hcalls ▸ hi.counted
  · exact hsent ▸ hi.ids
  · exact hsent ▸ hi.before_le
  · exact hsent ▸ hi.increasing
  · intro p hp
    obtain ⟨q, hq, hsettled⟩ := hi.settled p (hsent ▸ hp)
    exact ⟨q, hcalls ▸ hq, hsettled⟩
  · exact hsent ▸ hi.opened
  · exact hsent ▸ hi.next

theorem Ordered.postOther (h' : h.Ordered) :
    Ordered { h with tracker := h.tracker.postTask .other } := by
  obtain ⟨o, hi, hs⟩ := h'
  refine ⟨o, hi.of_worker rfl rfl rfl, hs.of_same rfl rfl rfl ?_ (fun _ hd => hd) rfl⟩
  change (h.tracker.tasks ++ [TrackerTask.other]).filterMap _ ++ _ = _
  rw [List.filterMap_append]
  exact congrArg (· ++ o.toPost) (List.append_nil _)

theorem Ordered.take (h' : h.Ordered) (hidle : h.tracker.worker = .idle) :
    Ordered { h with tracker := h.tracker.work } := by
  obtain ⟨o, hi, hs⟩ := h'
  cases htasks : h.tracker.tasks with
  | nil =>
    have hwork : h.tracker.work = h.tracker := by
      unfold work
      rw [hidle, htasks]
    rw [hwork]
    exact ⟨o, hi, hs⟩
  | cons task tasks =>
    cases task with
    | loop c =>
      have hwork : h.tracker.work = { h.tracker with tasks := tasks, worker := .looping c } := by
        unfold work
        rw [hidle, htasks]
      have hfinished : h.tracker.finished = h.tracker.monitored := by
        unfold finished
        rw [hidle]
      obtain ⟨ahead, hsent, hline⟩ := hs.ahead
      rw [hidle, htasks] at hline
      rw [hwork]
      exact ⟨o, hi.of_worker rfl rfl rfl, ⟨ahead, hsent, hline⟩, fun p hp =>
        hs.returned p (hfinished ▸ hp), nofun, hs.signaled.trans (by rw [hfinished]; rfl)⟩
    | other =>
      have hwork : h.tracker.work = { h.tracker with tasks := tasks, worker := .idle } := by
        unfold work
        rw [hidle, htasks]
      have hline : tasks.filterMap TrackerTask.call ++ o.toPost =
          h.tracker.tasks.filterMap TrackerTask.call ++ o.toPost := by
        rw [htasks]
        rfl
      rw [hwork]
      exact ⟨o, hi.of_worker rfl rfl rfl,
        hs.of_same rfl rfl hidle.symm hline (fun _ hd => hd) rfl⟩

/-- Under the condition `fencesSignaled_` is the id of the fence that comes next. -/
theorem Ordered.start (h' : h.Ordered) (hlooping : h.tracker.worker = .looping c)
    (hcounted : h.countedSignaled = h.countedBefore c) :
    Ordered { h with tracker := h.tracker.work } := by
  obtain ⟨o, hi, hs⟩ := h'
  obtain ⟨ahead, hsent, hline⟩ := hs.ahead
  have hfinished : h.tracker.finished = h.tracker.monitored := by
    unfold finished
    rw [hlooping]
  rw [hlooping] at hline
  have hwork : h.tracker.work = { h.tracker with
      monitored := h.tracker.monitored ++ [(c, h.tracker.fencesSignaled)]
      worker := .waiting c } := by
    unfold work
    rw [hlooping]
  obtain ⟨p, rest, rfl⟩ : ∃ p rest, ahead = p :: rest := by
    cases ahead with
    | nil => simp [WorkerPhase.taken] at hline
    | cons p rest => exact ⟨p, rest, rfl⟩
  obtain ⟨hcall, hrest⟩ := List.cons.inj hline
  have hid : p.2 = h.tracker.monitored.length + h.countedBefore p.1 :=
    hi.ids _ p (by rw [hsent, List.getElem?_append_right le_rfl, Nat.sub_self]; rfl)
  have hp : p = (c, h.tracker.fencesSignaled) := by
    have hsignaled := hs.signaled
    rw [hfinished, hcounted, ← hcall, ← hid] at hsignaled
    exact Prod.ext hcall hsignaled.symm
  refine ⟨o, hwork ▸ hi.of_worker rfl rfl rfl, ?_⟩
  rw [hwork]
  refine ⟨⟨rest, ?_, hrest⟩, ?_, ?_, ?_⟩
  · change h.tracker.sent = _
    rw [hsent, hp, List.append_assoc]
    rfl
  · intro r hr
    change r ∈ (h.tracker.monitored ++ [_]).dropLast at hr
    rw [List.dropLast_concat] at hr
    exact hs.returned r (hfinished ▸ hr)
  · rintro d ⟨⟩
    exact ⟨_, List.getLast?_concat⟩
  · change h.tracker.fencesSignaled = (h.tracker.monitored ++ [_]).dropLast.length + _
    rw [List.dropLast_concat, ← hfinished]
    exact hs.signaled

theorem Ordered.finish (h' : h.Ordered) (hwaiting : h.tracker.worker = .waiting c)
    (hreturned : h.tracker.calls[c]? = some .returned) :
    Ordered { h with tracker := h.tracker.work } := by
  obtain ⟨o, hi, hs⟩ := h'
  obtain ⟨ahead, hsent, hline⟩ := hs.ahead
  obtain ⟨id, hlast⟩ := hs.waiting c hwaiting
  obtain ⟨done, hdone⟩ := List.getLast?_eq_some_iff.mp hlast
  have hfinished : h.tracker.finished = done := by
    unfold finished
    rw [hwaiting, hdone]
    exact List.dropLast_concat
  have hwork : h.tracker.work = { h.tracker.raiseSignaled with worker := .idle } := by
    unfold work
    rw [hwaiting]
  have hall : ∀ p ∈ h.tracker.monitored, h.tracker.calls[p.1]? = some .returned := by
    intro p hp
    rw [hdone] at hp
    rcases List.mem_append.mp hp with hp | hp
    · exact hs.returned p (hfinished ▸ hp)
    · rw [List.mem_singleton.mp hp]
      exact hreturned
  have hlength : h.tracker.monitored.length = done.length + 1 := by
    rw [hdone, List.length_append, List.length_singleton]
  have hsignaled := hs.signaled
  rw [hfinished] at hsignaled
  have hword : h.tracker.fencesSignaled + 1 < 2 ^ 32 := by
    have hcount := hi.returned_count (hsent ▸ List.prefix_append _ ahead) hall
    have hqueued := hi.queued
    have hcounted := hi.counted
    have hwidth := hi.width
    omega
  rw [hwaiting] at hline
  rw [hwork]
  refine ⟨o, hi.of_worker rfl rfl rfl, ⟨ahead, hsent, hline⟩, hall, nofun, ?_⟩
  change (h.tracker.fencesSignaled + 1) % 2 ^ 32 = h.tracker.monitored.length + h.countedSignaled
  rw [Nat.mod_eq_of_lt hword]
  omega

theorem Ordered.advance (h' : h.Ordered) (horderly : h.Orderly (.advance c)) :
    (h.advance c).Ordered := by
  unfold Orderly at horderly
  unfold TrackerHistory.advance FenceTracker.advance
  dsimp only at horderly ⊢
  cases hphase : h.tracker.calls[c]? with
  | none => exact h'
  | some phase =>
    rw [hphase] at horderly
    cases phase with
    | signaled => exact h'.countQueued hphase horderly
    | counted => exact h'.countSignaled hphase
    | pending => exact h'.load hphase horderly
    | loaded id => exact h'.send hphase
    | announced => exact h'.post hphase
    | posted => exact h'.raise hphase horderly
    | returned => exact h'

theorem Ordered.apply (h' : h.Ordered) {a : FenceAction} (horderly : h.Orderly a) :
    (h.apply a).Ordered := by
  cases a with
  | track call => exact h'.track call
  | post => exact h'.postOther
  | work =>
    cases hworker : h.tracker.worker with
    | idle => exact h'.take hworker
    | looping c =>
      simp only [Orderly, hworker] at horderly
      exact h'.start hworker horderly
    | waiting c =>
      simp only [Orderly, hworker] at horderly
      exact h'.finish hworker horderly
  | advance c => exact h'.advance horderly

theorem Ordered.initial : Ordered {} := by
  refine ⟨.none, ⟨?_, ?_, ?_, rfl, by decide, rfl, ?_, nofun, .nil, nofun, nofun, nofun⟩,
    ⟨[], rfl, rfl⟩, nofun, nofun, rfl⟩
  · exact fun c id => iff_of_false nofun nofun
  · exact fun c => iff_of_false nofun nofun
  · exact fun c => iff_of_false nofun nofun
  · exact fun i p hp => absurd hp nofun

end TrackerHistory

open TrackerHistory FenceTracker

/-- At every moment of every run whose steps meet the condition. -/
theorem fence_ids_agree (as : List FenceAction) (h : TrackerHistory)
    (run : Run (restrict (fun h a h' => h' = h.apply a) Orderly) {} as h) : h.tracker.IdsAgree := by
  refine Ordered.idsAgree (run.invariant ?_ Ordered.initial)
  rintro h a _ hordered ⟨rfl, horderly⟩
  exact hordered.apply horderly

def pendingFence : TrackedFence := ⟨some false, true, false, false⟩

def signaledFence : TrackedFence := ⟨some true, true, false, false⟩

/-- A signalled fence between two pending ones, the first of which is being waited for. -/
theorem fence_ids_agree_mixed :
    IdsAgree (execute apply {} [.track pendingFence, .advance 0, .advance 0, .advance 0, .work,
      .advance 0, .work, .track signaledFence, .advance 1, .advance 1, .track pendingFence,
      .advance 2, .advance 2, .advance 2, .advance 2, .work, .work, .work, .work]).tracker :=
  fence_ids_agree _ _ (Run.of_legal (fun _ _ horderly => ⟨rfl, horderly⟩) (by decide))

/-- Two calls read the counter before either raises it. -/
theorem two_fences_announced_alike :
    ¬ IdsAgree (execute apply {} [.track pendingFence, .track pendingFence, .advance 0, .advance 0,
      .advance 1, .advance 1]).tracker :=
  fun h => h.distinct (0, 0) (by decide) (1, 0) (by decide) (by decide) rfl

/-- The worker ends the task before the call that posted it has raised `fencesQueued_`. -/
example : ¬ IdsAgree (execute apply {} [.track pendingFence, .advance 0, .advance 0, .advance 0,
    .work, .work, .work]).tracker :=
  fun h => absurd h.bound (by decide)

/-- A signalled fence is counted while a pending one waits for its turn. -/
example : ¬ IdsAgree (execute apply {} [.track pendingFence, .advance 0, .advance 0, .advance 0,
    .advance 0, .track signaledFence, .advance 1, .advance 1, .work, .work]).tracker :=
  fun h => absurd (h.monitored (0, 1) (by decide)) (by decide)

end GraphicSurface
