import GraphicSurface.Agreement
import GraphicSurface.Circulation

/-! Flushes of concurrent producers. `FlushBuffer` looks at the state of the buffer in one critical
section and changes it in another one, and nothing is looked at in the second. As long as no
second section meets a buffer that is free or flushed already, every list is as it should be. -/

namespace GraphicSurface

open Runs SlotPool Interleaving

/-- The sections that go wrong: the second half of a flush meets a buffer that is free or flushed,
or a consumer's detach that has waited for an allocation deletes a buffer that was flushed in the
meantime. -/
def Pc.collides (q : BufferQueue) : Pc → Action → Bool
  | flushDo f, .go => q.strays f
  | detachDelete k _, .go => (q.bufferQueueCache.find k).any (·.state == .flushed)
  | _, _ => false

/-- The number that a `CancelBuffer` section puts back in this step. -/
def Pc.cancelled (q : BufferQueue) : Pc → Action → List ℕ
  | idle _, .call (.cancelBuffer k bedata) => if (q.cancelBufferLocked k bedata).1 = .ok then [k] else []
  | flushCancel f, .go =>
    if (q.cancelBufferLocked f.sequence f.bedata).1 = .ok then [f.sequence] else []
  | clientCancel bedata (d :: _), .go =>
    if bedata.isSome && (q.cancelBufferLocked d.1 bedata).1 == .ok then [d.1] else []
  | _, _ => []

/-- A buffer that was put back stays so until a request takes it out again or it is gone. -/
def BufferQueue.awaitsRequest (q : BufferQueue) (k : ℕ) : Bool :=
  match q.bufferQueueCache.find k with
  | none => false
  | some e => e.state != .requested

/-- The numbers that a `CancelBuffer` put back and that nobody has requested since. -/
def recordCancelled (_ : ℕ) (cancelled : List ℕ) (q : BufferQueue) (pc : Pc) (a : Action)
    (r : Pc × BufferQueue) : List ℕ :=
  (cancelled ++ pc.cancelled q a).filter r.2.awaitsRequest

theorem Effect.released {q q' : BufferQueue} {pc : Pc} {a : Action} (heff : Effect q q' pc a)
    (h : q.Agrees) (hdoom : q.Undoomed) (hfault : q'.fault = false)
    (hcalm : pc.collides q a = false) {k : ℕ} {e e' : BufferElement}
    (he : q.bufferQueueCache.find k = some e) (hs : e.state = .released)
    (he' : q'.bufferQueueCache.find k = some e') :
    e'.state = .released ∨ e'.state = .requested := by
  have hmodify {p : BufferQueue} {j : ℕ} {e₀ : BufferElement} {g : BufferElement → BufferElement}
      {hg : ∀ e, (g e).buffer.seqNum = e.buffer.seqNum}
      (hcache : p.bufferQueueCache = q.bufferQueueCache.modify j g hg)
      (hj : q.bufferQueueCache.find j = some e₀) (hout : e₀.state ≠ .released) :
      p.bufferQueueCache.find k = some e := by
    have hne : j ≠ k := by
      rintro rfl
      rw [he, Option.some.injEq] at hj
      exact hout (hj ▸ hs)
    rw [hcache, BufferCache.find_modify, if_neg hne, he]
  have hlent {p : BufferQueue} {keep : Bool} (hp : p.bufferQueueCache.find k = some e)
      (hlends : Lends keep p q') :
      e'.state = .released ∨ e'.state = .requested := by
    rcases hlends.made k e' he' with ⟨e₁, he₁, hlent | ⟨-, hr, -⟩⟩ | hborn
    · rw [hp, Option.some.injEq] at he₁
      exact .inl (hlent.state.trans (he₁ ▸ hs))
    · exact .inr hr
    · exact .inr hborn.state
  have hkept (hfind : q'.bufferQueueCache.find k = some e) : e'.state = .released ∨ e'.state = .requested := by
    rw [he', Option.some.injEq] at hfind
    exact .inl (hfind ▸ hs)
  cases heff with
  | quiet hq => exact hkept (hq ▸ he)
  | requests hlends => exact hlent he hlends
  | handsOut hlends => exact hlent he hlends
  | cancelBuffer hq | flushCancel hq | clientCancel hq =>
    subst hq
    rcases BufferQueue.cancel_cases q _ _ with ⟨hsame, -⟩ | ⟨e₀, hj, hout, hcache⟩
    · exact hkept (by rw [hsame, he])
    · exact hkept (hmodify hcache hj (by rcases hout with h | h <;> simp [h]))
  | takeBack hq =>
    rename_i d rest
    subst hq
    rcases BufferQueue.takeBack_cases q d.1 with hsame | ⟨e₀, hj, hout, hcache⟩
    · exact hkept (by rw [hsame, he])
    · exact hkept (hmodify hcache hj (by rcases hout with h | h <;> simp [h]))
  | flushDo hq =>
    rename_i f
    subst hq
    rcases BufferQueue.flush_cases hdoom f hfault with hcache | ⟨e₀, g, hg, hj, hcache, -, hcore⟩
    · exact hkept (by rw [hcache, he])
    · rcases hcore with hcore | ⟨-, hcalm'⟩
      · by_cases hjk : f.sequence = k
        · rw [hcache, BufferCache.find_modify, if_pos hjk, he, Option.map_some,
            Option.some.injEq] at he'
          exact .inl (he' ▸ (hcore e).state.trans hs)
        · exact hkept (by rw [hcache, BufferCache.find_modify, if_neg hjk, he])
      · exact hkept (hmodify hcache hj fun hr => hcalm' hcalm (.inl hr))
  | detach hq =>
    rename_i reply j invokerType isReserveSlot
    subst hq
    rcases BufferQueue.detach_cases q j invokerType isReserveSlot with hsame | hfind
    · exact hkept (by rw [hsame, he])
    · rw [hfind] at he'
      split_ifs at he' with hj
      exact hkept (by rw [hfind, if_neg hj, he])
  | detachDelete hq =>
    subst hq
    rw [BufferQueue.find_detachForConsumer] at he'
    split_ifs at he' with hj
    exact hkept (by rw [BufferQueue.find_detachForConsumer, if_neg hj, he])
  | acquire hq =>
    rename_i reply now
    subst hq
    rcases BufferQueue.acquire_cases h now with hsame | ⟨j, e₀, hj, hout, hcache⟩
    · exact hkept (by rw [hsame, he])
    · exact hkept (hmodify hcache hj (by simp [hout]))
  | release hlends =>
    rename_i reply j fence now mergeFd
    rcases BufferQueue.release_cases hdoom j fence ⟨now, mergeFd, fun _ => true⟩ with
      hsame | ⟨e₀, hj, hout, hcache⟩
    · exact hlent (by rw [hsame, he]) hlends
    · exact hlent (hmodify hcache hj (by rcases hout with h | h <;> simp [h])) hlends
  | clear _ hq =>
    subst hq
    simp [BufferQueue.clearLocked] at he'

/-- What a `CancelBuffer` section has put back is free. -/
theorem Pc.released_of_cancelled {q : BufferQueue} {pc : Pc} {a : Action} {r : Pc × BufferQueue}
    (hr : pc.advance q a = some r) {k : ℕ} (hk : k ∈ pc.cancelled q a) :
    ∃ e, r.2.bufferQueueCache.find k = some e ∧ e.state = .released := by
  have hfind {j : ℕ} {bedata : Option ExtraData} (hok : (q.cancelBufferLocked j bedata).1 = .ok) :
      ∃ e, (q.cancelBufferLocked j bedata).2.bufferQueueCache.find j = some e ∧
        e.state = .released := by
    rcases BufferQueue.cancel_cases q j bedata with ⟨-, hret⟩ | ⟨e, he, -, hcache⟩
    · exact absurd hok hret
    · exact ⟨e.setCancelled bedata, by simp [hcache, he], rfl⟩
  unfold cancelled at hk
  split at hk
  · split_ifs at hk with hok
    · obtain rfl := List.mem_singleton.mp hk
      cases hr
      exact hfind hok
    · cases hk
  · split_ifs at hk with hok
    · obtain rfl := List.mem_singleton.mp hk
      cases hr
      exact hfind hok
    · cases hk
  · split_ifs at hk with hok
    · obtain rfl := List.mem_singleton.mp hk
      simp only [Bool.and_eq_true, beq_iff_eq] at hok
      simp only [advance, hok.1, if_true, Option.some.injEq] at hr
      subst hr
      exact hfind hok.2
    · cases hk
  · cases hk

/-- Runs of the concurrent calls in which every step is allowed. -/
def Circulates (_ : ℕ) (_ : BufferQueue × List ℕ) (_ : Pc) (a : Action) : Prop := a.circulates

def KeepsApart (_ : ℕ) (s : BufferQueue × List ℕ) (pc : Pc) (a : Action) : Prop :=
  a.circulates ∧ pc.collides s.1 a = false

structure FlushInv (s : BufferQueue × List ℕ) : Prop where
  agrees : s.1.Agrees
  undoomed : s.1.Undoomed
  waiting : ∀ k ∈ s.2, ∃ e, s.1.bufferQueueCache.find k = some e ∧ e.state = .released

theorem Pc.calm_of_keepsApart {q : BufferQueue} (hdoom : q.Undoomed) {pc : Pc} {a : Action}
    (hpc : pc.circulates) (hcalm : pc.collides q a = false) : pc.Calm q a := by
  unfold Calm
  split
  · rename_i c
    cases c with
    | releaseBuffer k fence now mergeFd =>
      have hwait : (q.bufferQueueCache.find k).any (·.isDeleting) = false := by
        cases he : q.bufferQueueCache.find k with
        | none => rfl
        | some e => exact hdoom k e he
      simp [Call.Calm, BufferQueue.releaseWaits, hwait]
    | _ => trivial
  · exact hcalm
  · intro e he
    simpa [collides, he] using hcalm
  · cases hpc
  · cases hpc
  · cases hpc
  · trivial

theorem FlushInv.step {t : ℕ} {s : BufferQueue × List ℕ} {pc : Pc} {a : Action}
    {r : Pc × BufferQueue × List ℕ} (h : FlushInv s) (hpc : pc.circulates)
    (hok : KeepsApart t s pc a)
    (hr : Thread.observed queueThread recordCancelled t s pc a = some r) :
    FlushInv r.2 ∧ r.1.circulates := by
  obtain ⟨r, hr', rfl⟩ := Thread.observed_eq_some.mp hr
  obtain ⟨hfresh, hadvance, hfault⟩ := queueThread_eq_some.mp hr'
  obtain ⟨heff, houtcome⟩ := Pc.advance_effect h.agrees h.undoomed hpc hok.1 hfresh hadvance
  have hcalm := Pc.calm_of_keepsApart h.undoomed hpc hok.2
  refine ⟨⟨queueThread_agrees h.agrees hcalm hr', heff.undoomed h.agrees h.undoomed hfault, ?_⟩,
    houtcome.circulates⟩
  intro k hk
  obtain ⟨hmem, hawaits⟩ := List.mem_filter.mp hk
  rcases List.mem_append.mp hmem with hold | hnew
  · obtain ⟨e, he, hs⟩ := h.waiting k hold
    cases he' : r.2.bufferQueueCache.find k with
    | none => simp [BufferQueue.awaitsRequest, he'] at hawaits
    | some e' =>
      refine ⟨e', rfl, ?_⟩
      have hstate := heff.released h.agrees h.undoomed hfault hok.2 he hs he'
      have hnot : e'.state ≠ .requested := by simpa [BufferQueue.awaitsRequest, he'] using hawaits
      exact hstate.resolve_right hnot
  · exact Pc.released_of_cancelled hadvance hnew

def raceStart (s : QueueSettings) : Machine (BufferQueue × List ℕ) Pc :=
  ⟨(BufferQueue.start s, []), fun _ => .idle none⟩

/-- As long as the second half of no flush meets a buffer that is free or flushed already, no
number is twice in the dirty list or in both lists, and nothing that a `CancelBuffer` has put back
is flushed before it is requested again. -/
theorem flush_is_atomic {s : QueueSettings} {ls : List (ℕ × Action)}
    {m : Machine (BufferQueue × List ℕ) Pc}
    (run : Run (TurnIf (Thread.observed queueThread recordCancelled) KeepsApart) (raceStart s) ls m) :
    m.shared.1.dirtyList.Nodup ∧ m.shared.1.freeList.Disjoint m.shared.1.dirtyList ∧
      ∀ k ∈ m.shared.2, ∀ e, m.shared.1.bufferQueueCache.find k = some e → e.state ≠ .flushed := by
  have hstart : FlushInv (BufferQueue.start s, []) :=
    ⟨agrees_start s, fun k e he => by simp [BufferQueue.start] at he, by simp⟩
  have h := (rely_guarantee FlushInv (fun _ _ pc => pc.circulates)
    (fun t s pc a r hinv hpc hok hr => hinv.step hpc hok hr)
    (fun _ _ _ _ _ _ _ _ _ _ _ _ hq => hq) hstart (fun _ => rfl) run).1
  refine ⟨h.agrees.pending_nodup, fun k => h.agrees.disjoint, fun k hk e he => ?_⟩
  obtain ⟨e', he', hs⟩ := h.waiting k hk
  rw [he, Option.some.injEq] at he'
  simp [he', hs]

def flushThenCancel : List (ℕ × Action) :=
  [(0, .call (.requestBuffer sampleConfig)), (0, .allocated ⟨1, 1, true, true⟩),
    (0, .call (.flushBuffer ⟨1, some ∅, invalidFence, ⟨[], 0, 0⟩, ⟨.ok, 0⟩⟩)), (0, .go), (0, .go),
    (1, .call (.cancelBuffer 1 (some ∅)))]

def listening : QueueSettings := { listener := true }

instance (t : ℕ) (s : BufferQueue × List ℕ) (pc : Pc) (a : Action) :
    Decidable (KeepsApart t s pc a) := inferInstanceAs (Decidable (_ ∧ _))

instance (t : ℕ) (s : BufferQueue × List ℕ) (pc : Pc) (a : Action) :
    Decidable (Circulates t s pc a) := inferInstanceAs (Decidable (_ = true))

theorem run_of_schedule {ok : ℕ → BufferQueue × List ℕ → Pc → Action → Prop}
    {m : Machine (BufferQueue × List ℕ) Pc} {ls : List (ℕ × Action)}
    (legal : Legal (Machine.next (Thread.observed queueThread recordCancelled))
      (fun m l => (m.next? (Thread.observed queueThread recordCancelled) l).isSome ∧
        ok l.1 m.shared (m.procs l.1) l.2) m ls) :
    Run (TurnIf (Thread.observed queueThread recordCancelled) ok) m ls
      (execute (Machine.next (Thread.observed queueThread recordCancelled)) m ls) :=
  .of_legal (fun _ _ h => ⟨Turn.next h.1, h.2⟩) legal

theorem flush_is_atomic_flushThenCancel :
    (execute (Machine.next (Thread.observed queueThread recordCancelled)) (raceStart listening)
        flushThenCancel).shared.2 = [1] ∧
      (execute (Machine.next (Thread.observed queueThread recordCancelled)) (raceStart listening)
        flushThenCancel).shared.1.dirtyList.Nodup :=
  ⟨by decide, (flush_is_atomic (run_of_schedule (by decide))).1⟩

/-- The flush goes on: the buffer that was cancelled is free and flushed at the same time. -/
theorem flush_is_not_atomic :
    ¬ ∀ (ls : List (ℕ × Action)) (m : Machine (BufferQueue × List ℕ) Pc),
      Run (TurnIf (Thread.observed queueThread recordCancelled) Circulates) (raceStart listening)
        ls m →
      m.shared.1.dirtyList.Nodup ∧ m.shared.1.freeList.Disjoint m.shared.1.dirtyList ∧
        ∀ k ∈ m.shared.2, ∀ e, m.shared.1.bufferQueueCache.find k = some e →
          e.state ≠ .flushed := by
  intro h
  obtain ⟨-, hdisjoint, -⟩ := h (flushThenCancel ++ [(0, .go)]) _ (run_of_schedule (by decide))
  exact hdisjoint (a := 1) (by decide) (by decide)

end GraphicSurface
