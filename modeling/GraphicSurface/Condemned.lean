import GraphicSurface.HandOuts

/-! Buffers condemned by a shrink of the queue. The sentence is carried out by the flush or the
release that gives the buffer back; a cancel forgets to look. As long as no cancel meets a
condemned buffer, none is ever in a list again and none is given to the producer. -/

namespace GraphicSurface

open Runs SlotPool

theorem Settles.spared_back {q q' : BufferQueue} (h : Settles true [] q q') (hclear : q.Clear)
    {k : ℕ} {e' : BufferElement} (he' : q'.bufferQueueCache.find k = some e')
    (hspared : e'.isDeleting = false) :
    ∃ e, q.bufferQueueCache.find k = some e ∧ e.isDeleting = false := by
  cases he : q.bufferQueueCache.find k with
  | none => simp [h.absent k he List.not_mem_nil] at he'
  | some e =>
    refine ⟨e, rfl, ?_⟩
    by_contra hdel
    have hdel' := h.condemned hclear he (by simpa using hdel) he'
    rw [hspared] at hdel'
    cases hdel'

namespace BufferQueue

variable {q : BufferQueue}

theorem releaseGiven_spared (h : q.Agrees) (hclear : q.Clear) {sequence : ℕ}
    {fence : Option SyncFence} {env : ReleaseEnv} {k : ℕ}
    (hk : k ∈ q.releaseGiven sequence fence env) :
    ∃ e, q.bufferQueueCache.find k = some e ∧ e.isDeleting = false := by
  have hrelease : Settles true [] q _ := releaseBufferLocked_settles q sequence fence env
  obtain ⟨e, he, hparked⟩ := releaseGiven_took h hk
  have hclear' := hrelease.clear (fun _ => hclear) rfl
  exact hrelease.spared_back hclear he (hclear'.spared he hparked)

theorem releaseDropsGiven_spared (h : q.Agrees) (hclear : q.Clear) {envs : ℕ → ReleaseEnv}
    {dropBuffers : List BufferAndFence} {k : ℕ} (hk : k ∈ q.releaseDropsGiven envs dropBuffers) :
    ∃ e, q.bufferQueueCache.find k = some e ∧ e.isDeleting = false := by
  induction dropBuffers generalizing q with
  | nil => simp [releaseDropsGiven] at hk
  | cons d dropBuffers ih =>
    rcases List.mem_append.mp hk with hk | hk
    · exact releaseGiven_spared h hclear hk
    · have hone : Settles true [] q _ :=
        releaseBuffer_settles h (fun _ => hclear) d.1.seqNum d.2 (envs d.1.seqNum)
      have hagrees := (releaseBuffer_refines h d.1.seqNum d.2 (envs d.1.seqNum)).agrees h
      obtain ⟨e, he, hspared⟩ := ih hagrees (hone.clear (fun _ => hclear) rfl) hk
      exact hone.spared_back hclear he hspared

theorem acquireGiven_spared (h : q.Agrees) (hclear : q.Clear) {expect : Int} {auto : Bool}
    {now : Int} {envs : ℕ → ReleaseEnv} {k : ℕ} (hk : k ∈ q.acquireGiven expect auto now envs) :
    ∃ e, q.bufferQueueCache.find k = some e ∧ e.isDeleting = false := by
  have hlevel : Settles true [] q _ := dropBuffersByLevel_settles q now
  have hclear₁ := hlevel.clear (fun _ => hclear) rfl
  have hagrees₁ := (dropBuffersByLevel_refines h now).agrees h
  have hreleased := hlevel.before
    (releaseDropBuffers_settles hagrees₁ (fun _ => hclear₁) envs (q.dropBuffersByLevel now).1)
  have hagrees₂ := (releaseDropBuffers_refines hagrees₁ envs (q.dropBuffersByLevel now).1).agrees
    hagrees₁
  have hsection := hreleased.before (acquireByTimestampSection_settles _ expect auto)
  have hagrees₃ := (acquireByTimestampSection_refines hagrees₂ expect auto).agrees hagrees₂
  unfold acquireGiven at hk
  split at hk
  · cases hk
  · dsimp only at hk
    rcases List.mem_append.mp hk with hk | hk
    · obtain ⟨e, he, hspared⟩ := releaseDropsGiven_spared hagrees₁ hclear₁ hk
      exact hlevel.spared_back hclear he hspared
    · split at hk
      · cases hk
      · obtain ⟨e, he, hspared⟩ := releaseDropsGiven_spared hagrees₃
          (hsection.clear (fun _ => hclear) rfl) hk
        exact hsection.spared_back hclear he hspared

end BufferQueue

theorem Op.given_spared {q : BufferQueue} {op : Op} (h : q.Agrees) (hclear : q.Clear)
    (hfresh : op.Fresh q) {k : ℕ} (hk : k ∈ op.given q) :
    q.bufferQueueCache.find k = none ∨
      ∃ e, q.bufferQueueCache.find k = some e ∧ e.isDeleting = false := by
  have hparked (hparked : ∃ e, q.bufferQueueCache.find k = some e ∧ e.Parked) :
      ∃ e, q.bufferQueueCache.find k = some e ∧ e.isDeleting = false := by
    obtain ⟨e, he, hparked⟩ := hparked
    exact ⟨e, he, hclear.spared he hparked⟩
  cases op with
  | requestBuffer config a | requestAndDetachBuffer config a =>
    obtain ⟨r, hr, rfl⟩ := List.mem_map.mp hk
    obtain ⟨hr, hret⟩ := List.mem_filter.mp hr
    obtain rfl := List.mem_singleton.mp hr
    have hret' : (q.requestBufferLocked config a false).1.ret = .ok := beq_iff_eq.mp hret
    rcases BufferQueue.requestBufferLocked_took h config a hret' with htook | hseq
    · exact .inr (hparked htook)
    · exact .inl (hseq ▸ hfresh)
  | requestBuffers config as =>
    obtain ⟨r, hr, rfl⟩ := List.mem_map.mp hk
    obtain ⟨hr, hret⟩ := List.mem_filter.mp hr
    have htook := BufferQueue.requestBuffersReplies_took (q := { q with isBatch := true }) h config
      as hfresh.1 hfresh.2 r hr (by simpa using hret)
    rcases htook with htook | hin
    · exact .inr (hparked htook)
    · obtain ⟨a, ha, hseq⟩ := List.mem_map.mp hin
      exact .inl (hseq ▸ hfresh.2 a ha)
  | releaseBuffer sequence fence env => exact .inr (BufferQueue.releaseGiven_spared h hclear hk)
  | acquireBufferByTimestamp expect auto now envs =>
    exact .inr (BufferQueue.acquireGiven_spared h hclear hk)
  | _ => simp [given, replies] at hk

/-- A flush or a release that gives the buffer back, and whose caller is told that it went well. -/
def Op.returned (q : BufferQueue) (k : ℕ) (op : Op) : Prop :=
  match op with
  | flushBuffer f => f.sequence = k ∧ (op.run q).1 = .code .ok
  | releaseBuffer sequence _ _ => sequence = k ∧ (op.run q).1 = .code .ok
  | _ => False

theorem Op.returned_deleted {q q' : BufferQueue} {op : Op} {k : ℕ} {e : BufferElement}
    (h : q.Agrees) (hclear : q.Clear) (hstep : QueueStep q op q') (hok : op.recycles q = false)
    (he : q.bufferQueueCache.find k = some e) (hdel : e.isDeleting = true)
    (hret : op.returned q k) : q'.bufferQueueCache.find k = none := by
  obtain ⟨-, rfl, -⟩ := hstep
  cases op with
  | flushBuffer f =>
    obtain ⟨rfl, hret⟩ := hret
    have hret' : (q.flushBuffer f.sequence f.bedata f.fence f.config f.env).1 = .ok :=
      Reply.code.inj hret
    change (q.flushBuffer f.sequence f.bedata f.fence f.config f.env).2.bufferQueueCache.find
      f.sequence = none
    unfold BufferQueue.flushBuffer at hret' ⊢
    split_ifs at hret' ⊢ with hvalid hconfig hcheck hlistener
    · exact absurd hret' hconfig
    · exact absurd hret' hcheck
    · unfold BufferQueue.doFlushBufferLocked
      rw [he]
      dsimp only
      rw [if_pos hdel]
      exact (BufferQueue.find_deleteNoWait q _ _).trans (if_pos rfl)
  | releaseBuffer sequence fence env =>
    obtain ⟨rfl, hret⟩ := hret
    have hret' : (q.releaseBuffer sequence fence env).1 = .ok := Reply.code.inj hret
    have hrelease : Settles true [] q _ := BufferQueue.releaseBufferLocked_settles q sequence fence env
    have hlocked : (q.releaseBufferLocked sequence fence env).1 = .ok := by
      unfold BufferQueue.releaseBuffer BufferQueue.releaseBufferSection at hret'
      dsimp only at hret'
      split_ifs at hret' <;> simp_all
    have hgone : (q.releaseBufferLocked sequence fence env).2.bufferQueueCache.find sequence =
        none := by
      unfold BufferQueue.releaseBufferLocked at hlocked ⊢
      rw [he] at hlocked ⊢
      dsimp only at hlocked ⊢
      split_ifs at hlocked ⊢
      exact (BufferQueue.find_deleteNoWait _ _ _).trans (if_pos rfl)
    have hrest : Settles true [] _ (q.releaseBuffer sequence fence env).2 :=
      BufferQueue.releaseBuffer_rest_settles h (fun _ => hclear) sequence fence env
    exact hrest.absent sequence hgone List.not_mem_nil
  | _ => exact hret.elim

theorem QueueStep.clear {q q' : BufferQueue} {op : Op} (hstep : QueueStep q op q')
    (h : q.Agrees) (hclear : q.Clear) (hok : op.recycles q = false) : q'.Clear := by
  obtain ⟨hfresh, rfl, -⟩ := hstep
  have hsettles : Settles true op.inserts q (op.run q).2 :=
    op.run_settles h (fun _ => hclear) hfresh (fun _ => hok)
  exact hsettles.clear (fun _ => hclear) rfl

theorem BufferQueue.Clear.not_listed {q : BufferQueue} (h : q.Clear) (hagrees : q.Agrees) {k : ℕ}
    {e : BufferElement} (he : q.bufferQueueCache.find k = some e) (hdel : e.isDeleting = true) :
    k ∉ q.freeList ∧ k ∉ q.dirtyList := by
  have hout := h k e he hdel
  refine ⟨fun hk => hout (.inl ?_), fun hk => hout (.inr ?_)⟩
  · exact (hagrees.mem_free_iff he).mp hk
  · exact (hagrees.mem_dirty_iff he).mp hk

/-- As long as no cancel meets a condemned buffer, none is in a list, no call gives one to the
producer, and a condemned buffer stays condemned until the call that gives it back deletes it. -/
theorem condemned_never_recycled {s : QueueSettings} {ops : List Op} {q : BufferQueue}
    (run : Run (restrict QueueStep fun q op => op.recycles q = false) (BufferQueue.start s) ops q) :
    ∀ k e, q.bufferQueueCache.find k = some e → e.isDeleting = true →
      (k ∉ q.freeList ∧ k ∉ q.dirtyList) ∧
      ∀ op q', QueueStep q op q' → op.recycles q = false →
        k ∉ op.given q ∧ (op.returned q k → q'.bufferQueueCache.find k = none) ∧
          ∀ e', q'.bufferQueueCache.find k = some e' →
            e'.isDeleting = true ∧ k ∉ q'.freeList ∧ k ∉ q'.dirtyList := by
  have h : q.Agrees ∧ q.Clear :=
    run.invariant₂ (fun _ _ _ hq hstep => (hstep.1.refines hq).agrees hq)
      (fun _ _ _ hq hinv hstep => hstep.1.clear hq hinv hstep.2) (agrees_start s)
      (by simp [BufferQueue.Clear, BufferQueue.start])
  obtain ⟨hagrees, hclear⟩ := h
  intro k e he hdel
  refine ⟨hclear.not_listed hagrees he hdel, fun op q' hstep hok => ⟨fun hk => ?_, fun hret => ?_,
    fun e' he' => ?_⟩⟩
  · rcases op.given_spared hagrees hclear hstep.1 hk with hnone | ⟨e₀, he₀, hspared⟩
    · simp [hnone] at he
    · rw [he, Option.some.injEq] at he₀
      rw [← he₀, hdel] at hspared
      cases hspared
  · exact op.returned_deleted hagrees hclear hstep hok he hdel hret
  · have hclear' := hstep.clear hagrees hclear hok
    have hagrees' := (hstep.refines hagrees).agrees hagrees
    have hdel' : e'.isDeleting = true := by
      obtain ⟨hfresh, rfl, -⟩ := hstep
      have hsettles : Settles true op.inserts q (op.run q).2 :=
        op.run_settles hagrees (fun _ => hclear) hfresh (fun _ => hok)
      exact hsettles.condemned hclear he hdel he'
    exact ⟨hdel', hclear'.not_listed hagrees' he' hdel'⟩

def shrinkWhileRequested : List Op :=
  [.configure .registerConsumerListener, .requestBuffer sampleConfig ⟨1, 1, true, true⟩,
    .requestBuffer sampleConfig ⟨2, 2, true, true⟩, .requestBuffer sampleConfig ⟨3, 3, true, true⟩,
    .setQueueSize 2]

theorem condemned_never_recycled_shrinkWhileRequested :
    1 ∉ (execute Op.next (BufferQueue.start {}) shrinkWhileRequested).freeList ∧
      1 ∉ (execute Op.next (BufferQueue.start {}) shrinkWhileRequested).dirtyList := by
  have legal : Legal Op.next (fun q op => (op.Fresh q ∧ (op.next q).fault = false) ∧
      op.recycles q = false) (BufferQueue.start {}) shrinkWhileRequested := by decide
  have h := condemned_never_recycled (.of_legal (fun _ _ h => ⟨⟨h.1.1, rfl, h.1.2⟩, h.2⟩) legal)
  exact (h 1 _ rfl (by decide)).1

/-- The producer cancels the condemned buffer instead of flushing it. -/
theorem cancel_recycles_condemned :
    ¬ ∀ (ops : List Op) (q : BufferQueue), Run QueueStep (BufferQueue.start {}) ops q →
      ∀ k e, q.bufferQueueCache.find k = some e → e.isDeleting = true →
        k ∉ q.freeList ∧ k ∉ q.dirtyList := by
  intro h
  have legal : Legal Op.next (fun q op => op.Fresh q ∧ (op.next q).fault = false)
      (BufferQueue.start {}) (shrinkWhileRequested ++ [.cancelBuffer 1 (some ∅)]) := by decide
  have hout := h _ _ (.of_legal (fun _ _ h => ⟨h.1, rfl, h.2⟩) legal) 1 _ rfl (by decide)
  exact hout.1 (by decide)

end GraphicSurface
