import GraphicSurface.Circulation
import GraphicSurface.Drops
import GraphicSurface.Settling

/-! The life of a cache entry as a path of single changes. `Change` lists what the queue ever does
to an entry, each kind with what the code has made sure of before; `Passes` says that between two
states every entry has gone along such a path. What the changes keep, every run keeps. -/

namespace GraphicSurface

open Runs SlotPool BufferElement Relation

/-- One change of one entry; `free` says whether the consumer may release it in this step. -/
inductive Change (free : Prop) (e e' : BufferElement) : Prop
  | rewrite (state : e'.state = e.state) (isDeleting : e'.isDeleting = e.isDeleting)
  | lend (parked : e.Parked) (state : e'.state = .requested)
      (isDeleting : e.isDeleting = false → e'.isDeleting = false)
  | cancel (held : e.state = .requested ∨ e.state = .attached) (state : e'.state = .released)
      (isDeleting : e'.isDeleting = e.isDeleting)
  | flush (held : e.state = .requested ∨ e.state = .attached) (state : e'.state = .flushed)
      (spared : e'.isDeleting = false)
  | acquire (flushed : e.state = .flushed) (state : e'.state = .acquired)
      (isDeleting : e'.isDeleting = e.isDeleting)
  | release (allowed : free) (held : e.state = .acquired ∨ e.state = .attached)
      (state : e'.state = .released) (isDeleting : e'.isDeleting = e.isDeleting)
  | attach (released : e.state = .released) (state : e'.state = .attached)
      (isDeleting : e'.isDeleting = e.isDeleting)
  | condemn (out : ¬ e.Parked) (state : e'.state = e.state) (isDeleting : e'.isDeleting = true)

abbrev Passage (free : Prop) : BufferElement → BufferElement → Prop := ReflTransGen (Change free)

/-- A buffer that enters the cache is not condemned and not yet flushed. -/
structure BufferElement.Enters (e : BufferElement) : Prop where
  state : e.state ≠ .flushed
  isDeleting : e.isDeleting = false

theorem Change.mono {free free' : Prop} (h : free → free') {e e' : BufferElement}
    (hchange : Change free e e') : Change free' e e' := by
  cases hchange with
  | rewrite hs hd => exact .rewrite hs hd
  | lend hp hs hd => exact .lend hp hs hd
  | cancel hh hs hd => exact .cancel hh hs hd
  | flush hh hs hd => exact .flush hh hs hd
  | acquire hf hs hd => exact .acquire hf hs hd
  | release hfree hh hs hd => exact .release (h hfree) hh hs hd
  | attach hr hs hd => exact .attach hr hs hd
  | condemn ho hs hd => exact .condemn ho hs hd

/-- A frame that waits is not condemned. -/
def BufferElement.PendingSpared (e : BufferElement) : Prop :=
  e.state = .flushed → e.isDeleting = false

theorem Change.pendingSpared {free : Prop} {e e' : BufferElement} (h : Change free e e')
    (he : e.PendingSpared) : e'.PendingSpared := by
  intro hflushed
  cases h with
  | rewrite hs hd => exact hd.trans (he (hs.symm.trans hflushed))
  | flush _ _ hd => exact hd
  | condemn hout hs _ => exact absurd (.inr (hs.symm.trans hflushed)) hout
  | lend _ hs _ | cancel _ hs _ | acquire _ hs _ | release _ _ hs _ | attach _ hs _ =>
    rw [hs] at hflushed
    cases hflushed

theorem Change.acquired {free : Prop} {e e' : BufferElement} (h : Change free e e')
    (hfree : ¬ free) (he : e.state = .acquired) : e'.state = .acquired := by
  cases h with
  | rewrite hs _ | condemn _ hs _ => exact hs.trans he
  | acquire _ hs _ => exact hs
  | release hallowed _ _ _ => exact absurd hallowed hfree
  | lend hparked _ _ => simp [Parked, he] at hparked
  | cancel hheld _ _ | flush hheld _ _ => simp [he] at hheld
  | attach hreleased _ _ => simp [he] at hreleased

theorem Passage.pendingSpared {free : Prop} {e e' : BufferElement} (h : Passage free e e')
    (he : e.PendingSpared) : e'.PendingSpared := by
  induction h with
  | refl => exact he
  | tail _ hchange ih => exact hchange.pendingSpared ih

theorem Passage.acquired {free : Prop} {e e' : BufferElement} (h : Passage free e e')
    (hfree : ¬ free) (he : e.state = .acquired) : e'.state = .acquired := by
  induction h with
  | refl => exact he
  | tail _ hchange ih => exact hchange.acquired hfree ih

structure Passes (free : ℕ → Prop) (ins : List ℕ) (q q' : BufferQueue) : Prop where
  absent : ∀ k, q.bufferQueueCache.find k = none → k ∉ ins → q'.bufferQueueCache.find k = none
  entries : ∀ k e e', q.bufferQueueCache.find k = some e → q'.bufferQueueCache.find k = some e' →
    Passage (free k) e e'
  made : ∀ k e', q.bufferQueueCache.find k = none → q'.bufferQueueCache.find k = some e' →
    ∃ e, e.Enters ∧ Passage (free k) e e'

namespace Passes

variable {free free' : ℕ → Prop} {ins ins' : List ℕ} {q q₁ q₂ : BufferQueue} {sequence : ℕ}
  {e : BufferElement}

theorem trans (h₁ : Passes free ins q q₁) (h₂ : Passes free ins' q₁ q₂)
    (hfresh : ∀ k ∈ ins', q.bufferQueueCache.find k = none) :
    Passes free (ins ++ ins') q q₂ := by
  refine ⟨fun k hk hins => ?_, fun k e e₂ he he₂ => ?_, fun k e₂ hk he₂ => ?_⟩
  · rw [List.mem_append, not_or] at hins
    exact h₂.absent k (h₁.absent k hk hins.1) hins.2
  · cases he₁ : q₁.bufferQueueCache.find k with
    | none =>
      by_cases hins : k ∈ ins'
      · simp [hfresh k hins] at he
      · simp [h₂.absent k he₁ hins] at he₂
    | some e₁ => exact (h₁.entries k e e₁ he he₁).trans (h₂.entries k e₁ e₂ he₁ he₂)
  · cases he₁ : q₁.bufferQueueCache.find k with
    | none => exact h₂.made k e₂ he₁ he₂
    | some e₁ =>
      obtain ⟨e, henters, hpassage⟩ := h₁.made k e₁ hk he₁
      exact ⟨e, henters, hpassage.trans (h₂.entries k e₁ e₂ he₁ he₂)⟩

theorem after (h₁ : Passes free [] q q₁) (h₂ : Passes free ins q₁ q₂)
    (hfresh : ∀ k ∈ ins, q.bufferQueueCache.find k = none) : Passes free ins q q₂ :=
  h₁.trans h₂ hfresh

theorem before (h₁ : Passes free ins q q₁) (h₂ : Passes free [] q₁ q₂) : Passes free ins q q₂ := by
  simpa using h₁.trans h₂ (by simp)

theorem mono (h : Passes free ins q q₁) (hfree : ∀ k, free k → free' k) (hsub : ins ⊆ ins') :
    Passes free' ins' q q₁ where
  absent k hk hins := h.absent k hk fun hin => hins (hsub hin)
  entries k e e' he he' := ReflTransGen.mono (fun _ _ => Change.mono (hfree k)) _ _ (h.entries k e e' he he')
  made k e' hk he' := by
    obtain ⟨e, henters, hpassage⟩ := h.made k e' hk he'
    exact ⟨e, henters, ReflTransGen.mono (fun _ _ => Change.mono (hfree k)) _ _ hpassage⟩

theorem widen (h : Passes free ins q q₁) (hsub : ins ⊆ ins') : Passes free ins' q q₁ :=
  h.mono (fun _ => id) hsub

theorem of_entries (h : ∀ k e', q₁.bufferQueueCache.find k = some e' →
    ∃ e, q.bufferQueueCache.find k = some e ∧ Passage (free k) e e') : Passes free [] q q₁ where
  absent k hk _ := by
    by_contra hne
    obtain ⟨e', he'⟩ := Option.ne_none_iff_exists'.mp hne
    obtain ⟨e, he, -⟩ := h k e' he'
    simp [hk] at he
  entries k e e' he he' := by
    obtain ⟨e₀, he₀, hpassage⟩ := h k e' he'
    rw [he, Option.some.injEq] at he₀
    exact he₀ ▸ hpassage
  made k e' hk he' := by
    obtain ⟨e, he, -⟩ := h k e' he'
    simp [hk] at he

theorem of_cache (hcache : q₁.bufferQueueCache = q.bufferQueueCache) : Passes free [] q q₁ :=
  .of_entries fun k e' he' => ⟨e', by rw [← hcache, he'], .refl⟩

theorem refl : Passes free [] q q := of_cache rfl

theorem of_modify {f : BufferElement → BufferElement}
    (hf : ∀ e, (f e).buffer.seqNum = e.buffer.seqNum)
    (hcache : q₁.bufferQueueCache = q.bufferQueueCache.modify sequence f hf)
    (hchange : ∀ e, q.bufferQueueCache.find sequence = some e → Change (free sequence) e (f e)) :
    Passes free [] q q₁ := by
  refine .of_entries fun k e' he' => ?_
  rw [hcache, BufferCache.find_modify] at he'
  split_ifs at he' with hk
  · subst hk
    obtain ⟨e, he, rfl⟩ := Option.map_eq_some_iff.mp he'
    exact ⟨e, he, .single (hchange e he)⟩
  · exact ⟨e', he', .refl⟩

theorem of_removed (hfind : ∀ k, q₁.bufferQueueCache.find k =
      if sequence = k then none else q.bufferQueueCache.find k) : Passes free [] q q₁ := by
  refine .of_entries fun k e' he' => ?_
  rw [hfind] at he'
  split_ifs at he'
  exact ⟨e', he', .refl⟩

theorem of_erase (hcache : q₁.bufferQueueCache = q.bufferQueueCache.erase sequence) :
    Passes free [] q q₁ := by
  have hfind (k : ℕ) : q₁.bufferQueueCache.find k =
      if sequence = k then none else q.bufferQueueCache.find k := by
    rw [hcache, BufferCache.find_erase]
  exact .of_removed hfind

theorem of_put (hcache : q₁.bufferQueueCache = q.bufferQueueCache.put e)
    (habsent : q.bufferQueueCache.find e.buffer.seqNum = none) (henters : e.Enters) :
    Passes free [e.buffer.seqNum] q q₁ := by
  have hfind (k : ℕ) : q₁.bufferQueueCache.find k =
      if e.buffer.seqNum = k then some e else q.bufferQueueCache.find k := by
    rw [hcache, BufferCache.find_put]
  refine ⟨fun k hk hins => ?_, fun k e₀ e' he he' => ?_, fun k e' hk he' => ?_⟩
  · rw [hfind, if_neg fun heq => hins (by simp [heq]), hk]
  · rw [hfind] at he'
    split_ifs at he' with hk
    · rw [← hk, habsent] at he
      cases he
    · rw [he, Option.some.injEq] at he'
      exact he' ▸ .refl
  · rw [hfind, hk] at he'
    split_ifs at he'
    exact Option.some.inj he' ▸ ⟨e, henters, .refl⟩

theorem of_lends {keep : Bool} (habsent : ∀ k, q.bufferQueueCache.find k = none → k ∉ ins →
      q₁.bufferQueueCache.find k = none) (hlends : Lends keep q q₁) : Passes free ins q q₁ := by
  refine ⟨habsent, fun k e e' he he' => .single ?_, fun k e' hk he' => ?_⟩
  · by_cases hparked : e.Parked
    · rcases hlends.made k e' he' with ⟨e₀, he₀, hcore | ⟨-, hstate, hdel, -⟩⟩ | hborn
      · rw [he, Option.some.injEq] at he₀
        exact .rewrite (he₀ ▸ hcore.state) (he₀ ▸ hcore.isDeleting)
      · rw [he, Option.some.injEq] at he₀
        exact .lend hparked hstate (he₀ ▸ hdel)
      · exact .lend hparked hborn.state fun _ => hborn.isDeleting
    · obtain ⟨e₁, he₁, hcore⟩ := hlends.kept k e he hparked
      rw [he', Option.some.injEq] at he₁
      exact .rewrite (he₁ ▸ hcore.state) (he₁ ▸ hcore.isDeleting)
  · rcases hlends.made k e' he' with ⟨e₀, he₀, -⟩ | hborn
    · simp [hk] at he₀
    · exact ⟨e', ⟨by simp [hborn.state], hborn.isDeleting⟩, .refl⟩

end Passes

namespace BufferQueue

variable {free : ℕ → Prop} {q q' : BufferQueue} {sequence : ℕ} {e : BufferElement}

theorem cancelBufferLocked_passes (q : BufferQueue) (sequence : ℕ) (bedata : Option ExtraData) :
    Passes free [] q (q.cancelBufferLocked sequence bedata).2 := by
  rcases cancel_cases q sequence bedata with ⟨hsame, -⟩ | ⟨e, he, hheld, hcache⟩
  · exact .of_cache (by rw [hsame])
  · refine .of_modify (setCancelled_seqNum bedata) hcache fun e' he' => ?_
    rw [he, Option.some.injEq] at he'
    exact .cancel (he' ▸ hheld) rfl rfl

theorem requestBufferLocked_passes (h : q.Agrees) (config : BufferRequestConfig) (a : Allocation)
    (hfresh : q.bufferQueueCache.find a.sequence = none) :
    Passes free [a.sequence] q (q.requestBufferLocked config a false).2 := by
  have hlends : Lends true q _ := requestBufferLocked_lends h config a hfresh
  have hsettles : Settles false [a.sequence] q _ := requestBufferLocked_settles h config a hfresh
  exact .of_lends hsettles.absent hlends

theorem requestBuffer_agrees (h : q.Agrees) (config : BufferRequestConfig) {a : Allocation}
    (hfresh : q.bufferQueueCache.find a.sequence = none) : (q.requestBuffer config a).2.Agrees :=
  (requestBufferLocked_refines h config a hfresh).agrees h

theorem fresh_of_requestBuffer (h : q.Agrees) (config : BufferRequestConfig) {a : Allocation}
    {as : List Allocation} (hnodup : ((a :: as).map (·.sequence)).Nodup)
    (hfresh : ∀ b ∈ a :: as, q.bufferQueueCache.find b.sequence = none) :
    ∀ b ∈ as, (q.requestBuffer config a).2.bufferQueueCache.find b.sequence = none := by
  intro b hb
  rw [List.map_cons, List.nodup_cons] at hnodup
  have hne : b.sequence ≠ a.sequence := fun heq => hnodup.1 (heq ▸ List.mem_map_of_mem hb)
  have hone : Passes (fun _ => False) [a.sequence] q _ :=
    requestBufferLocked_passes h config a (hfresh a List.mem_cons_self)
  exact hone.absent _ (hfresh b (List.mem_cons_of_mem a hb)) (by simpa using hne)

theorem requestBuffersLoop_passes (h : q.Agrees) (config : BufferRequestConfig)
    (as : List Allocation) (hnodup : (as.map (·.sequence)).Nodup)
    (hfresh : ∀ a ∈ as, q.bufferQueueCache.find a.sequence = none) :
    Passes free (as.map (·.sequence)) q (q.requestBuffersLoop config as).2.2 := by
  induction as generalizing q with
  | nil => exact .refl
  | cons a as ih =>
    have hfirst := hfresh a List.mem_cons_self
    have hone : Passes free [a.sequence] q _ := requestBufferLocked_passes h config a hfirst
    unfold requestBuffersLoop
    dsimp only
    split
    · exact hone.widen (by simp)
    · refine hone.trans (ih (requestBuffer_agrees h config hfirst) hnodup.of_cons
        (fresh_of_requestBuffer h config hnodup hfresh)) fun k hk => ?_
      obtain ⟨b, hb, rfl⟩ := List.mem_map.mp hk
      exact hfresh b (List.mem_cons_of_mem a hb)

theorem requestBuffers_passes (h : q.Agrees) (config : BufferRequestConfig)
    (as : List Allocation) (hnodup : (as.map (·.sequence)).Nodup)
    (hfresh : ∀ a ∈ as, q.bufferQueueCache.find a.sequence = none) :
    Passes free (as.map (·.sequence)) q (q.requestBuffers config as).2.2 := by
  have hbatch : Passes free [] q { q with isBatch := true } := .of_cache rfl
  refine (hbatch.after (requestBuffersLoop_passes (q := { q with isBatch := true }) h config as
    hnodup hfresh) fun k hk => ?_).before (.of_cache rfl)
  obtain ⟨a, ha, rfl⟩ := List.mem_map.mp hk
  exact hfresh a ha

theorem handed_of_check (hcheck : q.checkBufferQueueCacheLocked sequence = .ok)
    (he : q.bufferQueueCache.find sequence = some e) :
    e.state = .requested ∨ e.state = .attached := by
  rw [checkBufferQueueCacheLocked, he] at hcheck
  by_contra hnot
  rw [not_or] at hnot
  simp [hnot.1, hnot.2] at hcheck

theorem doFlushBufferLocked_passes (hheld : ∀ e, q.bufferQueueCache.find sequence = some e →
      e.state = .requested ∨ e.state = .attached) (bedata : Option ExtraData) (fence : SyncFence)
    (config : BufferFlushConfigWithDamages) (env : FlushEnv) :
    Passes free [] q (q.doFlushBufferLocked sequence bedata fence config env).2 := by
  unfold doFlushBufferLocked
  split
  · exact .refl
  · rename_i e he
    split
    · exact .of_removed (find_deleteNoWait q sequence)
    · rename_i hspared
      split
      · exact .of_cache rfl
      · rename_i bedata
        have hprepare : Passes free [] q (q.prepareFlush sequence bedata) :=
          .of_modify (setPrepared_seqNum _ _ _) rfl fun _ _ => .rewrite rfl rfl
        dsimp only
        split
        · exact hprepare
        · refine hprepare.before (.of_modify (setFlushed_seqNum _ _ _) rfl fun e' he' => ?_)
          rw [find_prepareFlush he, Option.some.injEq] at he'
          subst he'
          refine .flush (hheld e he) (setFlushed_state _ _ _ _) ?_
          rw [setFlushed_isDeleting]
          exact Bool.eq_false_iff.mpr hspared

theorem flushBuffer_passes (q : BufferQueue) (f : FlushArgs) :
    Passes free [] q (q.flushBuffer f.sequence f.bedata f.fence f.config f.env).2 := by
  refine flushBuffer_cases (motive := fun r => Passes free [] q r.2) ?_ ?_ ?_
  · exact fun _ _ => .refl
  · exact fun _ _ _ _ => cancelBufferLocked_passes q f.sequence f.bedata
  · exact fun hcheck =>
      doFlushBufferLocked_passes (fun e he => handed_of_check hcheck he) _ _ _ _

theorem flushBuffers_passes (q : BufferQueue) (fs : List FlushArgs) :
    Passes free [] q (q.flushBuffers fs).2 :=
  flushBuffers_preserves (fun _ => .refl) flushBuffer_passes .before q fs

theorem flushBufferImprovedLocked_passes (q : BufferQueue) (sequence : ℕ)
    (bedata : Option ExtraData) (fence : SyncFence) (config : BufferFlushConfigWithDamages)
    (env : FlushEnv) :
    Passes free [] q (q.flushBufferImprovedLocked sequence bedata fence config env).2 := by
  refine flushBufferImprovedLocked_cases (motive := fun r => Passes free [] q r.2) ?_ ?_
  · exact fun _ _ => .refl
  · exact fun hcheck =>
      doFlushBufferLocked_passes (fun e he => handed_of_check hcheck he) _ _ _ _

theorem releaseBufferLocked_passes (q : BufferQueue) (sequence : ℕ) (fence : Option SyncFence)
    (env : ReleaseEnv) (hfree : free sequence) :
    Passes free [] q (q.releaseBufferLocked sequence fence env).2 := by
  unfold releaseBufferLocked
  split
  · exact .refl
  · rename_i e he
    split
    · exact .refl
    · rename_i hs
      have hmark : Passes free [] q (q.markReleased sequence e.lastAcquireTime fence env) := by
        refine .of_modify (setReleased_seqNum _ _) rfl fun e' he' => ?_
        rw [he, Option.some.injEq] at he'
        exact .release hfree (by subst he'; tauto) rfl rfl
      dsimp only
      split
      · exact hmark.before (.of_removed (find_deleteNoWait _ sequence))
      · exact hmark.before (.of_cache rfl)

theorem handOut_passes (h : q.Agrees) (fuel : ℕ) (configs : List BufferRequestConfig) :
    Passes free [] q (q.handOut fuel configs).2 := by
  have hlends : Lends false q _ := handOut_lends h fuel configs
  have hsettles : Settles false [] q _ := handOut_settles h fuel configs
  exact .of_lends hsettles.absent hlends

theorem takeBack_passes (q : BufferQueue) (sequence : ℕ) :
    Passes free [] q (q.takeBack sequence) := by
  unfold takeBack
  split
  · exact .refl
  · exact cancelBufferLocked_passes q sequence _

theorem onReleaseBufferWithSequenceAndFence_passes (q : BufferQueue) (callback : ℕ → Bool)
    (handed : List (ℕ × Option SyncFence)) :
    Passes free [] q (q.onReleaseBufferWithSequenceAndFence callback handed) :=
  onReleaseBufferWithSequenceAndFence_induct .refl
    (fun q₁ sequence h => h.before (takeBack_passes q₁ sequence)) callback handed

theorem releaseBuffer_passes (h : q.Agrees) (sequence : ℕ) (fence : Option SyncFence)
    (env : ReleaseEnv) (hfree : free sequence) :
    Passes free [] q (q.releaseBuffer sequence fence env).2 := by
  have hrelease : Passes free [] q _ := releaseBufferLocked_passes q sequence fence env hfree
  have hagrees := (releaseBufferLocked_refines h sequence fence env).agrees h
  have hsection : Passes free [] q (q.releaseBufferSection sequence fence env).2.2 := by
    unfold releaseBufferSection requestBuffersForListenerLocked
    dsimp only
    split
    · exact hrelease
    · split
      · exact hrelease.before (handOut_passes hagrees _ _)
      · exact hrelease
  unfold releaseBuffer
  dsimp only
  split
  · exact hsection.before (onReleaseBufferWithSequenceAndFence_passes _ _ _)
  · exact hsection

theorem releaseDropBuffers_passes (h : q.Agrees) (envs : ℕ → ReleaseEnv)
    (dropBuffers : List BufferAndFence) (hfree : ∀ d ∈ dropBuffers, free d.1.seqNum) :
    Passes free [] q (q.releaseDropBuffers envs dropBuffers) := by
  unfold releaseDropBuffers
  induction dropBuffers generalizing q with
  | nil => exact .refl
  | cons d dropBuffers ih =>
    have hone : Passes free [] q _ := releaseBuffer_passes h d.1.seqNum d.2 (envs d.1.seqNum)
      (hfree d List.mem_cons_self)
    have hagrees := (releaseBuffer_refines h d.1.seqNum d.2 (envs d.1.seqNum)).agrees h
    rw [List.foldl_cons]
    exact hone.before (ih hagrees fun d' hd' => hfree d' (List.mem_cons_of_mem d hd'))

theorem acquireBuffer_passes (h : q.Agrees) (now : Int) :
    Passes free [] q (q.acquireBuffer now).2 := by
  rcases acquire_cases h now with hsame | ⟨k, e, he, hflushed, hcache⟩
  · exact .of_cache (by rw [hsame])
  · refine .of_modify (setAcquired_seqNum now) hcache fun e' he' => ?_
    rw [he, Option.some.injEq] at he'
    exact .acquire (he' ▸ hflushed) rfl rfl

theorem TakesFrames.passes (h : q.Agrees) {n : ℕ} {f : BufferElement → BufferElement}
    {r : List BufferAndFence × BufferQueue} (htakes : TakesFrames q n f r)
    (hstate : ∀ e, (f e).state = .acquired) (hdel : ∀ e, (f e).isDeleting = e.isDeleting) :
    Passes free [] q r.2 := by
  refine .of_entries fun k e' he' => ?_
  rw [htakes.find] at he'
  split_ifs at he' with hk
  · obtain ⟨e, he, rfl⟩ := Option.map_eq_some_iff.mp he'
    have hflushed := (h.mem_dirty_iff he).mp (List.mem_of_mem_take hk)
    exact ⟨e, he, .single (.acquire hflushed (hstate e) (hdel e))⟩
  · exact ⟨e', he', .refl⟩

theorem TakesFrames.mem_dirtyList (h : q.Agrees) {n : ℕ} {f : BufferElement → BufferElement}
    {r : List BufferAndFence × BufferQueue} (htakes : TakesFrames q n f r) {d : BufferAndFence}
    (hd : d ∈ r.1) : d.1.seqNum ∈ q.dirtyList := by
  have hcached : ∀ k ∈ q.dirtyList.take n, (q.bufferQueueCache.find k).isSome := by
    intro k hk
    obtain ⟨e, he, -⟩ := h.state_of_mem_dirty (List.mem_of_mem_take hk)
    simp [he]
  refine List.mem_of_mem_take (i := n) ?_
  rw [← map_seqNum_framesOf hcached, ← htakes.frames]
  exact List.mem_map_of_mem hd

theorem acquireByTimestampSection_state (h : q.Agrees) (expect : Int) (auto : Bool) :
    ((q.acquireByTimestampSection expect auto).2.1 = [] ∧
        (q.acquireByTimestampSection expect auto).2.2 = q) ∨
      (((q.acquireByTimestampSection expect auto).2.1 = [] ∨
          (q.acquireByTimestampSection expect auto).2.1 =
            (q.dropByTimestamp expect auto q.dirtyList).1) ∧
        (q.acquireByTimestampSection expect auto).2.2 =
          (q.dropByTimestamp expect auto q.dirtyList).2) := by
  unfold acquireByTimestampSection
  split
  · exact .inl ⟨rfl, rfl⟩
  · rename_i front rest hdirty
    obtain ⟨e, he, -⟩ := h.state_of_mem_dirty (k := front) (by simp [hdirty])
    simp only [he]
    split
    · exact .inl ⟨rfl, rfl⟩
    · have hdrop := dropByTimestamp_refines h expect auto q.dirtyList rfl
      have hne := dropByTimestamp_ne_nil h expect auto q.dirtyList rfl (by simp [hdirty])
      obtain ⟨front', rest', hfront⟩ := List.exists_cons_of_ne_nil hne
      obtain ⟨e', he', -⟩ := (hdrop.agrees h).state_of_mem_dirty (k := front') (by simp [hfront])
      simp only [hfront, List.head?_cons, Option.bind_some, he']
      split
      · exact .inr ⟨.inl rfl, rfl⟩
      · exact .inr ⟨.inr rfl, rfl⟩

theorem acquireByTimestampSection_passes (h : q.Agrees) (expect : Int) (auto : Bool) :
    Passes free [] q (q.acquireByTimestampSection expect auto).2.2 ∧
      ∀ d ∈ (q.acquireByTimestampSection expect auto).2.1, d.1.seqNum ∈ q.dirtyList := by
  have htakes := dropByTimestamp_takes h expect auto q.dirtyList rfl
  rcases acquireByTimestampSection_state h expect auto with ⟨hnone, hsame⟩ | ⟨hframes, hstate⟩
  · rw [hsame, hnone]
    exact ⟨.refl, by simp⟩
  · rw [hstate]
    refine ⟨htakes.passes h (fun _ => rfl) (fun _ => rfl), fun d hd => ?_⟩
    rcases hframes with hnone | hsome
    · simp [hnone] at hd
    · exact htakes.mem_dirtyList h (hsome ▸ hd)

theorem acquireBufferByTimestamp_passes (h : q.Agrees) (expect : Int) (auto : Bool) (now : Int)
    (envs : ℕ → ReleaseEnv) (hfree : ∀ k ∈ q.dirtyList, free k) :
    Passes free [] q (q.acquireBufferByTimestamp expect auto now envs).2 := by
  unfold acquireBufferByTimestamp
  split
  · exact acquireBuffer_passes h now
  · split
    · exact .refl
    · have htakes := dropBuffersByLevel_takes h now
      have hlevel : Passes free [] q _ := htakes.passes h (fun _ => rfl) (fun _ => rfl)
      have hagrees := (dropBuffersByLevel_refines h now).agrees h
      have hreleases := releaseDropBuffers_refines hagrees envs (q.dropBuffersByLevel now).1
      have hreleased := hlevel.before (releaseDropBuffers_passes hagrees envs
        (q.dropBuffersByLevel now).1 fun d hd => hfree _ (htakes.mem_dirtyList h hd))
      have hagrees₂ := hreleases.agrees hagrees
      obtain ⟨hsection, hdropped⟩ : Passes free [] _ _ ∧ _ :=
        acquireByTimestampSection_passes hagrees₂ expect auto
      have hleft : ((q.dropBuffersByLevel now).2.releaseDropBuffers envs
          (q.dropBuffersByLevel now).1).dirtyList = q.dirtyList.drop q.levelDrops := by
        rw [hreleases.dirtyList_eq (by intro m hm; cases m <;> simp_all [releases, Move.quiet])]
        exact htakes.dirtyList
      have hsection := hreleased.before hsection
      have hagrees₃ := (acquireByTimestampSection_refines hagrees₂ expect auto).agrees hagrees₂
      have hfinal : Passes free [] q _ :=
        (hsection.before (releaseDropBuffers_passes hagrees₃ envs _ fun d hd =>
          hfree _ (List.mem_of_mem_drop (hleft ▸ hdropped d hd)))).before
          (acquireBuffer_passes ((releaseDropBuffers_refines hagrees₃ envs _).agrees hagrees₃) now)
      dsimp only
      split
      · exact hsection
      · exact hfinal

/-! Deletions. Only what is in neither list is marked: the loops stop short of a list that still
has something in it. -/

theorem deleteFree_passes (q : BufferQueue) (count : ℕ) :
    Passes free [] q (q.deleteFree count).2 :=
  deleteFree_induct .refl (fun q₁ sequence h => h.before (.of_removed (find_deleteNoWait q₁ sequence)))
    count

theorem deleteDirty_passes (q : BufferQueue) (count : ℕ) :
    Passes free [] q (q.deleteDirty count).2 :=
  deleteDirty_induct .refl
    (fun q₁ sequence _ h => h.before (.of_removed (find_deleteNoWait q₁ sequence))) count

theorem markDeleting_passes (h : q.Agrees) (hfree : q.freeList = []) (hdirty : q.dirtyList = [])
    (l : List ℕ) : Passes free [] q (q.markDeleting l) := by
  induction l generalizing q with
  | nil => exact .refl
  | cons sequence rest ih =>
    have hone : Passes free [] q (q.markDeleting [sequence]) := by
      refine .of_modify setDeleting_seqNum rfl fun e he => .condemn (fun hparked => ?_) rfl rfl
      rcases hparked with hs | hs
      · have hmem := (h.mem_free_iff he).mpr hs
        simp [hfree] at hmem
      · have hmem := (h.mem_dirty_iff he).mpr hs
        simp [hdirty] at hmem
    have hagrees : (q.markDeleting [sequence]).Agrees := by
      have hpool : (q.markDeleting [sequence]).pool = q.pool := (pool_markDeleting q [sequence]).1
      rw [Agrees, hpool]
      exact h
    unfold markDeleting
    exact hone.before (ih hagrees hfree hdirty)

theorem deleteBuffersLocked_passes (h : q.Agrees) (count : ℕ) :
    Passes free [] q (q.deleteBuffersLocked count) := by
  have hfree : Passes free [] q _ := deleteFree_passes q count
  have hagrees := (deleteFree_refines h count).agrees h
  have hdirty := hfree.before (deleteDirty_passes (q.deleteFree count).2 (q.deleteFree count).1)
  have hagrees₂ := (deleteDirty_refines hagrees (q.deleteFree count).1).agrees hagrees
  unfold deleteBuffersLocked
  dsimp only
  by_cases hleft : ((q.deleteFree count).2.deleteDirty (q.deleteFree count).1).1 = 0
  · rw [hleft, List.take_zero]
    exact hdirty
  · have hempty : (q.deleteFree count).2.freeList = [] := by
      refine (deleteFree_left q count).resolve_left fun hzero => hleft ?_
      rw [hzero]
      rfl
    obtain ⟨hpending, hfree'⟩ := deleteDirty_left (q.deleteFree count).2 (q.deleteFree count).1 hempty
    exact hdirty.before (markDeleting_passes hagrees₂ hfree' (hpending.resolve_left hleft) _)

theorem detachForConsumer_passes (q : BufferQueue) (sequence : ℕ) (isReserveSlot : Bool) :
    Passes free [] q (q.detachForConsumer sequence isReserveSlot) := by
  have hdelete : Passes free [] q _ := .of_removed (find_deleteNoWait q sequence)
  unfold detachForConsumer
  dsimp only
  split
  · exact hdelete.before (.of_cache rfl)
  · exact hdelete

theorem detachBufferFromQueueLocked_passes (q : BufferQueue) (sequence : ℕ)
    (invokerType : InvokerType) (isReserveSlot : Bool) :
    Passes free [] q (q.detachBufferFromQueueLocked sequence invokerType isReserveSlot).2 := by
  unfold detachBufferFromQueueLocked
  split
  · exact .refl
  · cases invokerType with
    | producerInvoker => exact .of_erase rfl
    | consumerInvoker => exact detachForConsumer_passes q sequence isReserveSlot

theorem detachBuffer_passes (q : BufferQueue) (sequence : ℕ) :
    Passes free [] q (q.detachBuffer sequence).2 := by
  unfold detachBuffer
  split
  · exact .refl
  · split
    · exact .of_erase rfl
    · exact .refl

theorem requestAndDetachBuffer_passes (h : q.Agrees) (config : BufferRequestConfig)
    (a : Allocation) (hfresh : q.bufferQueueCache.find a.sequence = none) :
    Passes free [a.sequence] q (q.requestAndDetachBuffer config a).2 := by
  have hrequest : Passes free [a.sequence] q _ := requestBufferLocked_passes h config a hfresh
  unfold requestAndDetachBuffer
  dsimp only
  split
  · exact hrequest
  · exact hrequest.before (detachBufferFromQueueLocked_passes _ _ _ _)

theorem attachBufferToQueueLocked_passes (q : BufferQueue) (buffer : SurfaceBuffer)
    (invokerType : InvokerType) :
    Passes free [buffer.seqNum] q (q.attachBufferToQueueLocked buffer invokerType).2 := by
  unfold attachBufferToQueueLocked
  split_ifs with _ _ hin
  · exact Passes.refl.widen (List.nil_subset _)
  · exact Passes.refl.widen (List.nil_subset _)
  · exact Passes.refl.widen (List.nil_subset _)
  · have habsent : q.bufferQueueCache.find buffer.seqNum = none := by simpa using hin
    cases invokerType with
    | producerInvoker =>
      exact .of_put (e := .init (q.attachedBuffer buffer) .requested buffer.bufferRequestConfig
        (some invalidFence)) rfl habsent ⟨by simp [BufferElement.init], rfl⟩
    | consumerInvoker =>
      exact .of_put (e := .init (q.attachedBuffer buffer) .acquired buffer.bufferRequestConfig
        (some invalidFence)) rfl habsent ⟨by simp [BufferElement.init], rfl⟩

theorem attachBuffer_passes (h : q.Agrees) (buffer : SurfaceBuffer) (timeOut : Int) :
    Passes free [buffer.seqNum] q (q.attachBuffer buffer timeOut).2 := by
  unfold attachBuffer
  split
  · exact Passes.refl.widen (List.nil_subset _)
  · split
    · exact Passes.refl.widen (List.nil_subset _)
    · split
      · rename_i e he
        refine Passes.widen ?_ (List.nil_subset _)
        unfold attachBufferUpdateStatus
        split
        · rename_i hreleased
          refine .of_modify (setState_seqNum _) rfl fun e' he' => .attach ?_ rfl rfl
          rw [he, Option.some.injEq] at he'
          exact he' ▸ hreleased
        · exact .refl
      · rename_i habsent
        split
        · exact Passes.refl.widen (List.nil_subset _)
        · rename_i count _
          have hdelete : Passes free [] q _ := deleteBuffersLocked_passes h count
          refine hdelete.after (.of_put (e := q.attachElement buffer timeOut) rfl ?_
            ⟨by simp [attachElement, BufferElement.init], rfl⟩) ?_
          · exact hdelete.absent _ habsent List.not_mem_nil
          · simpa [attachElement, attachedBuffer, BufferElement.init] using habsent

theorem attachAndFlushBuffer_passes (q : BufferQueue) (buffer : SurfaceBuffer)
    (bedata : Option ExtraData) (fence : SyncFence) (config : BufferFlushConfigWithDamages)
    (env : FlushEnv) :
    Passes free [buffer.seqNum] q (q.attachAndFlushBuffer buffer bedata fence config env).2 := by
  have hattach : Passes free [buffer.seqNum] q _ :=
    attachBufferToQueueLocked_passes q buffer .producerInvoker
  have hflush := hattach.before (flushBufferImprovedLocked_passes
    (q.attachBufferToQueueLocked buffer .producerInvoker).2 buffer.seqNum bedata fence config env)
  unfold attachAndFlushBuffer
  dsimp only
  split
  · exact hattach
  · split
    · exact hflush.before (.of_erase rfl)
    · exact hflush

theorem setQueueSizeLocked_passes (h : q.Agrees) (queueSize : ℕ) :
    Passes free [] q (q.setQueueSizeLocked queueSize).2 :=
  setQueueSizeLocked_induct .refl (fun count => deleteBuffersLocked_passes h count)
    (fun _ _ h => h.before (.of_cache rfl)) queueSize

theorem setQueueSize_passes (h : q.Agrees) (queueSize : ℕ) :
    Passes free [] q (q.setQueueSize queueSize).2 := by
  unfold setQueueSize
  split
  · exact .refl
  · exact setQueueSizeLocked_passes h queueSize

theorem setMaxQueueSize_passes (h : q.Agrees) (queueSize : ℕ) :
    Passes free [] q (q.setMaxQueueSize queueSize).2 := by
  have hmax : Passes free [] q { q with maxQueueSize := queueSize } := .of_cache rfl
  unfold setMaxQueueSize
  dsimp only
  split
  · exact .refl
  · split
    · exact hmax.before (setQueueSizeLocked_passes (q := { q with maxQueueSize := queueSize }) h
        queueSize)
    · exact hmax

theorem insertPreAlloc_passes (config : BufferRequestConfig) (buffers : List SurfaceBuffer)
    (hnodup : (buffers.map (·.seqNum)).Nodup)
    (hfresh : ∀ b ∈ buffers, q.bufferQueueCache.find b.seqNum = none) :
    Passes free (buffers.map (·.seqNum)) q (q.insertPreAlloc config buffers).2 := by
  induction buffers generalizing q with
  | nil => exact .refl
  | cons buffer rest ih =>
    rw [List.map_cons, List.nodup_cons] at hnodup
    have habsent := hfresh buffer List.mem_cons_self
    have hrest : ∀ b ∈ rest, b.seqNum ≠ buffer.seqNum := by
      intro b hb heq
      exact hnodup.1 (heq ▸ List.mem_map_of_mem hb)
    unfold insertPreAlloc
    split
    · exact Passes.refl.widen (List.nil_subset _)
    · have hone : Passes free [buffer.seqNum] q { q with
          bufferQueueCache := q.bufferQueueCache.put
            { BufferElement.init buffer .released config (some invalidFence) with
              isPreAllocBuffer := true }
          freeList := q.freeList ++ [buffer.seqNum] } :=
        .of_put (e := { BufferElement.init buffer .released config (some invalidFence) with
          isPreAllocBuffer := true }) rfl habsent ⟨by simp [BufferElement.init], rfl⟩
      refine hone.trans (ih hnodup.2 fun b hb => ?_) fun k hk => ?_
      · exact hone.absent _ (hfresh b (List.mem_cons_of_mem buffer hb)) (by simpa using hrest b hb)
      · obtain ⟨b, hb, rfl⟩ := List.mem_map.mp hk
        exact hfresh b (List.mem_cons_of_mem buffer hb)

theorem preAllocBuffers_passes (config : BufferRequestConfig) (allocBufferCount : ℕ)
    (as : ℕ → Allocation)
    (hfresh : ∀ i < allocBufferCount, q.bufferQueueCache.find (as i).sequence = none) :
    Passes free ((List.range allocBufferCount).map fun i => (as i).sequence) q
      (q.preAllocBuffers config allocBufferCount as).2 := by
  unfold preAllocBuffers
  dsimp only
  split
  · exact Passes.refl.widen (List.nil_subset _)
  · split
    · exact Passes.refl.widen (List.nil_subset _)
    · have hcount : q.preAllocBuffersCount allocBufferCount ≤ allocBufferCount := min_le_left _ _
      obtain ⟨hnodup, hmade⟩ := allocBuffers_spec
        { config with usage := config.usage ||| q.defaultUsage }
        (q.preAllocBuffersCount allocBufferCount) as
      refine (insertPreAlloc_passes _ _ hnodup fun b hb => ?_).widen fun k hk => ?_
      · obtain ⟨i, hi, hseq⟩ := hmade b hb
        rw [← hseq]
        exact hfresh i (by omega)
      · obtain ⟨b, hb, rfl⟩ := List.mem_map.mp hk
        obtain ⟨i, hi, hseq⟩ := hmade b hb
        exact List.mem_map.mpr ⟨i, List.mem_range.mpr (by omega), hseq⟩

theorem cleanReleasedBuffersLocked_passes (q : BufferQueue) (l : List ℕ) :
    Passes free [] q (q.cleanReleasedBuffersLocked l).2 := by
  refine cleanReleasedBuffersLocked_induct .refl (fun q₁ sequence h => ?_) l
  split <;> exact h.before (.of_erase rfl)

theorem cleanProducerBySeqNum_passes (q : BufferQueue) (seqNums : List ℕ) :
    Passes free [] q (q.cleanProducerBySeqNum seqNums) := by
  refine cleanProducerBySeqNum_induct .refl (fun q₁ sequence h => ?_) seqNums
  unfold cleanProducerOne
  split
  · exact h.before (.of_erase rfl)
  · exact h

theorem clearLocked_passes (q : BufferQueue) : Passes free [] q q.clearLocked :=
  .of_entries fun k e' he' => by simp [clearLocked] at he'

theorem setProducerCacheCleanFlag_passes (q : BufferQueue) (flag : Bool) :
    Passes free [] q (q.setProducerCacheCleanFlag flag) := by
  unfold setProducerCacheCleanFlag
  split
  · exact (clearLocked_passes q).before (.of_cache rfl)
  · exact .of_cache rfl

theorem mapAll_passes {f : BufferElement → BufferElement}
    (hf : ∀ e, (f e).buffer.seqNum = e.buffer.seqNum)
    (hcache : q'.bufferQueueCache = q.bufferQueueCache.mapAll f hf)
    (hcore : ∀ e, SameCore e (f e)) : Passes free [] q q' := by
  refine .of_entries fun k e' he' => ?_
  rw [hcache, BufferCache.find_mapAll] at he'
  obtain ⟨e, he, rfl⟩ := Option.map_eq_some_iff.mp he'
  exact ⟨e, he, .single (.rewrite (hcore e).state (hcore e).isDeleting)⟩

theorem setBufferScalingMode_passes (q : BufferQueue) (sequence : ℕ) (scalingMode : Int) :
    Passes free [] q (q.setBufferScalingMode sequence scalingMode).2 := by
  unfold setBufferScalingMode
  split
  · exact .of_modify (setScalingMode_seqNum _) rfl fun _ _ => .rewrite rfl rfl
  · exact .refl

theorem acquireLastFlushedBuffer_passes (q : BufferQueue) :
    Passes free [] q q.acquireLastFlushedBuffer.2 :=
  acquireLastFlushedBuffer_induct q .refl (.of_cache rfl)

theorem releaseLastFlushedBuffer_passes (q : BufferQueue) (sequence : ℕ) :
    Passes free [] q (q.releaseLastFlushedBuffer sequence).2 :=
  releaseLastFlushedBuffer_induct q sequence .refl (.of_cache rfl)

end BufferQueue

def Op.frees (q : BufferQueue) : Op → ℕ → Prop
  | releaseBuffer sequence _ _, k => k = sequence
  | acquireBufferByTimestamp _ _ _ _, k => k ∈ q.dirtyList
  | _, _ => False

theorem Op.run_passes {q : BufferQueue} {op : Op} (h : q.Agrees) (hfresh : op.Fresh q) :
    Passes (op.frees q) op.inserts q (op.run q).2 := by
  cases op with
  | requestBuffer config a => exact BufferQueue.requestBufferLocked_passes h config a hfresh
  | requestBuffers config as =>
    exact BufferQueue.requestBuffers_passes h config as hfresh.1 hfresh.2
  | requestAndDetachBuffer config a =>
    exact BufferQueue.requestAndDetachBuffer_passes h config a hfresh
  | cancelBuffer sequence bedata => exact BufferQueue.cancelBufferLocked_passes q sequence bedata
  | flushBuffer f => exact BufferQueue.flushBuffer_passes q f
  | flushBuffers fs => exact BufferQueue.flushBuffers_passes q fs
  | acquireBuffer now => exact BufferQueue.acquireBuffer_passes h now
  | acquireBufferByTimestamp expect auto now envs =>
    exact BufferQueue.acquireBufferByTimestamp_passes h expect auto now envs fun _ hk => hk
  | releaseBuffer sequence fence env =>
    exact BufferQueue.releaseBuffer_passes h sequence fence env rfl
  | attachBufferToQueue buffer invokerType =>
    exact BufferQueue.attachBufferToQueueLocked_passes q buffer invokerType
  | detachBufferFromQueue sequence invokerType isReserveSlot =>
    exact BufferQueue.detachBufferFromQueueLocked_passes q sequence invokerType isReserveSlot
  | attachBuffer buffer timeOut => exact BufferQueue.attachBuffer_passes h buffer timeOut
  | detachBuffer sequence => exact BufferQueue.detachBuffer_passes q sequence
  | attachAndFlushBuffer buffer bedata fence config env =>
    exact BufferQueue.attachAndFlushBuffer_passes q buffer bedata fence config env
  | setQueueSize queueSize => exact BufferQueue.setQueueSize_passes h queueSize
  | setMaxQueueSize queueSize => exact BufferQueue.setMaxQueueSize_passes h queueSize
  | preAllocBuffers config count as =>
    exact BufferQueue.preAllocBuffers_passes config count as hfresh
  | cleanCache | onConsumerDied => exact BufferQueue.clearLocked_passes q
  | goBackground => exact (BufferQueue.clearLocked_passes q).before (.of_cache rfl)
  | setProducerCacheCleanFlag flag => exact BufferQueue.setProducerCacheCleanFlag_passes q flag
  | cleanReleasedBuffers => exact BufferQueue.cleanReleasedBuffersLocked_passes q _
  | cleanProducerBySeqNum seqNums => exact BufferQueue.cleanProducerBySeqNum_passes q seqNums
  | acquireLastFlushedBuffer => exact BufferQueue.acquireLastFlushedBuffer_passes q
  | releaseLastFlushedBuffer sequence =>
    exact BufferQueue.releaseLastFlushedBuffer_passes q sequence
  | setScalingMode scalingMode =>
    exact BufferQueue.mapAll_passes (BufferElement.setScalingMode_seqNum _) rfl fun e => ⟨rfl, rfl, rfl⟩
  | setBufferScalingMode sequence scalingMode =>
    exact BufferQueue.setBufferScalingMode_passes q sequence scalingMode
  | setVideoDimensionType videoDimType =>
    exact BufferQueue.mapAll_passes (BufferElement.setVideoDimensionType_seqNum _) rfl fun e => ⟨rfl, rfl, rfl⟩
  | setSingleBufferMode singleBufferMode => exact .of_cache rfl
  | configure s => exact .of_cache rfl

namespace BufferQueue

/-- No frame that waits is condemned. -/
def SparesPending (q : BufferQueue) : Prop :=
  ∀ k e, q.bufferQueueCache.find k = some e → e.PendingSpared

end BufferQueue

theorem Passes.sparesPending {free : ℕ → Prop} {ins : List ℕ} {q q' : BufferQueue}
    (h : Passes free ins q q') (hq : q.SparesPending) : q'.SparesPending := by
  intro k e' he'
  cases he : q.bufferQueueCache.find k with
  | some e => exact (h.entries k e e' he he').pendingSpared (hq k e he)
  | none =>
    obtain ⟨e, henters, hpassage⟩ := h.made k e' he he'
    exact hpassage.pendingSpared fun hflushed => absurd hflushed henters.state

theorem Reachable.sparesPending {q : BufferQueue} (h : Reachable q) : q.SparesPending := by
  obtain ⟨s, ops, run⟩ := h
  have hstart : (BufferQueue.start s).SparesPending := by
    intro k e he
    simp [BufferQueue.start] at he
  have hstep : ∀ q op q', q.Agrees → q.SparesPending → QueueStep q op q' → q'.SparesPending := by
    rintro q op q' hagrees hspares ⟨hfresh, rfl, -⟩
    exact (Op.run_passes hagrees hfresh).sparesPending hspares
  exact (run.invariant₂ (fun _ _ _ hagrees hstep => (hstep.refines hagrees).agrees hagrees) hstep
    (agrees_start s) hstart).2

end GraphicSurface
