import GraphicSurface.RequestMoves

/-! The moves of a cancel, a flush, a release with its hand-out to the listener, and both forms
of an acquire. -/

namespace GraphicSurface

open Runs SlotPool

def flushes : Move ℕ → Prop
  | .submit _ | .retire _ | .giveBack _ => True
  | _ => False

def releases : Move ℕ → Prop
  | .giveBack _ | .retire _ | .shuffle _ | .lend _ => True
  | _ => False

def takes : Move ℕ → Prop
  | .take _ => True
  | _ => False

def acquires (m : Move ℕ) : Prop := takes m ∨ releases m

theorem releases_of_handsOut {m : Move ℕ} (h : handsOut m) : releases m := by
  cases m <;> simp_all [handsOut, releases]

theorem quiet_of_releases {m : Move ℕ} (h : releases m) : m.quiet := by
  cases m <;> simp_all [releases, Move.quiet]

namespace BufferQueue

variable {q q' : BufferQueue} {sequence : ℕ} {e : BufferElement}

theorem place_held_of_requested_or_attached (hs : ¬(e.state ≠ .requested ∧ e.state ≠ .attached)) :
    e.state.place = .held := by
  cases h : e.state <;> simp_all [BufferState.place]

theorem place_held_of_acquired_or_attached (hs : ¬(e.state ≠ .acquired ∧ e.state ≠ .attached)) :
    e.state.place = .held := by
  cases h : e.state <;> simp_all [BufferState.place]

theorem pool_place (he : q.bufferQueueCache.find sequence = some e) :
    q.pool.place sequence = some e.state.place :=
  BufferCache.place_of_find he

theorem cancelBufferLocked_refines {allowed : Move ℕ → Prop}
    (hgiveBack : allowed (.giveBack sequence)) (q : BufferQueue) (bedata : Option ExtraData) :
    Refines allowed q (q.cancelBufferLocked sequence bedata).2 := by
  unfold cancelBufferLocked
  split
  · exact .refl
  · rename_i e he
    split_ifs with hs
    · exact .refl
    · refine .move hgiveBack ?_ ?_ rfl
      · rw [Move.enabled, pool_place he, place_held_of_requested_or_attached hs]
      · simp only [pool, getUsedSize, BufferCache.size_modify, BufferCache.place_modify he]
        rfl

theorem pool_prepareFlush (q : BufferQueue) (sequence : ℕ) (bedata : ExtraData) :
    (q.prepareFlush sequence bedata).pool = q.pool := by
  simp only [pool, prepareFlush, getUsedSize, BufferCache.size_modify,
    BufferCache.place_modify_of_state (BufferElement.setPrepared_state _ _ _)]

theorem find_prepareFlush (he : q.bufferQueueCache.find sequence = some e) (bedata : ExtraData) :
    (q.prepareFlush sequence bedata).bufferQueueCache.find sequence =
      some (e.setPrepared bedata q.transform q.singleBufferMode) := by
  simp [prepareFlush, he]

theorem pool_commitFlush (he : q.bufferQueueCache.find sequence = some e) (fence : SyncFence)
    (config : BufferFlushConfigWithDamages) (now : Int) :
    (q.commitFlush sequence fence config now).pool = (Move.submit sequence).apply q.pool := by
  simp only [pool, commitFlush, getUsedSize, BufferCache.size_modify,
    BufferCache.place_modify he, BufferElement.setFlushed_state]
  rfl

/-- `Safe bedata q'`: the call that left `q'` behind did not go through a null `bedata`. -/
def Safe (bedata : Option ExtraData) (q' : BufferQueue) : Prop := bedata.isSome ∨ q'.fault = false

theorem doFlushBufferLocked_refines (h : q.Agrees)
    (hheld : ∀ e, q.bufferQueueCache.find sequence = some e → e.state.place = .held)
    {bedata : Option ExtraData} {fence : SyncFence} {config : BufferFlushConfigWithDamages}
    {env : FlushEnv} (hsafe : Safe bedata (q.doFlushBufferLocked sequence bedata fence config env).2) :
    Refines flushes q (q.doFlushBufferLocked sequence bedata fence config env).2 := by
  unfold doFlushBufferLocked at hsafe ⊢
  cases hfind : q.bufferQueueCache.find sequence with
  | none => exact .refl
  | some e =>
    simp only [hfind] at hsafe ⊢
    split at hsafe
    · rename_i hdeleting
      rw [if_pos hdeleting]
      exact delete_held trivial h hfind (hheld e hfind)
    · rename_i hdeleting
      rw [if_neg hdeleting]
      cases bedata with
      | none => simp [Safe] at hsafe
      | some bedata =>
        have hprepare : Refines flushes q (q.prepareFlush sequence bedata) :=
          .of_pool_eq (pool_prepareFlush _ _ _) rfl
        dsimp only
        split
        · exact hprepare
        · refine hprepare.trans (.move (m := .submit sequence) trivial ?_
            (pool_commitFlush (find_prepareFlush hfind bedata) _ _ _) rfl)
          rw [Move.enabled, pool_prepareFlush, pool_place hfind, hheld e hfind]

theorem place_held_of_check (hcheck : q.checkBufferQueueCacheLocked sequence = .ok)
    (he : q.bufferQueueCache.find sequence = some e) : e.state.place = .held := by
  simp only [checkBufferQueueCacheLocked, he] at hcheck
  by_cases hs : e.state ≠ .requested ∧ e.state ≠ .attached
  · simp [hs] at hcheck
  · exact place_held_of_requested_or_attached hs

theorem flushBuffer_refines (h : q.Agrees) {bedata : Option ExtraData} {fence : SyncFence}
    {config : BufferFlushConfigWithDamages} {env : FlushEnv}
    (hsafe : Safe bedata (q.flushBuffer sequence bedata fence config env).2) :
    Refines flushes q (q.flushBuffer sequence bedata fence config env).2 := by
  revert hsafe
  refine flushBuffer_cases (motive := fun r => Safe bedata r.2 → Refines flushes q r.2) ?_ ?_ ?_
  · exact fun _ _ _ => .refl
  · exact fun _ _ _ _ _ => cancelBufferLocked_refines trivial q bedata
  · exact fun hcheck => doFlushBufferLocked_refines h fun e he => place_held_of_check hcheck he

theorem flushBufferImprovedLocked_refines (h : q.Agrees) {bedata : Option ExtraData}
    {fence : SyncFence} {config : BufferFlushConfigWithDamages} {env : FlushEnv}
    (hsafe : Safe bedata (q.flushBufferImprovedLocked sequence bedata fence config env).2) :
    Refines flushes q (q.flushBufferImprovedLocked sequence bedata fence config env).2 := by
  revert hsafe
  refine flushBufferImprovedLocked_cases (motive := fun r => Safe bedata r.2 → Refines flushes q r.2)
    ?_ ?_
  · exact fun _ _ _ => .refl
  · exact fun hcheck => doFlushBufferLocked_refines h fun e he => place_held_of_check hcheck he

@[simp] theorem fault_cancelBufferLocked (q : BufferQueue) (sequence : ℕ)
    (bedata : Option ExtraData) : (q.cancelBufferLocked sequence bedata).2.fault = q.fault := by
  unfold cancelBufferLocked
  split
  · rfl
  · split <;> rfl

theorem fault_doFlush_of_fault (hfault : q.fault = true) (sequence : ℕ)
    (bedata : Option ExtraData) (fence : SyncFence) (config : BufferFlushConfigWithDamages)
    (env : FlushEnv) : (q.doFlushBufferLocked sequence bedata fence config env).2.fault = true := by
  unfold doFlushBufferLocked
  split
  · exact hfault
  · split
    · rw [fault_deleteNoWait, hfault]
    · split
      · rfl
      · dsimp only
        split <;> exact hfault

theorem fault_flushBuffers_of_fault (hfault : q.fault = true) (fs : List FlushArgs) :
    (q.flushBuffers fs).2.fault = true := by
  induction fs generalizing q with
  | nil => exact hfault
  | cons f fs ih =>
    have hone : (q.flushBuffer f.sequence f.bedata f.fence f.config f.env).2.fault = true := by
      unfold flushBuffer
      split_ifs
      · exact hfault
      · exact hfault
      · exact hfault
      · rw [fault_cancelBufferLocked, hfault]
      · exact fault_doFlush_of_fault hfault _ _ _ _ _
    unfold flushBuffers
    dsimp only
    split
    · exact hone
    · exact ih hone

theorem flushBuffers_refines (h : q.Agrees) (fs : List FlushArgs)
    (hsafe : (∀ f ∈ fs, f.bedata.isSome) ∨ (q.flushBuffers fs).2.fault = false) :
    Refines flushes q (q.flushBuffers fs).2 := by
  induction fs generalizing q with
  | nil => exact .refl
  | cons f fs ih =>
    unfold flushBuffers at hsafe ⊢
    dsimp only at hsafe ⊢
    split
    · rename_i hret
      rw [if_pos hret] at hsafe
      exact flushBuffer_refines h (hsafe.imp (fun hall => hall f List.mem_cons_self) id)
    · rename_i hret
      rw [if_neg hret] at hsafe
      have hhead : Safe f.bedata (q.flushBuffer f.sequence f.bedata f.fence f.config f.env).2 :=
        hsafe.imp (fun hall => hall f List.mem_cons_self) fun hend => by
          by_contra hfault
          rw [Bool.not_eq_false] at hfault
          simp [fault_flushBuffers_of_fault hfault] at hend
      have hone := flushBuffer_refines h hhead
      exact hone.trans (ih (hone.agrees h)
        (hsafe.imp (fun hall g hg => hall g (List.mem_cons_of_mem f hg)) id))

theorem pool_markReleased (he : q.bufferQueueCache.find sequence = some e) (lastAcquireTime : Int)
    (fence : Option SyncFence) (env : ReleaseEnv) :
    (q.markReleased sequence lastAcquireTime fence env).pool =
      { q.pool with place := Function.update q.pool.place sequence (some .free) } := by
  simp only [pool, markReleased, getUsedSize, BufferCache.size_modify, BufferCache.place_modify he]
  rfl

/-- A buffer that is condemned is deleted although it has just been marked released. -/
theorem deleteReleased_refines (h : q.Agrees) (he : q.bufferQueueCache.find sequence = some e)
    (hheld : e.state.place = .held) (lastAcquireTime : Int) (fence : Option SyncFence)
    (env : ReleaseEnv) :
    Refines releases q ((q.markReleased sequence lastAcquireTime fence
      env).deleteBufferInCacheNoWaitForAllocatingState sequence) := by
  have hmark := pool_markReleased he lastAcquireTime fence env
  have hout : sequence ∉ q.freeList := by
    rw [h.mem_free_iff he]
    rintro hr
    simp [hr, BufferState.place] at hheld
  have he' : (q.markReleased sequence lastAcquireTime fence env).bufferQueueCache.find sequence =
      some (e.setReleased fence env.mergeFd) := by
    simp [markReleased, he]
  refine .move (m := .retire sequence) trivial ?_ ?_ (by simp [markReleased])
  · rw [Move.enabled, pool_place he, hheld]
  · rw [pool_deleteNoWait he', hmark]
    simp only [Function.update_idem]
    simp [Move.apply, pool, markReleased, getUsedSize, List.erase_of_not_mem hout]

theorem freeReleased_refines (he : q.bufferQueueCache.find sequence = some e)
    (hheld : e.state.place = .held) (lastAcquireTime : Int) (fence : Option SyncFence)
    (env : ReleaseEnv) :
    Refines releases q { q.markReleased sequence lastAcquireTime fence env with
      freeList := (q.markReleased sequence lastAcquireTime fence env).freeList ++ [sequence] } := by
  have hmark := pool_markReleased he lastAcquireTime fence env
  simp only [pool, Pool.mk.injEq] at hmark
  refine .move (m := .giveBack sequence) trivial ?_ ?_ rfl
  · rw [Move.enabled, pool_place he, hheld]
  · simp only [pool, getUsedSize, Move.apply, hmark]
    simp [markReleased]

theorem releaseBufferLocked_refines (h : q.Agrees) (sequence : ℕ) (fence : Option SyncFence)
    (env : ReleaseEnv) : Refines releases q (q.releaseBufferLocked sequence fence env).2 := by
  unfold releaseBufferLocked
  split
  · exact .refl
  · rename_i e he
    split_ifs with hs hdeleting
    · exact .refl
    · exact deleteReleased_refines h he (place_held_of_acquired_or_attached hs) _ _ _
    · exact freeReleased_refines he (place_held_of_acquired_or_attached hs) _ _ _

theorem reuseBuffer_listener_done (q : BufferQueue) (config : BufferRequestConfig)
    (buffer : SurfaceBuffer) : ∃ reply, (q.reuseBuffer config buffer true).1 = .done reply := by
  unfold reuseBuffer
  split
  · exact ⟨_, rfl⟩
  · split
    · exact ⟨_, rfl⟩
    · exact ⟨_, rfl⟩

theorem requestBufferBody_listener_done (q : BufferQueue) (config : BufferRequestConfig) :
    ∃ reply, (q.requestBufferBody config true).1 = .reached (.done reply) := by
  unfold requestBufferBody
  simp only [Bool.or_true, if_true]
  split
  · rename_i buffer q₁ _
    obtain ⟨reply, hreply⟩ := reuseBuffer_listener_done q₁ config buffer
    exact ⟨reply, by simp [hreply]⟩
  · exact ⟨_, rfl⟩

theorem requestBufferLocked_refines_listener (h : q.Agrees) (config : BufferRequestConfig)
    (a : Allocation) : Refines handsOut q (q.requestBufferLocked config a true).2 := by
  unfold requestBufferLocked
  split
  · exact .refl
  · rename_i updateConfig _
    have hbody := requestBufferBody_refines_listener h updateConfig
    obtain ⟨reply, hdone⟩ := requestBufferBody_listener_done q updateConfig
    split
    · rename_i point q₁ hb
      rw [hb] at hbody hdone
      cases hdone
      exact hbody
    · rename_i config' q₁ hb
      rw [hb] at hdone
      cases hdone

@[simp] theorem pool_setRequestedFromListener (q : BufferQueue) (sequence : ℕ) :
    (q.setRequestedFromListener sequence).pool = q.pool := by
  simp only [pool, setRequestedFromListener, getUsedSize, BufferCache.size_modify,
    BufferCache.place_modify_of_state (BufferElement.setRequestedFromListener_state _)]

theorem handOut_refines (h : q.Agrees) (fuel : ℕ) (configs : List BufferRequestConfig) :
    Refines handsOut q (q.handOut fuel configs).2 := by
  induction fuel generalizing q configs with
  | zero => exact .refl
  | succ fuel ih =>
    cases configs with
    | nil => exact .refl
    | cons config configs =>
      have hone := requestBufferLocked_refines_listener h config noAllocation
      have hagrees := hone.agrees h
      unfold handOut
      dsimp only
      split
      · have hmark : Refines handsOut (q.requestBufferLocked config noAllocation true).2
            ((q.requestBufferLocked config noAllocation true).2.setRequestedFromListener
              (q.requestBufferLocked config noAllocation true).1.retval.sequence) :=
          .of_pool_eq (by simp) rfl
        exact (hone.trans hmark).trans (ih (hmark.agrees hagrees) _)
      · exact hone.trans (ih hagrees _)

theorem releaseBufferSection_refines (h : q.Agrees) (sequence : ℕ) (fence : Option SyncFence)
    (env : ReleaseEnv) : Refines releases q (q.releaseBufferSection sequence fence env).2.2 := by
  have hrelease := releaseBufferLocked_refines h sequence fence env
  unfold releaseBufferSection
  dsimp only
  split
  · exact hrelease
  · split
    · exact hrelease.trans ((handOut_refines (hrelease.agrees h) _ _).mono fun _ =>
        releases_of_handsOut)
    · exact hrelease

theorem takeBack_refines (q : BufferQueue) (sequence : ℕ) :
    Refines releases q (q.takeBack sequence) := by
  unfold takeBack
  split
  · exact .refl
  · exact cancelBufferLocked_refines trivial q _

theorem onReleaseBufferWithSequenceAndFence_refines (q : BufferQueue) (callback : ℕ → Bool)
    (handed : List (ℕ × Option SyncFence)) :
    Refines releases q (q.onReleaseBufferWithSequenceAndFence callback handed) :=
  onReleaseBufferWithSequenceAndFence_induct .refl
    (fun q₁ sequence h => h.trans (takeBack_refines q₁ sequence)) callback handed

theorem releaseBuffer_refines (h : q.Agrees) (sequence : ℕ) (fence : Option SyncFence)
    (env : ReleaseEnv) : Refines releases q (q.releaseBuffer sequence fence env).2 := by
  have hsection := releaseBufferSection_refines h sequence fence env
  unfold releaseBuffer
  dsimp only
  split
  · exact hsection.trans (onReleaseBufferWithSequenceAndFence_refines _ _ _)
  · exact hsection

theorem popFromDirtyListLocked_none (h : q.Agrees) (hp : q.popFromDirtyListLocked = (none, q')) :
    q' = q ∧ q.dirtyList = [] := by
  unfold popFromDirtyListLocked at hp
  split at hp
  · rename_i hdirty
    cases hp
    exact ⟨rfl, hdirty⟩
  · rename_i front rest hdirty
    obtain ⟨e, he, _⟩ := h.state_of_mem_dirty (k := front) (by simp [hdirty])
    simp [he] at hp

theorem popFromDirtyListLocked_some {buffer : SurfaceBuffer}
    (hp : q.popFromDirtyListLocked = (some buffer, q')) :
    ∃ rest e, q.dirtyList = buffer.seqNum :: rest ∧
      q.bufferQueueCache.find buffer.seqNum = some e ∧ e.buffer = buffer ∧
      q' = { q with dirtyList := rest } := by
  unfold popFromDirtyListLocked at hp
  split at hp
  · cases hp
  · rename_i front rest hdirty
    split at hp
    · cases hp
    · rename_i e he
      simp only [Prod.mk.injEq, Option.some.injEq] at hp
      obtain ⟨rfl, rfl⟩ := hp
      have hseq := BufferCache.seqNum_of_find he
      exact ⟨rest, e, by rw [hseq, hdirty], by rw [hseq, he], rfl, rfl⟩

theorem place_markAcquired (he : q.bufferQueueCache.find sequence = some e) (now : Int) :
    (q.markAcquired sequence now).bufferQueueCache.place =
      Function.update q.bufferQueueCache.place sequence (some .held) :=
  BufferCache.place_modify he (BufferElement.setAcquired now) (BufferElement.setAcquired_seqNum now)

theorem acquireBuffer_refines (h : q.Agrees) (now : Int) :
    Refines takes q (q.acquireBuffer now).2 := by
  unfold acquireBuffer
  split
  · rename_i q₁ hpop
    obtain ⟨rfl, _⟩ := popFromDirtyListLocked_none h hpop
    exact .refl
  · rename_i buffer q₁ hpop
    obtain ⟨rest, e, hdirty, he, _, rfl⟩ := popFromDirtyListLocked_some hpop
    have hmem : buffer.seqNum ∈ q.dirtyList := by simp [hdirty]
    simp only [he]
    refine .move (m := .take buffer.seqNum) trivial ⟨?_, (h.mem_pending _).mp hmem⟩ ?_ rfl
    · simp [pool, hdirty]
    · have hplace := place_markAcquired (q := { q with dirtyList := rest }) he now
      simp only [pool, hplace, getUsedSize, Move.apply]
      simp [markAcquired, hdirty]

theorem takeFront_refines (h : q.Agrees) {rest : List ℕ} (hdirty : q.dirtyList = sequence :: rest)
    {cache : BufferCache} (hplace : cache.place =
      Function.update q.bufferQueueCache.place sequence (some .held))
    (hsize : cache.size = q.bufferQueueCache.size) :
    Refines takes q { q with dirtyList := rest, bufferQueueCache := cache } := by
  have hmem : sequence ∈ q.dirtyList := by simp [hdirty]
  refine .move (m := .take sequence) trivial ⟨?_, (h.mem_pending _).mp hmem⟩ ?_ rfl
  · simp [pool, hdirty]
  · simp [pool, hplace, hsize, getUsedSize, Move.apply, hdirty]

theorem dropFronts_refines (h : q.Agrees) (now : Int) (dropCount : ℕ) :
    Refines takes q (q.dropFronts now dropCount).2 := by
  induction dropCount generalizing q with
  | zero => exact .refl
  | succ dropCount ih =>
    unfold dropFronts
    split
    · exact .refl
    · rename_i front rest hdirty
      obtain ⟨e, he, _⟩ := h.state_of_mem_dirty (k := front) (by simp [hdirty])
      simp only [he]
      have hone := takeFront_refines h hdirty (place_markAcquired he now)
        (BufferCache.size_modify _ _ _ (BufferElement.setAcquired_seqNum now))
      exact hone.trans (ih (hone.agrees h))

theorem dropBuffersByLevel_refines (h : q.Agrees) (now : Int) :
    Refines takes q (q.dropBuffersByLevel now).2 := by
  unfold dropBuffersByLevel
  split
  · exact .refl
  · exact dropFronts_refines h now _

theorem dropByTimestamp_refines (h : q.Agrees) (expect : Int) (auto : Bool) (l : List ℕ)
    (hl : q.dirtyList = l) : Refines takes q (q.dropByTimestamp expect auto l).2 := by
  induction l generalizing q with
  | nil => exact .refl
  | cons first rest ih =>
    cases rest with
    | nil => exact .refl
    | cons second rest =>
      obtain ⟨f, hf, _⟩ := h.state_of_mem_dirty (k := first) (by simp [hl])
      obtain ⟨s, hs, _⟩ := h.state_of_mem_dirty (k := second) (by simp [hl])
      unfold dropByTimestamp
      simp only [hf, hs]
      split
      · have hone := takeFront_refines h hl
          (BufferCache.place_modify hf (BufferElement.setState .acquired)
            (BufferElement.setState_seqNum _))
          (BufferCache.size_modify _ _ _ (BufferElement.setState_seqNum _))
        exact hone.trans (ih (hone.agrees h) rfl)
      · exact .refl

theorem releaseDropBuffers_refines (h : q.Agrees) (envs : ℕ → ReleaseEnv)
    (dropBuffers : List BufferAndFence) :
    Refines releases q (q.releaseDropBuffers envs dropBuffers) := by
  unfold releaseDropBuffers
  induction dropBuffers generalizing q with
  | nil => exact .refl
  | cons d dropBuffers ih =>
    have hone := releaseBuffer_refines h d.1.seqNum d.2 (envs d.1.seqNum)
    rw [List.foldl_cons]
    exact hone.trans (ih (hone.agrees h))

/-- The timestamp loop never drops the last frame. -/
theorem dropByTimestamp_ne_nil (h : q.Agrees) (expect : Int) (auto : Bool) (l : List ℕ)
    (hl : q.dirtyList = l) (hne : l ≠ []) : (q.dropByTimestamp expect auto l).2.dirtyList ≠ [] := by
  induction l generalizing q with
  | nil => exact absurd rfl hne
  | cons first rest ih =>
    cases rest with
    | nil => simp [dropByTimestamp, hl]
    | cons second rest =>
      obtain ⟨f, hf, _⟩ := h.state_of_mem_dirty (k := first) (by simp [hl])
      obtain ⟨s, hs, _⟩ := h.state_of_mem_dirty (k := second) (by simp [hl])
      unfold dropByTimestamp
      simp only [hf, hs]
      split
      · have hone := takeFront_refines h hl
          (BufferCache.place_modify hf (BufferElement.setState .acquired)
            (BufferElement.setState_seqNum _))
          (BufferCache.size_modify _ _ _ (BufferElement.setState_seqNum _))
        exact ih (hone.agrees h) rfl (by simp)
      · simp [hl]

theorem acquireByTimestampSection_refines (h : q.Agrees) (expect : Int) (auto : Bool) :
    Refines takes q (q.acquireByTimestampSection expect auto).2.2 := by
  unfold acquireByTimestampSection
  split
  · exact .refl
  · rename_i front rest hdirty
    obtain ⟨e, he, _⟩ := h.state_of_mem_dirty (k := front) (by simp [hdirty])
    simp only [he]
    split
    · exact .refl
    · have hdrop := dropByTimestamp_refines h expect auto q.dirtyList rfl
      have hne := dropByTimestamp_ne_nil h expect auto q.dirtyList rfl (by simp [hdirty])
      obtain ⟨front', rest', hfront⟩ := List.exists_cons_of_ne_nil hne
      obtain ⟨e', he', _⟩ := (hdrop.agrees h).state_of_mem_dirty (k := front')
        (by simp [hfront])
      simp only [hfront, List.head?_cons, Option.bind_some, he']
      split
      · exact hdrop
      · exact hdrop

theorem acquireBufferByTimestamp_refines (h : q.Agrees) (expect : Int) (auto : Bool) (now : Int)
    (envs : ℕ → ReleaseEnv) :
    Refines acquires q (q.acquireBufferByTimestamp expect auto now envs).2 := by
  have ofTakes {p p' : BufferQueue} (hp : Refines takes p p') : Refines acquires p p' :=
    hp.mono fun _ => Or.inl
  have ofReleases {p p' : BufferQueue} (hp : Refines releases p p') : Refines acquires p p' :=
    hp.mono fun _ => Or.inr
  unfold acquireBufferByTimestamp
  split
  · exact ofTakes (acquireBuffer_refines h now)
  · split
    · exact .refl
    · have hlevel := ofTakes (dropBuffersByLevel_refines h now)
      have hreleased := hlevel.trans (ofReleases (releaseDropBuffers_refines (hlevel.agrees h) envs
        (q.dropBuffersByLevel now).1))
      have hsection := hreleased.trans (ofTakes (acquireByTimestampSection_refines
        (hreleased.agrees h) expect auto))
      dsimp only
      split
      · exact hsection
      · have hdropped := releaseDropBuffers_refines (hsection.agrees h) envs
        refine (hsection.trans (ofReleases (hdropped _))).trans
          (ofTakes (acquireBuffer_refines ?_ now))
        exact (hdropped _).agrees (hsection.agrees h)

end BufferQueue

end GraphicSurface
