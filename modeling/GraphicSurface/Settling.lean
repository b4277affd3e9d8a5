import GraphicSurface.Agreement
import GraphicSurface.Burials

/-! Every call settles the cache in the sense of `Settles`: one lemma for each function, up the
call graph. The cancel of a condemned buffer is the one section that does not, so the calls that
can end in a cancel carry a condition. -/

namespace GraphicSurface

open Runs SlotPool BufferElement

namespace BufferQueue

def Clear (q : BufferQueue) : Prop :=
  ∀ k e, q.bufferQueueCache.find k = some e → BufferElement.Clear e

def Spares (q : BufferQueue) (k : ℕ) : Prop :=
  ∀ e, q.bufferQueueCache.find k = some e → e.isDeleting = false

/-- A cancel would put a condemned buffer on the free list. -/
def recycles (q : BufferQueue) (sequence : ℕ) : Bool :=
  (q.bufferQueueCache.find sequence).any fun e =>
    e.isDeleting && (e.state == .requested || e.state == .attached)

/-- A flush that finds no consumer listener cancels the buffer. -/
def flushRecycles (q : BufferQueue) (f : FlushArgs) : Bool :=
  q.isValidStatus && checkFlushConfig f.config == .ok && !q.listenerRegistered &&
    q.recycles f.sequence

def flushesRecycle (q : BufferQueue) : List FlushArgs → Bool
  | [] => false
  | f :: fs =>
    q.flushRecycles f ||
      match q.flushBuffer f.sequence f.bedata f.fence f.config f.env with
      | (ret, q) => ret == .ok && q.flushesRecycle fs

end BufferQueue

/-- The call would put a condemned buffer on the free list. -/
def Op.recycles (q : BufferQueue) : Op → Bool
  | cancelBuffer sequence _ => q.recycles sequence
  | flushBuffer f => q.flushRecycles f
  | flushBuffers fs => q.flushesRecycle fs
  | _ => false

/-- The numbers under which a call may bring a buffer in. -/
def Op.inserts : Op → List ℕ
  | requestBuffer _ a | requestAndDetachBuffer _ a => [a.sequence]
  | requestBuffers _ as => as.map (·.sequence)
  | attachBufferToQueue buffer _ | attachBuffer buffer _ | attachAndFlushBuffer buffer _ _ _ _ =>
    [buffer.seqNum]
  | preAllocBuffers _ count as => (List.range count).map fun i => (as i).sequence
  | _ => []

theorem Settles.clear {strict : Bool} {ins : List ℕ} {q q' : BufferQueue}
    (h : Settles strict ins q q') (hq : strict → q.Clear) : strict → q'.Clear := by
  intro hstrict k e' he'
  cases he : q.bufferQueueCache.find k with
  | none => exact h.made hstrict k e' he he'
  | some e => exact (h.entries hstrict k e e' he he' (hq hstrict k e he)).1

theorem Settles.condemned {ins : List ℕ} {q q' : BufferQueue} (h : Settles true ins q q')
    (hq : q.Clear) {k : ℕ} {e e' : BufferElement} (he : q.bufferQueueCache.find k = some e)
    (hdel : e.isDeleting = true) (he' : q'.bufferQueueCache.find k = some e') :
    e'.isDeleting = true :=
  (h.entries rfl k e e' he he' (hq k e he)).2 hdel

namespace BufferQueue

variable {strict : Bool} {q q' : BufferQueue} {sequence : ℕ} {e : BufferElement}

theorem cancelBufferLocked_settles (bedata : Option ExtraData)
    (hok : strict → q.recycles sequence = false) :
    Settles strict [] q (q.cancelBufferLocked sequence bedata).2 := by
  unfold cancelBufferLocked
  split
  · exact .refl
  · rename_i e he
    split
    · exact .refl
    · rename_i hs
      refine .of_modify (setCancelled_seqNum bedata) rfl (fun hstrict e' he' => ?_) rfl
        (List.Subset.refl _)
      rw [he, Option.some.injEq] at he'
      subst he'
      have hspared : e.isDeleting = false := by
        have hheld : (e.state == .requested || e.state == .attached) = true := by
          revert hs
          cases e.state <;> simp
        simpa [recycles, he, hheld] using hok hstrict
      exact .of_spared hspared rfl

theorem requestBufferLocked_settles (h : q.Agrees) (config : BufferRequestConfig) (a : Allocation)
    (hfresh : q.bufferQueueCache.find a.sequence = none) :
    Settles strict [a.sequence] q (q.requestBufferLocked config a false).2 := by
  have hlends : Lends true q _ := requestBufferLocked_lends h config a hfresh
  refine .of_lends ?_ hlends
  unfold requestBufferLocked
  split
  · exact .refl
  · rename_i updateConfig _
    have hbody := requestBufferBody_buries q updateConfig false
    split
    · rename_i point q₁ hb
      rw [hb] at hbody
      exact hbody.after (finishRequest_buries q₁ a point) (by simpa using hfresh)
    · rename_i config' q₁ hb
      obtain rfl := requestBufferBody_waits h hb
      exact (reuseBufferForBlockMode_buries q₁ config').after (finishRequest_buries _ a _)
        (by simpa using hfresh)

theorem requestBuffersLoop_settles (h : q.Agrees) (config : BufferRequestConfig)
    (as : List Allocation) (hnodup : (as.map (·.sequence)).Nodup)
    (hfresh : ∀ a ∈ as, q.bufferQueueCache.find a.sequence = none) :
    Settles strict (as.map (·.sequence)) q (q.requestBuffersLoop config as).2.2 := by
  induction as generalizing q with
  | nil => exact .refl
  | cons a as ih =>
    rw [List.map_cons, List.nodup_cons] at hnodup
    have hfirst := hfresh a List.mem_cons_self
    have hone : Settles strict [a.sequence] q _ := requestBufferLocked_settles h config a hfirst
    have hagrees := (requestBufferLocked_refines h config a hfirst).agrees h
    have hrest : ∀ b ∈ as, b.sequence ≠ a.sequence := by
      intro b hb heq
      exact hnodup.1 (heq ▸ List.mem_map_of_mem hb)
    unfold requestBuffersLoop requestBuffer
    dsimp only
    split
    · exact hone.mono (by simp)
    · refine hone.trans (ih hagrees hnodup.2 fun b hb => ?_) fun k hk => ?_
      · exact hone.absent _ (hfresh b (List.mem_cons_of_mem a hb)) (by simpa using hrest b hb)
      · obtain ⟨b, hb, rfl⟩ := List.mem_map.mp hk
        exact ⟨hfresh b (List.mem_cons_of_mem a hb), by simpa using hrest b hb⟩

theorem requestBuffers_settles (h : q.Agrees) (config : BufferRequestConfig)
    (as : List Allocation) (hnodup : (as.map (·.sequence)).Nodup)
    (hfresh : ∀ a ∈ as, q.bufferQueueCache.find a.sequence = none) :
    Settles strict (as.map (·.sequence)) q (q.requestBuffers config as).2.2 := by
  have hbatch : Settles strict [] q { q with isBatch := true } := .of_cache rfl rfl (List.Subset.refl _)
  have hloop := hbatch.after (requestBuffersLoop_settles (q := { q with isBatch := true }) h config as
    hnodup hfresh) fun k hk => ?_
  · exact hloop.before (.of_cache rfl rfl (List.Subset.refl _))
  · obtain ⟨a, ha, rfl⟩ := List.mem_map.mp hk
    exact hfresh a ha

theorem doFlushBufferLocked_settles (q : BufferQueue) (sequence : ℕ) (bedata : Option ExtraData)
    (fence : SyncFence) (config : BufferFlushConfigWithDamages) (env : FlushEnv) :
    Settles strict [] q (q.doFlushBufferLocked sequence bedata fence config env).2 := by
  unfold doFlushBufferLocked
  split
  · exact .refl
  · rename_i e he
    split
    · exact deleteNoWait_settles q sequence
    · rename_i hspared
      split
      · exact .of_cache rfl rfl (List.Subset.refl _)
      · rename_i bedata
        have hprepare : Settles strict [] q (q.prepareFlush sequence bedata) :=
          .of_modify (setPrepared_seqNum _ _ _) rfl (fun _ e _ => .of_core ⟨rfl, rfl, rfl⟩) rfl
            (List.Subset.refl _)
        dsimp only
        split
        · exact hprepare
        · refine hprepare.before (.of_modify (setFlushed_seqNum _ _ _) rfl (fun _ e' he' => ?_) rfl
            (List.Subset.refl _))
          rw [find_prepareFlush he, Option.some.injEq] at he'
          subst he'
          exact .of_spared (by simpa [setPrepared] using hspared) (setFlushed_isDeleting _ _ _ _)

theorem flushBuffer_settles (f : FlushArgs) (hok : strict → q.flushRecycles f = false) :
    Settles strict [] q (q.flushBuffer f.sequence f.bedata f.fence f.config f.env).2 := by
  refine flushBuffer_cases (motive := fun r => Settles strict [] q r.2) ?_ ?_ ?_
  · exact fun _ _ => .refl
  · intro hvalid hconfig _ hlistener
    refine cancelBufferLocked_settles f.bedata fun hstrict => ?_
    simpa [flushRecycles, hlistener, hconfig, hvalid] using hok hstrict
  · exact fun _ => doFlushBufferLocked_settles q _ _ _ _ _

theorem flushBuffers_settles (fs : List FlushArgs) (hok : strict → q.flushesRecycle fs = false) :
    Settles strict [] q (q.flushBuffers fs).2 := by
  induction fs generalizing q with
  | nil => exact .refl
  | cons f fs ih =>
    have hor (hstrict : strict) := Bool.or_eq_false_iff.mp (hok hstrict)
    have hone := flushBuffer_settles f fun hstrict => (hor hstrict).1
    unfold flushBuffers
    dsimp only
    split
    · exact hone
    · rename_i hret
      exact hone.before (ih fun hstrict => by simpa [not_not.mp hret] using (hor hstrict).2)

theorem flushBufferImprovedLocked_settles (q : BufferQueue) (sequence : ℕ)
    (bedata : Option ExtraData) (fence : SyncFence) (config : BufferFlushConfigWithDamages)
    (env : FlushEnv) :
    Settles strict [] q (q.flushBufferImprovedLocked sequence bedata fence config env).2 := by
  refine flushBufferImprovedLocked_cases (motive := fun r => Settles strict [] q r.2) ?_ ?_
  · exact fun _ _ => .refl
  · exact fun _ => doFlushBufferLocked_settles q _ _ _ _ _

theorem releaseBufferLocked_settles (q : BufferQueue) (sequence : ℕ) (fence : Option SyncFence)
    (env : ReleaseEnv) : Settles strict [] q (q.releaseBufferLocked sequence fence env).2 := by
  unfold releaseBufferLocked
  split
  · exact .refl
  · rename_i e he
    split
    · exact .refl
    · dsimp only
      split
      · have hmark : Buries [] q (q.markReleased sequence e.lastAcquireTime fence env) :=
          .of_modify (setReleased_seqNum _ _) rfl rfl (List.Subset.refl _)
        have hfind (k : ℕ) : ((q.markReleased sequence e.lastAcquireTime fence
              env).deleteBufferInCacheNoWaitForAllocatingState sequence).bufferQueueCache.find k =
            if sequence = k then none else q.bufferQueueCache.find k := by
          rw [find_deleteNoWait]
          split_ifs with hk
          · rfl
          · simp [markReleased, hk]
        exact .of_removed (hmark.before (deleteNoWait_buries _ sequence)) hfind
      · rename_i hspared
        refine .of_modify (setReleased_seqNum _ _) rfl (fun _ e' he' => ?_) rfl (List.Subset.refl _)
        rw [he, Option.some.injEq] at he'
        subst he'
        exact .of_spared (by simpa using hspared) rfl

theorem requestForListener_settles (h : q.Agrees) (config : BufferRequestConfig) :
    Settles strict [] q (q.requestBufferLocked config noAllocation true).2 := by
  have hlends : Lends true q (q.requestBufferLocked config noAllocation true).2 :=
    (requestForListener_lends h config).1
  refine .of_lends ?_ hlends
  unfold requestBufferLocked
  split
  · exact .refl
  · rename_i updateConfig _
    have hburies := requestBufferBody_buries q updateConfig true
    obtain ⟨reply, hdone⟩ := requestBufferBody_listener_done q updateConfig
    split
    · rename_i point q₁ hb
      rw [hb] at hburies hdone
      cases hdone
      exact hburies
    · rename_i config' q₁ hb
      rw [hb] at hdone
      cases hdone

theorem setRequestedFromListener_settles (q : BufferQueue) (sequence : ℕ) :
    Settles strict [] q (q.setRequestedFromListener sequence) :=
  .of_modify (setRequestedFromListener_seqNum _) rfl (fun _ _ _ hclear => ⟨hclear, id⟩) rfl
    (List.Subset.refl _)

theorem handOut_settles (h : q.Agrees) (fuel : ℕ) (configs : List BufferRequestConfig) :
    Settles strict [] q (q.handOut fuel configs).2 := by
  induction fuel generalizing q configs with
  | zero => exact .refl
  | succ fuel ih =>
    cases configs with
    | nil => exact .refl
    | cons config configs =>
      have hone : Settles strict [] q _ := requestForListener_settles h config
      have hagrees := (requestBufferLocked_refines_listener h config noAllocation).agrees h
      unfold handOut
      dsimp only
      split
      · refine (hone.before (setRequestedFromListener_settles _ _)).before (ih ?_ _)
        rw [Agrees, pool_setRequestedFromListener]
        exact hagrees
      · exact hone.before (ih hagrees _)

theorem Clear.spared (h : q.Clear) {k : ℕ} (he : q.bufferQueueCache.find k = some e)
    (hparked : e.Parked) : e.isDeleting = false := by
  by_contra hdel
  exact h k e he (by simpa using hdel) hparked

theorem handOut_spares (h : q.Agrees) (hclear : q.Clear) (fuel : ℕ)
    (configs : List BufferRequestConfig) :
    ∀ d ∈ (q.handOut fuel configs).1, (q.handOut fuel configs).2.Spares d.1 := by
  intro d hd e' he'
  obtain ⟨e, he, hparked⟩ := handOut_took h fuel configs d hd
  rcases (handOut_lends h fuel configs).made d.1 e' he' with ⟨e₀, he₀, hlent⟩ | hborn
  · rw [he, Option.some.injEq] at he₀
    exact hlent.isDeleting (he₀ ▸ hclear.spared he hparked)
  · exact hborn.isDeleting

theorem recycles_of_spares (h : q.Spares sequence) : q.recycles sequence = false := by
  cases he : q.bufferQueueCache.find sequence with
  | none => simp [recycles, he]
  | some e => simp [recycles, he, h e he]

theorem takeBack_settles (h : strict → q.Spares sequence) : Settles strict [] q (q.takeBack sequence) := by
  unfold takeBack
  split
  · exact .refl
  · exact cancelBufferLocked_settles _ fun hstrict => recycles_of_spares (h hstrict)

theorem takeBack_spares {k : ℕ} (h : q.Spares k) : (q.takeBack sequence).Spares k := by
  unfold takeBack
  split
  · exact h
  · rename_i ele _
    intro e' he'
    unfold cancelBufferLocked at he'
    split at he'
    · exact h e' he'
    · split at he'
      · exact h e' he'
      · simp only [BufferCache.find_modify] at he'
        split_ifs at he'
        · obtain ⟨e, he, rfl⟩ := Option.map_eq_some_iff.mp he'
          exact h e he
        · exact h e' he'

theorem onReleaseBufferWithSequenceAndFence_settles (callback : ℕ → Bool)
    (handed : List (ℕ × Option SyncFence)) (h : strict → ∀ d ∈ handed, q.Spares d.1) :
    Settles strict [] q (q.onReleaseBufferWithSequenceAndFence callback handed) := by
  unfold onReleaseBufferWithSequenceAndFence
  induction handed generalizing q with
  | nil => exact .refl
  | cons d handed ih =>
    rw [List.foldl_cons]
    split
    · exact ih fun hstrict d' hd' => h hstrict d' (List.mem_cons_of_mem d hd')
    · exact (takeBack_settles fun hstrict => h hstrict d List.mem_cons_self).before
        (ih fun hstrict d' hd' => takeBack_spares (h hstrict d' (List.mem_cons_of_mem d hd')))

/-- What a release does after `ReleaseBufferLocked`: the hand-out and the callbacks. -/
theorem releaseBuffer_rest_settles (h : q.Agrees) (hclear : strict → q.Clear) (sequence : ℕ)
    (fence : Option SyncFence) (env : ReleaseEnv) :
    Settles strict [] (q.releaseBufferLocked sequence fence env).2
      (q.releaseBuffer sequence fence env).2 := by
  have hrelease : Settles strict [] q _ := releaseBufferLocked_settles q sequence fence env
  have hagrees := (releaseBufferLocked_refines h sequence fence env).agrees h
  have hsection : Settles strict [] (q.releaseBufferLocked sequence fence env).2
        (q.releaseBufferSection sequence fence env).2.2 ∧
      (strict → ∀ d ∈ (q.releaseBufferSection sequence fence env).2.1,
        (q.releaseBufferSection sequence fence env).2.2.Spares d.1) := by
    unfold releaseBufferSection requestBuffersForListenerLocked
    dsimp only
    split
    · exact ⟨.refl, by simp⟩
    · split
      · exact ⟨handOut_settles hagrees _ _,
          fun hstrict => handOut_spares hagrees (hrelease.clear hclear hstrict) _ _⟩
      · exact ⟨.refl, by simp⟩
  unfold releaseBuffer
  dsimp only
  split
  · exact hsection.1.before (onReleaseBufferWithSequenceAndFence_settles _ _ hsection.2)
  · exact hsection.1

theorem releaseBuffer_settles (h : q.Agrees) (hclear : strict → q.Clear) (sequence : ℕ)
    (fence : Option SyncFence) (env : ReleaseEnv) :
    Settles strict [] q (q.releaseBuffer sequence fence env).2 :=
  (releaseBufferLocked_settles q sequence fence env).before
    (releaseBuffer_rest_settles h hclear sequence fence env)

theorem releaseDropBuffers_settles (h : q.Agrees) (hclear : strict → q.Clear) (envs : ℕ → ReleaseEnv)
    (dropBuffers : List BufferAndFence) :
    Settles strict [] q (q.releaseDropBuffers envs dropBuffers) := by
  unfold releaseDropBuffers
  induction dropBuffers generalizing q with
  | nil => exact .refl
  | cons d dropBuffers ih =>
    have hone := releaseBuffer_settles h hclear d.1.seqNum d.2 (envs d.1.seqNum)
    have hagrees := (releaseBuffer_refines h d.1.seqNum d.2 (envs d.1.seqNum)).agrees h
    rw [List.foldl_cons]
    exact hone.before (ih hagrees (hone.clear hclear))

theorem markAcquired_settles (q : BufferQueue) (sequence : ℕ) (now : Int) :
    Settles strict [] q (q.markAcquired sequence now) :=
  .of_modify (setAcquired_seqNum now) rfl (fun _ _ _ => .of_held (by simp [Parked]) rfl) rfl (List.Subset.refl _)

theorem acquireBuffer_settles (q : BufferQueue) (now : Int) :
    Settles strict [] q (q.acquireBuffer now).2 := by
  have hpop : Settles strict [] q q.popFromDirtyListLocked.2 :=
    popFromDirtyListLocked_induct q (fun _ => .of_cache rfl rfl (List.Subset.refl _))
      (.of_cache rfl rfl (List.Subset.refl _))
  exact acquireBuffer_induct hpop (fun _ h => h.before (.of_cache rfl rfl (List.Subset.refl _)))
    fun q₁ sequence h => h.before (markAcquired_settles q₁ sequence now)

theorem dropBuffersByLevel_settles (q : BufferQueue) (now : Int) :
    Settles strict [] q (q.dropBuffersByLevel now).2 := by
  refine dropBuffersByLevel_induct .refl
    (fun _ h => h.before (.of_cache rfl rfl (List.Subset.refl _))) fun q₁ front rest h => ?_
  have hlist : Settles strict [] (q₁.markAcquired front now)
      { q₁.markAcquired front now with dirtyList := rest } :=
    .of_cache rfl rfl (List.Subset.refl _)
  exact (h.before (markAcquired_settles q₁ front now)).before hlist

theorem acquireByTimestampSection_settles (q : BufferQueue) (expect : Int) (auto : Bool) :
    Settles strict [] q (q.acquireByTimestampSection expect auto).2.2 :=
  acquireByTimestampSection_induct .refl
    (fun _ h => h.before (.of_cache rfl rfl (List.Subset.refl _)))
    (fun _ _ _ h => h.before (.of_modify (setState_seqNum _) rfl
      (fun _ _ _ => .of_held (by simp [Parked]) rfl) rfl (List.Subset.refl _))) expect auto

theorem acquireBufferByTimestamp_settles (h : q.Agrees) (hclear : strict → q.Clear) (expect : Int)
    (auto : Bool) (now : Int) (envs : ℕ → ReleaseEnv) :
    Settles strict [] q (q.acquireBufferByTimestamp expect auto now envs).2 := by
  unfold acquireBufferByTimestamp
  split
  · exact acquireBuffer_settles q now
  · split
    · exact .refl
    · have hlevel : Settles strict [] q _ := dropBuffersByLevel_settles q now
      have hagrees := (dropBuffersByLevel_refines h now).agrees h
      have hreleased := hlevel.before
        (releaseDropBuffers_settles hagrees (hlevel.clear hclear) envs (q.dropBuffersByLevel now).1)
      have hagrees₂ := (releaseDropBuffers_refines hagrees envs (q.dropBuffersByLevel now).1).agrees
        hagrees
      have hsection := hreleased.before (acquireByTimestampSection_settles _ expect auto)
      have hagrees₃ := (acquireByTimestampSection_refines hagrees₂ expect auto).agrees hagrees₂
      dsimp only
      split
      · exact hsection
      · exact (hsection.before (releaseDropBuffers_settles hagrees₃ (hsection.clear hclear) envs
          _)).before (acquireBuffer_settles _ now)

theorem deleteFree_settles (q : BufferQueue) (count : ℕ) :
    Settles strict [] q (q.deleteFree count).2 := by
  refine deleteFree_induct .refl (fun q₁ sequence h => ?_) count
  have hlist : Settles strict [] (q₁.deleteBufferInCacheNoWaitForAllocatingState sequence)
      (q₁.deleteFreeFront sequence) := .of_cache rfl rfl (List.Subset.refl _)
  exact (h.before (deleteNoWait_settles q₁ sequence)).before hlist

theorem deleteDirty_settles (q : BufferQueue) (count : ℕ) :
    Settles strict [] q (q.deleteDirty count).2 := by
  refine deleteDirty_induct .refl (fun q₁ sequence rest h => ?_) count
  have hlist : Settles strict [] (q₁.deleteBufferInCacheNoWaitForAllocatingState sequence)
      (q₁.deleteDirtyFront sequence rest) := .of_cache rfl rfl (List.Subset.refl _)
  exact (h.before (deleteNoWait_settles q₁ sequence)).before hlist

theorem deleteFree_left (q : BufferQueue) (count : ℕ) :
    (q.deleteFree count).1 = 0 ∨ (q.deleteFree count).2.freeList = [] := by
  induction count generalizing q with
  | zero => exact .inl rfl
  | succ count ih =>
    unfold deleteFree
    split
    · rename_i hfree
      exact .inr hfree
    · exact ih _

theorem deleteDirty_left (q : BufferQueue) (count : ℕ) (hfree : q.freeList = []) :
    ((q.deleteDirty count).1 = 0 ∨ (q.deleteDirty count).2.dirtyList = []) ∧
      (q.deleteDirty count).2.freeList = [] := by
  induction count generalizing q with
  | zero => exact ⟨.inl rfl, hfree⟩
  | succ count ih =>
    unfold deleteDirty
    split
    · rename_i hdirty
      exact ⟨.inr hdirty, hfree⟩
    · rename_i sequence rest _
      refine ih _ ?_
      unfold deleteDirtyFront deleteBufferInCacheNoWaitForAllocatingState
      split
      · exact hfree
      · split <;> simp [hfree]

theorem markDeleting_settles (h : q.Agrees) (hfree : q.freeList = []) (hdirty : q.dirtyList = [])
    (l : List ℕ) : Settles strict [] q (q.markDeleting l) := by
  induction l generalizing q with
  | nil => exact .refl
  | cons sequence rest ih =>
    set q₁ : BufferQueue := { q with
      bufferQueueCache := q.bufferQueueCache.modify sequence setDeleting setDeleting_seqNum } with hq₁
    have hone : Settles strict [] q q₁ := by
      refine .of_modify setDeleting_seqNum rfl (fun _ e he hclear => ⟨fun _ hparked => ?_, fun _ => rfl⟩)
        rfl (List.Subset.refl _)
      rcases hparked with hs | hs
      · have hmem := (h.mem_free_iff he).mpr hs
        simp [hfree] at hmem
      · have hmem := (h.mem_dirty_iff he).mpr hs
        simp [hdirty] at hmem
    have hagrees : q₁.Agrees := by
      have hpool : q₁.pool = q.pool := (pool_markDeleting q [sequence]).1
      rw [Agrees, hpool]
      exact h
    unfold markDeleting
    exact hone.before (ih hagrees hfree hdirty)

theorem deleteBuffersLocked_settles (h : q.Agrees) (count : ℕ) :
    Settles strict [] q (q.deleteBuffersLocked count) := by
  have hfree : Settles strict [] q _ := deleteFree_settles q count
  have hagrees := (deleteFree_refines h count).agrees h
  have hdirty := hfree.before (deleteDirty_settles (q.deleteFree count).2 (q.deleteFree count).1)
  have hagrees₂ := (deleteDirty_refines hagrees (q.deleteFree count).1).agrees hagrees
  unfold deleteBuffersLocked
  dsimp only
  by_cases hleft : ((q.deleteFree count).2.deleteDirty (q.deleteFree count).1).1 = 0
  · rw [hleft, List.take_zero]
    exact hdirty
  · have hempty : (q.deleteFree count).2.freeList = [] := by
      refine (deleteFree_left q count).resolve_left fun hzero => hleft ?_
      rw [hzero]
      rfl
    obtain ⟨hpending, hfree'⟩ := deleteDirty_left (q.deleteFree count).2 (q.deleteFree count).1 hempty
    exact hdirty.before (markDeleting_settles hagrees₂ hfree' (hpending.resolve_left hleft) _)

theorem eraseForRS_settles (q : BufferQueue) (sequence : ℕ) :
    Settles strict [] q (q.eraseForRS sequence) :=
  .of_erase rfl rfl (List.Subset.refl _)

theorem detachForConsumer_settles (q : BufferQueue) (sequence : ℕ) (isReserveSlot : Bool) :
    Settles strict [] q (q.detachForConsumer sequence isReserveSlot) := by
  have hdelete : Settles strict [] q _ := deleteNoWait_settles q sequence
  unfold detachForConsumer
  dsimp only
  split
  · exact hdelete.before (.of_cache rfl rfl (List.Subset.refl _))
  · exact hdelete

theorem detachBufferFromQueueLocked_settles (q : BufferQueue) (sequence : ℕ)
    (invokerType : InvokerType) (isReserveSlot : Bool) :
    Settles strict [] q (q.detachBufferFromQueueLocked sequence invokerType isReserveSlot).2 := by
  unfold detachBufferFromQueueLocked
  split
  · exact .refl
  · cases invokerType with
    | producerInvoker => exact eraseForRS_settles q sequence
    | consumerInvoker => exact detachForConsumer_settles q sequence isReserveSlot

theorem detachBuffer_settles (q : BufferQueue) (sequence : ℕ) :
    Settles strict [] q (q.detachBuffer sequence).2 := by
  unfold detachBuffer
  split
  · exact .refl
  · split
    · exact eraseForRS_settles q sequence
    · exact .refl

theorem requestAndDetachBuffer_settles (h : q.Agrees) (config : BufferRequestConfig)
    (a : Allocation) (hfresh : q.bufferQueueCache.find a.sequence = none) :
    Settles strict [a.sequence] q (q.requestAndDetachBuffer config a).2 := by
  have hrequest : Settles strict [a.sequence] q _ := requestBufferLocked_settles h config a hfresh
  unfold requestAndDetachBuffer
  dsimp only
  split
  · exact hrequest
  · exact hrequest.before (detachBufferFromQueueLocked_settles _ _ _ _)

theorem attachBufferToQueueLocked_settles (q : BufferQueue) (buffer : SurfaceBuffer)
    (invokerType : InvokerType) :
    Settles strict [buffer.seqNum] q (q.attachBufferToQueueLocked buffer invokerType).2 := by
  unfold attachBufferToQueueLocked
  split_ifs with _ _ hin
  · exact Settles.refl.mono (List.nil_subset _)
  · exact Settles.refl.mono (List.nil_subset _)
  · exact Settles.refl.mono (List.nil_subset _)
  · have habsent : q.bufferQueueCache.find buffer.seqNum = none := by simpa using hin
    cases invokerType with
    | producerInvoker =>
      exact .of_put (e := .init (q.attachedBuffer buffer) .requested buffer.bufferRequestConfig
        (some invalidFence)) rfl habsent (.of_spared rfl) rfl (List.Subset.refl _)
    | consumerInvoker =>
      exact .of_put (e := .init (q.attachedBuffer buffer) .acquired buffer.bufferRequestConfig
        (some invalidFence)) rfl habsent (.of_spared rfl) rfl (List.Subset.refl _)

theorem attachBuffer_settles (h : q.Agrees) (buffer : SurfaceBuffer) (timeOut : Int) :
    Settles strict [buffer.seqNum] q (q.attachBuffer buffer timeOut).2 := by
  unfold attachBuffer
  split
  · exact Settles.refl.mono (List.nil_subset _)
  · split
    · exact Settles.refl.mono (List.nil_subset _)
    · split
      · refine Settles.mono ?_ (List.nil_subset _)
        unfold attachBufferUpdateStatus
        split
        · exact .of_modify (setState_seqNum _) rfl (fun _ _ _ => .of_held (by simp [Parked]) rfl) rfl
            (List.Subset.refl _)
        · exact .refl
      · rename_i habsent
        split
        · exact Settles.refl.mono (List.nil_subset _)
        · rename_i count _
          have hdelete : Settles strict [] q _ := deleteBuffersLocked_settles h count
          refine hdelete.after (.of_put (e := q.attachElement buffer timeOut) rfl ?_ (.of_spared rfl)
            rfl (List.Subset.refl _)) ?_
          · exact hdelete.absent _ habsent List.not_mem_nil
          · simpa [attachElement, attachedBuffer, BufferElement.init] using habsent

theorem attachAndFlushBuffer_settles (q : BufferQueue) (buffer : SurfaceBuffer)
    (bedata : Option ExtraData) (fence : SyncFence) (config : BufferFlushConfigWithDamages)
    (env : FlushEnv) :
    Settles strict [buffer.seqNum] q (q.attachAndFlushBuffer buffer bedata fence config env).2 := by
  have hattach : Settles strict [buffer.seqNum] q _ :=
    attachBufferToQueueLocked_settles q buffer .producerInvoker
  have hflush := hattach.before (flushBufferImprovedLocked_settles
    (q.attachBufferToQueueLocked buffer .producerInvoker).2 buffer.seqNum bedata fence config env)
  unfold attachAndFlushBuffer
  dsimp only
  split
  · exact hattach
  · split
    · exact hflush.before (.of_erase rfl rfl (List.Subset.refl _))
    · exact hflush

theorem setQueueSizeLocked_settles (h : q.Agrees) (queueSize : ℕ) :
    Settles strict [] q (q.setQueueSizeLocked queueSize).2 :=
  setQueueSizeLocked_induct .refl (fun count => deleteBuffersLocked_settles h count)
    (fun _ _ h => h.before (.of_cache rfl rfl (List.Subset.refl _))) queueSize

theorem setQueueSize_settles (h : q.Agrees) (queueSize : ℕ) :
    Settles strict [] q (q.setQueueSize queueSize).2 := by
  unfold setQueueSize
  split
  · exact .refl
  · exact setQueueSizeLocked_settles h queueSize

theorem setMaxQueueSize_settles (h : q.Agrees) (queueSize : ℕ) :
    Settles strict [] q (q.setMaxQueueSize queueSize).2 := by
  have hmax : Settles strict [] q { q with maxQueueSize := queueSize } :=
    .of_cache rfl rfl (List.Subset.refl _)
  unfold setMaxQueueSize
  dsimp only
  split
  · exact .refl
  · split
    · exact hmax.before (setQueueSizeLocked_settles (q := { q with maxQueueSize := queueSize }) h
        queueSize)
    · exact hmax

theorem insertPreAlloc_settles (config : BufferRequestConfig) (buffers : List SurfaceBuffer)
    (hnodup : (buffers.map (·.seqNum)).Nodup)
    (hfresh : ∀ b ∈ buffers, q.bufferQueueCache.find b.seqNum = none) :
    Settles strict (buffers.map (·.seqNum)) q (q.insertPreAlloc config buffers).2 := by
  induction buffers generalizing q with
  | nil => exact .refl
  | cons buffer rest ih =>
    rw [List.map_cons, List.nodup_cons] at hnodup
    have habsent := hfresh buffer List.mem_cons_self
    have hrest : ∀ b ∈ rest, b.seqNum ≠ buffer.seqNum := by
      intro b hb heq
      exact hnodup.1 (heq ▸ List.mem_map_of_mem hb)
    unfold insertPreAlloc
    split
    · exact Settles.refl.mono (List.nil_subset _)
    · have hone : Settles strict [buffer.seqNum] q { q with
          bufferQueueCache := q.bufferQueueCache.put
            { BufferElement.init buffer .released config (some invalidFence) with
              isPreAllocBuffer := true }
          freeList := q.freeList ++ [buffer.seqNum] } :=
        .of_put (e := { BufferElement.init buffer .released config (some invalidFence) with
          isPreAllocBuffer := true }) rfl habsent (.of_spared rfl) rfl (List.Subset.refl _)
      refine hone.trans (ih hnodup.2 fun b hb => ?_) fun k hk => ?_
      · exact hone.absent _ (hfresh b (List.mem_cons_of_mem buffer hb)) (by simpa using hrest b hb)
      · obtain ⟨b, hb, rfl⟩ := List.mem_map.mp hk
        exact ⟨hfresh b (List.mem_cons_of_mem buffer hb), by simpa using hrest b hb⟩

theorem preAllocBuffers_settles (config : BufferRequestConfig) (allocBufferCount : ℕ)
    (as : ℕ → Allocation)
    (hfresh : ∀ i < allocBufferCount, q.bufferQueueCache.find (as i).sequence = none) :
    Settles strict ((List.range allocBufferCount).map fun i => (as i).sequence) q
      (q.preAllocBuffers config allocBufferCount as).2 := by
  unfold preAllocBuffers
  dsimp only
  split
  · exact Settles.refl.mono (List.nil_subset _)
  · split
    · exact Settles.refl.mono (List.nil_subset _)
    · have hcount : q.preAllocBuffersCount allocBufferCount ≤ allocBufferCount := min_le_left _ _
      obtain ⟨hnodup, hmade⟩ := allocBuffers_spec
        { config with usage := config.usage ||| q.defaultUsage }
        (q.preAllocBuffersCount allocBufferCount) as
      refine (insertPreAlloc_settles _ _ hnodup fun b hb => ?_).mono fun k hk => ?_
      · obtain ⟨i, hi, hseq⟩ := hmade b hb
        rw [← hseq]
        exact hfresh i (by omega)
      · obtain ⟨b, hb, rfl⟩ := List.mem_map.mp hk
        obtain ⟨i, hi, hseq⟩ := hmade b hb
        exact List.mem_map.mpr ⟨i, List.mem_range.mpr (by omega), hseq⟩

theorem cleanReleasedBuffersLocked_settles (q : BufferQueue) (l : List ℕ) :
    Settles strict [] q (q.cleanReleasedBuffersLocked l).2 := by
  refine cleanReleasedBuffersLocked_induct .refl (fun q₁ sequence h => ?_) l
  split <;> exact h.before (.of_erase rfl rfl (List.Subset.refl _))

theorem cleanProducerBySeqNum_settles (q : BufferQueue) (seqNums : List ℕ) :
    Settles strict [] q (q.cleanProducerBySeqNum seqNums) := by
  refine cleanProducerBySeqNum_induct .refl (fun q₁ sequence h => ?_) seqNums
  unfold cleanProducerOne
  split
  · exact h.before (.of_erase rfl rfl (List.Subset.refl _))
  · exact h

theorem clearLocked_settles (q : BufferQueue) : Settles strict [] q q.clearLocked := by
  refine .of_entries (.of_absent (fun k _ _ => by simp [clearLocked]) rfl (List.nil_subset _)) ?_
  intro _ k e e' _ he'
  simp [clearLocked] at he'

theorem setProducerCacheCleanFlag_settles (q : BufferQueue) (flag : Bool) :
    Settles strict [] q (q.setProducerCacheCleanFlag flag) := by
  unfold setProducerCacheCleanFlag
  split
  · exact (clearLocked_settles q).before (.of_cache rfl rfl (List.Subset.refl _))
  · exact .of_cache rfl rfl (List.Subset.refl _)

theorem mapAll_settles {f : BufferElement → BufferElement}
    (hf : ∀ e, (f e).buffer.seqNum = e.buffer.seqNum)
    (hcache : q'.bufferQueueCache = q.bufferQueueCache.mapAll f hf) (hcore : ∀ e, SameCore e (f e))
    (hnoticed : q'.noticed = q.noticed) (hdeleting : q'.deletingList = q.deletingList) :
    Settles strict [] q q' := by
  have hfind (k : ℕ) : q'.bufferQueueCache.find k = (q.bufferQueueCache.find k).map f := by
    rw [hcache, BufferCache.find_mapAll]
  refine .of_entries (.of_absent (fun k hk _ => by simp [hfind, hk]) hnoticed (by simp [hdeleting]))
    fun _ k e e' he he' => ?_
  rw [hfind, he, Option.map_some, Option.some.injEq] at he'
  exact he' ▸ .of_core (hcore e)

theorem setBufferScalingMode_settles (q : BufferQueue) (sequence : ℕ) (scalingMode : Int) :
    Settles strict [] q (q.setBufferScalingMode sequence scalingMode).2 := by
  unfold setBufferScalingMode
  split
  · exact .of_modify (setScalingMode_seqNum _) rfl (fun _ e _ => .of_core ⟨rfl, rfl, rfl⟩) rfl
      (List.Subset.refl _)
  · exact .refl

theorem acquireLastFlushedBuffer_settles (q : BufferQueue) :
    Settles strict [] q q.acquireLastFlushedBuffer.2 :=
  acquireLastFlushedBuffer_induct q .refl (.of_cache rfl rfl (List.Subset.refl _))

theorem releaseLastFlushedBuffer_settles (q : BufferQueue) (sequence : ℕ) :
    Settles strict [] q (q.releaseLastFlushedBuffer sequence).2 :=
  releaseLastFlushedBuffer_induct q sequence .refl (.of_cache rfl rfl (List.Subset.refl _))

end BufferQueue

theorem Op.run_settles {strict : Bool} {q : BufferQueue} {op : Op} (h : q.Agrees)
    (hclear : strict → q.Clear) (hfresh : op.Fresh q) (hok : strict → op.recycles q = false) :
    Settles strict op.inserts q (op.run q).2 := by
  cases op with
  | requestBuffer config a => exact BufferQueue.requestBufferLocked_settles h config a hfresh
  | requestBuffers config as =>
    exact BufferQueue.requestBuffers_settles h config as hfresh.1 hfresh.2
  | requestAndDetachBuffer config a =>
    exact BufferQueue.requestAndDetachBuffer_settles h config a hfresh
  | cancelBuffer sequence bedata => exact BufferQueue.cancelBufferLocked_settles bedata hok
  | flushBuffer f => exact BufferQueue.flushBuffer_settles f hok
  | flushBuffers fs => exact BufferQueue.flushBuffers_settles fs hok
  | acquireBuffer now => exact BufferQueue.acquireBuffer_settles q now
  | acquireBufferByTimestamp expect auto now envs =>
    exact BufferQueue.acquireBufferByTimestamp_settles h hclear expect auto now envs
  | releaseBuffer sequence fence env =>
    exact BufferQueue.releaseBuffer_settles h hclear sequence fence env
  | attachBufferToQueue buffer invokerType =>
    exact BufferQueue.attachBufferToQueueLocked_settles q buffer invokerType
  | detachBufferFromQueue sequence invokerType isReserveSlot =>
    exact BufferQueue.detachBufferFromQueueLocked_settles q sequence invokerType isReserveSlot
  | attachBuffer buffer timeOut => exact BufferQueue.attachBuffer_settles h buffer timeOut
  | detachBuffer sequence => exact BufferQueue.detachBuffer_settles q sequence
  | attachAndFlushBuffer buffer bedata fence config env =>
    exact BufferQueue.attachAndFlushBuffer_settles q buffer bedata fence config env
  | setQueueSize queueSize => exact BufferQueue.setQueueSize_settles h queueSize
  | setMaxQueueSize queueSize => exact BufferQueue.setMaxQueueSize_settles h queueSize
  | preAllocBuffers config count as =>
    exact BufferQueue.preAllocBuffers_settles config count as hfresh
  | cleanCache | onConsumerDied => exact BufferQueue.clearLocked_settles q
  | goBackground =>
    exact (BufferQueue.clearLocked_settles q).before (.of_cache rfl rfl (List.Subset.refl _))
  | setProducerCacheCleanFlag flag => exact BufferQueue.setProducerCacheCleanFlag_settles q flag
  | cleanReleasedBuffers => exact BufferQueue.cleanReleasedBuffersLocked_settles q _
  | cleanProducerBySeqNum seqNums => exact BufferQueue.cleanProducerBySeqNum_settles q seqNums
  | acquireLastFlushedBuffer => exact BufferQueue.acquireLastFlushedBuffer_settles q
  | releaseLastFlushedBuffer sequence =>
    exact BufferQueue.releaseLastFlushedBuffer_settles q sequence
  | setScalingMode scalingMode =>
    exact BufferQueue.mapAll_settles (BufferElement.setScalingMode_seqNum _) rfl (fun e => ⟨rfl, rfl, rfl⟩) rfl rfl
  | setBufferScalingMode sequence scalingMode =>
    exact BufferQueue.setBufferScalingMode_settles q sequence scalingMode
  | setVideoDimensionType videoDimType =>
    exact BufferQueue.mapAll_settles (BufferElement.setVideoDimensionType_seqNum _) rfl (fun e => ⟨rfl, rfl, rfl⟩) rfl rfl
  | setSingleBufferMode singleBufferMode => exact .of_cache rfl rfl (List.Subset.refl _)
  | configure s => exact .of_cache rfl rfl (List.Subset.refl _)

end GraphicSurface
