import GraphicSurface.ConcurrencyMoves

/-! The calls by which buffers go round between the producer and the consumer, and what one step
of such a call does to the cache. `Effect` is the list of all the possibilities; what holds in
every run is derived from it. None of these calls condemns a buffer, so no deletion waits. -/

namespace GraphicSurface

open Runs SlotPool Interleaving

def Call.circulates : Call → Bool
  | requestBuffer _ | cancelBuffer _ _ | flushBuffer _ | detachBufferFromQueue _ _ _
  | acquireBuffer _ | releaseBuffer _ _ _ _ | cleanCache => true
  | _ => false

def Action.circulates : Action → Bool
  | .call c => c.circulates
  | _ => true

def Pc.circulates : Pc → Bool
  | allocating false (.done _) => false
  | idle _ | requestWait false _ | requestBlocked false _ | allocating false _ | flushChecking _
  | flushListener _ | flushCancel _ | flushDo _ | detachDelete _ _ | handOutWait _ _
  | releaseCallback _ | callback _ | clientCancel _ _ | takeBack _ | clearWait => true
  | _ => false

def BufferQueue.Undoomed (q : BufferQueue) : Prop :=
  ∀ k e, q.bufferQueueCache.find k = some e → e.isDeleting = false

/-- What a step of these calls does to the cache. -/
inductive Effect (q q' : BufferQueue) : Pc → Action → Prop
  | quiet {pc : Pc} {a : Action} (h : q' = q) : Effect q q' pc a
  | requests {pc : Pc} {a : Action} (h : Lends true q q') : Effect q q' pc a
  | handsOut {config : BufferRequestConfig} {configs : List BufferRequestConfig}
      (h : Lends false q q') : Effect q q' (.handOutWait config configs) .go
  | cancelBuffer {reply : Option Reply} {k : ℕ} {bedata : Option ExtraData}
      (h : q' = (q.cancelBufferLocked k bedata).2) :
      Effect q q' (.idle reply) (.call (.cancelBuffer k bedata))
  | flushCancel {f : FlushArgs} (h : q' = (q.cancelBufferLocked f.sequence f.bedata).2) :
      Effect q q' (.flushCancel f) .go
  | clientCancel {bedata : Option ExtraData} {d : ℕ × Option SyncFence}
      {rest : List (ℕ × Option SyncFence)} (h : q' = (q.cancelBufferLocked d.1 bedata).2) :
      Effect q q' (.clientCancel bedata (d :: rest)) .go
  | takeBack {d : ℕ × Option SyncFence} {rest : List (ℕ × Option SyncFence)}
      (h : q' = q.takeBack d.1) : Effect q q' (.takeBack (d :: rest)) .go
  | flushDo {f : FlushArgs}
      (h : q' = (q.doFlushBufferLocked f.sequence f.bedata f.fence f.config f.env).2) :
      Effect q q' (.flushDo f) .go
  | detach {reply : Option Reply} {k : ℕ} {invokerType : InvokerType} {isReserveSlot : Bool}
      (h : q' = (q.detachBufferFromQueueLocked k invokerType isReserveSlot).2) :
      Effect q q' (.idle reply) (.call (.detachBufferFromQueue k invokerType isReserveSlot))
  | detachDelete {k : ℕ} {isReserveSlot : Bool} (h : q' = q.detachForConsumer k isReserveSlot) :
      Effect q q' (.detachDelete k isReserveSlot) .go
  | acquire {reply : Option Reply} {now : Int} (h : q' = (q.acquireBuffer now).2) :
      Effect q q' (.idle reply) (.call (.acquireBuffer now))
  | release {reply : Option Reply} {k : ℕ} {fence : Option SyncFence} {now mergeFd : Int}
      (h : Lends false (q.releaseBufferLocked k fence ⟨now, mergeFd, fun _ => true⟩).2 q') :
      Effect q q' (.idle reply) (.call (.releaseBuffer k fence now mergeFd))
  | clear {pc : Pc} {a : Action} (hpc : pc = .clearWait ∨ a = .call .cleanCache)
      (h : q' = q.clearLocked) : Effect q q' pc a

/-- The reply of a request that handed a buffer out is not among the places to go to. -/
def Pc.passes : Pc → Bool
  | idle (some (.request _)) => false
  | pc => pc.circulates

/-- Where a step leads. A request that returns a buffer took it out of a list, or the buffer is
new, and leaves it marked. -/
structure Outcome (q : BufferQueue) (r : Pc × BufferQueue) : Prop where
  circulates : r.1.circulates
  granted : ∀ reply, r.1 = .idle (some (.request reply)) → reply.ret = .ok →
    (∃ e', r.2.bufferQueueCache.find reply.retval.sequence = some e' ∧ e'.state = .requested) ∧
      ∀ e, q.bufferQueueCache.find reply.retval.sequence = some e → e.Parked

theorem Outcome.of_passes {q : BufferQueue} {r : Pc × BufferQueue} (h : r.1.passes) :
    Outcome q r where
  circulates := by
    unfold Pc.passes at h
    split at h
    · cases h
    · exact h
  granted reply hr := by
    rw [hr] at h
    cases h

theorem Outcome.of_reply {q : BufferQueue} {reply : RequestReply} {q' : BufferQueue}
    (hsound : reply.Sound false q') (htook : (ReusePoint.done reply).Took q) :
    Outcome q (.idle (some (.request reply)), q') where
  circulates := rfl
  granted reply' hr hok := by
    obtain rfl : reply = reply' := by simpa using hr
    refine ⟨hsound.marked hok, fun e he => ?_⟩
    obtain ⟨e', he', hparked⟩ := htook hok
    rw [he, Option.some.injEq] at he'
    exact he' ▸ hparked

namespace BufferQueue

variable {q : BufferQueue}

theorem reach_outcome {p : BufferQueue} {point : ReusePoint} (hlends : Lends true p q)
    (hsound : point.Sound false q) (htook : point.Took p) :
    Lends true p (q.reach false point).2 ∧ Outcome p (q.reach false point) := by
  cases point with
  | done reply => exact ⟨hlends, .of_reply hsound htook⟩
  | setupNewBuffer job => exact ⟨hlends, .of_passes rfl⟩
  | reallocBuffer job => exact ⟨hlends, .of_passes rfl⟩

theorem requestSection_lends (h : q.Agrees) (config : BufferRequestConfig) :
    Lends true q (q.requestSection false config).2 ∧ Outcome q (q.requestSection false config) := by
  have hbody : Lends true q (q.requestBufferBody config false).2 :=
    requestBufferBody_lends h config false
  have hsound := requestBufferBody_sound q config false
  have htook := requestBufferBody_took h config false
  unfold requestSection
  split
  · rename_i point q₁ hb
    rw [hb] at hbody hsound htook
    exact reach_outcome hbody hsound htook
  · rename_i config' q₁ hb
    rw [hb] at hbody
    exact ⟨hbody, .of_passes rfl⟩

theorem startRequest_lends (h : q.Agrees) (config : BufferRequestConfig) :
    Lends true q (q.startRequest false config).2 ∧ Outcome q (q.startRequest false config) := by
  unfold startRequest
  split
  · rename_i ret hcheck
    have hret := requestBufferCheck_error hcheck
    exact ⟨.refl, .of_reply (.error hret _ _) (.error hret)⟩
  · split
    · exact ⟨.refl, .of_passes rfl⟩
    · exact requestSection_lends h _

theorem reachBlocked_lends (h : q.Agrees) (config : BufferRequestConfig) :
    Lends true q ((q.reuseBufferForBlockMode config).2.reach false
        (q.reuseBufferForBlockMode config).1).2 ∧
      Outcome q ((q.reuseBufferForBlockMode config).2.reach false
        (q.reuseBufferForBlockMode config).1) :=
  reach_outcome (reuseBufferForBlockMode_lends h config) (reuseBufferForBlockMode_sound q config)
    (reuseBufferForBlockMode_took h config)

theorem finishRequest_outcome {a : Allocation} (hfresh : q.bufferQueueCache.find a.sequence = none)
    {point : ReusePoint} (hpoint : ∀ reply, point ≠ .done reply) :
    Lends true q (q.finishRequest a point).2 ∧
      Outcome q (.idle (some (.request (q.finishRequest a point).1)), (q.finishRequest a point).2) := by
  refine ⟨finishRequest_lends a hfresh point, rfl, fun reply hreply hok => ?_⟩
  obtain rfl : (q.finishRequest a point).1 = reply :=
    Reply.request.inj (Option.some.inj (Pc.idle.inj hreply))
  have hsection : point.Sound false q := by
    cases point with
    | done reply => exact absurd rfl (hpoint reply)
    | setupNewBuffer job | reallocBuffer job => trivial
  have hsound : (q.finishRequest a point).1.Sound false (q.finishRequest a point).2 :=
    finishRequest_sound hsection a
  refine ⟨hsound.marked hok, fun e he => ?_⟩
  rw [sequence_finishRequest q a hpoint hok, hfresh] at he
  cases he

theorem handOutSection_lends (h : q.Agrees) :
    Lends false q q.handOutSection.2 ∧ q.handOutSection.1.passes := by
  unfold handOutSection
  dsimp only
  split
  · split <;> exact ⟨.refl, rfl⟩
  · exact ⟨handOut_lends h _ _, rfl⟩

theorem afterRelease_lends (h : q.Agrees) :
    Lends false q q.afterRelease.2 ∧ q.afterRelease.1.passes := by
  unfold afterRelease
  split
  · exact handOutSection_lends h
  · exact ⟨.refl, rfl⟩

theorem handOutResume_lends (h : q.Agrees) (updateConfig : BufferRequestConfig)
    (configs : List BufferRequestConfig) :
    Lends false q (q.handOutResume updateConfig configs).2 ∧
      (q.handOutResume updateConfig configs).1.passes := by
  have hagrees := (requestBufferBody_refines_listener h updateConfig).agrees h
  have hlends : Lends false q (q.requestBufferBody updateConfig true).2 :=
    requestBufferBody_lends h updateConfig true
  have htook := requestBufferBody_took h updateConfig true
  have hsound := requestBufferBody_sound q updateConfig true
  unfold handOutResume
  dsimp only
  split
  · rename_i reply q₁ hb
    rw [hb] at hagrees hlends htook hsound
    split
    · rename_i hret
      have hmark := setRequestedFromListener_lends hlends (htook hret)
        (RequestReply.Sound.marked hsound hret)
      have hagrees' : (q₁.setRequestedFromListener reply.retval.sequence).Agrees := by
        rw [Agrees, pool_setRequestedFromListener]
        exact hagrees
      exact ⟨hmark.trans (handOut_lends hagrees' _ _), rfl⟩
    · exact ⟨hlends.trans (handOut_lends hagrees _ _), rfl⟩
  · rename_i point q₁ _ hb
    rw [hb] at hlends
    exact ⟨hlends, rfl⟩

theorem nextCallback_passes (handed : List (ℕ × Option SyncFence)) :
    (nextCallback handed).passes := by
  unfold nextCallback
  split <;> rfl

theorem releaseSection_effect (h : q.Agrees) (hdoom : q.Undoomed) (reply : Option Reply) (k : ℕ)
    (fence : Option SyncFence) (now mergeFd : Int) :
    Effect q (q.releaseSection k fence now mergeFd).2 (.idle reply)
        (.call (.releaseBuffer k fence now mergeFd)) ∧
      (q.releaseSection k fence now mergeFd).1.passes := by
  unfold releaseSection
  dsimp only
  split
  · rename_i e he
    have hrelease := releaseBufferLocked_refines h k fence ⟨now, mergeFd, fun _ => true⟩
    rw [hdoom k e he, Bool.and_false, Bool.false_and, if_neg Bool.false_ne_true]
    split
    · exact ⟨.release .refl, rfl⟩
    · obtain ⟨hlends, hpc⟩ := afterRelease_lends (hrelease.agrees h)
      exact ⟨.release hlends, hpc⟩
  · exact ⟨.quiet rfl, rfl⟩

theorem flushSection_eq (hdoom : q.Undoomed) (f : FlushArgs) :
    (q.flushSection f).2 =
        (q.doFlushBufferLocked f.sequence f.bedata f.fence f.config f.env).2 ∧
      (q.flushSection f).1.passes := by
  have hwait : (q.bufferQueueCache.find f.sequence).any (·.isDeleting) = false := by
    cases he : q.bufferQueueCache.find f.sequence with
    | none => rfl
    | some e => exact hdoom _ e he
  unfold flushSection
  rw [hwait, Bool.and_false, if_neg Bool.false_ne_true]
  exact ⟨rfl, rfl⟩

theorem detachSection_effect (q : BufferQueue) (reply : Option Reply) (k : ℕ)
    (invokerType : InvokerType) (isReserveSlot : Bool) :
    Effect q (q.detachSection k invokerType isReserveSlot).2 (.idle reply)
        (.call (.detachBufferFromQueue k invokerType isReserveSlot)) ∧
      (q.detachSection k invokerType isReserveSlot).1.passes := by
  unfold detachSection
  split
  · exact ⟨.quiet rfl, rfl⟩
  · exact ⟨.detach rfl, rfl⟩

end BufferQueue

theorem Call.start_effect {q : BufferQueue} (h : q.Agrees) (hdoom : q.Undoomed)
    (reply : Option Reply) {c : Call} (hc : c.circulates) :
    Effect q (c.start q).2 (.idle reply) (.call c) ∧ Outcome q (c.start q) := by
  cases c with
  | requestBuffer config =>
    obtain ⟨hlends, houtcome⟩ := BufferQueue.startRequest_lends h config
    exact ⟨.requests hlends, houtcome⟩
  | cancelBuffer k bedata => exact ⟨.cancelBuffer rfl, .of_passes rfl⟩
  | flushBuffer f =>
    simp only [Call.start]
    split
    · exact ⟨.quiet rfl, .of_passes rfl⟩
    · split <;> exact ⟨.quiet rfl, .of_passes rfl⟩
  | detachBufferFromQueue k invokerType isReserveSlot =>
    obtain ⟨heff, hpc⟩ := BufferQueue.detachSection_effect q reply k invokerType isReserveSlot
    exact ⟨heff, .of_passes hpc⟩
  | acquireBuffer now => exact ⟨.acquire rfl, .of_passes rfl⟩
  | releaseBuffer k fence now mergeFd =>
    obtain ⟨heff, hpc⟩ := BufferQueue.releaseSection_effect h hdoom reply k fence now mergeFd
    exact ⟨heff, .of_passes hpc⟩
  | cleanCache =>
    simp only [Call.start]
    split
    · exact ⟨.quiet rfl, .of_passes rfl⟩
    · exact ⟨.clear (.inr rfl) rfl, .of_passes rfl⟩
  | requestAndDetachBuffer | attachBufferToQueue | attachBuffer | attachAndFlushBuffer
  | preAllocBuffers | configure => cases hc

theorem Pc.advance_effect {q : BufferQueue} (h : q.Agrees) (hdoom : q.Undoomed) {pc : Pc}
    {a : Action} (hpc : pc.circulates) (ha : a.circulates) (hfresh : a.fresh q pc)
    {r : Pc × BufferQueue} (hr : pc.advance q a = some r) :
    Effect q r.2 pc a ∧ Outcome q r := by
  unfold advance at hr
  split at hr
  · cases hr
    exact Call.start_effect h hdoom _ ha
  · rename_i detach config
    obtain rfl : detach = false := by cases detach <;> first | rfl | cases hpc
    split at hr
    · cases hr
    · cases hr
      obtain ⟨hlends, houtcome⟩ := BufferQueue.requestSection_lends h config
      exact ⟨.requests hlends, houtcome⟩
  · rename_i detach config
    obtain rfl : detach = false := by cases detach <;> first | rfl | cases hpc
    obtain rfl := Option.some.inj hr
    obtain ⟨hlends, houtcome⟩ := BufferQueue.reachBlocked_lends h config
    exact ⟨.requests hlends, houtcome⟩
  · rename_i detach point a
    obtain ⟨rfl, hpoint⟩ : detach = false ∧ ∀ reply, point ≠ .done reply := by
      cases detach <;> cases point <;> simp_all [circulates]
    cases hr
    have hfresh : q.bufferQueueCache.find a.sequence = none := by
      simpa [Action.fresh] using hfresh
    obtain ⟨hlends, houtcome⟩ := BufferQueue.finishRequest_outcome hfresh hpoint
    exact ⟨.requests hlends, houtcome⟩
  · split at hr <;> cases hr <;> exact ⟨.quiet rfl, .of_passes rfl⟩
  · cases hr
    refine ⟨.quiet rfl, .of_passes ?_⟩
    dsimp only
    split <;> rfl
  · cases hr
    exact ⟨.flushCancel rfl, .of_passes rfl⟩
  · rename_i f
    cases hr
    obtain ⟨hflush, hpc'⟩ := BufferQueue.flushSection_eq hdoom f
    exact ⟨.flushDo hflush, .of_passes hpc'⟩
  · cases hpc
  · split at hr
    · cases hr
    · cases hr
      exact ⟨.detachDelete rfl, .of_passes rfl⟩
  · cases hpc
  · rename_i updateConfig configs
    split at hr
    · cases hr
    · cases hr
      obtain ⟨hlends, hpc'⟩ := BufferQueue.handOutResume_lends h updateConfig configs
      exact ⟨.handsOut hlends, .of_passes hpc'⟩
  · cases hr
    refine ⟨.quiet rfl, .of_passes ?_⟩
    dsimp only
    split
    · exact BufferQueue.nextCallback_passes _
    · rfl
  · split at hr
    · cases hr
      exact ⟨.quiet rfl, .of_passes rfl⟩
    · cases hr
      refine ⟨.quiet rfl, .of_passes ?_⟩
      dsimp only
      split
      · exact BufferQueue.nextCallback_passes _
      · rfl
    · cases hr
      exact ⟨.quiet rfl, .of_passes rfl⟩
  · split at hr
    · cases hr
    · cases hr
      refine ⟨?_, .of_passes rfl⟩
      dsimp only
      split
      · exact .clientCancel rfl
      · exact .quiet rfl
  · split at hr
    · cases hr
    · cases hr
      exact ⟨.takeBack rfl, .of_passes (BufferQueue.nextCallback_passes _)⟩
  · cases hpc
  · cases hpc
  · cases hpc
  · cases hpc
  · cases hpc
  · cases hpc
  · split at hr
    · cases hr
    · cases hr
      exact ⟨.clear (.inl rfl) rfl, .of_passes rfl⟩
  · cases hr

/-! The single steps in terms of the entries that they write. -/

namespace BufferQueue

variable {q q' : BufferQueue}

theorem cancel_cases (q : BufferQueue) (k : ℕ) (bedata : Option ExtraData) :
    (q.cancelBufferLocked k bedata).2 = q ∧ (q.cancelBufferLocked k bedata).1 ≠ .ok ∨
      ∃ e, q.bufferQueueCache.find k = some e ∧ (e.state = .requested ∨ e.state = .attached) ∧
        (q.cancelBufferLocked k bedata).2.bufferQueueCache =
          q.bufferQueueCache.modify k (BufferElement.setCancelled bedata)
            (BufferElement.setCancelled_seqNum bedata) := by
  unfold cancelBufferLocked
  split
  · exact .inl ⟨rfl, by simp⟩
  · rename_i e he
    split
    · exact .inl ⟨rfl, by simp⟩
    · rename_i hs
      exact .inr ⟨e, he, by tauto, rfl⟩

/-- A flush of a buffer that is not condemned: it fails before or in `FlushCache`, or the buffer
becomes the last one in the dirty list. -/
theorem flush_cases (hdoom : q.Undoomed) (f : FlushArgs) :
    let q' := (q.doFlushBufferLocked f.sequence f.bedata f.fence f.config f.env).2
    q'.fault = false →
    q'.bufferQueueCache = q.bufferQueueCache ∨
      ∃ e g hg, q.bufferQueueCache.find f.sequence = some e ∧
        q'.bufferQueueCache = q.bufferQueueCache.modify f.sequence g hg ∧
        (∀ e, (g e).isDeleting = e.isDeleting) ∧
        ((∀ e, BufferElement.SameCore e (g e)) ∨
          (∀ e, (g e).state = .flushed ∧ (g e).requestedFromListenerClientPid = 0) ∧
            (q.strays f = false → ¬ e.Parked)) := by
  intro q' hfault
  revert hfault
  unfold q' doFlushBufferLocked
  cases he : q.bufferQueueCache.find f.sequence with
  | none => exact fun _ => .inl rfl
  | some e =>
    dsimp only
    rw [if_neg (by simp [hdoom _ e he])]
    cases f.bedata with
    | none => simp
    | some bedata =>
      intro _
      dsimp only
      split
      · exact .inr ⟨e, BufferElement.setPrepared bedata q.transform q.singleBufferMode,
          BufferElement.setPrepared_seqNum _ _ _, rfl, rfl, fun _ => rfl, .inl fun _ => ⟨rfl, rfl, rfl⟩⟩
      · rename_i hgoes
        refine .inr ⟨e, fun e => (e.setPrepared bedata q.transform q.singleBufferMode).setFlushed
          f.fence f.config f.env.now, fun e => ?_, rfl, ?_, fun e => ?_, .inr ⟨fun e => ⟨?_, ?_⟩, ?_⟩⟩
        · rw [BufferElement.setFlushed_seqNum, BufferElement.setPrepared_seqNum]
        · refine BufferCache.ext fun j => ?_
          by_cases hj : f.sequence = j
          · subst hj
            simp [commitFlush, prepareFlush, he]
          · simp [commitFlush, prepareFlush, hj]
        · exact BufferElement.setFlushed_isDeleting _ _ _ _
        · exact BufferElement.setFlushed_state _ _ _ _
        · exact BufferElement.setFlushed_pid _ _ _ _
        · intro hcalm hparked
          simp only [strays, he] at hcalm
          rcases hparked with hs | hs <;> simp_all

theorem acquire_cases (h : q.Agrees) (now : Int) :
    (q.acquireBuffer now).2 = q ∨
      ∃ k e, q.bufferQueueCache.find k = some e ∧ e.state = .flushed ∧
        (q.acquireBuffer now).2.bufferQueueCache =
          q.bufferQueueCache.modify k (BufferElement.setAcquired now)
            (BufferElement.setAcquired_seqNum now) := by
  unfold acquireBuffer
  split
  · rename_i q₁ hpop
    exact .inl (popFromDirtyListLocked_none h hpop).1
  · rename_i buffer q₁ hpop
    obtain ⟨rest, e, hdirty, he, rfl, rfl⟩ := popFromDirtyListLocked_some hpop
    obtain ⟨e', he', hs⟩ := h.state_of_mem_dirty (k := e.buffer.seqNum) (by simp [hdirty])
    rw [he, Option.some.injEq] at he'
    subst he'
    right
    refine ⟨e.buffer.seqNum, e, he, hs, ?_⟩
    dsimp only
    rw [he]
    rfl

theorem release_cases (hdoom : q.Undoomed) (k : ℕ) (fence : Option SyncFence) (env : ReleaseEnv) :
    (q.releaseBufferLocked k fence env).2 = q ∨
      ∃ e, q.bufferQueueCache.find k = some e ∧ (e.state = .acquired ∨ e.state = .attached) ∧
        (q.releaseBufferLocked k fence env).2.bufferQueueCache =
          q.bufferQueueCache.modify k (BufferElement.setReleased fence env.mergeFd)
            (BufferElement.setReleased_seqNum _ _) := by
  unfold releaseBufferLocked
  split
  · exact .inl rfl
  · rename_i e he
    split
    · exact .inl rfl
    · rename_i hs
      dsimp only
      rw [if_neg (by simp [hdoom k e he])]
      exact .inr ⟨e, he, by tauto, rfl⟩

theorem takeBack_cases (q : BufferQueue) (k : ℕ) :
    q.takeBack k = q ∨
      ∃ e, q.bufferQueueCache.find k = some e ∧ (e.state = .requested ∨ e.state = .attached) ∧
        (q.takeBack k).bufferQueueCache =
          q.bufferQueueCache.modify k (BufferElement.setCancelled e.buffer.extraData)
            (BufferElement.setCancelled_seqNum _) := by
  unfold takeBack
  split
  · exact .inl rfl
  · rename_i e he
    rcases cancel_cases q k e.buffer.extraData with ⟨h, -⟩ | ⟨e', he', hs, hcache⟩
    · exact .inl h
    · rw [he, Option.some.injEq] at he'
      exact .inr ⟨e, he, he' ▸ hs, hcache⟩

theorem find_eraseForRS (q : BufferQueue) (k j : ℕ) :
    (q.eraseForRS k).bufferQueueCache.find j = if k = j then none else q.bufferQueueCache.find j :=
  BufferCache.find_erase _ _ _

theorem find_detachForConsumer (q : BufferQueue) (k j : ℕ) (isReserveSlot : Bool) :
    (q.detachForConsumer k isReserveSlot).bufferQueueCache.find j =
      if k = j then none else q.bufferQueueCache.find j := by
  unfold detachForConsumer
  dsimp only
  split <;> exact find_deleteNoWait q k j

theorem detach_cases (q : BufferQueue) (k : ℕ) (invokerType : InvokerType) (isReserveSlot : Bool) :
    (q.detachBufferFromQueueLocked k invokerType isReserveSlot).2 = q ∨
      ∀ j, (q.detachBufferFromQueueLocked k invokerType isReserveSlot).2.bufferQueueCache.find j =
        if k = j then none else q.bufferQueueCache.find j := by
  unfold detachBufferFromQueueLocked
  split
  · exact .inl rfl
  · cases invokerType with
    | producerInvoker => exact .inr fun j => find_eraseForRS q k j
    | consumerInvoker => exact .inr fun j => find_detachForConsumer q k j isReserveSlot

end BufferQueue

namespace BufferQueue.Undoomed

variable {q q' : BufferQueue}

theorem of_cache (h : q.Undoomed) (hcache : q'.bufferQueueCache = q.bufferQueueCache) :
    q'.Undoomed := fun k e he => h k e (hcache ▸ he)

theorem of_modify (h : q.Undoomed) {k : ℕ} {f : BufferElement → BufferElement}
    {hf : ∀ e, (f e).buffer.seqNum = e.buffer.seqNum}
    (hcache : q'.bufferQueueCache = q.bufferQueueCache.modify k f hf)
    (hdel : ∀ e, (f e).isDeleting = e.isDeleting) : q'.Undoomed := by
  intro j e' he'
  rw [hcache, BufferCache.find_modify] at he'
  split_ifs at he'
  · obtain ⟨e, he, rfl⟩ := Option.map_eq_some_iff.mp he'
    exact (hdel e).trans (h j e he)
  · exact h j e' he'

theorem of_removed (h : q.Undoomed) {k : ℕ}
    (hfind : ∀ j, q'.bufferQueueCache.find j = if k = j then none else q.bufferQueueCache.find j) :
    q'.Undoomed := by
  intro j e he
  rw [hfind] at he
  split_ifs at he
  exact h j e he

theorem cancel (h : q.Undoomed) (k : ℕ) (bedata : Option ExtraData) :
    (q.cancelBufferLocked k bedata).2.Undoomed := by
  rcases cancel_cases q k bedata with ⟨hq, -⟩ | ⟨e, -, -, hcache⟩
  · rwa [hq]
  · exact h.of_modify hcache fun _ => rfl

theorem release (h : q.Undoomed) (k : ℕ) (fence : Option SyncFence) (env : ReleaseEnv) :
    (q.releaseBufferLocked k fence env).2.Undoomed := by
  rcases release_cases h k fence env with hq | ⟨e, -, -, hcache⟩
  · rwa [hq]
  · exact h.of_modify hcache fun _ => rfl

end BufferQueue.Undoomed

theorem Effect.undoomed {q q' : BufferQueue} {pc : Pc} {a : Action} (heff : Effect q q' pc a)
    (h : q.Agrees) (hdoom : q.Undoomed) (hfault : q'.fault = false) : q'.Undoomed := by
  cases heff with
  | quiet hq => exact hq ▸ hdoom
  | requests hlends => exact hlends.not_deleting hdoom
  | handsOut hlends => exact hlends.not_deleting hdoom
  | cancelBuffer hq | flushCancel hq | clientCancel hq => exact hq ▸ hdoom.cancel _ _
  | takeBack hq =>
    rename_i d rest
    rcases BufferQueue.takeBack_cases q d.1 with hsame | ⟨e, -, -, hcache⟩
    · rwa [hq, hsame]
    · exact hq ▸ hdoom.of_modify hcache fun _ => rfl
  | flushDo hq =>
    rename_i f
    subst hq
    rcases BufferQueue.flush_cases hdoom f hfault with hcache | ⟨e, g, hg, -, hcache, hdel, -⟩
    · exact hdoom.of_cache hcache
    · exact hdoom.of_modify hcache hdel
  | detach hq =>
    rename_i reply k invokerType isReserveSlot
    subst hq
    rcases BufferQueue.detach_cases q k invokerType isReserveSlot with hsame | hfind
    · rwa [hsame]
    · exact hdoom.of_removed hfind
  | detachDelete hq =>
    exact hq ▸ hdoom.of_removed (fun j => BufferQueue.find_detachForConsumer q _ j _)
  | acquire hq =>
    rename_i reply now
    subst hq
    rcases BufferQueue.acquire_cases h now with hsame | ⟨k, e, -, -, hcache⟩
    · rwa [hsame]
    · exact hdoom.of_modify hcache fun _ => rfl
  | release hlends => exact hlends.not_deleting (hdoom.release _ _ _)
  | clear _ hq =>
    subst hq
    intro k e he
    simp [BufferQueue.clearLocked] at he

end GraphicSurface
