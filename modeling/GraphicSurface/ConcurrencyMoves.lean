import GraphicSurface.AttachMoves
import GraphicSurface.Concurrency
import GraphicSurface.Lending

/-! The sections of the concurrent calls as runs of pool moves. Whether a section may run at a
moment when the state is not the one that the call has checked is the question: `Calm` names the
few sections for which it matters, and says what has to be true of the state before them. -/

namespace GraphicSurface

open Runs SlotPool Interleaving

def anyMove (_ : Move ℕ) : Prop := True

theorem Refines.any {allowed : Move ℕ → Prop} {q q' : BufferQueue} (h : Refines allowed q q') :
    Refines anyMove q q' := h.mono fun _ _ => trivial

namespace BufferQueue

variable {q q' : BufferQueue} {sequence : ℕ} {e : BufferElement}

/-- The flush would put a buffer in the dirty list that is free or already there. -/
def strays (q : BufferQueue) (f : FlushArgs) : Bool :=
  match q.bufferQueueCache.find f.sequence with
  | none => false
  | some e =>
    (e.isDeleting || !(e.config.usage &&& bufferUsageCpuWrite != 0 && f.env.flushCache != .ok)) &&
      (e.state == .released || e.state == .flushed)

theorem flushSection_refines (h : q.Agrees) {f : FlushArgs} (hcalm : q.strays f = false)
    (hfault : (q.flushSection f).2.fault = false) : Refines anyMove q (q.flushSection f).2 := by
  unfold flushSection at hfault ⊢
  split
  · exact .refl
  · rename_i hwait
    rw [if_neg hwait] at hfault
    change Refines anyMove q (q.doFlushBufferLocked f.sequence f.bedata f.fence f.config f.env).2
    by_cases hheld : ∀ e, q.bufferQueueCache.find f.sequence = some e → e.state.place = .held
    · exact (doFlushBufferLocked_refines h hheld (.inr hfault)).any
    · obtain ⟨e, he, hs⟩ : ∃ e, q.bufferQueueCache.find f.sequence = some e ∧
          ¬ e.state.place = .held := by simpa using hheld
      -- a stray flush that is calm fails in `FlushCache`
      have hparked : e.state = .released ∨ e.state = .flushed := by
        cases hstate : e.state <;> simp_all [BufferState.place]
      have hfails : ¬ e.isDeleting ∧ e.config.usage &&& bufferUsageCpuWrite ≠ 0 ∧
          f.env.flushCache ≠ .ok := by
        simp only [strays, he, Bool.and_eq_false_iff, Bool.or_eq_false_iff] at hcalm
        rcases hparked with hstate | hstate <;> simp_all
      unfold doFlushBufferLocked at hfault ⊢
      rw [he] at hfault ⊢
      dsimp only at hfault ⊢
      rw [if_neg hfails.1] at hfault ⊢
      cases hbedata : f.bedata with
      | none => simp [hbedata] at hfault
      | some bedata =>
        dsimp only
        rw [if_pos hfails.2]
        exact .of_pool_eq (pool_prepareFlush _ _ _) rfl

theorem finishCall_refines (h : q.Agrees) (detach : Bool) (reply : RequestReply) :
    Refines detaches q (q.finishCall detach reply).2 := by
  unfold finishCall
  split
  · exact detachBufferFromQueueLocked_refines h _ _ _
  · exact .refl

theorem reach_refines (h : q.Agrees) (detach : Bool) (point : ReusePoint) :
    Refines detaches q (q.reach detach point).2 := by
  cases point with
  | done reply => exact finishCall_refines h detach reply
  | setupNewBuffer job => exact .refl
  | reallocBuffer job => exact .refl

theorem requestSection_refines (h : q.Agrees) (detach : Bool) (config : BufferRequestConfig) :
    Refines anyMove q (q.requestSection detach config).2 := by
  have hbody := requestBufferBody_refines h config
  unfold requestSection
  split
  · rename_i point q₁ hb
    rw [hb] at hbody
    exact hbody.any.trans (reach_refines (hbody.agrees h) detach point).any
  · rename_i config' q₁ hb
    rw [hb] at hbody
    exact hbody.any

theorem startRequest_refines (h : q.Agrees) (detach : Bool) (config : BufferRequestConfig) :
    Refines anyMove q (q.startRequest detach config).2 := by
  unfold startRequest
  split
  · exact .refl
  · split
    · exact .refl
    · exact requestSection_refines h detach _

theorem detachForConsumer_refines_unflushed (h : q.Agrees)
    (hcalm : ∀ e, q.bufferQueueCache.find sequence = some e → e.state ≠ .flushed)
    (isReserveSlot : Bool) : Refines anyMove q (q.detachForConsumer sequence isReserveSlot) := by
  have hdelete : Refines anyMove q (q.deleteBufferInCacheNoWaitForAllocatingState sequence) := by
    cases he : q.bufferQueueCache.find sequence with
    | none =>
      unfold deleteBufferInCacheNoWaitForAllocatingState
      rw [he]
      exact .refl
    | some e =>
      by_cases hs : e.state = .released
      · exact delete_free trivial he hs
      · refine delete_held trivial h he ?_
        have hflushed := hcalm e he
        cases hstate : e.state <;> simp_all [BufferState.place]
  unfold detachForConsumer
  dsimp only
  split
  · exact hdelete.trans (.of_pool_eq rfl rfl)
  · exact hdelete

theorem detachSection_refines (h : q.Agrees) (sequence : ℕ) (invokerType : InvokerType)
    (isReserveSlot : Bool) :
    Refines detaches q (q.detachSection sequence invokerType isReserveSlot).2 := by
  unfold detachSection
  split
  · exact .refl
  · exact detachBufferFromQueueLocked_refines h _ _ _

theorem handOutSection_refines (h : q.Agrees) : Refines handsOut q q.handOutSection.2 := by
  unfold handOutSection
  dsimp only
  split
  · split <;> exact .refl
  · exact handOut_refines h _ _

theorem afterRelease_refines (h : q.Agrees) : Refines handsOut q q.afterRelease.2 := by
  unfold afterRelease
  split
  · exact handOutSection_refines h
  · exact .refl

theorem handOutResume_refines (h : q.Agrees) (updateConfig : BufferRequestConfig)
    (configs : List BufferRequestConfig) :
    Refines handsOut q (q.handOutResume updateConfig configs).2 := by
  have hbody := requestBufferBody_refines_listener h updateConfig
  unfold handOutResume
  dsimp only
  split
  · rename_i reply q₁ hb
    rw [hb] at hbody
    split
    · have hmark : Refines handsOut q₁ (q₁.setRequestedFromListener reply.retval.sequence) :=
        .of_pool_eq (by simp) rfl
      have hround := hbody.trans hmark
      exact hround.trans (handOut_refines (hround.agrees h) _ _)
    · exact hbody.trans (handOut_refines (hbody.agrees h) _ _)
  · rename_i point q₁ _ hb
    rw [hb] at hbody
    exact hbody

def releaseWaits (q : BufferQueue) (sequence : ℕ) : Bool :=
  q.isAllocatingBuffer && (q.bufferQueueCache.find sequence).any (·.isDeleting)

theorem releaseSection_refines (h : q.Agrees) {sequence : ℕ}
    (hcalm : q.releaseWaits sequence = false) (fence : Option SyncFence) (now mergeFd : Int) :
    Refines releases q (q.releaseSection sequence fence now mergeFd).2 := by
  unfold releaseSection
  dsimp only
  split
  · rename_i e he
    have hrelease := releaseBufferLocked_refines h sequence fence ⟨now, mergeFd, fun _ => true⟩
    have hstay : (q.isAllocatingBuffer && e.isDeleting) = false := by
      simpa [releaseWaits, he] using hcalm
    rw [hstay, Bool.false_and, if_neg Bool.false_ne_true]
    split
    · exact hrelease
    · exact hrelease.trans ((afterRelease_refines (hrelease.agrees h)).mono fun _ =>
        releases_of_handsOut)
  · exact .refl

theorem attachSection_refines (h : q.Agrees) (buffer : SurfaceBuffer) (timeOut : Int) :
    Refines (attaches buffer.seqNum) q (q.attachSection buffer timeOut).2 := by
  unfold attachSection
  split
  · rename_i e he
    split
    · exact attachBufferUpdateStatus_refines he _
    · exact .refl
  · rename_i habsent
    split
    · exact .refl
    · rename_i count _
      dsimp only
      split
      · exact .refl
      · have hdelete := deleteBuffersLocked_refines h count
        have habsent' : (q.deleteBuffersLocked count).bufferQueueCache.find buffer.seqNum = none :=
          Refines.absent hdelete (fun m hm => ne_of_drops hm _) habsent
        refine (hdelete.mono fun _ => attaches_of_drops).trans ?_
        exact put_refines (e := q.attachElement buffer timeOut) (attaches_of_adoptsOne rfl)
          habsent' rfl rfl rfl rfl rfl

theorem preAllocSection_eq (q : BufferQueue) (config : BufferRequestConfig) (count : ℕ) :
    (q.preAllocSection config count).2 = q := by
  unfold preAllocSection
  dsimp only
  split
  · rfl
  · split <;> rfl

end BufferQueue

def Call.Calm (q : BufferQueue) : Call → Prop
  | releaseBuffer sequence _ _ _ => q.releaseWaits sequence = false
  | _ => True

theorem Call.start_refines {q : BufferQueue} (h : q.Agrees) {c : Call} (hcalm : c.Calm q)
    (hfault : (c.start q).2.fault = false) : Refines anyMove q (c.start q).2 := by
  cases c with
  | requestBuffer config => exact BufferQueue.startRequest_refines h false config
  | requestAndDetachBuffer config => exact BufferQueue.startRequest_refines h true config
  | cancelBuffer sequence bedata =>
    exact BufferQueue.cancelBufferLocked_refines trivial q bedata
  | flushBuffer f =>
    simp only [Call.start]
    split
    · exact .refl
    · split <;> exact .refl
  | detachBufferFromQueue sequence invokerType isReserveSlot =>
    exact (BufferQueue.detachSection_refines h sequence invokerType isReserveSlot).any
  | acquireBuffer now => exact (BufferQueue.acquireBuffer_refines h now).any
  | releaseBuffer sequence fence now mergeFd =>
    exact (BufferQueue.releaseSection_refines h hcalm fence now mergeFd).any
  | attachBufferToQueue buffer invokerType =>
    exact (BufferQueue.attachBufferToQueueLocked_refines q buffer invokerType).any
  | attachBuffer buffer timeOut =>
    simp only [Call.start]
    split <;> exact .refl
  | attachAndFlushBuffer buffer bedata fence config env =>
    exact (BufferQueue.attachAndFlushBuffer_refines h (.inr hfault)).any
  | preAllocBuffers config count =>
    simp only [Call.start]
    rw [BufferQueue.preAllocSection_eq]
    exact .refl
  | cleanCache =>
    simp only [Call.start]
    split
    · exact .refl
    · exact (BufferQueue.clearLocked_refines q).any
  | configure s => cases s <;> exact .of_pool_eq rfl rfl

def Pc.Calm (q : BufferQueue) : Pc → Action → Prop
  | idle _, .call c => c.Calm q
  | flushDo f, .go => q.strays f = false
  | detachDelete sequence _, .go =>
    ∀ e, q.bufferQueueCache.find sequence = some e → e.state ≠ .flushed
  | flushDelete _, .go | releaseDelete _, .go | attachDelete _ _, .go => False
  | _, _ => True

theorem Pc.advance_refines {q : BufferQueue} (h : q.Agrees) {pc : Pc} {a : Action}
    (hcalm : pc.Calm q a) (hfresh : a.fresh q pc) {r : Pc × BufferQueue}
    (hr : pc.advance q a = some r) (hfault : r.2.fault = false) : Refines anyMove q r.2 := by
  unfold advance at hr
  split at hr
  · cases hr
    exact Call.start_refines h hcalm hfault
  · split at hr
    · cases hr
    · cases hr
      exact BufferQueue.requestSection_refines h _ _
  · rename_i detach config
    cases hr
    have hblock := BufferQueue.reuseBufferForBlockMode_refines h config
    exact hblock.any.trans (BufferQueue.reach_refines (hblock.agrees h) _ _).any
  · rename_i detach point a
    cases hr
    have hfresh : q.bufferQueueCache.find a.sequence = none := by
      simpa [Action.fresh] using hfresh
    have hfinish := BufferQueue.finishRequest_refines a hfresh point
    exact hfinish.any.trans (BufferQueue.finishCall_refines (hfinish.agrees h) _ _).any
  · split at hr <;> cases hr <;> exact .refl
  · cases hr
    exact .refl
  · cases hr
    exact BufferQueue.cancelBufferLocked_refines trivial q _
  · cases hr
    exact BufferQueue.flushSection_refines h hcalm hfault
  · exact hcalm.elim
  · split at hr
    · cases hr
    · cases hr
      exact BufferQueue.detachForConsumer_refines_unflushed h hcalm _
  · exact hcalm.elim
  · split at hr
    · cases hr
    · cases hr
      exact (BufferQueue.handOutResume_refines h _ _).any
  · cases hr
    exact .refl
  · split at hr <;> cases hr <;> exact .refl
  · split at hr
    · cases hr
    · cases hr
      dsimp only
      split
      · exact BufferQueue.cancelBufferLocked_refines trivial q _
      · exact .refl
  · split at hr
    · cases hr
    · cases hr
      exact (BufferQueue.takeBack_refines q _).any
  · split at hr <;> cases hr <;> exact .refl
  · cases hr
    exact (BufferQueue.attachSection_refines h _ _).any
  · split at hr
    · cases hr
    · rename_i e he
      cases hr
      exact (BufferQueue.attachBufferUpdateStatus_refines he 0).any
  · exact hcalm.elim
  · rename_i config count as
    cases hr
    obtain ⟨hnodup, hmade⟩ := BufferQueue.allocBuffers_spec config count as
    refine (BufferQueue.insertPreAlloc_refines _ _ hnodup fun b hb => ?_).any
    obtain ⟨i, hi, hseq⟩ := hmade b hb
    rw [← hseq]
    have hall : ∀ j < count, q.bufferQueueCache.find (as j).sequence = none := by
      simpa [Action.fresh] using hfresh
    exact hall i hi
  · cases hr
    exact .of_pool_eq rfl rfl
  · split at hr
    · cases hr
    · cases hr
      exact (BufferQueue.clearLocked_refines q).any
  · cases hr

theorem queueThread_eq_some {t : ℕ} {q : BufferQueue} {pc : Pc} {a : Action} {r : Pc × BufferQueue} :
    queueThread t q pc a = some r ↔
      a.fresh q pc ∧ pc.advance q a = some r ∧ r.2.fault = false := by
  unfold queueThread
  split_ifs with hfresh
  · simp [hfresh, Option.filter_eq_some_iff]
  · simp [hfresh]

theorem queueThread_agrees {t : ℕ} {q : BufferQueue} {pc : Pc} {a : Action} {r : Pc × BufferQueue}
    (h : q.Agrees) (hcalm : pc.Calm q a) (hr : queueThread t q pc a = some r) : r.2.Agrees := by
  obtain ⟨hfresh, hadvance, hfault⟩ := queueThread_eq_some.mp hr
  exact (Pc.advance_refines h hcalm hfresh hadvance hfault).agrees h

end GraphicSurface
