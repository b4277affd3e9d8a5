import GraphicSurface.ConfigCodec
import GraphicSurface.Edits
import GraphicSurface.FlushRace

/-! The scaling mode and the video dimension type of the queue, which each way into the cache has to
give to the buffers. Threads make the calls of the queue, the two setters among them; the two
sections of `AcquireBuffer` with a timestamp are calls of their own, as the releases between them
are. -/

namespace GraphicSurface

open Runs Interleaving

inductive AttributeCall
  | setScalingMode (scalingMode : Int)
  | setVideoDimensionType (videoDimType : Int)
  | detachBuffer (sequence : ℕ)
  | cleanReleasedBuffers
  | cleanProducerBySeqNum (seqNums : List ℕ)
  | dropBuffersByLevel (now : Int)
  | acquireByTimestampSection (expectPresentTimestamp : Int) (isUsingAutoTimestamp : Bool)

inductive AttributeAction
  | queue (a : Action)
  | oneSection (c : AttributeCall)

def AttributeCall.run (q : BufferQueue) : AttributeCall → Reply × BufferQueue
  | setScalingMode scalingMode => (.code .ok, q.setScalingMode scalingMode)
  | setVideoDimensionType videoDimType => (.code .ok, q.setVideoDimensionType videoDimType)
  | detachBuffer sequence => Prod.map .code id (q.detachBuffer sequence)
  | cleanReleasedBuffers => Prod.map .cleaned id q.cleanReleasedBuffers
  | cleanProducerBySeqNum seqNums => (.code .ok, q.cleanProducerBySeqNum seqNums)
  | dropBuffersByLevel now => (.code .ok, (q.dropBuffersByLevel now).2)
  | acquireByTimestampSection expectPresentTimestamp isUsingAutoTimestamp =>
    match q.acquireByTimestampSection expectPresentTimestamp isUsingAutoTimestamp with
    | (ret, _, q) => (.code ret, q)

/-- `CleanReleasedBuffers` waits for a running allocation. -/
def AttributeCall.waits (q : BufferQueue) : AttributeCall → Bool
  | cleanReleasedBuffers => q.isAllocatingBuffer
  | _ => false

def attributeThread : Thread BufferQueue Pc AttributeAction := fun t q pc a =>
  match pc, a with
  | pc, .queue a => queueThread t q pc a
  | .idle _, .oneSection c =>
    if c.waits q || (c.run q).2.fault then none else some (.idle (some (c.run q).1), (c.run q).2)
  | _, _ => none

namespace BufferQueue

def InModes (q : BufferQueue) (e : BufferElement) : Prop :=
  e.buffer.surfaceBufferScalingMode = q.scalingMode ∧
    e.buffer.surfaceBufferVideoDimensionType = q.videoDimType

instance (q : BufferQueue) (e : BufferElement) : Decidable (q.InModes e) :=
  inferInstanceAs (Decidable (_ ∧ _))

def Uniform (q : BufferQueue) : Prop :=
  ∀ k e, q.bufferQueueCache.find k = some e → q.InModes e

end BufferQueue

/-- An allocation that succeeds has read the modes that the queue still has. -/
def ReusePoint.Current (q : BufferQueue) (a : Allocation) : ReusePoint → Prop
  | .done _ => True
  | .setupNewBuffer job | .reallocBuffer job =>
    job.granted a = true → job.scalingMode = q.scalingMode ∧ job.videoDimType = q.videoDimType

instance (q : BufferQueue) (a : Allocation) (point : ReusePoint) :
    Decidable (point.Current q a) := by
  cases point <;> unfold ReusePoint.Current <;> infer_instance

/-- The modes of a buffer that enters the cache are those of the queue. `RequestAndDetachBuffer`
takes its buffer out again in the same section; `PreAllocBuffers` leaves a buffer in the modes that
it was constructed with. -/
def KeepsModes (_ : ℕ) (q : BufferQueue) : Pc → AttributeAction → Prop
  | .allocating false point, .queue (.allocated a) => point.Current q a
  | .preAllocating config count, .queue (.preAllocated as) =>
    BufferQueue.allocBuffers config count as = [] ∨ q.unreservedSize ≤ q.getUsedSize ∨
      q.scalingMode = 1 ∧ q.videoDimType = 0
  | .attachDelete ele _, .queue .go => q.InModes ele
  | _, _ => True

namespace BufferQueue

variable {made : BufferElement → Prop} {q q' : BufferQueue} {e : BufferElement}

theorem InModes.of_rewrites {e' : BufferElement} (h : q.InModes e) (hwrites : e.Rewrites e')
    (hmodes : q'.scalingMode = q.scalingMode ∧ q'.videoDimType = q.videoDimType) :
    q'.InModes e' :=
  ⟨hwrites.scalingMode.trans (h.1.trans hmodes.1.symm),
    hwrites.videoDimType.trans (h.2.trans hmodes.2.symm)⟩

theorem Uniform.of_edits (h : q.Uniform) (hedits : Edits made q q')
    (hmade : ∀ e, made e → q.InModes e) : q'.Uniform := by
  intro k e' he'
  rcases hedits.entries k e' he' with ⟨e, he, hwrites⟩ | ⟨-, e, hm, -, hwrites⟩
  · exact (h k e he).of_rewrites hwrites hedits.modes
  · exact (hmade e hm).of_rewrites hwrites hedits.modes

theorem not_uniform_of_edits (hedits : Edits made q q') {k : ℕ}
    (habsent : q.bufferQueueCache.find k = none) (he : (q'.bufferQueueCache.find k).isSome)
    (hmade : ∀ e, made e → ¬ q.InModes e) : ¬ q'.Uniform := by
  intro h
  obtain ⟨e', he'⟩ := Option.isSome_iff_exists.mp he
  rcases hedits.entries k e' he' with ⟨e, he, -⟩ | ⟨-, e, hm, -, hwrites⟩
  · rw [habsent] at he
    cases he
  · obtain ⟨hscaling, hvideo⟩ := h k e' he'
    exact hmade e hm ⟨hwrites.scalingMode.symm.trans (hscaling.trans hedits.modes.1),
      hwrites.videoDimType.symm.trans (hvideo.trans hedits.modes.2)⟩

theorem inModes_of_madeByAttach {buffer : SurfaceBuffer} (h : q.madeByAttach buffer e) :
    q.InModes e := by
  rw [madeByAttach] at h
  exact ⟨by rw [h]; rfl, by rw [h]; rfl⟩

theorem nothing_inModes (_ : nothing e) : q.InModes e := by
  contradiction

theorem uniform_setScalingMode (h : q.Uniform) (scalingMode : Int) :
    (q.setScalingMode scalingMode).Uniform := by
  intro k e' he'
  simp only [setScalingMode, BufferCache.find_mapAll, Option.map_eq_some_iff] at he'
  obtain ⟨e, he, rfl⟩ := he'
  exact ⟨rfl, (h k e he).2⟩

theorem uniform_setVideoDimensionType (h : q.Uniform) (videoDimType : Int) :
    (q.setVideoDimensionType videoDimType).Uniform := by
  intro k e' he'
  simp only [setVideoDimensionType, BufferCache.find_mapAll, Option.map_eq_some_iff] at he'
  obtain ⟨e, he, rfl⟩ := he'
  exact ⟨(h k e he).1, rfl⟩

theorem finishCall_edits (q : BufferQueue) (detach : Bool) (reply : RequestReply) :
    Edits nothing q (q.finishCall detach reply).2 := by
  unfold finishCall
  split
  · exact detachBufferFromQueueLocked_edits q _ _ _
  · exact .refl

theorem reach_edits (q : BufferQueue) (detach : Bool) (point : ReusePoint) :
    Edits nothing q (q.reach detach point).2 := by
  cases point with
  | done reply => exact finishCall_edits q detach reply
  | setupNewBuffer job => exact .refl
  | reallocBuffer job => exact .refl

theorem requestSection_edits (q : BufferQueue) (detach : Bool) (config : BufferRequestConfig) :
    Edits nothing q (q.requestSection detach config).2 := by
  have hbody := requestBufferBody_edits q config false
  unfold requestSection
  split
  · rename_i point q₁ h
    rw [h] at hbody
    exact hbody.before (reach_edits q₁ detach point)
  · rename_i config' q₁ h
    rw [h] at hbody
    exact hbody

theorem startRequest_edits (q : BufferQueue) (detach : Bool) (config : BufferRequestConfig) :
    Edits nothing q (q.startRequest detach config).2 := by
  unfold startRequest
  split
  · exact .refl
  · split
    · exact .refl
    · exact requestSection_edits q detach _

theorem flushSection_edits (q : BufferQueue) (f : FlushArgs) :
    Edits nothing q (q.flushSection f).2 := by
  unfold flushSection
  split
  · exact .refl
  · exact doFlushBufferLocked_edits q f.sequence f.bedata f.fence f.config f.env

theorem detachSection_edits (q : BufferQueue) (sequence : ℕ) (invokerType : InvokerType)
    (isReserveSlot : Bool) :
    Edits nothing q (q.detachSection sequence invokerType isReserveSlot).2 := by
  unfold detachSection
  split
  · exact .refl
  · exact detachBufferFromQueueLocked_edits q sequence invokerType isReserveSlot

theorem handOutSection_edits (q : BufferQueue) : Edits nothing q q.handOutSection.2 := by
  unfold handOutSection
  dsimp only
  split
  · split <;> exact .refl
  · exact handOut_edits q _ _

theorem handOutResume_edits (q : BufferQueue) (updateConfig : BufferRequestConfig)
    (configs : List BufferRequestConfig) :
    Edits nothing q (q.handOutResume updateConfig configs).2 := by
  have hbody := requestBufferBody_edits q updateConfig true
  unfold handOutResume
  dsimp only
  split
  · rename_i reply q₁ h
    rw [h] at hbody
    split
    · exact (hbody.before (setRequestedFromListener_edits _ _)).before (handOut_edits _ _ _)
    · exact hbody.before (handOut_edits _ _ _)
  · rename_i h
    rw [h] at hbody
    exact hbody

theorem afterRelease_edits (q : BufferQueue) : Edits nothing q q.afterRelease.2 := by
  unfold afterRelease
  split
  · exact handOutSection_edits q
  · exact .refl

theorem releaseSection_edits (q : BufferQueue) (sequence : ℕ) (fence : Option SyncFence)
    (now mergeFd : Int) : Edits nothing q (q.releaseSection sequence fence now mergeFd).2 := by
  have hrelease := releaseBufferLocked_edits q sequence fence ⟨now, mergeFd, fun _ => true⟩
  unfold releaseSection
  dsimp only
  split
  · split
    · exact markReleased_edits q sequence _ fence _
    · split
      · exact hrelease
      · exact hrelease.before (afterRelease_edits _)
  · exact .refl

theorem attachSection_edits (q : BufferQueue) (buffer : SurfaceBuffer) (timeOut : Int) :
    Edits (q.madeByAttach buffer) q (q.attachSection buffer timeOut).2 := by
  unfold attachSection
  cases he : q.bufferQueueCache.find buffer.seqNum with
  | some ele =>
    dsimp only
    split
    · exact (attachBufferUpdateStatus_edits q _ _).mono fun _ h => h.elim
    · exact .refl
  | none =>
    dsimp only
    split
    · exact .refl
    · split
      · exact .refl
      · exact (attachEnd_edits (q.attachElement buffer timeOut) _ he).mono fun _ h => h ▸ rfl

theorem configureSection_edits (q : BufferQueue) (s : Setting) :
    Edits nothing q (q.configureSection s).2 := by
  cases s with
  | unRegisterProducerReleaseListener => exact .of_cache ⟨rfl, rfl⟩ rfl rfl
  | _ => exact q.configure_edits _

end BufferQueue

theorem Call.start_edits (q : BufferQueue) (c : Call) : Edits q.InModes q (c.start q).2 := by
  cases c with
  | requestBuffer config =>
    exact (q.startRequest_edits false config).mono fun _ => BufferQueue.nothing_inModes
  | requestAndDetachBuffer config =>
    exact (q.startRequest_edits true config).mono fun _ => BufferQueue.nothing_inModes
  | cancelBuffer sequence bedata =>
    exact (q.cancelBufferLocked_edits sequence bedata).mono fun _ => BufferQueue.nothing_inModes
  | flushBuffer f =>
    simp only [Call.start]
    split
    · exact .refl
    · split <;> exact .refl
  | detachBufferFromQueue sequence invokerType isReserveSlot =>
    exact (q.detachSection_edits sequence invokerType isReserveSlot).mono
      fun _ => BufferQueue.nothing_inModes
  | acquireBuffer now =>
    exact (q.acquireBuffer_edits now).mono fun _ => BufferQueue.nothing_inModes
  | releaseBuffer sequence fence now mergeFd =>
    exact (q.releaseSection_edits sequence fence now mergeFd).mono
      fun _ => BufferQueue.nothing_inModes
  | attachBufferToQueue buffer invokerType =>
    exact (q.attachBufferToQueueLocked_edits buffer invokerType).mono
      fun _ => BufferQueue.inModes_of_madeByAttach
  | attachBuffer buffer timeOut =>
    simp only [Call.start]
    split <;> exact .refl
  | attachAndFlushBuffer buffer bedata fence config env =>
    exact (q.attachAndFlushBuffer_edits buffer bedata fence config env).mono
      fun _ => BufferQueue.inModes_of_madeByAttach
  | preAllocBuffers config count =>
    simp only [Call.start]
    rw [BufferQueue.preAllocSection_eq]
    exact .refl
  | cleanCache =>
    simp only [Call.start]
    split
    · exact .refl
    · exact q.clearLocked_edits.mono fun _ => BufferQueue.nothing_inModes
  | configure s =>
    exact (q.configureSection_edits s).mono fun _ => BufferQueue.nothing_inModes

theorem Pc.advance_edits {q : BufferQueue} {pc : Pc} {a : Action} {r : Pc × BufferQueue}
    (hr : pc.advance q a = some r) :
    Edits q.InModes q r.2 ∧ (∀ t, KeepsModes t q pc (.queue a)) ∨
      (∃ detach point a', pc = .allocating detach point ∧ a = .allocated a') ∨
      (∃ config count as, pc = .preAllocating config count ∧ a = .preAllocated as) ∨
      ∃ ele count, pc = .attachDelete ele count ∧ a = .go := by
  have hquiet {q₁ : BufferQueue} (h : Edits nothing q q₁) : Edits q.InModes q q₁ :=
    h.mono fun _ => BufferQueue.nothing_inModes
  unfold advance at hr
  split at hr
  · cases hr
    exact .inl ⟨Call.start_edits q _, fun _ => trivial⟩
  · split at hr
    · cases hr
    · cases hr
      exact .inl ⟨hquiet (q.requestSection_edits _ _), fun _ => trivial⟩
  · rename_i detach config
    cases hr
    exact .inl ⟨hquiet ((q.reuseBufferForBlockMode_edits config).before
      (BufferQueue.reach_edits _ detach _)), fun _ => trivial⟩
  · exact .inr (.inl ⟨_, _, _, rfl, rfl⟩)
  · split at hr <;> cases hr <;> exact .inl ⟨.refl, fun _ => trivial⟩
  · cases hr
    exact .inl ⟨.refl, fun _ => trivial⟩
  · cases hr
    exact .inl ⟨hquiet (q.cancelBufferLocked_edits _ _), fun _ => trivial⟩
  · cases hr
    exact .inl ⟨hquiet (q.flushSection_edits _), fun _ => trivial⟩
  · split at hr
    · cases hr
    · cases hr
      exact .inl ⟨hquiet (q.deleteNoWait_edits _), fun _ => trivial⟩
  · split at hr
    · cases hr
    · cases hr
      exact .inl ⟨hquiet (q.detachForConsumer_edits _ _), fun _ => trivial⟩
  · split at hr
    · cases hr
    · cases hr
      exact .inl ⟨hquiet ((q.deleteNoWait_edits _).before (BufferQueue.afterRelease_edits _)), fun _ => trivial⟩
  · split at hr
    · cases hr
    · cases hr
      exact .inl ⟨hquiet (q.handOutResume_edits _ _), fun _ => trivial⟩
  · cases hr
    exact .inl ⟨.refl, fun _ => trivial⟩
  · split at hr <;> cases hr <;> exact .inl ⟨.refl, fun _ => trivial⟩
  · split at hr
    · cases hr
    · cases hr
      refine .inl ⟨?_, fun _ => trivial⟩
      dsimp only
      split
      · exact hquiet (q.cancelBufferLocked_edits _ _)
      · exact .refl
  · split at hr
    · cases hr
    · cases hr
      exact .inl ⟨hquiet (q.takeBack_edits _), fun _ => trivial⟩
  · split at hr <;> cases hr <;> exact .inl ⟨.refl, fun _ => trivial⟩
  · cases hr
    exact .inl ⟨(q.attachSection_edits _ _).mono fun _ => BufferQueue.inModes_of_madeByAttach, fun _ => trivial⟩
  · split at hr
    · cases hr
    · cases hr
      exact .inl ⟨hquiet (q.attachBufferUpdateStatus_edits _ _), fun _ => trivial⟩
  · exact .inr (.inr (.inr ⟨_, _, rfl, rfl⟩))
  · exact .inr (.inr (.inl ⟨_, _, _, rfl, rfl⟩))
  · cases hr
    exact .inl ⟨.of_cache ⟨rfl, rfl⟩ rfl rfl, fun _ => trivial⟩
  · split at hr
    · cases hr
    · cases hr
      exact .inl ⟨hquiet q.clearLocked_edits, fun _ => trivial⟩
  · cases hr

theorem ReusePoint.Current.inModes {q : BufferQueue} {a : Allocation} {point : ReusePoint}
    (h : point.Current q a) {e : BufferElement} (he : point.makes a e) : q.InModes e := by
  cases point with
  | done reply => exact he.elim
  | setupNewBuffer job =>
    obtain ⟨hgranted, rfl⟩ := he
    exact h hgranted
  | reallocBuffer job =>
    obtain ⟨hgranted, rfl⟩ := he
    exact h hgranted

namespace BufferQueue

variable {q : BufferQueue} {a : Allocation}

theorem find_finishRequest_granted {job : AllocJob} {point : ReusePoint}
    (hpoint : point = .setupNewBuffer job ∨ point = .reallocBuffer job)
    (hgranted : job.granted a = true) :
    (q.finishRequest a point).1.ret = .ok ∧
      (q.finishRequest a point).1.retval.sequence = a.sequence ∧
      ∃ e, (q.finishRequest a point).2.bufferQueueCache.find a.sequence = some e ∧
        e.state = .requested := by
  have hanswer := finishRequest_answer q a job hpoint
  rw [if_pos hgranted] at hanswer
  have hsound : (q.finishRequest a point).1.Sound false (q.finishRequest a point).2 :=
    finishRequest_sound (by rcases hpoint with rfl | rfl <;> trivial) a
  obtain ⟨hret, hseq⟩ := Prod.mk.inj hanswer
  obtain ⟨e, he, hstate⟩ := hsound.marked hret
  rw [hseq] at he
  exact ⟨hret, hseq, e, he, hstate⟩

theorem uniform_finishRequest_iff (h : q.Uniform) (point : ReusePoint)
    (hfresh : q.bufferQueueCache.find a.sequence = none) :
    point.Current q a ↔ (q.finishRequest a point).2.Uniform := by
  have hedits := finishRequest_edits q point fun _ => hfresh
  refine ⟨fun hcurrent => h.of_edits hedits fun e he => hcurrent.inModes he, ?_⟩
  intro huniform
  by_contra hstale
  have hjob {job : AllocJob} (hpoint : point = .setupNewBuffer job ∨ point = .reallocBuffer job)
      (hgranted : job.granted a = true)
      (hmodes : ¬ (job.scalingMode = q.scalingMode ∧ job.videoDimType = q.videoDimType)) :
      False := by
    obtain ⟨-, -, e, he, -⟩ := find_finishRequest_granted (q := q) hpoint hgranted
    refine not_uniform_of_edits hedits hfresh (by rw [he]; rfl) ?_ huniform
    rcases hpoint with rfl | rfl
    · rintro e ⟨-, rfl⟩
      exact hmodes
    · rintro e ⟨-, rfl⟩
      exact hmodes
  cases point with
  | done reply => exact hstale trivial
  | setupNewBuffer job =>
    rw [ReusePoint.Current, Classical.not_imp] at hstale
    exact hjob (.inl rfl) hstale.1 hstale.2
  | reallocBuffer job =>
    rw [ReusePoint.Current, Classical.not_imp] at hstale
    exact hjob (.inr rfl) hstale.1 hstale.2

theorem uniform_finishCall_detach (h : q.Uniform) (point : ReusePoint)
    (hfresh : q.bufferQueueCache.find a.sequence = none) :
    ((q.finishRequest a point).2.finishCall true (q.finishRequest a point).1).2.Uniform := by
  have hedits := finishRequest_edits q point fun _ => hfresh
  have hdetach := finishCall_edits (q.finishRequest a point).2 true (q.finishRequest a point).1
  have hjob {job : AllocJob} (hpoint : point = .setupNewBuffer job ∨ point = .reallocBuffer job)
      (hgranted : job.granted a = true) :
      ((q.finishRequest a point).2.finishCall true (q.finishRequest a point).1).2.Uniform := by
    obtain ⟨hret, hseq, e, he, hstate⟩ := find_finishRequest_granted (q := q) hpoint hgranted
    have hcheck : (q.finishRequest a point).2.detachBufferCheck a.sequence .producerInvoker = .ok := by
      simp [detachBufferCheck, he, hstate]
    have hcall : ((q.finishRequest a point).2.finishCall true (q.finishRequest a point).1).2 =
        (q.finishRequest a point).2.eraseForRS a.sequence := by
      simp [finishCall, hret, hseq, detachBufferFromQueueLocked, hcheck]
    rw [hcall]
    intro k e' he'
    simp only [eraseForRS, BufferCache.find_erase] at he'
    split_ifs at he' with hk
    rcases hedits.entries k e' he' with ⟨e₀, he₀, hwrites⟩ | ⟨-, e₀, hmade, hseq₀, -⟩
    · exact (h k e₀ he₀).of_rewrites hwrites hedits.modes
    · exact absurd ((point.makes_allocation hmade).2.symm.trans hseq₀) hk
  have hnone (hmade : ∀ e, ¬ point.makes a e) :
      ((q.finishRequest a point).2.finishCall true (q.finishRequest a point).1).2.Uniform :=
    (h.of_edits hedits fun e he => absurd he (hmade e)).of_edits hdetach
      fun _ => nothing_inModes
  cases point with
  | done reply => exact hnone fun _ => id
  | setupNewBuffer job =>
    by_cases hgranted : job.granted a = true
    · exact hjob (.inl rfl) hgranted
    · exact hnone fun e he => hgranted he.1
  | reallocBuffer job =>
    by_cases hgranted : job.granted a = true
    · exact hjob (.inr rfl) hgranted
    · exact hnone fun e he => hgranted he.1

/-- `AllocBuffers` constructs its buffers and sets no mode. -/
theorem modes_of_allocBuffers {config : BufferRequestConfig} {count : ℕ} {as : ℕ → Allocation}
    {b : SurfaceBuffer} (hb : b ∈ allocBuffers config count as) :
    b.surfaceBufferScalingMode = 1 ∧ b.surfaceBufferVideoDimensionType = 0 := by
  obtain ⟨a, rfl⟩ := allocated_of_allocBuffers hb
  exact ⟨rfl, rfl⟩

theorem isSome_insertPreAlloc (q : BufferQueue) (config : BufferRequestConfig)
    (buffers : List SurfaceBuffer) {k : ℕ} (h : (q.bufferQueueCache.find k).isSome) :
    ((q.insertPreAlloc config buffers).2.bufferQueueCache.find k).isSome := by
  induction buffers generalizing q with
  | nil => exact h
  | cons buffer rest ih =>
    unfold insertPreAlloc
    split
    · exact h
    · refine ih _ ?_
      rw [BufferCache.find_put]
      split_ifs
      · rfl
      · exact h

/-- The end of `PreAllocBuffers`. -/
theorem uniform_insertPreAlloc_iff (h : q.Uniform) (config : BufferRequestConfig) (count : ℕ)
    (as : ℕ → Allocation)
    (hfresh : ∀ i < count, q.bufferQueueCache.find (as i).sequence = none) :
    (allocBuffers config count as = [] ∨ q.unreservedSize ≤ q.getUsedSize ∨
        q.scalingMode = 1 ∧ q.videoDimType = 0) ↔
      (q.insertPreAlloc config (allocBuffers config count as)).2.Uniform := by
  obtain ⟨hnodup, hmade⟩ := allocBuffers_spec config count as
  have habsent : ∀ b ∈ allocBuffers config count as,
      q.bufferQueueCache.find b.seqNum = none := by
    intro b hb
    obtain ⟨i, hi, hseq⟩ := hmade b hb
    rw [← hseq]
    exact hfresh i hi
  have hedits := insertPreAlloc_edits q config hnodup habsent
  have hmodes : ∀ b ∈ allocBuffers config count as,
      b.surfaceBufferScalingMode = 1 ∧ b.surfaceBufferVideoDimensionType = 0 :=
    fun b => modes_of_allocBuffers
  generalize allocBuffers config count as = buffers at habsent hedits hmodes
  cases buffers with
  | nil => exact ⟨fun _ => h, fun _ => .inl rfl⟩
  | cons buffer rest =>
    by_cases hfull : q.unreservedSize ≤ q.getUsedSize
    · unfold insertPreAlloc
      rw [if_pos hfull]
      exact ⟨fun _ => h, fun _ => .inr (.inl hfull)⟩
    · constructor
      · rintro (hnil | hfull' | ⟨hscaling, hvideo⟩)
        · cases hnil
        · exact absurd hfull' hfull
        · refine h.of_edits hedits fun e he => ?_
          obtain ⟨hscaling', hvideo'⟩ := hmodes _ he
          exact ⟨hscaling'.trans hscaling.symm, hvideo'.trans hvideo.symm⟩
      · intro huniform
        refine .inr (.inr ?_)
        by_contra hother
        have hcached : ((q.insertPreAlloc config (buffer :: rest)).2.bufferQueueCache.find
            buffer.seqNum).isSome := by
          unfold insertPreAlloc
          rw [if_neg hfull]
          refine isSome_insertPreAlloc _ config rest ?_
          rw [BufferCache.find_put]
          split_ifs with hk
          · rfl
          · exact absurd rfl hk
        refine not_uniform_of_edits hedits (habsent buffer List.mem_cons_self) hcached ?_ huniform
        intro e he hin
        obtain ⟨hscaling', hvideo'⟩ := hmodes _ he
        exact hother ⟨hin.1.symm.trans hscaling', hin.2.symm.trans hvideo'⟩

/-- The end of an `AttachBuffer` that has waited. -/
theorem uniform_attachEnd_iff (h : q.Uniform) (ele : BufferElement) (count : ℕ) :
    q.InModes ele ↔ ({ q.deleteBuffersLocked count with
      bufferQueueCache := (q.deleteBuffersLocked count).bufferQueueCache.put ele } :
        BufferQueue).Uniform := by
  have hedits := q.deleteBuffersLocked_edits count
  have hrest := h.of_edits hedits fun _ => nothing_inModes
  constructor
  · intro hin k e he
    change ((q.deleteBuffersLocked count).bufferQueueCache.put ele).find k = some e at he
    rw [BufferCache.find_put] at he
    split_ifs at he with hk
    · cases he
      exact hin.of_rewrites (.refl ele) hedits.modes
    · exact hrest k e he
  · intro huniform
    have hput := huniform ele.buffer.seqNum ele (by
      change ((q.deleteBuffersLocked count).bufferQueueCache.put ele).find _ = _
      rw [BufferCache.find_put, if_pos rfl])
    exact ⟨hput.1.trans hedits.modes.1, hput.2.trans hedits.modes.2⟩

end BufferQueue

theorem AttributeCall.uniform_run {q : BufferQueue} (h : q.Uniform) (c : AttributeCall) :
    (c.run q).2.Uniform := by
  have hquiet {q₁ : BufferQueue} (hedits : Edits nothing q q₁) : q₁.Uniform :=
    h.of_edits hedits fun _ => BufferQueue.nothing_inModes
  cases c with
  | setScalingMode scalingMode => exact BufferQueue.uniform_setScalingMode h scalingMode
  | setVideoDimensionType videoDimType =>
    exact BufferQueue.uniform_setVideoDimensionType h videoDimType
  | detachBuffer sequence => exact hquiet (q.detachBuffer_edits sequence)
  | cleanReleasedBuffers => exact hquiet (q.cleanReleasedBuffersLocked_edits q.freeList)
  | cleanProducerBySeqNum seqNums => exact hquiet (q.cleanProducerBySeqNum_edits seqNums)
  | dropBuffersByLevel now => exact hquiet (q.dropBuffersByLevel_edits now)
  | acquireByTimestampSection expect auto =>
    exact hquiet (q.acquireByTimestampSection_edits expect auto)

theorem keepsModes_iff {t : ℕ} {q : BufferQueue} {pc : Pc} {a : AttributeAction}
    {r : Pc × BufferQueue} (h : q.Uniform) (hr : attributeThread t q pc a = some r) :
    KeepsModes t q pc a ↔ r.2.Uniform := by
  cases a with
  | queue a =>
    obtain ⟨hfresh, hadvance, -⟩ := (queueThread_eq_some (t := t)).mp hr
    rcases Pc.advance_edits hadvance with ⟨hedits, hkeeps⟩ | ⟨detach, point, a, rfl, rfl⟩ |
      ⟨config, count, as, rfl, rfl⟩ | ⟨ele, count, rfl, rfl⟩
    · exact ⟨fun _ => h.of_edits hedits fun _ he => he, fun _ => hkeeps t⟩
    · have habsent : q.bufferQueueCache.find a.sequence = none := by
        simpa [Action.fresh] using hfresh
      obtain rfl : (q.finishRequest a point).2.finishCall detach (q.finishRequest a point).1 = r :=
        Option.some.inj hadvance
      cases detach with
      | false => exact BufferQueue.uniform_finishRequest_iff h point habsent
      | true =>
        exact ⟨fun _ => BufferQueue.uniform_finishCall_detach h point habsent, fun _ => trivial⟩
    · have hfresh : ∀ i < count, q.bufferQueueCache.find (as i).sequence = none := by
        simpa [Action.fresh] using hfresh
      cases hadvance
      exact BufferQueue.uniform_insertPreAlloc_iff h config count as hfresh
    · unfold Pc.advance at hadvance
      dsimp only at hadvance
      split_ifs at hadvance
      cases hadvance
      exact BufferQueue.uniform_attachEnd_iff h ele count
  | oneSection c =>
    cases pc with
    | idle reply =>
      change (if c.waits q || (c.run q).2.fault then none else some _) = some r at hr
      split_ifs at hr
      cases hr
      exact ⟨fun _ => c.uniform_run h, fun _ => trivial⟩
    | _ => cases hr

/-- In every interleaving in which no buffer enters the cache in other modes than the queue has at
that moment, every cached buffer has the modes of the queue; and nothing less will do. -/
theorem attributes_reach_every_buffer {s : QueueSettings} {ls : List (ℕ × AttributeAction)}
    {m : Machine BufferQueue Pc}
    (run : Run (TurnIf attributeThread KeepsModes)
      ⟨BufferQueue.start s, fun _ => .idle none⟩ ls m) :
    m.shared.Uniform ∧ ∀ l m', Turn attributeThread m l m' →
      (KeepsModes l.1 m.shared (m.procs l.1) l.2 ↔ m'.shared.Uniform) := by
  have hstart : (BufferQueue.start s).Uniform := fun k e he => by simp [BufferQueue.start] at he
  have huniform := (rely_guarantee BufferQueue.Uniform (fun _ _ _ => True)
    (fun t q pc a r h _ hok hr => ⟨(keepsModes_iff h hr).mp hok, trivial⟩)
    (fun _ _ _ _ _ _ _ _ _ _ _ _ _ => trivial) hstart (fun _ => trivial) run).1
  refine ⟨huniform, fun l m' hturn => ?_⟩
  obtain ⟨r, hr, rfl⟩ := hturn.cases
  exact keepsModes_iff huniform hr

instance (t : ℕ) (q : BufferQueue) (pc : Pc) (a : AttributeAction) :
    Decidable (KeepsModes t q pc a) := by
  apply Pc.casesOn (motive := fun pc => Decidable (KeepsModes t q pc a)) pc <;> intros <;>
    unfold KeepsModes <;> first | infer_instance | (split <;> infer_instance)

/-- A mode that is set between two requests. -/
def setBetweenRequests : List (ℕ × AttributeAction) :=
  [(0, .queue (.call (.requestBuffer sampleConfig))), (0, .queue (.allocated ⟨1, 1, true, true⟩)),
    (1, .oneSection (.setScalingMode 2)), (0, .queue (.call (.requestBuffer sampleConfig))),
    (0, .queue (.allocated ⟨2, 2, true, true⟩))]

theorem attributes_reach_every_buffer_setBetweenRequests :
    ∃ m, Run (TurnIf attributeThread KeepsModes)
        ⟨BufferQueue.start listening, fun _ => .idle none⟩ setBetweenRequests m ∧
      m.shared.bufferQueueCache.keys.length = 2 ∧ m.shared.scalingMode = 2 ∧
        m.shared.Uniform := by
  have legal : Legal (Machine.next attributeThread)
      (fun m l => (m.next? attributeThread l).isSome ∧ KeepsModes l.1 m.shared (m.procs l.1) l.2)
      ⟨BufferQueue.start listening, fun _ => .idle none⟩ setBetweenRequests := by
    decide
  have run : Run (TurnIf attributeThread KeepsModes)
      ⟨BufferQueue.start listening, fun _ => .idle none⟩ setBetweenRequests _ :=
    .of_legal (fun _ _ h => ⟨Turn.next h.1, h.2⟩) legal
  exact ⟨_, run, by decide, by decide, (attributes_reach_every_buffer run).1⟩

/-- A mode that is set while the buffer of a request is allocated. -/
def setInAllocation : List (ℕ × AttributeAction) :=
  [(0, .queue (.call (.requestBuffer sampleConfig))), (1, .oneSection (.setScalingMode 2)),
    (0, .queue (.allocated ⟨1, 1, true, true⟩))]

/-- The buffer enters the cache in the mode that was read before. -/
theorem attributes_miss_a_buffer :
    ∃ m, Run (Turn attributeThread)
        ⟨BufferQueue.start listening, fun _ => .idle none⟩ setInAllocation m ∧
      ¬ m.shared.Uniform := by
  have legal : Legal (Machine.next attributeThread)
      (fun m l => (m.next? attributeThread l).isSome)
      ⟨BufferQueue.start listening, fun _ => .idle none⟩ setInAllocation := by
    decide
  refine ⟨_, .of_legal (fun _ _ h => Turn.next h) legal, fun h => ?_⟩
  exact absurd (h 1 _ rfl).1 (by decide)

end GraphicSurface
