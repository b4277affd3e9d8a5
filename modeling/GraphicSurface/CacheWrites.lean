import GraphicSurface.Edits
import GraphicSurface.LppSlots

/-! Every call of the queue as a path of single edits of `bufferQueueCache_`. `ElementWrite` lists
the writes to an entry, so that what all of them respect is carried from one end of any call to the
other by `Edited.descends`. Only three of the writes make a buffer `ACQUIRED`. -/

namespace GraphicSurface

open BufferElement Relation

inductive ElementWrite
  | setState (s : BufferState)
  | setDelivered
  | recolour (colorGamut transform : Int)
  | setCancelled (bedata : Option ExtraData)
  | setPrepared (bedata : ExtraData) (transform singleBufferMode : Int)
  | setFlushed (fence : SyncFence) (config : BufferFlushConfigWithDamages) (now : Int)
  | setAcquired (now : Int)
  | setLppAcquired (transform : Int)
  | setReleased (fence : Option SyncFence) (mergeFd : Int)
  | setRequestedFromListener (pid : Int)
  | setDeleting
  | setScalingMode (scalingMode : Int)
  | setVideoDimensionType (videoDimType : Int)

namespace ElementWrite

def apply : ElementWrite → BufferElement → BufferElement
  | setState s => BufferElement.setState s
  | setDelivered => BufferElement.setDelivered
  | recolour colorGamut transform => BufferElement.recolour colorGamut transform
  | setCancelled bedata => BufferElement.setCancelled bedata
  | setPrepared bedata transform mode => BufferElement.setPrepared bedata transform mode
  | setFlushed fence config now => BufferElement.setFlushed fence config now
  | setAcquired now => BufferElement.setAcquired now
  | setLppAcquired transform => BufferElement.setLppAcquired transform
  | setReleased fence mergeFd => BufferElement.setReleased fence mergeFd
  | setRequestedFromListener pid => BufferElement.setRequestedFromListener pid
  | setDeleting => BufferElement.setDeleting
  | setScalingMode scalingMode => BufferElement.setScalingMode scalingMode
  | setVideoDimensionType videoDimType => BufferElement.setVideoDimensionType videoDimType

theorem apply_seqNum (w : ElementWrite) (e : BufferElement) :
    (w.apply e).buffer.seqNum = e.buffer.seqNum := by
  cases w with
  | setFlushed fence config now => exact setFlushed_seqNum fence config now e
  | _ => rfl

/-- The write makes the buffer `ACQUIRED`. -/
def acquires : ElementWrite → Bool
  | setState s => s == .acquired
  | setAcquired _ | setLppAcquired _ => true
  | _ => false

/-- The write of a release. -/
def releases : ElementWrite → Bool
  | setReleased _ _ => true
  | _ => false

/-- A write that acquires nothing. -/
def Quiet (w : ElementWrite) : Prop := w.acquires = false

def Calm (w : ElementWrite) : Prop := (w.acquires || w.releases) = false

def Anything (_ : ElementWrite) : Prop := True

theorem Calm.quiet {w : ElementWrite} (h : w.Calm) : w.Quiet :=
  (Bool.or_eq_false_iff.mp h).1

end ElementWrite

inductive CacheEdit (allowed : ElementWrite → Prop) (made : BufferElement → Prop)
    (c : BufferCache) : BufferCache → Prop
  | erase (k : ℕ) : CacheEdit allowed made c (c.erase k)
  | modify (k : ℕ) (w : ElementWrite) (hw : allowed w) :
      CacheEdit allowed made c (c.modify k w.apply w.apply_seqNum)
  | mapAll (w : ElementWrite) (hw : allowed w) :
      CacheEdit allowed made c (c.mapAll w.apply w.apply_seqNum)
  | put (e : BufferElement) (he : made e) : CacheEdit allowed made c (c.put e)
  | clear : CacheEdit allowed made c BufferCache.empty

/-- The way from `q` to `q'`. Only a release writes `lastConsumeTime_`. -/
structure Edited (allowed : ElementWrite → Prop) (made : BufferElement → Prop)
    (q q' : BufferQueue) : Prop where
  path : ReflTransGen (CacheEdit allowed made) q.bufferQueueCache q'.bufferQueueCache
  consumeTime : (∀ fence mergeFd, ¬ allowed (.setReleased fence mergeFd)) →
    q'.lastConsumeTime = q.lastConsumeTime

namespace Edited

variable {allowed allowed' : ElementWrite → Prop} {made made' : BufferElement → Prop}
  {q q₁ q₂ : BufferQueue} {k : ℕ}

theorem of_cache (h : q₁.bufferQueueCache = q.bufferQueueCache)
    (htime : q₁.lastConsumeTime = q.lastConsumeTime) : Edited allowed made q q₁ :=
  ⟨by rw [h], fun _ => htime⟩

theorem refl : Edited allowed made q q := of_cache rfl rfl

theorem trans (h₁ : Edited allowed made q q₁) (h₂ : Edited allowed made q₁ q₂) :
    Edited allowed made q q₂ :=
  ⟨h₁.path.trans h₂.path, fun h => (h₂.consumeTime h).trans (h₁.consumeTime h)⟩

theorem of_edit (hedit : CacheEdit allowed made q.bufferQueueCache q₁.bufferQueueCache)
    (htime : q₁.lastConsumeTime = q.lastConsumeTime) : Edited allowed made q q₁ :=
  ⟨.single hedit, fun _ => htime⟩

theorem of_erase (h : q₁.bufferQueueCache = q.bufferQueueCache.erase k)
    (htime : q₁.lastConsumeTime = q.lastConsumeTime) : Edited allowed made q q₁ :=
  of_edit (by rw [h]; exact .erase k) htime

theorem of_modify (w : ElementWrite) (hw : allowed w)
    (h : q₁.bufferQueueCache = q.bufferQueueCache.modify k w.apply w.apply_seqNum)
    (htime : q₁.lastConsumeTime = q.lastConsumeTime) : Edited allowed made q q₁ :=
  of_edit (by rw [h]; exact .modify k w hw) htime

theorem of_mapAll (w : ElementWrite) (hw : allowed w)
    (h : q₁.bufferQueueCache = q.bufferQueueCache.mapAll w.apply w.apply_seqNum)
    (htime : q₁.lastConsumeTime = q.lastConsumeTime) : Edited allowed made q q₁ :=
  of_edit (by rw [h]; exact .mapAll w hw) htime

theorem of_put {e : BufferElement} (he : made e)
    (h : q₁.bufferQueueCache = q.bufferQueueCache.put e)
    (htime : q₁.lastConsumeTime = q.lastConsumeTime) : Edited allowed made q q₁ :=
  of_edit (by rw [h]; exact .put e he) htime

theorem mono (h : Edited allowed made q q₁) (hallowed : ∀ w, allowed w → allowed' w)
    (hmade : ∀ e, made e → made' e) : Edited allowed' made' q q₁ := by
  refine ⟨ReflTransGen.mono (fun c c' hedit => ?_) _ _ h.path,
    fun hnone => h.consumeTime fun fence mergeFd hw => hnone fence mergeFd (hallowed _ hw)⟩
  cases hedit with
  | erase k => exact .erase k
  | modify k w hw => exact .modify k w (hallowed w hw)
  | mapAll w hw => exact .mapAll w (hallowed w hw)
  | put e he => exact .put e (hmade e he)
  | clear => exact .clear

theorem quiet (h : Edited ElementWrite.Calm made q q₁) : Edited ElementWrite.Quiet made q q₁ :=
  h.mono (fun _ hw => hw.quiet) fun _ => id

theorem loud (h : Edited ElementWrite.Calm made q q₁) : Edited ElementWrite.Anything made q q₁ :=
  h.mono (fun _ _ => trivial) fun _ => id

end Edited

theorem CacheEdit.descends {allowed : ElementWrite → Prop} {made : BufferElement → Prop}
    {R : BufferElement → BufferElement → Prop} (hrefl : ∀ e, R e e)
    (htrans : ∀ e e₁ e₂, R e e₁ → R e₁ e₂ → R e e₂)
    (hwrite : ∀ w, allowed w → ∀ e, R e (w.apply e)) {c c' : BufferCache}
    (h : ReflTransGen (CacheEdit allowed made) c c') {k : ℕ} {e' : BufferElement}
    (he' : c'.find k = some e') :
    (∃ e, c.find k = some e ∧ R e e') ∨ ∃ e, made e ∧ e.buffer.seqNum = k ∧ R e e' := by
  induction h generalizing e' with
  | refl => exact .inl ⟨e', he', hrefl e'⟩
  | @tail c₁ c₂ _ hedit ih =>
    have hback {e₁ : BufferElement} (he₁ : c₁.find k = some e₁) (hR : R e₁ e') :
        (∃ e, c.find k = some e ∧ R e e') ∨ ∃ e, made e ∧ e.buffer.seqNum = k ∧ R e e' :=
      (ih he₁).imp (fun ⟨e, he, h⟩ => ⟨e, he, htrans _ _ _ h hR⟩)
        fun ⟨e, hmade, hk, h⟩ => ⟨e, hmade, hk, htrans _ _ _ h hR⟩
    cases hedit with
    | erase j =>
      rw [BufferCache.find_erase] at he'
      split_ifs at he'
      exact hback he' (hrefl e')
    | modify j w hw =>
      rw [BufferCache.find_modify] at he'
      split_ifs at he'
      · obtain ⟨e₁, he₁, rfl⟩ := Option.map_eq_some_iff.mp he'
        exact hback he₁ (hwrite w hw e₁)
      · exact hback he' (hrefl e')
    | mapAll w hw =>
      rw [BufferCache.find_mapAll] at he'
      obtain ⟨e₁, he₁, rfl⟩ := Option.map_eq_some_iff.mp he'
      exact hback he₁ (hwrite w hw e₁)
    | put e he =>
      rw [BufferCache.find_put] at he'
      split_ifs at he' with hk
      · cases he'
        exact .inr ⟨e', he, hk, hrefl e'⟩
      · exact hback he' (hrefl e')
    | clear => simp at he'

theorem Edited.descends {allowed : ElementWrite → Prop} {made : BufferElement → Prop}
    {R : BufferElement → BufferElement → Prop} {q q' : BufferQueue} (h : Edited allowed made q q')
    (hrefl : ∀ e, R e e) (htrans : ∀ e e₁ e₂, R e e₁ → R e₁ e₂ → R e e₂)
    (hwrite : ∀ w, allowed w → ∀ e, R e (w.apply e)) {k : ℕ} {e' : BufferElement}
    (he' : q'.bufferQueueCache.find k = some e') :
    (∃ e, q.bufferQueueCache.find k = some e ∧ R e e') ∨
      ∃ e, made e ∧ e.buffer.seqNum = k ∧ R e e' :=
  CacheEdit.descends hrefl htrans hwrite h.path he'

namespace BufferElement

structure Blank (e : BufferElement) : Prop where
  state : e.state ≠ .acquired
  syncFence : e.buffer.syncFence = none
  lastAcquireTime : e.lastAcquireTime = 0

end BufferElement

def Allocation.fills (a : Allocation) (e : BufferElement) : Prop :=
  a.alloc = true ∧ e.Blank ∧ e.buffer.seqNum = a.sequence

namespace BufferQueue

open ElementWrite

variable {made : BufferElement → Prop} {q : BufferQueue} {sequence : ℕ}

theorem deleteNoWait_edited (q : BufferQueue) (sequence : ℕ) :
    Edited Calm made q (q.deleteBufferInCacheNoWaitForAllocatingState sequence) := by
  unfold deleteBufferInCacheNoWaitForAllocatingState
  split
  · exact .refl
  · split <;> exact .of_erase rfl rfl

theorem popFromFreeListLocked_edited (q : BufferQueue) (config : BufferRequestConfig) :
    Edited Calm made q (q.popFromFreeListLocked config).2 :=
  popFromFreeListLocked_induct q config (fun _ => .of_cache rfl rfl) (.of_cache rfl rfl)
    fun _ _ => .of_modify (.recolour config.colorGamut config.transform) rfl rfl rfl

theorem popFromDirtyListLocked_edited (q : BufferQueue) :
    Edited Calm made q q.popFromDirtyListLocked.2 :=
  popFromDirtyListLocked_induct q (fun _ => .of_cache rfl rfl) (.of_cache rfl rfl)

theorem lastConsumeTime_pushProducerCacheList (q : BufferQueue) (sequence : ℕ) :
    (q.pushProducerCacheList sequence).lastConsumeTime = q.lastConsumeTime :=
  pushProducerCacheList_induct (P := fun q' => q'.lastConsumeTime = q.lastConsumeTime) q sequence
    fun _ _ => rfl

theorem updateReuseBufferState_edited (q : BufferQueue) (needRealloc : Bool) (sequence : ℕ)
    (listener : Bool) :
    Edited Calm made q (q.updateReuseBufferState needRealloc sequence listener).2 := by
  have hdrain : Edited Calm made q ((q.markRequested sequence).addDeletingBuffersLocked []).2 :=
    .of_modify (.setState .requested) rfl rfl rfl
  unfold updateReuseBufferState
  split
  · exact .of_cache rfl rfl
  · dsimp only
    split
    · split
      · exact hdrain.trans (.of_modify (.setState .released) rfl rfl rfl)
      · exact hdrain.trans (.of_modify .setDelivered rfl rfl
          (lastConsumeTime_pushProducerCacheList _ sequence))
    · exact hdrain

theorem reuseBuffer_edited (q : BufferQueue) (config : BufferRequestConfig)
    (buffer : SurfaceBuffer) (listener : Bool) :
    Edited Calm made q (q.reuseBuffer config buffer listener).2 := by
  unfold reuseBuffer
  split
  · exact .refl
  · split
    · exact updateReuseBufferState_edited q false buffer.seqNum listener
    · split
      · exact .of_cache rfl rfl
      · exact (deleteNoWait_edited q buffer.seqNum).trans (.of_cache rfl rfl)

theorem reuseBufferForBlockMode_edited (q : BufferQueue) (config : BufferRequestConfig) :
    Edited Calm made q (q.reuseBufferForBlockMode config).2 :=
  reuseBufferForBlockMode_induct .refl (popFromFreeListLocked_edited q config)
    fun q₁ buffer h => h.trans (reuseBuffer_edited q₁ config buffer false)

theorem reuseBufferForNoBlockMode_edited (q : BufferQueue) (config : BufferRequestConfig) :
    Edited Calm made q (q.reuseBufferForNoBlockMode config).2 :=
  reuseBufferForNoBlockMode_induct (popFromDirtyListLocked_edited q)
    (fun _ _ h => h.trans (.of_modify (.recolour config.colorGamut config.transform) rfl rfl rfl))
    fun q₁ buffer h => h.trans (reuseBuffer_edited q₁ config buffer false)

theorem requestBufferBody_edited (q : BufferQueue) (config : BufferRequestConfig)
    (listener : Bool) : Edited Calm made q (q.requestBufferBody config listener).2 := by
  have hsetup (q : BufferQueue) : Edited Calm made q (q.setupNewBufferLocked config).2 :=
    .of_cache rfl rfl
  exact requestBufferBody_induct (popFromFreeListLocked_edited q config) (hsetup q)
    (fun q₁ buffer h => h.trans (reuseBuffer_edited q₁ config buffer listener))
    (fun q₁ h => h.trans (reuseBufferForNoBlockMode_edited q₁ config))
    fun q₁ h => h.trans (hsetup q₁)

theorem allocBufferEnd_edited (q : BufferQueue) (job : AllocJob) (a : Allocation) :
    Edited Calm a.fills q (q.allocBufferEnd job a).2 := by
  unfold allocBufferEnd
  dsimp only
  split
  · rename_i hgranted
    exact .of_put (e := job.element a) ⟨(Bool.and_eq_true_iff.mp hgranted).1, ⟨nofun, rfl, rfl⟩, rfl⟩ rfl rfl
  · exact .of_cache rfl rfl

theorem finishRequest_edited (q : BufferQueue) (a : Allocation) (point : ReusePoint) :
    Edited Calm a.fills q (q.finishRequest a point).2 :=
  finishRequest_induct q a point (fun _ _ => .refl) (fun job _ => allocBufferEnd_edited q job a)
    (fun _ h => h.trans (.of_cache rfl rfl))
    fun q₁ sequence h => h.trans (updateReuseBufferState_edited q₁ true sequence false)

theorem requestBufferLocked_edited (q : BufferQueue) (config : BufferRequestConfig)
    (a : Allocation) (listener : Bool) :
    Edited Calm a.fills q (q.requestBufferLocked config a listener).2 := by
  unfold requestBufferLocked
  split
  · exact .refl
  · rename_i updateConfig _
    have hbody : Edited Calm a.fills q (q.requestBufferBody updateConfig listener).2 :=
      requestBufferBody_edited q updateConfig listener
    split
    · rename_i point q₁ h
      rw [h] at hbody
      exact hbody.trans (finishRequest_edited q₁ a point)
    · rename_i config' q₁ h
      rw [h] at hbody
      exact (hbody.trans (reuseBufferForBlockMode_edited q₁ config')).trans
        (finishRequest_edited _ a _)

theorem cancelBufferLocked_edited (q : BufferQueue) (sequence : ℕ) (bedata : Option ExtraData) :
    Edited Calm made q (q.cancelBufferLocked sequence bedata).2 := by
  unfold cancelBufferLocked
  split
  · exact .refl
  · split
    · exact .refl
    · exact .of_modify (.setCancelled bedata) rfl rfl rfl

theorem doFlushBufferLocked_edited (q : BufferQueue) (sequence : ℕ) (bedata : Option ExtraData)
    (fence : SyncFence) (config : BufferFlushConfigWithDamages) (env : FlushEnv) :
    Edited Calm made q (q.doFlushBufferLocked sequence bedata fence config env).2 := by
  unfold doFlushBufferLocked
  split
  · exact .refl
  · split
    · exact deleteNoWait_edited q sequence
    · split
      · exact .of_cache rfl rfl
      · rename_i bedata
        have hprepare : Edited Calm made q (q.prepareFlush sequence bedata) :=
          .of_modify (.setPrepared bedata q.transform q.singleBufferMode) rfl rfl rfl
        dsimp only
        split
        · exact hprepare
        · exact hprepare.trans (.of_modify (.setFlushed fence config env.now) rfl rfl rfl)

theorem flushBuffer_edited (q : BufferQueue) (sequence : ℕ) (bedata : Option ExtraData)
    (fence : SyncFence) (config : BufferFlushConfigWithDamages) (env : FlushEnv) :
    Edited Calm made q (q.flushBuffer sequence bedata fence config env).2 := by
  refine flushBuffer_cases (motive := fun r => Edited Calm made q r.2) ?_ ?_ ?_
  · exact fun _ _ => .refl
  · exact fun _ _ _ _ => cancelBufferLocked_edited q sequence bedata
  · exact fun _ => doFlushBufferLocked_edited q sequence bedata fence config env

theorem flushBufferImprovedLocked_edited (q : BufferQueue) (sequence : ℕ)
    (bedata : Option ExtraData) (fence : SyncFence) (config : BufferFlushConfigWithDamages)
    (env : FlushEnv) :
    Edited Calm made q (q.flushBufferImprovedLocked sequence bedata fence config env).2 := by
  refine flushBufferImprovedLocked_cases (motive := fun r => Edited Calm made q r.2) ?_ ?_
  · exact fun _ _ => .refl
  · exact fun _ => doFlushBufferLocked_edited q sequence bedata fence config env

theorem flushBuffers_edited (q : BufferQueue) (fs : List FlushArgs) :
    Edited Calm made q (q.flushBuffers fs).2 :=
  flushBuffers_preserves (fun _ => .refl)
    (fun q f => flushBuffer_edited q f.sequence f.bedata f.fence f.config f.env) .trans q fs

theorem releaseBufferLocked_edited (q : BufferQueue) (sequence : ℕ) (fence : Option SyncFence)
    (env : ReleaseEnv) : Edited ElementWrite.Quiet made q (q.releaseBufferLocked sequence fence env).2 := by
  unfold releaseBufferLocked
  split
  · exact .refl
  · rename_i ele _
    split
    · exact .refl
    · have hmark : Edited ElementWrite.Quiet made q (q.markReleased sequence ele.lastAcquireTime fence env) :=
        ⟨.single (.modify sequence (.setReleased fence env.mergeFd) rfl),
          fun h => absurd rfl (h fence env.mergeFd)⟩
      dsimp only
      split
      · exact hmark.trans (deleteNoWait_edited _ sequence).quiet
      · exact hmark.trans (.of_cache rfl rfl)

theorem setRequestedFromListener_edited (q : BufferQueue) (sequence : ℕ) :
    Edited Calm made q (q.setRequestedFromListener sequence) :=
  .of_modify (.setRequestedFromListener q.listenerSeqAndFenceCallingPid) rfl rfl rfl

theorem requestForListener_edited (q : BufferQueue) (config : BufferRequestConfig) :
    Edited Calm made q (q.requestBufferLocked config noAllocation true).2 :=
  (requestBufferLocked_edited q config noAllocation true).mono (fun _ => id)
    fun _ he => absurd he.1 Bool.false_ne_true

theorem handOut_edited (q : BufferQueue) (fuel : ℕ) (configs : List BufferRequestConfig) :
    Edited Calm made q (q.handOut fuel configs).2 := by
  induction fuel generalizing q configs with
  | zero => exact .refl
  | succ fuel ih =>
    cases configs with
    | nil => exact .refl
    | cons config configs =>
      have hone : Edited Calm made q (q.requestBufferLocked config noAllocation true).2 :=
        requestForListener_edited q config
      unfold handOut
      dsimp only
      split
      · exact (hone.trans (setRequestedFromListener_edited _ _)).trans (ih _ (config :: configs))
      · exact hone.trans (ih _ configs)

theorem takeBack_edited (q : BufferQueue) (sequence : ℕ) :
    Edited Calm made q (q.takeBack sequence) := by
  unfold takeBack
  split
  · exact .refl
  · exact cancelBufferLocked_edited q sequence _

theorem onReleaseBufferWithSequenceAndFence_edited (q : BufferQueue) (callback : ℕ → Bool)
    (handed : List (ℕ × Option SyncFence)) :
    Edited Calm made q (q.onReleaseBufferWithSequenceAndFence callback handed) :=
  onReleaseBufferWithSequenceAndFence_induct .refl
    (fun q₁ sequence h => h.trans (takeBack_edited q₁ sequence)) callback handed

theorem releaseBuffer_rest_edited (q : BufferQueue) (sequence : ℕ) (fence : Option SyncFence)
    (env : ReleaseEnv) :
    Edited Calm made (q.releaseBufferLocked sequence fence env).2
      (q.releaseBuffer sequence fence env).2 := by
  have hsection : Edited Calm made (q.releaseBufferLocked sequence fence env).2
      (q.releaseBufferSection sequence fence env).2.2 := by
    unfold releaseBufferSection requestBuffersForListenerLocked
    dsimp only
    split
    · exact .refl
    · split
      · exact handOut_edited _ _ _
      · exact .refl
  unfold releaseBuffer
  dsimp only
  split
  · exact hsection.trans (onReleaseBufferWithSequenceAndFence_edited _ _ _)
  · exact hsection

theorem releaseBuffer_edited (q : BufferQueue) (sequence : ℕ) (fence : Option SyncFence)
    (env : ReleaseEnv) : Edited ElementWrite.Quiet made q (q.releaseBuffer sequence fence env).2 :=
  (releaseBufferLocked_edited q sequence fence env).trans
    (releaseBuffer_rest_edited q sequence fence env).quiet

theorem deleteBuffersLocked_edited (q : BufferQueue) (count : ℕ) :
    Edited Calm made q (q.deleteBuffersLocked count) :=
  deleteBuffersLocked_induct .refl
    (fun q₁ sequence h => (h.trans (deleteNoWait_edited q₁ sequence)).trans (.of_cache rfl rfl))
    (fun q₁ sequence _ h => (h.trans (deleteNoWait_edited q₁ sequence)).trans (.of_cache rfl rfl))
    (fun _ _ h => h.trans (.of_modify .setDeleting rfl rfl rfl)) count

theorem detachForConsumer_edited (q : BufferQueue) (sequence : ℕ) (isReserveSlot : Bool) :
    Edited Calm made q (q.detachForConsumer sequence isReserveSlot) := by
  have hdelete : Edited Calm made q (q.deleteBufferInCacheNoWaitForAllocatingState sequence) :=
    deleteNoWait_edited q sequence
  unfold detachForConsumer
  dsimp only
  split
  · exact hdelete.trans (.of_cache rfl rfl)
  · exact hdelete

theorem detachBufferFromQueueLocked_edited (q : BufferQueue) (sequence : ℕ)
    (invokerType : InvokerType) (isReserveSlot : Bool) :
    Edited Calm made q (q.detachBufferFromQueueLocked sequence invokerType isReserveSlot).2 := by
  unfold detachBufferFromQueueLocked
  split
  · exact .refl
  · cases invokerType with
    | producerInvoker => exact .of_erase rfl rfl
    | consumerInvoker => exact detachForConsumer_edited q sequence isReserveSlot

theorem detachBuffer_edited (q : BufferQueue) (sequence : ℕ) :
    Edited Calm made q (q.detachBuffer sequence).2 := by
  unfold detachBuffer
  split
  · exact .refl
  · split
    · exact .of_erase rfl rfl
    · exact .refl

theorem requestAndDetachBuffer_edited (q : BufferQueue) (config : BufferRequestConfig)
    (a : Allocation) : Edited Calm a.fills q (q.requestAndDetachBuffer config a).2 := by
  have hrequest := requestBufferLocked_edited q config a false
  unfold requestAndDetachBuffer
  dsimp only
  split
  · exact hrequest
  · exact hrequest.trans (detachBufferFromQueueLocked_edited _ _ _ _)

theorem requestBuffersLoop_edited (q : BufferQueue) (config : BufferRequestConfig)
    (as : List Allocation) :
    Edited Calm (fun e => ∃ a ∈ as, a.fills e) q (q.requestBuffersLoop config as).2.2 := by
  induction as generalizing q with
  | nil => exact .refl
  | cons a as ih =>
    have hone : Edited Calm (fun e => ∃ b ∈ a :: as, b.fills e) q (q.requestBuffer config a).2 :=
      (requestBufferLocked_edited q config a false).mono (fun _ => id)
        fun _ he => ⟨a, List.mem_cons_self, he⟩
    unfold requestBuffersLoop
    dsimp only
    split
    · exact hone
    · exact hone.trans ((ih _).mono (fun _ => id)
        fun _ he => he.imp fun _ hb => ⟨List.mem_cons_of_mem _ hb.1, hb.2⟩)

theorem requestBuffers_edited (q : BufferQueue) (config : BufferRequestConfig)
    (as : List Allocation) :
    Edited Calm (fun e => ∃ a ∈ as, a.fills e) q (q.requestBuffers config as).2.2 := by
  have hloop := requestBuffersLoop_edited { q with isBatch := true } config as
  refine ⟨hloop.path, fun h => ?_⟩
  exact hloop.consumeTime h

def brings (q : BufferQueue) (buffer : SurfaceBuffer) (invokerType : InvokerType)
    (e : BufferElement) : Prop :=
  q.bufferQueueCache.find buffer.seqNum = none ∧ e.buffer.seqNum = buffer.seqNum ∧
    e.buffer.syncFence = buffer.syncFence ∧ e.lastAcquireTime = 0 ∧
    (e.state = .acquired → invokerType = .consumerInvoker)

theorem attachBufferToQueueLocked_edited (q : BufferQueue) (buffer : SurfaceBuffer)
    (invokerType : InvokerType) :
    Edited Calm (q.brings buffer invokerType) q
      (q.attachBufferToQueueLocked buffer invokerType).2 := by
  unfold attachBufferToQueueLocked
  split_ifs with hlistener hfull hcached
  · exact .refl
  · exact .refl
  · exact .refl
  · have habsent : q.bufferQueueCache.find buffer.seqNum = none := by simpa using hcached
    have hproducer : q.brings buffer .producerInvoker (.init (q.attachedBuffer buffer) .requested
        buffer.bufferRequestConfig (some invalidFence)) := ⟨habsent, rfl, rfl, rfl, nofun⟩
    cases invokerType with
    | producerInvoker => exact .of_put hproducer rfl rfl
    | consumerInvoker => exact .of_put ⟨habsent, rfl, rfl, rfl, fun _ => rfl⟩ rfl rfl

theorem attachBuffer_edited (q : BufferQueue) (buffer : SurfaceBuffer) (timeOut : Int) :
    Edited Calm (q.brings buffer .producerInvoker) q (q.attachBuffer buffer timeOut).2 := by
  unfold attachBuffer attachBufferUpdateStatus
  split
  · exact .refl
  · split
    · exact .refl
    · split
      · split
        · exact .of_modify (.setState .attached) rfl rfl rfl
        · exact .refl
      · rename_i habsent
        split
        · exact .refl
        · rename_i count _
          exact (deleteBuffersLocked_edited q count).trans
            (.of_put (e := q.attachElement buffer timeOut)
              ⟨habsent, rfl, rfl, rfl, fun hrequested => by cases hrequested⟩ rfl rfl)

theorem attachAndFlushBuffer_edited (q : BufferQueue) (buffer : SurfaceBuffer)
    (bedata : Option ExtraData) (fence : SyncFence) (config : BufferFlushConfigWithDamages)
    (env : FlushEnv) :
    Edited Calm (q.brings buffer .producerInvoker) q
      (q.attachAndFlushBuffer buffer bedata fence config env).2 := by
  have hattach := attachBufferToQueueLocked_edited q buffer .producerInvoker
  unfold attachAndFlushBuffer
  dsimp only
  split
  · exact hattach
  · have hflush := hattach.trans (flushBufferImprovedLocked_edited _ buffer.seqNum bedata fence
      config env)
    split
    · exact hflush.trans (.of_erase rfl rfl)
    · exact hflush

/-- The buffers that `PreAllocBuffers` has allocated, as entries. -/
def preAllocates (buffers : List SurfaceBuffer) (e : BufferElement) : Prop :=
  e.buffer ∈ buffers ∧ e.state ≠ .acquired ∧ e.lastAcquireTime = 0

theorem insertPreAlloc_edited (q : BufferQueue) (config : BufferRequestConfig)
    (buffers : List SurfaceBuffer) :
    Edited Calm (preAllocates buffers) q (q.insertPreAlloc config buffers).2 := by
  induction buffers generalizing q with
  | nil => exact .refl
  | cons buffer rest ih =>
    unfold insertPreAlloc
    split
    · exact .refl
    · refine Edited.trans ?_ ((ih _).mono (fun _ => id)
        fun _ he => ⟨List.mem_cons_of_mem _ he.1, he.2⟩)
      exact .of_put (e := { BufferElement.init buffer .released config (some invalidFence) with
        isPreAllocBuffer := true })
        ⟨List.mem_cons_self, by simp [BufferElement.init], rfl⟩ rfl rfl

theorem cleanReleasedBuffersLocked_edited (q : BufferQueue) (l : List ℕ) :
    Edited Calm made q (q.cleanReleasedBuffersLocked l).2 := by
  refine cleanReleasedBuffersLocked_induct .refl (fun q₁ sequence h => ?_) l
  split <;> exact h.trans (.of_erase rfl rfl)

theorem cleanProducerBySeqNum_edited (q : BufferQueue) (seqNums : List ℕ) :
    Edited Calm made q (q.cleanProducerBySeqNum seqNums) := by
  refine cleanProducerBySeqNum_induct .refl (fun q₁ sequence h => ?_) seqNums
  unfold cleanProducerOne
  split
  · exact h.trans (.of_erase rfl rfl)
  · exact h

theorem clearLocked_edited (q : BufferQueue) : Edited Calm made q q.clearLocked :=
  .of_edit .clear rfl

theorem setQueueSizeLocked_edited (q : BufferQueue) (queueSize : ℕ) :
    Edited Calm made q (q.setQueueSizeLocked queueSize).2 :=
  setQueueSizeLocked_induct .refl (fun count => deleteBuffersLocked_edited q count)
    (fun _ _ h => h.trans (.of_cache rfl rfl)) queueSize

theorem setQueueSize_edited (q : BufferQueue) (queueSize : ℕ) :
    Edited Calm made q (q.setQueueSize queueSize).2 := by
  unfold setQueueSize
  split
  · exact .refl
  · exact setQueueSizeLocked_edited q queueSize

theorem setMaxQueueSize_edited (q : BufferQueue) (queueSize : ℕ) :
    Edited Calm made q (q.setMaxQueueSize queueSize).2 := by
  unfold setMaxQueueSize
  dsimp only
  split
  · exact .refl
  · split
    · refine Edited.trans ?_ (setQueueSizeLocked_edited _ queueSize)
      exact .of_cache rfl rfl
    · exact .of_cache rfl rfl

theorem setProducerCacheCleanFlag_edited (q : BufferQueue) (flag : Bool) :
    Edited Calm made q (q.setProducerCacheCleanFlag flag) := by
  unfold setProducerCacheCleanFlag
  dsimp only
  split
  · exact (clearLocked_edited q).trans (.of_cache rfl rfl)
  · exact .of_cache rfl rfl

theorem setBufferScalingMode_edited (q : BufferQueue) (sequence : ℕ) (scalingMode : Int) :
    Edited Calm made q (q.setBufferScalingMode sequence scalingMode).2 := by
  unfold setBufferScalingMode
  split
  · exact .of_modify (.setScalingMode scalingMode) rfl rfl rfl
  · exact .refl

theorem acquireLastFlushedBuffer_edited (q : BufferQueue) :
    Edited Calm made q q.acquireLastFlushedBuffer.2 :=
  acquireLastFlushedBuffer_induct q .refl (.of_cache rfl rfl)

theorem releaseLastFlushedBuffer_edited (q : BufferQueue) (sequence : ℕ) :
    Edited Calm made q (q.releaseLastFlushedBuffer sequence).2 :=
  releaseLastFlushedBuffer_induct q sequence .refl (.of_cache rfl rfl)

theorem markAcquired_edited (q : BufferQueue) (sequence : ℕ) (now : Int) :
    Edited Anything made q (q.markAcquired sequence now) :=
  .of_modify (.setAcquired now) trivial rfl rfl

theorem acquireBuffer_edited (q : BufferQueue) (now : Int) :
    Edited Anything made q (q.acquireBuffer now).2 :=
  acquireBuffer_induct (popFromDirtyListLocked_edited q).loud
    (fun _ h => h.trans (.of_cache rfl rfl))
    fun q₁ sequence h => h.trans (markAcquired_edited q₁ sequence now)

theorem dropBuffersByLevel_edited (q : BufferQueue) (now : Int) :
    Edited Anything made q (q.dropBuffersByLevel now).2 :=
  dropBuffersByLevel_induct .refl (fun _ h => h.trans (.of_cache rfl rfl)) fun q₁ front _ h =>
    (h.trans (markAcquired_edited q₁ front now)).trans (.of_cache rfl rfl)

theorem acquireByTimestampSection_edited (q : BufferQueue) (expect : Int) (auto : Bool) :
    Edited Anything made q (q.acquireByTimestampSection expect auto).2.2 :=
  acquireByTimestampSection_induct .refl (fun _ h => h.trans (.of_cache rfl rfl))
    (fun _ _ _ h => h.trans (.of_modify (.setState .acquired) trivial rfl rfl)) expect auto

end BufferQueue

namespace Op

open BufferQueue

def makes (q : BufferQueue) : Op → BufferElement → Prop
  | requestBuffer _ a | requestAndDetachBuffer _ a => a.fills
  | requestBuffers _ as => fun e => ∃ a ∈ as, a.fills e
  | preAllocBuffers _ count as => fun e => e.Blank ∧ ∃ i < count, e.buffer.seqNum = (as i).sequence
  | attachBufferToQueue buffer invokerType => q.brings buffer invokerType
  | attachBuffer buffer _ | attachAndFlushBuffer buffer _ _ _ _ => q.brings buffer .producerInvoker
  | _ => nothing

/-- The two forms of `AcquireBuffer`. -/
def isAcquire : Op → Bool
  | acquireBuffer _ | acquireBufferByTimestamp _ _ _ _ => true
  | _ => false

theorem Fresh.absent {q : BufferQueue} {op : Op} (h : op.Fresh q) {e : BufferElement}
    (he : op.makes q e) : q.bufferQueueCache.find e.buffer.seqNum = none := by
  cases op with
  | requestBuffer config a | requestAndDetachBuffer config a =>
    obtain ⟨-, -, hseq⟩ := he
    rw [hseq]
    exact h
  | requestBuffers config as =>
    obtain ⟨a, ha, -, -, hseq⟩ := he
    rw [hseq]
    exact h.2 a ha
  | preAllocBuffers config count as =>
    obtain ⟨-, i, hi, hseq⟩ := he
    rw [hseq]
    exact h i hi
  | attachBufferToQueue buffer invokerType =>
    rw [he.2.1]
    exact he.1
  | attachBuffer buffer timeOut =>
    rw [he.2.1]
    exact he.1
  | attachAndFlushBuffer buffer bedata fence config env =>
    rw [he.2.1]
    exact he.1
  | _ => exact he.elim

theorem preAllocBuffers_edited (q : BufferQueue) (config : BufferRequestConfig) (count : ℕ)
    (as : ℕ → Allocation) :
    Edited ElementWrite.Calm ((preAllocBuffers config count as).makes q) q
      (q.preAllocBuffers config count as).2 := by
  unfold BufferQueue.preAllocBuffers
  dsimp only
  split
  · exact .refl
  · split
    · exact .refl
    · refine (insertPreAlloc_edited _ _ _).mono (fun _ => id) ?_
      rintro e ⟨hmem, hstate, htime⟩
      obtain ⟨i, hi, hseq⟩ := (allocBuffers_spec _ _ as).2 e.buffer hmem
      obtain ⟨a, ha⟩ := allocated_of_allocBuffers hmem
      exact ⟨⟨hstate, by rw [ha]; rfl, htime⟩, i, lt_of_lt_of_le hi (min_le_left _ _), hseq.symm⟩

theorem run_edited (q : BufferQueue) {op : Op} (hop : op.isAcquire = false) :
    Edited ElementWrite.Quiet (op.makes q) q (op.run q).2 := by
  cases op with
  | requestBuffer config a => exact (requestBufferLocked_edited q config a false).quiet
  | requestBuffers config as => exact (requestBuffers_edited q config as).quiet
  | requestAndDetachBuffer config a => exact (requestAndDetachBuffer_edited q config a).quiet
  | cancelBuffer sequence bedata => exact (cancelBufferLocked_edited q sequence bedata).quiet
  | flushBuffer f => exact (flushBuffer_edited q f.sequence f.bedata f.fence f.config f.env).quiet
  | flushBuffers fs => exact (flushBuffers_edited q fs).quiet
  | acquireBuffer now => cases hop
  | acquireBufferByTimestamp expect auto now envs => cases hop
  | releaseBuffer sequence fence env => exact releaseBuffer_edited q sequence fence env
  | attachBufferToQueue buffer invoker => exact (attachBufferToQueueLocked_edited q buffer invoker).quiet
  | detachBufferFromQueue sequence invoker reserve =>
    exact (detachBufferFromQueueLocked_edited q sequence invoker reserve).quiet
  | attachBuffer buffer timeOut => exact (attachBuffer_edited q buffer timeOut).quiet
  | detachBuffer sequence => exact (detachBuffer_edited q sequence).quiet
  | attachAndFlushBuffer buffer bedata fence config env =>
    exact (attachAndFlushBuffer_edited q buffer bedata fence config env).quiet
  | setQueueSize size => exact (setQueueSize_edited q size).quiet
  | setMaxQueueSize size => exact (setMaxQueueSize_edited q size).quiet
  | preAllocBuffers config count as => exact (preAllocBuffers_edited q config count as).quiet
  | cleanCache | onConsumerDied => exact (clearLocked_edited q).quiet
  | goBackground => exact (clearLocked_edited q).quiet.trans (.of_cache rfl rfl)
  | setProducerCacheCleanFlag flag => exact (setProducerCacheCleanFlag_edited q flag).quiet
  | cleanReleasedBuffers => exact (cleanReleasedBuffersLocked_edited q _).quiet
  | cleanProducerBySeqNum seqNums => exact (cleanProducerBySeqNum_edited q seqNums).quiet
  | acquireLastFlushedBuffer => exact (acquireLastFlushedBuffer_edited q).quiet
  | releaseLastFlushedBuffer sequence => exact (releaseLastFlushedBuffer_edited q sequence).quiet
  | setScalingMode mode => exact .of_mapAll (.setScalingMode mode) rfl rfl rfl
  | setBufferScalingMode sequence mode => exact (setBufferScalingMode_edited q sequence mode).quiet
  | setVideoDimensionType type => exact .of_mapAll (.setVideoDimensionType type) rfl rfl rfl
  | setSingleBufferMode mode => exact .of_cache rfl rfl
  | configure s => exact .of_cache rfl rfl

end Op

end GraphicSurface
