import GraphicSurface.BatchMode
import GraphicSurface.FailedFlush
import GraphicSurface.HeldBuffers
import GraphicSurface.SurfaceCaches

/-! What each call does to a buffer that the producer has, in the queue and through a surface that has
locked it. -/

namespace GraphicSurface

namespace BufferQueue

variable {q : BufferQueue} {k sequence : ℕ} {config : BufferFlushConfigWithDamages} {env : FlushEnv}

instance (q : BufferQueue) (e : BufferElement) (config : BufferFlushConfigWithDamages)
    (env : FlushEnv) : Decidable (q.CacheFails e config env) :=
  inferInstanceAs (Decidable (_ ∧ _ ∧ _ ∧ _ ∧ _ ∧ _ ∧ _))

/-! What a call of the queue does to a buffer that the producer has. -/

theorem finishRequest_passes {point : ReusePoint} (h : point.Passes) (a : Allocation) :
    (q.finishRequest a point).1.ret ≠ .noConsumer := by
  cases point with
  | done reply => exact h
  | setupNewBuffer job =>
    unfold finishRequest
    dsimp only
    split
    · exact nofun
    · exact nofun
  | reallocBuffer job =>
    unfold finishRequest
    dsimp only
    split
    · exact nofun
    · exact ret_updateReuseBufferState _ _ _ _

theorem requestBody_passes (h : q.Agrees) (hstatus : (!q.isValidStatus && !q.isBatch) = false)
    (config : BufferRequestConfig) (a : Allocation) :
    (match q.requestBufferBody config false with
      | (.reached point, q) => q.finishRequest a point
      | (.waitReq config, q) =>
        (q.reuseBufferForBlockMode config).2.finishRequest a (q.reuseBufferForBlockMode config).1
      ).1.ret ≠ .noConsumer := by
  cases hb : q.requestBufferBody config false with
  | mk point q₁ =>
    cases point with
    | reached point =>
      have hmust : ¬ q.MustWait config := by
        intro hmust
        have hwaits := (requestBufferBody_of_mustWait hmust).1
        rw [hb] at hwaits
        cases hwaits
      obtain ⟨point', hpoint, hpasses⟩ := requestBufferBody_of_not_mustWait hmust
      rw [hb] at hpoint
      cases hpoint
      exact finishRequest_passes hpasses a
    | waitReq config' =>
      obtain rfl := requestBufferBody_waits h hb
      exact finishRequest_passes (reuseBufferForBlockMode_passes hstatus config') a

theorem requestBuffer_noConsumer_iff (h : q.Agrees) (config : BufferRequestConfig)
    (a : Allocation) :
    (q.requestBuffer config a).1.ret = .noConsumer ↔ q.requestBufferCheckStatus = .noConsumer := by
  unfold requestBuffer requestBufferLocked requestBufferCheck
  by_cases hcheck : q.requestBufferCheckStatus = .ok
  · rw [if_neg (not_not.mpr hcheck), hcheck]
    have hstatus : (!q.isValidStatus && !q.isBatch) = false := by
      unfold requestBufferCheckStatus at hcheck
      split_ifs at hcheck with hbatch hvalid hlistener
      · simp [hbatch]
      · simp only [Bool.not_eq_true', Bool.not_eq_false] at hvalid
        simp [hvalid]
    refine iff_of_false ?_ nofun
    dsimp only
    split_ifs
    · exact nofun
    · exact requestBody_passes h hstatus _ a
  · rw [if_pos hcheck]
    exact Iff.rfl

theorem requestBuffer_stays (h : q.Agrees) (config : BufferRequestConfig) {a : Allocation}
    (hfresh : q.bufferQueueCache.find a.sequence = none) (hk : q.stateOf k = some .requested) :
    (q.requestBuffer config a).2.stateOf k = some .requested := by
  have hlends : Lends true q (q.requestBuffer config a).2 :=
    requestBufferLocked_lends h config a hfresh
  exact hlends.stays hk

theorem not_requested_cleanCache (q : BufferQueue) (k : ℕ) :
    q.cleanCache.stateOf k ≠ some .requested := by
  have hnone : q.cleanCache.stateOf k = none := by
    unfold stateOf
    exact congrArg (Option.map _) (BufferCache.find_empty k)
  rw [hnone]
  exact nofun

theorem cancelBufferLocked_ret (q : BufferQueue) (sequence : ℕ) (bedata : Option ExtraData) :
    (q.cancelBufferLocked sequence bedata).1 = .ok ↔
      q.stateOf sequence = some .requested ∨ q.stateOf sequence = some .attached := by
  unfold cancelBufferLocked stateOf
  cases q.bufferQueueCache.find sequence with
  | none => simp
  | some e =>
    dsimp only
    split
    · rename_i hs
      simp [hs.1, hs.2]
    · rename_i hs
      simpa [← or_iff_not_imp_left] using hs

theorem releaseBuffer_stays (h : q.Agrees) (sequence : ℕ) (fence : Option SyncFence)
    (env : ReleaseEnv) (hk : q.stateOf k = some .requested) :
    (q.releaseBuffer sequence fence env).2.stateOf k = some .requested := by
  have hrelease := releaseBufferLocked_refines h sequence fence env
  have hspared := releaseBufferLocked_spares sequence fence env hk (.inr rfl)
  have htakeBack (handed : List (ℕ × Option SyncFence)) (q : BufferQueue)
      (hk : q.stateOf k = some .requested) (hhanded : k ∉ handed.map (·.1)) :
      (q.onReleaseBufferWithSequenceAndFence env.callback handed).stateOf k = some .requested := by
    unfold onReleaseBufferWithSequenceAndFence
    induction handed generalizing q with
    | nil => exact hk
    | cons d handed ih =>
      rw [List.map_cons, List.mem_cons, not_or] at hhanded
      refine ih _ ?_ hhanded.2
      dsimp only
      split
      · exact hk
      · rw [(takeBack_takesBack q d.1).others k hhanded.1, hk]
  have hsection : (q.releaseBufferSection sequence fence env).2.2.stateOf k = some .requested ∧
      k ∉ (q.releaseBufferSection sequence fence env).2.1.map (·.1) := by
    unfold releaseBufferSection
    dsimp only
    split
    · exact ⟨hspared, by simp⟩
    · split
      · have hands := handOut_handsOver (hrelease.agrees h)
          ((q.releaseBufferLocked sequence fence env).2.freeList.length +
            ((q.releaseBufferLocked sequence fence env).2.collectConfigs
              (q.releaseBufferLocked sequence fence env).2.freeList []).length)
          ((q.releaseBufferLocked sequence fence env).2.collectConfigs
            (q.releaseBufferLocked sequence fence env).2.freeList [])
        have hnot : k ∉ ((q.releaseBufferLocked sequence fence
            env).2.requestBuffersForListenerLocked).1.map (·.1) := by
          intro hmem
          obtain ⟨e, he, hs⟩ := (hrelease.agrees h).state_of_mem_free
            (hands.free.subset (List.mem_append_left _ hmem))
          simp [stateOf, he, hs] at hspared
        exact ⟨hands.marks.others k hnot _ hspared (.inr rfl), hnot⟩
      · exact ⟨hspared, by simp⟩
  unfold releaseBuffer
  dsimp only
  split
  · exact htakeBack _ _ hsection.1 hsection.2
  · exact hsection.1

/-- A flush of a buffer that the producer has: refused, given back because nobody listens, stopped by
`FlushCache`, or done. -/
theorem flushBuffer_held (config : BufferFlushConfigWithDamages) (env : FlushEnv)
    (hvalid : q.isValidStatus = true) {e : BufferElement}
    (he : q.bufferQueueCache.find k = some e) (hs : e.state = .requested) (bedata : ExtraData)
    (fence : SyncFence) :
    (checkFlushConfig config ≠ .ok ∧
        q.flushBuffer k (some bedata) fence config env = (checkFlushConfig config, q)) ∨
      (checkFlushConfig config = .ok ∧ q.listenerRegistered = false ∧
        (q.flushBuffer k (some bedata) fence config env).1 = .consumerUnregisterListener ∧
        (q.flushBuffer k (some bedata) fence config env).2.stateOf k ≠ some .requested) ∨
      (q.CacheFails e config env ∧
        (q.flushBuffer k (some bedata) fence config env).1 = env.flushCache ∧
        (q.flushBuffer k (some bedata) fence config env).2.stateOf k = some .requested) ∨
      (checkFlushConfig config = .ok ∧ q.listenerRegistered = true ∧ ¬ q.CacheFails e config env ∧
        (q.flushBuffer k (some bedata) fence config env).1 = .ok ∧
        (q.flushBuffer k (some bedata) fence config env).2.stateOf k ≠ some .requested) := by
  have hk : q.stateOf k = some .requested := by simp [stateOf, he, hs]
  have hcheck : q.checkBufferQueueCacheLocked k = .ok := by
    unfold checkBufferQueueCacheLocked
    rw [he]
    exact if_neg fun h => h.1 hs
  by_cases hconfig : checkFlushConfig config = .ok
  swap
  · refine .inl ⟨hconfig, ?_⟩
    unfold flushBuffer
    rw [if_neg (by simp [hvalid]), if_pos hconfig]
  cases hlistener : q.listenerRegistered with
  | false =>
    have hflush : q.flushBuffer k (some bedata) fence config env =
        (.consumerUnregisterListener, (q.cancelBufferLocked k (some bedata)).2) := by
      unfold flushBuffer
      rw [if_neg (by simp [hvalid]), if_neg (not_not.mpr hconfig), if_neg (not_not.mpr hcheck),
        if_pos (by simp [hlistener])]
    refine .inr (.inl ⟨hconfig, rfl, by rw [hflush], ?_⟩)
    rw [hflush, (cancelBufferLocked_takesBack q k (some bedata)).back hk]
    simp
  | true =>
    have hflush : q.flushBuffer k (some bedata) fence config env =
        q.doFlushBufferLocked k (some bedata) fence config env := by
      unfold flushBuffer
      rw [if_neg (by simp [hvalid]), if_neg (not_not.mpr hconfig), if_neg (not_not.mpr hcheck),
        if_neg (by simp [hlistener])]
    rw [hflush]
    unfold doFlushBufferLocked
    rw [he]
    dsimp only
    cases hdeleting : e.isDeleting with
    | true =>
      refine .inr (.inr (.inr ⟨hconfig, rfl, ?_, rfl, ?_⟩))
      · rintro ⟨-, -, -, -, hnot, -⟩
        rw [hdeleting] at hnot
        cases hnot
      · simp [stateOf, find_deleteNoWait]
    | false =>
      rw [if_neg Bool.false_ne_true]
      by_cases hcache : e.config.usage &&& bufferUsageCpuWrite ≠ 0 ∧ env.flushCache ≠ .ok
      · rw [if_pos hcache]
        refine .inr (.inr (.inl ⟨⟨hvalid, hlistener, hconfig, .inl hs, hdeleting, hcache⟩, rfl, ?_⟩))
        simp [stateOf, prepareFlush, he, hs]
      · rw [if_neg hcache]
        refine .inr (.inr (.inr ⟨hconfig, rfl, fun hfails => hcache hfails.2.2.2.2.2, rfl, ?_⟩))
        simp [stateOf, commitFlush, prepareFlush, he]

theorem checkFlushConfig_ne (config : BufferFlushConfigWithDamages) :
    checkFlushConfig config ≠ .noConsumer := by
  unfold checkFlushConfig
  split <;> exact nofun

theorem flushBuffer_others (f : FlushArgs) (hne : f.sequence ≠ k) :
    (q.flushBuffer f.sequence f.bedata f.fence f.config f.env).2.stateOf k = q.stateOf k := by
  refine flushBuffer_cases (motive := fun r => r.2.stateOf k = q.stateOf k) (fun _ _ => rfl)
    (fun _ _ _ _ => ?_) fun _ => doFlushBufferLocked_others q f hne
  exact (cancelBufferLocked_takesBack q f.sequence f.bedata).others k hne.symm

theorem flushBuffer_ret (hvalid : q.isValidStatus = true) (f : FlushArgs)
    (henv : f.env.flushCache ≠ .noConsumer) :
    (q.flushBuffer f.sequence f.bedata f.fence f.config f.env).1 ≠ .noConsumer := by
  unfold flushBuffer
  rw [if_neg (by simp [hvalid])]
  split_ifs with hconfig hcheck hlistener
  · exact checkFlushConfig_ne f.config
  · unfold checkBufferQueueCacheLocked
    split
    · simp
    · split_ifs <;> simp
  · simp
  · unfold doFlushBufferLocked
    split
    · simp
    · split
      · simp
      · split
        · simp
        · dsimp only
          split_ifs
          · exact henv
          · simp

/-- The flush passes every check of a buffer that the producer has, up to `FlushCache`. -/
def Flushes (q : BufferQueue) (k : ℕ) (config : BufferFlushConfigWithDamages) (env : FlushEnv) :
    Prop :=
  checkFlushConfig config = .ok ∧ ∀ e ∈ q.bufferQueueCache.find k, ¬ q.CacheFails e config env

instance (q : BufferQueue) (k : ℕ) (config : BufferFlushConfigWithDamages) (env : FlushEnv) :
    Decidable (q.Flushes k config env) := inferInstanceAs (Decidable (_ ∧ _))

theorem flushBuffer_stays_iff (hvalid : q.isValidStatus = true)
    (hk : q.stateOf k = some .requested) {f : FlushArgs} (hbedata : f.bedata.isSome) :
    (q.flushBuffer f.sequence f.bedata f.fence f.config f.env).2.stateOf k = some .requested ↔
      ¬ (f.sequence = k ∧ q.Flushes k f.config f.env) := by
  by_cases hseq : f.sequence = k
  · obtain ⟨e, he, hs⟩ := Option.map_eq_some_iff.mp hk
    obtain ⟨bedata, hbedata⟩ := Option.isSome_iff_exists.mp hbedata
    have hflushes : q.Flushes k f.config f.env ↔
        checkFlushConfig f.config = .ok ∧ ¬ q.CacheFails e f.config f.env := by
      simp [Flushes, he]
    rw [hbedata, hseq, hflushes]
    simp only [true_and]
    rcases flushBuffer_held f.config f.env hvalid he hs bedata f.fence with
      ⟨hconfig, hflush⟩ | ⟨hconfig, hlistener, -, hgone⟩ | ⟨hfails, -, hstays⟩ |
        ⟨hconfig, -, hpasses, -, hgone⟩
    · rw [hflush]
      exact iff_of_true hk fun h => hconfig h.1
    · refine iff_of_false hgone (not_not.mpr ⟨hconfig, fun hfails => ?_⟩)
      exact Bool.false_ne_true (hlistener.symm.trans hfails.2.1)
    · exact iff_of_true hstays fun h => h.2 hfails
    · exact iff_of_false hgone (not_not.mpr ⟨hconfig, hpasses⟩)
  · rw [flushBuffer_others f hseq]
    exact iff_of_true hk fun h => hseq h.1

theorem flushes_iff_of_unregistered (hlistener : q.listenerRegistered = false) :
    q.Flushes k config env ↔ checkFlushConfig config = .ok :=
  and_iff_left fun _ _ hfails => Bool.false_ne_true (hlistener.symm.trans hfails.2.1)

theorem flushBuffer_ok_iff (hvalid : q.isValidStatus = true) {f : FlushArgs}
    (hk : q.stateOf f.sequence = some .requested) (hbedata : f.bedata.isSome) :
    (q.flushBuffer f.sequence f.bedata f.fence f.config f.env).1 = .ok ↔
      q.listenerRegistered = true ∧ q.Flushes f.sequence f.config f.env := by
  obtain ⟨e, he, hs⟩ := Option.map_eq_some_iff.mp hk
  obtain ⟨bedata, hbedata⟩ := Option.isSome_iff_exists.mp hbedata
  rw [hbedata]
  rcases flushBuffer_held f.config f.env hvalid he hs bedata f.fence with
    ⟨hconfig, hflush⟩ | ⟨-, hlistener, hret, -⟩ | ⟨hfails, hret, -⟩ |
      ⟨hconfig, hlistener, hpasses, hret, -⟩
  · rw [hflush]
    exact iff_of_false hconfig fun h => hconfig h.2.1
  · rw [hret]
    exact iff_of_false nofun fun h => Bool.false_ne_true (hlistener.symm.trans h.1)
  · rw [hret]
    exact iff_of_false hfails.2.2.2.2.2.2 fun h => h.2.2 e he hfails
  · refine iff_of_true hret ⟨hlistener, hconfig, fun e' he' => ?_⟩
    obtain rfl : e = e' := Option.some.inj (he.symm.trans he')
    exact hpasses

end BufferQueue

namespace ProducerSurface

variable {link : Link} {s : ProducerSurface} {locked : BufferRef}

/-- The surface says that the buffer is locked exactly when the producer has it. -/
def Tracks (s : ProducerSurface) (locked : BufferRef) : Prop :=
  s.mLockedBuffer = some locked ∧ s.queue.stateOf locked.seqNum = some .requested ∨
    s.mLockedBuffer = none ∧ s.queue.stateOf locked.seqNum ≠ some .requested

theorem tracks_of_locked (h : s.mLockedBuffer = some locked) :
    s.Tracks locked ↔ s.queue.stateOf locked.seqNum = some .requested := by
  simp [Tracks, h]

theorem tracks_of_unlocked (h : s.mLockedBuffer = none) :
    s.Tracks locked ↔ s.queue.stateOf locked.seqNum ≠ some .requested := by
  simp [Tracks, h]

def CanClean (link : Link) (s : ProducerSurface) : Prop :=
  s.producer.checkConnectLocked link.callingPid = .ok

instance (link : Link) (s : ProducerSurface) : Decidable (s.CanClean link) :=
  inferInstanceAs (Decidable (_ = _))

theorem mLockedBuffer_cleanCacheLocked (link : Link) (s : ProducerSurface) :
    (s.cleanCacheLocked link).2.mLockedBuffer = s.mLockedBuffer := by
  rw [cleanCacheLocked_eq]
  split <;> rfl

theorem cleanCacheLocked_stays_iff {k : ℕ} (hk : s.queue.stateOf k = some .requested) :
    (s.cleanCacheLocked link).2.queue.stateOf k = some .requested ↔ ¬ s.CanClean link := by
  rw [cleanCacheLocked_eq]
  unfold CanClean
  split
  · rename_i hclean
    exact iff_of_false (s.queue.not_requested_cleanCache k) (not_not.mpr hclean)
  · rename_i hclean
    exact iff_of_true hk hclean

theorem mLockedBuffer_requestBufferLocked (config : BufferRequestConfig) (a : Allocation) :
    (s.requestBufferLocked link config a).2.mLockedBuffer = s.mLockedBuffer := by
  unfold requestBufferLocked requestFailed
  dsimp only
  split
  · split
    · split <;> exact mLockedBuffer_cleanCacheLocked link _
    · split <;> rfl
  · exact (addCacheLocked_same link _ _).mLockedBuffer

theorem queue_requestBufferLocked {config : BufferRequestConfig} {a : Allocation}
    {reply : RequestReply} {p : BufferQueueProducer}
    (h : s.producer.requestBuffer link.callingPid config a = (reply, p)) :
    (reply.ret = .noConsumer → (s.requestBufferLocked link config a).2.queue =
        ({ s with producer := p }.cleanCacheLocked link).2.queue) ∧
      (reply.ret ≠ .noConsumer → (s.requestBufferLocked link config a).2.queue = p.bufferQueue) := by
  unfold requestBufferLocked
  rw [h]
  dsimp only
  constructor
  · intro hret
    rw [if_pos (by rw [hret]; decide), requestFailed_queue, if_pos hret]
  · intro hret
    split
    · rw [requestFailed_queue, if_neg hret]
      rfl
    · exact (addCacheLocked_same link _ _).queue

def RequestCleans (link : Link) (s : ProducerSurface) : Prop :=
  (s.producer.connect link.callingPid).1 = .ok ∧ link.callingPid ≠ 0 ∧
    s.queue.requestBufferCheckStatus = .noConsumer

instance (link : Link) (s : ProducerSurface) : Decidable (s.RequestCleans link) :=
  inferInstanceAs (Decidable (_ ∧ _ ∧ _))

theorem requestBufferLocked_tracks_iff (hagrees : s.queue.Agrees)
    (hlocked : s.mLockedBuffer = some locked)
    (hk : s.queue.stateOf locked.seqNum = some .requested) (config : BufferRequestConfig)
    {a : Allocation} (hfresh : s.queue.bufferQueueCache.find a.sequence = none) :
    (s.requestBufferLocked link config a).2.Tracks locked ↔ ¬ s.RequestCleans link := by
  rw [tracks_of_locked ((mLockedBuffer_requestBufferLocked config a).trans hlocked)]
  by_cases hconnect : (s.producer.connect link.callingPid).1 = .ok
  · have hrequest := BufferQueueProducer.requestBuffer_of_connect hconnect config a
    rw [BufferQueueProducer.connect_of_ok hconnect] at hrequest
    obtain ⟨hcleaned, hkept⟩ := queue_requestBufferLocked hrequest
    have hagrees' : (s.producer.setConnectedPidLocked link.callingPid).bufferQueue.Agrees := hagrees
    have hnoConsumer := BufferQueue.requestBuffer_noConsumer_iff hagrees' config a
    have hstays := BufferQueue.requestBuffer_stays hagrees' config hfresh hk
    by_cases hstatus : s.queue.requestBufferCheckStatus = .noConsumer
    · rw [hcleaned (hnoConsumer.mpr hstatus)]
      refine (cleanCacheLocked_stays_iff ?_).trans (not_congr ?_)
      · exact hstays
      · unfold CanClean RequestCleans
        rw [BufferQueueProducer.checkConnectLocked_ok]
        simp [hconnect, hstatus, BufferQueueProducer.setConnectedPidLocked]
    · rw [hkept (hnoConsumer.not.mpr hstatus)]
      exact iff_of_true hstays fun h => hstatus h.2.2
  · have hret : (s.producer.connect link.callingPid).1 ≠ .noConsumer := by
      unfold BufferQueueProducer.connect
      split_ifs <;> exact nofun
    rw [(queue_requestBufferLocked (BufferQueueProducer.requestBuffer_of_error hconnect config a)).2 hret]
    exact iff_of_true hk fun h => hconnect h.1

def SendsFlush (s : ProducerSurface) (bedata : Option ExtraData) : Prop :=
  bedata.isSome ∧ s.producer.isDisconnectStrictly = false

instance (s : ProducerSurface) (bedata : Option ExtraData) : Decidable (s.SendsFlush bedata) :=
  inferInstanceAs (Decidable (_ ∧ _))

theorem flushBuffer_of_unsent {f : FlushArgs} (h : ¬ s.SendsFlush f.bedata) :
    (s.flushBuffer link f).1 ≠ .ok ∧ (s.flushBuffer link f).2 = s := by
  unfold flushBuffer
  split
  · exact ⟨nofun, rfl⟩
  · rename_i hbedata
    have hstrict : s.producer.isDisconnectStrictly = true := by
      by_contra hstrict
      exact h ⟨by simpa [Option.isSome_iff_ne_none] using hbedata, by simpa using hstrict⟩
    unfold BufferQueueProducer.flushBuffer
    rw [if_pos hstrict]
    exact ⟨nofun, rfl⟩

theorem flushBuffer_of_sent {f : FlushArgs} (h : s.SendsFlush f.bedata) {ret : GSError}
    {q : BufferQueue}
    (hflush : s.queue.flushBuffer f.sequence f.bedata f.fence f.config f.env = (ret, q)) :
    s.flushBuffer link f =
      (ret, if ret = .noConsumer then ((s.withQueue q).cleanCacheLocked link).2
        else s.withQueue q) := by
  have hsent : s.producer.flushBuffer f = (ret, s.producer.withQueue q) := by
    unfold BufferQueueProducer.flushBuffer
    rw [if_neg (by simp [h.2])]
    exact congrArg (Prod.map id s.producer.withQueue) hflush
  unfold flushBuffer
  rw [if_neg (by simpa [Option.isSome_iff_ne_none] using h.1), hsent]
  rfl

theorem flushBuffer_of_invalid {f : FlushArgs} (h : s.SendsFlush f.bedata)
    (hvalid : s.queue.isValidStatus = false) :
    s.flushBuffer link f = (.noConsumer, (s.cleanCacheLocked link).2) := by
  have hflush : s.queue.flushBuffer f.sequence f.bedata f.fence f.config f.env =
      (.noConsumer, s.queue) := by
    unfold BufferQueue.flushBuffer
    rw [if_pos (by simp [hvalid])]
  rw [flushBuffer_of_sent h hflush]
  rfl

theorem mLockedBuffer_flushBuffer (f : FlushArgs) :
    (s.flushBuffer link f).2.mLockedBuffer = s.mLockedBuffer := by
  by_cases h : s.SendsFlush f.bedata
  · rw [flushBuffer_of_sent h Prod.mk.eta.symm]
    dsimp only
    split
    · exact mLockedBuffer_cleanCacheLocked link _
    · rfl
  · rw [(flushBuffer_of_unsent h).2]

/-- The flush takes the buffer of this number away from the producer, or empties the queue. -/
def FlushTakes (link : Link) (s : ProducerSurface) (k : ℕ) (f : FlushArgs) : Prop :=
  s.SendsFlush f.bedata ∧
    if s.queue.isValidStatus then f.sequence = k ∧ s.queue.Flushes k f.config f.env
    else s.CanClean link

instance (link : Link) (s : ProducerSurface) (k : ℕ) (f : FlushArgs) :
    Decidable (s.FlushTakes link k f) := inferInstanceAs (Decidable (_ ∧ _))

theorem flushBuffer_stays_iff {k : ℕ} (hk : s.queue.stateOf k = some .requested) {f : FlushArgs}
    (henv : f.env.flushCache ≠ .noConsumer) :
    (s.flushBuffer link f).2.queue.stateOf k = some .requested ↔ ¬ s.FlushTakes link k f := by
  unfold FlushTakes
  by_cases h : s.SendsFlush f.bedata
  · cases hvalid : s.queue.isValidStatus with
    | false =>
      rw [flushBuffer_of_invalid h hvalid, cleanCacheLocked_stays_iff hk]
      simp [h]
    | true =>
      rw [flushBuffer_of_sent h Prod.mk.eta.symm]
      dsimp only
      rw [if_neg (BufferQueue.flushBuffer_ret hvalid f henv)]
      refine (BufferQueue.flushBuffer_stays_iff hvalid hk h.1).trans ?_
      simp [h]
  · rw [(flushBuffer_of_unsent h).2]
    exact iff_of_true hk fun hflush => h hflush.1

theorem cancelBuffer_tracks_iff (hlocked : s.mLockedBuffer = some locked)
    (hk : s.queue.stateOf locked.seqNum = some .requested) (sequence : ℕ)
    (bedata : Option ExtraData) :
    (s.cancelBuffer sequence bedata).2.Tracks locked ↔
      ¬ (bedata.isSome ∧ sequence ≠ locked.seqNum ∧
        (s.queue.stateOf sequence = some .requested ∨ s.queue.stateOf sequence = some .attached)) := by
  have htakesBack := BufferQueue.cancelBufferLocked_takesBack s.queue sequence bedata
  have hret := BufferQueue.cancelBufferLocked_ret s.queue sequence bedata
  have hrefused (h : (s.queue.cancelBufferLocked sequence bedata).1 ≠ .ok) :
      sequence ≠ locked.seqNum := by
    rintro rfl
    exact h (hret.mpr (.inl hk))
  unfold cancelBuffer
  cases bedata with
  | none => simp [tracks_of_locked hlocked, hk]
  | some bedata =>
    rw [if_neg (by simp)]
    dsimp only
    by_cases hok : (s.queue.cancelBufferLocked sequence (some bedata)).1 = .ok
    · rw [if_pos hok, tracks_of_unlocked rfl]
      by_cases hne : sequence = locked.seqNum
      · subst hne
        refine iff_of_true ?_ fun h => h.2.1 rfl
        change (s.queue.cancelBufferLocked _ _).2.stateOf _ ≠ _
        rw [htakesBack.back hk]
        exact nofun
      · refine iff_of_false (not_not.mpr ?_) (not_not.mpr ⟨rfl, hne, hret.mp hok⟩)
        exact (htakesBack.others _ (Ne.symm hne)).trans hk
    · rw [if_neg hok]
      refine iff_of_true ((tracks_of_locked ?_).mpr ?_) fun h => hok (hret.mpr h.2.2)
      · exact hlocked
      · exact (htakesBack.others _ (hrefused hok).symm).trans hk

/-- The queue takes the locked buffer back, or is emptied, and the unlock fails. -/
def UnlockFails (link : Link) (s : ProducerSurface) (env : UnlockEnv) : Prop :=
  s.SendsFlush env.bedata ∧
    if s.queue.isValidStatus then
      s.queue.listenerRegistered = false ∧ BufferQueue.checkFlushConfig
        ⟨s.unlockDamages, env.timestamp, env.desiredPresentTimestamp⟩ = .ok
    else s.CanClean link

instance (link : Link) (s : ProducerSurface) (env : UnlockEnv) : Decidable (s.UnlockFails link env) :=
  inferInstanceAs (Decidable (_ ∧ _))

def unlockFlush (s : ProducerSurface) (sequence : ℕ) (env : UnlockEnv) : FlushArgs :=
  ⟨sequence, env.bedata, invalidFence,
    ⟨s.unlockDamages, env.timestamp, env.desiredPresentTimestamp⟩, env.flush⟩

theorem unlock_eq (hlocked : s.mLockedBuffer = some locked) (env : UnlockEnv) :
    s.producerSurfaceUnlockAndFlushBuffer link env =
      if (s.flushBuffer link (s.unlockFlush locked.seqNum env)).1 ≠ .ok then
        s.flushBuffer link (s.unlockFlush locked.seqNum env)
      else
        (.ok, { (s.flushBuffer link (s.unlockFlush locked.seqNum env)).2 with
          mLockedBuffer := none
          region :=
            { (s.flushBuffer link (s.unlockFlush locked.seqNum env)).2.region with
              rects := none } }) := by
  unfold producerSurfaceUnlockAndFlushBuffer
  rw [hlocked]
  rfl

theorem unlock_tracks (hlocked : s.mLockedBuffer = some locked) (env : UnlockEnv) :
    (s.producerSurfaceUnlockAndFlushBuffer link env).2.Tracks locked ↔
      ((s.flushBuffer link (s.unlockFlush locked.seqNum env)).1 = .ok ↔
        (s.flushBuffer link (s.unlockFlush locked.seqNum env)).2.queue.stateOf locked.seqNum ≠
          some .requested) := by
  have hstill : (s.flushBuffer link (s.unlockFlush locked.seqNum env)).2.mLockedBuffer =
      some locked := (mLockedBuffer_flushBuffer _).trans hlocked
  rw [unlock_eq hlocked]
  generalize s.flushBuffer link (s.unlockFlush locked.seqNum env) = r at hstill ⊢
  by_cases hret : r.1 = .ok
  · rw [if_neg (not_not.mpr hret), tracks_of_unlocked rfl]
    simp only [hret, true_iff]
    exact Iff.rfl
  · rw [if_pos hret, tracks_of_locked hstill]
    simp [hret]

theorem flushBuffer_ok_iff {f : FlushArgs} (hk : s.queue.stateOf f.sequence = some .requested) :
    (s.flushBuffer link f).1 = .ok ↔ s.SendsFlush f.bedata ∧ s.queue.isValidStatus = true ∧
      s.queue.listenerRegistered = true ∧ s.queue.Flushes f.sequence f.config f.env := by
  by_cases h : s.SendsFlush f.bedata
  · cases hvalid : s.queue.isValidStatus with
    | false =>
      rw [flushBuffer_of_invalid h hvalid]
      exact iff_of_false nofun fun h => Bool.false_ne_true h.2.1
    | true =>
      rw [flushBuffer_of_sent h Prod.mk.eta.symm, BufferQueue.flushBuffer_ok_iff hvalid hk h.1]
      simp [h]
  · exact iff_of_false (flushBuffer_of_unsent h).1 fun hflush => h hflush.1

theorem unlock_tracks_iff (hlocked : s.mLockedBuffer = some locked)
    (hk : s.queue.stateOf locked.seqNum = some .requested) {env : UnlockEnv}
    (henv : env.flush.flushCache ≠ .noConsumer) :
    (s.producerSurfaceUnlockAndFlushBuffer link env).2.Tracks locked ↔ ¬ s.UnlockFails link env := by
  have hok : (s.flushBuffer link (s.unlockFlush locked.seqNum env)).1 = .ok ↔ _ :=
    flushBuffer_ok_iff hk
  have hstays : (s.flushBuffer link (s.unlockFlush locked.seqNum env)).2.queue.stateOf
      locked.seqNum = some .requested ↔ _ := flushBuffer_stays_iff hk henv
  rw [unlock_tracks hlocked, hok, ne_eq, hstays, not_not]
  unfold FlushTakes UnlockFails
  by_cases h : s.SendsFlush env.bedata
  · have h' : s.SendsFlush (s.unlockFlush locked.seqNum env).bedata := h
    cases hvalid : s.queue.isValidStatus with
    | false => simp [h, h']
    | true =>
      simp only [h, h', true_and, if_true]
      cases hlistener : s.queue.listenerRegistered with
      | true => simp [unlockFlush]
      | false =>
        simp only [Bool.false_eq_true, false_and, false_iff, true_and]
        exact not_congr ((and_iff_right rfl).trans
          (BufferQueue.flushes_iff_of_unregistered hlistener))
  · have h' : ¬ s.SendsFlush (s.unlockFlush locked.seqNum env).bedata := h
    simp [h, h']

theorem mLockedBuffer_cancelBuffer (sequence : ℕ) (bedata : Option ExtraData) :
    (s.cancelBuffer sequence bedata).2.mLockedBuffer = s.mLockedBuffer ∨
      (s.cancelBuffer sequence bedata).2.mLockedBuffer = none := by
  unfold cancelBuffer
  split
  · exact .inl rfl
  · dsimp only
    split
    · exact .inr rfl
    · exact .inl rfl

theorem mLockedBuffer_unlock (env : UnlockEnv) :
    (s.producerSurfaceUnlockAndFlushBuffer link env).2.mLockedBuffer = s.mLockedBuffer ∨
      (s.producerSurfaceUnlockAndFlushBuffer link env).2.mLockedBuffer = none := by
  cases hlocked : s.mLockedBuffer with
  | none =>
    unfold producerSurfaceUnlockAndFlushBuffer
    rw [hlocked]
    exact .inl hlocked
  | some locked =>
    rw [unlock_eq hlocked]
    split
    · exact .inl ((mLockedBuffer_flushBuffer _).trans hlocked)
    · exact .inr rfl

theorem lockRequested_cases (hlocked : s.mLockedBuffer = none) (buffer : BufferRef)
    (fence : SyncFence) (region : Region) {env : LockEnv} (hcopied : env.copied = true) :
    ((s.lockRequested buffer fence region env).1.ret ≠ .ok ∧
        (s.lockRequested buffer fence region env).2.mLockedBuffer = none) ∨
      s.lockRequested buffer fence region env =
        ({ ret := .ok, buffers := [some buffer], fences := [some fence] }, s.lock buffer region) := by
  unfold lockRequested
  by_cases hmap : env.map = .ok
  · rw [if_neg (not_not.mpr hmap)]
    refine .inr ?_
    dsimp only
    rw [if_neg (by simp [hcopied])]
  · rw [if_pos hmap]
    refine .inl ⟨hmap, ?_⟩
    exact (mLockedBuffer_cancelBuffer buffer.seqNum env.bedata).elim (·.trans hlocked) id

theorem lock_of_locked (link : Link) (hlocked : s.mLockedBuffer = some locked)
    (config : BufferRequestConfig) (region : Region) (env : LockEnv) :
    s.producerSurfaceLockBuffer link config region env = ({ ret := .invalidOperating }, s) := by
  unfold producerSurfaceLockBuffer
  rw [if_pos (by simp [hlocked])]

theorem lock_cases (hkeyed : s.Keyed) (hlocked : s.mLockedBuffer = none)
    (config : BufferRequestConfig) (region : Region) {env : LockEnv} (hcopied : env.copied = true)
    (hfault : (s.producerSurfaceLockBuffer link config region env).2.fault = false) :
    ((s.producerSurfaceLockBuffer link config region env).1.ret ≠ .ok ∧
        (s.producerSurfaceLockBuffer link config region env).2.mLockedBuffer = none) ∨
      ∃ buffer, (s.producerSurfaceLockBuffer link config region env).1.ret = .ok ∧
        (s.producerSurfaceLockBuffer link config region env).1.buffers = [some buffer] ∧
        (s.producerSurfaceLockBuffer link config region env).2.mLockedBuffer = some buffer ∧
        (s.producerSurfaceLockBuffer link config region env).2.queue.stateOf buffer.seqNum =
          some .requested := by
  have hunlocked : (s.requestBufferLocked link { config with
      usage := config.usage ||| (bufferUsageCpuRead ||| bufferUsageCpuWrite) }
      env.allocation).2.mLockedBuffer = none :=
    (mLockedBuffer_requestBufferLocked _ _).trans hlocked
  have hlent (buffer : BufferRef) : (s.requestBufferLocked link { config with
      usage := config.usage ||| (bufferUsageCpuRead ||| bufferUsageCpuWrite) }
      env.allocation).1.buffers = [some buffer] → _ :=
    requested_of_requestBufferLocked hkeyed
  unfold producerSurfaceLockBuffer at hfault ⊢
  rw [if_neg (by simp [hlocked])] at hfault ⊢
  dsimp only at hfault ⊢
  generalize s.requestBufferLocked link { config with usage := config.usage |||
    (bufferUsageCpuRead ||| bufferUsageCpuWrite) } env.allocation = r at hunlocked hlent hfault ⊢
  obtain ⟨⟨ret, buffers, fences, cleanedSeqNums⟩, s₁⟩ := r
  dsimp only at hunlocked hlent hfault ⊢
  by_cases hret : ret = .ok
  · rw [if_neg (not_not.mpr hret)] at hfault ⊢
    split at hfault
    · rename_i buffer fence
      obtain ⟨e, he, hs⟩ := hlent buffer rfl
      rcases lockRequested_cases hunlocked buffer fence region hcopied with hfails | hlock
      · exact .inl hfails
      · rw [hlock]
        exact .inr ⟨buffer, rfl, rfl, rfl, Option.map_eq_some_iff.mpr ⟨e, he, hs⟩⟩
    · cases hfault
  · rw [if_pos hret]
    exact .inl ⟨hret, hunlocked⟩

end ProducerSurface

end GraphicSurface
