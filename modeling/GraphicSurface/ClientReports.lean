import GraphicSurface.FailedFlush
import GraphicSurface.ListenerHandOuts
import GraphicSurface.ProducerSurface

/-! What a surface returns for an attach or a detach, against what the call has done to the queue.
The queue decides first; then the surface looks the number up in its own cache. -/

namespace GraphicSurface

open Runs

namespace BufferQueue

def TakenIn (q q' : BufferQueue) (k : ℕ) : Prop :=
  q.bufferQueueCache.find k = none ∧ q'.stateOf k = some .requested

def TakenAsFrame (q q' : BufferQueue) (k : ℕ) : Prop :=
  q.bufferQueueCache.find k = none ∧ q'.stateOf k = some .flushed ∧ k ∈ q'.dirtyList

def LetGo (q q' : BufferQueue) (k : ℕ) : Prop :=
  (q.bufferQueueCache.find k).isSome ∧ q'.bufferQueueCache.find k = none

def HasPlaceFor (q : BufferQueue) (k : ℕ) : Prop :=
  q.getUsedSize < q.bufferQueueSize ∧ q.bufferQueueCache.find k = none

/-- What a flush checks besides the buffer; `usage` is the one that the buffer was requested with. -/
def FlushPasses (q : BufferQueue) (usage : ℕ) (config : BufferFlushConfigWithDamages)
    (env : FlushEnv) : Prop :=
  q.isValidStatus ∧ q.listenerRegistered ∧ checkFlushConfig config = .ok ∧
    ¬ (usage &&& bufferUsageCpuWrite ≠ 0 ∧ env.flushCache ≠ .ok)

instance (q : BufferQueue) (k : ℕ) : Decidable (q.HasPlaceFor k) :=
  inferInstanceAs (Decidable (_ ∧ _))

instance (q : BufferQueue) (usage : ℕ) (config : BufferFlushConfigWithDamages) (env : FlushEnv) :
    Decidable (q.FlushPasses usage config env) :=
  inferInstanceAs (Decidable (_ ∧ _ ∧ _ ∧ ¬ _))

variable {q : BufferQueue} {buffer : SurfaceBuffer} {k : ℕ} {bedata : ExtraData}
  {fence : SyncFence} {config : BufferFlushConfigWithDamages} {env : FlushEnv}

theorem attachForProducer_accepted (h : q.HasPlaceFor buffer.seqNum) :
    q.attachBufferToQueueLocked buffer .producerInvoker = (.ok, q.attachedForFlush buffer) := by
  unfold attachBufferToQueueLocked
  rw [if_neg (by simp), if_neg (Nat.not_le.mpr h.1), if_neg (by simp [h.2])]
  rfl

theorem attachForProducer_refused (h : ¬ q.HasPlaceFor buffer.seqNum) :
    ∃ ret, ret ≠ .ok ∧ q.attachBufferToQueueLocked buffer .producerInvoker = (ret, q) := by
  unfold attachBufferToQueueLocked
  rw [if_neg (by simp)]
  by_cases hfull : q.bufferQueueSize ≤ q.getUsedSize
  · exact ⟨_, by decide, if_pos hfull⟩
  · rw [if_neg hfull]
    have hcached : (q.bufferQueueCache.find buffer.seqNum).isSome = true := by
      rw [Option.isSome_iff_ne_none]
      exact fun hnone => h ⟨Nat.lt_of_not_le hfull, hnone⟩
    exact ⟨_, by decide, if_pos hcached⟩

theorem takenIn_attachedForFlush (h : q.HasPlaceFor buffer.seqNum) :
    TakenIn q (q.attachedForFlush buffer) buffer.seqNum := by
  refine ⟨h.2, ?_⟩
  rw [stateOf, find_attachedForFlush, if_pos rfl]
  rfl

theorem not_takenIn_self : ¬ TakenIn q q k := by
  rintro ⟨habsent, hrequested⟩
  simp [stateOf, habsent] at hrequested

theorem detachForProducer_accepted (h : q.stateOf k = some .requested) :
    q.detachBufferFromQueue k .producerInvoker false = (.ok, q.eraseForRS k) := by
  obtain ⟨e, he, hstate⟩ := Option.map_eq_some_iff.mp h
  have hcheck : q.detachBufferCheck k .producerInvoker = .ok := by
    rw [detachBufferCheck, he]
    exact if_neg (not_not.mpr hstate)
  unfold detachBufferFromQueue detachBufferFromQueueLocked
  rw [if_neg (not_not.mpr hcheck)]

theorem detachForProducer_refused (h : q.stateOf k ≠ some .requested) :
    ∃ ret, ret ≠ .ok ∧ q.detachBufferFromQueue k .producerInvoker false = (ret, q) := by
  have hcheck : q.detachBufferCheck k .producerInvoker ≠ .ok := by
    unfold detachBufferCheck
    cases he : q.bufferQueueCache.find k with
    | none => decide
    | some e =>
      have hstate : e.state ≠ .requested := fun hstate => h (by rw [stateOf, he, ← hstate]; rfl)
      dsimp only
      rw [if_pos hstate]
      decide
  unfold detachBufferFromQueue detachBufferFromQueueLocked
  exact ⟨_, hcheck, if_pos hcheck⟩

theorem letGo_eraseForRS (h : q.stateOf k = some .requested) : LetGo q (q.eraseForRS k) k := by
  obtain ⟨e, he, -⟩ := Option.map_eq_some_iff.mp h
  refine ⟨by rw [he]; rfl, ?_⟩
  unfold eraseForRS
  rw [BufferCache.find_erase, if_pos rfl]

theorem not_letGo_self : ¬ LetGo q q k := by
  rintro ⟨hcached, habsent⟩
  simp [habsent] at hcached

theorem flush_attached (q : BufferQueue) :
    (q.attachedForFlush buffer).flushBufferImprovedLocked buffer.seqNum (some bedata) fence config
        env =
      if !q.isValidStatus then (.noConsumer, q.attachedForFlush buffer)
      else if checkFlushConfig config ≠ .ok then
        (checkFlushConfig config, q.attachedForFlush buffer)
      else if !q.listenerRegistered then
        (.consumerUnregisterListener, q.attachedForFlush buffer)
      else if buffer.bufferRequestConfig.usage &&& bufferUsageCpuWrite ≠ 0 ∧ env.flushCache ≠ .ok then
        (env.flushCache, (q.attachedForFlush buffer).prepareFlush buffer.seqNum bedata)
      else
        (.ok, ((q.attachedForFlush buffer).prepareFlush buffer.seqNum bedata).commitFlush
          buffer.seqNum fence config env.now) := by
  have hfind : (q.attachedForFlush buffer).bufferQueueCache.find buffer.seqNum =
      some (q.attachToQueueElement buffer) := by
    rw [find_attachedForFlush, if_pos rfl]
  have hcheck : (q.attachedForFlush buffer).checkBufferQueueCacheLocked buffer.seqNum = .ok := by
    rw [checkBufferQueueCacheLocked, hfind]
    rfl
  have hdo : (q.attachedForFlush buffer).doFlushBufferLocked buffer.seqNum (some bedata) fence
      config env =
      if buffer.bufferRequestConfig.usage &&& bufferUsageCpuWrite ≠ 0 ∧ env.flushCache ≠ .ok then
        (env.flushCache, (q.attachedForFlush buffer).prepareFlush buffer.seqNum bedata)
      else
        (.ok, ((q.attachedForFlush buffer).prepareFlush buffer.seqNum bedata).commitFlush
          buffer.seqNum fence config env.now) := by
    unfold doFlushBufferLocked
    rw [hfind]
    rfl
  unfold flushBufferImprovedLocked
  rw [hdo, if_neg (not_not.mpr hcheck)]
  rfl

theorem attachAndFlush_accepted (bedata : ExtraData) (fence : SyncFence)
    (hplace : q.HasPlaceFor buffer.seqNum)
    (hpasses : q.FlushPasses buffer.bufferRequestConfig.usage config env) :
    q.attachAndFlushBuffer buffer (some bedata) fence config env =
      (.ok, ((q.attachedForFlush buffer).prepareFlush buffer.seqNum bedata).commitFlush
        buffer.seqNum fence config env.now) := by
  obtain ⟨hvalid, hlistener, hconfig, hcache⟩ := hpasses
  have hvalid : ¬ (!q.isValidStatus) = true := by simp [hvalid]
  have hlistener : ¬ (!q.listenerRegistered) = true := by simp [hlistener]
  unfold attachAndFlushBuffer
  rw [attachForProducer_accepted hplace]
  dsimp only
  rw [flush_attached, if_neg hvalid, if_neg (not_not.mpr hconfig), if_neg hlistener, if_neg hcache]
  rfl

theorem attachAndFlush_refused (bedata : ExtraData) (fence : SyncFence)
    (h : ¬ (q.HasPlaceFor buffer.seqNum ∧
      q.FlushPasses buffer.bufferRequestConfig.usage config env)) :
    ∃ ret q', ret ≠ .ok ∧
      q.attachAndFlushBuffer buffer (some bedata) fence config env = (ret, q') ∧
      q'.bufferQueueCache.find buffer.seqNum = q.bufferQueueCache.find buffer.seqNum := by
  by_cases hplace : q.HasPlaceFor buffer.seqNum
  · have hret : ((q.attachedForFlush buffer).flushBufferImprovedLocked buffer.seqNum (some bedata)
        fence config env).1 ≠ .ok := by
      intro hok
      rw [flush_attached] at hok
      split_ifs at hok with hvalid hconfig hlistener hcache
      · exact hconfig hok
      · exact hcache.2 hok
      · exact h ⟨hplace, by simpa using hvalid, by simpa using hlistener, not_not.mp hconfig, hcache⟩
    refine ⟨_, _, hret, attachAndFlush_of_attach (attachForProducer_accepted hplace) hret, ?_⟩
    rw [rollback, BufferCache.find_erase, if_pos rfl, hplace.2]
  · obtain ⟨ret, hret, hattach⟩ := attachForProducer_refused hplace
    refine ⟨ret, q, hret, ?_, rfl⟩
    unfold attachAndFlushBuffer
    rw [hattach]
    exact if_pos hret

theorem takenAsFrame_commitFlush (hplace : q.HasPlaceFor buffer.seqNum) (bedata : ExtraData)
    (fence : SyncFence) (config : BufferFlushConfigWithDamages) (now : Int) :
    TakenAsFrame q (((q.attachedForFlush buffer).prepareFlush buffer.seqNum bedata).commitFlush
      buffer.seqNum fence config now) buffer.seqNum := by
  refine ⟨hplace.2, ?_, List.mem_append_right _ (List.mem_singleton.mpr rfl)⟩
  simp [stateOf, commitFlush, prepareFlush, find_attachedForFlush]

theorem not_takenAsFrame {q' : BufferQueue}
    (h : q'.bufferQueueCache.find k = q.bufferQueueCache.find k ∨
      q'.bufferQueueCache.find k = none) : ¬ TakenAsFrame q q' k := by
  rintro ⟨habsent, hflushed, -⟩
  have hnone : q'.bufferQueueCache.find k = none := h.elim (fun h => h.trans habsent) id
  simp [stateOf, hnone] at hflushed

end BufferQueue

namespace ProducerSurface

variable {link : Link} {s : ProducerSurface} {buffer : SurfaceBuffer} {ret : GSError}
  {q : BufferQueue}

theorem attachBufferToQueue_of_ok
    (h : s.queue.attachBufferToQueueLocked (link.toServer s.crossings buffer) .producerInvoker =
      (.ok, q)) :
    (s.attachBufferToQueue link buffer).2.queue = q ∧
      ((s.attachBufferToQueue link buffer).1 = .ok ↔ buffer.seqNum ∉ s.bufferProducerCache) := by
  have hsent : ({ s with crossings := s.crossings + 1 } : ProducerSurface).queue.attachBufferToQueue
      (link.toServer s.crossings buffer) .producerInvoker = (.ok, q) := h
  unfold attachBufferToQueue
  dsimp only [send]
  rw [hsent]
  dsimp only
  rw [if_neg (not_not.mpr rfl), ← AList.lookup_isSome]
  split <;> rename_i hcached
  · exact ⟨rfl, iff_of_false nofun (not_not.mpr hcached)⟩
  · exact ⟨rfl, iff_of_true rfl hcached⟩

theorem attachBufferToQueue_of_error (hret : ret ≠ .ok)
    (h : s.queue.attachBufferToQueueLocked (link.toServer s.crossings buffer) .producerInvoker =
      (ret, q)) :
    (s.attachBufferToQueue link buffer).1 = ret ∧ (s.attachBufferToQueue link buffer).2.queue = q := by
  have hsent : ({ s with crossings := s.crossings + 1 } : ProducerSurface).queue.attachBufferToQueue
      (link.toServer s.crossings buffer) .producerInvoker = (ret, q) := h
  unfold attachBufferToQueue
  dsimp only [send]
  rw [hsent]
  dsimp only
  rw [if_pos hret]
  exact ⟨rfl, rfl⟩

theorem detachBufferFromQueue_of_ok
    (h : s.queue.detachBufferFromQueue buffer.seqNum .producerInvoker false = (.ok, q)) :
    (s.detachBufferFromQueue buffer).2.queue = q ∧
      ((s.detachBufferFromQueue buffer).1 = .ok ↔ ¬ buffer.seqNum ∉ s.bufferProducerCache) := by
  unfold detachBufferFromQueue
  rw [h]
  dsimp only
  rw [if_neg (not_not.mpr rfl), ← AList.lookup_eq_none, ← Option.isNone_iff_eq_none]
  split <;> rename_i hcached
  · exact ⟨rfl, iff_of_false nofun (not_not.mpr hcached)⟩
  · exact ⟨rfl, iff_of_true rfl hcached⟩

theorem detachBufferFromQueue_of_error (hret : ret ≠ .ok)
    (h : s.queue.detachBufferFromQueue buffer.seqNum .producerInvoker false = (ret, q)) :
    (s.detachBufferFromQueue buffer).1 = ret ∧ (s.detachBufferFromQueue buffer).2.queue = q := by
  unfold detachBufferFromQueue
  rw [h]
  dsimp only
  rw [if_pos hret]
  exact ⟨rfl, rfl⟩

section AttachAndFlush

variable {bedata : Option ExtraData} {fence : SyncFence} {config : BufferFlushConfigWithDamages}
  {env : FlushEnv}

theorem attachAndFlushBuffer_of_ok (hbedata : bedata.isSome)
    (hstrict : s.producer.isDisconnectStrictly = false)
    (h : s.queue.attachAndFlushBuffer (link.toServer s.crossings buffer) bedata fence config env =
      (.ok, q)) :
    (s.attachAndFlushBuffer link buffer bedata fence config env).2.queue = q ∧
      ((s.attachAndFlushBuffer link buffer bedata fence config env).1 = .ok ↔
        buffer.seqNum ∉ s.bufferProducerCache) := by
  have hsent : s.producer.attachAndFlushBuffer (link.toServer s.crossings buffer) bedata fence
      config env = (.ok, s.producer.withQueue q) := by
    unfold BufferQueueProducer.attachAndFlushBuffer
    rw [hstrict, if_neg Bool.false_ne_true]
    exact congrArg (Prod.map id s.producer.withQueue) h
  unfold attachAndFlushBuffer
  rw [if_neg (by simpa [Option.isSome_iff_ne_none] using hbedata)]
  dsimp only [send]
  rw [hsent]
  dsimp only
  rw [if_pos rfl, ← AList.lookup_isSome]
  split <;> rename_i hcached
  · exact ⟨rfl, iff_of_false nofun (not_not.mpr hcached)⟩
  · exact ⟨rfl, iff_of_true rfl hcached⟩

theorem attachAndFlushBuffer_of_error (hret : ret ≠ .ok) (hbedata : bedata.isSome)
    (hstrict : s.producer.isDisconnectStrictly = false)
    (h : s.queue.attachAndFlushBuffer (link.toServer s.crossings buffer) bedata fence config env =
      (ret, q)) :
    (s.attachAndFlushBuffer link buffer bedata fence config env).1 = ret ∧
      ((s.attachAndFlushBuffer link buffer bedata fence config env).2.queue = q ∨
        (s.attachAndFlushBuffer link buffer bedata fence config env).2.queue = q.cleanCache) := by
  have hsent : s.producer.attachAndFlushBuffer (link.toServer s.crossings buffer) bedata fence
      config env = (ret, s.producer.withQueue q) := by
    unfold BufferQueueProducer.attachAndFlushBuffer
    rw [hstrict, if_neg Bool.false_ne_true]
    exact congrArg (Prod.map id s.producer.withQueue) h
  unfold attachAndFlushBuffer
  rw [if_neg (by simpa [Option.isSome_iff_ne_none] using hbedata)]
  dsimp only [send]
  rw [hsent]
  dsimp only
  rw [if_neg hret]
  refine ⟨rfl, ?_⟩
  split
  · rw [cleanCacheLocked_eq]
    split
    · exact .inr rfl
    · exact .inl rfl
  · exact .inl rfl

theorem attachAndFlushBuffer_of_unsent (link : Link) (s : ProducerSurface) (buffer : SurfaceBuffer)
    (bedata : Option ExtraData) (fence : SyncFence) (config : BufferFlushConfigWithDamages)
    (env : FlushEnv) (h : ¬ (bedata.isSome ∧ s.producer.isDisconnectStrictly = false)) :
    (s.attachAndFlushBuffer link buffer bedata fence config env).1 ≠ .ok ∧
      (s.attachAndFlushBuffer link buffer bedata fence config env).2.queue = s.queue := by
  unfold attachAndFlushBuffer
  cases bedata with
  | none => exact ⟨nofun, rfl⟩
  | some bedata =>
    have hstrict : s.producer.isDisconnectStrictly = true := by simpa using h
    unfold BufferQueueProducer.attachAndFlushBuffer
    dsimp only [send]
    rw [if_pos hstrict]
    exact ⟨nofun, rfl⟩

end AttachAndFlush

end ProducerSurface

namespace SurfaceCall

open BufferQueue

/-- The call returns `GSERROR_OK` exactly when the queue has done what it asks for. -/
def Reports (link : Link) (s : ProducerSurface) (c : SurfaceCall) : Prop :=
  match c with
  | attachBufferToQueue buffer =>
    (c.run link s).1.ret = .ok ↔ TakenIn s.queue (c.next link s).queue buffer.seqNum
  | detachBufferFromQueue buffer =>
    (c.run link s).1.ret = .ok ↔ LetGo s.queue (c.next link s).queue buffer.seqNum
  | attachAndFlushBuffer buffer _ _ _ _ =>
    (c.run link s).1.ret = .ok ↔ TakenAsFrame s.queue (c.next link s).queue buffer.seqNum
  | _ => True

/-- The queue does what it is asked for, but the surface has the number of an attached buffer in its
cache, or does not have the one of a detached buffer there. -/
def Misjudged (link : Link) (s : ProducerSurface) : SurfaceCall → Prop
  | attachBufferToQueue buffer =>
    s.queue.HasPlaceFor buffer.seqNum ∧ buffer.seqNum ∈ s.bufferProducerCache
  | detachBufferFromQueue buffer =>
    s.queue.stateOf buffer.seqNum = some .requested ∧ buffer.seqNum ∉ s.bufferProducerCache
  | attachAndFlushBuffer buffer bedata _ config env =>
    (bedata.isSome ∧ s.producer.isDisconnectStrictly = false ∧ s.queue.HasPlaceFor buffer.seqNum ∧
      s.queue.FlushPasses (link.toServer s.crossings buffer).bufferRequestConfig.usage config env) ∧
      buffer.seqNum ∈ s.bufferProducerCache
  | _ => False

instance (link : Link) (s : ProducerSurface) (c : SurfaceCall) : Decidable (c.Misjudged link s) := by
  apply SurfaceCall.casesOn (motive := fun c => Decidable (c.Misjudged link s)) c <;> intros <;>
    unfold Misjudged <;> infer_instance

/-- The queue has its way first, and then only `bad` makes the answer an error. -/
theorem reports_iff {ret : GSError} {effect accepted bad : Prop}
    (haccepted : accepted → effect ∧ (ret = .ok ↔ ¬ bad))
    (hrefused : ¬ accepted → ret ≠ .ok ∧ ¬ effect) :
    (ret = .ok ↔ effect) ↔ ¬ (accepted ∧ bad) := by
  by_cases h : accepted
  · obtain ⟨heffect, hret⟩ := haccepted h
    rw [hret]
    simp [h, heffect]
  · obtain ⟨hret, heffect⟩ := hrefused h
    simp [h, hret, heffect]

variable {link : Link} {s : ProducerSurface} {buffer : SurfaceBuffer}

theorem attachBufferToQueue_reports_iff :
    (attachBufferToQueue buffer).Reports link s ↔ ¬ (attachBufferToQueue buffer).Misjudged link s := by
  have hnumber := link.toServer_seqNum s.crossings buffer
  refine reports_iff (fun hplace => ?_) fun hplace => ?_
  · rw [← hnumber] at hplace
    obtain ⟨hqueue, hret⟩ := s.attachBufferToQueue_of_ok (attachForProducer_accepted hplace)
    have htaken := takenIn_attachedForFlush hplace
    rw [hnumber, ← hqueue] at htaken
    exact ⟨htaken, hret⟩
  · rw [← hnumber] at hplace
    obtain ⟨ret, hret, hsent⟩ := attachForProducer_refused hplace
    obtain ⟨hsame, hqueue⟩ := s.attachBufferToQueue_of_error hret hsent
    refine ⟨hsame.trans_ne hret, ?_⟩
    change ¬ TakenIn _ (s.attachBufferToQueue link buffer).2.queue _
    rw [hqueue]
    exact not_takenIn_self

theorem detachBufferFromQueue_reports_iff :
    (detachBufferFromQueue buffer).Reports link s ↔
      ¬ (detachBufferFromQueue buffer).Misjudged link s := by
  refine reports_iff (fun hheld => ?_) fun hheld => ?_
  · obtain ⟨hqueue, hret⟩ := s.detachBufferFromQueue_of_ok (detachForProducer_accepted hheld)
    have hgone := letGo_eraseForRS hheld
    rw [← hqueue] at hgone
    exact ⟨hgone, hret⟩
  · obtain ⟨ret, hret, hsent⟩ := detachForProducer_refused hheld
    obtain ⟨hsame, hqueue⟩ := s.detachBufferFromQueue_of_error hret hsent
    refine ⟨hsame.trans_ne hret, ?_⟩
    change ¬ LetGo _ (s.detachBufferFromQueue buffer).2.queue _
    rw [hqueue]
    exact not_letGo_self

theorem attachAndFlushBuffer_reports_iff (bedata : Option ExtraData) (fence : SyncFence)
    (config : BufferFlushConfigWithDamages) (env : FlushEnv) :
    (attachAndFlushBuffer buffer bedata fence config env).Reports link s ↔
      ¬ (attachAndFlushBuffer buffer bedata fence config env).Misjudged link s := by
  have hnumber := link.toServer_seqNum s.crossings buffer
  refine reports_iff ?_ fun haccepted => ?_
  · rintro ⟨hbedata, hstrict, hplace, hpasses⟩
    obtain ⟨bedata, rfl⟩ := Option.isSome_iff_exists.mp hbedata
    rw [← hnumber] at hplace
    obtain ⟨hqueue, hret⟩ := s.attachAndFlushBuffer_of_ok rfl hstrict
      (attachAndFlush_accepted bedata fence hplace hpasses)
    have htaken := takenAsFrame_commitFlush hplace bedata fence config env.now
    rw [hnumber] at htaken hqueue
    rw [← hqueue] at htaken
    exact ⟨htaken, hret⟩
  · change (s.attachAndFlushBuffer link buffer bedata fence config env).1 ≠ .ok ∧
      ¬ TakenAsFrame _ (s.attachAndFlushBuffer link buffer bedata fence config env).2.queue _
    by_cases hsends : bedata.isSome ∧ s.producer.isDisconnectStrictly = false
    · obtain ⟨bedata, rfl⟩ := Option.isSome_iff_exists.mp hsends.1
      have hrefused : ¬ (s.queue.HasPlaceFor (link.toServer s.crossings buffer).seqNum ∧
          s.queue.FlushPasses (link.toServer s.crossings buffer).bufferRequestConfig.usage config
            env) := fun h => haccepted ⟨rfl, hsends.2, hnumber ▸ h.1, h.2⟩
      obtain ⟨ret, q, hret, hsent, hfind⟩ := attachAndFlush_refused bedata fence hrefused
      obtain ⟨hsame, hqueue⟩ := s.attachAndFlushBuffer_of_error hret rfl hsends.2 hsent
      refine ⟨hsame.trans_ne hret, not_takenAsFrame ?_⟩
      rcases hqueue with hqueue | hqueue
      · rw [hqueue, ← hnumber]
        exact .inl hfind
      · rw [hqueue]
        exact .inr (BufferCache.find_empty _)
    · obtain ⟨hret, hqueue⟩ :=
        s.attachAndFlushBuffer_of_unsent link buffer bedata fence config env hsends
      refine ⟨hret, not_takenAsFrame ?_⟩
      rw [hqueue]
      exact .inl rfl

end SurfaceCall

/-- A surface reports what its queue has done exactly when its own cache does not object. -/
theorem surface_reports_iff (link : Link) (s : ProducerSurface) (c : SurfaceCall) :
    c.Reports link s ↔ ¬ c.Misjudged link s := by
  cases c with
  | attachBufferToQueue buffer => exact SurfaceCall.attachBufferToQueue_reports_iff
  | detachBufferFromQueue buffer => exact SurfaceCall.detachBufferFromQueue_reports_iff
  | attachAndFlushBuffer buffer bedata fence config env =>
    exact SurfaceCall.attachAndFlushBuffer_reports_iff bedata fence config env
  | _ => exact iff_of_true trivial not_false

def detachedByConsumer : List SurfaceCall :=
  [.requestBuffer id sampleConfig ⟨1, 1, true, true⟩,
    .flushBuffer ⟨1, some ∅, invalidFence, ⟨[], 0, 0⟩, ⟨.ok, 0⟩⟩,
    .queue (.acquireBuffer 0),
    .queue (.detachBufferFromQueue 1 .consumerInvoker false)]

/-- Attached again by the producer, the buffer is in the queue and the surface says it is not. -/
theorem attach_misreported :
    ¬ ∀ (link : Link) (q : QueueSettings) (calls : List SurfaceCall) (s : ProducerSurface),
      Run (SurfaceStep link) (.start q none) calls s → ∀ c : SurfaceCall, c.Reports link s := by
  intro h
  have hlegal : Legal (SurfaceCall.next (Link.inProcess 1)) (SurfaceCall.Sane (Link.inProcess 1))
      (.start { listener := true } none) detachedByConsumer := by decide
  have hreports := h _ _ _ _ (.of_legal (fun _ _ hsane => ⟨hsane, rfl⟩) hlegal)
    (.attachBufferToQueue (sampleBuffer 1))
  exact SurfaceCall.attachBufferToQueue_reports_iff.mp hreports (by decide)

end GraphicSurface
