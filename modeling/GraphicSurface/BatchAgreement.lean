import GraphicSurface.ConsumerSurface
import GraphicSurface.RemoteBatch

/-! When a batch of requests over IPC ends as the local call does. The queue of a batch answers in
one of three ways, and for each of them the reply is followed to the client. -/

namespace GraphicSurface

open Parcels

/-! Extra data that is filled by setting entries is what the requests of a batch find in the cache,
and so it is what they answer with. -/

/-- The extra data of a buffer, if there is any, has been filled by setting entries. -/
def ExtraData.Filled (bedata : Option ExtraData) : Prop :=
  ∀ d, bedata = some d → ∃ sets, Runs.Run ExtraData.SetStep ∅ sets d

theorem ExtraData.filled_empty : ExtraData.Filled (some ∅) := by
  intro d hd
  obtain rfl := Option.some.inj hd
  exact ⟨[], .nil⟩

theorem BatchEntry.proper_of_filled {entry : BatchEntry} (h : ExtraData.Filled entry.bedata) :
    entry.Proper := by
  intro d hd
  obtain ⟨sets, run⟩ := h d hd
  exact ⟨ExtraData.entries_of_run run, lt_of_le_of_lt (ExtraData.size_of_run run) (by decide)⟩

namespace BufferQueue

def FilledExtraData (q : BufferQueue) : Prop :=
  ∀ k e, q.bufferQueueCache.find k = some e → ExtraData.Filled e.buffer.extraData

/-- A request leaves filled extra data in the cache and in its answer. -/
def FilledAnswer (r : RequestReply × BufferQueue) : Prop :=
  ExtraData.Filled r.1.bedata ∧ r.2.FilledExtraData

def FilledPoint (r : ReusePoint × BufferQueue) : Prop :=
  (∀ reply, r.1 = .done reply → ExtraData.Filled reply.bedata) ∧ r.2.FilledExtraData

variable {q q' : BufferQueue} {config : BufferRequestConfig} {k : ℕ}

theorem FilledExtraData.of_cache (h : q.FilledExtraData)
    (hcache : q'.bufferQueueCache = q.bufferQueueCache) : q'.FilledExtraData := by
  unfold FilledExtraData
  rw [hcache]
  exact h

theorem FilledExtraData.of_modify (h : q.FilledExtraData) {f : BufferElement → BufferElement}
    (hf : ∀ e, (f e).buffer.seqNum = e.buffer.seqNum)
    (hcache : q'.bufferQueueCache = q.bufferQueueCache.modify k f hf)
    (hkeeps : ∀ e, (f e).buffer.extraData = e.buffer.extraData) : q'.FilledExtraData := by
  intro j e he
  rw [hcache, BufferCache.find_modify] at he
  split_ifs at he
  · obtain ⟨e', he', rfl⟩ := Option.map_eq_some_iff.mp he
    rw [hkeeps]
    exact h j e' he'
  · exact h j e he

theorem FilledExtraData.of_erase (h : q.FilledExtraData)
    (hcache : q'.bufferQueueCache = q.bufferQueueCache.erase k) : q'.FilledExtraData := by
  intro j e he
  rw [hcache, BufferCache.find_erase] at he
  split_ifs at he
  exact h j e he

theorem FilledExtraData.of_put {e : BufferElement} (h : q.FilledExtraData)
    (hcache : q'.bufferQueueCache = q.bufferQueueCache.put e)
    (he : ExtraData.Filled e.buffer.extraData) : q'.FilledExtraData := by
  intro j e' he'
  rw [hcache, BufferCache.find_put] at he'
  split_ifs at he'
  · exact Option.some.inj he' ▸ he
  · exact h j e' he'

theorem popFromFreeListLocked_filled (h : q.FilledExtraData) (config : BufferRequestConfig) :
    (q.popFromFreeListLocked config).2.FilledExtraData :=
  popFromFreeListLocked_induct q config (fun _ => h.of_cache rfl) (h.of_cache rfl)
    fun _ _ => h.of_modify (BufferElement.recolour_seqNum _ _) rfl fun _ => rfl

theorem filled_error (h : q.FilledExtraData) (ret : GSError) :
    FilledAnswer (RequestReply.error ret, q) :=
  ⟨fun _ hd => (by cases hd), h⟩

theorem FilledAnswer.done {r : RequestReply × BufferQueue} (h : FilledAnswer r) :
    FilledPoint (.done r.1, r.2) :=
  ⟨fun _ hreply => ReusePoint.done.inj hreply ▸ h.1, h.2⟩

theorem FilledExtraData.alloc (h : q.FilledExtraData) {job : AllocJob} {point : ReusePoint}
    (hpoint : point = .setupNewBuffer job ∨ point = .reallocBuffer job) : FilledPoint (point, q) := by
  refine ⟨fun reply hreply => ?_, h⟩
  rcases hpoint with rfl | rfl <;> cases hreply

theorem deliverObject_filled (h : q.FilledExtraData) (sequence : ℕ) :
    (q.deliverObject sequence).FilledExtraData :=
  h.of_modify (k := sequence) BufferElement.setDelivered_seqNum rfl fun _ => rfl

theorem updateReuse_filled (h : q.FilledExtraData) (needRealloc : Bool) (sequence : ℕ) :
    FilledAnswer (q.updateReuseBufferState needRealloc sequence false) := by
  unfold updateReuseBufferState
  split
  · exact filled_error (h.of_cache rfl) _
  · rename_i ele hele
    have hmarked : (q.markRequested sequence).FilledExtraData :=
      h.of_modify (BufferElement.setState_seqNum _) rfl fun _ => rfl
    dsimp only
    split
    · exact ⟨h sequence ele hele, deliverObject_filled (hmarked.of_cache rfl) sequence⟩
    · exact ⟨h sequence ele hele, hmarked.of_cache rfl⟩

theorem deleteNoWait_filled (h : q.FilledExtraData) (sequence : ℕ) :
    (q.deleteBufferInCacheNoWaitForAllocatingState sequence).FilledExtraData := by
  unfold deleteBufferInCacheNoWaitForAllocatingState
  split
  · exact h
  · dsimp only
    split <;> exact h.of_erase rfl

theorem reuseBuffer_filled (h : q.FilledExtraData) (config : BufferRequestConfig)
    (buffer : SurfaceBuffer) : FilledPoint (q.reuseBuffer config buffer false) := by
  unfold reuseBuffer
  split
  · exact (filled_error h _).done
  · split
    · exact (updateReuse_filled h false buffer.seqNum).done
    · have hdeleted : (q.reallocBufferLocked config buffer.seqNum).2.FilledExtraData :=
        (deleteNoWait_filled h buffer.seqNum).of_cache rfl
      exact hdeleted.alloc (.inr rfl)

theorem requestPoint_filled (h : q.FilledExtraData) (config : BufferRequestConfig) :
    FilledPoint (q.requestPoint config) :=
  requestPoint_induction (S := fun _ q' => q'.FilledExtraData) (P := FilledPoint) h
    (fun _ config h => popFromFreeListLocked_filled h config)
    (fun q₁ h => h.of_cache q₁.popFromDirtyListLocked_cache)
    (fun _ _ _ _ h => h.of_modify (BufferElement.recolour_seqNum _ _) rfl fun _ => rfl)
    (fun _ _ h _ => (filled_error h _).done)
    (fun _ _ h => (h.of_cache rfl).alloc (.inl rfl))
    (fun _ config buffer h => reuseBuffer_filled h config buffer)

theorem allocBufferEnd_filled (h : q.FilledExtraData) (job : AllocJob) (a : Allocation) :
    (∀ buffer, (q.allocBufferEnd job a).1 = some buffer → ExtraData.Filled buffer.extraData) ∧
      (q.allocBufferEnd job a).2.FilledExtraData := by
  unfold allocBufferEnd
  dsimp only
  split
  · refine ⟨fun buffer hbuffer => ?_, h.of_put rfl ExtraData.filled_empty⟩
    exact Option.some.inj hbuffer ▸ ExtraData.filled_empty
  · exact ⟨fun buffer hbuffer => (by cases hbuffer), h.of_cache rfl⟩

theorem requestBuffer_filled (h : q.FilledExtraData) (config : BufferRequestConfig)
    (a : Allocation) : FilledAnswer (q.requestBuffer config a) := by
  obtain ⟨hdone, hqueue⟩ := requestPoint_filled h config
  rw [requestBuffer_eq]
  generalize q.requestPoint config = r at hdone hqueue
  obtain ⟨point, q₁⟩ := r
  unfold finishRequest
  cases point with
  | done reply => exact ⟨hdone reply rfl, hqueue⟩
  | setupNewBuffer job =>
    obtain ⟨hbuffer, hend⟩ := allocBufferEnd_filled hqueue job a
    dsimp only
    split
    · rename_i hnone
      rw [hnone] at hend
      exact filled_error hend _
    · rename_i buffer q₂ hsome
      rw [hsome] at hbuffer hend
      exact ⟨hbuffer buffer rfl, hend.of_cache rfl⟩
  | reallocBuffer job =>
    have hend := (allocBufferEnd_filled hqueue job a).2
    dsimp only
    split
    · rename_i hnone
      rw [hnone] at hend
      exact filled_error hend _
    · rename_i buffer q₂ hsome
      rw [hsome] at hend
      exact updateReuse_filled hend true buffer.seqNum

theorem requestBuffersLoop_filled (h : q.FilledExtraData) (config : BufferRequestConfig)
    (as : List Allocation) :
    (∀ reply ∈ (q.requestBuffersLoop config as).2.1, ExtraData.Filled reply.bedata) ∧
      (q.requestBuffersLoop config as).2.2.FilledExtraData := by
  induction as generalizing q with
  | nil => exact ⟨List.forall_mem_nil _, h⟩
  | cons a as ih =>
    obtain ⟨hreply, hqueue⟩ := requestBuffer_filled h config a
    unfold requestBuffersLoop
    dsimp only
    split_ifs
    · exact ⟨List.forall_mem_nil _, hqueue⟩
    · exact ⟨List.forall_mem_cons.mpr ⟨hreply, (ih hqueue).1⟩, (ih hqueue).2⟩

end BufferQueue

theorem requestEntries_filled {s : BufferQueueProducer} (h : s.bufferQueue.FilledExtraData)
    (callingPid : Int) (config : BufferRequestConfig) (as : List Allocation) :
    (s.requestEntries callingPid config as).2.bufferQueue.FilledExtraData := by
  unfold BufferQueueProducer.requestEntries
  by_cases hconnect : (s.connect callingPid).1 = .ok
  · have hqueue : (Channel.batchQueue s callingPid).FilledExtraData := h.of_cache rfl
    have hbatch : ((s.setConnectedPidLocked callingPid).bufferQueue.requestBuffers config
        as).2.2.FilledExtraData :=
      (BufferQueue.requestBuffersLoop_filled hqueue config as).2.of_cache rfl
    rw [BufferQueueProducer.connect_of_ok hconnect]
    exact hbatch
  · have hsame := BufferQueueProducer.connect_of_error hconnect
    generalize s.connect callingPid = connected at hconnect hsame ⊢
    obtain ⟨ret, s'⟩ := connected
    dsimp only at hconnect hsame ⊢
    rw [if_pos hconnect, hsame]
    exact h

/-! What the client makes of each of the answers. -/

section Failures

variable {P : Type} [Parcel P]

theorem readUsage_fails (config : BufferRequestConfig) (memory : Option BufferMemory) :
    (readUsage config memory : Coded RemoteError P _).FailsAs (·.ret ≠ GSError.ok.code) := by
  cases memory with
  | none => exact .pure _ _
  | some memory => exact (Coded.FailsAs.orFail (by decide) _).bind fun _ => .pure _ _

theorem readFence_fails {E : Type} (Q : E → Prop) : (readFence : Coded E P Int32).FailsAs Q := by
  intro p e p' h
  unfold readFence at h
  dsimp only at h
  split at h
  · split at h <;> cases (Prod.mk.inj h).1
  · split at h <;> cases (Prod.mk.inj h).1

theorem readGranted_fails (heap : Bool) (config : BufferRequestConfig) :
    (readGranted heap config : Coded RemoteError P Received).FailsAs (·.ret ≠ GSError.ok.code) := by
  refine (Coded.FailsAs.orFail (by decide) _).bind fun got => ?_
  refine (readUsage_fails config got.2).bind fun buffer => ?_
  refine (Coded.FailsAs.orFail (by decide) _).bind fun bedata => ?_
  refine (readFence_fails _).bind fun fence => ?_
  exact (Coded.FailsAs.orFail (by decide) _).bind fun _ => .pure _ _

theorem readBatchEntries_fails (heap : Bool) (config : BufferRequestConfig) (n : ℕ) :
    (readBatchEntries heap config n : Coded RemoteError P _).FailsAs (·.ret ≠ GSError.ok.code) := by
  induction n with
  | zero => exact .pure _ _
  | succ n ih => exact (readGranted_fails heap config).bind fun _ => ih.bind fun _ => .pure _ _

theorem readRefusal_fails {ret : Int32} (h : ret ≠ GSError.ok.code) :
    (readRefusal ret : Coded RemoteError P Received).FailsAs (·.ret ≠ GSError.ok.code) := by
  intro p e p' hrun
  unfold readRefusal at hrun
  split at hrun
  · obtain rfl := Except.error.inj (Prod.mk.inj hrun).1
    exact h
  · obtain rfl := Except.error.inj (Prod.mk.inj hrun).1
    exact h

theorem readBatchReply_fails (heap : Bool) (config : BufferRequestConfig) (count : ℕ) :
    (readBatchReply heap config count : Coded RemoteError P _).FailsAs (·.ret ≠ GSError.ok.code) := by
  refine (Coded.FailsAs.orFail (by decide) _).bind fun ret => ?_
  split
  · rename_i hret
    exact (readRefusal_fails hret.1).bind fun _ => .pure _ _
  · refine (Coded.FailsAs.orFail (by decide) _).bind fun num => ?_
    split_ifs
    · exact .fail (by decide)
    · exact .fail (by decide)
    · exact readBatchEntries_fails heap config num.toNat

end Failures

section Outcomes

variable {P F : Type} [Parcel P] {fifo : VectorFifo P F} {channel : Channel P} {count : ℕ}
  {config : BufferRequestConfig} {s : BufferQueueProducer} {callingPid : Int} {a : ℕ → Allocation}
  {reply : BatchReply}

theorem outcome_of_refused (hcarries : channel.Carries fifo count config reply) (hpos : 0 < count)
    (hmax : count ≤ surfaceMaxQueueSize) (hfits : config.Fits)
    (hgamut : fitsInt32 config.colorGamut) (htransform : fitsInt32 config.transform)
    (hreply : (s.requestEntries callingPid config.received ((List.range count).map a)).1 = reply)
    (hok : reply.ret ≠ .ok) (hbuffer : reply.ret ≠ .noBuffer)
    (hnone : ∀ entry ∈ reply.entries, entry.retval.buffer = none) :
    remoteOutcome count (channel.requestBuffers count config s callingPid a).1 =
        (reply.ret.code, List.replicate count BatchEntry.fresh.summary) ∧
      (channel.requestBuffers count config s callingPid a).2.1 = false := by
  rcases requestBuffers_eq hcarries hpos hmax hfits hgamut htransform s callingPid a hreply with
    ⟨p, r, hwrite, hsent, hresult, hfault⟩ | ⟨failure, p, hwrite, -, -⟩
  · obtain ⟨isConnected, hread⟩ := readBatchReply_refused hok hbuffer hwrite hsent config count
    rw [hresult, hread]
    exact ⟨rfl, hfault⟩
  · have hparcel : failure = .parcel :=
      writeBatchReply_failsWith (fun h => (h.elim hok hbuffer).elim) channel.reply failure p hwrite
    refine absurd ?_ (hcarries.written fun entry hentry b hb => ?_)
    · rw [hwrite, hparcel]
    · rw [hnone entry hentry] at hb
      cases hb

theorem fault_of_noBuffer (hcarries : channel.Carries fifo count config ⟨.noBuffer, [.refused]⟩)
    (hpos : 0 < count) (hmax : count ≤ surfaceMaxQueueSize) (hfits : config.Fits)
    (hgamut : fitsInt32 config.colorGamut) (htransform : fitsInt32 config.transform)
    (hreply : (s.requestEntries callingPid config.received ((List.range count).map a)).1 =
      ⟨.noBuffer, [.refused]⟩) :
    (channel.requestBuffers count config s callingPid a).2.1 = true := by
  rcases requestBuffers_eq hcarries hpos hmax hfits hgamut htransform s callingPid a hreply with
    ⟨p, r, hwrite, -, -, -⟩ | ⟨failure, p, hwrite, -, hfault⟩
  · exact absurd hwrite (writeBatchReply_noBuffer rfl rfl)
  · cases failure with
    | nullPointer => exact hfault
    | parcel =>
      refine absurd ?_ (hcarries.written fun entry hentry b hb => ?_)
      · rw [hwrite]
      · obtain rfl := List.mem_singleton.mp hentry
        cases hb

theorem outcome_of_served (hcarries : channel.Carries fifo count config reply) (hpos : 0 < count)
    (hmax : count ≤ surfaceMaxQueueSize) (hfits : config.Fits)
    (hgamut : fitsInt32 config.colorGamut) (htransform : fitsInt32 config.transform)
    (hreply : (s.requestEntries callingPid config.received ((List.range count).map a)).1 = reply)
    (hok : reply.ret = .ok) (hsome : 0 < reply.entries.length)
    (hcount : reply.entries.length ≤ count) (hproper : ∀ entry ∈ reply.entries, entry.Proper) :
    (remoteOutcome count (channel.requestBuffers count config s callingPid a).1 =
        (GSError.ok.code, reply.entries.map BatchEntry.summary) ∧
      (channel.requestBuffers count config s callingPid a).2.1 = false) ↔
        ∀ entry ∈ reply.entries, entry.Sendable channel.memory := by
  rcases requestBuffers_eq hcarries hpos hmax hfits hgamut htransform s callingPid a hreply with
    ⟨p, r, hwrite, hsent, hresult, hfault⟩ | ⟨failure, p, hwrite, hresult, -⟩
  · obtain ⟨hgot, hsendable⟩ := readBatchReply_served hcarries.plain hcarries.sound hproper hok
      hwrite hsent hsome hcount hmax config
    rw [hresult]
    refine ⟨fun h => ?_, fun h => ?_⟩
    · cases hread : (readBatchReply true config count r).1 with
      | ok received => exact hsendable received hread
      | error e =>
        rw [hread] at h
        exact absurd (Prod.mk.inj h.1).1
          (readBatchReply_fails true config count r e _ (Coded.eq_of_fst hread))
    · obtain ⟨received, hread, hsummary⟩ := hgot h
      rw [hread, remoteOutcome, hsummary]
      exact ⟨rfl, hfault⟩
  · rw [hresult]
    refine ⟨fun h => absurd (Prod.mk.inj h.1).1 (by decide), fun h => ?_⟩
    have hparcel : failure = .parcel :=
      writeBatchReply_failsWith (fun _ entry hentry => ⟨(h entry hentry).bedata, (h entry hentry).fence⟩)
        channel.reply failure p hwrite
    refine absurd ?_ (hcarries.written fun entry hentry => (h entry hentry).handle)
    rw [hwrite, hparcel]

end Outcomes

/-! The local call, by the answer to its first request. -/

section LocalCall

variable {s : BufferQueueProducer} {callingPid : Int} {config : BufferRequestConfig} {a : Allocation}
  {as : List Allocation}

theorem requestEntries_first_refused (hconnect : (s.connect callingPid).1 = .ok)
    (hfirst : ((Channel.batchQueue s callingPid).requestBuffer config a).1.ret ≠ .ok) :
    (s.requestEntries callingPid config (a :: as)).1 =
      ⟨((Channel.batchQueue s callingPid).requestBuffer config a).1.ret, [.refused]⟩ := by
  obtain ⟨hret, hreplies⟩ := @BufferQueue.requestBuffersLoop_of_refused _ config a as hfirst
  rw [requestEntries_of_connected hconnect, hret, hreplies]
  rfl

theorem requestEntries_first_granted (hconnect : (s.connect callingPid).1 = .ok)
    (hfirst : ((Channel.batchQueue s callingPid).requestBuffer config a).1.ret = .ok) :
    (s.requestEntries callingPid config (a :: as)).1 =
      ⟨.ok, ((Channel.batchQueue s callingPid).requestBuffersLoop config (a :: as)).2.1.map
        RequestReply.entry⟩ := by
  rw [requestEntries_of_connected hconnect, BatchReply.of, if_neg]
  rw [BufferQueue.requestBuffersLoop_of_granted hfirst]
  exact List.cons_ne_nil _ _

theorem requestEntries_received_refused (hconnect : (s.connect callingPid).1 = .ok)
    (hcheck : BufferQueue.checkRequestConfig config.received ≠ .ok) :
    (s.requestEntries callingPid config.received (a :: as)).1 = ⟨.internal, [.refused]⟩ := by
  have hret := BufferQueue.requestBuffer_of_check (q := Channel.batchQueue s callingPid) rfl hcheck a
  rw [requestEntries_first_refused hconnect (by rw [hret]; decide), hret]

theorem requestEntries_received_first_refused (hconnect : (s.connect callingPid).1 = .ok)
    (hcheck : BufferQueue.checkRequestConfig config.received = .ok)
    (hfirst : ((Channel.batchQueue s callingPid).requestBuffer config a).1.ret ≠ .ok) :
    (s.requestEntries callingPid config.received (a :: as)).1 =
      ⟨((Channel.batchQueue s callingPid).requestBuffer config a).1.ret, [.refused]⟩ := by
  obtain ⟨hret, hreplies⟩ := @BufferQueue.requestBuffersLoop_of_refused _ config a as hfirst
  obtain ⟨hsame, hstamp⟩ := (Channel.batchQueue s callingPid).requestBuffersLoop_withSource
    emptyRequestConfig.sourceType config (a :: as)
  rw [hreplies, List.map_nil, List.map_eq_nil_iff] at hstamp
  rw [requestEntries_of_connected hconnect, received_of_check hcheck, hsame, hstamp, hret]
  rfl

end LocalCall

section Agreement

variable {P F : Type} [Parcel P] {fifo : VectorFifo P F} {channel : Channel P} {count : ℕ}
  {config : BufferRequestConfig} {s : BufferQueueProducer} {callingPid : Int} {a : ℕ → Allocation}

theorem batchAgrees_internal
    (hremote : remoteOutcome count (channel.requestBuffers count config s callingPid a).1 =
        (GSError.internal.code, List.replicate count BatchEntry.fresh.summary) ∧
      (channel.requestBuffers count config s callingPid a).2.1 = false)
    (hlocal : (s.requestEntries callingPid config ((List.range count).map a)).1 =
      ⟨.internal, [.refused]⟩) :
    channel.BatchAgrees count config s callingPid a ↔ count = 1 := by
  unfold Channel.BatchAgrees
  rw [hremote.1, hremote.2, hlocal]
  constructor
  · rintro ⟨hsame, -⟩
    have hlength := congrArg List.length (Prod.mk.inj hsame).2
    rwa [List.length_replicate] at hlength
  · rintro rfl
    exact ⟨rfl, rfl⟩

theorem not_batchAgrees_of_ret (ret : GSError)
    (hremote : (remoteOutcome count (channel.requestBuffers count config s callingPid a).1).1 =
      ret.code)
    (hlocal : (s.requestEntries callingPid config ((List.range count).map a)).1.ret.code ≠ ret.code) :
    ¬ channel.BatchAgrees count config s callingPid a := by
  rintro ⟨hsame, -⟩
  rw [hsame] at hremote
  exact hlocal hremote

theorem batchAgrees_granted (hpos : 0 < count) (hmax : count ≤ surfaceMaxQueueSize)
    (hfits : config.Fits) (hgamut : fitsInt32 config.colorGamut)
    (htransform : fitsInt32 config.transform) (hfilled : s.bufferQueue.FilledExtraData)
    (hcarries : channel.Carries fifo count config
      (s.requestEntries callingPid config.received ((List.range count).map a)).1)
    (hconnect : (s.connect callingPid).1 = .ok)
    (hcheck : BufferQueue.checkRequestConfig config.received = .ok)
    {as : List Allocation} (has : (List.range count).map a = a 0 :: as)
    (hfirst : ((Channel.batchQueue s callingPid).requestBuffer config (a 0)).1.ret = .ok) :
    channel.BatchAgrees count config s callingPid a ↔
      channel.AllSendable (Channel.batchQueue s callingPid) config ((List.range count).map a) := by
  have hqueue : (Channel.batchQueue s callingPid).FilledExtraData := hfilled.of_cache rfl
  have hlocal : (s.requestEntries callingPid config ((List.range count).map a)).1 =
      ⟨.ok, ((Channel.batchQueue s callingPid).requestBuffersLoop config
        ((List.range count).map a)).2.1.map RequestReply.entry⟩ := by
    rw [has]
    exact requestEntries_first_granted hconnect hfirst
  have hsome : ((Channel.batchQueue s callingPid).requestBuffersLoop config
      ((List.range count).map a)).2.1 ≠ [] := by
    rw [has, BufferQueue.requestBuffersLoop_of_granted hfirst]
    exact List.cons_ne_nil _ _
  obtain ⟨-, hstamp⟩ := (Channel.batchQueue s callingPid).requestBuffersLoop_withSource
    emptyRequestConfig.sourceType config ((List.range count).map a)
  rw [← received_of_check hcheck] at hstamp
  have hproper := (BufferQueue.requestBuffersLoop_filled hqueue config.received
    ((List.range count).map a)).1
  have hlength := (Channel.batchQueue s callingPid).requestBuffersLoop_length config.received
    ((List.range count).map a)
  have hreply : (s.requestEntries callingPid config.received ((List.range count).map a)).1 = _ :=
    requestEntries_of_connected hconnect _
  rw [allSendable_iff]
  unfold Channel.BatchAgrees
  rw [hlocal, BatchReply.outcome, List.map_map]
  generalize (Channel.batchQueue s callingPid).requestBuffersLoop config
    ((List.range count).map a) = served at hsome hstamp ⊢
  generalize (Channel.batchQueue s callingPid).requestBuffersLoop config.received
    ((List.range count).map a) = received at hstamp hproper hlength hreply
  have hsome' : received.2.1 ≠ [] := by
    intro hnil
    rw [hnil, List.map_nil, eq_comm, List.map_eq_nil_iff] at hstamp
    exact hsome hstamp
  rw [BatchReply.of, if_neg hsome'] at hreply
  rw [hreply] at hcarries
  rw [List.length_map, List.length_range] at hlength
  have houtcome := outcome_of_served hcarries hpos hmax hfits hgamut htransform hreply rfl
    (by simpa using List.length_pos_iff.mpr hsome') (by simpa using hlength)
    (List.forall_mem_map.mpr fun reply hmem => BatchEntry.proper_of_filled (hproper reply hmem))
  rw [List.map_map, List.forall_mem_map, sendable_of_stamp hstamp] at houtcome
  rw [← houtcome]
  have hsummary := summaries_of_stamp hstamp
  rw [show received.2.1.map (BatchEntry.summary ∘ RequestReply.entry) =
    served.2.1.map (BatchEntry.summary ∘ RequestReply.entry) from hsummary]

/-- When a batch of requests over IPC ends as the local call does, and the stub goes through no null
pointer: when the caller is not let in; when it asks for one buffer and the queue refuses it, but
not for want of a buffer; or when the queue serves it with what can be sent. -/
theorem batch_over_ipc_agrees (channel : Channel P) (fifo : VectorFifo P F) (count : ℕ)
    (config : BufferRequestConfig) (s : BufferQueueProducer) (callingPid : Int) (a : ℕ → Allocation)
    (hpos : 0 < count) (hmax : count ≤ surfaceMaxQueueSize) (hfits : config.Fits)
    (hgamut : fitsInt32 config.colorGamut) (htransform : fitsInt32 config.transform)
    (hfilled : s.bufferQueue.FilledExtraData)
    (hcarries : channel.Carries fifo count config
      (s.requestEntries callingPid config.received ((List.range count).map a)).1) :
    channel.BatchAgrees count config s callingPid a ↔
      channel.BatchServed count config s callingPid a := by
  obtain ⟨n, rfl⟩ := Nat.exists_eq_succ_of_ne_zero (Nat.pos_iff_ne_zero.mp hpos)
  have hrange : (List.range (n + 1)).map a = a 0 :: (List.range n).map fun i => a (i + 1) := by
    rw [List.range_succ_eq_map, List.map_cons, List.map_map]
    rfl
  unfold Channel.BatchServed
  dsimp only
  by_cases hconnect : (s.connect callingPid).1 = .ok
  swap
  · -- the caller is not let in
    have hreply (config : BufferRequestConfig) :
        (s.requestEntries callingPid config ((List.range (n + 1)).map a)).1 =
          ⟨(s.connect callingPid).1, ((List.range (n + 1)).map a).map fun _ => .fresh⟩ :=
      requestEntries_of_refused hconnect _
    have hremote := outcome_of_refused hcarries hpos hmax hfits hgamut htransform rfl
      (by rw [hreply]; exact hconnect) (by rw [hreply]; exact s.connect_ret_ne_noBuffer callingPid)
      (by rw [hreply]; simp [BatchEntry.fresh, RequestBufferReturnValue.empty])
    refine iff_of_true ⟨?_, hremote.2⟩ (.inl hconnect)
    rw [hremote.1, hreply, hreply]
    simp [BatchReply.outcome, Function.comp_def]
  have hends := BufferQueue.requestBuffer_endsInBatch (q := Channel.batchQueue s callingPid) rfl
    config (a 0)
  rw [or_iff_right (not_not.mpr hconnect)]
  by_cases hreceived : BufferQueue.checkRequestConfig config.received = .ok
  · obtain ⟨hcheck, hne⟩ := checkRequestConfig_received.mp hreceived
    by_cases hfirst : ((Channel.batchQueue s callingPid).requestBuffer config (a 0)).1.ret = .ok
    · rw [batchAgrees_granted hpos hmax hfits hgamut htransform hfilled hcarries hconnect hreceived
        hrange hfirst]
      simp [hfirst, hne]
    · have hreply : (s.requestEntries callingPid config.received ((List.range (n + 1)).map a)).1 =
          ⟨((Channel.batchQueue s callingPid).requestBuffer config (a 0)).1.ret, [.refused]⟩ := by
        rw [hrange]
        exact requestEntries_received_first_refused hconnect hreceived hfirst
      have hlocal : (s.requestEntries callingPid config ((List.range (n + 1)).map a)).1 =
          ⟨((Channel.batchQueue s callingPid).requestBuffer config (a 0)).1.ret, [.refused]⟩ := by
        rw [hrange]
        exact requestEntries_first_refused hconnect hfirst
      rw [hreply] at hcarries
      rcases hends with hok | hbuffer | hinternal
      · exact absurd hok hfirst
      · rw [hbuffer] at hreply hcarries ⊢
        have hfault := fault_of_noBuffer hcarries hpos hmax hfits hgamut htransform hreply
        refine iff_of_false (fun h => ?_) (by simp)
        rw [h.2] at hfault
        cases hfault
      · rw [hinternal] at hreply hcarries hlocal ⊢
        have hremote := outcome_of_refused hcarries hpos hmax hfits hgamut htransform hreply
          (by simp) (by simp) (by simp [BatchEntry.refused, RequestBufferReturnValue.empty])
        rw [batchAgrees_internal hremote hlocal]
        simp
  · have hreply : (s.requestEntries callingPid config.received ((List.range (n + 1)).map a)).1 =
        ⟨.internal, [.refused]⟩ := by
      rw [hrange]
      exact requestEntries_received_refused hconnect hreceived
    rw [hreply] at hcarries
    have hremote := outcome_of_refused hcarries hpos hmax hfits hgamut htransform hreply
      (by simp) (by simp) (by simp [BatchEntry.refused, RequestBufferReturnValue.empty])
    by_cases hfirst : ((Channel.batchQueue s callingPid).requestBuffer config (a 0)).1.ret = .ok
    · have hlocal : (s.requestEntries callingPid config ((List.range (n + 1)).map a)).1.ret = .ok := by
        rw [hrange, requestEntries_first_granted hconnect hfirst]
      have hcheck : BufferQueue.checkRequestConfig config = .ok := by
        by_contra hcheck
        rw [BufferQueue.requestBuffer_of_check rfl hcheck] at hfirst
        cases hfirst
      have hgamut : config.colorGamut = 11 :=
        of_not_not fun hne => hreceived (checkRequestConfig_received.mpr ⟨hcheck, hne⟩)
      refine iff_of_false (not_batchAgrees_of_ret .internal (congrArg Prod.fst hremote.1) ?_)
        (by simp [hfirst, hgamut])
      rw [hlocal]
      decide
    · have hlocal : (s.requestEntries callingPid config ((List.range (n + 1)).map a)).1 =
          ⟨((Channel.batchQueue s callingPid).requestBuffer config (a 0)).1.ret, [.refused]⟩ := by
        rw [hrange]
        exact requestEntries_first_refused hconnect hfirst
      rcases hends with hok | hbuffer | hinternal
      · exact absurd hok hfirst
      · rw [hbuffer] at hlocal ⊢
        refine iff_of_false (not_batchAgrees_of_ret .internal
          (congrArg Prod.fst hremote.1) ?_) (by simp)
        rw [hlocal]
        decide
      · rw [hinternal] at hlocal ⊢
        rw [batchAgrees_internal hremote hlocal]
        simp

end Agreement

instance (memory : ℕ → BufferMemory) (entry : BatchEntry) : Decidable (entry.Sendable memory) :=
  decidable_of_iff (entry.bedata.isSome ∧ (∀ d ∈ entry.bedata, d.size ≤ surfaceMaxUserDataCount) ∧
      entry.retval.fence.isSome ∧ ∀ b ∈ entry.retval.buffer, (memory b.object).handle.isSome)
    ⟨fun h => ⟨h.1, h.2.1, h.2.2.1, h.2.2.2⟩, fun h => ⟨h.bedata, h.size, h.fence, h.handle⟩⟩

instance decidableAllSendable {P : Type} [Parcel P] (channel : Channel P) :
    (q : BufferQueue) → (config : BufferRequestConfig) → (as : List Allocation) →
      Decidable (channel.AllSendable q config as)
  | _, _, [] => isTrue trivial
  | q, config, a :: as =>
    have := decidableAllSendable channel (q.requestBuffer config a).2 config as
    inferInstanceAs (Decidable (_ → _ ∧ _))

theorem wireChannel_carries (count : ℕ) (config : BufferRequestConfig) (reply : BatchReply)
    (hwritten : (writeBatchReply (wireChannel twoFiles).memory (wireChannel twoFiles).badFd reply
      twoFiles).1 ≠ .error .parcel) :
    (wireChannel twoFiles).Carries Wire.vectorFifo count config reply where
  remote := rfl
  heap := rfl
  request := by
    have hwrites : Wire.vectorFifo.Writes (writeBatchRequest count config) _ :=
      writeBatchRequest_writes count config
    exact ⟨_, _, _, _, [], rfl, rfl, rfl, rfl, _, (hwrites _ _ rfl).1, rfl⟩
  plain d p := by
    obtain ⟨p', h⟩ := ExtraData.writeAll_wire d p
    rw [h]
  written _ := hwritten
  sound object := by
    intro handle hhandle
    obtain rfl := Option.some.inj hhandle
    refine ⟨by decide, by decide, fun _ file hfile => ⟨64, ?_, by decide⟩⟩
    obtain rfl := Option.some.inj hfile
    rfl
  answer p h := ⟨p, rfl, p.words, rfl, (List.append_nil _).symm⟩

/-- Two buffers out of an empty queue. -/
theorem batch_over_ipc_agrees_two : (wireChannel twoFiles).BatchAgrees 2 sampleConfig openProducer 1
    fun k => ⟨k + 1, k + 1, true, true⟩ := by
  refine (batch_over_ipc_agrees (wireChannel twoFiles) Wire.vectorFifo 2 sampleConfig openProducer 1
    (fun k => ⟨k + 1, k + 1, true, true⟩) (by decide) (by decide)
    ⟨by decide, by decide, by decide, by decide, by decide, by decide⟩ (by decide) (by decide)
    ?_ (wireChannel_carries 2 sampleConfig _ (by decide +kernel))).mpr ?_
  · intro k e he
    cases he
  · unfold Channel.BatchServed
    decide +kernel

def servedProducer : BufferQueueProducer :=
  (openProducer.requestEntries 1 sampleConfig
    ((List.range 3).map fun k => ⟨k + 1, k + 1, true, true⟩)).2

theorem reachable_servedProducer : Reachable servedProducer.bufferQueue := by
  have hlegal : Runs.Legal Op.next (fun q op => op.Fresh q ∧ (op.next q).fault = false)
      (BufferQueue.start {}) [.configure .registerConsumerListener,
        .configure (.setConnectedPidLocked 1), .requestBuffers sampleConfig
          ((List.range 3).map fun k => ⟨k + 1, k + 1, true, true⟩)] := by decide +kernel
  exact .of_legal hlegal

theorem filled_servedProducer : servedProducer.bufferQueue.FilledExtraData := by
  have hopen : openProducer.bufferQueue.FilledExtraData := fun k e he => by cases he
  exact requestEntries_filled hopen 1 sampleConfig _

/-- The server is to write the fence of a buffer that it has not got. -/
theorem batch_without_buffer_goes_through_null :
    ¬ ∀ (channel : Channel Wire) (count : ℕ) (config : BufferRequestConfig)
      (s : BufferQueueProducer) (callingPid : Int) (a : ℕ → Allocation), Reachable s.bufferQueue →
      s.bufferQueue.FilledExtraData → 0 < count → count ≤ surfaceMaxQueueSize → config.Fits →
      fitsInt32 config.colorGamut → fitsInt32 config.transform →
      channel.Carries Wire.vectorFifo count config
        (s.requestEntries callingPid config.received ((List.range count).map a)).1 →
      channel.BatchAgrees count config s callingPid a := by
  intro h
  have hagrees := h (wireChannel twoFiles) 1 sampleConfig servedProducer 1
    (fun k => ⟨k + 4, k + 4, true, true⟩) reachable_servedProducer filled_servedProducer (by decide)
    (by decide) ⟨by decide, by decide, by decide, by decide, by decide, by decide⟩ (by decide)
    (by decide) (wireChannel_carries 1 sampleConfig _ (by decide +kernel))
  have hfault : ((wireChannel twoFiles).requestBuffers 1 sampleConfig servedProducer 1
      fun k => ⟨k + 4, k + 4, true, true⟩).2.1 = true := by decide +kernel
  rw [hagrees.2] at hfault
  cases hfault

end GraphicSurface
