import GraphicSurface.ConsumerSurface
import GraphicSurface.LockCalls
import GraphicSurface.OmittedObjects
import GraphicSurface.Passages
import GraphicSurface.ProducerCacheClean
import GraphicSurface.WindowBuffers

/-! The buffers that the requests of a surface hand out. The queue selects and marks them by number;
the surface has to find an object for each of the numbers in its reply. -/

namespace GraphicSurface

open Runs

namespace BufferQueue

variable {q : BufferQueue} {config : BufferRequestConfig} {as : List Allocation} {k : ℕ}

theorem requestBuffersLoop_stays (h : q.Agrees) (hnodup : (as.map (·.sequence)).Nodup)
    (hfresh : ∀ a ∈ as, q.bufferQueueCache.find a.sequence = none)
    (hk : q.stateOf k = some .requested) :
    (q.requestBuffersLoop config as).2.2.stateOf k = some .requested := by
  induction as generalizing q with
  | nil => exact hk
  | cons a as ih =>
    have hstays := requestBuffer_stays h config (hfresh a List.mem_cons_self) hk
    unfold requestBuffersLoop
    dsimp only
    split
    · exact hstays
    · exact ih (requestBuffer_agrees h config (hfresh a List.mem_cons_self)) hnodup.of_cons
        (fresh_of_requestBuffer h config hnodup hfresh) hstays

theorem requestBuffersLoop_marked (h : q.Agrees) (hnodup : (as.map (·.sequence)).Nodup)
    (hfresh : ∀ a ∈ as, q.bufferQueueCache.find a.sequence = none) :
    ∀ reply ∈ (q.requestBuffersLoop config as).2.1,
      (q.requestBuffersLoop config as).2.2.stateOf reply.retval.sequence = some .requested := by
  induction as generalizing q with
  | nil => simp [requestBuffersLoop]
  | cons a as ih =>
    have hagrees := requestBuffer_agrees h config (hfresh a List.mem_cons_self)
    have hrest := fresh_of_requestBuffer h config hnodup hfresh
    unfold requestBuffersLoop
    dsimp only
    split
    · simp
    · rename_i hret
      intro reply hreply
      rcases List.mem_cons.mp hreply with rfl | hreply
      · obtain ⟨e, he, hstate⟩ := (requestBufferLocked_sound q config a false).marked (not_not.mp hret)
        refine requestBuffersLoop_stays hagrees hnodup.of_cons hrest ?_
        exact (congrArg (Option.map _) he).trans (congrArg some hstate)
      · exact ih hagrees hnodup.of_cons hrest reply hreply

end BufferQueue

namespace BufferQueueProducer

variable {s : BufferQueueProducer} {callingPid : Int}

def selectBuffer (s : BufferQueueProducer) (callingPid : Int) (config : BufferRequestConfig)
    (a : Allocation) : List ℕ × BufferQueue :=
  let (reply, q) := (s.connect callingPid).2.bufferQueue.requestBuffer config a
  ([reply.retval.sequence], q)

def selectBuffers (s : BufferQueueProducer) (callingPid : Int) (config : BufferRequestConfig)
    (as : List Allocation) : List ℕ × BufferQueue :=
  let (_, replies, q) := (s.connect callingPid).2.bufferQueue.requestBuffers config as
  (replies.map (·.retval.sequence), q)

theorem selectBuffer_of_ok {config : BufferRequestConfig} {a : Allocation}
    (hret : (s.requestBuffer callingPid config a).1.ret = .ok) :
    (s.selectBuffer callingPid config a).1 =
        [(s.requestBuffer callingPid config a).1.retval.sequence] ∧
      ∀ k ∈ (s.selectBuffer callingPid config a).1,
        (s.selectBuffer callingPid config a).2.stateOf k = some .requested := by
  have hconnect : (s.connect callingPid).1 = .ok := by
    by_contra hconnect
    rw [requestBuffer_of_error hconnect] at hret
    exact hconnect hret
  rw [requestBuffer_of_connect hconnect] at hret ⊢
  refine ⟨rfl, fun k hk => ?_⟩
  obtain rfl := List.mem_singleton.mp hk
  obtain ⟨e, he, hstate⟩ := (BufferQueue.requestBufferLocked_sound
    (s.connect callingPid).2.bufferQueue config a false).marked hret
  exact (congrArg (Option.map _) he).trans (congrArg some hstate)

theorem selectBuffers_marked (h : s.bufferQueue.Agrees) (callingPid : Int)
    (config : BufferRequestConfig) {as : List Allocation}
    (hfresh : (Op.requestBuffers config as).Fresh s.bufferQueue) :
    ∀ k ∈ (s.selectBuffers callingPid config as).1,
      (s.selectBuffers callingPid config as).2.stateOf k = some .requested := by
  have hmarked (q : BufferQueue) (hq : q.bufferQueueCache = s.bufferQueue.bufferQueueCache)
      (hagrees : q.Agrees) : ∀ reply ∈ (q.requestBuffers config as).2.1,
        (q.requestBuffers config as).2.2.stateOf reply.retval.sequence = some .requested := by
    have hagrees' : { q with isBatch := true }.Agrees := hagrees
    exact BufferQueue.requestBuffersLoop_marked hagrees' hfresh.1 fun a ha => by
      rw [hq]
      exact hfresh.2 a ha
  intro k hk
  obtain ⟨reply, hreply, rfl⟩ := List.mem_map.mp hk
  refine hmarked _ (connect_cache s callingPid) ?_ reply hreply
  by_cases hconnect : (s.connect callingPid).1 = .ok
  · rw [connect_of_ok hconnect]
    exact h
  · rw [connect_of_error hconnect]
    exact h

theorem requestBuffers_cases (s : BufferQueueProducer) (callingPid : Int)
    (config : BufferRequestConfig) {as : List Allocation} (has : as ≠ []) :
    ((s.requestBuffers callingPid config as).1 ≠ .ok ∧
        (s.requestBuffers callingPid config as).1 ≠ .noBuffer) ∨
      ((s.requestBuffers callingPid config as).1 = .noBuffer ∧
        (s.selectBuffers callingPid config as).1 = [] ∧
        ∃ retval, (s.requestBuffers callingPid config as).2.1 = [retval]) ∨
      ((s.requestBuffers callingPid config as).1 = .ok ∧
        (s.requestBuffers callingPid config as).2.1.map (·.sequence) =
          (s.selectBuffers callingPid config as).1 ∧
        (s.requestBuffers callingPid config as).2.2.bufferQueue =
          (s.selectBuffers callingPid config as).2) := by
  have hconnect := s.connect_ret_ne_noBuffer callingPid
  unfold requestBuffers selectBuffers
  generalize s.connect callingPid = r at hconnect ⊢
  obtain ⟨ret, p⟩ := r
  dsimp only at hconnect ⊢
  by_cases hret : ret = .ok
  · rw [if_neg (not_not.mpr hret)]
    have hok := p.bufferQueue.requestBuffers_ok_iff config has
    generalize p.bufferQueue.requestBuffers config as = batch at hok ⊢
    obtain ⟨ret', replies, q⟩ := batch
    dsimp only at hok ⊢
    by_cases hreplies : replies = []
    · by_cases hret' : ret' = .noBuffer
      · exact .inr (.inl ⟨hret', by rw [hreplies]; rfl, _, if_pos hreplies⟩)
      · exact .inl ⟨fun h => hok.mp h hreplies, hret'⟩
    · refine .inr (.inr ⟨hok.mpr hreplies, ?_, rfl⟩)
      rw [if_neg hreplies, List.map_map]
      rfl
  · rw [if_pos hret]
    exact .inl ⟨hret, hconnect⟩

theorem requestBuffers_of_connect (h : (s.connect callingPid).1 = .ok) (config : BufferRequestConfig)
    (as : List Allocation) :
    s.requestBuffers callingPid config as =
      (((s.connect callingPid).2.bufferQueue.requestBuffers config as).1,
        if ((s.connect callingPid).2.bufferQueue.requestBuffers config as).2.1 = [] then
          [{ RequestBufferReturnValue.empty with isConnected := true }]
        else ((s.connect callingPid).2.bufferQueue.requestBuffers config as).2.1.map (·.retval),
        (s.connect callingPid).2.withQueue
          ((s.connect callingPid).2.bufferQueue.requestBuffers config as).2.2) := by
  unfold requestBuffers
  generalize s.connect callingPid = r at h ⊢
  obtain ⟨ret, p⟩ := r
  dsimp only at h ⊢
  rw [if_neg (not_not.mpr h)]

theorem requestBuffers_of_error (h : (s.connect callingPid).1 ≠ .ok) (config : BufferRequestConfig)
    (as : List Allocation) :
    (s.requestBuffers callingPid config as).1 = (s.connect callingPid).1 := by
  unfold requestBuffers
  dsimp only
  rw [if_pos h]

theorem requestAndDetachBuffer_reply (s : BufferQueueProducer) (callingPid : Int)
    (config : BufferRequestConfig) (a : Allocation) :
    (s.requestAndDetachBuffer callingPid config a).1 = (s.requestBuffer callingPid config a).1 := by
  unfold requestAndDetachBuffer requestBuffer requestWith
  generalize s.connect callingPid = r
  obtain ⟨ret, p⟩ := r
  dsimp only
  split
  · rfl
  · dsimp only
    rw [BufferQueue.requestAndDetachBuffer_reply_eq]

end BufferQueueProducer

/-- A reply with return code `OK` has, for each of the selected numbers, the buffer with this number. -/
def SurfaceReply.Delivers (reply : SurfaceReply) (selected : List ℕ) : Prop :=
  reply.ret = .ok → reply.buffers.map (Option.map (·.seqNum)) = selected.map some

namespace ProducerSurface

variable {link : Link} {s : ProducerSurface} {retval : RequestBufferReturnValue}

theorem addCacheLocked_of_lacks (h : s.LacksObject link retval) :
    (s.addCacheLocked link retval).1 = none := by
  obtain ⟨hbuffer, hcached, hreads⟩ := h
  have hsync : s.syncProducerCacheLocked link = s := by
    unfold syncProducerCacheLocked
    exact if_neg (by simp [hreads])
  unfold addCacheLocked
  rw [hbuffer, hcached]
  dsimp only
  rw [hsync, hcached]

theorem addCacheLocked_seqNum_iff (h : s.Keyed)
    (hobject : ∀ b, retval.buffer = some b → b.seqNum = retval.sequence)
    (hmarked : ∃ e, s.queue.bufferQueueCache.find retval.sequence = some e) :
    (s.addCacheLocked link retval).1.map (·.seqNum) = some retval.sequence ↔
      ¬ s.LacksObject link retval := by
  constructor
  · intro hbuffer hlacks
    rw [addCacheLocked_of_lacks hlacks] at hbuffer
    cases hbuffer
  · intro hlacks
    obtain ⟨buffer, hbuffer⟩ := Option.isSome_iff_exists.mp (isSome_addCacheLocked hmarked hlacks)
    rw [hbuffer]
    exact congrArg some (seqNum_of_addCacheLocked h hobject hbuffer)

variable (link) in
/-- One of the replies of a batch finds no object when its turn comes. -/
def LacksObjects (s : ProducerSurface) : List RequestBufferReturnValue → Prop
  | [] => False
  | retval :: retvalues =>
    s.LacksObject link retval ∨ (s.addCacheLocked link retval).2.LacksObjects retvalues

theorem addCachesLocked_seqNums_iff (h : s.Keyed) {retvalues : List RequestBufferReturnValue}
    (hobjects : ∀ retval ∈ retvalues, ∀ b, retval.buffer = some b → b.seqNum = retval.sequence)
    (hmarked : ∀ retval ∈ retvalues, ∃ e,
      s.queue.bufferQueueCache.find retval.sequence = some e) :
    (s.addCachesLocked link retvalues).1.map (Option.map (·.seqNum)) =
        (retvalues.map (·.sequence)).map some ↔ ¬ s.LacksObjects link retvalues := by
  induction retvalues generalizing s with
  | nil => exact iff_of_true rfl not_false
  | cons retval retvalues ih =>
    have hobject := hobjects retval List.mem_cons_self
    have hone : (s.addCacheLocked link retval).1.map (·.seqNum) = some retval.sequence ↔
        ¬ s.LacksObject link retval :=
      addCacheLocked_seqNum_iff h hobject (hmarked retval List.mem_cons_self)
    have hrest := ih (h.addCacheLocked link hobject)
      (fun r hr => hobjects r (List.mem_cons_of_mem _ hr)) fun r hr => by
        rw [(addCacheLocked_same link s retval).queue]
        exact hmarked r (List.mem_cons_of_mem _ hr)
    unfold LacksObjects
    rw [not_or, ← hone, ← hrest]
    exact List.cons_eq_cons

variable (link) in
/-- `UpdateCacheLocked` has no object for the answer to the request: none is sent and none is cached. -/
def DetachLacksObject (s : ProducerSurface) (config : BufferRequestConfig) (a : Allocation) : Prop :=
  (s.producer.requestAndDetachBuffer link.callingPid config a).1.ret = .ok ∧
    (s.producer.requestAndDetachBuffer link.callingPid config a).1.retval.buffer = none ∧
    s.bufferProducerCache.lookup
      (s.producer.requestAndDetachBuffer link.callingPid config a).1.retval.sequence = none

variable (link) in
/-- The queue has no buffer for the batch, or the surface no object for one of the replies. -/
def BatchLacksObject (s : ProducerSurface) (config : BufferRequestConfig) (as : List Allocation) :
    Prop :=
  (s.producer.requestBuffers link.callingPid config as).1 = .noBuffer ∨
    (s.producer.requestBuffers link.callingPid config as).1 = .ok ∧
    { s with
      producer := (s.producer.requestBuffers link.callingPid config as).2.2
      isDisconnected := false }.LacksObjects link
        (s.producer.requestBuffers link.callingPid config as).2.1

/-! The same told from the state before the call: which object the queue will leave out, and whether the
surface has it. -/

variable (link) in
/-- The surface has no object under the number and could not read all the buffers of the queue. -/
def Misses (s : ProducerSurface) (k : ℕ) : Prop :=
  s.bufferProducerCache.lookup k = none ∧ link.reads s.queue.getUsedSize = false

instance (link : Link) (s : ProducerSurface) (k : ℕ) : Decidable (s.Misses link k) :=
  inferInstanceAs (Decidable (_ ∧ _))

variable (link) in
def connectedQueue (s : ProducerSurface) : BufferQueue :=
  (s.producer.connect link.callingPid).2.bufferQueue

variable (link) in
/-- The request will be answered without the object, and the surface misses it. -/
def RequestMisses (s : ProducerSurface) (config : BufferRequestConfig) : Prop :=
  (s.producer.connect link.callingPid).1 = .ok ∧
    ∃ k ∈ (s.connectedQueue link).omittedBuffer config, s.Misses link k

variable (link) in
/-- The same for the request that looks into the cache of the surface only. -/
def DetachMisses (s : ProducerSurface) (config : BufferRequestConfig) : Prop :=
  (s.producer.connect link.callingPid).1 = .ok ∧
    ∃ k ∈ (s.connectedQueue link).omittedBuffer config, s.bufferProducerCache.lookup k = none

variable (link) in
/-- A round of a batch begins with a queue that will leave out an object which the surface, as its own
loop finds it in that round, misses. The surface sees the queue of after the batch. -/
def RoundMisses (s : ProducerSurface) (q : BufferQueue) (config : BufferRequestConfig) :
    List Allocation → Prop
  | [] => False
  | a :: as =>
    (∃ k ∈ q.omittedBuffer config, s.Misses link k) ∨
      (q.requestBuffer config a).1.ret = .ok ∧
        (s.addCacheLocked link (q.requestBuffer config a).1.retval).2.RoundMisses
          (q.requestBuffer config a).2 config as

variable (link) in
def afterBatch (s : ProducerSurface) (config : BufferRequestConfig) (as : List Allocation) :
    ProducerSurface :=
  { s with
    producer := (s.producer.requestBuffers link.callingPid config as).2.2
    isDisconnected := false }

variable (link) in
/-- There is nothing for the batch, or one of its rounds misses an object. -/
def BatchMisses (s : ProducerSurface) (config : BufferRequestConfig) (as : List Allocation) : Prop :=
  (s.producer.connect link.callingPid).1 = .ok ∧
    ({ s.connectedQueue link with isBatch := true }.hasNoBuffer config ∨
      (s.afterBatch link config as).RoundMisses link
        { s.connectedQueue link with isBatch := true } config as)

theorem agrees_connectedQueue (link : Link) (h : s.queue.Agrees) : (s.connectedQueue link).Agrees := by
  unfold connectedQueue
  by_cases hconnect : (s.producer.connect link.callingPid).1 = .ok
  · rw [BufferQueueProducer.connect_of_ok hconnect]
    exact h
  · rw [BufferQueueProducer.connect_of_error hconnect]
    exact h

theorem getUsedSize_connectedQueue (link : Link) (s : ProducerSurface) :
    (s.connectedQueue link).getUsedSize = s.queue.getUsedSize :=
  congrArg BufferCache.size (s.producer.connect_cache link.callingPid)

theorem lacksObject_iff (retval : RequestBufferReturnValue) :
    s.LacksObject link retval ↔ retval.buffer = none ∧ s.Misses link retval.sequence := by
  unfold LacksObject Misses
  rw [BufferCache.length_values, BufferQueue.getUsedSize]

theorem requestLacksObject_iff (h : s.queue.Agrees) (config : BufferRequestConfig) (a : Allocation) :
    s.RequestLacksObject link config a ↔ s.RequestMisses link config := by
  have hagrees : (s.connectedQueue link).Agrees := agrees_connectedQueue link h
  have homits (k : ℕ) := BufferQueue.requestBuffer_omits_iff (k := k) hagrees config a
  have hsize {k : ℕ} (hk : (s.connectedQueue link).omittedBuffer config = some k) :
      ((s.connectedQueue link).requestBuffer config a).2.getUsedSize = s.queue.getUsedSize :=
    (BufferQueue.requestBuffer_omits_size hagrees hk a).trans (getUsedSize_connectedQueue link s)
  unfold RequestLacksObject RequestMisses
  by_cases hconnect : (s.producer.connect link.callingPid).1 = .ok
  · rw [BufferQueueProducer.requestBuffer_of_connect hconnect, lacksObject_iff]
    constructor
    · rintro ⟨hret, hbuffer, hcached, hreads⟩
      have hk := (homits _).mp ⟨hret, hbuffer, rfl⟩
      exact ⟨hconnect, _, hk, hcached, (congrArg link.reads (hsize hk)).symm.trans hreads⟩
    · rintro ⟨-, k, hk, hcached, hreads⟩
      obtain ⟨hret, hbuffer, rfl⟩ := (homits k).mpr hk
      exact ⟨hret, hbuffer, hcached, (congrArg link.reads (hsize hk)).trans hreads⟩
  · rw [BufferQueueProducer.requestBuffer_of_error hconnect]
    exact iff_of_false (fun hlacks => hconnect hlacks.1) fun hmisses => hconnect hmisses.1

theorem detachLacksObject_iff (h : s.queue.Agrees) (config : BufferRequestConfig) (a : Allocation) :
    s.DetachLacksObject link config a ↔ s.DetachMisses link config := by
  have homits (k : ℕ) := BufferQueue.requestBuffer_omits_iff (k := k)
    (agrees_connectedQueue link h) config a
  unfold DetachLacksObject DetachMisses
  rw [BufferQueueProducer.requestAndDetachBuffer_reply]
  by_cases hconnect : (s.producer.connect link.callingPid).1 = .ok
  · rw [BufferQueueProducer.requestBuffer_of_connect hconnect]
    constructor
    · rintro ⟨hret, hbuffer, hcached⟩
      exact ⟨hconnect, _, (homits _).mp ⟨hret, hbuffer, rfl⟩, hcached⟩
    · rintro ⟨-, k, hk, hcached⟩
      obtain ⟨hret, hbuffer, rfl⟩ := (homits k).mpr hk
      exact ⟨hret, hbuffer, hcached⟩
  · rw [BufferQueueProducer.requestBuffer_of_error hconnect]
    exact iff_of_false (fun hlacks => hconnect hlacks.1) fun hmisses => hconnect hmisses.1

theorem lacksObjects_iff (link : Link) {q : BufferQueue} (h : q.Agrees) (config : BufferRequestConfig)
    {as : List Allocation} (hnodup : (as.map (·.sequence)).Nodup)
    (hfresh : ∀ a ∈ as, q.bufferQueueCache.find a.sequence = none) :
    s.LacksObjects link ((q.requestBuffersLoop config as).2.1.map (·.retval)) ↔
      s.RoundMisses link q config as := by
  induction as generalizing q s with
  | nil => exact Iff.rfl
  | cons a as ih =>
    have homits (k : ℕ) := BufferQueue.requestBuffer_omits_iff (k := k) h config a
    unfold BufferQueue.requestBuffersLoop RoundMisses
    dsimp only
    split_ifs with hret
    · refine iff_of_false id ?_
      rintro (⟨k, hk, -⟩ | ⟨hok, -⟩)
      · exact hret ((homits k).mpr hk).1
      · exact hret hok
    · have hok := not_not.mp hret
      have hrest := ih (s := (s.addCacheLocked link (q.requestBuffer config a).1.retval).2)
        (BufferQueue.requestBuffer_agrees h config (hfresh a List.mem_cons_self)) hnodup.of_cons
        (BufferQueue.fresh_of_requestBuffer h config hnodup hfresh)
      rw [List.map_cons, LacksObjects, lacksObject_iff, hrest]
      refine or_congr ?_ (and_iff_right hok).symm
      constructor
      · rintro ⟨hbuffer, hmisses⟩
        exact ⟨_, (homits _).mp ⟨hok, hbuffer, rfl⟩, hmisses⟩
      · rintro ⟨k, hk, hmisses⟩
        obtain ⟨-, hbuffer, rfl⟩ := (homits k).mpr hk
        exact ⟨hbuffer, hmisses⟩

theorem batchLacksObject_iff (h : s.queue.Agrees) (config : BufferRequestConfig)
    {as : List Allocation} (has : as ≠ []) (hfresh : (Op.requestBuffers config as).Fresh s.queue) :
    s.BatchLacksObject link config as ↔ s.BatchMisses link config as := by
  have hagrees : (s.connectedQueue link).Agrees := agrees_connectedQueue link h
  have hnone := BufferQueue.requestBuffers_noBuffer_iff hagrees config has
  have hok := (s.connectedQueue link).requestBuffers_ok_iff config has
  unfold BatchLacksObject BatchMisses
  by_cases hconnect : (s.producer.connect link.callingPid).1 = .ok
  · have hrounds := lacksObjects_iff (s := s.afterBatch link config as) link
      (q := { s.connectedQueue link with isBatch := true }) hagrees config hfresh.1
      fun a ha => by
        rw [connectedQueue, s.producer.connect_cache link.callingPid]
        exact hfresh.2 a ha
    rw [and_iff_right hconnect, ← hrounds, ← hnone]
    unfold afterBatch
    rw [BufferQueueProducer.requestBuffers_of_connect hconnect]
    refine or_congr Iff.rfl ?_
    have hreplies : ((s.connectedQueue link).requestBuffers config as).2.1 =
        ({ s.connectedQueue link with isBatch := true }.requestBuffersLoop config as).2.1 := rfl
    change ((s.connectedQueue link).requestBuffers config as).1 = .ok ∧
      LacksObjects link _ (if ((s.connectedQueue link).requestBuffers config as).2.1 = [] then _
        else ((s.connectedQueue link).requestBuffers config as).2.1.map (·.retval)) ↔ _
    rw [hok, hreplies]
    by_cases hempty :
        ({ s.connectedQueue link with isBatch := true }.requestBuffersLoop config as).2.1 = []
    · rw [hempty]
      exact iff_of_false (fun hlacks => hlacks.1 rfl) id
    · rw [if_neg hempty, and_iff_right hempty]
  · have hret := BufferQueueProducer.requestBuffers_of_error hconnect config as
    rw [hret]
    refine iff_of_false ?_ fun hmisses => hconnect hmisses.1
    rintro (hnone | hlacks)
    · exact s.producer.connect_ret_ne_noBuffer link.callingPid hnone
    · exact hconnect hlacks.1

/-- The surface returns `OK` only when the queue has. -/
theorem requested_of_ret {config : BufferRequestConfig} {a : Allocation}
    (hret : (s.requestBufferLocked link config a).1.ret = .ok) :
    (s.producer.requestBuffer link.callingPid config a).1.ret = .ok := by
  by_contra hnot
  unfold requestBufferLocked at hret
  dsimp only at hret
  rw [if_pos hnot] at hret
  exact hnot hret

theorem detached_of_ret {config : BufferRequestConfig} {a : Allocation}
    (hret : (s.requestAndDetachBuffer link config a).1.ret = .ok) :
    (s.producer.requestBuffer link.callingPid config a).1.ret = .ok := by
  by_contra hnot
  unfold requestAndDetachBuffer at hret
  dsimp only at hret
  rw [BufferQueueProducer.requestAndDetachBuffer_reply, if_pos hnot] at hret
  exact hnot hret

theorem requestBufferLocked_delivers_iff (h : s.Keyed) (config : BufferRequestConfig)
    (a : Allocation) :
    (s.requestBufferLocked link config a).1.Delivers (s.producer.selectBuffer link.callingPid config
        a).1 ↔ ¬ s.RequestLacksObject link config a := by
  have hsound := s.producer.requestBuffer_sound link.callingPid config a
  unfold SurfaceReply.Delivers RequestLacksObject requestBufferLocked
  dsimp only
  by_cases hret : (s.producer.requestBuffer link.callingPid config a).1.ret = .ok
  · obtain ⟨e, he, -⟩ := hsound.marked hret
    rw [if_neg (not_not.mpr hret), (BufferQueueProducer.selectBuffer_of_ok hret).1,
      and_iff_right hret]
    refine Iff.trans ?_ (addCacheLocked_seqNum_iff ?_ (hsound.object hret) ⟨e, he⟩)
    · simp
    · exact h.of_cache rfl
  · rw [if_pos hret]
    exact iff_of_true (fun hok => absurd hok hret) fun hlacks => hret hlacks.1

theorem updateCacheLocked_seqNum_iff (link : Link) (h : s.Keyed)
    (hobject : ∀ b, retval.buffer = some b → b.seqNum = retval.sequence) :
    (s.updateCacheLocked link retval).1.map (·.seqNum) = some retval.sequence ↔
      ¬ (retval.buffer = none ∧ s.bufferProducerCache.lookup retval.sequence = none) := by
  unfold updateCacheLocked
  cases hbuffer : retval.buffer with
  | some sent =>
    refine iff_of_true (congrArg some ?_) fun hlacks => nomatch hlacks.1
    exact (link.toClient_seqNum _ sent).trans (hobject sent hbuffer)
  | none =>
    dsimp only
    cases hcached : s.bufferProducerCache.lookup retval.sequence with
    | some cached => exact iff_of_true (congrArg some (h _ _ hcached)) fun hlacks => nomatch hlacks.2
    | none => exact iff_of_false nofun fun hlacks => hlacks ⟨rfl, rfl⟩

theorem requestAndDetachBuffer_delivers_iff (h : s.Keyed) (config : BufferRequestConfig)
    (a : Allocation) :
    (s.requestAndDetachBuffer link config a).1.Delivers (s.producer.selectBuffer link.callingPid
        config a).1 ↔ ¬ s.DetachLacksObject link config a := by
  have hsound := s.producer.requestBuffer_sound link.callingPid config a
  unfold SurfaceReply.Delivers DetachLacksObject requestAndDetachBuffer
  dsimp only
  rw [BufferQueueProducer.requestAndDetachBuffer_reply]
  by_cases hret : (s.producer.requestBuffer link.callingPid config a).1.ret = .ok
  · rw [if_neg (not_not.mpr hret), (BufferQueueProducer.selectBuffer_of_ok hret).1,
      and_iff_right hret]
    refine Iff.trans ?_ (updateCacheLocked_seqNum_iff link (s := { s with
      producer := (s.producer.requestAndDetachBuffer link.callingPid config a).2
      isDisconnected := false }) ?_ (hsound.object hret))
    · simp
    · exact h.of_cache rfl
  · rw [if_pos hret]
    exact iff_of_true (fun hok => absurd hok hret) fun hlacks => hret hlacks.1

theorem requestBuffers_delivers_iff (h : s.Keyed) (hagrees : s.queue.Agrees)
    (config : BufferRequestConfig) (as : ℕ → Allocation)
    (hfresh : (SurfaceCall.requestBuffers config as).Fresh s) :
    (s.requestBuffers link config as).1.Delivers (s.producer.selectBuffers link.callingPid config
        ((List.range surfaceMaxQueueSize).map as)).1 ↔
      ¬ s.BatchLacksObject link config ((List.range surfaceMaxQueueSize).map as) := by
  have has : (List.range surfaceMaxQueueSize).map as ≠ [] := by simp [surfaceMaxQueueSize]
  have hobjects := s.producer.requestBuffers_objects link.callingPid config
    ((List.range surfaceMaxQueueSize).map as)
  have hmarked := BufferQueueProducer.selectBuffers_marked hagrees link.callingPid config hfresh
  have hcases := s.producer.requestBuffers_cases link.callingPid config has
  unfold SurfaceReply.Delivers BatchLacksObject requestBuffers
  generalize s.producer.selectBuffers link.callingPid config
    ((List.range surfaceMaxQueueSize).map as) = selected at hmarked hcases ⊢
  generalize s.producer.requestBuffers link.callingPid config
    ((List.range surfaceMaxQueueSize).map as) = r at hobjects hcases ⊢
  obtain ⟨ret, retvalues, producer⟩ := r
  dsimp only at hobjects hcases ⊢
  rcases hcases with ⟨hok, hnoBuffer⟩ | ⟨hret, hselected, retval, hretval⟩ | ⟨hret, hselected, hqueue⟩
  · rw [if_pos ⟨hnoBuffer, hok⟩]
    exact iff_of_true (fun hret => absurd hret hok)
      fun hlacks => hlacks.elim hnoBuffer fun hlacks => hok hlacks.1
  · rw [if_neg fun h => h.1 hret, hselected, hretval]
    exact iff_of_false (fun hdelivers => by cases hdelivers rfl) fun hlacks => hlacks (.inl hret)
  · rw [if_neg fun h => h.2 hret, ← hselected]
    have hseqNums : (addCachesLocked link { s with producer := producer, isDisconnected := false }
          retvalues).1.map (Option.map (·.seqNum)) = (retvalues.map (·.sequence)).map some ↔
        ¬ { s with producer := producer, isDisconnected := false }.LacksObjects link retvalues := by
      refine addCachesLocked_seqNums_iff ?_ hobjects fun retval hretval => ?_
      · exact h.of_cache rfl
      · have hstate := hmarked retval.sequence (hselected ▸ List.mem_map_of_mem hretval)
        rw [← hqueue] at hstate
        obtain ⟨e, he, -⟩ := Option.map_eq_some_iff.mp hstate
        exact ⟨e, he⟩
    simp only [hret]
    simpa using hseqNums

end ProducerSurface

namespace SurfaceCall

variable (link : Link) (s : ProducerSurface)

def selection : SurfaceCall → Option (List ℕ × BufferQueue)
  | requestBuffer gameUpscaleProcessor config a =>
    some (s.producer.selectBuffer link.callingPid
      (ProducerSurface.sized gameUpscaleProcessor config) a)
  | requestBuffers config as =>
    some (s.producer.selectBuffers link.callingPid config ((List.range surfaceMaxQueueSize).map as))
  | requestAndDetachBuffer config a => some (s.producer.selectBuffer link.callingPid config a)
  | _ => none

/-- A request that returns `OK` hands over the buffers, and no null pointer, that the queue has selected
and marked. -/
def HandsOverSelected (c : SurfaceCall) : Prop :=
  ∀ selection ∈ c.selection link s, (c.run link s).1.Delivers selection.1 ∧
    ((c.run link s).1.ret = .ok → ∀ k ∈ selection.1, selection.2.stateOf k = some .requested)

/-- A request will be answered without an object that the surface misses, or a batch with nothing. -/
def MissesObject : SurfaceCall → Prop
  | requestBuffer gameUpscaleProcessor config _ =>
    s.RequestMisses link (ProducerSurface.sized gameUpscaleProcessor config)
  | requestBuffers config as => s.BatchMisses link config ((List.range surfaceMaxQueueSize).map as)
  | requestAndDetachBuffer config _ => s.DetachMisses link config
  | _ => False

instance (reply : SurfaceReply) (selected : List ℕ) : Decidable (reply.Delivers selected) :=
  inferInstanceAs (Decidable (_ → _))

instance (c : SurfaceCall) : Decidable (c.HandsOverSelected link s) :=
  inferInstanceAs (Decidable (∀ _ ∈ _, _))

variable {s} {c : SurfaceCall}

/-- The queue marks what it selects, so only the objects are in question. -/
theorem handsOverSelected_of_some {selected : List ℕ × BufferQueue}
    (hselection : c.selection link s = some selected)
    (hmarked : (c.run link s).1.ret = .ok → ∀ k ∈ selected.1, selected.2.stateOf k = some .requested) :
    c.HandsOverSelected link s ↔ (c.run link s).1.Delivers selected.1 := by
  unfold HandsOverSelected
  rw [hselection]
  constructor
  · exact fun h => (h selected rfl).1
  · rintro hdelivers _ ⟨⟩
    exact ⟨hdelivers, hmarked⟩

theorem handsOverSelected_of_none (hselection : c.selection link s = none) :
    c.HandsOverSelected link s := by
  unfold HandsOverSelected
  rw [hselection]
  exact fun selected hselected => absurd hselected (Option.not_mem_none selected)

theorem handsOverSelected_iff (h : s.Keyed) (hagrees : s.queue.Agrees) (hfresh : c.Fresh s) :
    c.HandsOverSelected link s ↔ ¬ c.MissesObject link s := by
  cases c with
  | requestBuffer gameUpscaleProcessor config a =>
    refine (handsOverSelected_of_some link rfl fun hret => ?_).trans
      ((ProducerSurface.requestBufferLocked_delivers_iff h _ a).trans
        (not_congr (ProducerSurface.requestLacksObject_iff hagrees _ a)))
    exact (BufferQueueProducer.selectBuffer_of_ok (ProducerSurface.requested_of_ret hret)).2
  | requestBuffers config as =>
    refine (handsOverSelected_of_some link rfl fun _ => ?_).trans
      ((ProducerSurface.requestBuffers_delivers_iff h hagrees config as hfresh).trans
        (not_congr (ProducerSurface.batchLacksObject_iff hagrees config ?_ hfresh)))
    · exact BufferQueueProducer.selectBuffers_marked hagrees link.callingPid config hfresh
    · simp [surfaceMaxQueueSize]
  | requestAndDetachBuffer config a =>
    refine (handsOverSelected_of_some link rfl fun hret => ?_).trans
      ((ProducerSurface.requestAndDetachBuffer_delivers_iff h config a).trans
        (not_congr (ProducerSurface.detachLacksObject_iff hagrees config a)))
    exact (BufferQueueProducer.selectBuffer_of_ok (ProducerSurface.detached_of_ret hret)).2
  | _ => exact iff_of_true (handsOverSelected_of_none link rfl) not_false

end SurfaceCall

/-- A call of the producer's surface, of its window or of anybody else at the queue, or one of the two
calls of the consumer's surface that write the flag of the buffer first. -/
inductive PairedCall
  | producer (c : SurfaceCall)
  | consumerAttachBufferToQueue (buffer : SurfaceBuffer)
  | consumerDetachBufferFromQueue (buffer : SurfaceBuffer) (isReserveSlot : Bool)

namespace PairedCall

variable (link : Link) (s : ProducerSurface)

def next : PairedCall → ProducerSurface
  | producer c => c.next link s
  | consumerAttachBufferToQueue buffer =>
    s.withQueue (s.queue.consumerAttachBufferToQueue buffer).2.2
  | consumerDetachBufferFromQueue buffer isReserveSlot =>
    s.withQueue (s.queue.consumerDetachBufferFromQueue buffer isReserveSlot).2.2

def Sane : PairedCall → Prop
  | producer c => c.Sane link s
  | _ => True

def HandsOverSelected : PairedCall → Prop
  | producer c => c.HandsOverSelected link s
  | _ => True

def MissesObject : PairedCall → Prop
  | producer c => c.MissesObject link s
  | _ => False

instance (c : PairedCall) : Decidable (c.Sane link s) := by
  cases c <;> unfold Sane <;> infer_instance

instance (c : PairedCall) : Decidable (c.HandsOverSelected link s) := by
  cases c <;> unfold HandsOverSelected <;> infer_instance

end PairedCall

namespace BufferQueue

theorem setConsumerAttachBufferFlag_agrees {q : BufferQueue} (h : q.Agrees) (object : ℕ)
    (value : Bool) : (q.setConsumerAttachBufferFlag object value).Agrees := by
  have hpool : (q.setConsumerAttachBufferFlag object value).pool = q.pool := by
    simp only [pool, setConsumerAttachBufferFlag, getUsedSize, BufferCache.size_mapAll,
      BufferCache.place_mapAll (BufferElement.setConsumerAttachBufferFlag_state object value)]
  rw [Agrees, hpool]
  exact h

theorem consumerAttachBufferToQueue_agrees {q : BufferQueue} (h : q.Agrees) (hfault : q.fault = false)
    (buffer : SurfaceBuffer) :
    (q.consumerAttachBufferToQueue buffer).2.2.Agrees ∧
      (q.consumerAttachBufferToQueue buffer).2.2.fault = false := by
  have hflag := setConsumerAttachBufferFlag_agrees h buffer.object true
  have hstep : QueueStep _ (.attachBufferToQueue (buffer.setConsumerAttachBufferFlag true)
      .consumerInvoker) _ := .of_hasExtraData hflag hfault trivial trivial
  exact ⟨(hstep.refines hflag).agrees hflag, hstep.2.2⟩

theorem consumerDetachBufferFromQueue_agrees {q : BufferQueue} (h : q.Agrees)
    (hfault : q.fault = false) (buffer : SurfaceBuffer) (isReserveSlot : Bool) :
    (q.consumerDetachBufferFromQueue buffer isReserveSlot).2.2.Agrees ∧
      (q.consumerDetachBufferFromQueue buffer isReserveSlot).2.2.fault = false := by
  have hflag := setConsumerAttachBufferFlag_agrees h buffer.object false
  have hstep : QueueStep _ (.detachBufferFromQueue buffer.seqNum .consumerInvoker isReserveSlot) _ :=
    .of_hasExtraData hflag hfault trivial trivial
  exact ⟨(hstep.refines hflag).agrees hflag, hstep.2.2⟩

end BufferQueue

/-- The surface has its objects by their numbers, and the lists of its queue agree with the states. -/
structure ProducerSurface.Consistent (s : ProducerSurface) : Prop where
  keyed : s.Keyed
  agrees : s.queue.Agrees
  fault : s.queue.fault = false

theorem ProducerSurface.consistent_start (q : QueueSettings) (window : Option ObjectMap) :
    (ProducerSurface.start q window).Consistent :=
  ⟨.of_empty rfl, agrees_start q, rfl⟩

theorem PairedCall.next_consistent {link : Link} {s : ProducerSurface} (h : s.Consistent)
    {c : PairedCall} (hsane : c.Sane link s) : (c.next link s).Consistent := by
  cases c with
  | producer c =>
    have hstep : SurfaceStep link s c (c.next link s) := ⟨hsane, rfl⟩
    obtain ⟨ops, run⟩ := hstep.operates h.fault
    exact ⟨c.next_keyed link h.keyed, agrees_of_run h.agrees run, hsane.2.2⟩
  | consumerAttachBufferToQueue buffer =>
    obtain ⟨hagrees, hfault⟩ :=
      BufferQueue.consumerAttachBufferToQueue_agrees h.agrees h.fault buffer
    exact ⟨h.keyed.of_cache rfl, hagrees, hfault⟩
  | consumerDetachBufferFromQueue buffer isReserveSlot =>
    obtain ⟨hagrees, hfault⟩ :=
      BufferQueue.consumerDetachBufferFromQueue_agrees h.agrees h.fault buffer isReserveSlot
    exact ⟨h.keyed.of_cache rfl, hagrees, hfault⟩

theorem PairedCall.handsOverSelected_iff {link : Link} {s : ProducerSurface} (h : s.Consistent)
    {c : PairedCall} (hsane : c.Sane link s) :
    c.HandsOverSelected link s ↔ ¬ c.MissesObject link s := by
  cases c with
  | producer c => exact SurfaceCall.handsOverSelected_iff link h.keyed h.agrees hsane.1
  | consumerAttachBufferToQueue | consumerDetachBufferFromQueue => exact iff_of_true trivial id

/-- The producer detaches a buffer. The consumer attaches it, which raises its flag, and releases it, so
that the next request brings the object. -/
def detachedAndAttached : List PairedCall :=
  let buffer := .allocated ⟨1, 1, true, true⟩ sampleConfig
  [.producer (.requestBuffer id sampleConfig ⟨1, 1, true, true⟩),
    .producer (.detachBufferFromQueue buffer), .consumerAttachBufferToQueue buffer,
    .producer (.queue (.releaseBuffer 1 none ⟨0, 0, fun _ => true⟩)),
    .producer (.requestAndDetachBuffer sampleConfig ⟨2, 2, true, true⟩)]

/-- A batch for which the queue has nothing returns `OK` and a null pointer. -/
example :
    let s := (ProducerSurface.start { bufferQueueSize := 1, listener := true } none).requestBuffer
      (.inProcess 1) id sampleConfig ⟨1, 1, true, true⟩
    (s.2.requestBuffers (.inProcess 1) sampleConfig fun n => ⟨n + 2, n + 2, true, true⟩).1 =
      { ret := .ok, buffers := [none], fences := [none] } := by
  decide

end GraphicSurface
