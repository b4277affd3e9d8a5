import GraphicSurface.Settling

/-! What a call gives to the producer: the replies of its requests, each one with the queue as it
is when the reply is built, and the buffers that a release hands to the listener. -/

namespace GraphicSurface

open Runs SlotPool

namespace BufferQueue

def requestBuffersReplies (q : BufferQueue) (config : BufferRequestConfig) :
    List Allocation → List (RequestReply × BufferQueue)
  | [] => []
  | a :: as =>
    match q.requestBuffer config a with
    | (reply, q) =>
      if reply.ret ≠ .ok then [(reply, q)] else (reply, q) :: q.requestBuffersReplies config as

def releaseGiven (q : BufferQueue) (sequence : ℕ) (fence : Option SyncFence) (env : ReleaseEnv) :
    List ℕ :=
  (q.releaseBufferSection sequence fence env).2.1.map (·.1)

def releaseDropsGiven (q : BufferQueue) (envs : ℕ → ReleaseEnv) : List BufferAndFence → List ℕ
  | [] => []
  | d :: dropBuffers =>
    q.releaseGiven d.1.seqNum d.2 (envs d.1.seqNum) ++
      (q.releaseBuffer d.1.seqNum d.2 (envs d.1.seqNum)).2.releaseDropsGiven envs dropBuffers

def acquireGiven (q : BufferQueue) (expectPresentTimestamp : Int) (isUsingAutoTimestamp : Bool)
    (now : Int) (envs : ℕ → ReleaseEnv) : List ℕ :=
  if expectPresentTimestamp ≤ 0 ∨ q.dirtyList = [] then []
  else
    let (dropped, q) := q.dropBuffersByLevel now
    let q' := q.releaseDropBuffers envs dropped
    q.releaseDropsGiven envs dropped ++
      match q'.acquireByTimestampSection expectPresentTimestamp isUsingAutoTimestamp with
      | (ret, dropped, q) => if ret ≠ .ok then [] else q.releaseDropsGiven envs dropped

end BufferQueue

namespace Op

def replies (q : BufferQueue) : Op → List (RequestReply × BufferQueue)
  | requestBuffer config a | requestAndDetachBuffer config a => [q.requestBuffer config a]
  | requestBuffers config as => { q with isBatch := true }.requestBuffersReplies config as
  | _ => []

def given (q : BufferQueue) (op : Op) : List ℕ :=
  match op with
  | releaseBuffer sequence fence env => q.releaseGiven sequence fence env
  | acquireBufferByTimestamp expect auto now envs => q.acquireGiven expect auto now envs
  | _ => ((op.replies q).filter (·.1.ret == .ok)).map (·.1.retval.sequence)

end Op

namespace BufferQueue

variable {q q' : BufferQueue}

theorem requestBuffersReplies_took (h : q.Agrees) (config : BufferRequestConfig)
    (as : List Allocation) (hnodup : (as.map (·.sequence)).Nodup)
    (hfresh : ∀ a ∈ as, q.bufferQueueCache.find a.sequence = none) :
    ∀ r ∈ q.requestBuffersReplies config as, r.1.ret = .ok →
      (∃ e, q.bufferQueueCache.find r.1.retval.sequence = some e ∧ e.Parked) ∨
        r.1.retval.sequence ∈ as.map (·.sequence) := by
  induction as generalizing q with
  | nil => simp [requestBuffersReplies]
  | cons a as ih =>
    rw [List.map_cons, List.nodup_cons] at hnodup
    have hfirst := hfresh a List.mem_cons_self
    have hlends : Lends true q _ := requestBufferLocked_lends h config a hfirst
    have htook := requestBufferLocked_took h config a
    have hrefines := requestBufferLocked_refines h config a hfirst
    have hone (hret : (q.requestBufferLocked config a false).1.ret = .ok) :
        (∃ e, q.bufferQueueCache.find (q.requestBufferLocked config a false).1.retval.sequence =
          some e ∧ e.Parked) ∨
        (q.requestBufferLocked config a false).1.retval.sequence ∈
          (a :: as).map (·.sequence) := by
      refine (htook hret).imp_right fun hseq => ?_
      rw [hseq]
      exact List.mem_cons_self
    unfold requestBuffersReplies requestBuffer
    dsimp only
    split
    · intro r hr
      obtain rfl := List.mem_singleton.mp hr
      exact hone
    · intro r hr hret
      rcases List.mem_cons.mp hr with rfl | hr
      · exact hone hret
      · have hrest : ∀ b ∈ as, (q.requestBufferLocked config a false).2.bufferQueueCache.find
            b.sequence = none := by
          intro b hb
          have hne : b.sequence ∉ [a.sequence] := by
            intro heq
            exact hnodup.1 (List.mem_singleton.mp heq ▸ List.mem_map_of_mem hb)
          exact hrefines.absent (fun m hm => ne_of_requests hm hne)
            (hfresh b (List.mem_cons_of_mem a hb))
        rcases ih (hrefines.agrees h) hnodup.2 hrest r hr hret with ⟨e, he, hparked⟩ | hin
        · exact .inl (hlends.parked_back he hparked)
        · exact .inr (List.mem_cons_of_mem _ hin)

theorem releaseGiven_took (h : q.Agrees) {sequence : ℕ} {fence : Option SyncFence}
    {env : ReleaseEnv} {k : ℕ} (hk : k ∈ q.releaseGiven sequence fence env) :
    ∃ e, (q.releaseBufferLocked sequence fence env).2.bufferQueueCache.find k = some e ∧
      e.Parked := by
  have hagrees := (releaseBufferLocked_refines h sequence fence env).agrees h
  unfold releaseGiven releaseBufferSection requestBuffersForListenerLocked at hk
  dsimp only at hk
  split at hk
  · simp at hk
  · split at hk
    · obtain ⟨d, hd, rfl⟩ := List.mem_map.mp hk
      exact handOut_took hagrees _ _ d hd
    · simp at hk

end BufferQueue

end GraphicSurface
