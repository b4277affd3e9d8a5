import GraphicSurface.AllocationFlag
import GraphicSurface.HandOuts
import GraphicSurface.RequestOutcome

/-! `producerCacheClean_` asks for every buffer to go out with its object once more. What the queue
has sent since the flag was raised is kept beside it, and the list that the queue goes by names only
buffers of that history. -/

namespace GraphicSurface

open Runs

def RequestReply.Carries (reply : RequestReply) (k : ℕ) : Prop :=
  reply.ret = .ok ∧ reply.retval.sequence = k ∧
    ∃ b, reply.retval.buffer = some b ∧ b.seqNum = k

def Returned (history : List RequestReply) (k : ℕ) : Prop :=
  ∃ reply ∈ history, reply.Carries k

def Op.history (q : BufferQueue) (history : List RequestReply) : Op → List RequestReply
  | .setProducerCacheCleanFlag true => []
  | op => history ++ (op.replies q).map (·.1)

/-- An operation of a sequential run, and what it adds to the history. -/
def ReturnsStep (s : BufferQueue × List RequestReply) (op : Op)
    (s' : BufferQueue × List RequestReply) : Prop :=
  QueueStep s.1 op s'.1 ∧ s'.2 = op.history s.1 s.2

/-- What a reply does to the flag and to the list behind it. -/
inductive CleanEffect (q : BufferQueue) (reply : RequestReply) (q' : BufferQueue) : Prop
  | quiet (same : q'.marks.2 = q.marks.2)
  | noted (hup : q.producerCacheClean = true) (carries : reply.Carries reply.retval.sequence)
      (up : q'.producerCacheClean = true)
      (list : q'.producerCacheList = q.producerCacheList ++ [reply.retval.sequence])
  | dropped (hup : q.producerCacheClean = true) (carries : reply.Carries reply.retval.sequence)
      (down : q'.producerCacheClean = false)
      (all : ∀ k, (q'.bufferQueueCache.find k).isSome →
        k ∈ q.producerCacheList ++ [reply.retval.sequence])

theorem CleanEffect.of_marks {q q₁ q' : BufferQueue} {reply : RequestReply}
    (h : CleanEffect q₁ reply q') (same : q₁.marks.2 = q.marks.2) : CleanEffect q reply q' := by
  obtain ⟨hflag, hlist⟩ := Prod.mk.inj same
  cases h with
  | quiet h => exact .quiet (h.trans same)
  | noted hup carries up list => exact .noted (hflag ▸ hup) carries up (hlist ▸ list)
  | dropped hup carries down all => exact .dropped (hflag ▸ hup) carries down (hlist ▸ all)

/-- Each reply has its effect on the queue that the one before it has left. -/
def CleanEffects (q : BufferQueue) : List (RequestReply × BufferQueue) → Prop
  | [] => True
  | r :: rs => CleanEffect q r.1 r.2 ∧ CleanEffects r.2 rs

namespace BufferQueue

def afterReplies (q : BufferQueue) (rs : List (RequestReply × BufferQueue)) : BufferQueue :=
  rs.foldl (fun _ r => r.2) q

/-- While the flag is up, the list names buffers that have been returned since it was raised. -/
def ListReturned (q : BufferQueue) (history : List RequestReply) : Prop :=
  q.producerCacheClean = true → ∀ k ∈ q.producerCacheList, Returned history k

variable {q q' : BufferQueue} {history : List RequestReply} {reply : RequestReply}

/-- A section of a request that has not ended it has left the flag alone. -/
def PointEffect (q : BufferQueue) (r : ReusePoint × BufferQueue) : Prop :=
  match r.1 with
  | .done reply => CleanEffect q reply r.2
  | .setupNewBuffer _ | .reallocBuffer _ => r.2.marks.2 = q.marks.2

theorem deliverObject_effect (q : BufferQueue) {reply : RequestReply}
    (carries : reply.Carries reply.retval.sequence) :
    CleanEffect q reply (q.deliverObject reply.retval.sequence) := by
  have hcached (k : ℕ) (hk : ((q.deliverObject reply.retval.sequence).bufferQueueCache.find
      k).isSome) : k ∈ q.bufferQueueCache.keys := by
    unfold deliverObject at hk
    rw [BufferCache.find_modify, apply_ite Option.isSome, Option.isSome_map, ite_self] at hk
    exact (BufferCache.mem_keys _ _).mpr hk
  unfold deliverObject pushProducerCacheList at hcached ⊢
  split
  · exact .quiet rfl
  · rename_i hup
    rw [Bool.not_eq_true, Bool.not_eq_false'] at hup
    split
    · rename_i hall
      refine .dropped hup carries rfl fun k hk => ?_
      simpa using List.all_eq_true.mp hall k (hcached k hk)
    · exact .noted hup carries hup rfl

theorem updateReuse_effect (q : BufferQueue) (needRealloc : Bool) (sequence : ℕ) :
    CleanEffect q (q.updateReuseBufferState needRealloc sequence false).1
      (q.updateReuseBufferState needRealloc sequence false).2 := by
  unfold updateReuseBufferState
  split
  · exact .quiet rfl
  · rename_i ele hele
    dsimp only
    split
    · have hsequence : ele.buffer.seqNum = sequence := BufferCache.seqNum_of_find hele
      rw [if_neg Bool.false_ne_true]
      exact (deliverObject_effect _ ⟨rfl, rfl, _, rfl, hsequence⟩).of_marks rfl
    · exact .quiet rfl

theorem reuseBuffer_effect (q : BufferQueue) (config : BufferRequestConfig)
    (buffer : SurfaceBuffer) : PointEffect q (q.reuseBuffer config buffer false) := by
  unfold reuseBuffer
  split
  · exact .quiet rfl
  · split
    · exact q.updateReuse_effect false buffer.seqNum
    · have hdelete := congrArg Prod.snd (q.marks_deleteNoWait buffer.seqNum)
      rw [if_neg Bool.false_ne_true]
      exact hdelete

theorem PointEffect.of_marks {q₁ : BufferQueue} {r : ReusePoint × BufferQueue}
    (h : PointEffect q₁ r) (same : q₁.marks.2 = q.marks.2) : PointEffect q r := by
  obtain ⟨point, q'⟩ := r
  cases point with
  | done reply => exact CleanEffect.of_marks h same
  | setupNewBuffer job => exact Eq.trans h same
  | reallocBuffer job => exact Eq.trans h same

theorem requestPoint_effect (q : BufferQueue) (config : BufferRequestConfig) :
    PointEffect q (q.requestPoint config) :=
  requestPoint_induction (S := fun q q' => q'.marks.2 = q.marks.2) (P := PointEffect q) rfl
    (fun q₁ config h => (congrArg Prod.snd (q₁.marks_popFree config)).trans h)
    (fun q₁ h => (congrArg Prod.snd q₁.marks_popDirty).trans h)
    (fun _ _ _ _ h => h)
    (fun _ _ h _ => .quiet h)
    (fun _ _ h => h)
    (fun q₁ config buffer h => (q₁.reuseBuffer_effect config buffer).of_marks h)

theorem finishRequest_effect (a : Allocation) {r : ReusePoint × BufferQueue}
    (h : PointEffect q r) :
    CleanEffect q (r.2.finishRequest a r.1).1 (r.2.finishRequest a r.1).2 := by
  obtain ⟨point, q₁⟩ := r
  have hend (job : AllocJob) : (q₁.allocBufferEnd job a).2.marks.2 = q₁.marks.2 := by
    unfold allocBufferEnd
    dsimp only
    split <;> rfl
  cases point with
  | done reply => exact h
  | setupNewBuffer job =>
    have hsame := (hend job).trans h
    unfold finishRequest
    dsimp only
    split
    · rename_i q₂ hnone
      rw [hnone] at hsame
      exact .quiet hsame
    · rename_i buffer q₂ hsome
      rw [hsome] at hsame
      exact .quiet hsame
  | reallocBuffer job =>
    have hsame := (hend job).trans h
    unfold finishRequest
    dsimp only
    split
    · rename_i q₂ hnone
      rw [hnone] at hsame
      exact .quiet hsame
    · rename_i buffer q₂ hsome
      rw [hsome] at hsame
      exact (q₂.updateReuse_effect true buffer.seqNum).of_marks hsame

theorem requestBuffer_effect (q : BufferQueue) (config : BufferRequestConfig) (a : Allocation) :
    CleanEffect q (q.requestBuffer config a).1 (q.requestBuffer config a).2 := by
  rw [requestBuffer_eq]
  exact finishRequest_effect a (q.requestPoint_effect config)

theorem requestBuffersReplies_effects (q : BufferQueue) (config : BufferRequestConfig)
    (as : List Allocation) : CleanEffects q (q.requestBuffersReplies config as) := by
  induction as generalizing q with
  | nil => trivial
  | cons a as ih =>
    have hone := q.requestBuffer_effect config a
    unfold requestBuffersReplies
    dsimp only
    split
    · exact ⟨hone, trivial⟩
    · exact ⟨hone, ih _⟩

theorem requestBuffersLoop_queue (q : BufferQueue) (config : BufferRequestConfig)
    (as : List Allocation) :
    (q.requestBuffersLoop config as).2.2 = q.afterReplies (q.requestBuffersReplies config as) := by
  induction as generalizing q with
  | nil => rfl
  | cons a as ih =>
    unfold requestBuffersLoop requestBuffersReplies
    dsimp only
    split
    · rfl
    · exact ih _

theorem requestAndDetachBuffer_reply_eq (q : BufferQueue) (config : BufferRequestConfig)
    (a : Allocation) : (q.requestAndDetachBuffer config a).1 = (q.requestBuffer config a).1 := by
  have hsound : (q.requestBuffer config a).1.Sound false (q.requestBuffer config a).2 :=
    requestBufferLocked_sound q config a false
  unfold requestAndDetachBuffer
  change (if (q.requestBuffer config a).1.ret ≠ .ok then q.requestBuffer config a else _).1 = _
  split
  · rfl
  · rename_i hok
    rw [not_not] at hok
    obtain ⟨e, he, hs⟩ := hsound.marked hok
    have hcheck : (q.requestBuffer config a).2.detachBufferCheck
        (q.requestBuffer config a).1.retval.sequence .producerInvoker = .ok := by
      simp [detachBufferCheck, he, hs]
    have hdetach : ((q.requestBuffer config a).2.detachBufferFromQueueLocked
        (q.requestBuffer config a).1.retval.sequence .producerInvoker false).1 = .ok := by
      unfold detachBufferFromQueueLocked
      simp only [hcheck, ne_eq, not_true_eq_false, if_false]
    dsimp only
    exact congrArg (RequestReply.mk · _ _) (hdetach.trans hok.symm)

end BufferQueue

theorem BufferQueue.marks_afterReplies (q q₁ : BufferQueue) (same : q₁.marks.2 = q.marks.2)
    (rs : List (RequestReply × BufferQueue)) :
    (q₁.afterReplies rs).marks.2 = (q.afterReplies rs).marks.2 := by
  cases rs with
  | nil => exact same
  | cons r rs => rfl

theorem CleanEffects.of_marks {q q₁ : BufferQueue} {rs : List (RequestReply × BufferQueue)}
    (h : CleanEffects q₁ rs) (same : q₁.marks.2 = q.marks.2) : CleanEffects q rs := by
  cases rs with
  | nil => trivial
  | cons r rs => exact ⟨h.1.of_marks same, h.2⟩

theorem Op.replies_effects (q : BufferQueue) (op : Op) : CleanEffects q (op.replies q) := by
  cases op with
  | requestBuffer config a | requestAndDetachBuffer config a =>
    exact ⟨q.requestBuffer_effect config a, trivial⟩
  | requestBuffers config as =>
    exact (BufferQueue.requestBuffersReplies_effects _ config as).of_marks rfl
  | _ => trivial

theorem Op.next_flagAndList (q : BufferQueue) {op : Op} (hback : op ≠ .goBackground)
    (hset : ∀ flag, op ≠ .setProducerCacheCleanFlag flag) :
    (op.next q).marks.2 = (q.afterReplies (op.replies q)).marks.2 := by
  cases op with
  | requestBuffer config a => rfl
  | requestAndDetachBuffer config a =>
    have hsame (q : BufferQueue) (sequence : ℕ) := congrArg Prod.snd
      (q.marks_detachBufferFromQueueLocked sequence .producerInvoker false)
    change (q.requestAndDetachBuffer config a).2.marks.2 = (q.requestBuffer config a).2.marks.2
    unfold BufferQueue.requestAndDetachBuffer BufferQueue.requestBuffer
    dsimp only
    split
    · rfl
    · exact hsame _ _
  | requestBuffers config as =>
    have hloop := congrArg (fun q => q.marks.2)
      (BufferQueue.requestBuffersLoop_queue { q with isBatch := true } config as)
    exact Eq.trans hloop (q.marks_afterReplies { q with isBatch := true } rfl _)
  | goBackground => exact absurd rfl hback
  | setProducerCacheCleanFlag flag => exact absurd rfl (hset flag)
  | _ => exact congrArg Prod.snd (Op.next_marks q rfl)

theorem Returned.mono {history history' : List RequestReply} {k : ℕ} (h : Returned history k)
    (hsub : history ⊆ history') : Returned history' k :=
  h.imp fun _ => .imp_left (hsub ·)

namespace BufferQueue

variable {q q' : BufferQueue} {history : List RequestReply} {reply : RequestReply}

theorem ListReturned.noted (h : q.ListReturned history) (hup : q.producerCacheClean = true)
    (carries : reply.Carries reply.retval.sequence) :
    ∀ k ∈ q.producerCacheList ++ [reply.retval.sequence], Returned (history ++ [reply]) k := by
  intro k hk
  rcases List.mem_append.mp hk with hk | hk
  · exact (h hup k hk).mono (List.subset_append_left _ _)
  · obtain rfl := List.mem_singleton.mp hk
    exact ⟨reply, by simp, carries⟩

theorem ListReturned.after (h : q.ListReturned history) (heffect : CleanEffect q reply q') :
    q'.ListReturned (history ++ [reply]) := by
  cases heffect with
  | quiet same =>
    obtain ⟨hflag, hlist⟩ := Prod.mk.inj same
    intro hup k hk
    exact (h (hflag ▸ hup) k (hlist ▸ hk)).mono (List.subset_append_left _ _)
  | noted hup carries _ list =>
    intro _ k hk
    exact h.noted hup carries k (list ▸ hk)
  | dropped hup carries down all =>
    intro hup'
    rw [down] at hup'
    cases hup'

theorem ListReturned.replies {rs : List (RequestReply × BufferQueue)} (h : q.ListReturned history)
    (heffects : CleanEffects q rs) :
    (q.afterReplies rs).ListReturned (history ++ rs.map (·.1)) := by
  induction rs generalizing q history with
  | nil =>
    rw [List.map_nil, List.append_nil]
    exact h
  | cons r rs ih =>
    have hrest := ih (h.after heffects.1) heffects.2
    rw [List.append_assoc] at hrest
    exact hrest

theorem ListReturned.next (h : q.ListReturned history) (op : Op) :
    (op.next q).ListReturned (op.history q history) := by
  have hother (hback : op ≠ .goBackground) (hset : ∀ flag, op ≠ .setProducerCacheCleanFlag flag) :
      (op.next q).ListReturned (history ++ (op.replies q).map (·.1)) := by
    obtain ⟨hflag, hlist⟩ := Prod.mk.inj (Op.next_flagAndList q hback hset)
    have hreplies := h.replies (op.replies_effects q)
    rw [ListReturned] at hreplies ⊢
    rwa [hflag, hlist]
  cases op with
  | goBackground => intro hup; cases hup
  | setProducerCacheCleanFlag flag =>
    cases flag with
    | true => intro _ k hk; cases hk
    | false => intro hup; cases hup
  | _ => exact hother nofun nofun

theorem CleanEffects.split {r : RequestReply × BufferQueue}
    {before after : List (RequestReply × BufferQueue)}
    (h : CleanEffects q (before ++ r :: after)) :
    CleanEffects q before ∧ CleanEffect (q.afterReplies before) r.1 r.2 := by
  induction before generalizing q with
  | nil => exact ⟨trivial, h.1⟩
  | cons b before ih => exact ⟨⟨h.1, (ih h.2).1⟩, (ih h.2).2⟩

/-- When a request drops the flag, every buffer in the cache has been returned with its object since
the flag was raised, the one that this request returns among them. -/
theorem run_drops_complete {s : QueueSettings} {ops : List Op} {q : BufferQueue}
    {history : List RequestReply} (run : Run ReturnsStep (BufferQueue.start s, []) ops (q, history))
    {op : Op} {before after : List (RequestReply × BufferQueue)} {reply : RequestReply}
    {q' : BufferQueue} (hcall : op.replies q = before ++ (reply, q') :: after)
    (hup : (q.afterReplies before).producerCacheClean = true)
    (hdown : q'.producerCacheClean = false) :
    ∀ k, (q'.bufferQueueCache.find k).isSome →
      Returned (history ++ (before.map (·.1) ++ [reply])) k := by
  have hstep : ∀ s op s', s.1.ListReturned s.2 → ReturnsStep s op s' → s'.1.ListReturned s'.2 := by
    rintro ⟨q, history⟩ op ⟨q', history'⟩ h ⟨⟨-, rfl, -⟩, rfl⟩
    exact h.next op
  have hstart : (BufferQueue.start s).ListReturned [] := fun _ k hk => (by cases hk)
  have hlist := run.invariant hstep hstart
  have heffects := op.replies_effects q
  rw [hcall] at heffects
  obtain ⟨hbefore, heffect⟩ := CleanEffects.split heffects
  have hlist' := hlist.replies hbefore
  rw [← List.append_assoc]
  cases heffect with
  | quiet same =>
    have hflag := (Prod.mk.inj same).1
    rw [hup, hdown] at hflag
    cases hflag
  | noted _ _ up =>
    rw [up] at hdown
    cases hdown
  | dropped _ carries _ all => exact fun k hk => hlist'.noted hup carries k (all k hk)

end BufferQueue

def raisedWithOne : List Op :=
  [.requestBuffer sampleConfig ⟨1, 1, true, true⟩, .cancelBuffer 1 (some ∅),
    .setProducerCacheCleanFlag true]

/-- The next request returns it with its object, and the flag is down. -/
theorem run_drops_complete_one :
    ∃ q history, Run ReturnsStep (BufferQueue.start { listener := true }, []) raisedWithOne
        (q, history) ∧
      q.producerCacheClean = true ∧
      (q.requestBuffer sampleConfig ⟨2, 2, true, true⟩).2.producerCacheClean = false ∧
      ∀ k, ((q.requestBuffer sampleConfig ⟨2, 2, true, true⟩).2.bufferQueueCache.find k).isSome →
        Returned (history ++ ([] ++ [(q.requestBuffer sampleConfig ⟨2, 2, true, true⟩).1])) k := by
  have hlegal : Legal (fun s op => (op.next s.1, op.history s.1 s.2))
      (fun s op => op.Fresh s.1 ∧ (op.next s.1).fault = false)
      (BufferQueue.start { listener := true }, []) raisedWithOne := by decide
  have hrun : Run ReturnsStep _ _ _ := .of_legal (fun _ _ h => ⟨⟨h.1, rfl, h.2⟩, rfl⟩) hlegal
  refine ⟨_, _, hrun, by decide, by decide, ?_⟩
  exact BufferQueue.run_drops_complete hrun
    (show (Op.requestBuffer sampleConfig ⟨2, 2, true, true⟩).replies _ = [] ++ (_, _) :: [] from rfl)
    (by decide) (by decide)

end GraphicSurface
