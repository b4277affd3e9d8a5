import GraphicSurface.RequestEffects

/-! `RequestBuffersForListenerLocked`: a release in listener mode requests free buffers for the
producer's listener, one configuration after the other, until none is left. A free buffer that the
listener cannot be given goes back to the end of the list and ends the round of its
configuration. -/

namespace GraphicSurface

open SlotPool Runs

/-- Where the `while` loop stands: the configurations from `configIndex` on and the buffers it has
collected. -/
@[ext]
structure HandOutLoop where
  queue : BufferQueue
  configs : List BufferRequestConfig
  handed : List (ℕ × Option SyncFence)

def HandOutLoop.round (l : HandOutLoop) : HandOutLoop :=
  match l.configs with
  | [] => l
  | config :: configs =>
    match l.queue.requestBufferLocked config BufferQueue.noAllocation true with
    | (reply, q) =>
      if reply.ret = .ok then
        ⟨q.setRequestedFromListener reply.retval.sequence, config :: configs,
          l.handed ++ [(reply.retval.sequence, reply.retval.fence)]⟩
      else ⟨q, configs, l.handed⟩

/-- What the loop reads of an entry. -/
structure Profile where
  state : BufferState
  config : BufferRequestConfig
  bufferRequestConfig : BufferRequestConfig
  isPreAllocBuffer : Bool
  consumerAttachBufferFlag : Bool

def BufferElement.profile (e : BufferElement) : Profile :=
  ⟨e.state, e.config, e.buffer.bufferRequestConfig, e.isPreAllocBuffer,
    e.buffer.consumerAttachBufferFlag⟩

def BufferElement.ownConfig (e : BufferElement) : BufferRequestConfig :=
  { e.buffer.bufferRequestConfig with timeout := 0 }

/-- The loop starts in a queue between two calls, or in a release after `ReleaseBufferLocked`. -/
inductive ListenerLoopStart : BufferQueue → Prop
  | reachable {q : BufferQueue} (h : Reachable q) : ListenerLoopStart q
  | release {q : BufferQueue} (h : Reachable q) (sequence : ℕ) (fence : Option SyncFence)
      (env : ReleaseEnv) : ListenerLoopStart (q.releaseBufferLocked sequence fence env).2

namespace BufferQueue

def handOutStart (q : BufferQueue) : HandOutLoop := ⟨q, q.collectConfigs q.freeList [], []⟩

/-- A free buffer that a request for the listener could be answered with as it is. -/
structure FitsListener (q : BufferQueue) (k : ℕ) (e : BufferElement) : Prop where
  free : k ∈ q.freeList
  entry : q.bufferQueueCache.find k = some e
  config : e.config.same (q.requestedConfig e.ownConfig) = true
  unlocked : k ≠ q.acquireLastFlushedBufSequence
  notPreAlloc : e.isPreAllocBuffer = false
  notAttached : e.buffer.consumerAttachBufferFlag = false
  clean : q.producerCacheClean = false

/-- The checks of `RequestBufferLocked` let the configuration of this buffer through, whichever
free buffer with the same one the loop has collected it from, and no free buffer with the same
cached configuration has to go out with its object. -/
structure Admits (q : BufferQueue) (e : BufferElement) : Prop where
  status : q.requestBufferCheckStatus = .ok
  checks : ∀ j ∈ q.freeList, ∀ e', q.bufferQueueCache.find j = some e' →
    e'.ownConfig.same e.ownConfig = true → checkRequestConfig e'.ownConfig = .ok
  peers : ∀ j ∈ q.freeList, j ≠ q.acquireLastFlushedBufSequence →
    ∀ e', q.bufferQueueCache.find j = some e' → e'.config.same e.config = true →
      e'.isPreAllocBuffer = false ∧ e'.buffer.consumerAttachBufferFlag = false

variable {q q' q₁ : BufferQueue} {config : BufferRequestConfig} {k : ℕ} {e : BufferElement}

/-- A request that comes to nothing may rotate the free list and recolour a buffer. -/
structure Restores (q q' : BufferQueue) : Prop where
  settings : q'.toQueueSettings = q.toQueueSettings
  clean : q'.producerCacheClean = q.producerCacheClean
  freeList : q'.freeList.Perm q.freeList
  dirtyList : q'.dirtyList = q.dirtyList
  profile : ∀ j, (q'.bufferQueueCache.find j).map BufferElement.profile =
    (q.bufferQueueCache.find j).map BufferElement.profile

theorem Restores.refl (q : BufferQueue) : Restores q q :=
  ⟨rfl, rfl, .refl _, rfl, fun _ => rfl⟩

/-- A request that is answered with `k`. -/
structure Gives (k : ℕ) (q q' : BufferQueue) : Prop where
  free : k ∈ q.freeList
  settings : q'.toQueueSettings = q.toQueueSettings
  clean : q'.producerCacheClean = q.producerCacheClean
  freeList : q'.freeList = q.freeList.erase k
  dirtyList : q'.dirtyList = q.dirtyList
  requested : ∃ e, q'.bufferQueueCache.find k = some e ∧ e.state = .requested
  profile : ∀ j, j ≠ k → (q'.bufferQueueCache.find j).map BufferElement.profile =
    (q.bufferQueueCache.find j).map BufferElement.profile

/-- `UpdateReuseBufferState` for the listener, after the pop of a free buffer. -/
theorem updateReuse_listener (hmem : k ∈ q.freeList) (he : q.bufferQueueCache.find k = some e)
    (hstate : e.state = .released) :
    let q₁ : BufferQueue := { q with freeList := q.freeList.erase k }
    let r := q₁.updateReuseBufferState false k true
    if q.needsObject false e then r.1.ret = .noBuffer ∧ Restores q r.2
    else r.1.ret = .ok ∧ r.1.retval.sequence = k ∧ Gives k q r.2 := by
  intro q₁ r
  have he₁ : q₁.bufferQueueCache.find k = some e := he
  have hneeds : ((q₁.markRequested k).addDeletingBuffersLocked []).2.needsObject false e =
      q.needsObject false e := rfl
  have hother : ∀ j, j ≠ k → r.2.bufferQueueCache.find j = q.bufferQueueCache.find j :=
    fun j hj => find_updateReuse_other false true he₁ hj
  have hr : r = q₁.updateReuseBufferState false k true := rfl
  unfold updateReuseBufferState at hr
  rw [he₁] at hr
  simp only [hneeds, if_true] at hr
  split
  · rename_i hobject
    rw [if_pos hobject] at hr
    rw [hr] at hother ⊢
    refine ⟨rfl, rfl, rfl, ?_, rfl, fun j => ?_⟩
    · exact (List.perm_append_singleton _ _).trans (List.perm_cons_erase hmem).symm
    · by_cases hj : j = k
      · subst hj
        simp [putBack, addDeletingBuffersLocked, markRequested, he₁, he, BufferElement.profile,
          BufferElement.setState, hstate]
      · rw [hother j hj]
  · rename_i hobject
    rw [if_neg hobject] at hr
    rw [hr] at hother ⊢
    refine ⟨rfl, rfl, hmem, rfl, rfl, rfl, rfl, ⟨e.setState .requested, ?_, rfl⟩, fun j hj => ?_⟩
    · simp [addDeletingBuffersLocked, markRequested, he₁]
    · rw [hother j hj]

theorem PopsOldest.restores {rest : List ℕ} (h : q.PopsOldest config k rest e) :
    (q.requestBufferBody config true).1 = .reached (.done (.error .noBuffer)) ∧
      Restores q (q.requestBufferBody config true).2 := by
  have hperm : (k :: rest).Perm q.freeList := h.order ▸ mem_rotateLocked q
  have hseq : (e.recolour config.colorGamut config.transform).buffer.seqNum = k :=
    (BufferElement.recolour_seqNum _ _ e).trans (BufferCache.seqNum_of_find h.entry)
  have hfind : (q.bufferQueueCache.modify k
      (BufferElement.recolour config.colorGamut config.transform)
      (BufferElement.recolour_seqNum _ _)).find k =
      some (e.recolour config.colorGamut config.transform) := by
    simp [h.entry]
  have hother : config.same (e.recolour config.colorGamut config.transform).config = false :=
    h.other
  unfold requestBufferBody
  simp only [Bool.or_true, if_true, h.pop]
  simp only [reuseBuffer, hseq, hfind, hother, if_true, Bool.false_eq_true, if_false]
  refine ⟨trivial, rfl, rfl, (List.perm_append_singleton k rest).trans hperm, rfl, fun j => ?_⟩
  by_cases hj : k = j
  · subst hj
    simp [h.entry, BufferElement.profile, BufferElement.recolour,
      SurfaceBuffer.setColorGamutAndTransform]
  · simp [hj]

theorem requestForListener_cases (h : q.Agrees) (config : BufferRequestConfig) :
    let r := q.requestBufferLocked config noAllocation true
    (r.1.ret = .ok ∧ Gives r.1.retval.sequence q r.2) ∨
      (r.1.ret ≠ .ok ∧ Restores q r.2 ∧
        ∀ updateConfig, q.requestBufferCheck config = .ok updateConfig →
          (∃ k ∈ q.freeList, q.reusable updateConfig k = true) →
          ∃ j ∈ q.freeList, q.reusable updateConfig j = true ∧
            ∃ e, q.bufferQueueCache.find j = some e ∧ q.needsObject false e = true) := by
  intro r
  cases hcheck : q.requestBufferCheck config with
  | error ret =>
    have hr : r = (.error ret, q) := by
      simp only [r, requestBufferLocked, hcheck]
    rw [hr]
    exact .inr ⟨requestBufferCheck_error hcheck, .refl q, fun _ hc => by cases hc⟩
  | ok updateConfig =>
    cases hfind : q.freeList.find? (q.reusable updateConfig) with
    | some k =>
      have hmem := List.mem_of_find?_eq_some hfind
      obtain ⟨e₀, he₀, hstate⟩ := h.state_of_mem_free hmem
      obtain ⟨e, hpop, hseq, hsame, hpicked⟩ := picked_reusable h hfind
      have he := hpicked.entry
      rw [he₀, Option.some.injEq] at he
      subst he
      have hr : r = ({ q with freeList := q.freeList.erase k } : BufferQueue).updateReuseBufferState
          false k true := by
        simp only [r, requestBufferLocked, hcheck, requestBufferBody, hpop, Bool.or_true, if_true,
          reuseBuffer, hseq, he₀, hsame]
        rfl
      have hreuse := updateReuse_listener hmem he₀ hstate
      rw [hr]
      dsimp only at hreuse ⊢
      split at hreuse
      · rename_i hobject
        refine .inr ⟨by rw [hreuse.1]; decide, hreuse.2, fun c hc _ => ?_⟩
        obtain rfl := Except.ok.inj hc
        exact ⟨k, hmem, List.find?_some hfind, e₀, he₀, hobject⟩
      · obtain ⟨hret, hsequence, hgives⟩ := hreuse
        exact .inl ⟨hret, hsequence.symm ▸ hgives⟩
    | none =>
      have hnone : ∀ j ∈ q.freeList, q.reusable updateConfig j = false := by
        simpa using List.find?_eq_none.mp hfind
      have hbody : (q.requestBufferBody updateConfig true).1 =
          .reached (.done (.error .noBuffer)) ∧
            Restores q (q.requestBufferBody updateConfig true).2 := by
        rcases pop_of_not_reusable h (List.any_eq_false.mpr (by simpa using hnone)) with
          ⟨hpop, -⟩ | ⟨front, rest, e, hoff⟩
        · unfold requestBufferBody
          simp only [Bool.or_true, if_true, hpop]
          exact ⟨trivial, .refl q⟩
        · exact hoff.restores
      have hr : r = (.error .noBuffer, (q.requestBufferBody updateConfig true).2) := by
        have hsplit : q.requestBufferBody updateConfig true =
            (.reached (.done (.error .noBuffer)), (q.requestBufferBody updateConfig true).2) :=
          Prod.ext hbody.1 rfl
        simp only [r, requestBufferLocked, hcheck]
        rw [hsplit]
        rfl
      rw [hr]
      refine .inr ⟨by simp [RequestReply.error], hbody.2, fun c hc hfit => ?_⟩
      obtain rfl := Except.ok.inj hc
      obtain ⟨k, hk, hreusable⟩ := hfit
      exact absurd (hreusable.symm.trans (hnone k hk)) (by decide)

/-- The buffers of `handed` have left the free list for the listener, and nothing else has
changed. -/
structure HandsOver (handed : List ℕ) (q q' : BufferQueue) : Prop where
  settings : q'.toQueueSettings = q.toQueueSettings
  clean : q'.producerCacheClean = q.producerCacheClean
  free : (handed ++ q'.freeList).Perm q.freeList
  dirtyList : q'.dirtyList = q.dirtyList
  requested : ∀ k ∈ handed, ∃ e, q'.bufferQueueCache.find k = some e ∧ e.state = .requested
  profile : ∀ k, k ∉ handed → (q'.bufferQueueCache.find k).map BufferElement.profile =
    (q.bufferQueueCache.find k).map BufferElement.profile

namespace HandsOver

theorem refl (q : BufferQueue) : HandsOver [] q q :=
  ⟨rfl, rfl, .refl _, rfl, by simp, fun _ _ => rfl⟩

variable {handed : List ℕ}

theorem after_restores (h : Restores q q₁) (hover : HandsOver handed q₁ q') :
    HandsOver handed q q' where
  settings := hover.settings.trans h.settings
  clean := hover.clean.trans h.clean
  free := hover.free.trans h.freeList
  dirtyList := hover.dirtyList.trans h.dirtyList
  requested := hover.requested
  profile j hj := (hover.profile j hj).trans (h.profile j)

theorem after_gives (h : Gives k q q₁) (hover : HandsOver handed q₁ q') :
    HandsOver (k :: handed) q q' where
  settings := hover.settings.trans h.settings
  clean := hover.clean.trans h.clean
  free := by
    have hfree := hover.free
    rw [h.freeList] at hfree
    exact (hfree.cons k).trans (List.perm_cons_erase h.free).symm
  dirtyList := hover.dirtyList.trans h.dirtyList
  requested j hj := by
    by_cases hin : j ∈ handed
    · exact hover.requested j hin
    · obtain rfl : j = k := (List.mem_cons.mp hj).resolve_right hin
      obtain ⟨e, he, hs⟩ := h.requested
      have hprofile := hover.profile j hin
      rw [he] at hprofile
      obtain ⟨e', he', hsame⟩ := Option.map_eq_some_iff.mp hprofile
      exact ⟨e', he', (congrArg Profile.state hsame).trans hs⟩
  profile j hj := by
    obtain ⟨hne, hin⟩ := not_or.mp (mt List.mem_cons.mpr hj)
    exact (hover.profile j hin).trans (h.profile j hne)

end HandsOver

theorem Gives.marked (h : Gives k q q₁) (sequence : ℕ) :
    Gives k q (q₁.setRequestedFromListener sequence) := by
  have hprofile (j : ℕ) :
      ((q₁.setRequestedFromListener sequence).bufferQueueCache.find j).map BufferElement.profile =
        (q₁.bufferQueueCache.find j).map BufferElement.profile := by
    simp only [setRequestedFromListener, BufferCache.find_modify]
    split
    · rw [Option.map_map]
      rfl
    · rfl
  obtain ⟨e, he, hs⟩ := h.requested
  refine ⟨h.free, h.settings, h.clean, h.freeList, h.dirtyList, ?_,
    fun j hj => (hprofile j).trans (h.profile j hj)⟩
  have hk := hprofile k
  rw [he] at hk
  obtain ⟨e', he', hsame⟩ := Option.map_eq_some_iff.mp hk
  exact ⟨e', he', (congrArg Profile.state hsame).trans hs⟩

theorem agrees_after_request (h : q.Agrees) (config : BufferRequestConfig) (sequence : ℕ) :
    (q.requestBufferLocked config noAllocation true).2.Agrees ∧
      ((q.requestBufferLocked config noAllocation true).2.setRequestedFromListener
        sequence).Agrees := by
  have hagrees := (requestBufferLocked_refines_listener h config noAllocation).agrees h
  refine ⟨hagrees, ?_⟩
  rw [Agrees, pool_setRequestedFromListener]
  exact hagrees

theorem handOut_handsOver (h : q.Agrees) (fuel : ℕ) (configs : List BufferRequestConfig) :
    HandsOver ((q.handOut fuel configs).1.map (·.1)) q (q.handOut fuel configs).2 := by
  induction fuel generalizing q configs with
  | zero => exact .refl q
  | succ fuel ih =>
    cases configs with
    | nil => exact .refl q
    | cons config configs =>
      obtain ⟨hagrees, hmarked⟩ := agrees_after_request h config
        (q.requestBufferLocked config noAllocation true).1.retval.sequence
      unfold handOut
      dsimp only
      rcases requestForListener_cases h config with ⟨hret, hgives⟩ | ⟨hret, hrestores, -⟩
      · rw [if_pos hret]
        exact .after_gives (hgives.marked _) (ih hmarked (config :: configs))
      · rw [if_neg hret]
        exact .after_restores hrestores (ih hagrees configs)

/-! The loop ends: every round takes a buffer out of the free list or passes a configuration. -/

theorem rounds_eq (q : BufferQueue) (fuel : ℕ) (configs : List BufferRequestConfig)
    (handed : List (ℕ × Option SyncFence)) :
    (HandOutLoop.round^[fuel] ⟨q, configs, handed⟩).queue = (q.handOut fuel configs).2 ∧
      (HandOutLoop.round^[fuel] ⟨q, configs, handed⟩).handed =
        handed ++ (q.handOut fuel configs).1 := by
  induction fuel generalizing q configs handed with
  | zero => exact ⟨rfl, (List.append_nil handed).symm⟩
  | succ fuel ih =>
    rw [Function.iterate_succ_apply]
    cases configs with
    | nil =>
      have hstill : HandOutLoop.round ⟨q, [], handed⟩ = ⟨q, [], handed⟩ := rfl
      rw [hstill, Function.iterate_fixed hstill]
      exact ⟨rfl, (List.append_nil handed).symm⟩
    | cons config configs =>
      unfold handOut
      dsimp only [HandOutLoop.round]
      split
      · obtain ⟨hqueue, hhanded⟩ := ih
          ((q.requestBufferLocked config noAllocation true).2.setRequestedFromListener
            (q.requestBufferLocked config noAllocation true).1.retval.sequence) (config :: configs)
          (handed ++ [((q.requestBufferLocked config noAllocation true).1.retval.sequence,
            (q.requestBufferLocked config noAllocation true).1.retval.fence)])
        refine ⟨hqueue, hhanded.trans ?_⟩
        rw [List.append_assoc]
        rfl
      · exact ih _ configs handed

theorem rounds_end (h : q.Agrees) (fuel : ℕ) (configs : List BufferRequestConfig)
    (handed : List (ℕ × Option SyncFence)) (hfuel : q.freeList.length + configs.length ≤ fuel) :
    (HandOutLoop.round^[fuel] ⟨q, configs, handed⟩).configs = [] := by
  induction fuel generalizing q configs handed with
  | zero =>
    have hnone : configs.length = 0 := by omega
    exact List.length_eq_zero_iff.mp hnone
  | succ fuel ih =>
    rw [Function.iterate_succ_apply]
    cases configs with
    | nil =>
      have hstill : HandOutLoop.round ⟨q, [], handed⟩ = ⟨q, [], handed⟩ := rfl
      rw [hstill, Function.iterate_fixed hstill]
    | cons config configs =>
      obtain ⟨hagrees, hmarked⟩ := agrees_after_request h config
        (q.requestBufferLocked config noAllocation true).1.retval.sequence
      rw [List.length_cons] at hfuel
      dsimp only [HandOutLoop.round]
      rcases requestForListener_cases h config with ⟨hret, hgives⟩ | ⟨hret, hrestores, -⟩
      · rw [if_pos hret]
        have hfree := (hgives.marked (q.requestBufferLocked config noAllocation true).1.retval.sequence).freeList
        have hpos := List.length_pos_of_mem hgives.free
        refine ih hmarked _ _ ?_
        rw [hfree, List.length_erase_of_mem hgives.free, List.length_cons]
        omega
      · rw [if_neg hret]
        have hlength := hrestores.freeList.length_eq
        refine ih hagrees _ _ ?_
        omega

theorem requestedConfig_same {config' : BufferRequestConfig} (h : config.same config' = true) :
    (q.requestedConfig config).same (q.requestedConfig config') = true := by
  simp only [BufferRequestConfig.same, requestedConfig, Bool.and_eq_true, beq_iff_eq] at h ⊢
  exact ⟨h.1, congrArg (· ||| q.defaultUsage) h.2⟩

theorem same_trans {a b c : BufferRequestConfig} (hab : a.same b = true) (hbc : b.same c = true) :
    a.same c = true := by
  simp only [BufferRequestConfig.same, Bool.and_eq_true, beq_iff_eq] at hab hbc ⊢
  exact ⟨⟨⟨hab.1.1.1.trans hbc.1.1.1, hab.1.1.2.trans hbc.1.1.2⟩, hab.1.2.trans hbc.1.2⟩,
    hab.2.trans hbc.2⟩

theorem mem_collectConfigs (q : BufferQueue) (l : List ℕ) (configs : List BufferRequestConfig) :
    (∀ c ∈ q.collectConfigs l configs, c ∈ configs ∨ ∃ j ∈ l, ∃ e,
        q.bufferQueueCache.find j = some e ∧ c = e.ownConfig) ∧
      (∀ c ∈ configs, c ∈ q.collectConfigs l configs) ∧
      ∀ k ∈ l, ∀ e, q.bufferQueueCache.find k = some e →
        ∃ c ∈ q.collectConfigs l configs, c.same e.ownConfig = true := by
  induction l generalizing configs with
  | nil => exact ⟨fun c hc => .inl hc, fun c hc => hc, by simp⟩
  | cons sequence rest ih =>
    unfold collectConfigs
    cases he : q.bufferQueueCache.find sequence with
    | none =>
      obtain ⟨hfrom, hkeeps, hall⟩ := ih configs
      refine ⟨fun c hc => (hfrom c hc).imp_right ?_, hkeeps, fun k hk e hke => ?_⟩
      · rintro ⟨j, hj, hrest⟩
        exact ⟨j, List.mem_cons_of_mem _ hj, hrest⟩
      · rcases List.mem_cons.mp hk with rfl | hk
        · simp [he] at hke
        · exact hall k hk e hke
    | some ele =>
      dsimp only
      split
      · rename_i hany
        obtain ⟨hfrom, hkeeps, hall⟩ := ih configs
        refine ⟨fun c hc => (hfrom c hc).imp_right ?_, hkeeps, fun k hk e hke => ?_⟩
        · rintro ⟨j, hj, hrest⟩
          exact ⟨j, List.mem_cons_of_mem _ hj, hrest⟩
        · rcases List.mem_cons.mp hk with rfl | hk
          · rw [he, Option.some.injEq] at hke
            subst hke
            obtain ⟨c, hc, hsame⟩ := List.any_eq_true.mp hany
            exact ⟨c, hkeeps c hc, hsame⟩
          · exact hall k hk e hke
      · obtain ⟨hfrom, hkeeps, hall⟩ := ih (configs ++ [ele.ownConfig])
        refine ⟨fun c hc => ?_, fun c hc => hkeeps c (List.mem_append_left _ hc),
          fun k hk e hke => ?_⟩
        · rcases hfrom c hc with hc | ⟨j, hj, hrest⟩
          · rcases List.mem_append.mp hc with hc | hc
            · exact .inl hc
            · exact .inr ⟨sequence, List.mem_cons_self, ele, he, List.mem_singleton.mp hc⟩
          · exact .inr ⟨j, List.mem_cons_of_mem _ hj, hrest⟩
        · rcases List.mem_cons.mp hk with rfl | hk
          · rw [he, Option.some.injEq] at hke
            subst hke
            exact ⟨_, hkeeps _ (List.mem_append_right _ (List.mem_singleton_self _)),
              BufferRequestConfig.same_refl _⟩
          · exact hall k hk e hke

/-- A free buffer waits for the round of `config`, and nothing with its configuration is in the
way. -/
structure Awaits (q : BufferQueue) (config : BufferRequestConfig) (k : ℕ) : Prop where
  free : k ∈ q.freeList
  check : q.requestBufferCheck config = .ok (q.requestedConfig config)
  reusable : q.reusable (q.requestedConfig config) k = true
  clean : q.producerCacheClean = false
  peers : ∀ j ∈ q.freeList, q.reusable (q.requestedConfig config) j = true →
    ∀ e, q.bufferQueueCache.find j = some e →
      e.isPreAllocBuffer = false ∧ e.buffer.consumerAttachBufferFlag = false

theorem reusable_congr (hsettings : q'.toQueueSettings = q.toQueueSettings)
    (hprofile : (q'.bufferQueueCache.find k).map BufferElement.profile =
      (q.bufferQueueCache.find k).map BufferElement.profile) (config : BufferRequestConfig) :
    q'.reusable config k = q.reusable config k := by
  unfold reusable
  rw [hsettings]
  cases he : q.bufferQueueCache.find k with
  | none =>
    rw [he, Option.map_none, Option.map_eq_none_iff] at hprofile
    rw [hprofile]
  | some e =>
    rw [he] at hprofile
    obtain ⟨e', he', hsame⟩ := Option.map_eq_some_iff.mp hprofile
    have hconfig : e'.config = e.config := congrArg Profile.config hsame
    rw [he']
    dsimp only
    rw [hconfig]

theorem Awaits.transfer (h : q.Awaits config k)
    (hsettings : q'.toQueueSettings = q.toQueueSettings)
    (hclean : q'.producerCacheClean = q.producerCacheClean) (hfree : k ∈ q'.freeList)
    (hsub : q'.freeList ⊆ q.freeList)
    (hprofile : ∀ j ∈ q'.freeList, (q'.bufferQueueCache.find j).map BufferElement.profile =
      (q.bufferQueueCache.find j).map BufferElement.profile) : q'.Awaits config k := by
  have hrequested : q'.requestedConfig config = q.requestedConfig config := by
    unfold requestedConfig
    rw [hsettings]
  refine ⟨hfree, ?_, ?_, hclean.trans h.clean, fun j hj hreusable e' he' => ?_⟩
  · rw [requestBufferCheck_congr hsettings, hrequested]
    exact h.check
  · rw [hrequested, reusable_congr hsettings (hprofile k hfree)]
    exact h.reusable
  · have hsame := hprofile j hj
    rw [hrequested, reusable_congr hsettings hsame] at hreusable
    rw [he'] at hsame
    obtain ⟨e, he, hprofile⟩ := Option.map_eq_some_iff.mp hsame.symm
    obtain ⟨hpre, hflag⟩ := h.peers j (hsub hj) hreusable e he
    exact ⟨(congrArg Profile.isPreAllocBuffer hprofile).symm.trans hpre,
      (congrArg Profile.consumerAttachBufferFlag hprofile).symm.trans hflag⟩

theorem handOut_complete (h : q.Agrees) (fuel : ℕ) (configs : List BufferRequestConfig)
    (hfuel : q.freeList.length + configs.length ≤ fuel) (hconfig : config ∈ configs)
    (hk : q.Awaits config k) : k ∈ (q.handOut fuel configs).1.map (·.1) := by
  induction fuel generalizing q configs with
  | zero =>
    have hpos := List.length_pos_of_mem hconfig
    omega
  | succ fuel ih =>
    cases configs with
    | nil => cases hconfig
    | cons first configs =>
      obtain ⟨hagrees, hmarked⟩ := agrees_after_request h first
        (q.requestBufferLocked first noAllocation true).1.retval.sequence
      rw [List.length_cons] at hfuel
      unfold handOut
      dsimp only
      rcases requestForListener_cases h first with ⟨hret, hgives⟩ | ⟨hret, hrestores, hrefused⟩
      · rw [if_pos hret, List.map_cons]
        set given := (q.requestBufferLocked first noAllocation true).1.retval.sequence
        have hgives := hgives.marked given
        by_cases hgiven : k = given
        · rw [hgiven]
          exact List.mem_cons_self
        · have hpos := List.length_pos_of_mem hgives.free
          have hnodup : q.freeList.Nodup := h.free_nodup
          refine List.mem_cons_of_mem _ (ih hmarked (first :: configs) ?_ hconfig ?_)
          · rw [hgives.freeList, List.length_erase_of_mem hgives.free, List.length_cons]
            omega
          · refine hk.transfer hgives.settings hgives.clean ?_ ?_ fun j hj => hgives.profile j ?_
            · rw [hgives.freeList]
              exact (List.mem_erase_of_ne hgiven).mpr hk.free
            · rw [hgives.freeList]
              exact List.erase_subset
            · rw [hgives.freeList] at hj
              exact (hnodup.mem_erase_iff.mp hj).1
      · rw [if_neg hret]
        rcases List.mem_cons.mp hconfig with rfl | hlater
        · -- its own round cannot fail while it is free
          obtain ⟨j, hj, hreusable, e, he, hobject⟩ :=
            hrefused _ hk.check ⟨k, hk.free, hk.reusable⟩
          obtain ⟨hpre, hflag⟩ := hk.peers j hj hreusable e he
          simp [needsObject, hk.clean, hpre, hflag] at hobject
        · have hlength := hrestores.freeList.length_eq
          refine ih hagrees configs (by omega) hlater ?_
          exact hk.transfer hrestores.settings hrestores.clean
            (hrestores.freeList.mem_iff.mpr hk.free) hrestores.freeList.subset
            fun j _ => hrestores.profile j

/-- The collected configuration that a buffer of `FitsListener` waits for. -/
theorem FitsListener.awaits {collected : ℕ} {e' : BufferElement} (hfits : q.FitsListener k e)
    (hadmits : q.Admits e) (hcollected : collected ∈ q.freeList)
    (he' : q.bufferQueueCache.find collected = some e')
    (hsame : e'.ownConfig.same e.ownConfig = true) : q.Awaits e'.ownConfig k := by
  have hown : e.config.same (q.requestedConfig e'.ownConfig) = true := by
    refine same_trans hfits.config ?_
    rw [BufferRequestConfig.same_comm]
    exact requestedConfig_same hsame
  have hcheck := hadmits.checks collected hcollected e' he' hsame
  refine ⟨hfits.free, ?_, ?_, hfits.clean, fun j hj hreusable e₁ he₁ => ?_⟩
  · unfold requestBufferCheck
    simp only [hadmits.status, ne_eq, not_true_eq_false, if_false]
    rw [if_neg]
    · rfl
    · rw [not_not]
      exact hcheck
  · simp [reusable, hfits.entry, hfits.unlocked, hown]
  · have hpeer : e₁.config.same (q.requestedConfig e'.ownConfig) = true ∧
        j ≠ q.acquireLastFlushedBufSequence := by
      simpa [reusable, he₁] using hreusable
    refine hadmits.peers j hj hpeer.2 e₁ he₁ (same_trans hpeer.1 ?_)
    rw [BufferRequestConfig.same_comm]
    exact hown

end BufferQueue

theorem ListenerLoopStart.agrees {q : BufferQueue} (hq : ListenerLoopStart q) : q.Agrees := by
  cases hq with
  | reachable h => exact h.agrees
  | release h sequence fence env =>
    exact (BufferQueue.releaseBufferLocked_refines h.agrees sequence fence env).agrees h.agrees

namespace BufferQueue

variable {q : BufferQueue}

end BufferQueue

def twoSizes : List Op :=
  [.requestBuffer sampleConfig ⟨1, 1, true, true⟩, .requestBuffer widerConfig ⟨2, 2, true, true⟩,
    .requestBuffer sampleConfig ⟨3, 3, true, true⟩, .cancelBuffer 1 (some ∅),
    .cancelBuffer 2 (some ∅), .cancelBuffer 3 (some ∅)]

theorem reachable_twoSizes :
    Reachable (execute Op.next (BufferQueue.start { listener := true }) twoSizes) :=
  Reachable.of_legal (show Legal _ _ (BufferQueue.start { listener := true }) twoSizes by decide)

def twoSizesGone : List Op := twoSizes ++ [.configure (.setStatus false)]

def preAllocatedAhead : List Op :=
  [.requestBuffer sampleConfig ⟨1, 1, true, true⟩,
    .preAllocBuffers sampleConfig 1 fun _ => ⟨2, 2, true, true⟩, .cancelBuffer 1 (some ∅)]

end GraphicSurface
