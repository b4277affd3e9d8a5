import GraphicSurface.Frames
import GraphicSurface.Passages

/-! `AcquireBuffer` with a present timestamp, against a reference that knows only the list of
pending frames: which of them are dropped, and which one is shown. -/

namespace GraphicSurface

open Runs SlotPool BufferElement

namespace BufferQueue

variable {q q₁ q₂ : BufferQueue} {n m : ℕ} {sequence : ℕ} {e : BufferElement}

/-- Some held buffers go back to the free list, and nothing else happens. -/
structure Returns (q : BufferQueue) (l : List ℕ) (q' : BufferQueue) : Prop where
  freeList : q'.freeList = q.freeList ++ l
  dirtyList : q'.dirtyList = q.dirtyList
  settings : q'.toQueueSettings = q.toQueueSettings
  released : ∀ k ∈ l, ∃ e, q'.bufferQueueCache.find k = some e ∧ e.state = .released
  others : ∀ k, k ∉ l → q'.bufferQueueCache.find k = q.bufferQueueCache.find k

theorem releaseBuffer_returns (hactive : q.listenerSeqAndFenceActive = false)
    (he : q.bufferQueueCache.find sequence = some e) (hacquired : e.state = .acquired)
    (hspared : e.isDeleting = false) (fence : Option SyncFence) (env : ReleaseEnv) :
    q.Returns [sequence] (q.releaseBuffer sequence fence env).2 := by
  have hlocked : q.releaseBufferLocked sequence fence env =
      (.ok, { q.markReleased sequence e.lastAcquireTime fence env with
        freeList := q.freeList ++ [sequence] }) := by
    simp [releaseBufferLocked, he, hacquired, hspared, markReleased]
  have hsection : q.releaseBufferSection sequence fence env =
      (.ok, [], { q.markReleased sequence e.lastAcquireTime fence env with
        freeList := q.freeList ++ [sequence] }) := by
    have hactive' : ({ q.markReleased sequence e.lastAcquireTime fence env with
        freeList := q.freeList ++ [sequence] }).listenerSeqAndFenceActive = false := hactive
    rw [releaseBufferSection, hlocked]
    simp [hactive']
  have hrelease : (q.releaseBuffer sequence fence env).2 =
      { q.markReleased sequence e.lastAcquireTime fence env with
        freeList := q.freeList ++ [sequence] } := by
    rw [releaseBuffer, hsection]
    dsimp only
    split <;> rfl
  rw [hrelease]
  refine ⟨rfl, rfl, rfl, fun k hk => ?_, fun k hk => ?_⟩
  · rw [List.mem_singleton] at hk
    subst hk
    exact ⟨e.setReleased fence env.mergeFd, by simp [markReleased, he], rfl⟩
  · have hne : sequence ≠ k := fun heq => hk (by simp [heq])
    simp [markReleased, hne]

theorem listenerSeqAndFenceActive_congr (h : q₁.toQueueSettings = q.toQueueSettings) :
    q₁.listenerSeqAndFenceActive = q.listenerSeqAndFenceActive := by
  simp only [listenerSeqAndFenceActive, h]

theorem releaseDropBuffers_returns (hactive : q.listenerSeqAndFenceActive = false)
    (envs : ℕ → ReleaseEnv) (dropBuffers : List BufferAndFence)
    (hnodup : (dropBuffers.map (·.1.seqNum)).Nodup)
    (hheld : ∀ k ∈ dropBuffers.map (·.1.seqNum), ∃ e, q.bufferQueueCache.find k = some e ∧
      e.state = .acquired ∧ e.isDeleting = false) :
    q.Returns (dropBuffers.map (·.1.seqNum)) (q.releaseDropBuffers envs dropBuffers) := by
  unfold releaseDropBuffers
  induction dropBuffers generalizing q with
  | nil => exact ⟨by simp, rfl, rfl, by simp, fun _ _ => rfl⟩
  | cons d dropBuffers ih =>
    rw [List.map_cons, List.nodup_cons] at hnodup
    obtain ⟨e, he, hacquired, hspared⟩ := hheld d.1.seqNum (by simp)
    have hone := releaseBuffer_returns hactive he hacquired hspared d.2 (envs d.1.seqNum)
    have hother : ∀ k ∈ dropBuffers.map (·.1.seqNum), k ∉ [d.1.seqNum] := by
      intro k hk heq
      rw [List.mem_singleton] at heq
      exact hnodup.1 (heq ▸ hk)
    have hrest := ih ((listenerSeqAndFenceActive_congr hone.settings).trans hactive) hnodup.2
      fun k hk => by
        rw [hone.others k (hother k hk)]
        exact hheld k (by simp only [List.map_cons, List.mem_cons, hk, or_true])
    rw [List.foldl_cons]
    refine ⟨?_, hrest.dirtyList.trans hone.dirtyList, hrest.settings.trans hone.settings,
      fun k hk => ?_, fun k hk => ?_⟩
    · rw [hrest.freeList, hone.freeList, List.append_assoc, List.map_cons, List.singleton_append]
    · by_cases hin : k ∈ dropBuffers.map (·.1.seqNum)
      · exact hrest.released k hin
      · rw [hrest.others k hin]
        refine hone.released k ?_
        rw [List.map_cons, List.mem_cons] at hk
        exact List.mem_singleton.mpr (hk.resolve_right hin)
    · rw [List.map_cons, List.mem_cons, not_or] at hk
      rw [hrest.others k hk.2, hone.others k (by simpa using hk.1)]

/-- The first `n` pending frames go to the free list in their order, and nothing else happens. -/
structure DropsFrames (q : BufferQueue) (n : ℕ) (q' : BufferQueue) : Prop where
  dirtyList : q'.dirtyList = q.dirtyList.drop n
  freeList : q'.freeList = q.freeList ++ q.dirtyList.take n
  settings : q'.toQueueSettings = q.toQueueSettings
  released : ∀ k ∈ q.dirtyList.take n, ∃ e, q'.bufferQueueCache.find k = some e ∧
    e.state = .released
  others : ∀ k, k ∉ q.dirtyList.take n → q'.bufferQueueCache.find k = q.bufferQueueCache.find k

theorem DropsFrames.trans (h₁ : q.DropsFrames n q₁) (h₂ : q₁.DropsFrames m q₂) :
    q.DropsFrames (n + m) q₂ := by
  have htake : q.dirtyList.take (n + m) = q.dirtyList.take n ++ q₁.dirtyList.take m := by
    rw [h₁.dirtyList, List.take_add]
  refine ⟨?_, ?_, h₂.settings.trans h₁.settings, fun k hk => ?_, fun k hk => ?_⟩
  · rw [h₂.dirtyList, h₁.dirtyList, List.drop_drop]
  · rw [h₂.freeList, h₁.freeList, htake, List.append_assoc]
  · by_cases hin : k ∈ q₁.dirtyList.take m
    · exact h₂.released k hin
    · rw [h₂.others k hin]
      rw [htake, List.mem_append] at hk
      exact h₁.released k (hk.resolve_right hin)
  · rw [htake, List.mem_append, not_or] at hk
    rw [h₂.others k hk.2, h₁.others k hk.1]

theorem DropsFrames.sparesPending (h : q.DropsFrames n q₁) (hq : q.SparesPending) :
    q₁.SparesPending := by
  intro k e he hflushed
  by_cases hk : k ∈ q.dirtyList.take n
  · obtain ⟨e', he', hs⟩ := h.released k hk
    rw [he, Option.some.injEq] at he'
    rw [he', hs] at hflushed
    cases hflushed
  · rw [h.others k hk] at he
    exact hq k e he hflushed

/-- What a loop takes as acquired and `ReleaseDropBuffers` then releases is dropped. -/
theorem TakesFrames.dropsFrames (h : q.Agrees) (hspares : q.SparesPending)
    (hactive : q.listenerSeqAndFenceActive = false) {f : BufferElement → BufferElement}
    {r : List BufferAndFence × BufferQueue} (htakes : TakesFrames q n f r)
    (hstate : ∀ e, (f e).state = .acquired) (hdel : ∀ e, (f e).isDeleting = e.isDeleting)
    (envs : ℕ → ReleaseEnv) : q.DropsFrames n (r.2.releaseDropBuffers envs r.1) := by
  have hflushed : ∀ k ∈ q.dirtyList.take n,
      ∃ e, q.bufferQueueCache.find k = some e ∧ e.state = .flushed :=
    fun k hk => h.state_of_mem_dirty (List.mem_of_mem_take hk)
  have hnumbers : r.1.map (·.1.seqNum) = q.dirtyList.take n := by
    rw [htakes.frames]
    refine map_seqNum_framesOf fun k hk => ?_
    obtain ⟨e, he, -⟩ := hflushed k hk
    simp [he]
  have hreturns := releaseDropBuffers_returns
    ((listenerSeqAndFenceActive_congr htakes.settings).trans hactive) envs r.1
    (hnumbers ▸ h.pending_nodup.sublist (List.take_sublist n q.dirtyList)) fun k hk => by
      rw [hnumbers] at hk
      obtain ⟨e, he, hs⟩ := hflushed k hk
      refine ⟨f e, by rw [htakes.find, if_pos hk, he]; rfl, hstate e, ?_⟩
      rw [hdel]
      exact hspares k e he hs
  rw [hnumbers] at hreturns
  refine ⟨hreturns.dirtyList.trans htakes.dirtyList, ?_, hreturns.settings.trans htakes.settings,
    hreturns.released, fun k hk => ?_⟩
  · rw [hreturns.freeList, htakes.freeList]
  · rw [hreturns.others k hk, htakes.find, if_neg hk]

def frontNotReady (q : BufferQueue) (frames : List ℕ) (expect : Int) : Prop :=
  ∃ front ∈ frames.head?, ∃ e, q.bufferQueueCache.find front = some e ∧
    e.isAutoTimestamp = false ∧ expect < e.desiredPresentTimestamp ∧
    e.desiredPresentTimestamp ≤ expect + oneSecondTimestamp

theorem frontNotReady_congr {frames : List ℕ}
    (h : ∀ k ∈ frames, q₁.bufferQueueCache.find k = q.bufferQueueCache.find k) (expect : Int) :
    q₁.frontNotReady frames expect ↔ q.frontNotReady frames expect := by
  cases frames with
  | nil => simp [frontNotReady]
  | cons front rest => simp [frontNotReady, h front List.mem_cons_self]

theorem frontNotReady_iff {front : ℕ} {rest : List ℕ}
    (he : q.bufferQueueCache.find front = some e) (expect : Int) :
    q.frontNotReady (front :: rest) expect ↔ BufferElement.notReady e expect = true := by
  have hnot : BufferElement.notReady e expect = true ↔ e.isAutoTimestamp = false ∧
      expect < e.desiredPresentTimestamp ∧
      e.desiredPresentTimestamp ≤ expect + oneSecondTimestamp := by
    simp only [BufferElement.notReady, Bool.and_eq_true, Bool.not_eq_true', decide_eq_true_eq,
      and_assoc, sub_le_iff_le_add]
  rw [hnot]
  constructor
  · rintro ⟨k, hk, e', he', hlater⟩
    rw [List.head?_cons, Option.mem_some_iff] at hk
    subst hk
    rw [he, Option.some.injEq] at he'
    exact he' ▸ hlater
  · intro hlater
    exact ⟨front, rfl, e, he, hlater⟩

theorem ready_of_not_notReady {expect : Int} (hnot : ¬ BufferElement.notReady e expect = true) :
    (!e.isAutoTimestamp && !isPresentTimestampReady e.desiredPresentTimestamp expect) = false := by
  simp only [BufferElement.notReady, Bool.and_eq_true, Bool.not_eq_true', decide_eq_true_eq,
    not_and, not_le] at hnot
  simp only [isPresentTimestampReady, Bool.and_eq_false_iff, Bool.not_eq_false', Bool.or_eq_true,
    decide_eq_true_eq]
  by_cases hauto : e.isAutoTimestamp = true
  · exact .inl hauto
  · right
    have hlater := fun hahead => hnot ⟨Bool.eq_false_iff.mpr hauto, hahead⟩
    omega

theorem ready_of_eligible {expect : Int} {auto : Bool}
    (hdue : BufferElement.eligible e expect auto = true) :
    (!e.isAutoTimestamp && !isPresentTimestampReady e.desiredPresentTimestamp expect) = false := by
  simp only [BufferElement.eligible, Bool.and_eq_true, decide_eq_true_eq] at hdue
  simp [isPresentTimestampReady, hdue.2]

/-- The section answers `GSERROR_NO_BUFFER_READY` for its first frame alone: after a drop the
frame at the front is due. -/
theorem acquireByTimestampSection_eq (h : q.Agrees) (expect : Int) (auto : Bool)
    (hpending : q.dirtyList ≠ []) :
    (q.frontNotReady q.dirtyList expect ∧ q.acquireByTimestampSection expect auto = (.noBufferReady, [], q)) ∨
      (¬ q.frontNotReady q.dirtyList expect ∧ q.acquireByTimestampSection expect auto =
        (.ok, q.dropByTimestamp expect auto q.dirtyList)) := by
  obtain ⟨front, rest, hdirty⟩ := List.exists_cons_of_ne_nil hpending
  obtain ⟨e, he, hflushed⟩ := h.state_of_mem_dirty (k := front) (by simp [hdirty])
  have htakes := dropByTimestamp_takes h expect auto q.dirtyList rfl
  unfold acquireByTimestampSection
  simp only [hdirty, he]
  rw [frontNotReady_iff he]
  by_cases hnot : BufferElement.notReady e expect = true
  · exact .inl ⟨hnot, by rw [if_pos hnot]⟩
  · refine .inr ⟨hnot, ?_⟩
    rw [if_neg hnot, ← hdirty]
    obtain ⟨shown, left, hleft⟩ := List.exists_cons_of_ne_nil
      (List.drop_eq_nil_iff.not.mpr (not_le.mpr (outrun_lt (q.eligible expect auto) hpending)))
    have hin : shown ∈ q.dirtyList := List.mem_of_mem_drop (hleft ▸ List.mem_cons_self)
    obtain ⟨s, hs, -⟩ := h.state_of_mem_dirty hin
    have hshown : (q.dropByTimestamp expect auto q.dirtyList).2.bufferQueueCache.find shown = some s := by
      rw [htakes.find, if_neg, hs]
      intro htaken
      exact List.disjoint_take_drop h.pending_nodup le_rfl htaken (hleft ▸ List.mem_cons_self)
    have hready : (!s.isAutoTimestamp &&
        !isPresentTimestampReady s.desiredPresentTimestamp expect) = false := by
      by_cases hdrop : outrun (q.eligible expect auto) q.dirtyList = 0
      · rw [hdrop, List.drop_zero, hdirty] at hleft
        obtain rfl := (List.cons.inj hleft).1
        rw [he, Option.some.injEq] at hs
        exact hs ▸ ready_of_not_notReady hnot
      · obtain ⟨front', rest', hfront, hdue⟩ := eligible_of_outrun _ _ hdrop
        rw [hleft] at hfront
        obtain rfl := (List.cons.inj hfront).1
        simp only [eligible, hs, Option.any_some] at hdue
        exact ready_of_eligible hdue
    have hhead : (q.dropByTimestamp expect auto q.dirtyList).2.dirtyList.head?.bind
        (q.dropByTimestamp expect auto q.dirtyList).2.bufferQueueCache.find = some s := by
      rw [htakes.dirtyList, hleft, List.head?_cons, Option.bind_some, hshown]
    simp only [hhead, hready]
    simp

/-- After `n` drops the next frame is shown. -/
structure ShowsFrame (q : BufferQueue) (n : ℕ) (now : Int) (reply : AcquireReply)
    (q' : BufferQueue) : Prop where
  shown : ∃ k left e, q.dirtyList.drop n = k :: left ∧ q.bufferQueueCache.find k = some e ∧
    reply = ⟨.ok, some e.buffer, e.fence, e.timestamp, e.damages⟩ ∧ q'.dirtyList = left ∧
    q'.bufferQueueCache.find k = some (e.setAcquired now) ∧
    ∀ j, j ∉ q.dirtyList.take n → j ≠ k → q'.bufferQueueCache.find j = q.bufferQueueCache.find j
  freeList : q'.freeList = q.freeList ++ q.dirtyList.take n
  released : ∀ k ∈ q.dirtyList.take n, ∃ e, q'.bufferQueueCache.find k = some e ∧
    e.state = .released

theorem DropsFrames.showsFrame (h : q.Agrees) (hdrops : q.DropsFrames n q₁)
    (hleft : n < q.dirtyList.length) (now : Int) :
    q.ShowsFrame n now (q₁.acquireBuffer now).1 (q₁.acquireBuffer now).2 := by
  obtain ⟨k, left, hdrop⟩ := List.exists_cons_of_ne_nil (List.drop_eq_nil_iff.not.mpr (not_le.mpr hleft))
  have hin : k ∈ q.dirtyList.drop n := hdrop ▸ List.mem_cons_self
  have hout {j : ℕ} (hj : j ∈ q.dirtyList.take n) : k ≠ j := by
    rintro rfl
    exact List.disjoint_take_drop h.pending_nodup le_rfl hj hin
  obtain ⟨e, he, -⟩ := h.state_of_mem_dirty (List.mem_of_mem_drop hin)
  have he₁ : q₁.bufferQueueCache.find k = some e := by
    rw [hdrops.others k fun hk => hout hk rfl, he]
  have hacquire : q₁.acquireBuffer now = (⟨.ok, some e.buffer, e.fence, e.timestamp, e.damages⟩,
      { q₁ with dirtyList := left }.markAcquired k now) := by
    unfold acquireBuffer popFromDirtyListLocked
    simp only [hdrops.dirtyList, hdrop, he₁, BufferCache.seqNum_of_find he₁]
  rw [hacquire]
  refine ⟨⟨k, left, e, hdrop, he, rfl, rfl, ?_, fun j hj hne => ?_⟩, hdrops.freeList, fun j hj => ?_⟩
  · simp [markAcquired, he₁]
  · simp [markAcquired, Ne.symm hne, hdrops.others j hj]
  · obtain ⟨e', he', hs⟩ := hdrops.released j hj
    exact ⟨e', by simp [markAcquired, hout hj, he'], hs⟩

theorem levelDrops_lt (q : BufferQueue) (hpending : q.dirtyList ≠ []) :
    q.levelDrops < q.dirtyList.length := by
  have hlen := List.length_pos_of_ne_nil hpending
  unfold levelDrops
  split_ifs <;> omega

def keptFrames (q : BufferQueue) : List ℕ := q.dirtyList.drop q.levelDrops

theorem acquireBufferByTimestamp_eq {expect : Int} (hexpect : 0 < expect)
    (hpending : q.dirtyList ≠ []) {auto : Bool} {now : Int} {envs : ℕ → ReleaseEnv}
    (hlevel : (q.dropBuffersByLevel now).2.releaseDropBuffers envs (q.dropBuffersByLevel now).1 = q₁)
    {ret : GSError} {dropped : List BufferAndFence}
    (hsection : q₁.acquireByTimestampSection expect auto = (ret, dropped, q₂)) :
    q.acquireBufferByTimestamp expect auto now envs =
      if ret ≠ .ok then (.error ret, q₂)
      else (q₂.releaseDropBuffers envs dropped).acquireBuffer now := by
  unfold acquireBufferByTimestamp
  rw [if_neg (not_le.mpr hexpect), if_neg hpending]
  simp only [hlevel, hsection]

end BufferQueue

def twoDue : List Op :=
  [.requestBuffer sampleConfig ⟨1, 1, true, true⟩, .requestBuffer sampleConfig ⟨2, 2, true, true⟩,
    .flushBuffer ⟨1, some ∅, invalidFence, ⟨[], 0, 5⟩, ⟨.ok, 0⟩⟩,
    .flushBuffer ⟨2, some ∅, invalidFence, ⟨[], 0, 7⟩, ⟨.ok, 0⟩⟩]

end GraphicSurface
