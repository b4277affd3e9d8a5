import GraphicSurface.LockCalls

/-! The buffer that a surface has locked. The surface keeps the buffer in `mLockedBuffer_`, and the
queue keeps who owns it; other calls change one of the two without the other. -/

namespace GraphicSurface

open Runs

/-- The number of the only buffer in a reply without an error. -/
def SurfaceReply.lent : SurfaceReply → Option ℕ
  | ⟨.ok, [some buffer], _, _⟩ => some buffer.seqNum
  | _ => none

theorem SurfaceReply.lent_of_error {reply : SurfaceReply} (h : reply.ret ≠ .ok) :
    reply.lent = none := by
  unfold lent
  split
  · exact absurd rfl h
  · rfl

theorem SurfaceReply.lent_of_ok {reply : SurfaceReply} {buffer : BufferRef} (h : reply.ret = .ok)
    (hbuffers : reply.buffers = [some buffer]) : reply.lent = some buffer.seqNum := by
  obtain ⟨ret, buffers, fences, cleanedSeqNums⟩ := reply
  obtain rfl : ret = .ok := h
  obtain rfl : buffers = [some buffer] := hbuffers
  rfl

namespace SurfaceCall

def locks (link : Link) (s : ProducerSurface) : SurfaceCall → Option ℕ
  | lockBuffer config region env => (s.producerSurfaceLockBuffer link config region env).1.lent
  | _ => none

theorem locks_lockBuffer (link : Link) (s : ProducerSurface) (config : BufferRequestConfig)
    (region : Region) (env : LockEnv) : (lockBuffer config region env).locks link s =
      (s.producerSurfaceLockBuffer link config region env).1.lent := rfl

/-- The calls of the lock, the other calls that a producer makes beside them, and the consumer's. A
copy into a block of the same size succeeds, and `FlushCache` does not report a missing consumer. -/
def BesideLock : SurfaceCall → Prop
  | requestBuffer _ _ _ | cancelBuffer _ _ | cleanCache => True
  | flushBuffer f => f.env.flushCache ≠ .noConsumer
  | lockBuffer _ _ env => env.copied = true
  | unlockAndFlushBuffer env => env.flush.flushCache ≠ .noConsumer
  | queue (.acquireBuffer _) | queue (.releaseBuffer _ _ _) | queue (.configure _) => True
  | _ => False

instance (c : SurfaceCall) : Decidable c.BesideLock := by
  unfold BesideLock
  split <;> infer_instance

/-- While a buffer is locked, a call takes it away from the producer and leaves the lock, or opens the
lock and leaves the buffer. -/
def BreaksLock (link : Link) (s : ProducerSurface) (c : SurfaceCall) : Prop :=
  match s.mLockedBuffer, c with
  | some _, requestBuffer _ _ _ => s.RequestCleans link
  | some locked, flushBuffer f => s.FlushTakes link locked.seqNum f
  | some locked, cancelBuffer sequence bedata =>
    bedata.isSome ∧ sequence ≠ locked.seqNum ∧
      (s.queue.stateOf sequence = some .requested ∨ s.queue.stateOf sequence = some .attached)
  | some _, cleanCache => s.CanClean link
  | some _, unlockAndFlushBuffer env => s.UnlockFails link env
  | _, _ => False

instance (link : Link) (s : ProducerSurface) (c : SurfaceCall) : Decidable (c.BreaksLock link s) := by
  unfold BreaksLock
  split <;> infer_instance

end SurfaceCall

/-- A surface, with the number that was handed out by the last lock and has neither been flushed, nor
cancelled, nor cleaned since: the producer has had the buffer all the time. -/
abbrev LockHistory := ProducerSurface × Option ℕ

namespace LockHistory

variable {link : Link} {s : LockHistory} {c : SurfaceCall} {locked : BufferRef}

def next (link : Link) (s : LockHistory) (c : SurfaceCall) : LockHistory :=
  (c.next link s.1, (c.locks link s.1).or
    (s.2.filter fun k => (c.next link s.1).queue.stateOf k = some .requested))

def start (q : QueueSettings) (window : Option ObjectMap) : LockHistory := (.start q window, none)

/-- The surface has locked the buffer that was handed out, and the producer has this buffer. -/
def Sound (s : LockHistory) : Prop :=
  s.1.mLockedBuffer.map (·.seqNum) = s.2 ∧ ∀ k ∈ s.2, s.1.queue.stateOf k = some .requested

instance (s : LockHistory) : Decidable s.Sound := inferInstanceAs (Decidable (_ ∧ _))

def Allowed (link : Link) (s : LockHistory) (c : SurfaceCall) : Prop :=
  c.BesideLock ∧ c.Sane link s.1

instance (link : Link) (s : LockHistory) (c : SurfaceCall) : Decidable (s.Allowed link c) :=
  inferInstanceAs (Decidable (_ ∧ _))

theorem sound_of_unlocked (h : s.1.mLockedBuffer = none) : s.Sound ↔ s.2 = none := by
  unfold Sound
  rw [h]
  exact ⟨fun hsound => hsound.1.symm, fun hnone => ⟨hnone.symm, fun k hk => by simp [hnone] at hk⟩⟩

theorem Sound.requested (h : s.Sound) (hlocked : s.1.mLockedBuffer = some locked) :
    s.1.queue.stateOf locked.seqNum = some .requested := by
  obtain ⟨hheld, hrequested⟩ := h
  rw [hlocked] at hheld
  exact hrequested _ hheld.symm

theorem sound_next_iff (h : s.Sound) (hlocked : s.1.mLockedBuffer = some locked)
    (hlocks : c.locks link s.1 = none)
    (hstill : (c.next link s.1).mLockedBuffer = some locked ∨ (c.next link s.1).mLockedBuffer = none) :
    (next link s c).Sound ↔ (c.next link s.1).Tracks locked := by
  have hheld : s.2 = some locked.seqNum := by
    rw [← h.1, hlocked]
    rfl
  unfold next Sound
  rw [hlocks, hheld, Option.none_or]
  by_cases hk : (c.next link s.1).queue.stateOf locked.seqNum = some .requested
  · rw [Option.filter_some, if_pos (by simpa using hk)]
    rcases hstill with hstill | hstill
    · rw [ProducerSurface.tracks_of_locked hstill, hstill]
      simp [hk]
    · rw [ProducerSurface.tracks_of_unlocked hstill, hstill]
      simp [hk]
  · rw [Option.filter_some, if_neg (by simpa using hk)]
    rcases hstill with hstill | hstill
    · rw [ProducerSurface.tracks_of_locked hstill, hstill]
      simp [hk]
    · rw [ProducerSurface.tracks_of_unlocked hstill, hstill]
      simp [hk]

theorem sound_next_of_unlocked (h : s.Sound) (hlocked : s.1.mLockedBuffer = none)
    (hlocks : c.locks link s.1 = none) (hstill : (c.next link s.1).mLockedBuffer = none) :
    (next link s c).Sound := by
  have hnext : (next link s c).1.mLockedBuffer = none := hstill
  rw [sound_of_unlocked hnext]
  unfold next
  rw [hlocks, (sound_of_unlocked hlocked).mp h]
  rfl

/-- What every call finds: a sound history, a queue in order and a cache with its own numbers. -/
structure Inv (s : LockHistory) : Prop where
  sound : s.Sound
  reachable : Reachable s.1.queue
  fault : s.1.queue.fault = false
  keyed : s.1.Keyed

theorem op_stays {op : Op} {q : BufferQueue} {k : ℕ} (hagrees : q.Agrees)
    (hbeside : (SurfaceCall.queue op).BesideLock) (hk : q.stateOf k = some .requested) :
    (op.next q).stateOf k = some .requested := by
  cases op with
  | acquireBuffer now => exact BufferQueue.acquireBuffer_stays hagrees now hk
  | releaseBuffer sequence fence env =>
    exact BufferQueue.releaseBuffer_stays hagrees sequence fence env hk
  | configure setting => exact hk
  | _ => exact hbeside.elim

theorem mLockedBuffer_next (link : Link) (s : LockHistory) (hbeside : c.BesideLock)
    (hlock : ∀ config region env, c ≠ .lockBuffer config region env) :
    (c.next link s.1).mLockedBuffer = s.1.mLockedBuffer ∨
      (c.next link s.1).mLockedBuffer = none := by
  cases c with
  | requestBuffer gameUpscaleProcessor config a =>
    exact .inl (ProducerSurface.mLockedBuffer_requestBufferLocked _ a)
  | flushBuffer f => exact .inl (ProducerSurface.mLockedBuffer_flushBuffer f)
  | cancelBuffer sequence bedata => exact ProducerSurface.mLockedBuffer_cancelBuffer sequence bedata
  | cleanCache => exact .inl (ProducerSurface.mLockedBuffer_cleanCacheLocked link s.1)
  | lockBuffer config region env => exact absurd rfl (hlock config region env)
  | unlockAndFlushBuffer env => exact ProducerSurface.mLockedBuffer_unlock env
  | queue op => exact .inl rfl
  | _ => exact hbeside.elim

theorem locks_of_not_lock (hlock : ∀ config region env, c ≠ .lockBuffer config region env) :
    c.locks link s.1 = none := by
  cases c with
  | lockBuffer config region env => exact absurd rfl (hlock config region env)
  | _ => rfl

theorem sound_next_of_not_locked (h : s.Inv) (hallowed : s.Allowed link c)
    (hlocked : s.1.mLockedBuffer = none) : (next link s c).Sound := by
  obtain ⟨hbeside, -, hfault, -⟩ := hallowed
  by_cases hlock : ∃ config region env, c = .lockBuffer config region env
  · obtain ⟨config, region, env, rfl⟩ := hlock
    rcases ProducerSurface.lock_cases h.keyed hlocked config region hbeside hfault with
      ⟨hret, hstill⟩ | ⟨buffer, hret, hbuffers, hlocks, hrequested⟩
    · exact sound_next_of_unlocked h.sound hlocked (SurfaceReply.lent_of_error hret) hstill
    · have hnext : next link s (.lockBuffer config region env) =
          ((s.1.producerSurfaceLockBuffer link config region env).2, some buffer.seqNum) := by
        unfold next
        rw [SurfaceCall.locks_lockBuffer, SurfaceReply.lent_of_ok hret hbuffers]
        rfl
      rw [hnext]
      refine ⟨by rw [hlocks]; rfl, fun k hk => ?_⟩
      obtain rfl : buffer.seqNum = k := Option.some.inj hk
      exact hrequested
  · simp only [not_exists] at hlock
    refine sound_next_of_unlocked h.sound hlocked (locks_of_not_lock hlock) ?_
    exact (mLockedBuffer_next link s hbeside hlock).elim (·.trans hlocked) id

theorem sound_next_iff_of_locked (h : s.Inv) (hallowed : s.Allowed link c)
    (hlocked : s.1.mLockedBuffer = some locked) :
    (next link s c).Sound ↔ ¬ c.BreaksLock link s.1 := by
  have hk := h.sound.requested hlocked
  have hagrees := h.reachable.agrees
  obtain ⟨hbeside, hfresh, -, -⟩ := hallowed
  unfold SurfaceCall.BreaksLock
  rw [hlocked]
  by_cases hlock : ∃ config region env, c = .lockBuffer config region env
  · obtain ⟨config, region, env, rfl⟩ := hlock
    have hrefused := ProducerSurface.lock_of_locked link hlocked config region env
    have hsame : (SurfaceCall.lockBuffer config region env).next link s.1 = s.1 :=
      congrArg Prod.snd hrefused
    have hlocks : (SurfaceCall.lockBuffer config region env).locks link s.1 = none := by
      rw [SurfaceCall.locks_lockBuffer, hrefused]
      rfl
    rw [sound_next_iff h.sound hlocked hlocks (.inl (by rw [hsame, hlocked])), hsame,
      ProducerSurface.tracks_of_locked hlocked]
    exact iff_of_true hk not_false
  · simp only [not_exists] at hlock
    have hstill := mLockedBuffer_next link s hbeside hlock
    rw [hlocked] at hstill
    refine (sound_next_iff h.sound hlocked (locks_of_not_lock hlock) hstill).trans ?_
    cases c with
    | requestBuffer gameUpscaleProcessor config a =>
      exact ProducerSurface.requestBufferLocked_tracks_iff hagrees hlocked hk _ hfresh
    | flushBuffer f =>
      exact (ProducerSurface.tracks_of_locked ((ProducerSurface.mLockedBuffer_flushBuffer f).trans
        hlocked)).trans (ProducerSurface.flushBuffer_stays_iff hk hbeside)
    | cancelBuffer sequence bedata =>
      exact ProducerSurface.cancelBuffer_tracks_iff hlocked hk sequence bedata
    | cleanCache =>
      exact (ProducerSurface.tracks_of_locked ((ProducerSurface.mLockedBuffer_cleanCacheLocked link
        s.1).trans hlocked)).trans (ProducerSurface.cleanCacheLocked_stays_iff hk)
    | lockBuffer config region env => exact absurd rfl (hlock config region env)
    | unlockAndFlushBuffer env => exact ProducerSurface.unlock_tracks_iff hlocked hk hbeside
    | queue op =>
      refine iff_of_true ?_ not_false
      refine (ProducerSurface.tracks_of_locked (s := s.1.withQueue (op.next s.1.queue)) hlocked).mpr ?_
      exact op_stays hagrees hbeside hk
    | _ => exact hbeside.elim

theorem Inv.next (h : s.Inv) (hallowed : s.Allowed link c) (hsound : (next link s c).Sound) :
    (next link s c).Inv := by
  have hstep : SurfaceStep link s.1 c (c.next link s.1) := ⟨hallowed.2, rfl⟩
  obtain ⟨hreachable, hfault⟩ := hstep.reachable ⟨h.reachable, h.fault⟩
  exact ⟨hsound, hreachable, hfault, SurfaceCall.next_keyed link h.keyed c⟩

theorem inv_start (q : QueueSettings) (window : Option ObjectMap) : (start q window).Inv where
  sound := ⟨rfl, nofun⟩
  reachable := ⟨q, [], .nil⟩
  fault := rfl
  keyed := .of_empty rfl

theorem sound_next_iff_not_breaks (h : s.Inv) (hallowed : s.Allowed link c) :
    (next link s c).Sound ↔ ¬ c.BreaksLock link s.1 := by
  cases hlocked : s.1.mLockedBuffer with
  | none =>
    refine iff_of_true (sound_next_of_not_locked h hallowed hlocked) ?_
    unfold SurfaceCall.BreaksLock
    rw [hlocked]
    exact not_false
  | some locked => exact sound_next_iff_of_locked h hallowed hlocked

end LockHistory

/-- In every run of locks, unlocks and the calls beside them, the lock and the ownership go together
after every call exactly if no call of the run separates them. -/
theorem lock_sound_iff {link : Link} {q : QueueSettings} {window : Option ObjectMap}
    {calls : List SurfaceCall}
    (hcalls : Legal (LockHistory.next link) (fun s c => s.Allowed link c) (.start q window) calls) :
    Legal (LockHistory.next link) (fun s c => (s.next link c).Sound) (.start q window) calls ↔
      Legal (LockHistory.next link) (fun s c => ¬ c.BreaksLock link s.1) (.start q window) calls := by
  refine legal_congr_of LockHistory.Inv (fun s c h hallowed =>
    LockHistory.sound_next_iff_not_breaks h hallowed) (fun s c h hallowed hbreaks => ?_)
    (LockHistory.inv_start q window) hcalls
  exact h.next hallowed ((LockHistory.sound_next_iff_not_breaks h hallowed).mpr hbreaks)

def lockAndUnlock : List SurfaceCall :=
  [.lockBuffer sampleConfig {} ⟨⟨1, 1, true, true⟩, .ok, true, some ∅⟩,
    .requestBuffer id sampleConfig ⟨2, 2, true, true⟩,
    .unlockAndFlushBuffer ⟨some ∅, 0, 0, ⟨.ok, 0⟩⟩,
    .lockBuffer sampleConfig {} ⟨⟨3, 3, true, true⟩, .ok, true, some ∅⟩,
    .cancelBuffer 3 (some ∅)]

theorem lock_sound_iff_lockAndUnlock :
    Legal (LockHistory.next (Link.inProcess 1)) (fun s c => (s.next (Link.inProcess 1) c).Sound)
        (.start { listener := true } none) lockAndUnlock ↔
      Legal (LockHistory.next (Link.inProcess 1)) (fun s c => ¬ c.BreaksLock (Link.inProcess 1) s.1)
        (.start { listener := true } none) lockAndUnlock :=
  lock_sound_iff (by decide)

/-- The locked buffer is flushed with `FlushBuffer`, which leaves it locked. -/
theorem lock_unsound :
    ¬ ∀ (link : Link) (q : QueueSettings) (calls : List SurfaceCall),
      Legal (LockHistory.next link) (fun s c => s.Allowed link c) (.start q none) calls →
      Legal (LockHistory.next link) (fun s c => (s.next link c).Sound) (.start q none) calls := by
  intro h
  have hflushed := h (Link.inProcess 1) { listener := true }
    [.lockBuffer sampleConfig {} ⟨⟨1, 1, true, true⟩, .ok, true, some ∅⟩,
      .flushBuffer ⟨1, some ∅, invalidFence, ⟨[], 0, 0⟩, ⟨.ok, 0⟩⟩] (by decide)
  revert hflushed
  decide

end GraphicSurface
