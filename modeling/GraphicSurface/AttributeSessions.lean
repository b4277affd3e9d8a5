import GraphicSurface.FailedFlush
import GraphicSurface.QueueLimits
import GraphicSurface.RemoteAttributes
import GraphicSurface.SurfaceRuns

/-! Whole sessions over the attributes of a queue: those of a proxy, whose messages and answers may
be lost, and those of a process that builds its messages by hand. -/

namespace GraphicSurface

open Parcels Runs

/-! ### The proxy -/

namespace RemoteCall

def Failed (c : RemoteCall) (answer : AttributeAnswer) : Prop :=
  ∃ failure, answer = c.failed failure

/-- The calls that are the same in the process of the queue. -/
def SameAtHome : RemoteCall → Prop
  | setVideoDimensionType videoDimType =>
    videoDimType2D.toInt32 ≤ videoDimType ∧ videoDimType < videoDimTypeButt.toInt32
  | setSingleBufferMode _ => False
  | _ => True

end RemoteCall

theorem AttributedProducer.performRemote_eq (s : AttributedProducer) {c : RemoteCall}
    (h : c.SameAtHome) : s.performRemote c = s.perform c := by
  cases c with
  | setVideoDimensionType videoDimType =>
    have hrange :
        ¬ (videoDimType < videoDimType2D.toInt32 ∨ videoDimTypeButt.toInt32 ≤ videoDimType) :=
      not_or.mpr ⟨Int32.not_lt.mpr h.1, Int32.not_le.mpr h.2⟩
    simp only [performRemote, perform, setVideoDimensionTypeChecked, if_neg hrange]
  | setSingleBufferMode mode => exact absurd h not_false
  | _ => rfl

theorem AttributedProducer.performRemote_named (s : AttributedProducer) (c : RemoteCall) :
    (s.performRemote c).2.name = s.name ∧ (s.performRemote c).2.uniqueId = s.uniqueId := by
  cases c <;> refine ⟨?_, ?_⟩ <;> try rfl
  all_goals
    simp only [performRemote, perform, returned, setVideoDimensionTypeChecked,
      setVideoDimensionType, setSingleBufferModeChecked, setQueueSingleBufferMode,
      setSurfaceAppFrameworkType, setCycleBuffersNumber, setFrameGravity, setFixedRotation, setAlphaType]
    split_ifs <;> rfl

namespace BufferClientProducer

structure Knows (client : BufferClientProducer) (s : AttributedProducer) : Prop where
  name : client.name = defaultName ∨ client.name = s.name
  uniqueId : client.uniqueId = 0 ∨ client.uniqueId = s.uniqueId

variable {client : BufferClientProducer} {s t : AttributedProducer} {c : RemoteCall}

theorem Knows.of_named (h : client.Knows s) (hname : t.name = s.name)
    (hid : t.uniqueId = s.uniqueId) : client.Knows t :=
  ⟨by rw [hname]; exact h.name, by rw [hid]; exact h.uniqueId⟩

theorem Knows.remembered (h : client.Knows s) {v : AttributeValue}
    (hv : client.remembered c = some v) : s.performRemote c = (.ok v, s) := by
  cases c with
  | getName =>
    obtain ⟨hset, hv⟩ := Option.ite_none_right_eq_some.mp hv
    rw [← Option.some.inj hv, h.name.resolve_left hset]
    rfl
  | getUniqueId =>
    obtain ⟨hset, hv⟩ := Option.ite_none_right_eq_some.mp hv
    rw [← Option.some.inj hv, h.uniqueId.resolve_left hset]
    rfl
  | getNameAndUniqueId =>
    obtain ⟨⟨hid, hname⟩, hv⟩ := Option.ite_none_right_eq_some.mp hv
    rw [← Option.some.inj hv, h.uniqueId.resolve_left hid, h.name.resolve_left hname]
    rfl
  | _ => cases hv

theorem Knows.remember (h : client.Knows s) :
    (client.remember c (s.performRemote c).1).Knows s := by
  cases c with
  | getName => exact ⟨.inr rfl, h.uniqueId⟩
  | getUniqueId => exact ⟨h.name, .inr rfl⟩
  | getNameAndUniqueId => exact ⟨.inr rfl, .inr rfl⟩
  | _ => exact h

end BufferClientProducer

/-- The proxies of a queue, in any number of processes, and its producer. -/
structure AttributeSession (ι : Type) where
  clients : ι → BufferClientProducer
  producer : AttributedProducer

structure AttributeExchange (ι P : Type) where
  client : ι
  call : RemoteCall
  connection : Connection P
  answer : AttributeAnswer

namespace AttributeSession

open AttributedProducer

variable {ι P F : Type} [DecidableEq ι] [Parcel P] [FloatParcel P] {fifo : FloatFifo P F}

def Sound (x : AttributeSession ι) : Prop := ∀ i, (x.clients i).Knows x.producer

/-- What the call of `l` gives its client, the proxy and the producer. -/
def outcome (x : AttributeSession ι) (l : AttributeExchange ι P) :
    AttributeAnswer × BufferClientProducer × AttributedProducer :=
  (x.clients l.client).call l.call l.connection x.producer

def next (x : AttributeSession ι) (l : AttributeExchange ι P) : AttributeSession ι :=
  ⟨Function.update x.clients l.client (x.outcome l).2.1, (x.outcome l).2.2⟩

def Calls (fifo : FloatFifo P F) (x : AttributeSession ι) (l : AttributeExchange ι P)
    (y : AttributeSession ι) : Prop :=
  l.connection.Conveys fifo.toView ∧ l.answer = (x.outcome l).1 ∧ y = x.next l

theorem call_spec {client : BufferClientProducer} {s : AttributedProducer}
    {connection : Connection P} (h : client.Knows s) (hconveys : connection.Conveys fifo.toView)
    (c : RemoteCall) :
    (client.call c connection s).2.1.Knows (client.call c connection s).2.2 ∧
      ServedOnce performRemote RemoteCall.Failed s
        (c, (client.call c connection s).1) (client.call c connection s).2.2 := by
  have hnamed := s.performRemote_named c
  unfold BufferClientProducer.call
  cases hremembered : client.remembered c with
  | some v =>
    refine ⟨h, .inl ?_⟩
    rw [h.remembered hremembered]
    exact ⟨rfl, rfl⟩
  | none =>
    have hexchange := c.exchange_spec hconveys s
    dsimp only
    generalize c.exchange connection s = r at hexchange
    obtain ⟨result, t⟩ := r
    rcases hexchange with ⟨failure, rfl, hstate⟩ | hdone
    · refine ⟨?_, .inr ⟨⟨failure, rfl⟩, hstate⟩⟩
      rcases hstate with rfl | rfl
      · exact h
      · exact h.of_named hnamed.1 hnamed.2
    · obtain ⟨rfl, rfl⟩ := Prod.mk.inj hdone
      exact ⟨h.remember.of_named hnamed.1 hnamed.2, .inl ⟨rfl, rfl⟩⟩

theorem named_of_served {failed : RemoteCall → AttributeAnswer → Prop} {s t : AttributedProducer}
    {l : RemoteCall × AttributeAnswer} (h : ServedOnce performRemote failed s l t) :
    t.name = s.name ∧ t.uniqueId = s.uniqueId := by
  rcases h with ⟨-, rfl⟩ | ⟨-, rfl | rfl⟩
  · exact s.performRemote_named l.1
  · exact ⟨rfl, rfl⟩
  · exact s.performRemote_named l.1

theorem Calls.spec {x y : AttributeSession ι} {l : AttributeExchange ι P} (h : x.Sound)
    (hcall : Calls fifo x l y) :
    y.Sound ∧
      ServedOnce performRemote RemoteCall.Failed x.producer (l.call, l.answer) y.producer := by
  obtain ⟨hconveys, hanswer, rfl⟩ := hcall
  obtain ⟨hknows, honce⟩ := call_spec (h l.client) hconveys l.call
  rw [← outcome, ← hanswer] at honce
  have hnamed := named_of_served honce
  have hall : ∀ i, ((x.next l).clients i).Knows (x.next l).producer :=
    (Function.forall_update_iff _ fun _ (client : BufferClientProducer) =>
      client.Knows (x.next l).producer).mpr
        ⟨hknows, fun i _ => (h i).of_named hnamed.1 hnamed.2⟩
  exact ⟨hall, honce⟩

def served (f : AttributedProducer → RemoteCall → AttributeAnswer × AttributedProducer)
    (s : AttributedProducer) (cs : List RemoteCall) : AttributedProducer :=
  execute (fun s c => (f s c).2) s cs

theorem served_eq {s : AttributedProducer} {cs : List RemoteCall}
    (h : ∀ c ∈ cs, c.SameAtHome) :
    served performRemote s cs = served perform s cs ∧
      answers performRemote s cs = answers perform s cs := by
  induction cs generalizing s with
  | nil => exact ⟨rfl, rfl⟩
  | cons c cs ih =>
    have hhead := s.performRemote_eq (h c (by simp))
    obtain ⟨htail, hanswers⟩ := ih (s := (s.perform c).2) fun d hd =>
      h d (List.mem_cons_of_mem _ hd)
    refine ⟨?_, ?_⟩
    · exact (congrArg (fun r => served performRemote r.2 cs) hhead).trans htail
    · rw [answers, answers, hhead, hanswers]

/-- Whatever is lost on the way, no call of a session happens twice or out of order, and the proxy
remembers nothing false. If nothing is lost the session is one in the process of the queue. -/
theorem session_of_proxy {x y : AttributeSession ι} {ls : List (AttributeExchange ι P)}
    (hsound : x.Sound) (run : Run (Calls fifo) x ls y) :
    y.Sound ∧
      (∃ heard, heard.Sublist (ls.map (·.call)) ∧
        y.producer = served performRemote x.producer heard) ∧
      ((∀ l ∈ ls, l.call.SameAtHome ∧ ¬ l.call.Failed l.answer) →
        y.producer = served perform x.producer (ls.map (·.call)) ∧
          ls.map (·.answer) = answers perform x.producer (ls.map (·.call))) := by
  have kept : ∀ (x : AttributeSession ι) l y, x.Sound → Calls fifo x l y → y.Sound :=
    fun _ _ _ h hcall => (Calls.spec h hcall).1
  have onObject := run.simulate (·.producer) (fun l => (l.call, l.answer)) kept
    (fun _ _ _ h hcall => (Calls.spec h hcall).2) hsound
  refine ⟨run.invariant kept hsound, ?_, fun hls => ?_⟩
  · have hheard := heard_of_session onObject
    rwa [List.map_map] at hheard
  · have hlocal := session_is_local onObject (by
      intro l hl
      obtain ⟨e, he, rfl⟩ := List.mem_map.mp hl
      exact (hls e he).2)
    rw [List.map_map, List.map_map] at hlocal
    have hsame : ∀ c ∈ ls.map (·.call), c.SameAtHome := by
      intro c hc
      obtain ⟨e, he, rfl⟩ := List.mem_map.mp hc
      exact (hls e he).1
    exact ⟨hlocal.1.trans (served_eq hsame).1, hlocal.2.trans (served_eq hsame).2⟩

end AttributeSession

def wireConnection (heard answered : Bool) : Connection Wire where
  arguments := emptyWire
  reply := emptyWire
  writeInterfaceToken := Parcel.writeString "surf.IBufferProducer"
  checkInterfaceToken p :=
    match (Parcel.readString p : Except Unit String × Wire) with
    | (.ok descriptor, p) => (descriptor == "surf.IBufferProducer", p)
    | (.error _, p) => (false, p)
  remote := true
  deliver p := if heard then some p else none
  answer p := if answered then some p else none

theorem wireConnection_conveys (heard answered : Bool) :
    (wireConnection heard answered).Conveys wireFloats.toView where
  request p p' r r' words hwritten hcontents hdeliver htoken := by
    obtain ⟨hp, -⟩ := Wire.fifo.write_string "surf.IBufferProducer" emptyWire p hwritten
    obtain rfl := Option.some.inj (Option.ite_none_right_eq_some.mp hdeliver).2
    obtain ⟨descriptor, r'', hread, hrest, -, rfl⟩ :=
      Wire.fifo.read_string p' "surf.IBufferProducer" words
        (hcontents.trans (congrArg (· ++ words) hp))
    simp only [wireConnection, hread] at htoken
    rw [← (Prod.mk.inj htoken).2]
    exact hrest
  fresh := rfl
  answer p r h := by rw [Option.some.inj (Option.ite_none_right_eq_some.mp h).2]

def namedProducer : AttributedProducer where
  toBufferQueueProducer := openProducer
  name := "layer"
  uniqueId := 5

def newSession : AttributeSession Bool := ⟨fun _ => {}, namedProducer⟩

def lossySession : List (AttributeExchange Bool Wire) :=
  [⟨true, .setGlobalAlpha 7, wireConnection true true, .ok .nothing⟩,
    ⟨false, .setGlobalAlpha 9, wireConnection true false, .error GSError.binder.code⟩,
    ⟨true, .getUniqueId, wireConnection true true, .ok (.uint64 5)⟩]

theorem session_of_proxy_lossy :
    (execute AttributeSession.next newSession lossySession).Sound ∧
      (execute AttributeSession.next newSession lossySession).producer.globalAlpha = 9 := by
  have run : Run (AttributeSession.Calls wireFloats) newSession lossySession
      (execute AttributeSession.next newSession lossySession) :=
    .cons ⟨wireConnection_conveys _ _, rfl, rfl⟩
      (.cons ⟨wireConnection_conveys _ _, rfl, rfl⟩
        (.cons ⟨wireConnection_conveys _ _, rfl, rfl⟩ .nil))
  exact ⟨(AttributeSession.session_of_proxy (fun _ => ⟨.inl rfl, .inl rfl⟩) run).1, rfl⟩

/-! ### Messages that no proxy has built -/

namespace BufferQueue

def modes (q : BufferQueue) : Int × Int := (q.videoDimType, q.singleBufferMode)

theorem modes_deleteNoWait (q : BufferQueue) (sequence : ℕ) :
    (q.deleteBufferInCacheNoWaitForAllocatingState sequence).modes = q.modes := by
  unfold deleteBufferInCacheNoWaitForAllocatingState
  cases q.bufferQueueCache.find sequence with
  | none => rfl
  | some ele =>
    dsimp only
    split_ifs <;> rfl

theorem modes_setQueueSize (q : BufferQueue) (queueSize : ℕ) :
    (q.setQueueSize queueSize).2.modes = q.modes := by
  have hdelete (count : ℕ) : (q.deleteBuffersLocked count).modes = q.modes :=
    deleteBuffersLocked_induct (P := fun q' => q'.modes = q.modes) rfl
      (fun q₁ sequence h => (modes_deleteNoWait q₁ sequence).trans h)
      (fun q₁ sequence _ h => (modes_deleteNoWait q₁ sequence).trans h) (fun _ _ h => h) count
  unfold setQueueSize
  split_ifs
  · rfl
  · exact setQueueSizeLocked_induct (P := fun q' => q'.modes = q.modes) rfl hdelete
      (fun _ _ h => h) queueSize

theorem setQueueSize_inRange {q : BufferQueue} (queueSize : ℕ)
    (h : 0 < q.bufferQueueSize ∧ q.bufferQueueSize ≤ surfaceMaxQueueSize) :
    0 < (q.setQueueSize queueSize).2.bufferQueueSize ∧
      (q.setQueueSize queueSize).2.bufferQueueSize ≤ surfaceMaxQueueSize := by
  unfold setQueueSize
  split_ifs with hsize
  · exact h
  · rw [not_or, not_lt] at hsize
    obtain ⟨size, hclamp, ⟨-, hrefused⟩ | ⟨-, -, hsizes⟩⟩ := q.setQueueSizeLocked_cases queueSize
    · rw [hrefused]
      exact h
    · rw [show (q.setQueueSizeLocked queueSize).2.bufferQueueSize = size from
        congrArg (fun sizes => sizes.2.1) hsizes]
      omega

end BufferQueue

namespace AttributedProducer

/-- The attributes whose setters look at a range, here or at the stub, stay in it. -/
structure InRange (s : AttributedProducer) : Prop where
  queueSize : 0 < s.bufferQueue.bufferQueueSize ∧
    s.bufferQueue.bufferQueueSize ≤ surfaceMaxQueueSize
  videoDimType : videoDimType2D.toInt32.toInt ≤ s.bufferQueue.videoDimType ∧
    s.bufferQueue.videoDimType < videoDimTypeButt.toInt32.toInt
  singleBufferMode : singleBufferModeNone ≤ s.bufferQueue.singleBufferMode ∧
    s.bufferQueue.singleBufferMode < singleBufferModeMaxValue.toInt
  appFrameworkType : s.appFrameworkType.utf8ByteSize ≤ maximumLengthOfAppFramework
  rotatingBufferNumber : s.rotatingBufferNumber.toNat ≤ surfaceMaxQueueSize * 2
  frameGravity : minFrameGravity ≤ s.frameGravity ∧ s.frameGravity ≤ maxFrameGravity
  fixedRotation : minFixedRotation ≤ s.fixedRotation ∧ s.fixedRotation ≤ maxFixedRotation
  alphaType : graphicAlphaTypeUnknown ≤ s.alphaType ∧ s.alphaType ≤ graphicAlphaTypeUnpremul

theorem performRemote_operates {s : AttributedProducer} (h : s.bufferQueue.Agrees)
    (hfault : s.bufferQueue.fault = false) (c : RemoteCall) :
    Operates s.bufferQueue (s.performRemote c).2.bufferQueue := by
  have op (op : Op) (hfresh : op.Fresh s.bufferQueue) (hdata : op.HasExtraData) :
      Operates s.bufferQueue (op.next s.bufferQueue) :=
    .op op hfresh (QueueStep.of_hasExtraData h hfault hfresh hdata).2.2
  cases c with
  | setQueueSize queueSize => exact op (.setQueueSize queueSize.toNat) trivial trivial
  | setDefaultUsage usage => exact op (.configure (.setDefaultUsage usage.toNat)) trivial trivial
  | setBufferScalingMode sequence scalingMode =>
    exact op (.setBufferScalingMode sequence.toNat scalingMode.toInt) trivial trivial
  | setScalingMode scalingMode => exact op (.setScalingMode scalingMode.toInt) trivial trivial
  | setVideoDimensionType videoDimType =>
    simp only [performRemote, returned, setVideoDimensionTypeChecked]
    split_ifs
    · exact .refl _
    · exact op (.setVideoDimensionType videoDimType.toInt) trivial trivial
  | releaseLastFlushedBuffer sequence =>
    exact op (.releaseLastFlushedBuffer sequence.toNat) trivial trivial
  | setRequestBufferNoblockMode noblock =>
    exact op (.configure (.setRequestBufferNoblockMode noblock)) trivial trivial
  | setSingleBufferMode mode =>
    simp only [performRemote, returned, setSingleBufferModeChecked]
    split_ifs
    · exact op (.setSingleBufferMode mode.toInt) trivial trivial
    · exact op (.setSingleBufferMode _) trivial trivial
  | _ =>
    simp only [performRemote, perform, returned, setSurfaceAppFrameworkType, setCycleBuffersNumber,
      setFrameGravity, setFixedRotation, setAlphaType]
    try split_ifs
    all_goals exact .refl _

theorem InRange.performRemote {s : AttributedProducer} (h : s.InRange) (c : RemoteCall) :
    (s.performRemote c).2.InRange := by
  cases c with
  | setQueueSize queueSize =>
    have hmodes : (s.performRemote (.setQueueSize queueSize)).2.bufferQueue.modes =
        s.bufferQueue.modes := s.bufferQueue.modes_setQueueSize queueSize.toNat
    obtain ⟨hvideo, hsingle⟩ := Prod.mk.inj hmodes
    exact { h with
      queueSize := BufferQueue.setQueueSize_inRange queueSize.toNat h.queueSize
      videoDimType := hvideo.symm ▸ h.videoDimType
      singleBufferMode := hsingle.symm ▸ h.singleBufferMode }
  | setVideoDimensionType videoDimType =>
    simp only [AttributedProducer.performRemote, returned, setVideoDimensionTypeChecked]
    split_ifs with hrange
    · exact h
    · rw [not_or, Int32.not_lt, Int32.not_le] at hrange
      exact { h with
        videoDimType :=
          ⟨Int32.le_iff_toInt_le.mp hrange.1, Int32.lt_iff_toInt_lt.mp hrange.2⟩ }
  | setBufferScalingMode sequence scalingMode =>
    simp only [AttributedProducer.performRemote, perform, returned, setBufferScalingMode,
      BufferQueue.setBufferScalingMode]
    split_ifs <;> exact { h with }
  | releaseLastFlushedBuffer sequence =>
    simp only [AttributedProducer.performRemote, perform, returned, releaseLastFlushedBuffer,
      BufferQueue.releaseLastFlushedBuffer]
    split_ifs <;> exact { h with }
  | setSingleBufferMode mode =>
    simp only [AttributedProducer.performRemote, returned, setSingleBufferModeChecked]
    split_ifs with hrange
    · exact { h with
        singleBufferMode :=
          ⟨le_of_lt (Int32.lt_iff_toInt_lt.mp hrange.1), Int32.lt_iff_toInt_lt.mp hrange.2⟩ }
    · exact { h with
        singleBufferMode := (by decide : (0 : Int) ≤ 0 ∧ (0 : Int) < 3) }
  | setSurfaceAppFrameworkType appFrameworkType =>
    simp only [AttributedProducer.performRemote, perform, returned, setSurfaceAppFrameworkType]
    split_ifs with hempty hlong
    · exact h
    · exact h
    · exact { h with appFrameworkType := not_lt.mp hlong }
  | setCycleBuffersNumber cycleBuffersNumber =>
    simp only [AttributedProducer.performRemote, perform, returned, setCycleBuffersNumber]
    split_ifs with hrange
    · exact h
    · exact { h with rotatingBufferNumber := not_lt.mp (not_or.mp hrange).2 }
  | setFrameGravity frameGravity =>
    simp only [AttributedProducer.performRemote, perform, returned, setFrameGravity]
    split_ifs with hrange
    · exact h
    · rw [not_or, Int32.not_lt, Int32.not_lt] at hrange
      exact { h with frameGravity := hrange }
  | setFixedRotation fixedRotation =>
    simp only [AttributedProducer.performRemote, perform, returned, setFixedRotation]
    split_ifs with hrange
    · exact h
    · rw [not_or, Int32.not_lt, Int32.not_lt] at hrange
      exact { h with fixedRotation := hrange }
  | setAlphaType alphaType =>
    simp only [AttributedProducer.performRemote, perform, returned, setAlphaType]
    split_ifs with hrange
    · exact h
    · rw [not_or, Int32.not_lt, Int32.not_lt] at hrange
      exact { h with alphaType := hrange }
  | _ => exact { h with }

end AttributedProducer

structure ProducerMessage (P : Type) where
  code : ProducerCode
  arguments : P
  connection : Connection P

namespace ProducerMessage

open AttributedProducer

variable {P : Type}

def Serves (code : ProducerCode) (stub : Stub P AttributedProducer) : Prop :=
  ∀ arguments fresh s, (stub arguments fresh s).2 = s ∨
    ∃ c : RemoteCall, c.code = code ∧ (stub arguments fresh s).2 = (s.performRemote c).2

theorem Serves.getter {β : Type} {get : AttributedProducer → β} {writeReply : β → Coded Unit P Unit}
    {code : ProducerCode} : Serves code (getterRemote get writeReply) := fun arguments fresh s =>
  .inl ((Stub.of_state arguments fresh s).elim id fun ⟨_, ha⟩ => ha)

variable [Parcel P]

theorem Serves.setter {α : Type} {request : Coded Unit P α}
    {set : AttributedProducer → α → GSError × AttributedProducer} {code : ProducerCode}
    (c : α → RemoteCall) (hcode : ∀ a, (c a).code = code)
    (hset : ∀ s a, (s.performRemote (c a)).2 = (set s a).2) :
    Serves code (setterRemote request set) := fun arguments fresh s =>
  (Stub.of_state arguments fresh s).imp_right fun ⟨a, ha⟩ =>
    ⟨c a, hcode a, ha.trans (hset s a).symm⟩

variable [FloatParcel P]

def next (s : AttributedProducer) (m : ProducerMessage P) : AttributedProducer :=
  (m.connection.onRemoteRequest memberFuncMap m.code m.arguments s).2

theorem memberFuncMap_serves {code : ProducerCode} {stub : Stub P AttributedProducer}
    (h : memberFuncMap code = some stub) : Serves code stub := by
  have setter {α : Type} {request : Coded Unit P α}
      {set : AttributedProducer → α → GSError × AttributedProducer}
      (hstub : some (setterRemote request set) = some stub) (c : α → RemoteCall)
      (hcode : ∀ a, (c a).code = code) (hset : ∀ s a, (s.performRemote (c a)).2 = (set s a).2) :
      Serves code stub := Option.some.inj hstub ▸ Serves.setter c hcode hset
  cases code with
  | setQueueSize => exact setter h .setQueueSize (fun _ => rfl) fun _ _ => rfl
  | setScalingMode =>
    exact setter h (fun a => .setBufferScalingMode a.1 a.2) (fun _ => rfl) fun _ _ => rfl
  | setDefaultUsage => exact setter h .setDefaultUsage (fun _ => rfl) fun _ _ => rfl
  | setBufferHold => exact setter h .setBufferHold (fun _ => rfl) fun _ _ => rfl
  | setSourceType => exact setter h .setSurfaceSourceType (fun _ => rfl) fun _ _ => rfl
  | setAppFrameworkType => exact setter h .setSurfaceAppFrameworkType (fun _ => rfl) fun _ _ => rfl
  | setScalingModeV2 => exact setter h .setScalingMode (fun _ => rfl) fun _ _ => rfl
  | setHdrWhitePointBrightness =>
    exact setter h .setHdrWhitePointBrightness (fun _ => rfl) fun _ _ => rfl
  | setSdrWhitePointBrightness =>
    exact setter h .setSdrWhitePointBrightness (fun _ => rfl) fun _ _ => rfl
  | releaseLastFlushedBuffer =>
    exact setter h .releaseLastFlushedBuffer (fun _ => rfl) fun _ _ => rfl
  | setGlobalAlpha => exact setter h .setGlobalAlpha (fun _ => rfl) fun _ _ => rfl
  | setRequestBufferNoblockMode =>
    exact setter h .setRequestBufferNoblockMode (fun _ => rfl) fun _ _ => rfl
  | setBufferName => exact setter h .setBufferName (fun _ => rfl) fun _ _ => rfl
  | setRotatingBuffersNumber => exact setter h .setCycleBuffersNumber (fun _ => rfl) fun _ _ => rfl
  | setFrameGravity => exact setter h .setFrameGravity (fun _ => rfl) fun _ _ => rfl
  | setFixedRotation => exact setter h .setFixedRotation (fun _ => rfl) fun _ _ => rfl
  | connectStrictly => exact setter h (fun _ => .connectStrictly) (fun _ => rfl) fun _ _ => rfl
  | disconnectStrictly =>
    exact setter h (fun _ => .disconnectStrictly) (fun _ => rfl) fun _ _ => rfl
  | setAlphaType => exact setter h .setAlphaType (fun _ => rfl) fun _ _ => rfl
  | setSingleBufferMode => exact setter h .setSingleBufferMode (fun _ => rfl) fun _ _ => rfl
  | setVideoDimensionType => exact setter h .setVideoDimensionType (fun _ => rfl) fun _ _ => rfl
  | getQueueSize | getName | getDefaultWidth | getDefaultHeight | getDefaultUsage | getUniqueId
  | getNameAndUniqueId | getTransform | getSourceType | getAppFrameworkType
  | getRotatingBuffersNumber | getVideoDimensionType =>
    rw [← Option.some.inj h]
    exact Serves.getter
  | unassigned code => cases h

def accepted (m : ProducerMessage P) : Bool := (m.connection.checkInterfaceToken m.arguments).1

theorem next_cases (s : AttributedProducer) (m : ProducerMessage P) :
    next s m = s ∨
      m.accepted = true ∧ ∃ c : RemoteCall, c.code = m.code ∧ next s m = (s.performRemote c).2 := by
  rcases m.connection.onRemoteRequest_state memberFuncMap m.code m.arguments s with
    hsame | ⟨htoken, stub, arguments, hstub, hserved⟩
  · exact .inl hsame
  · unfold next
    rw [hserved]
    exact (memberFuncMap_serves hstub arguments m.connection.reply s).imp_right fun h => ⟨htoken, h⟩

/-- Whatever messages a process sends to the stub, they do what some calls of the codes in them do,
in their order, and a message without the token of the interface does nothing. The queue stays one
that its own operations can reach, and every attribute with a range stays in it. -/
theorem messages_are_calls {s : AttributedProducer} (hreach : Reachable s.bufferQueue)
    (hrange : s.InRange) (ms : List (ProducerMessage P)) :
    (∃ cs : List RemoteCall, (cs.map (·.code)).Sublist ((ms.filter accepted).map (·.code)) ∧
        execute next s ms = AttributeSession.served performRemote s cs) ∧
      Reachable (execute next s ms).bufferQueue ∧ (execute next s ms).InRange := by
  induction ms generalizing s with
  | nil => exact ⟨⟨[], List.Sublist.refl _, rfl⟩, hreach, hrange⟩
  | cons m ms ih =>
    rw [execute]
    rcases next_cases s m with hsame | ⟨htoken, c, hcode, hcall⟩
    · rw [hsame]
      obtain ⟨⟨cs, hsub, hcs⟩, hrest⟩ := ih hreach hrange
      exact ⟨⟨cs, hsub.trans (((List.sublist_cons_self m ms).filter accepted).map _), hcs⟩, hrest⟩
    · rw [hcall, List.filter_cons_of_pos htoken]
      obtain ⟨⟨cs, hsub, hcs⟩, hrest⟩ :=
        ih ((performRemote_operates hreach.agrees hreach.fault c).reachable hreach)
          (hrange.performRemote c)
      refine ⟨⟨c :: cs, ?_, hcs⟩, hrest⟩
      rw [List.map_cons, List.map_cons, hcode]
      exact hsub.cons_cons _

def forgedParcel (number : BitVec 32) : Wire :=
  (Wire.push (.word32 number) rfl (Wire.push (.string "surf.IBufferProducer") rfl emptyWire).2).2

def forgedMessages : List (ProducerMessage Wire) :=
  [⟨.setQueueSize, forgedParcel 4000, wireConnection true true⟩,
    ⟨.setAlphaType, forgedParcel 77, wireConnection true true⟩,
    ⟨.setQueueSize, forgedParcel 5, wireConnection true true⟩]

theorem messages_are_calls_forged :
    (execute next namedProducer forgedMessages).InRange ∧
      (execute next namedProducer forgedMessages).bufferQueue.bufferQueueSize = 5 := by
  have hrange : namedProducer.InRange := by
    constructor <;> decide
  exact ⟨(messages_are_calls reachable_openProducer hrange forgedMessages).2.2, by decide +kernel⟩

end ProducerMessage

end GraphicSurface
