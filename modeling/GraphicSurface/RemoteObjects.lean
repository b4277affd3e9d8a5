import GraphicSurface.Parcel
import GraphicSurface.Runs

/-! Objects that are called through parcels. A client writes a message for a method, the stub of the
method reads it, calls the object and writes the reply, and the client reads that. Whatever the
transport drops, a call happens at most once, and an answer that comes back is the object's own. -/

namespace Parcels

section Formats

variable {P F E α α' β β' : Type}

namespace View

/-- What `write` makes of a value is read as the value that `f` names. -/
def Carries (view : View P F) (write : α → Coded E P Unit) (read : Coded E P β) (f : α → β) :
    Prop :=
  ∀ a, ∃ words, view.Writes (write a) words ∧ ∀ r, view.Reads r read words fun b _ => b = f a

variable {view : View P F}

theorem Carries.nothing :
    view.Carries (fun _ : α => (pure () : Coded E P Unit)) (pure ()) fun _ => () :=
  fun _ => ⟨[], Writes.pure, fun _ => Reads.pure rfl⟩

theorem Carries.seq {write : α → Coded E P Unit} {read : Coded E P β} {f : α → β}
    {write' : α → Coded E P Unit} {read' : β → Coded E P β'} {f' : α → β'}
    (h : view.Carries write read f)
    (h' : ∀ a, ∃ words, view.Writes (write' a) words ∧
      ∀ r, view.Reads r (read' (f a)) words fun b _ => b = f' a) :
    view.Carries (fun a => do write a; write' a) (do let b ← read; read' b) f' := by
  intro a
  obtain ⟨words, hwrites, hreads⟩ := h a
  obtain ⟨words', hwrites', hreads'⟩ := h' a
  exact ⟨words ++ words', hwrites.seq hwrites', fun r => (hreads r).next fun r' _ => hreads' r'⟩

theorem Carries.map {write : α → Coded E P Unit} {read : Coded E P β} {f : α → β}
    (h : view.Carries write read f) (g : β → β') :
    view.Carries write (do let b ← read; pure (g b)) fun a => g (f a) := by
  intro a
  obtain ⟨words, hwrites, hreads⟩ := h a
  exact ⟨words, hwrites, fun r => (hreads r).last fun b _ _ hb => congrArg g hb⟩

theorem Carries.comp {write : α → Coded E P Unit} {read : Coded E P β} {f : α → β}
    (h : view.Carries write read f) (g : α' → α) :
    view.Carries (fun a => write (g a)) read fun a => f (g a) :=
  fun a => h (g a)

end View

namespace Fifo

variable {P F : Type} [Parcel P] (fifo : Fifo P F)

theorem carries_bool : fifo.Carries Parcel.writeBool Parcel.readBool id := fun v =>
  ⟨_, fifo.write_bool v, fun r => fifo.read_bool r v⟩

theorem carries_int32 : fifo.Carries Parcel.writeInt32 Parcel.readInt32 id := fun v =>
  ⟨_, fifo.write_int32 v, fun r => fifo.reads_int32 r v⟩

theorem carries_uint32 : fifo.Carries Parcel.writeUint32 Parcel.readUint32 id := fun v =>
  ⟨_, fifo.write_uint32 v, fun r => fifo.reads_uint32 r v⟩

theorem carries_uint64 : fifo.Carries Parcel.writeUint64 Parcel.readUint64 id := fun v =>
  ⟨_, fifo.write_uint64 v, fun r => fifo.reads_uint64 r v⟩

theorem carries_string : fifo.Carries Parcel.writeString Parcel.readString id := fun v =>
  ⟨_, fifo.write_string v, fun r => fifo.read_string r v⟩

theorem carries_int32_uint32 :
    fifo.Carries (fun v : UInt32 => Parcel.writeInt32 v.toInt32) Parcel.readUint32 id := fun v =>
  ⟨_, fifo.write_int32 v.toInt32, fun r => fifo.reads_uint32 r v⟩

end Fifo

end Formats

/-- The stub of a method, from the parcels of a call to the reply; without one the transport hands
an error to the client. -/
abbrev Stub (P σ : Type) := P → P → σ → Option P × σ

/-- A stub that does nothing before it has read its arguments. -/
def Stub.of {P σ α β : Type} (request : Coded Unit P α) (call : σ → α → β × σ)
    (writeReply : β → Coded Unit P Unit) : Stub P σ := fun arguments fresh s =>
  match request arguments with
  | (.error _, _) => (none, s)
  | (.ok a, _) =>
    match call s a with
    | (b, s) =>
      match writeReply b fresh with
      | (.ok _, reply) => (some reply, s)
      | (.error _, _) => (none, s)

/-- Why a client has no reply: its message could not be built, there is no remote object, or the
transport gave an error. -/
inductive CallFailure
  | message
  | noRemote
  | transport
deriving DecidableEq

/-- What lies between a client and a stub in one call: their fresh parcels and the transport of the
message and of its answer. -/
structure Connection (P : Type) where
  arguments : P
  reply : P
  writeInterfaceToken : Coded Unit P Unit
  checkInterfaceToken : P → Bool × P
  remote : Bool
  deliver : P → Option P
  answer : P → Option P

namespace Connection

variable {P F K σ α β α' ρ : Type}

/-- A message reaches the stub of its code only with the token of the interface. -/
def onRemoteRequest (connection : Connection P) (table : K → Option (Stub P σ)) (code : K)
    (arguments : P) (s : σ) : Option P × σ :=
  match table code with
  | none => (none, s)
  | some stub =>
    match connection.checkInterfaceToken arguments with
    | (false, _) => (none, s)
    | (true, arguments) => stub arguments connection.reply s

def writeMessage (connection : Connection P) (write : Coded Unit P Unit) : Coded Unit P Unit := do
  connection.writeInterfaceToken
  write

def send (connection : Connection P) (table : K → Option (Stub P σ)) (code : K)
    (write : Coded Unit P Unit) (s : σ) : Except CallFailure P × σ :=
  match connection.writeMessage write connection.arguments with
  | (.error _, _) => (.error .message, s)
  | (.ok _, p) =>
    if !connection.remote then (.error .noRemote, s)
    else
      match connection.deliver p with
      | none => (.error .transport, s)
      | some arguments =>
        match connection.onRemoteRequest table code arguments s with
        | (none, s) => (.error .transport, s)
        | (some reply, s) =>
          match connection.answer reply with
          | none => (.error .transport, s)
          | some reply => (.ok reply, s)

/-- As far as either side gets anything, the stub finds what was written behind the token and the
client finds what the stub wrote. -/
structure Conveys (connection : Connection P) (view : View P F) : Prop where
  request : ∀ p p' r r' words, connection.writeInterfaceToken connection.arguments = (.ok (), p) →
    view.contents p' = view.contents p ++ words → connection.deliver p' = some r →
      connection.checkInterfaceToken r = (true, r') → view.contents r' = words
  fresh : view.contents connection.reply = []
  answer : ∀ p r, connection.answer p = some r → view.contents r = view.contents p

variable {connection : Connection P} {view : View P F} {table : K → Option (Stub P σ)} {code : K}
  {write : α → Coded Unit P Unit} {request : Coded Unit P α'} {f : α → α'}
  {call : σ → α' → β × σ} {writeReply : β → Coded Unit P Unit} {readReply : Coded Unit P ρ}
  {g : β → ρ}

theorem stub_reads (call : σ → α' → β × σ) (hfresh : view.contents connection.reply = [])
    (hreply : view.Carries writeReply readReply g) {arguments : P} {a : α'} {words : List (Word F)}
    (hwords : view.contents arguments = words)
    (hreads : view.Reads arguments request words fun b _ => b = a) (s : σ) :
    (Stub.of request call writeReply arguments connection.reply s).2 = (call s a).2 ∧
      ∀ reply, (Stub.of request call writeReply arguments connection.reply s).1 = some reply →
        ∀ r, view.contents r = view.contents reply →
          (readReply r).1 = .ok (g (call s a).1) := by
  obtain ⟨b, arguments', hread, -, -, rfl⟩ := hreads [] (by rw [hwords, List.append_nil])
  unfold Stub.of
  rw [hread]
  dsimp only
  obtain ⟨replied, hwrites, hback⟩ := hreply (call s b).1
  cases hwrite : writeReply (call s b).1 connection.reply with
  | mk result reply =>
    cases result with
    | error e => exact ⟨rfl, fun _ h => by cases h⟩
    | ok _ =>
      refine ⟨rfl, ?_⟩
      rintro _ ⟨⟩ r hr
      have hcontents : view.contents reply = replied := by
        rw [(hwrites connection.reply reply hwrite).1, hfresh, List.nil_append]
      obtain ⟨c, r', hc, -, -, rfl⟩ := hback r [] (by rw [hr, hcontents, List.append_nil])
      rw [hc]

theorem send_cases (h : connection.Conveys view)
    (hstub : table code = some (Stub.of request call writeReply))
    (hrequest : view.Carries write request f) (hreply : view.Carries writeReply readReply g) (a : α)
    (s : σ) :
    (∃ failure, (connection.send table code (write a) s).1 = .error failure ∧
      ((connection.send table code (write a) s).2 = s ∨
        (connection.send table code (write a) s).2 = (call s (f a)).2)) ∨
    (connection.send table code (write a) s).2 = (call s (f a)).2 ∧
      ∃ reply, (connection.send table code (write a) s).1 = .ok reply ∧
        (readReply reply).1 = .ok (g (call s (f a)).1) := by
  obtain ⟨words, hwrites, hreads⟩ := hrequest a
  unfold send
  cases hmessage : connection.writeMessage (write a) connection.arguments with
  | mk result p =>
    cases result with
    | error e => exact .inl ⟨.message, rfl, .inl rfl⟩
    | ok _ =>
      dsimp only
      split
      · exact .inl ⟨.noRemote, rfl, .inl rfl⟩
      cases hdeliver : connection.deliver p with
      | none => exact .inl ⟨.transport, rfl, .inl rfl⟩
      | some arguments =>
        dsimp only
        unfold onRemoteRequest
        rw [hstub]
        dsimp only
        cases htoken : connection.checkInterfaceToken arguments with
        | mk accepted arguments' =>
          cases accepted with
          | false => exact .inl ⟨.transport, rfl, .inl rfl⟩
          | true =>
            obtain ⟨_, p₁, hwritten, hargs⟩ := Coded.of_bind_ok hmessage
            have hcontents := h.request p₁ p arguments arguments' words hwritten
              (hwrites p₁ p hargs).1 hdeliver htoken
            obtain ⟨hstate, hback⟩ :=
              stub_reads call h.fresh hreply hcontents (hreads arguments') s
            dsimp only
            cases hserved : Stub.of request call writeReply arguments' connection.reply s with
            | mk reply s' =>
              rw [hserved] at hstate hback
              cases reply with
              | none => exact .inl ⟨.transport, rfl, .inr hstate⟩
              | some reply =>
                dsimp only
                cases hanswer : connection.answer reply with
                | none => exact .inl ⟨.transport, rfl, .inr hstate⟩
                | some r =>
                  exact .inr ⟨hstate, r, rfl, hback reply rfl r (h.answer reply r hanswer)⟩

end Connection

/-! What a message can do that no client of the interface has built: it gets to a call of the
object, with some arguments, or it does nothing. -/

section Forged

variable {P K σ α β : Type}

theorem Stub.of_state {request : Coded Unit P α} {call : σ → α → β × σ}
    {writeReply : β → Coded Unit P Unit} (arguments fresh : P) (s : σ) :
    (Stub.of request call writeReply arguments fresh s).2 = s ∨
      ∃ a, (Stub.of request call writeReply arguments fresh s).2 = (call s a).2 := by
  unfold Stub.of
  cases request arguments with
  | mk result _ =>
    cases result with
    | error e => exact .inl rfl
    | ok a =>
      refine .inr ⟨a, ?_⟩
      dsimp only
      cases writeReply (call s a).1 fresh with
      | mk written _ => cases written <;> rfl

theorem Connection.onRemoteRequest_state (connection : Connection P)
    (table : K → Option (Stub P σ)) (code : K) (arguments : P) (s : σ) :
    (connection.onRemoteRequest table code arguments s).2 = s ∨
      (connection.checkInterfaceToken arguments).1 = true ∧ ∃ stub arguments',
        table code = some stub ∧ (connection.onRemoteRequest table code arguments s).2 =
          (stub arguments' connection.reply s).2 := by
  unfold onRemoteRequest
  cases table code with
  | none => exact .inl rfl
  | some stub =>
    cases htoken : connection.checkInterfaceToken arguments with
    | mk accepted arguments' =>
      cases accepted with
      | false => exact .inl rfl
      | true => exact .inr ⟨rfl, stub, arguments', rfl, rfl⟩

end Forged

section Sessions

open GraphicSurface.Runs

variable {σ C A : Type}

/-- The object has answered this call, or the client has an answer of its own; then the call may
have happened as well. -/
def ServedOnce (perform : σ → C → A × σ) (failed : C → A → Prop) (s : σ) (l : C × A) (t : σ) :
    Prop :=
  (l.2 = (perform s l.1).1 ∧ t = (perform s l.1).2) ∨
    (failed l.1 l.2 ∧ (t = s ∨ t = (perform s l.1).2))

def answers (perform : σ → C → A × σ) (s : σ) : List C → List A
  | [] => []
  | c :: cs => (perform s c).1 :: answers perform (perform s c).2 cs

variable {perform : σ → C → A × σ} {failed : C → A → Prop} {s t : σ} {ls : List (C × A)}

theorem answers_append (cs : List C) (c : C) :
    answers perform s (cs ++ [c]) =
      answers perform s cs ++ [(perform (execute (fun s c => (perform s c).2) s cs) c).1] := by
  induction cs generalizing s with
  | nil => rfl
  | cons d cs ih => exact congrArg _ ih

theorem heard_of_session (run : Run (ServedOnce perform failed) s ls t) :
    ∃ heard, heard.Sublist (ls.map Prod.fst) ∧
      t = execute (fun s c => (perform s c).2) s heard := by
  induction run with
  | nil => exact ⟨[], List.Sublist.refl _, rfl⟩
  | @snoc ls t u l _ last ih =>
    obtain ⟨heard, hsub, ht⟩ := ih
    have hcalls : (ls ++ [l]).map Prod.fst = ls.map Prod.fst ++ [l.1] := by simp
    rw [hcalls]
    by_cases hu : u = t
    · exact ⟨heard, hsub.trans (List.sublist_append_left _ [l.1]), hu.trans ht⟩
    · have hdone : u = (perform t l.1).2 :=
        last.elim (fun h => h.2) fun h => h.2.resolve_left hu
      refine ⟨heard ++ [l.1], hsub.append (List.Sublist.refl _), ?_⟩
      rw [execute_append, ← ht, hdone]
      rfl

/-- A session in which the client never had an answer of its own is a run of the object. -/
theorem session_is_local (run : Run (ServedOnce perform failed) s ls t)
    (h : ∀ l ∈ ls, ¬ failed l.1 l.2) :
    t = execute (fun s c => (perform s c).2) s (ls.map Prod.fst) ∧
      ls.map Prod.snd = answers perform s (ls.map Prod.fst) := by
  induction run with
  | nil => exact ⟨rfl, rfl⟩
  | @snoc ls t u l _ last ih =>
    obtain ⟨ht, hanswers⟩ := ih fun l hl => h l (List.mem_append_left _ hl)
    have hlast := last.resolve_right fun hfailed => h l (by simp) hfailed.1
    simp only [List.map_append, List.map_cons, List.map_nil]
    rw [execute_append, answers_append, ← ht, ← hanswers, ← hlast.1]
    exact ⟨hlast.2, rfl⟩

end Sessions

end Parcels
