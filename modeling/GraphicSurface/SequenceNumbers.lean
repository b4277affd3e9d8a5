import GraphicSurface.CyclicSearch
import GraphicSurface.Runs

/-! The numbers of the buffers of one process. The low half of a number is an index of
`g_seqBitset`, the high half is taken from the process id. -/

namespace GraphicSurface

open Runs CyclicSearch

def maxSequenceNum : ℕ := 0xFFFF
def pidBit : ℕ := 16

/-- A live `SurfaceBufferImpl`. `owned` is not in the source: the default constructor made the
number, and no parcel has replaced it. -/
structure NumberedBuffer where
  object : ℕ
  sequenceNumber : ℕ
  isSeqNumExist : Bool := false
  owned : Bool := false
deriving DecidableEq

/-- `lastNumber` is the static `sequence_number_` of the default constructor. -/
structure SequenceState where
  seqBitset : Finset ℕ := ∅
  lastNumber : ℕ := 0
  created : ℕ := 0
  live : List NumberedBuffer := []
deriving DecidableEq

inductive SequenceAction
  | create
  | createWithNumber (seqNum : ℕ)
  | readAllProperties (object : ℕ) (seqNum : Option ℕ)
  | destroy (object : ℕ)
deriving DecidableEq

/-- `GenerateSequenceNumber`: the index that it finds, which is the number that it was given when
all are in use, and the bits after it. -/
def generateSequenceNumber (seqBitset : Finset ℕ) (seqNum : ℕ) : ℕ × Finset ℕ :=
  match search maxSequenceNum seqBitset ((seqNum + 2 ^ 32 - 1) % 2 ^ 32 % maxSequenceNum)
      maxSequenceNum (seqNum % maxSequenceNum) with
  | some n => (n, insert n seqBitset)
  | none => (seqNum, seqBitset)

/-- The number `n` of a process; both halves are cut to 16 bits. -/
def ownNumber (pid n : ℕ) : ℕ := pid % 2 ^ pidBit * 2 ^ pidBit + n % 2 ^ pidBit

/-- The test in the other constructor and in the destructor: the number has a bit, and its high
half is the process id. -/
def hasBit (pid seqNum : ℕ) : Bool :=
  decide (seqNum % 2 ^ pidBit < maxSequenceNum) && decide (seqNum / 2 ^ pidBit = pid)

namespace SequenceState

def create (pid : ℕ) (s : SequenceState) : SequenceState :=
  match generateSequenceNumber s.seqBitset ((s.lastNumber + 1) % 2 ^ 32) with
  | (n, seqBitset) =>
    { seqBitset := seqBitset
      lastNumber := n
      created := s.created + 1
      live := { object := s.created, sequenceNumber := ownNumber pid n, owned := true } :: s.live }

/-- `SurfaceBufferImpl(seqNum)`. -/
def createWithNumber (pid : ℕ) (s : SequenceState) (seqNum : ℕ) : SequenceState :=
  { s with
    seqBitset :=
      if hasBit pid seqNum then insert (seqNum % 2 ^ pidBit) s.seqBitset else s.seqBitset
    created := s.created + 1
    live :=
      { object := s.created
        sequenceNumber := seqNum
        isSeqNumExist := hasBit pid seqNum && decide (seqNum % 2 ^ pidBit ∈ s.seqBitset) } ::
      s.live }

/-- `ReadAllPropertiesFromMessageParcel`. The number comes first, so it is replaced even when the
rest cannot be read; `none` for a parcel without a number. -/
def readAllProperties (s : SequenceState) (object : ℕ) : Option ℕ → SequenceState
  | some seqNum =>
    { s with live := s.live.map fun b =>
        if b.object = object then { b with sequenceNumber := seqNum, owned := false } else b }
  | none => s

/-- The destructor clears the bit of the buffer, unless the number existed before it. -/
def clears (pid : ℕ) (b : NumberedBuffer) : Bool := hasBit pid b.sequenceNumber && !b.isSeqNumExist

def destroy (pid : ℕ) (s : SequenceState) (object : ℕ) : SequenceState :=
  { s with
    seqBitset :=
      match s.live.find? (·.object = object) with
      | some b =>
        if clears pid b then s.seqBitset.erase (b.sequenceNumber % 2 ^ pidBit) else s.seqBitset
      | none => s.seqBitset
    live := s.live.filter (·.object ≠ object) }

/-- No two live buffers that the default constructor made, and no parcel has changed, have the same
number. -/
def Unique (s : SequenceState) : Prop :=
  s.live.Pairwise fun b c => b.owned = true → c.owned = true → b.sequenceNumber ≠ c.sequenceNumber

end SequenceState

namespace SequenceAction

open SequenceState

/-- A number is a word of 32 bits. -/
def Allowed : SequenceAction → Prop
  | createWithNumber seqNum | readAllProperties _ (some seqNum) => seqNum < 2 ^ 32
  | _ => True

def apply (pid : ℕ) (s : SequenceState) : SequenceAction → SequenceState
  | create => s.create pid
  | createWithNumber seqNum => s.createWithNumber pid seqNum
  | readAllProperties object seqNum => s.readAllProperties object seqNum
  | destroy object => s.destroy pid object

end SequenceAction

def SequenceStep (pid : ℕ) (s : SequenceState) (a : SequenceAction) (s' : SequenceState) : Prop :=
  a.Allowed ∧ s' = a.apply pid s

namespace SequenceState

/-- A default constructor finds a clear bit, and no destructor clears the number of another live
buffer that owns it. -/
def Spares (pid : ℕ) (s : SequenceState) : SequenceAction → Prop
  | .create => ∃ n < maxSequenceNum, n ∉ s.seqBitset
  | .destroy object => ∀ b ∈ s.live, b.object = object → clears pid b = true →
      ∀ c ∈ s.live, c.object ≠ object → c.owned = true → c.sequenceNumber ≠ b.sequenceNumber
  | _ => True

variable {pid : ℕ} {s : SequenceState} {a : SequenceAction}

theorem generate_eq {seqBitset : Finset ℕ} {last : ℕ} (hlast : last < maxSequenceNum) :
    generateSequenceNumber seqBitset ((last + 1) % 2 ^ 32) =
      match search maxSequenceNum seqBitset
          (((last + 1) % maxSequenceNum + (maxSequenceNum - 1)) % maxSequenceNum) maxSequenceNum
          ((last + 1) % maxSequenceNum) with
      | some n => (n, insert n seqBitset)
      | none => (last + 1, seqBitset) := by
  simp only [maxSequenceNum] at hlast
  have hstart : (last + 1) % 2 ^ 32 = last + 1 := Nat.mod_eq_of_lt (by omega)
  have hbefore : (last + 1 + 2 ^ 32 - 1) % 2 ^ 32 = last := by omega
  have hstop : last % maxSequenceNum =
      ((last + 1) % maxSequenceNum + (maxSequenceNum - 1)) % maxSequenceNum := by
    simp only [maxSequenceNum]
    omega
  unfold generateSequenceNumber
  rw [hstart, hbefore, hstop]

theorem generate_of_clear {seqBitset : Finset ℕ} {last : ℕ} (hlast : last < maxSequenceNum)
    (hclear : ∃ n < maxSequenceNum, n ∉ seqBitset) :
    ∃ n < maxSequenceNum, n ∉ seqBitset ∧
      generateSequenceNumber seqBitset ((last + 1) % 2 ^ 32) = (n, insert n seqBitset) := by
  have hk : (last + 1) % maxSequenceNum < maxSequenceNum := Nat.mod_lt _ (by decide)
  have hfound : search maxSequenceNum seqBitset
      (((last + 1) % maxSequenceNum + (maxSequenceNum - 1)) % maxSequenceNum) maxSequenceNum
      ((last + 1) % maxSequenceNum) ≠ none := by
    intro hnone
    obtain ⟨n, hn, hout⟩ := hclear
    exact hout ((search_around hk).mp hnone n hn)
  obtain ⟨n, hn⟩ := Option.ne_none_iff_exists'.mp hfound
  obtain ⟨hlt, hout⟩ := search_sound hk.le (by decide) hn
  refine ⟨n, hlt, hout, ?_⟩
  rw [generate_eq hlast, hn]

theorem generate_of_unused {seqBitset : Finset ℕ} {last : ℕ} (hlast : last < maxSequenceNum)
    (hunused : (last + 1) % maxSequenceNum ∉ seqBitset) :
    generateSequenceNumber seqBitset ((last + 1) % 2 ^ 32) =
      ((last + 1) % maxSequenceNum, insert ((last + 1) % maxSequenceNum) seqBitset) := by
  have hk : (last + 1) % maxSequenceNum < maxSequenceNum := Nat.mod_lt _ (by decide)
  obtain ⟨fuel, hfuel⟩ : ∃ fuel, maxSequenceNum = fuel + 1 := ⟨65534, rfl⟩
  rw [generate_eq hlast]
  generalize ((last + 1) % maxSequenceNum + (maxSequenceNum - 1)) % maxSequenceNum = stop
  have hfound : search maxSequenceNum seqBitset stop (fuel + 1) ((last + 1) % maxSequenceNum) =
      some ((last + 1) % maxSequenceNum) := search_of_unused hk hunused
  rw [← hfuel] at hfound
  rw [hfound]

theorem generate_of_full {seqBitset : Finset ℕ} {last : ℕ} (hlast : last < maxSequenceNum)
    (hfull : ∀ n < maxSequenceNum, n ∈ seqBitset) :
    generateSequenceNumber seqBitset ((last + 1) % 2 ^ 32) = (last + 1, seqBitset) := by
  have hk : (last + 1) % maxSequenceNum < maxSequenceNum := Nat.mod_lt _ (by decide)
  rw [generate_eq hlast, (search_around hk).mpr hfull]

theorem ownNumber_mod {n : ℕ} (hn : n < maxSequenceNum) : ownNumber pid n % 2 ^ pidBit = n := by
  simp only [ownNumber, maxSequenceNum, pidBit] at hn ⊢
  omega

theorem ownNumber_div (pid n : ℕ) : ownNumber pid n / 2 ^ pidBit = pid % 2 ^ pidBit := by
  simp only [ownNumber, pidBit]
  omega

theorem ownNumber_lt (pid n : ℕ) : ownNumber pid n < 2 ^ 32 := by
  simp only [ownNumber, pidBit]
  omega

theorem number_ext {k l : ℕ} (hmod : k % 2 ^ pidBit = l % 2 ^ pidBit)
    (hdiv : k / 2 ^ pidBit = l / 2 ^ pidBit) : k = l := by
  rw [← Nat.div_add_mod k (2 ^ pidBit), ← Nat.div_add_mod l (2 ^ pidBit), hmod, hdiv]

theorem create_of_clear (pid : ℕ) (hlast : s.lastNumber < maxSequenceNum)
    (hclear : ∃ n < maxSequenceNum, n ∉ s.seqBitset) :
    ∃ n < maxSequenceNum, n ∉ s.seqBitset ∧ s.create pid =
      { seqBitset := insert n s.seqBitset, lastNumber := n, created := s.created + 1,
        live := ⟨s.created, ownNumber pid n, false, true⟩ :: s.live } := by
  obtain ⟨n, hn, hout, hgenerate⟩ := generate_of_clear hlast hclear
  refine ⟨n, hn, hout, ?_⟩
  unfold create
  rw [hgenerate]

theorem create_of_full (pid : ℕ) (hlast : s.lastNumber < maxSequenceNum)
    (hfull : ∀ n < maxSequenceNum, n ∈ s.seqBitset) :
    s.create pid =
      { seqBitset := s.seqBitset, lastNumber := s.lastNumber + 1, created := s.created + 1,
        live := ⟨s.created, ownNumber pid (s.lastNumber + 1), false, true⟩ :: s.live } := by
  unfold create
  rw [generate_of_full hlast hfull]

/-- The bits of the buffers that own their numbers are set. -/
structure Marked (pid : ℕ) (s : SequenceState) : Prop where
  last_lt : s.lastNumber < maxSequenceNum
  objects : ∀ b ∈ s.live, b.object < s.created
  distinct : s.live.Pairwise fun b c => b.object ≠ c.object
  width : ∀ b ∈ s.live, b.sequenceNumber < 2 ^ 32
  bit : ∀ b ∈ s.live, b.owned = true → b.sequenceNumber % 2 ^ pidBit ∈ s.seqBitset ∧
    b.sequenceNumber / 2 ^ pidBit = pid % 2 ^ pidBit
  unique : s.Unique

namespace Marked

theorem start (pid : ℕ) : Marked pid {} := by
  refine ⟨by decide, ?_, .nil, ?_, ?_, .nil⟩ <;> simp

theorem create (h : Marked pid s) (hclear : ∃ n < maxSequenceNum, n ∉ s.seqBitset) :
    Marked pid (s.create pid) := by
  obtain ⟨n, hn, hout, hcreate⟩ := create_of_clear pid h.last_lt hclear
  rw [hcreate]
  refine ⟨hn, ?_, ?_, ?_, ?_, ?_⟩
  · intro b hb
    rcases List.mem_cons.mp hb with rfl | hb
    · exact Nat.lt_succ_self _
    · exact Nat.lt_succ_of_lt (h.objects b hb)
  · refine List.pairwise_cons.mpr ⟨fun c hc => ?_, h.distinct⟩
    exact (h.objects c hc).ne'
  · intro b hb
    rcases List.mem_cons.mp hb with rfl | hb
    · exact ownNumber_lt pid n
    · exact h.width b hb
  · intro b hb howned
    rcases List.mem_cons.mp hb with rfl | hb
    · refine ⟨?_, ownNumber_div pid n⟩
      dsimp only
      rw [ownNumber_mod hn]
      exact Finset.mem_insert_self n _
    · obtain ⟨hbit, hpid⟩ := h.bit b hb howned
      exact ⟨Finset.mem_insert_of_mem hbit, hpid⟩
  · refine List.pairwise_cons.mpr ⟨fun c hc _ howned => ?_, h.unique⟩
    intro hsame
    have hbit := (h.bit c hc howned).1
    rw [← hsame] at hbit
    dsimp only at hbit
    rw [ownNumber_mod hn] at hbit
    exact hout hbit

theorem createWithNumber (h : Marked pid s) {seqNum : ℕ} (hwidth : seqNum < 2 ^ 32) :
    Marked pid (s.createWithNumber pid seqNum) := by
  have hmore : s.seqBitset ⊆ (s.createWithNumber pid seqNum).seqBitset := by
    unfold SequenceState.createWithNumber
    dsimp only
    split_ifs
    · exact Finset.subset_insert _ _
    · exact subset_rfl
  refine ⟨h.last_lt, ?_, ?_, ?_, ?_, ?_⟩
  · intro b hb
    rcases List.mem_cons.mp hb with rfl | hb
    · exact Nat.lt_succ_self _
    · exact Nat.lt_succ_of_lt (h.objects b hb)
  · refine List.pairwise_cons.mpr ⟨fun c hc => ?_, h.distinct⟩
    exact (h.objects c hc).ne'
  · intro b hb
    rcases List.mem_cons.mp hb with rfl | hb
    · exact hwidth
    · exact h.width b hb
  · intro b hb howned
    rcases List.mem_cons.mp hb with rfl | hb
    · simp at howned
    · obtain ⟨hbit, hpid⟩ := h.bit b hb howned
      exact ⟨hmore hbit, hpid⟩
  · refine List.pairwise_cons.mpr ⟨fun c _ howned => ?_, h.unique⟩
    simp at howned

theorem readNumber (h : Marked pid s) {object seqNum : ℕ} (hwidth : seqNum < 2 ^ 32) :
    Marked pid (s.readAllProperties object (some seqNum)) := by
  set read : NumberedBuffer → NumberedBuffer := fun b =>
    if b.object = object then { b with sequenceNumber := seqNum, owned := false } else b with hread
  have hobject : ∀ b, (read b).object = b.object := by
    intro b
    simp only [hread]
    split_ifs <;> rfl
  have howner : ∀ b, (read b).owned = true → read b = b := by
    intro b howned
    simp only [hread] at howned ⊢
    split_ifs at howned ⊢
    rfl
  have hmem : ∀ b, b ∈ (s.readAllProperties object (some seqNum)).live → ∃ c ∈ s.live, read c = b :=
    fun b hb => List.mem_map.mp hb
  refine ⟨h.last_lt, ?_, ?_, ?_, ?_, ?_⟩
  · intro b hb
    obtain ⟨c, hc, rfl⟩ := hmem b hb
    rw [hobject]
    exact h.objects c hc
  · refine List.pairwise_map.mpr (h.distinct.imp ?_)
    intro b c hne
    rwa [hobject, hobject]
  · intro b hb
    obtain ⟨c, hc, rfl⟩ := hmem b hb
    simp only [hread]
    split_ifs
    · exact hwidth
    · exact h.width c hc
  · intro b hb howned
    obtain ⟨c, hc, rfl⟩ := hmem b hb
    have hsame := howner c howned
    rw [hsame] at howned ⊢
    exact h.bit c hc howned
  · refine List.pairwise_map.mpr (h.unique.imp ?_)
    intro b c hne hb hc
    have hb' := howner b hb
    have hc' := howner c hc
    change read b = b at hb'
    change (read b).sequenceNumber ≠ (read c).sequenceNumber
    rw [hb', hc']
    exact hne (hb' ▸ hb) (hc' ▸ hc)

theorem find_object (h : Marked pid s) {b : NumberedBuffer} (hb : b ∈ s.live) :
    s.live.find? (·.object = b.object) = some b := by
  have hfound : (s.live.find? (·.object = b.object)).isSome := by
    rw [List.find?_isSome]
    exact ⟨b, hb, by simp⟩
  obtain ⟨c, hc⟩ := Option.isSome_iff_exists.mp hfound
  have hobject : c.object = b.object := by simpa using List.find?_some hc
  have hmem := List.mem_of_find?_eq_some hc
  rw [hc]
  by_contra hne
  have hne' : c ≠ b := fun hsame => hne (by rw [hsame])
  have : Std.Symm fun b c : NumberedBuffer => b.object ≠ c.object := ⟨fun _ _ h => h.symm⟩
  exact h.distinct.forall hmem hb hne' hobject

theorem destroy (h : Marked pid s) {object : ℕ} (hok : s.Spares pid (.destroy object)) :
    Marked pid (s.destroy pid object) := by
  have hmem : ∀ b, b ∈ (s.destroy pid object).live → b ∈ s.live ∧ b.object ≠ object := by
    intro b hb
    simpa [SequenceState.destroy] using hb
  refine ⟨h.last_lt, fun b hb => h.objects b (hmem b hb).1, h.distinct.filter _,
    fun b hb => h.width b (hmem b hb).1, ?_, h.unique.filter _⟩
  intro c hc howned
  obtain ⟨hlive, hother⟩ := hmem c hc
  obtain ⟨hbit, hpid⟩ := h.bit c hlive howned
  refine ⟨?_, hpid⟩
  unfold SequenceState.destroy
  dsimp only
  split
  · rename_i b hfind
    split_ifs with hclears
    · have hb := List.mem_of_find?_eq_some hfind
      have hobject : b.object = object := by simpa using List.find?_some hfind
      have hne := hok b hb hobject hclears c hlive hother howned
      refine Finset.mem_erase.mpr ⟨fun hsame => hne (number_ext hsame ?_), hbit⟩
      have hwidth := h.width b hb
      simp only [clears, hasBit, Bool.and_eq_true, decide_eq_true_eq] at hclears
      have hhigh := hclears.1.2
      rw [hpid, hhigh]
      simp only [pidBit] at hhigh ⊢
      omega
    · exact hbit
  · exact hbit

theorem step (h : Marked pid s) (hallowed : a.Allowed) (hok : s.Spares pid a) :
    Marked pid (a.apply pid s) := by
  cases a with
  | create => exact h.create hok
  | createWithNumber seqNum => exact h.createWithNumber hallowed
  | readAllProperties object seqNum =>
    cases seqNum with
    | none => exact h
    | some seqNum => exact h.readNumber hallowed
  | destroy object => exact h.destroy hok

end Marked

/-- A process whose id fits into 16 bits, that reads no parcel into a buffer and has fewer buffers
than there are bits. -/
def Plain (s : SequenceState) : SequenceAction → Prop
  | .readAllProperties _ _ => False
  | .create => s.live.length < maxSequenceNum
  | _ => True

/-- Each set bit belongs to exactly one live buffer, which clears it. -/
structure Kept (pid : ℕ) (s : SequenceState) : Prop where
  owner : ∀ n ∈ s.seqBitset, ∃ b ∈ s.live, clears pid b = true ∧ b.sequenceNumber % 2 ^ pidBit = n
  bit : ∀ b ∈ s.live, clears pid b = true → b.sequenceNumber % 2 ^ pidBit ∈ s.seqBitset
  alone : s.live.Pairwise fun b c => clears pid b = true → clears pid c = true →
    b.sequenceNumber ≠ c.sequenceNumber
  owned : ∀ b ∈ s.live, b.owned = true → clears pid b = true

namespace Kept

theorem start (pid : ℕ) : Kept pid {} := by
  refine ⟨?_, ?_, .nil, ?_⟩ <;> simp

/-- Every bit has its own buffer, so there are no more bits than buffers. -/
theorem card_le (h : Kept pid s) : s.seqBitset.card ≤ s.live.length := by
  have hsub : s.seqBitset ⊆ (s.live.map fun b => b.sequenceNumber % 2 ^ pidBit).toFinset := by
    intro n hn
    obtain ⟨b, hb, -, rfl⟩ := h.owner n hn
    exact List.mem_toFinset.mpr (List.mem_map_of_mem hb)
  calc s.seqBitset.card
      ≤ (s.live.map fun b => b.sequenceNumber % 2 ^ pidBit).toFinset.card := Finset.card_le_card hsub
    _ ≤ (s.live.map fun b => b.sequenceNumber % 2 ^ pidBit).length := List.toFinset_card_le _
    _ = s.live.length := List.length_map _

theorem clear_bit (h : Kept pid s) (hfew : s.live.length < maxSequenceNum) :
    ∃ n < maxSequenceNum, n ∉ s.seqBitset := by
  by_contra hall
  have hsub : Finset.range maxSequenceNum ⊆ s.seqBitset := by
    intro n hn
    by_contra hout
    exact hall ⟨n, Finset.mem_range.mp hn, hout⟩
  have hcard := Finset.card_le_card hsub
  rw [Finset.card_range] at hcard
  have hle := h.card_le
  omega

theorem apart (h : Kept pid s) {b c : NumberedBuffer} (hb : b ∈ s.live) (hc : c ∈ s.live)
    (hne : b ≠ c) (hclearsb : clears pid b = true) (hclearsc : clears pid c = true) :
    b.sequenceNumber ≠ c.sequenceNumber := by
  have : Std.Symm fun b c : NumberedBuffer => clears pid b = true → clears pid c = true →
      b.sequenceNumber ≠ c.sequenceNumber := ⟨fun _ _ h hc hb => (h hb hc).symm⟩
  exact h.alone.forall hb hc hne hclearsb hclearsc

theorem spares (h : Kept pid s) (hplain : s.Plain a) :
    s.Spares pid a := by
  cases a with
  | create => exact h.clear_bit hplain
  | createWithNumber | readAllProperties => trivial
  | destroy object =>
    rintro b hb rfl hclears c hc hne howned hsame
    have hcb : c ≠ b := fun h => hne (by rw [h])
    exact h.apart hc hb hcb (h.owned c hc howned) hclears hsame

theorem clears_own {object n : ℕ} (hpid : pid < 2 ^ pidBit) (hn : n < maxSequenceNum) :
    clears pid ⟨object, ownNumber pid n, false, true⟩ = true := by
  simp only [clears, hasBit, ownNumber_mod hn, ownNumber_div, Nat.mod_eq_of_lt hpid]
  simpa using hn

theorem create (h : Kept pid s) (hmarked : Marked pid s) (hpid : pid < 2 ^ pidBit)
    (hfew : s.live.length < maxSequenceNum) : Kept pid (s.create pid) := by
  obtain ⟨n, hn, hout, hcreate⟩ := create_of_clear pid hmarked.last_lt (h.clear_bit hfew)
  rw [hcreate]
  refine ⟨?_, ?_, ?_, ?_⟩
  · intro m hm
    rcases Finset.mem_insert.mp hm with rfl | hm
    · exact ⟨_, List.mem_cons_self, clears_own hpid hn, ownNumber_mod hn⟩
    · obtain ⟨b, hb, hclears, hbit⟩ := h.owner m hm
      exact ⟨b, List.mem_cons_of_mem _ hb, hclears, hbit⟩
  · intro b hb hclears
    rcases List.mem_cons.mp hb with rfl | hb
    · dsimp only
      rw [ownNumber_mod hn]
      exact Finset.mem_insert_self n _
    · exact Finset.mem_insert_of_mem (h.bit b hb hclears)
  · refine List.pairwise_cons.mpr ⟨fun c hc _ hclears hsame => ?_, h.alone⟩
    have hbit := h.bit c hc hclears
    rw [← hsame] at hbit
    dsimp only at hbit
    rw [ownNumber_mod hn] at hbit
    exact hout hbit
  · intro b hb howned
    rcases List.mem_cons.mp hb with rfl | hb
    · exact clears_own hpid hn
    · exact h.owned b hb howned

theorem createWithNumber (h : Kept pid s) (seqNum : ℕ) :
    Kept pid (s.createWithNumber pid seqNum) := by
  set b₀ : NumberedBuffer :=
    ⟨s.created, seqNum, hasBit pid seqNum && decide (seqNum % 2 ^ pidBit ∈ s.seqBitset), false⟩
    with hb₀
  have hclears₀ : clears pid b₀ = true ↔
      hasBit pid seqNum = true ∧ seqNum % 2 ^ pidBit ∉ s.seqBitset := by
    simp only [hb₀, clears]
    cases hasBit pid seqNum <;> simp
  have hbits : (s.createWithNumber pid seqNum).seqBitset =
      if hasBit pid seqNum then insert (seqNum % 2 ^ pidBit) s.seqBitset else s.seqBitset := rfl
  have hlive : (s.createWithNumber pid seqNum).live = b₀ :: s.live := rfl
  have hkept : ∀ n ∈ s.seqBitset, n ∈ (s.createWithNumber pid seqNum).seqBitset := by
    intro n hn
    rw [hbits]
    split_ifs
    · exact Finset.mem_insert_of_mem hn
    · exact hn
  refine ⟨?_, ?_, ?_, ?_⟩
  · intro n hn
    rw [hlive]
    by_cases hold : n ∈ s.seqBitset
    · obtain ⟨b, hb, hclears, hbit⟩ := h.owner n hold
      exact ⟨b, List.mem_cons_of_mem _ hb, hclears, hbit⟩
    · rw [hbits] at hn
      split_ifs at hn with hhas
      · rcases Finset.mem_insert.mp hn with rfl | hn
        · exact ⟨b₀, List.mem_cons_self, hclears₀.mpr ⟨hhas, hold⟩, rfl⟩
        · exact absurd hn hold
      · exact absurd hn hold
  · intro b hb hclears
    rw [hlive] at hb
    rcases List.mem_cons.mp hb with rfl | hb
    · rw [hbits, if_pos (hclears₀.mp hclears).1]
      exact Finset.mem_insert_self _ _
    · exact hkept _ (h.bit b hb hclears)
  · rw [hlive]
    refine List.pairwise_cons.mpr ⟨fun c hc hclearsb hclearsc hsame => ?_, h.alone⟩
    have hbit := h.bit c hc hclearsc
    rw [← hsame] at hbit
    exact (hclears₀.mp hclearsb).2 hbit
  · intro b hb howned
    rw [hlive] at hb
    rcases List.mem_cons.mp hb with rfl | hb
    · simp [hb₀] at howned
    · exact h.owned b hb howned

theorem destroy (h : Kept pid s) (hmarked : Marked pid s) (object : ℕ) :
    Kept pid (s.destroy pid object) := by
  have hmem : ∀ b, b ∈ (s.destroy pid object).live ↔ b ∈ s.live ∧ b.object ≠ object := by
    intro b
    simp [SequenceState.destroy]
  have hbits : ∀ n, n ∈ (s.destroy pid object).seqBitset ↔ n ∈ s.seqBitset ∧
      ∀ b ∈ s.live, b.object = object → clears pid b = true →
        b.sequenceNumber % 2 ^ pidBit ≠ n := by
    intro n
    unfold SequenceState.destroy
    dsimp only
    split
    · rename_i b hfind
      have hb := List.mem_of_find?_eq_some hfind
      have hobject : b.object = object := by simpa using List.find?_some hfind
      subst hobject
      have honly : ∀ c ∈ s.live, c.object = b.object → c = b := by
        intro c hc hsame
        have hfindc := hmarked.find_object hc
        rw [hsame, hfind] at hfindc
        exact (Option.some.inj hfindc).symm
      split_ifs with hclears
      · rw [Finset.mem_erase]
        constructor
        · rintro ⟨hne, hn⟩
          refine ⟨hn, fun c hc hsame _ => ?_⟩
          rw [honly c hc hsame]
          exact hne.symm
        · rintro ⟨hn, hne⟩
          exact ⟨(hne b hb rfl hclears).symm, hn⟩
      · refine ⟨fun hn => ⟨hn, fun c hc hsame hc' => ?_⟩, And.left⟩
        rw [honly c hc hsame] at hc'
        exact absurd hc' hclears
    · rename_i hfind
      refine ⟨fun hn => ⟨hn, fun c hc hsame _ => ?_⟩, And.left⟩
      have hnone := List.find?_eq_none.mp hfind c hc
      exact absurd (decide_eq_true hsame) hnone
  refine ⟨?_, ?_, h.alone.filter _, fun b hb => h.owned b ((hmem b).mp hb).1⟩
  · intro n hn
    obtain ⟨hold, hnot⟩ := (hbits n).mp hn
    obtain ⟨b, hb, hclears, rfl⟩ := h.owner n hold
    exact ⟨b, (hmem b).mpr ⟨hb, fun hobject => hnot b hb hobject hclears rfl⟩, hclears, rfl⟩
  · intro b hb hclears
    obtain ⟨hlive, hother⟩ := (hmem b).mp hb
    refine (hbits _).mpr ⟨h.bit b hlive hclears, fun c hc hobject hclearsc hsame => ?_⟩
    have hne : c ≠ b := fun hcb => hother (by rw [← hcb, hobject])
    refine h.apart hc hlive hne hclearsc hclears (number_ext hsame ?_)
    simp only [clears, hasBit, Bool.and_eq_true, decide_eq_true_eq] at hclears hclearsc
    rw [hclearsc.1.2, hclears.1.2]

theorem step (h : Kept pid s) (hmarked : Marked pid s) (hpid : pid < 2 ^ pidBit)
    (hplain : s.Plain a) : Kept pid (a.apply pid s) := by
  cases a with
  | create => exact h.create hmarked hpid hplain
  | createWithNumber seqNum => exact h.createWithNumber seqNum
  | readAllProperties object seqNum => exact hplain.elim
  | destroy object => exact h.destroy hmarked object

end Kept

end SequenceState

/-- When every default constructor finds a clear bit and no destructor clears the number of another
live buffer that owns it, live buffers that own their numbers have different ones. A process whose
id fits into 16 bits, that reads no parcel into a buffer and has at most 65534 buffers when it makes
one, keeps to that. -/
theorem sequence_numbers_unique (pid : ℕ) (as : List SequenceAction) (s : SequenceState) :
    (Run (restrict (SequenceStep pid) (SequenceState.Spares pid)) {} as s → s.Unique) ∧
      (pid < 2 ^ pidBit → Run (restrict (SequenceStep pid) SequenceState.Plain) {} as s →
        Run (restrict (SequenceStep pid) (SequenceState.Spares pid)) {} as s) := by
  refine ⟨fun run => ?_, fun hpid run => ?_⟩
  · refine (run.invariant ?_ (SequenceState.Marked.start pid)).unique
    rintro s a _ hmarked ⟨⟨hallowed, rfl⟩, hok⟩
    exact hmarked.step hallowed hok
  · suffices h : Run (restrict (SequenceStep pid) (SequenceState.Spares pid)) {} as s ∧
        SequenceState.Marked pid s ∧ SequenceState.Kept pid s from h.1
    induction run with
    | nil => exact ⟨.nil, .start pid, .start pid⟩
    | snoc _ last ih =>
      obtain ⟨⟨hallowed, rfl⟩, hplain⟩ := last
      obtain ⟨run, hmarked, hkept⟩ := ih
      have hok := hkept.spares hplain
      exact ⟨run.snoc ⟨⟨hallowed, rfl⟩, hok⟩, hmarked.step hallowed hok,
        hkept.step hmarked hpid hplain⟩

theorem sequence_numbers_unique_twoBuffers : ∃ s,
    Run (restrict (SequenceStep 1) (SequenceState.Spares 1)) {} [.create, .create] s ∧
      s.live.length = 2 ∧ s.Unique := by
  have run : Run (restrict (SequenceStep 1) SequenceState.Plain) {} ([.create] ++ [.create])
      (({} : SequenceState).create 1 |>.create 1) := by
    refine Run.snoc (Run.single ⟨⟨trivial, rfl⟩, ?_⟩) ⟨⟨trivial, rfl⟩, ?_⟩
    · change 0 < maxSequenceNum
      decide
    · change 1 < maxSequenceNum
      decide
  have hspares := (sequence_numbers_unique 1 _ _).2 (by decide) run
  exact ⟨_, hspares, rfl, (sequence_numbers_unique 1 _ _).1 hspares⟩

namespace SequenceState

def wideFirst : NumberedBuffer := ⟨0, ownNumber 65537 1, false, true⟩

/-- In a process with the id 65537: one buffer stays alive, and `k` others have come and gone. -/
def wideChurn (k : ℕ) : SequenceState :=
  { seqBitset := Finset.Icc 1 (k + 1), lastNumber := k + 1, created := k + 1, live := [wideFirst] }

theorem wide_hasBit (n : ℕ) : hasBit 65537 (ownNumber 65537 n) = false := by
  have hhigh : ownNumber 65537 n / 2 ^ pidBit ≠ 65537 := by
    rw [ownNumber_div]
    decide
  rw [hasBit, decide_eq_false hhigh, Bool.and_false]

/-- The bit of a buffer that is gone stays set, since its number does not carry the whole id. -/
theorem wide_round {bits : Finset ℕ} {last created : ℕ} (hlast : last < maxSequenceNum)
    (hcreated : 0 < created) (hunused : (last + 1) % maxSequenceNum ∉ bits) :
    ((create 65537 ⟨bits, last, created, [wideFirst]⟩).destroy 65537 created) =
      ⟨insert ((last + 1) % maxSequenceNum) bits, (last + 1) % maxSequenceNum, created + 1,
        [wideFirst]⟩ := by
  unfold create
  dsimp only
  rw [generate_of_unused hlast hunused]
  have hother : wideFirst.object ≠ created := hcreated.ne
  simp [destroy, clears, wide_hasBit, hother]

/-- Runs in which fewer buffers are alive than there are bits. -/
def WideRun (as : List SequenceAction) (s : SequenceState) : Prop :=
  Run (restrict (SequenceStep 65537) fun s _ => s.live.length < maxSequenceNum) {} as s

theorem length_create (pid : ℕ) (s : SequenceState) :
    (s.create pid).live.length = s.live.length + 1 := rfl

theorem WideRun.round {as : List SequenceAction} {bits : Finset ℕ} {last created : ℕ}
    (run : WideRun as ⟨bits, last, created, [wideFirst]⟩) (hlast : last < maxSequenceNum)
    (hcreated : 0 < created) (hunused : (last + 1) % maxSequenceNum ∉ bits) :
    WideRun (as ++ [.create] ++ [.destroy created])
      ⟨insert ((last + 1) % maxSequenceNum) bits, (last + 1) % maxSequenceNum, created + 1,
        [wideFirst]⟩ := by
  rw [← wide_round hlast hcreated hunused]
  refine Run.snoc (Run.snoc run ⟨⟨trivial, rfl⟩, ?_⟩) ⟨⟨trivial, rfl⟩, ?_⟩
  · change [wideFirst].length < maxSequenceNum
    decide
  · change ((create 65537 ⟨bits, last, created, [wideFirst]⟩).live).length < maxSequenceNum
    rw [length_create]
    change 2 < maxSequenceNum
    decide

theorem wide_run (k : ℕ) (hk : k + 1 < maxSequenceNum) : ∃ as, WideRun as (wideChurn k) := by
  induction k with
  | zero =>
    refine ⟨[.create], .single ⟨⟨trivial, ?_⟩, by decide⟩⟩
    change wideChurn 0 = create 65537 {}
    have hfirst : generateSequenceNumber ∅ ((0 + 1) % 2 ^ 32) =
        ((0 + 1) % maxSequenceNum, insert ((0 + 1) % maxSequenceNum) ∅) :=
      generate_of_unused (by decide) (by simp)
    unfold create
    rw [show generateSequenceNumber _ _ = _ from hfirst]
    rfl
  | succ k ih =>
    obtain ⟨as, run⟩ := ih (by omega)
    have hnext : (k + 1 + 1) % maxSequenceNum = k + 1 + 1 := Nat.mod_eq_of_lt hk
    have hround := run.round (by omega) (Nat.succ_pos k) (by rw [hnext]; simp)
    have hbits : insert (k + 1 + 1) (Finset.Icc 1 (k + 1)) = Finset.Icc 1 (k + 1 + 1) :=
      Finset.insert_Icc_right_eq_Icc_add_one (by omega)
    rw [hnext, hbits] at hround
    exact ⟨_, hround⟩

/-- Once every bit has been used, two live buffers get the same number. -/
theorem wide_pid_repeats_number : ∃ as s,
    Run (restrict (SequenceStep 65537) fun s _ => s.live.length < maxSequenceNum) {} as s ∧
      s.live.length < maxSequenceNum ∧ ¬ s.Unique := by
  obtain ⟨as, run⟩ := wide_run 65533 (by decide)
  have hzero : (65534 + 1) % maxSequenceNum = 0 := rfl
  have hround := run.round (by decide) (by decide) (by simp [maxSequenceNum])
  rw [show 65533 + 1 = 65534 from rfl, hzero] at hround
  have hfull : ∀ n < maxSequenceNum, n ∈ insert 0 (Finset.Icc 1 65534) := by
    intro n hn
    simp only [maxSequenceNum] at hn
    rw [Finset.mem_insert, Finset.mem_Icc]
    omega
  generalize insert 0 (Finset.Icc 1 65534) = bits at hround hfull
  have hcreate := create_of_full 65537 (s := ⟨bits, 0, 65534 + 1, [wideFirst]⟩)
    (show 0 < maxSequenceNum by decide) hfull
  have hfew : [wideFirst].length < maxSequenceNum := by decide
  have hlast : restrict (SequenceStep 65537) (fun s _ => s.live.length < maxSequenceNum)
      ⟨bits, 0, 65534 + 1, [wideFirst]⟩ .create _ := ⟨⟨trivial, hcreate.symm⟩, hfew⟩
  refine ⟨_, _, Run.snoc hround hlast, show 2 < maxSequenceNum by decide, fun hunique => ?_⟩
  have hne := (List.pairwise_cons.mp hunique).1 wideFirst (List.mem_singleton_self _)
  exact hne rfl rfl rfl

end SequenceState

end GraphicSurface
