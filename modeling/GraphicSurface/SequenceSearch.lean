import GraphicSurface.SequenceNumbers

/-! The loop of `GenerateSequenceNumber`, pass after pass: it comes to an end, and where. -/

namespace GraphicSurface

open CyclicSearch

/-- `g_seqBitset.test`; `none` for the exception that it throws past the last bit. -/
def testSeqBit (seqBitset : Finset ℕ) (n : ℕ) : Option Bool :=
  if n < maxSequenceNum then some (decide (n ∈ seqBitset)) else none

/-- At most `fuel` passes: the counter and the bits when the loop is left. It is `none` when the loop
goes on after them, and when a test throws. -/
def generateLoop (startSeqNum : ℕ) (seqBitset : Finset ℕ) : ℕ → ℕ → Option (ℕ × Finset ℕ)
  | 0, _ => none
  | fuel + 1, seqNum =>
    if seqNum ≤ maxSequenceNum then
      let seqNum := if seqNum = maxSequenceNum then 0 else seqNum
      match testSeqBit seqBitset seqNum with
      | none => none
      | some false => some (seqNum, insert seqNum seqBitset)
      | some true =>
        if seqNum = (startSeqNum + 2 ^ 32 - 1) % 2 ^ 32 % maxSequenceNum then
          some (startSeqNum, seqBitset)
        else generateLoop startSeqNum seqBitset fuel ((seqNum + 1) % 2 ^ 32)
    else some (seqNum, seqBitset)

variable {seqBitset : Finset ℕ} {start fuel k d : ℕ}

theorem generateLoop_eq_search (hk : k ≤ maxSequenceNum) (hd : d < maxSequenceNum)
    (hfuel : d < fuel)
    (hstop : (start + 2 ^ 32 - 1) % 2 ^ 32 % maxSequenceNum = (k + d) % maxSequenceNum) :
    generateLoop start seqBitset fuel k = some
      (match search maxSequenceNum seqBitset ((k + d) % maxSequenceNum) fuel k with
      | some n => (n, insert n seqBitset)
      | none => (start, seqBitset)) := by
  induction fuel generalizing k d with
  | zero => omega
  | succ fuel ih =>
    have hwrap : wrap maxSequenceNum k < maxSequenceNum := wrap_lt hk (by decide)
    have hmod := wrap_eq_mod hk
    have htest : testSeqBit seqBitset (wrap maxSequenceNum k) =
        some (decide (wrap maxSequenceNum k ∈ seqBitset)) := if_pos hwrap
    have hpass : (if k = maxSequenceNum then 0 else k) = wrap maxSequenceNum k := rfl
    rw [generateLoop, if_pos hk, hpass, search]
    dsimp only
    rw [htest, hstop]
    by_cases hused : wrap maxSequenceNum k ∈ seqBitset
    · rw [if_neg (not_not.mpr hused), decide_eq_true hused]
      dsimp only
      by_cases hlast : wrap maxSequenceNum k = (k + d) % maxSequenceNum
      · rw [if_pos hlast, if_pos hlast]
      · rw [if_neg hlast, if_neg hlast]
        cases d with
        | zero => exact absurd hmod hlast
        | succ d =>
          have hword : (wrap maxSequenceNum k + 1) % 2 ^ 32 = wrap maxSequenceNum k + 1 :=
            Nat.mod_eq_of_lt (Nat.lt_of_le_of_lt hwrap (by decide))
          have hplace := wrap_succ_add hk d
          rw [hword, ← hplace]
          exact ih hwrap (by omega) (by omega) (hstop.trans hplace.symm)
    · rw [if_pos hused, decide_eq_false hused]

theorem generateSequenceNumber_eq (hlow : 1 ≤ start) (hhigh : start ≤ maxSequenceNum) :
    generateSequenceNumber seqBitset start =
      match search maxSequenceNum seqBitset
          ((start % maxSequenceNum + (maxSequenceNum - 1)) % maxSequenceNum) maxSequenceNum
          (start % maxSequenceNum) with
      | some n => (n, insert n seqBitset)
      | none => (start, seqBitset) := by
  obtain ⟨last, rfl⟩ := Nat.exists_eq_succ_of_ne_zero (Nat.ne_zero_of_lt hlow)
  have hword : (last + 1) % 2 ^ 32 = last + 1 :=
    Nat.mod_eq_of_lt (Nat.lt_of_le_of_lt hhigh (by decide))
  exact (congrArg (generateSequenceNumber seqBitset) hword).symm.trans
    (SequenceState.generate_eq hhigh)

theorem generateLoop_eq (hlow : 1 ≤ start) (hhigh : start ≤ maxSequenceNum)
    (hfuel : maxSequenceNum ≤ fuel) :
    generateLoop start seqBitset fuel (start % maxSequenceNum) =
      some (generateSequenceNumber seqBitset start) := by
  have hk : start % maxSequenceNum ≤ maxSequenceNum := (Nat.mod_lt _ (by decide)).le
  have hd : maxSequenceNum - 1 < maxSequenceNum := by decide
  have hstop : (start + 2 ^ 32 - 1) % 2 ^ 32 % maxSequenceNum =
      (start % maxSequenceNum + (maxSequenceNum - 1)) % maxSequenceNum := by
    simp only [maxSequenceNum] at hhigh ⊢
    omega
  rw [generateLoop_eq_search hk hd (by omega) hstop, generateSequenceNumber_eq hlow hhigh,
    search_fuel hk hd (by omega) hd]

/-- `GenerateSequenceNumber` for every state of the bits. The counter that it leaves is also what it
returns. -/
theorem generateSequenceNumber_exhaustive (seqBitset : Finset ℕ) {start : ℕ} (hlow : 1 ≤ start)
    (hhigh : start ≤ maxSequenceNum) :
    ∃ seqNum seqBitset',
      (∀ fuel ≥ maxSequenceNum, generateLoop start seqBitset fuel (start % maxSequenceNum) =
        some (seqNum, seqBitset')) ∧
      ((∃ n < maxSequenceNum, n ∉ seqBitset) →
        (seqNum < maxSequenceNum ∧ seqNum ∉ seqBitset ∧
          ∃ d, seqNum = (start + d) % maxSequenceNum ∧
            ∀ e < d, (start + e) % maxSequenceNum ∈ seqBitset) ∧
        seqBitset' = insert seqNum seqBitset) ∧
      ((∀ n < maxSequenceNum, n ∈ seqBitset) → seqNum = start ∧ seqBitset' = seqBitset) := by
  refine ⟨(generateSequenceNumber seqBitset start).1, (generateSequenceNumber seqBitset start).2,
    fun fuel hfuel => generateLoop_eq hlow hhigh hfuel, ?_, ?_⟩
  · rintro ⟨n, hn, hunused⟩
    have hk : start % maxSequenceNum < maxSequenceNum := Nat.mod_lt _ (by decide)
    have hfound : search maxSequenceNum seqBitset
        ((start % maxSequenceNum + (maxSequenceNum - 1)) % maxSequenceNum) maxSequenceNum
        (start % maxSequenceNum) ≠ none :=
      fun hnone => hunused ((search_around hk).mp hnone n hn)
    obtain ⟨seqNum, hseqNum⟩ := Option.ne_none_iff_exists'.mp hfound
    obtain ⟨hlt, hout⟩ := search_sound hk.le (by decide) hseqNum
    obtain ⟨d, hplace, hbefore⟩ := search_first hk.le (by decide) hseqNum
    rw [generateSequenceNumber_eq hlow hhigh, hseqNum]
    simp only [Nat.mod_add_mod] at hplace hbefore
    exact ⟨⟨hlt, hout, d, hplace, hbefore⟩, rfl⟩
  · intro hfull
    rw [generateSequenceNumber_eq hlow hhigh,
      (search_around (Nat.mod_lt _ (by decide))).mpr hfull]
    exact ⟨rfl, rfl⟩

/-- Past the last index, which is in use, the search goes on at the first. -/
theorem generateSequenceNumber_exhaustive_wraps :
    generateLoop 65534 {65534} maxSequenceNum (65534 % maxSequenceNum) =
      some (0, insert 0 {65534}) := by
  obtain ⟨seqNum, seqBitset', hloop, hclear, -⟩ :=
    generateSequenceNumber_exhaustive {65534} (show 1 ≤ 65534 by decide) (by decide)
  obtain ⟨⟨-, hout, d, hplace, hbefore⟩, rfl⟩ := hclear ⟨0, by decide, by decide⟩
  have hd : d = 1 := by
    rcases d with _ | _ | d
    · exact absurd hplace fun h => hout (h ▸ by decide)
    · rfl
    · exact absurd (hbefore 1 (by omega)) (by decide)
  have hend := hloop maxSequenceNum le_rfl
  rw [hd] at hplace
  rwa [hplace] at hend

end GraphicSurface
