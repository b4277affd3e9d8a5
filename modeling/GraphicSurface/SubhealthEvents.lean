import GraphicSurface.Histories
import GraphicSurface.Runs

/-! The limit on the reports of slow acquire fences. It is meant for a day, but the day is kept as a
day of the year: a call starts a new count when its day of the year is larger than the one kept. -/

namespace GraphicSurface

open Runs Histories

def gpuSubhealthEventLimit : ℕ := 200

/-- What is read of `std::tm`. The two fields name a calendar day. -/
structure Tm where
  year : ℤ
  yday : ℤ
deriving DecidableEq

/-- In a calendar, `d` is no later than `e`. -/
def Tm.NotAfter (d e : Tm) : Prop := d.year < e.year ∨ d.year = e.year ∧ d.yday ≤ e.yday

theorem Tm.NotAfter.eq {d e : Tm} (h : d.NotAfter e) (h' : e.NotAfter d) : d = e := by
  obtain ⟨year, yday⟩ := d
  obtain ⟨year', yday'⟩ := e
  unfold Tm.NotAfter at h h'
  dsimp only at h h'
  rw [Tm.mk.injEq]
  omega

structure SubhealthEvents where
  gpuSubhealthEventNum : ℕ := 0
  gpuSubhealthEventDay : ℤ := 0
deriving DecidableEq

namespace SubhealthEvents

def startsDay (s : SubhealthEvents) : Option Tm → Option ℤ
  | some tm =>
    if s.gpuSubhealthEventNum = 0 ∨ tm.yday > s.gpuSubhealthEventDay then some tm.yday else none
  | none => none

/-- `tm`: what `std::localtime` makes of the time of the call; `none` for the null pointer. -/
def checkGpuSubhealthEventLimit (s : SubhealthEvents) (tm : Option Tm) : Bool × SubhealthEvents :=
  match s.startsDay tm with
  | some yday => (true, { gpuSubhealthEventNum := 1, gpuSubhealthEventDay := yday })
  | none =>
    if s.gpuSubhealthEventNum < gpuSubhealthEventLimit then
      (true, { s with gpuSubhealthEventNum := s.gpuSubhealthEventNum + 1 })
    else (false, s)

/-- The state after calls at times with the local dates `dates`. -/
def after (dates : List Tm) : SubhealthEvents :=
  execute (fun s tm => (s.checkGpuSubhealthEventLimit (some tm)).2) {} dates

/-- The first calls of a day return true, as many as the limit allows, the others false. -/
def RightAt (dates : List Tm) (d : Tm) : Prop :=
  ((after dates).checkGpuSubhealthEventLimit (some d)).1 = true ↔
    dates.count d < gpuSubhealthEventLimit

variable {s : SubhealthEvents} {dates : List Tm} {d : Tm}

theorem after_append : after (dates ++ [d]) =
    ((after dates).checkGpuSubhealthEventLimit (some d)).2 :=
  execute_append _ _ _ _

theorem check_of_starts (h : s.gpuSubhealthEventNum = 0 ∨ d.yday > s.gpuSubhealthEventDay) :
    s.checkGpuSubhealthEventLimit (some d) = (true, ⟨1, d.yday⟩) := by
  have hstarts : s.startsDay (some d) = some d.yday := if_pos h
  rw [checkGpuSubhealthEventLimit, hstarts]

theorem check_of_goes_on (h : ¬ (s.gpuSubhealthEventNum = 0 ∨ d.yday > s.gpuSubhealthEventDay)) :
    s.checkGpuSubhealthEventLimit (some d) =
      if s.gpuSubhealthEventNum < gpuSubhealthEventLimit then
        (true, { s with gpuSubhealthEventNum := s.gpuSubhealthEventNum + 1 })
      else (false, s) := by
  have hstarts : s.startsDay (some d) = none := if_neg h
  rw [checkGpuSubhealthEventLimit, hstarts]

/-- The count goes on from the first call on the largest day of the year. -/
structure Counts (dates : List Tm) (s : SubhealthEvents) : Prop where
  num : s.gpuSubhealthEventNum = min (sincePeak Tm.yday dates) gpuSubhealthEventLimit
  reached : dates ≠ [] → ∃ e ∈ dates, e.yday = s.gpuSubhealthEventDay
  largest : ∀ e ∈ dates, e.yday ≤ s.gpuSubhealthEventDay

theorem Counts.starts_iff (h : Counts dates s) :
    s.gpuSubhealthEventNum = 0 ∨ d.yday > s.gpuSubhealthEventDay ↔
      ∀ e ∈ dates, e.yday < d.yday := by
  by_cases hempty : dates = []
  · have hzero : s.gpuSubhealthEventNum = 0 := by
      rw [h.num, hempty]
      rfl
    rw [hempty]
    exact iff_of_true (Or.inl hzero) (by simp)
  · have hpos : s.gpuSubhealthEventNum ≠ 0 := by
      have hpeak := sincePeak_pos Tm.yday hempty
      rw [h.num, gpuSubhealthEventLimit]
      omega
    constructor
    · rintro (hzero | hlater)
      · exact absurd hzero hpos
      · exact fun e he => (h.largest e he).trans_lt hlater
    · intro hall
      obtain ⟨e, he, hday⟩ := h.reached hempty
      exact Or.inr (hday ▸ hall e he)

theorem Counts.check (h : Counts dates s) (d : Tm) :
    s.checkGpuSubhealthEventLimit (some d) =
      if ∀ e ∈ dates, e.yday < d.yday then (true, ⟨1, d.yday⟩)
      else if sincePeak Tm.yday dates < gpuSubhealthEventLimit then
        (true, { s with gpuSubhealthEventNum := sincePeak Tm.yday dates + 1 })
      else (false, s) := by
  have hnum := h.num
  by_cases hall : ∀ e ∈ dates, e.yday < d.yday
  · rw [if_pos hall, check_of_starts (h.starts_iff.mpr hall)]
  · rw [if_neg hall, check_of_goes_on (mt h.starts_iff.mp hall)]
    by_cases hlimit : sincePeak Tm.yday dates < gpuSubhealthEventLimit
    · have hsame : s.gpuSubhealthEventNum = sincePeak Tm.yday dates := by omega
      rw [if_pos hlimit, if_pos (hsame ▸ hlimit), hsame]
    · rw [if_neg hlimit, if_neg (by omega)]

theorem Counts.append (h : Counts dates s) (d : Tm) :
    Counts (dates ++ [d]) (s.checkGpuSubhealthEventLimit (some d)).2 := by
  rw [h.check d]
  by_cases hall : ∀ e ∈ dates, e.yday < d.yday
  · rw [if_pos hall]
    refine ⟨?_, fun _ => ⟨d, by simp, rfl⟩, fun e he => ?_⟩
    · rw [sincePeak_append_of_lt hall]
      rfl
    · rcases List.mem_append.mp he with he | he
      · exact (hall e he).le
      · rw [List.mem_singleton.mp he]
  · rw [if_neg hall]
    simp only [not_forall, not_lt] at hall
    obtain ⟨e, he, hle⟩ := hall
    have hpeak : sincePeak Tm.yday (dates ++ [d]) = sincePeak Tm.yday dates + 1 :=
      sincePeak_append_of_le ⟨e, he, hle⟩
    have hreached : ∃ e' ∈ dates ++ [d], e'.yday = s.gpuSubhealthEventDay := by
      obtain ⟨e', he', hday⟩ := h.reached (List.ne_nil_of_mem he)
      exact ⟨e', List.mem_append_left _ he', hday⟩
    have hlargest : ∀ e' ∈ dates ++ [d], e'.yday ≤ s.gpuSubhealthEventDay := by
      intro e' he'
      rcases List.mem_append.mp he' with he' | he'
      · exact h.largest e' he'
      · rw [List.mem_singleton.mp he']
        exact hle.trans (h.largest e he)
    split_ifs with hlimit
    · refine ⟨?_, fun _ => hreached, hlargest⟩
      rw [hpeak]
      exact (Nat.min_eq_left hlimit).symm
    · refine ⟨?_, fun _ => hreached, hlargest⟩
      rw [h.num, hpeak]
      omega

theorem counts_after (dates : List Tm) : Counts dates (after dates) := by
  induction dates using List.reverseRecOn with
  | nil => exact ⟨rfl, fun h => absurd rfl h, by simp⟩
  | append_singleton dates d ih =>
    rw [after_append]
    exact ih.append d

/-- On a day of the year that an earlier call has reached, the call looks at the calls since the
first one on the largest day of the year. -/
def SameSide (dates : List Tm) (d : Tm) : Prop :=
  (∃ e ∈ dates, d.yday ≤ e.yday) →
    (sincePeak Tm.yday dates < gpuSubhealthEventLimit ↔ dates.count d < gpuSubhealthEventLimit)

theorem rightAt_iff (dates : List Tm) (d : Tm) : RightAt dates d ↔ SameSide dates d := by
  unfold RightAt SameSide
  rw [(counts_after dates).check d]
  by_cases hall : ∀ e ∈ dates, e.yday < d.yday
  · have hnone : ¬ ∃ e ∈ dates, d.yday ≤ e.yday := by
      rintro ⟨e, he, hle⟩
      exact not_lt_of_ge hle (hall e he)
    have hcount : dates.count d = 0 :=
      List.count_eq_zero.mpr fun hd => lt_irrefl _ (hall d hd)
    rw [if_pos hall, hcount]
    exact iff_of_true (iff_of_true rfl (by decide)) fun h => absurd h hnone
  · rw [if_neg hall]
    simp only [not_forall, not_lt] at hall
    obtain ⟨e, he, hle⟩ := hall
    have hreached : ∃ e ∈ dates, d.yday ≤ e.yday := ⟨e, he, hle⟩
    rw [imp_iff_right hreached]
    split_ifs with hlimit
    · exact iff_congr (iff_of_true rfl hlimit) Iff.rfl
    · exact iff_congr (iff_of_false nofun hlimit) Iff.rfl

/-- Dates that never go back fail at the end of a year only. -/
def SparedByYearEnd (dates : List Tm) (d : Tm) : Prop :=
  dates.count d < gpuSubhealthEventLimit → (∃ e ∈ dates, e.year < d.year ∧ d.yday ≤ e.yday) →
    sincePeak Tm.yday dates < gpuSubhealthEventLimit

/-- No call on the date `d` comes before the first call on the largest day of the year, and when
that call is on `d` too, all the calls after it are. -/
theorem count_of_sorted (hsorted : (dates ++ [d]).Pairwise Tm.NotAfter)
    (hreached : ∃ e ∈ dates, d.yday ≤ e.yday) :
    dates.count d ≤ sincePeak Tm.yday dates ∧
      ((∃ e ∈ dates, e.year < d.year ∧ d.yday ≤ e.yday) ∨
        dates.count d = sincePeak Tm.yday dates) := by
  obtain ⟨e, he, hle⟩ := hreached
  obtain ⟨before, p, after, rfl, hbefore, hafter⟩ := exists_peak Tm.yday (List.ne_nil_of_mem he)
  have hp : p ∈ before ++ p :: after := by simp
  have hpeak : d.yday ≤ p.yday := by
    rcases List.mem_append.mp he with he | he
    · exact hle.trans (hbefore e he).le
    · rcases List.mem_cons.mp he with rfl | he
      · exact hle
      · exact hle.trans (hafter e he)
  obtain ⟨hdates, -, hlast⟩ := List.pairwise_append.mp hsorted
  have hpd : p.NotAfter d := hlast p hp d (by simp)
  have hnone : before.count d = 0 := by
    refine List.count_eq_zero.mpr fun hd => ?_
    have hdp : d.NotAfter p := (List.pairwise_append.mp hdates).2.2 d hd p (by simp)
    exact absurd (hbefore d hd) (by rw [hdp.eq hpd]; exact lt_irrefl _)
  rw [sincePeak_eq hbefore hafter, List.count_append, hnone, zero_add]
  refine ⟨List.count_le_length, ?_⟩
  by_cases hyear : p.year < d.year
  · exact Or.inl ⟨p, hp, hyear, hpeak⟩
  · have hsame : p = d := hpd.eq (by unfold Tm.NotAfter at hpd ⊢; omega)
    refine Or.inr (List.count_eq_length.mpr fun x hx => ?_)
    rcases List.mem_cons.mp hx with rfl | hx
    · exact hsame.symm
    · have hpx : p.NotAfter x :=
        (List.pairwise_cons.mp (List.pairwise_append.mp hdates).2.1).1 x hx
      have hxd : x.NotAfter d := hlast x (by simp [hx]) d (by simp)
      exact (hxd.eq (hsame ▸ hpx)).symm

theorem sameSide_iff_of_sorted (hsorted : (dates ++ [d]).Pairwise Tm.NotAfter) :
    SameSide dates d ↔ SparedByYearEnd dates d := by
  constructor
  · rintro h hcount ⟨e, he, -, hle⟩
    exact (h ⟨e, he, hle⟩).mpr hcount
  · intro h hreached
    obtain ⟨hle, hyear⟩ := count_of_sorted hsorted hreached
    refine ⟨hle.trans_lt, fun hcount => ?_⟩
    rcases hyear with hyear | hequal
    · exact h hcount hyear
    · exact hequal ▸ hcount

end SubhealthEvents

open SubhealthEvents

/-- Call after call. The second part is about the dates of times that do not decrease. -/
theorem subhealth_limit_per_day (dates : List Tm) :
    ((∀ done d, done ++ [d] <+: dates → RightAt done d) ↔
      ∀ done d, done ++ [d] <+: dates → SameSide done d) ∧
    (dates.Pairwise Tm.NotAfter →
      ((∀ done d, done ++ [d] <+: dates → RightAt done d) ↔
        ∀ done d, done ++ [d] <+: dates → SparedByYearEnd done d)) := by
  refine ⟨forall₃_congr fun done d _ => rightAt_iff done d, fun hsorted => ?_⟩
  refine forall₃_congr fun done d hpart => (rightAt_iff done d).trans ?_
  exact sameSide_iff_of_sorted (hsorted.sublist hpart.sublist)

/-- As many calls as a day allows on the last day of 2024, and one on the first day of 2025. -/
theorem first_event_of_year_refused : ¬ RightAt (List.replicate 200 ⟨124, 365⟩) ⟨125, 0⟩ := by
  rw [rightAt_iff]
  intro h
  have hsame : ∀ m ∈ List.replicate 199 (⟨124, 365⟩ : Tm), m.yday ≤ 365 :=
    fun m hm => (congrArg Tm.yday (List.eq_of_mem_replicate hm)).le
  have hpeak : sincePeak Tm.yday ([] ++ ⟨124, 365⟩ :: List.replicate 199 ⟨124, 365⟩) = 199 + 1 :=
    (sincePeak_eq (fun m hm => absurd hm List.not_mem_nil) hsame).trans
      (congrArg (· + 1) List.length_replicate)
  have hcount : (List.replicate 200 (⟨124, 365⟩ : Tm)).count ⟨125, 0⟩ = 0 := by
    rw [List.count_replicate]
    rfl
  have hside := h ⟨⟨124, 365⟩, List.mem_replicate.mpr ⟨by decide, rfl⟩, by decide⟩
  exact absurd (hside.mpr (hcount ▸ by decide)) (hpeak ▸ by decide)

end GraphicSurface
