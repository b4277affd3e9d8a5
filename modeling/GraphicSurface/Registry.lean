import Mathlib.Tactic

/-! Registries from keys to objects that keep the first entry of a key,
over arbitrary keys and objects. The registry owns nothing: which objects are alive is said by a
predicate beside it. -/

namespace GraphicSurface.Registry

variable {κ α : Type*} {entries entries' : κ → Option α} {k l : κ} {a b : α} {key key' : α → κ}
  {live live' : α → Prop}

/-- Every entry refers to a live object of its key. -/
def Sound (key : α → κ) (live : α → Prop) (entries : κ → Option α) : Prop :=
  ∀ k a, entries k = some a → live a ∧ key a = k

/-- Every live object has an entry under its key, perhaps of another object. -/
def Complete (key : α → κ) (live : α → Prop) (entries : κ → Option α) : Prop :=
  ∀ a, live a → (entries (key a)).isSome

/-- Only the entries of objects that are no longer alive are gone. -/
def Keeps (live : α → Prop) (entries entries' : κ → Option α) : Prop :=
  ∀ k a, entries k = some a → live a → entries' k = some a

theorem Sound.mono (h : Sound key live entries) (hkey : ∀ a, live a → key' a = key a)
    (hlive : ∀ a, live a → live' a) : Sound key' live' entries := by
  intro k a hentry
  obtain ⟨ha, hk⟩ := h k a hentry
  exact ⟨hlive a ha, (hkey a ha).trans hk⟩

theorem Complete.mono (h : Complete key live entries) (hkey : ∀ a, live' a → key' a = key a)
    (hlive : ∀ a, live' a → live a) : Complete key' live' entries := by
  intro a ha
  rw [hkey a ha]
  exact h a (hlive a ha)

theorem Keeps.refl (live : α → Prop) (entries : κ → Option α) : Keeps live entries entries :=
  fun _ _ h _ => h

theorem Keeps.trans {entries'' : κ → Option α} (h : Keeps live entries entries')
    (h' : Keeps live' entries' entries'') (hlive : ∀ a, live' a → live a) :
    Keeps live' entries entries'' :=
  fun k a hentry ha => h' k a (h k a hentry (hlive a ha)) ha

variable [DecidableEq κ]

def add (entries : κ → Option α) (k : κ) (a : α) : κ → Option α :=
  if (entries k).isNone then Function.update entries k (some a) else entries

def erase (entries : κ → Option α) (k : κ) : κ → Option α :=
  Function.update entries k none

theorem add_of_none (h : entries k = none) (a : α) :
    add entries k a = Function.update entries k (some a) := by
  rw [add, h]
  rfl

theorem add_of_some (h : entries k = some b) (a : α) : add entries k a = entries := by
  rw [add, h]
  rfl

theorem isSome_add (entries : κ → Option α) (k : κ) (a : α) : (add entries k a k).isSome := by
  cases h : entries k with
  | none => simp [add_of_none h]
  | some b => simp [add_of_some h, h]

theorem of_add (h : add entries k a l = some b) :
    entries l = some b ∨ l = k ∧ a = b ∧ entries k = none := by
  cases hk : entries k with
  | none =>
    rw [add_of_none hk] at h
    by_cases hl : l = k
    · subst hl
      rw [Function.update_self] at h
      exact .inr ⟨rfl, Option.some.inj h, rfl⟩
    · rw [Function.update_of_ne hl] at h
      exact .inl h
  | some c =>
    rw [add_of_some hk] at h
    exact .inl h

theorem add_of_mem (h : entries l = some b) (a : α) : add entries k a l = some b := by
  cases hk : entries k with
  | none =>
    have hne : l ≠ k := by
      rintro rfl
      simp [h] at hk
    rw [add_of_none hk, Function.update_of_ne hne, h]
  | some c => rw [add_of_some hk, h]

theorem of_erase (h : erase entries k l = some b) : entries l = some b ∧ l ≠ k := by
  by_cases hl : l = k
  · subst hl
    simp [erase] at h
  · rw [erase, Function.update_of_ne hl] at h
    exact ⟨h, hl⟩

theorem erase_of_ne (h : l ≠ k) : erase entries k l = entries l :=
  Function.update_of_ne h _ _

theorem erase_self (entries : κ → Option α) (k : κ) : erase entries k k = none :=
  Function.update_self _ _ _

theorem Sound.add (h : Sound key live entries) (ha : live a) : Sound key live (add entries (key a) a) := by
  intro l b hentry
  rcases of_add hentry with hold | ⟨rfl, rfl, -⟩
  · exact h l b hold
  · exact ⟨ha, rfl⟩

theorem Sound.erase (h : Sound key live entries)
    (hlive : ∀ a, live a → key a ≠ k → live' a) : Sound key live' (erase entries k) := by
  intro l b hentry
  obtain ⟨hold, hne⟩ := of_erase hentry
  obtain ⟨hb, rfl⟩ := h l b hold
  exact ⟨hlive b hb hne, rfl⟩

theorem Complete.add (h : Complete key live entries) (a : α)
    (hlive : ∀ b, live' b → live b ∨ b = a) : Complete key live' (add entries (key a) a) := by
  intro b hb
  by_cases hba : key b = key a
  · rw [hba]
    exact isSome_add entries _ a
  · have hne : b ≠ a := fun hsame => hba (by rw [hsame])
    obtain ⟨c, hc⟩ := Option.isSome_iff_exists.mp (h b ((hlive b hb).resolve_right hne))
    rw [add_of_mem hc]
    rfl

theorem Complete.erase (h : Complete key live entries)
    (hlive : ∀ b, live' b → live b ∧ key b ≠ k) : Complete key live' (erase entries k) := by
  intro b hb
  obtain ⟨hold, hne⟩ := hlive b hb
  rw [erase_of_ne hne]
  exact h b hold

theorem Keeps.add (live : α → Prop) (entries : κ → Option α) (k : κ) (a : α) :
    Keeps live entries (add entries k a) :=
  fun _ _ h _ => add_of_mem h a

theorem Keeps.erase (h : ∀ a, entries k = some a → ¬ live a) : Keeps live entries (erase entries k) := by
  intro l a hentry ha
  have hne : l ≠ k := by
    rintro rfl
    exact h a hentry ha
  rw [erase_of_ne hne, hentry]

end GraphicSurface.Registry
