import GraphicSurface.Types

/-! `std::map<uint32_t, BufferElement>` as the queue uses it. Every insertion of the queue is made
under `buffer->GetSeqNum()`, so the map carries the fact that a cached buffer has its key as its
sequence number; updates in place leave that number alone. Iteration is in ascending key order. -/

namespace GraphicSurface

structure BufferCache where
  entries : Std.ExtTreeMap ℕ BufferElement
  keyed : ∀ (k : ℕ) (e : BufferElement), entries[k]? = some e → e.buffer.seqNum = k

namespace BufferCache

private theorem getElem?_insert' (m : Std.ExtTreeMap ℕ BufferElement) (k j : ℕ)
    (e : BufferElement) : (m.insert k e)[j]? = if k = j then some e else m[j]? := by
  rw [Std.ExtTreeMap.getElem?_insert]
  by_cases h : k = j <;> simp [h]

private theorem getElem?_erase' (m : Std.ExtTreeMap ℕ BufferElement) (k j : ℕ) :
    (m.erase k)[j]? = if k = j then none else m[j]? := by
  rw [Std.ExtTreeMap.getElem?_erase]
  by_cases h : k = j <;> simp [h]

private theorem getElem?_modify' (m : Std.ExtTreeMap ℕ BufferElement) (k j : ℕ)
    (f : BufferElement → BufferElement) :
    (m.modify k f)[j]? = if k = j then m[j]?.map f else m[j]? := by
  rw [Std.ExtTreeMap.getElem?_modify]
  by_cases h : k = j
  · subst h
    simp
  · simp [h]

def empty : BufferCache := ⟨∅, by simp⟩

def find (c : BufferCache) (k : ℕ) : Option BufferElement := c.entries[k]?

def size (c : BufferCache) : ℕ := c.entries.size

def keys (c : BufferCache) : List ℕ := c.entries.keys

/-- `cache[ele.buffer->GetSeqNum()] = ele`. -/
def put (c : BufferCache) (e : BufferElement) : BufferCache where
  entries := c.entries.insert e.buffer.seqNum e
  keyed k e' h := by
    rw [getElem?_insert'] at h
    split_ifs at h with hk
    · cases h
      exact hk
    · exact c.keyed k e' h

def erase (c : BufferCache) (k : ℕ) : BufferCache where
  entries := c.entries.erase k
  keyed j e h := by
    rw [getElem?_erase'] at h
    split_ifs at h
    exact c.keyed j e h

/-- Write through `mapIter->second`; nothing happens when the key is absent. -/
def modify (c : BufferCache) (k : ℕ) (f : BufferElement → BufferElement)
    (hf : ∀ e, (f e).buffer.seqNum = e.buffer.seqNum) : BufferCache where
  entries := c.entries.modify k f
  keyed j e h := by
    rw [getElem?_modify'] at h
    split_ifs at h
    · obtain ⟨e', he', rfl⟩ := Option.map_eq_some_iff.mp h
      rw [hf]
      exact c.keyed j e' he'
    · exact c.keyed j e h

/-- `for (auto &ele : cache)`, writing to every entry. -/
def mapAll (c : BufferCache) (f : BufferElement → BufferElement)
    (hf : ∀ e, (f e).buffer.seqNum = e.buffer.seqNum) : BufferCache where
  entries := c.entries.map fun _ e => f e
  keyed j e h := by
    rw [Std.ExtTreeMap.getElem?_map] at h
    obtain ⟨e', he', rfl⟩ := Option.map_eq_some_iff.mp h
    rw [hf]
    exact c.keyed j e' he'

@[ext] theorem ext {c d : BufferCache} (h : ∀ k, c.find k = d.find k) : c = d := by
  cases c
  cases d
  congr 1
  exact Std.ExtTreeMap.ext_getElem? fun k => h k

instance : DecidableEq BufferCache := fun c d =>
  decidable_of_iff (c.entries = d.entries) (by
    constructor
    · intro h
      cases c
      cases d
      congr 1
    · rintro rfl
      rfl)

theorem seqNum_of_find {c : BufferCache} {k : ℕ} {e : BufferElement} (h : c.find k = some e) :
    e.buffer.seqNum = k :=
  c.keyed k e h

@[simp] theorem find_empty (k : ℕ) : empty.find k = none := by
  simp [find, empty]

@[simp] theorem find_put (c : BufferCache) (e : BufferElement) (k : ℕ) :
    (c.put e).find k = if e.buffer.seqNum = k then some e else c.find k :=
  getElem?_insert' _ _ _ _

@[simp] theorem find_erase (c : BufferCache) (k j : ℕ) :
    (c.erase k).find j = if k = j then none else c.find j :=
  getElem?_erase' _ _ _

@[simp] theorem find_modify (c : BufferCache) (k j : ℕ) (f : BufferElement → BufferElement)
    (hf : ∀ e, (f e).buffer.seqNum = e.buffer.seqNum) :
    (c.modify k f hf).find j = if k = j then (c.find j).map f else c.find j :=
  getElem?_modify' _ _ _ _

@[simp] theorem find_mapAll (c : BufferCache) (f : BufferElement → BufferElement)
    (hf : ∀ e, (f e).buffer.seqNum = e.buffer.seqNum) (k : ℕ) :
    (c.mapAll f hf).find k = (c.find k).map f := by
  simp [mapAll, find]

@[simp] theorem size_empty : empty.size = 0 := by
  simp [size, empty]

theorem contains_entries (c : BufferCache) (k : ℕ) :
    c.entries.contains k = (c.find k).isSome := by
  simp [find]

@[simp] theorem size_put (c : BufferCache) (e : BufferElement) :
    (c.put e).size = if (c.find e.buffer.seqNum).isSome then c.size else c.size + 1 := by
  simp only [size, put, Std.ExtTreeMap.size_insert, ← contains_entries]

@[simp] theorem size_erase (c : BufferCache) (k : ℕ) :
    (c.erase k).size = if (c.find k).isSome then c.size - 1 else c.size := by
  simp only [size, erase, Std.ExtTreeMap.size_erase, ← contains_entries]

@[simp] theorem size_modify (c : BufferCache) (k : ℕ) (f : BufferElement → BufferElement)
    (hf : ∀ e, (f e).buffer.seqNum = e.buffer.seqNum) : (c.modify k f hf).size = c.size :=
  Std.ExtTreeMap.size_modify

@[simp] theorem size_mapAll (c : BufferCache) (f : BufferElement → BufferElement)
    (hf : ∀ e, (f e).buffer.seqNum = e.buffer.seqNum) : (c.mapAll f hf).size = c.size := by
  simp [size, mapAll]

theorem size_pos {c : BufferCache} {k : ℕ} (h : (c.find k).isSome) : 0 < c.size := by
  rcases Nat.eq_zero_or_pos c.size with h0 | h0
  · rw [size, ← Std.ExtTreeMap.eq_empty_iff_size_eq_zero] at h0
    simp_all [find]
  · exact h0

@[simp] theorem mem_keys (c : BufferCache) (k : ℕ) : k ∈ c.keys ↔ (c.find k).isSome := by
  rw [keys, Std.ExtTreeMap.mem_keys, ← contains_entries, Std.ExtTreeMap.contains_iff_mem]

theorem keys_nodup (c : BufferCache) : c.keys.Nodup := by
  have h := Std.ExtTreeMap.distinct_keys (t := c.entries)
  exact h.imp fun hne heq => hne (by simp [heq])

@[simp] theorem length_keys (c : BufferCache) : c.keys.length = c.size := by
  simp [keys, size]

end BufferCache

end GraphicSurface
