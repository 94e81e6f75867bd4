import Mathlib.Data.List.AList

/-!
# Finite maps with unspecified iteration order

Mathlib's `AList` over a constant family is a finite map: a list of entries
with distinct keys, the distinctness carried as a field. `Table K V` is that,
with the three operations a hash map has and `AList` lacks: `filter`, an
insert that keeps an existing value (`orInsert`), and a test for emptiness.
Every lemma here is about `lookup`, or about the entries up to order, so no proof
that uses a table depends on the order they happen to be stored in.
-/

/-- A finite map from `K` to `V`. -/
abbrev Table (K V : Type) : Type := AList (fun _ : K => V)

namespace Table

variable {K V : Type}

abbrev Entry (K V : Type) : Type := Sigma fun _ : K => V

/-- Keeps the entries that pass `p`. -/
def filter (p : K → V → Bool) (m : Table K V) : Table K V where
  entries := m.entries.filter fun e => p e.1 e.2
  nodupKeys := m.nodupKeys.sublist List.filter_sublist

def isEmpty (m : Table K V) : Bool := m.entries.isEmpty

theorem entries_nodup (m : Table K V) : m.entries.Nodup :=
  List.NodupKeys.nodup m.nodupKeys

variable [DecidableEq K]

/-- Inserts `v` unless the key has a value already. -/
def orInsert (k : K) (v : V) (m : Table K V) : Table K V :=
  match m.lookup k with
  | some _ => m
  | none => m.insert k v

theorem lookup_insert' (k k' : K) (v : V) (m : Table K V) :
    AList.lookup k (m.insert k' v) = if k = k' then some v else m.lookup k := by
  split
  · next h => subst h; exact AList.lookup_insert m
  · next h => exact AList.lookup_insert_ne h

theorem lookup_erase' (k k' : K) (m : Table K V) :
    AList.lookup k (m.erase k') = if k = k' then none else m.lookup k := by
  split
  · next h => subst h; exact AList.lookup_erase k m
  · next h => exact AList.lookup_erase_ne h

theorem lookup_orInsert (k k' : K) (v : V) (m : Table K V) :
    AList.lookup k (orInsert k' v m) =
      if k = k' then some ((m.lookup k').getD v) else m.lookup k := by
  rw [orInsert]
  cases h : m.lookup k' with
  | none => exact lookup_insert' k k' v m
  | some w =>
      show m.lookup k = _
      split
      · next hk => subst hk; simpa using h
      · rfl

theorem mem_entries_iff {m : Table K V} {k : K} {v : V} :
    (⟨k, v⟩ : Entry K V) ∈ m.entries ↔ m.lookup k = some v :=
  AList.mem_lookup_iff.symm

theorem lookup_filter (p : K → V → Bool) (m : Table K V) (k : K) :
    AList.lookup k (filter p m) = (m.lookup k).filter (p k) := by
  cases h : m.lookup k with
  | none =>
      rw [Option.filter_none, AList.lookup_eq_none, ← AList.lookup_isSome,
        Option.not_isSome_iff_eq_none, Option.eq_none_iff_forall_not_mem]
      intro v hv
      have hmem : (⟨k, v⟩ : Entry K V) ∈ m.entries :=
        List.mem_of_mem_filter (AList.mem_lookup_iff.mp hv)
      rw [mem_entries_iff, h] at hmem
      cases hmem
  | some v =>
      have hmem := mem_entries_iff.mpr h
      by_cases hp : p k v = true
      · rw [Option.filter_some_pos hp]
        exact mem_entries_iff.mp (List.mem_filter.mpr ⟨hmem, hp⟩)
      · rw [Option.filter_some_neg (by simpa using hp),
          Option.eq_none_iff_forall_not_mem]
        intro w hw
        have hw' := List.mem_filter.mp (AList.mem_lookup_iff.mp hw)
        have heq : m.lookup k = some w := mem_entries_iff.mp hw'.1
        rw [h] at heq
        cases heq
        exact hp hw'.2

theorem lookup_filter_eq_some {p : K → V → Bool} {m : Table K V} {k : K}
    {v : V} : AList.lookup k (filter p m) = some v ↔
      m.lookup k = some v ∧ p k v = true := by
  rw [lookup_filter, Option.filter_eq_some_iff]

theorem eq_of_mem_entries {m : Table K V} {e f : Entry K V}
    (he : e ∈ m.entries) (hf : f ∈ m.entries) (h : e.1 = f.1) : e = f := by
  obtain ⟨k, v⟩ := e
  obtain ⟨k', w⟩ := f
  obtain rfl : k = k' := h
  have h1 := mem_entries_iff.mp he
  have h2 := mem_entries_iff.mp hf
  rw [h1] at h2
  cases h2
  rfl

/-! Up to order, a table is one of its entries and the table without it. -/

theorem perm_entries_of_lookup {m : Table K V} {k : K} {v : V}
    (h : m.lookup k = some v) :
    m.entries.Perm (⟨k, v⟩ :: (AList.erase k m).entries) := by
  have hnotMem : (⟨k, v⟩ : Entry K V) ∉ (AList.erase k m).entries := by
    rw [mem_entries_iff, lookup_erase', if_pos rfl]
    exact fun h => by cases h
  refine (List.perm_ext_iff_of_nodup (entries_nodup m)
    ((entries_nodup _).cons hnotMem)).mpr ?_
  rintro ⟨k', w⟩
  rw [mem_entries_iff, List.mem_cons, mem_entries_iff, lookup_erase']
  by_cases hk : k' = k
  · subst hk
    simp [h, eq_comm]
  · simp [hk]

theorem entries_erase_of_lookup_eq_none {m : Table K V} {k : K}
    (h : m.lookup k = none) : (AList.erase k m).entries = m.entries :=
  List.kerase_of_notMem_keys (AList.lookup_eq_none.mp h)

end Table
