import Mathlib.Data.List.Nodup

/-!
# Bidirectional maps

A finite partial bijection between `L` and `R`: a list of pairs in which no
left value and no right value occurs twice, both facts carried as fields.
Inserting a pair first drops every pair that shares either side with it, so
the two fields survive whatever was there before.
-/

/-- A finite partial bijection. -/
structure BiMap (L R : Type) where
  pairs : List (L × R)
  lefts_nodup : (pairs.map Prod.fst).Nodup
  rights_nodup : (pairs.map Prod.snd).Nodup

namespace BiMap

variable {L R : Type}

def empty : BiMap L R := ⟨[], List.nodup_nil, List.nodup_nil⟩

variable [DecidableEq L] [DecidableEq R]

/-- The pairs that share neither side with `(l, r)`. -/
def others (m : BiMap L R) (l : L) (r : R) : List (L × R) :=
  m.pairs.filter fun p => p.1 ≠ l ∧ p.2 ≠ r

/-- Drops every pair with left `l` or right `r`, then adds `(l, r)`. -/
def insert (m : BiMap L R) (l : L) (r : R) : BiMap L R where
  pairs := (l, r) :: m.others l r
  lefts_nodup := by
    rw [List.map_cons, List.nodup_cons]
    refine ⟨?_, m.lefts_nodup.sublist (List.filter_sublist.map _)⟩
    intro h
    obtain ⟨p, hp, hpl⟩ := List.mem_map.mp h
    have := (List.mem_filter.mp hp).2
    simp only [decide_eq_true_eq] at this
    exact this.1 hpl
  rights_nodup := by
    rw [List.map_cons, List.nodup_cons]
    refine ⟨?_, m.rights_nodup.sublist (List.filter_sublist.map _)⟩
    intro h
    obtain ⟨p, hp, hpr⟩ := List.mem_map.mp h
    have := (List.mem_filter.mp hp).2
    simp only [decide_eq_true_eq] at this
    exact this.2 hpr

def getByLeft (m : BiMap L R) (l : L) : Option R :=
  (m.pairs.find? fun p => p.1 = l).map Prod.snd

def getByRight (m : BiMap L R) (r : R) : Option L :=
  (m.pairs.find? fun p => p.2 = r).map Prod.fst

theorem mem_insert {m : BiMap L R} {l a : L} {r b : R} :
    (a, b) ∈ (m.insert l r).pairs ↔
      a = l ∧ b = r ∨ (a, b) ∈ m.pairs ∧ a ≠ l ∧ b ≠ r := by
  rw [insert, List.mem_cons, Prod.mk.injEq, others, List.mem_filter,
    decide_eq_true_eq]

omit [DecidableEq L] in
theorem getByRight_eq_some {m : BiMap L R} {l : L} {r : R} :
    m.getByRight r = some l ↔ (l, r) ∈ m.pairs := by
  rw [getByRight, Option.map_eq_some_iff]
  refine ⟨?_, fun h => ?_⟩
  · rintro ⟨p, hp, rfl⟩
    have hr : p.2 = r := by simpa using List.find?_some hp
    subst hr
    exact List.mem_of_find?_eq_some hp
  · cases hfind : m.pairs.find? fun p => p.2 = r with
    | none => exact absurd (List.find?_eq_none.mp hfind _ h) (by simp)
    | some p =>
        have hr : p.2 = r := by simpa using List.find?_some hfind
        have heq : p = (l, r) := List.inj_on_of_nodup_map m.rights_nodup
          (List.mem_of_find?_eq_some hfind) h hr
        exact ⟨p, rfl, by rw [heq]⟩

omit [DecidableEq R] in
theorem getByLeft_eq_some {m : BiMap L R} {l : L} {r : R} :
    m.getByLeft l = some r ↔ (l, r) ∈ m.pairs := by
  rw [getByLeft, Option.map_eq_some_iff]
  refine ⟨?_, fun h => ?_⟩
  · rintro ⟨p, hp, rfl⟩
    have hl : p.1 = l := by simpa using List.find?_some hp
    subst hl
    exact List.mem_of_find?_eq_some hp
  · cases hfind : m.pairs.find? fun p => p.1 = l with
    | none => exact absurd (List.find?_eq_none.mp hfind _ h) (by simp)
    | some p =>
        have hl : p.1 = l := by simpa using List.find?_some hfind
        have heq : p = (l, r) := List.inj_on_of_nodup_map m.lefts_nodup
          (List.mem_of_find?_eq_some hfind) h hl
        exact ⟨p, rfl, by rw [heq]⟩

end BiMap
