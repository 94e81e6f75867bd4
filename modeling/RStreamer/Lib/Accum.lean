import Mathlib.Algebra.Group.Hom.Defs
import Mathlib.Algebra.BigOperators.Group.List.Basic
import Mathlib.Data.List.Chain
import Mathlib.Data.List.Nodup
import Mathlib.Tactic.Abel

/-!
# Counters advanced along a stream

A stream of inputs `x₀, x₁, x₂, …` drives a counter in a commutative group:
between two consecutive inputs the counter advances by `δ xᵢ xᵢ₊₁`, whatever
`δ` is. `walk` lists the values the counter takes after the first one,
`advance` is the total over a stretch of the stream.

Three questions are answered for an arbitrary `δ`. When does the counter follow
a prescribed law, advancing by `ε xᵢ xᵢ₊₁` at every step? Exactly when `δ` and
`ε` agree on every consecutive pair (`isChain_walk_iff`). When is the counter a
translate of a coordinate of its input, off by one constant for the whole
stream? When `δ` is the difference of coordinates on every consecutive pair
(`walk_eq_translate`). And what do the inputs that pass a test see of a stream
that has others in it? Over every gap between two of them the advance through
the others (`diffs_passing`), where alone they would see the direct step
(`diffs_walk_of_filter`).
-/

namespace Accum

variable {X G : Type} [AddCommGroup G]

/-- The values of a counter that stands at `o` on input `x`, over the inputs
that follow. -/
def walk (δ : X → X → G) : G → X → List X → List G
  | _, _, [] => []
  | o, x, y :: ys => (o + δ x y) :: walk δ (o + δ x y) y ys

def advance (δ : X → X → G) : X → List X → G
  | _, [] => 0
  | x, y :: ys => δ x y + advance δ y ys

theorem map_walk {H : Type} [AddCommGroup H] (φ : G →+ H) (δ : X → X → G) :
    ∀ (ys : List X) (o : G) (x : X),
      (walk δ o x ys).map φ = walk (fun a b => φ (δ a b)) (φ o) x ys := by
  intro ys
  induction ys with
  | nil => intro o x; rfl
  | cons y ys ih => intro o x; simp only [walk, List.map_cons, ih, map_add]

theorem walk_comap {Y : Type} (f : Y → X) (δ : X → X → G) :
    ∀ (ys : List Y) (o : G) (y : Y),
      walk (fun a b => δ (f a) (f b)) o y ys = walk δ o (f y) (ys.map f) := by
  intro ys
  induction ys with
  | nil => intro o y; rfl
  | cons z ys ih => intro o y; simp only [walk, List.map_cons, ih]

/-- A counter follows the law `ε` at every step of the stream exactly when its
own step function agrees with `ε` on every consecutive pair. -/
theorem isChain_walk_iff (δ ε : X → X → G) :
    ∀ (ys : List X) (o : G) (x : X),
      List.IsChain (fun a b : X × G => b.2 - a.2 = ε a.1 b.1)
          ((x :: ys).zip (o :: walk δ o x ys)) ↔
        List.IsChain (fun a b => δ a b = ε a b) (x :: ys) := by
  intro ys
  induction ys with
  | nil => intro o x; simp [walk]
  | cons y ys ih =>
      intro o x
      have h := ih (o + δ x y) y
      simp only [walk, List.zip_cons_cons, List.isChain_cons_cons,
        add_sub_cancel_left] at h ⊢
      rw [h]

/-- A counter whose steps are the differences of a coordinate stays at one
fixed distance from it. -/
theorem walk_eq_translate {δ : X → X → G} (pos : X → G) :
    ∀ {ys : List X} {o : G} {x : X},
      List.IsChain (fun a b => δ a b = pos b - pos a) (x :: ys) →
      walk δ o x ys = ys.map fun y => pos y + (o - pos x) := by
  intro ys
  induction ys with
  | nil => intro o x _; rfl
  | cons y ys ih =>
      intro o x h
      rw [List.isChain_cons_cons] at h
      have hy : o + δ x y = pos y + (o - pos x) := by rw [h.1]; abel
      rw [walk, ih h.2, List.map_cons, hy]
      simp

theorem isChain_of_nodup_walk {δ : X → X → G} :
    ∀ {ys : List X} {o : G} {x : X}, (o :: walk δ o x ys).Nodup →
      List.IsChain (fun a b => δ a b ≠ 0) (x :: ys) := by
  intro ys
  induction ys with
  | nil => intro o x _; exact List.isChain_singleton x
  | cons y ys ih =>
      intro o x h
      rw [walk] at h
      refine List.isChain_cons_cons.mpr ⟨fun h0 => ?_, ih h.of_cons⟩
      rw [h0, add_zero] at h
      exact (List.nodup_cons.mp h).1 (List.mem_cons_self ..)

theorem isChain_iff_of_isChain {R P Q : X → X → Prop} {l : List X}
    (h : l.IsChain R) (hPQ : ∀ a b, R a b → (P a b ↔ Q a b)) :
    l.IsChain P ↔ l.IsChain Q := by
  simp only [List.isChain_iff_forall_rel_of_append_cons_cons] at h ⊢
  refine ⟨?_, ?_⟩
  · intro hP a b l₁ l₂ hl
    exact (hPQ a b (h hl)).mp (hP hl)
  · intro hQ a b l₁ l₂ hl
    exact (hPQ a b (h hl)).mpr (hQ hl)

/-! ## A part of the stream -/

def diffs : List G → List G
  | a :: b :: l => (b - a) :: diffs (b :: l)
  | _ => []

/-- The gaps of a stream after the input `x` that passes the test, with `zs`
read since: the next input that passes, what lies between, and so on. -/
def gapsFrom (p : X → Bool) : X → List X → List X → List (X × List X × X)
  | _, _, [] => []
  | x, zs, y :: ys =>
      if p y then (x, zs, y) :: gapsFrom p y [] ys
      else gapsFrom p x (zs ++ [y]) ys

/-- The gaps of a stream: two inputs that pass the test one after the other,
and the inputs between them, which do not pass. -/
def gaps (p : X → Bool) : List X → List (X × List X × X)
  | [] => []
  | x :: xs => if p x then gapsFrom p x [] xs else gaps p xs

/-- The advance over a gap, through everything that lies in it. -/
def gapAdvance (δ : X → X → G) (g : X × List X × X) : G :=
  advance δ g.1 (g.2.1 ++ [g.2.2])

/-- The values of the counter at the inputs that pass the test. -/
def passing (p : X → Bool) (xs : List X) (os : List G) : List G :=
  ((xs.zip os).filter fun a => p a.1).map fun a => a.2

omit [AddCommGroup G] in
theorem passing_cons (p : X → Bool) (x : X) (xs : List X) (o : G)
    (os : List G) : passing p (x :: xs) (o :: os) =
      if p x then o :: passing p xs os else passing p xs os := by
  rw [passing, List.zip_cons_cons, List.filter_cons]
  split <;> rfl

theorem advance_concat (δ : X → X → G) (y : X) :
    ∀ (zs : List X) (x : X), advance δ x (zs ++ [y]) =
      advance δ x zs + δ (zs.getLastD x) y := by
  intro zs
  induction zs with
  | nil => intro x; simp [advance]
  | cons z zs ih =>
      intro x
      rw [List.cons_append, advance, advance, ih, add_assoc,
        List.getLastD_cons]

/-- Between two values of a gap lies the advance over it. `x` is the last
input that passed, `zs` was read since. -/
theorem diffs_passing_walk (δ : X → X → G) (p : X → Bool) :
    ∀ (ys : List X) (x : X) (zs : List X) (o : G),
      diffs (o :: passing p ys
          (walk δ (o + advance δ x zs) (zs.getLastD x) ys)) =
        (gapsFrom p x zs ys).map (gapAdvance δ) := by
  intro ys
  induction ys with
  | nil => intro x zs o; rfl
  | cons y ys ih =>
      intro x zs o
      have hy : o + advance δ x zs + δ (zs.getLastD x) y =
          o + advance δ x (zs ++ [y]) := by
        rw [advance_concat, add_assoc]
      rw [walk, passing_cons, gapsFrom, hy]
      split
      · have h := ih y [] (o + advance δ x (zs ++ [y]))
        rw [advance, add_zero, List.getLastD_nil] at h
        rw [diffs, h, List.map_cons, add_sub_cancel_left]
        rfl
      · have h := ih x (zs ++ [y]) o
        rw [List.getLastD_concat] at h
        exact h

theorem diffs_passing (δ : X → X → G) (p : X → Bool) :
    ∀ (ys : List X) (o : G) (x : X),
      diffs (passing p (x :: ys) (o :: walk δ o x ys)) =
        (gaps p (x :: ys)).map (gapAdvance δ) := by
  intro ys
  induction ys with
  | nil =>
      intro o x
      rw [passing_cons, gaps]
      split <;> rfl
  | cons y ys ih =>
      intro o x
      rw [passing_cons, gaps]
      split
      · have h := diffs_passing_walk δ p (y :: ys) x [] o
        rwa [advance, add_zero, List.getLastD_nil] at h
      · rw [walk]
        exact ih (o + δ x y) y

theorem diffs_walk_filter (δ : X → X → G) (p : X → Bool) :
    ∀ (ys : List X) (x : X) (zs : List X) (o : G),
      diffs (o :: walk δ o x (ys.filter p)) =
        (gapsFrom p x zs ys).map fun g => δ g.1 g.2.2 := by
  intro ys
  induction ys with
  | nil => intro x zs o; rfl
  | cons y ys ih =>
      intro x zs o
      rw [gapsFrom, List.filter_cons]
      split
      · rw [walk, diffs, ih y [] (o + δ x y), List.map_cons,
          add_sub_cancel_left]
      · exact ih x (zs ++ [y]) o

theorem gaps_eq_nil {p : X → Bool} : ∀ {xs : List X}, xs.filter p = [] →
    gaps p xs = [] := by
  intro xs
  induction xs with
  | nil => intro _; rfl
  | cons x xs ih =>
      intro h
      rw [List.filter_cons] at h
      rw [gaps]
      split at h
      · cases h
      · next hp => rw [if_neg hp]; exact ih h

theorem diffs_walk_of_filter {δ : X → X → G} {p : X → Bool} {o : G} {a : X}
    {bs : List X} : ∀ {xs : List X}, xs.filter p = a :: bs →
      diffs (o :: walk δ o a bs) = (gaps p xs).map fun g => δ g.1 g.2.2 := by
  intro xs
  induction xs with
  | nil => intro h; cases h
  | cons x xs ih =>
      intro h
      rw [List.filter_cons] at h
      rw [gaps]
      split at h
      · next hp =>
          cases h
          rw [if_pos hp, diffs_walk_filter δ p xs a [] o]
      · next hp => rw [if_neg hp]; exact ih h

end Accum
