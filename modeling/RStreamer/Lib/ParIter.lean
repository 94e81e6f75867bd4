import Mathlib.Data.List.Dedup
import Mathlib.Data.List.Nodup
import Mathlib.Data.List.Perm.Basic
import Mathlib.Data.List.Perm.Subperm

/-!
# Parallel iteration that stops at an error

A parallel `try_for_each` hands the items of a collection to a pool. It runs
each item at most once, in no specified order, and once an item has failed it
may leave items it has not started yet undone; without a failure it does them
all. The items still in flight when one fails are finished.

The order and the cut are the scheduler's choice. `sched` is that choice: the
items it starts first, in the order their effects happen. If one of these
fails the iteration ends there; otherwise the rest follows. Every behaviour of
the pool is one of some `sched`, and every `sched` is a behaviour: an item of
`sched` that is not in the collection or is named twice is ignored.
-/

namespace ParIter

variable {σ α β ε : Type}

/-- Runs `f` on every item in turn and lists what each gave. -/
def runAll (f : σ → α → σ × Except ε β) :
    σ → List α → σ × List (α × Except ε β)
  | s, [] => (s, [])
  | s, x :: xs =>
      let r := f s x
      let rest := runAll f r.1 xs
      (rest.1, (x, r.2) :: rest.2)

def failed (r : α × Except ε β) : Bool :=
  match r.2 with
  | .ok _ => false
  | .error _ => true

variable [DecidableEq α]

def picked (items sched : List α) : List α :=
  sched.dedup.filter (· ∈ items)

def left (items sched : List α) : List α :=
  items.filter (· ∉ sched)

/-- `items.par_iter().try_for_each(f)` under the schedule `sched`. -/
def tryForEach (f : σ → α → σ × Except ε β) (s : σ) (items sched : List α) :
    σ × List (α × Except ε β) :=
  let first := runAll f s (picked items sched)
  if first.2.any failed then first
  else
    let rest := runAll f first.1 (left items sched)
    (rest.1, first.2 ++ rest.2)

/-! ## What is run -/

theorem mem_picked {items sched : List α} {x : α} :
    x ∈ picked items sched ↔ x ∈ sched ∧ x ∈ items := by
  simp [picked]

theorem nodup_picked (items sched : List α) : (picked items sched).Nodup :=
  (List.nodup_dedup sched).filter _

theorem perm_picked_left {items : List α} (h : items.Nodup)
    (sched : List α) : (picked items sched ++ left items sched).Perm items := by
  rw [List.perm_ext_iff_of_nodup _ h]
  · intro x
    simp only [List.mem_append, mem_picked, left, List.mem_filter,
      decide_eq_true_eq]
    tauto
  · refine (nodup_picked items sched).append (h.filter _) ?_
    intro x hx hx'
    simp only [left, List.mem_filter, decide_eq_true_eq] at hx'
    exact hx'.2 (mem_picked.mp hx).1

theorem picked_singleton {items : List α} {x : α} (h : x ∈ items) :
    picked items [x] = [x] := by
  simp [picked, h]

omit [DecidableEq α] in
theorem map_fst_runAll (f : σ → α → σ × Except ε β) :
    ∀ (xs : List α) (s : σ), (runAll f s xs).2.map Prod.fst = xs := by
  intro xs
  induction xs with
  | nil => intro s; rfl
  | cons x xs ih => intro s; exact congrArg (x :: ·) (ih _)

/-- No item is run twice, and none that is not there. -/
theorem subperm_map_fst_tryForEach (f : σ → α → σ × Except ε β) (s : σ)
    {items : List α} (h : items.Nodup) (sched : List α) :
    ((tryForEach f s items sched).2.map Prod.fst).Subperm items := by
  have hall := (perm_picked_left h sched).subperm
  rw [tryForEach]
  simp only []
  split
  · rw [map_fst_runAll]
    exact (List.sublist_append_left _ _).subperm.trans hall
  · rw [List.map_append, map_fst_runAll, map_fst_runAll]
    exact hall

/-! ## Invariants of the state and of the results -/

omit [DecidableEq α] in
/-- What every item keeps of the state, the iteration keeps, and what it says
of its result when that is kept holds of every result. -/
theorem runAll_invariant {f : σ → α → σ × Except ε β} {I : σ → Prop}
    {R : α → Except ε β → Prop} :
    ∀ (xs : List α) {s : σ},
      (∀ s, I s → ∀ x ∈ xs, I (f s x).1 ∧ R x (f s x).2) → I s →
      I (runAll f s xs).1 ∧
        ∀ r ∈ (runAll f s xs).2, r.1 ∈ xs ∧ R r.1 r.2 := by
  intro xs
  induction xs with
  | nil => intro s _ hs; exact ⟨hs, fun r hr => by cases hr⟩
  | cons x xs ih =>
      intro s hf hs
      have hx := hf s hs x (List.mem_cons_self ..)
      obtain ⟨hI, hR⟩ := ih
        (fun s hs y hy => hf s hs y (List.mem_cons_of_mem x hy)) hx.1
      refine ⟨hI, fun r hr => ?_⟩
      rcases List.mem_cons.mp hr with rfl | hr'
      · exact ⟨List.mem_cons_self .., hx.2⟩
      · exact ⟨List.mem_cons_of_mem x (hR r hr').1, (hR r hr').2⟩

theorem tryForEach_invariant {f : σ → α → σ × Except ε β} {I : σ → Prop}
    {R : α → Except ε β → Prop} {items : List α}
    (hf : ∀ s, I s → ∀ x ∈ items, I (f s x).1 ∧ R x (f s x).2) {s : σ}
    (hs : I s) (sched : List α) :
    I (tryForEach f s items sched).1 ∧
      ∀ r ∈ (tryForEach f s items sched).2, r.1 ∈ items ∧ R r.1 r.2 := by
  have hpick := runAll_invariant (picked items sched)
    (fun s hs x hx => hf s hs x (mem_picked.mp hx).2) hs
  have hleft := runAll_invariant (left items sched)
    (fun s hs x hx => hf s hs x (List.mem_filter.mp hx).1) hpick.1
  rw [tryForEach]
  simp only []
  split
  · exact ⟨hpick.1, fun r hr => ⟨(mem_picked.mp (hpick.2 r hr).1).2,
      (hpick.2 r hr).2⟩⟩
  · refine ⟨hleft.1, fun r hr => ?_⟩
    rcases List.mem_append.mp hr with hr | hr
    · exact ⟨(mem_picked.mp (hpick.2 r hr).1).2, (hpick.2 r hr).2⟩
    · exact ⟨(List.mem_filter.mp (hleft.2 r hr).1).1, (hleft.2 r hr).2⟩

/-! ## Two states that go through the same iteration -/

omit [DecidableEq α] in
theorem runAll_map {f : σ → α → σ × Except ε β} {φ : σ → σ}
    (h : ∀ s x, f (φ s) x = (φ (f s x).1, (f s x).2)) :
    ∀ (xs : List α) (s : σ),
      runAll f (φ s) xs = (φ (runAll f s xs).1, (runAll f s xs).2) := by
  intro xs
  induction xs with
  | nil => intro s; rfl
  | cons x xs ih =>
      intro s
      simp only [runAll, h, ih]

/-- A change of the state that no item notices is not noticed by the
iteration. -/
theorem tryForEach_map {f : σ → α → σ × Except ε β} {φ : σ → σ}
    (h : ∀ s x, f (φ s) x = (φ (f s x).1, (f s x).2)) (s : σ)
    (items sched : List α) : tryForEach f (φ s) items sched =
      (φ (tryForEach f s items sched).1, (tryForEach f s items sched).2) := by
  simp only [tryForEach, runAll_map h]
  split <;> rfl

/-! ## Items that do not disturb each other -/

/-- No item's result depends on whether another item was run before it. -/
def Independent (f : σ → α → σ × Except ε β) (items : List α) : Prop :=
  ∀ x ∈ items, ∀ y ∈ items, x ≠ y → ∀ s, (f (f s x).1 y).2 = (f s y).2

omit [DecidableEq α] in
theorem Independent.mono {f : σ → α → σ × Except ε β} {xs ys : List α}
    (h : Independent f ys) (hsub : ∀ x ∈ xs, x ∈ ys) : Independent f xs :=
  fun x hx y hy hxy s => h x (hsub x hx) y (hsub y hy) hxy s

omit [DecidableEq α] in
theorem runAll_eq_map {f : σ → α → σ × Except ε β} :
    ∀ {xs : List α} (s : σ), Independent f xs → xs.Nodup →
      (runAll f s xs).2 = xs.map fun x => (x, (f s x).2) := by
  intro xs
  induction xs with
  | nil => intro s _ _; rfl
  | cons x xs ih =>
      intro s hind hnd
      rw [List.nodup_cons] at hnd
      have htail := hind.mono fun y hy => List.mem_cons_of_mem x hy
      rw [runAll, List.map_cons, ih (f s x).1 htail hnd.2]
      refine congrArg _ (List.map_congr_left fun y hy => ?_)
      have hxy : x ≠ y := fun e => hnd.1 (e ▸ hy)
      rw [hind x (List.mem_cons_self ..) y (List.mem_cons_of_mem x hy) hxy s]

omit [DecidableEq α] in
theorem runAll_frame {f : σ → α → σ × Except ε β} {items : List α}
    (hind : Independent f items) {y : α} (hy : y ∈ items) :
    ∀ {xs : List α} (s : σ), (∀ x ∈ xs, x ∈ items) → y ∉ xs →
      (f (runAll f s xs).1 y).2 = (f s y).2 := by
  intro xs
  induction xs with
  | nil => intro s _ _; rfl
  | cons x xs ih =>
      intro s hsub hmem
      rw [List.mem_cons, not_or] at hmem
      have hx := hsub x (List.mem_cons_self ..)
      rw [runAll, ih (f s x).1 (fun z hz => hsub z (List.mem_cons_of_mem x hz))
        hmem.2, hind x hx y hy (Ne.symm hmem.1) s]

/-- The results of an iteration over independent items: those of the picked
items alone if one of them fails, those of all items otherwise. -/
theorem tryForEach_results {f : σ → α → σ × Except ε β} {items : List α}
    (hind : Independent f items) (hnd : items.Nodup) (s : σ)
    (sched : List α) : (tryForEach f s items sched).2 =
      let res := fun x => (x, (f s x).2)
      if ((picked items sched).map res).any failed then
        (picked items sched).map res
      else (picked items sched ++ left items sched).map res := by
  have hp : ∀ x ∈ picked items sched, x ∈ items :=
    fun x hx => (mem_picked.mp hx).2
  have hl : ∀ x ∈ left items sched, x ∈ items :=
    fun x hx => (List.mem_filter.mp hx).1
  have hfirst := runAll_eq_map s (hind.mono hp) (nodup_picked items sched)
  rw [tryForEach]
  simp only [hfirst]
  split
  · exact hfirst
  · rw [runAll_eq_map _ (hind.mono hl) (hnd.filter _), List.map_append]
    refine congrArg _ (List.map_congr_left fun y hy => ?_)
    have hnot : y ∉ picked items sched := by
      intro hmem
      have hleft := (List.mem_filter.mp hy).2
      simp only [decide_eq_true_eq] at hleft
      exact hleft (mem_picked.mp hmem).1
    rw [runAll_frame hind (hl y hy) s hp hnot]

end ParIter
