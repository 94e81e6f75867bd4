import Mathlib.Data.List.Basic
import Mathlib.Data.List.Induction

/-!
# The last element with a property

A map filled by a sequence of inserts holds, for each key, what the last insert
of that key put there. `LastWith P xs x post` says which element that is: `x` is
the last element of `xs` with `P`, and `post` is what comes after it. Naming
`post` tells apart equal elements at different places, so that "the last element
with `P` and the last with `Q` are the same one" is a statement about places.
-/

variable {α : Type}

/-- `x` is the last element of `xs` with `P`, and `post` comes after it. -/
def LastWith (P : α → Prop) (xs : List α) (x : α) (post : List α) : Prop :=
  (∃ pre, xs = pre ++ x :: post) ∧ P x ∧ ∀ y ∈ post, ¬ P y

namespace LastWith

variable {P : α → Prop} {xs : List α}

theorem mem {x : α} {post : List α} (h : LastWith P xs x post) : x ∈ xs := by
  obtain ⟨⟨pre, rfl⟩, -, -⟩ := h
  simp

theorem not_nil {x : α} {post : List α} : ¬ LastWith P [] x post := by
  intro h
  cases h.mem

/-- One more element either is the last one or leaves the last one as it is. -/
theorem concat_iff {a x : α} {post : List α} :
    LastWith P (xs ++ [a]) x post ↔
      P a ∧ x = a ∧ post = [] ∨
        ¬ P a ∧ ∃ post', post = post' ++ [a] ∧ LastWith P xs x post' := by
  constructor
  · rintro ⟨⟨pre, heq⟩, hx, hpost⟩
    rcases List.eq_nil_or_concat' post with rfl | ⟨post', b, rfl⟩
    · obtain ⟨-, hxa⟩ := List.append_inj' heq rfl
      cases hxa
      exact .inl ⟨hx, rfl, rfl⟩
    · rw [← List.cons_append, ← List.append_assoc] at heq
      obtain ⟨hxs, hab⟩ := List.append_inj' heq rfl
      cases hab
      refine .inr ⟨hpost a (by simp), post', rfl, ⟨pre, hxs⟩, hx, ?_⟩
      exact fun y hy => hpost y (by simp [hy])
  · rintro (⟨ha, rfl, rfl⟩ | ⟨ha, post', rfl, ⟨pre, rfl⟩, hx, hpost⟩)
    · exact ⟨⟨xs, rfl⟩, ha, fun y hy => by cases hy⟩
    · refine ⟨⟨pre, by simp⟩, hx, fun y hy => ?_⟩
      rcases List.mem_append.mp hy with hy | hy
      · exact hpost y hy
      · obtain rfl := List.mem_singleton.mp hy
        exact ha

theorem exists_of_mem {a : α} (ha : a ∈ xs) (hP : P a) :
    ∃ x post, LastWith P xs x post := by
  induction xs using List.reverseRecOn with
  | nil => cases ha
  | append_singleton xs b ih =>
      by_cases hb : P b
      · exact ⟨b, [], concat_iff.mpr (.inl ⟨hb, rfl, rfl⟩)⟩
      · have hmem : a ∈ xs := by
          rcases List.mem_append.mp ha with h | h
          · exact h
          · exact absurd (List.mem_singleton.mp h ▸ hP) hb
        obtain ⟨x, post, h⟩ := ih hmem
        exact ⟨x, post ++ [b], concat_iff.mpr (.inr ⟨hb, post, rfl, h⟩)⟩

theorem unique {x x' : α} {post post' : List α} (h : LastWith P xs x post)
    (h' : LastWith P xs x' post') : x = x' ∧ post = post' := by
  induction xs using List.reverseRecOn generalizing post post' with
  | nil => exact absurd h not_nil
  | append_singleton xs a ih =>
      rcases concat_iff.mp h with ⟨ha, rfl, rfl⟩ | ⟨ha, q, rfl, hq⟩ <;>
        rcases concat_iff.mp h' with ⟨ha', rfl, rfl⟩ | ⟨ha', q', rfl, hq'⟩
      · exact ⟨rfl, rfl⟩
      · exact absurd ha ha'
      · exact absurd ha' ha
      · obtain ⟨hx, rfl⟩ := ih hq hq'
        exact ⟨hx, rfl⟩

end LastWith
