import Mathlib.Data.List.Forall2

/-!
# Edits of a list of tagged items

A record kept as a list of items, each with a tag that says what it is, is
edited tag by tag: all items of a tag are dropped, an item is appended, or an
item takes the place of all items of its tag. A script of such edits is easiest
to read one tag at a time, and `ofTag_edit` says that this is allowed: what a
script leaves of a tag is what its edits of that tag leave of it.
-/

namespace RStreamer

/-- One edit of a list of items of type `α` with tags of type `τ`. -/
inductive Edit (α τ : Type) where
  | remove (t : τ)
  | add (a : α)
  | set (a : α)

namespace Edit

variable {α τ : Type} [DecidableEq τ] (tag : α → τ)

/-- The tag an edit is about. -/
def target : Edit α τ → τ
  | remove t => t
  | add a => tag a
  | set a => tag a

def apply (l : List α) : Edit α τ → List α
  | remove t => l.filter fun a => tag a ≠ t
  | add a => l ++ [a]
  | set a => (l.filter fun b => tag b ≠ tag a) ++ [a]

/-- A script of edits, from the left. -/
def edit (l : List α) (es : List (Edit α τ)) : List α :=
  es.foldl (apply tag) l

/-- The items of one tag. -/
def ofTag (t : τ) (l : List α) : List α :=
  l.filter fun a => tag a = t

variable {tag}

theorem edit_append (l : List α) (es es' : List (Edit α τ)) :
    edit tag l (es ++ es') = edit tag (edit tag l es) es' :=
  List.foldl_append

theorem mem_ofTag {t : τ} {a : α} {l : List α} :
    a ∈ ofTag tag t l ↔ a ∈ l ∧ tag a = t := by
  simp [ofTag]

/-- An edit leaves the items alone that a predicate selects, if it selects none
of the tag of the edit. -/
theorem filter_apply {p : α → Bool} {e : Edit α τ}
    (h : ∀ a, tag a = e.target tag → p a = false) (l : List α) :
    (e.apply tag l).filter p = l.filter p := by
  have hremove : (l.filter fun a => tag a ≠ e.target tag).filter p =
      l.filter p := by
    rw [List.filter_filter]
    refine List.filter_congr fun a _ => ?_
    by_cases ha : tag a = e.target tag
    · simp [h a ha]
    · simp [ha]
  cases e with
  | remove t => exact hremove
  | add a => simp [apply, h a rfl]
  | set a =>
      have ha : [a].filter p = [] := by simp [h a rfl]
      rw [apply, List.filter_append, ha, List.append_nil]
      exact hremove

theorem filter_edit {p : α → Bool} {es : List (Edit α τ)}
    (h : ∀ e ∈ es, ∀ a, tag a = e.target tag → p a = false) (l : List α) :
    (edit tag l es).filter p = l.filter p := by
  induction es generalizing l with
  | nil => rfl
  | cons e es ih =>
      rw [List.forall_mem_cons] at h
      exact (ih h.2 _).trans (filter_apply h.1 l)

/-- An edit of one tag does the same to the items of that tag alone. -/
theorem ofTag_apply_self {t : τ} {e : Edit α τ} (he : e.target tag = t)
    (l : List α) : ofTag tag t (e.apply tag l) = e.apply tag (ofTag tag t l) := by
  cases e with
  | remove t' => simp [ofTag, apply, List.filter_filter, Bool.and_comm]
  | add a =>
      have ha : tag a = t := he
      simp [ofTag, apply, ha]
  | set a =>
      have ha : tag a = t := he
      simp [ofTag, apply, ha, List.filter_filter, Bool.and_comm]

theorem ofTag_edit (t : τ) (es : List (Edit α τ)) (l : List α) :
    ofTag tag t (edit tag l es) =
      edit tag (ofTag tag t l) (es.filter fun e => e.target tag = t) := by
  induction es generalizing l with
  | nil => rfl
  | cons e es ih =>
      rw [edit, List.foldl_cons]
      refine (ih _).trans ?_
      by_cases he : e.target tag = t
      · rw [ofTag_apply_self he, List.filter_cons_of_pos (by simpa using he)]
        rfl
      · rw [List.filter_cons_of_neg (by simpa using he)]
        have hframe : ofTag tag t (e.apply tag l) = ofTag tag t l := by
          refine filter_apply (fun a ha => ?_) l
          rw [ha]
          simpa using he
        rw [hframe]

/-- All there is of a tag when the last edit of it set it. -/
theorem ofTag_set {t : τ} {a : α} (ha : tag a = t) (l : List α) :
    edit tag (ofTag tag t l) [set a] = [a] := by
  simp [edit, apply, ofTag, ha, List.filter_filter]

theorem ofTag_remove (t : τ) (l : List α) :
    edit tag (ofTag tag t l) [remove t] = [] := by
  simp [edit, apply, ofTag, List.filter_filter]

end Edit

end RStreamer
