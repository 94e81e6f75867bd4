import Mathlib.Logic.Hydra
import RStreamer.Lib.Lock
import RStreamer.Lib.Machine

/-!
# Threads that share locks

Several programs run on one memory, one primitive at a time, in any order. A
request waits while any thread holds a guard that conflicts with it. A lock may
also hold a reader back because a writer is waiting, so that the reader waits
although the lock is free for it. Which of the two a lock does is left open: a
thread may move whenever no guard is in its way (`Pool.step`), but a pool only
counts as alive if some thread could move even if readers stood back
(`Pool.Prompt`).

What is known of a thread is a `Protocol`: which guards it requests under which
others, what it relies on the other threads not to change, and what it
guarantees not to change itself. `Prog.Obeys` says that a program keeps to its
protocol, whatever the others do in the meantime; there is one rule for each way
of building a program. A pool of threads that obey protocols that fit together
stays one (`Sound.step`).

Two results come out of it. If requests have levels, and whoever waits is waiting
for a thread at a higher level, then no pool gets stuck (`finished_of_stuck`).
And since programs are well-founded trees, no pool runs forever either, so every
way of scheduling the threads ends with all of them done
(`completes_of_invariant`).
-/

namespace Lock

variable {L σ τ α β : Type}

/-! ## Programs on a part of the memory -/

namespace Prog

/-- A program on a part of a larger memory: `get` reads the part, `lift` makes
an update of the part one of the whole. -/
def zoom (view : τ → σ) (lift : (σ → σ) → τ → τ) :
    Prog L σ α → Prog L τ α
  | ret a => ret a
  | get k => get fun t => (k (view t)).zoom view lift
  | modify f k => modify (lift f) (k.zoom view lift)
  | acquire g k => acquire g (k.zoom view lift)
  | release g k => release g (k.zoom view lift)

section zoom

variable (view : τ → σ) (lift : (σ → σ) → τ → τ)

theorem zoom_bind (p : Prog L σ α) (f : α → Prog L σ β) :
    (p.bind f).zoom view lift =
      (p.zoom view lift).bind fun a => (f a).zoom view lift := by
  induction p with
  | ret a => rfl
  | get k ih => exact congrArg get (funext fun t => ih (view t))
  | modify u k ih => exact congrArg (modify (lift u)) ih
  | acquire g k ih => exact congrArg (acquire g) ih
  | release g k ih => exact congrArg (release g) ih

@[simp] theorem zoom_monad_bind (p : Prog L σ α) (f : α → Prog L σ β) :
    (p >>= f).zoom view lift =
      p.zoom view lift >>= fun a => (f a).zoom view lift :=
  zoom_bind view lift p f

@[simp] theorem zoom_pure (a : α) :
    (pure a : Prog L σ α).zoom view lift = pure a := rfl

@[simp] theorem zoom_read :
    (read : Prog L σ σ).zoom view lift = get fun t => ret (view t) := rfl

@[simp] theorem zoom_write (f : σ → σ) :
    (write f : Prog L σ Unit).zoom view lift = write (lift f) := rfl

@[simp] theorem zoom_withGuard (g : Guard L) (p : Prog L σ α) :
    (withGuard g p).zoom view lift = withGuard g (p.zoom view lift) :=
  congrArg (acquire g) (zoom_bind view lift p _)

/-- The locks of a program on a part stop it where they stop it on the part
alone. -/
theorem exec_zoom [DecidableEq L] {view : τ → σ} {lift : (σ → σ) → τ → τ}
    (hview : ∀ f t, view (lift f t) = f (view t)) (p : Prog L σ α)
    (held : List (Guard L)) (t : τ) :
    ((p.zoom view lift).exec held t).map
        (fun out => (out.1, out.2.1, view out.2.2)) =
      p.exec held (view t) := by
  induction p generalizing held t with
  | ret a => rfl
  | get k ih => exact ih (view t) held t
  | modify u k ih =>
      have h := ih held (lift u t)
      rw [hview] at h
      exact h
  | acquire g k ih =>
      simp only [zoom, exec]
      split
      · rfl
      · exact ih (g :: held) t
  | release g k ih => exact ih (held.erase g) t

end zoom

end Prog

/-! ## Pools -/

/-- A thread: the guards it holds and what it has left to do. -/
structure Thread (L σ : Type) where
  held : List (Guard L)
  rest : Prog L σ Unit

namespace Thread

/-- The guard a thread asks for next. -/
def request (t : Thread L σ) : Option (Guard L) :=
  match t.rest with
  | .acquire g _ => some g
  | _ => none

def Done (t : Thread L σ) : Prop := t.rest = .ret ()

variable [DecidableEq L]

/-- The next primitive of a thread, with its request granted if it has one. -/
def next (t : Thread L σ) (s : σ) : Option (Thread L σ × σ) :=
  match t.rest with
  | .ret _ => none
  | .get k => some (⟨t.held, k s⟩, s)
  | .modify f k => some (⟨t.held, k⟩, f s)
  | .acquire g k => some (⟨g :: t.held, k⟩, s)
  | .release g k => some (⟨t.held.erase g, k⟩, s)

theorem next_isSome {t : Thread L σ} (h : ¬ t.Done) (s : σ) :
    (t.next s).isSome = true := by
  obtain ⟨held, rest⟩ := t
  cases rest with
  | ret a => exact absurd rfl h
  | get k => rfl
  | modify f k => rfl
  | acquire g k => rfl
  | release g k => rfl

end Thread

structure Pool (L σ : Type) where
  mem : σ
  threads : List (Thread L σ)

namespace Pool

/-- No thread holds a guard that conflicts with `g`. -/
def Free (p : Pool L σ) (g : Guard L) : Prop :=
  ∀ t ∈ p.threads, ∀ h ∈ t.held, ¬ g.Conflicts h

def Finished (p : Pool L σ) : Prop := ∀ t ∈ p.threads, t.Done

variable [DecidableEq L]

instance (p : Pool L σ) (g : Guard L) : Decidable (p.Free g) :=
  inferInstanceAs (Decidable (∀ t ∈ p.threads, ∀ h ∈ t.held, ¬ g.Conflicts h))

/-- The request of a thread can be granted. -/
def Granted (p : Pool L σ) (t : Thread L σ) : Prop :=
  match t.request with
  | some g => p.Free g
  | none => True

instance (p : Pool L σ) (t : Thread L σ) : Decidable (p.Granted t) :=
  match h : t.request with
  | none => isTrue (by rw [Granted, h]; trivial)
  | some g => decidable_of_iff (p.Free g) (by rw [Granted, h])

/-- Thread `i` does its next primitive. -/
def step (p : Pool L σ) (i : Nat) : Option (Pool L σ) :=
  p.threads[i]?.bind fun t =>
    if p.Granted t then
      (t.next p.mem).map fun out => ⟨out.2, p.threads.set i out.1⟩
    else none

/-- The threads in the order of a schedule; a thread that cannot move is passed
over. -/
def run (p : Pool L σ) (schedule : List Nat) : Pool L σ :=
  Machine.run (fun p i => (p.step i).getD p) p schedule

/-- A read request that stands behind the write request of another thread. -/
def Behind (p : Pool L σ) (i : Nat) : Prop :=
  ∃ t u l j, p.threads[i]? = some t ∧ t.request = some ⟨l, .read⟩ ∧ j ≠ i ∧
    p.threads[j]? = some u ∧ u.request = some ⟨l, .write⟩

/-- Thread `i` can move even if readers let waiting writers go first. -/
def Prompt (p : Pool L σ) (i : Nat) : Prop :=
  (p.step i).isSome = true ∧ ¬ p.Behind i

def Stuck (p : Pool L σ) : Prop := ∀ i, ¬ p.Prompt i

/-- However the threads are scheduled, they all get done. -/
inductive Completes : Pool L σ → Prop
  | intro {p : Pool L σ} (hstuck : p.Stuck → p.Finished)
      (hstep : ∀ i p', p.step i = some p' → p'.Completes) : p.Completes

theorem step_eq_some {p p' : Pool L σ} {i : Nat} :
    p.step i = some p' ↔ ∃ t t' s', p.threads[i]? = some t ∧ p.Granted t ∧
      t.next p.mem = some (t', s') ∧ p' = ⟨s', p.threads.set i t'⟩ := by
  rw [step, Option.bind_eq_some_iff]
  refine ⟨?_, ?_⟩
  · rintro ⟨t, ht, hstep⟩
    split at hstep
    · next hgranted =>
        obtain ⟨⟨t', s'⟩, hnext, rfl⟩ := Option.map_eq_some_iff.mp hstep
        exact ⟨t, t', s', ht, hgranted, hnext, rfl⟩
    · cases hstep
  · rintro ⟨t, t', s', ht, hgranted, hnext, rfl⟩
    refine ⟨t, ht, ?_⟩
    rw [if_pos hgranted, hnext]
    rfl

end Pool

/-! ## Protocols -/

/-- What a thread goes by, under the guards it holds: the requests it makes,
the changes of the memory it puts up with, and those it makes itself. -/
structure Protocol (L σ : Type) where
  may : List (Guard L) → Guard L → Prop
  rely : List (Guard L) → σ → σ → Prop
  guar : List (Guard L) → σ → σ → Prop
  rely_refl : ∀ held s, rely held s s
  rely_trans : ∀ {held s s' s''}, rely held s s' → rely held s' s'' →
    rely held s s''
  rely_mono : ∀ {g held s s'}, rely (g :: held) s s' → rely held s s'

namespace Prog

variable [DecidableEq L]

/-- The program keeps to `P` and to the invariant `I` from memory `s` on, with
the guards `held`, and returns only in states with `Q`. Before each primitive
the other threads may have changed the memory as far as `P` allows. -/
def Obeys (P : Protocol L σ) (I : σ → Prop) :
    Prog L σ α → List (Guard L) → σ → (α → List (Guard L) → σ → Prop) → Prop
  | ret a, held, s, Q => ∀ s', I s' → P.rely held s s' → Q a held s'
  | get k, held, s, Q =>
      ∀ s', I s' → P.rely held s s' → (k s').Obeys P I held s' Q
  | modify f k, held, s, Q =>
      ∀ s', I s' → P.rely held s s' →
        I (f s') ∧ P.guar held s' (f s') ∧ k.Obeys P I held (f s') Q
  | acquire g k, held, s, Q =>
      P.may held g ∧
        ∀ s', I s' → P.rely held s s' → k.Obeys P I (g :: held) s' Q
  | release g k, held, s, Q =>
      ∀ s', I s' → P.rely held s s' → k.Obeys P I (held.erase g) s' Q

variable {P : Protocol L σ} {I : σ → Prop}

theorem Obeys.of_rely {p : Prog L σ α} {held : List (Guard L)} {s s' : σ}
    {Q : α → List (Guard L) → σ → Prop} (h : p.Obeys P I held s Q)
    (hrely : P.rely held s s') : p.Obeys P I held s' Q := by
  cases p with
  | ret a => exact fun t hI hr => h t hI (P.rely_trans hrely hr)
  | get k => exact fun t hI hr => h t hI (P.rely_trans hrely hr)
  | modify f k => exact fun t hI hr => h t hI (P.rely_trans hrely hr)
  | acquire g k => exact ⟨h.1, fun t hI hr => h.2 t hI (P.rely_trans hrely hr)⟩
  | release g k => exact fun t hI hr => h t hI (P.rely_trans hrely hr)

theorem Obeys.mono {p : Prog L σ α} {held : List (Guard L)} {s : σ}
    {Q R : α → List (Guard L) → σ → Prop} (h : p.Obeys P I held s Q)
    (hQR : ∀ a held s, I s → Q a held s → R a held s) :
    p.Obeys P I held s R := by
  induction p generalizing held s with
  | ret a => exact fun t hI hr => hQR a held t hI (h t hI hr)
  | get k ih => exact fun t hI hr => ih t (h t hI hr)
  | modify f k ih =>
      intro t hI hr
      obtain ⟨hinv, hguar, hk⟩ := h t hI hr
      exact ⟨hinv, hguar, ih hk⟩
  | acquire g k ih => exact ⟨h.1, fun t hI hr => ih (h.2 t hI hr)⟩
  | release g k ih => exact fun t hI hr => ih (h t hI hr)

/-- What a program that obeys a protocol leaves when it runs by itself. -/
theorem Obeys.of_exec {p : Prog L σ α} :
    ∀ {held held' : List (Guard L)} {s s' : σ} {a : α}
      {Q : α → List (Guard L) → σ → Prop}, p.Obeys P I held s Q → I s →
      p.exec held s = some (a, held', s') → I s' ∧ Q a held' s' := by
  induction p with
  | ret b =>
      intro held held' s s' a Q h hI hexec
      cases hexec
      exact ⟨hI, h s hI (P.rely_refl held s)⟩
  | get k ih =>
      intro held held' s s' a Q h hI hexec
      exact ih s (h s hI (P.rely_refl held s)) hI hexec
  | modify f k ih =>
      intro held held' s s' a Q h hI hexec
      obtain ⟨hinv, -, hk⟩ := h s hI (P.rely_refl held s)
      exact ih hk hinv hexec
  | acquire g k ih =>
      intro held held' s s' a Q h hI hexec
      rw [exec] at hexec
      split at hexec
      · cases hexec
      · exact ih (h.2 s hI (P.rely_refl held s)) hI hexec
  | release g k ih =>
      intro held held' s s' a Q h hI hexec
      exact ih (h s hI (P.rely_refl held s)) hI hexec

theorem obeys_bind {p : Prog L σ α} {f : α → Prog L σ β}
    {held : List (Guard L)} {s : σ} {Q : β → List (Guard L) → σ → Prop}
    (h : p.Obeys P I held s fun a held s => I s → (f a).Obeys P I held s Q)
    (hI : I s) : (p.bind f).Obeys P I held s Q := by
  induction p generalizing held s with
  | ret a => exact h s hI (P.rely_refl held s) hI
  | get k ih => exact fun t ht hr => ih t (h t ht hr) ht
  | modify u k ih =>
      intro t ht hr
      obtain ⟨hinv, hguar, hk⟩ := h t ht hr
      exact ⟨hinv, hguar, ih hk hinv⟩
  | acquire g k ih => exact ⟨h.1, fun t ht hr => ih (h.2 t ht hr) ht⟩
  | release g k ih => exact fun t ht hr => ih (h t ht hr) ht

theorem obeys_monad_bind {p : Prog L σ α} {f : α → Prog L σ β}
    {held : List (Guard L)} {s : σ} {Q : β → List (Guard L) → σ → Prop}
    (h : p.Obeys P I held s fun a held s => I s → (f a).Obeys P I held s Q)
    (hI : I s) : (p >>= f).Obeys P I held s Q :=
  obeys_bind h hI

theorem obeys_read {f : σ → Prog L σ α} {held : List (Guard L)} {s : σ}
    {Q : α → List (Guard L) → σ → Prop}
    (h : ∀ s', I s' → P.rely held s s' → (f s').Obeys P I held s' Q) :
    (read >>= f).Obeys P I held s Q := h

/-- A read of a part of the memory. -/
theorem obeys_readPart {view : σ → τ} {f : τ → Prog L σ α}
    {held : List (Guard L)} {s : σ} {Q : α → List (Guard L) → σ → Prop}
    (h : ∀ s', I s' → P.rely held s s' → (f (view s')).Obeys P I held s' Q) :
    ((get fun t => ret (view t)) >>= f).Obeys P I held s Q := h

theorem obeys_write {u : σ → σ} {held : List (Guard L)} {s : σ}
    {Q : Unit → List (Guard L) → σ → Prop}
    (h : ∀ s', I s' → P.rely held s s' → I (u s') ∧ P.guar held s' (u s') ∧
      ∀ s'', I s'' → P.rely held (u s') s'' → Q () held s'') :
    (write u : Prog L σ Unit).Obeys P I held s Q := h

theorem obeys_write_bind {u : σ → σ} {f : Unit → Prog L σ α}
    {held : List (Guard L)} {s : σ} {Q : α → List (Guard L) → σ → Prop}
    (h : ∀ s', I s' → P.rely held s s' → I (u s') ∧ P.guar held s' (u s') ∧
      (f ()).Obeys P I held (u s') Q) :
    (write u >>= f).Obeys P I held s Q := h

/-- A scoped guard: the body runs under it and gives it back. -/
theorem obeys_withGuard {g : Guard L} {p : Prog L σ α}
    {held : List (Guard L)} {s : σ} {Q : α → List (Guard L) → σ → Prop}
    (hmay : P.may held g)
    (h : ∀ s', I s' → P.rely held s s' →
      p.Obeys P I (g :: held) s' fun a held' s' =>
        held' = g :: held ∧ ∀ s'', I s'' → P.rely held s' s'' → Q a held s'') :
    (withGuard g p).Obeys P I held s Q := by
  refine ⟨hmay, fun s' hI hr => obeys_bind ?_ hI⟩
  refine (h s' hI hr).mono ?_
  rintro a held' s₀ - ⟨rfl, hQ⟩ -
  intro s₁ hI₁ hr₁
  rw [List.erase_cons_head]
  intro s₂ hI₂ hr₂
  exact hQ s₂ hI₂ (P.rely_trans (P.rely_mono hr₁) hr₂)

/-- What every turn of a loop keeps, the loop keeps. -/
theorem obeys_forEach {f : α → Prog L σ Unit} {held : List (Guard L)}
    {J : σ → Prop} :
    ∀ {xs : List α} {s : σ}, (∀ s s', J s → P.rely held s s' → J s') →
      (∀ x ∈ xs, ∀ s, I s → J s →
        (f x).Obeys P I held s fun _ held' s' => held' = held ∧ J s') →
      I s → J s → (forEach f xs).Obeys P I held s fun _ held' s' =>
        held' = held ∧ J s' := by
  intro xs
  induction xs with
  | nil => intro s hJ _ _ hs s' _ hr; exact ⟨rfl, hJ s s' hs hr⟩
  | cons x xs ih =>
      intro s hJ hf hI hs
      refine obeys_bind ((hf x (List.mem_cons_self ..) s hI hs).mono ?_) hI
      rintro - held' s' hI' ⟨rfl, hs'⟩ -
      exact ih hJ (fun y hy => hf y (List.mem_cons_of_mem x hy)) hI' hs'

end Prog

/-! ## Pools of obedient threads -/

namespace Pool

variable [DecidableEq L]

/-- Every thread obeys its protocol and no two hold conflicting guards; the
threads that are done hold nothing and left the memory with `Q`. -/
structure Sound (P : Nat → Protocol L σ) (I : σ → Prop) (Q : Nat → σ → Prop)
    (p : Pool L σ) : Prop where
  inv : I p.mem
  apart : ∀ {i j : Nat} {t u : Thread L σ}, p.threads[i]? = some t →
    p.threads[j]? = some u → i ≠ j → ∀ g ∈ t.held, ∀ h ∈ u.held,
      ¬ g.Conflicts h
  obeys : ∀ {i : Nat} {t : Thread L σ}, p.threads[i]? = some t →
    t.rest.Obeys (P i) I t.held p.mem fun _ held s => held = [] ∧ Q i s

/-- The protocols of a pool fit together: what one thread does under guards,
the others put up with as long as theirs do not conflict with these. -/
def Compatible (P : Nat → Protocol L σ) : Prop :=
  ∀ i j held held' s s', i ≠ j →
    (∀ g ∈ held, ∀ h ∈ held', ¬ g.Conflicts h) →
    (P j).guar held' s s' → (P i).rely held s s'

variable {P : Nat → Protocol L σ} {I : σ → Prop} {Q : Nat → σ → Prop}

theorem Sound.of_moved {p : Pool L σ} (h : p.Sound P I Q) {i : Nat}
    {t t' : Thread L σ} {s' : σ} (hat : p.threads[i]? = some t)
    (hinv : I s')
    (hheld : ∀ g ∈ t'.held, g ∈ t.held ∨ p.Free g)
    (hrely : ∀ j u, j ≠ i → p.threads[j]? = some u →
      (P j).rely u.held p.mem s')
    (hobeys : t'.rest.Obeys (P i) I t'.held s' fun _ held s =>
      held = [] ∧ Q i s) :
    Sound P I Q ⟨s', p.threads.set i t'⟩ := by
  have hlt : i < p.threads.length := (List.getElem?_eq_some_iff.mp hat).1
  have hself : (p.threads.set i t')[i]? = some t' := List.getElem?_set_self hlt
  have hother : ∀ {j}, j ≠ i → (p.threads.set i t')[j]? = p.threads[j]? :=
    fun hj => List.getElem?_set_ne (Ne.symm hj)
  -- a guard of the moved thread against one of another
  have happart : ∀ {j u}, j ≠ i → p.threads[j]? = some u →
      ∀ g ∈ t'.held, ∀ h ∈ u.held, ¬ g.Conflicts h := by
    intro j u hj hu g hg k hk
    rcases hheld g hg with hold | hfree
    · exact h.apart hat hu (Ne.symm hj) g hold k hk
    · exact hfree u (List.mem_of_getElem? hu) k hk
  refine ⟨hinv, ?_, ?_⟩
  · intro j k u v hu hv hjk g hg k' hk'
    by_cases hj : j = i
    · subst hj
      rw [hself] at hu
      cases hu
      rw [hother (Ne.symm hjk)] at hv
      exact happart (Ne.symm hjk) hv g hg k' hk'
    · rw [hother hj] at hu
      by_cases hki : k = i
      · subst hki
        rw [hself] at hv
        cases hv
        intro hc
        exact happart hj hu k' hk' g hg ⟨hc.1.symm, hc.2.symm⟩
      · rw [hother hki] at hv
        exact h.apart hu hv hjk g hg k' hk'
  · intro j u hu
    by_cases hj : j = i
    · subst hj
      rw [hself] at hu
      cases hu
      exact hobeys
    · rw [hother hj] at hu
      exact (h.obeys hu).of_rely (hrely j u hj hu)

theorem Sound.step {p p' : Pool L σ} (h : p.Sound P I Q)
    (hP : Compatible P) {i : Nat} (hstep : p.step i = some p') :
    p'.Sound P I Q := by
  obtain ⟨⟨held, rest⟩, t', s', hat, hgranted, hnext, rfl⟩ :=
    step_eq_some.mp hstep
  have hobeys := h.obeys hat
  have hrefl : ∀ held, (P i).rely held p.mem p.mem :=
    fun held => (P i).rely_refl held p.mem
  cases rest with
  | ret a => cases hnext
  | get k =>
      cases hnext
      exact h.of_moved hat h.inv (fun g hg => .inl hg)
        (fun j u _ _ => (P j).rely_refl _ _) (hobeys p.mem h.inv (hrefl _))
  | modify f k =>
      cases hnext
      obtain ⟨hinv, hguar, hk⟩ := hobeys p.mem h.inv (hrefl _)
      exact h.of_moved hat hinv (fun g hg => .inl hg)
        (fun j u hj hu => hP j i u.held held _ _ hj
          (h.apart hu hat hj) hguar) hk
  | acquire g k =>
      cases hnext
      refine h.of_moved hat h.inv ?_ (fun j u _ _ => (P j).rely_refl _ _)
        (hobeys.2 p.mem h.inv (hrefl _))
      intro g' hg'
      rcases List.mem_cons.mp hg' with rfl | hold
      · exact .inr hgranted
      · exact .inl hold
  | release g k =>
      cases hnext
      exact h.of_moved hat h.inv (fun g' hg' => .inl (List.mem_of_mem_erase hg'))
        (fun j u _ _ => (P j).rely_refl _ _) (hobeys p.mem h.inv (hrefl _))

theorem Sound.run {p : Pool L σ} (h : p.Sound P I Q) (hP : Compatible P)
    (schedule : List Nat) : (p.run schedule).Sound P I Q := by
  refine Machine.run_invariant (I := Sound P I Q) ?_ schedule h
  intro p i hp
  cases hstep : p.step i with
  | none => exact hp
  | some p' => exact hp.step hP hstep

/-- A pool that starts with all its threads at their beginnings. -/
theorem sound_start {s : σ} {ps : List (Prog L σ Unit)} (hI : I s)
    (hobeys : ∀ (i : Nat) (p : Prog L σ Unit), ps[i]? = some p →
      p.Obeys (P i) I [] s fun _ held s => held = [] ∧ Q i s) :
    Sound P I Q ⟨s, ps.map fun p => ⟨[], p⟩⟩ := by
  refine ⟨hI, ?_, ?_⟩
  · intro i j t u ht _ _ g hg
    rw [List.getElem?_map, Option.map_eq_some_iff] at ht
    obtain ⟨p, -, rfl⟩ := ht
    cases hg
  · intro i t ht
    rw [List.getElem?_map, Option.map_eq_some_iff] at ht
    obtain ⟨p, hp, rfl⟩ := ht
    exact hobeys i p hp

theorem Sound.post_of_done {p : Pool L σ} (h : p.Sound P I Q) {i : Nat}
    {t : Thread L σ} (hat : p.threads[i]? = some t) (hdone : t.Done) :
    t.held = [] ∧ Q i p.mem := by
  have hobeys := h.obeys hat
  rw [hdone] at hobeys
  exact hobeys p.mem h.inv ((P i).rely_refl _ _)

/-! ## No pool gets stuck -/

/-- Whoever waits, waits for a thread at a higher level: for one that holds a
guard and requests another, or for a writer. -/
structure Levelled (P : Nat → Protocol L σ) (level : Nat → Guard L → Nat) :
    Prop where
  bounded : ∃ bound, ∀ i g, level i g < bound
  own : ∀ {i held g}, (P i).may held g → ∀ h ∈ held, ¬ g.Conflicts h
  holder : ∀ {i j held held' g g'}, i ≠ j → (P i).may held g →
    (P j).may held' g' → ∀ h ∈ held', g.Conflicts h → level i g < level j g'
  writer : ∀ {i j held held' l}, i ≠ j → (P i).may held ⟨l, .read⟩ →
    (P j).may held' ⟨l, .write⟩ → level i ⟨l, .read⟩ < level j ⟨l, .write⟩

theorem Sound.may_request {p : Pool L σ} (h : p.Sound P I Q) {i : Nat}
    {t : Thread L σ} (hat : p.threads[i]? = some t) {g : Guard L}
    (hreq : t.request = some g) : (P i).may t.held g := by
  have hobeys := h.obeys hat
  obtain ⟨held, rest⟩ := t
  cases rest with
  | acquire g' k =>
      cases hreq
      exact hobeys.1
  | ret a => cases hreq
  | get k => cases hreq
  | modify f k => cases hreq
  | release g' k => cases hreq

/-- A thread of a stuck pool that is not done has a request. -/
theorem Stuck.exists_request {p : Pool L σ} (h : p.Stuck) {i : Nat}
    {t : Thread L σ} (hat : p.threads[i]? = some t) (hdone : ¬ t.Done) :
    ∃ g, t.request = some g := by
  cases hreq : t.request with
  | some g => exact ⟨g, rfl⟩
  | none =>
      refine absurd ?_ (h i)
      have hgranted : p.Granted t := by rw [Granted, hreq]; trivial
      obtain ⟨out, hnext⟩ := Option.isSome_iff_exists.mp
        (Thread.next_isSome hdone p.mem)
      refine ⟨?_, ?_⟩
      · rw [Pool.step, hat, Option.bind_some, if_pos hgranted, hnext]
        rfl
      · rintro ⟨t', u, l, j, ht', hread, -⟩
        rw [hat] at ht'
        cases ht'
        rw [hreq] at hread
        cases hread

/-- The thread a waiting thread waits for. -/
theorem Stuck.exists_above {p : Pool L σ} (h : p.Stuck)
    (hs : p.Sound P I Q) {level : Nat → Guard L → Nat}
    (hlevel : Levelled P level) {i : Nat} {t : Thread L σ} {g : Guard L}
    (hat : p.threads[i]? = some t) (hreq : t.request = some g) :
    ∃ j u g', p.threads[j]? = some u ∧ u.request = some g' ∧
      level i g < level j g' := by
  have hmay := hs.may_request hat hreq
  by_cases hfree : p.Free g
  · -- the lock is free, so only a writer can be in the way
    have hgranted : p.Granted t := by rw [Granted, hreq]; exact hfree
    have hstep : (p.step i).isSome = true := by
      have hdone : ¬ t.Done := by
        intro hdone
        rw [Thread.request, hdone] at hreq
        cases hreq
      obtain ⟨out, hnext⟩ := Option.isSome_iff_exists.mp
        (Thread.next_isSome hdone p.mem)
      rw [Pool.step, hat, Option.bind_some, if_pos hgranted, hnext]
      rfl
    have hbehind : p.Behind i := by
      by_contra hnot
      exact h i ⟨hstep, hnot⟩
    obtain ⟨t', u, l, j, ht', hread, hj, hu, hwrite⟩ := hbehind
    rw [hat] at ht'
    cases ht'
    rw [hreq] at hread
    cases hread
    exact ⟨j, u, _, hu, hwrite,
      hlevel.writer (Ne.symm hj) hmay (hs.may_request hu hwrite)⟩
  · simp only [Free, not_forall, not_not] at hfree
    obtain ⟨u, hu, k, hk, hc⟩ := hfree
    obtain ⟨j, hj⟩ := List.mem_iff_getElem?.mp hu
    have hij : i ≠ j := by
      rintro rfl
      rw [hat] at hj
      cases hj
      exact hlevel.own hmay k hk hc
    have hdone : ¬ u.Done := by
      intro hdone
      rw [(hs.post_of_done hj hdone).1] at hk
      cases hk
    obtain ⟨g', hreq'⟩ := h.exists_request hj hdone
    exact ⟨j, u, g', hj, hreq',
      hlevel.holder hij hmay (hs.may_request hj hreq') k hk hc⟩

theorem finished_of_stuck {p : Pool L σ} (hs : p.Sound P I Q)
    {level : Nat → Guard L → Nat} (hlevel : Levelled P level)
    (h : p.Stuck) : p.Finished := by
  by_contra hnot
  simp only [Finished, not_forall] at hnot
  obtain ⟨t, ht, hdone⟩ := hnot
  obtain ⟨i, hi⟩ := List.mem_iff_getElem?.mp ht
  obtain ⟨g, hreq⟩ := h.exists_request hi hdone
  -- from any waiting thread on, the levels would rise without end
  have hclimb : ∀ n, ∃ j u g', p.threads[j]? = some u ∧
      u.request = some g' ∧ n ≤ level j g' := by
    intro n
    induction n with
    | zero => exact ⟨i, t, g, hi, hreq, Nat.zero_le _⟩
    | succ n ih =>
        obtain ⟨j, u, g', hu, hg', hn⟩ := ih
        obtain ⟨k, v, g'', hv, hg'', hlt⟩ := h.exists_above hs hlevel hu hg'
        exact ⟨k, v, g'', hv, hg'', by omega⟩
  obtain ⟨bound, hbound⟩ := hlevel.bounded
  obtain ⟨j, u, g', -, -, hle⟩ := hclimb bound
  have := hbound j g'
  omega

/-! ## No pool runs forever -/

/-- `q` is what is left of `p` after its next primitive. -/
def After (q p : Prog L σ Unit) : Prop :=
  match p with
  | .ret _ => False
  | .get k => ∃ s, q = k s
  | .modify _ k => q = k
  | .acquire _ k => q = k
  | .release _ k => q = k

omit [DecidableEq L] in
theorem wellFounded_after : WellFounded (After : Prog L σ Unit → _ → Prop) := by
  refine ⟨fun p => ?_⟩
  induction p with
  | ret a => exact ⟨_, fun q hq => hq.elim⟩
  | get k ih =>
      refine ⟨_, ?_⟩
      rintro q ⟨s, rfl⟩
      exact ih s
  | modify f k ih =>
      refine ⟨_, ?_⟩
      rintro q rfl
      exact ih
  | acquire g k ih =>
      refine ⟨_, ?_⟩
      rintro q rfl
      exact ih
  | release g k ih =>
      refine ⟨_, ?_⟩
      rintro q rfl
      exact ih

theorem after_of_next {t t' : Thread L σ} {s s' : σ}
    (h : t.next s = some (t', s')) : After t'.rest t.rest := by
  obtain ⟨held, rest⟩ := t
  cases rest with
  | ret a => cases h
  | get k => cases h; exact ⟨s, rfl⟩
  | modify f k => cases h; exact rfl
  | acquire g k => cases h; exact rfl
  | release g k => cases h; exact rfl

/-- What the threads of a pool have left to do. -/
def remaining (p : Pool L σ) : Multiset (Prog L σ Unit) :=
  (p.threads.map fun t => t.rest : List (Prog L σ Unit))

theorem remaining_step {p p' : Pool L σ} {i : Nat} (h : p.step i = some p') :
    Relation.CutExpand After p'.remaining p.remaining := by
  obtain ⟨t, t', s', hat, -, hnext, rfl⟩ := step_eq_some.mp h
  obtain ⟨hlt, hget⟩ := List.getElem?_eq_some_iff.mp hat
  refine ⟨{t'.rest}, t.rest, ?_, ?_⟩
  · intro q hq
    rw [Multiset.mem_singleton.mp hq]
    exact after_of_next hnext
  · have hnew : (p.threads.set i t').Perm (t' :: p.threads.eraseIdx i) :=
      List.set_perm_cons_eraseIdx hlt t'
    have hold : (p.threads[i] :: p.threads.eraseIdx i).Perm p.threads :=
      List.getElem_cons_eraseIdx_perm hlt
    rw [hget] at hold
    have hnew' := hnew.map fun t => t.rest
    have hold' := hold.map fun t => t.rest
    rw [List.map_cons] at hnew' hold'
    rw [remaining, remaining, Multiset.coe_eq_coe.mpr hnew',
      ← Multiset.coe_eq_coe.mpr hold', ← Multiset.cons_coe, ← Multiset.cons_coe,
      ← Multiset.singleton_add, ← Multiset.singleton_add,
      add_comm _ ({t.rest} : Multiset _), add_comm ({t'.rest} : Multiset _),
      ← add_assoc]

theorem completes_of_invariant {J : Pool L σ → Prop}
    (hstep : ∀ {p p' i}, J p → p.step i = some p' → J p')
    (hstuck : ∀ {p}, J p → p.Stuck → p.Finished) {p : Pool L σ} (h : J p) :
    p.Completes := by
  have hwf : WellFounded (Relation.CutExpand (After : Prog L σ Unit → _ → Prop)) :=
    wellFounded_after.cutExpand
  induction hp : p.remaining using hwf.induction generalizing p with
  | _ m ih =>
      subst hp
      exact .intro (hstuck h) fun i p' hp' =>
        ih p'.remaining (remaining_step hp') (hstep h hp') rfl

/-- Threads that obey compatible, levelled protocols all get done. -/
theorem Sound.completes {p : Pool L σ} (h : p.Sound P I Q)
    (hP : Compatible P) {level : Nat → Guard L → Nat}
    (hlevel : Levelled P level) : p.Completes :=
  completes_of_invariant (J := Sound P I Q) (fun hp hstep => hp.step hP hstep)
    (fun hp hstuck => finished_of_stuck hp hlevel hstuck) h

/-! ## A thread that waits for itself -/

/-- A thread that requests what conflicts with its own guards never gets on, and
the pool is never done. -/
theorem Completes.not_own {p : Pool L σ} (h : p.Completes) {i : Nat}
    {t : Thread L σ} (hat : p.threads[i]? = some t) {g : Guard L}
    (hreq : t.request = some g) {k : Guard L} (hk : k ∈ t.held) :
    ¬ g.Conflicts k := by
  intro hc
  induction h with
  | @intro p hstuck hstep ih =>
      have hblocked : ¬ p.Granted t := by
        rw [Granted, hreq]
        exact fun hfree => hfree t (List.mem_of_getElem? hat) k hk hc
      by_cases hs : p.Stuck
      · have hdone := hstuck hs t (List.mem_of_getElem? hat)
        rw [Thread.request, hdone] at hreq
        cases hreq
      · simp only [Stuck, not_forall, not_not] at hs
        obtain ⟨j, hmove, -⟩ := hs
        obtain ⟨p', hp'⟩ := Option.isSome_iff_exists.mp hmove
        refine ih j p' hp' ?_
        obtain ⟨u, u', s', hu, hgranted, -, rfl⟩ := step_eq_some.mp hp'
        have hij : j ≠ i := by
          rintro rfl
          rw [hat] at hu
          cases hu
          exact hblocked hgranted
        rw [List.getElem?_set_ne hij]
        exact hat

/-- In a pool that completes, a thread whose code stands alone at the start of
the run, the others holding nothing, can run to its end by itself. -/
theorem Completes.exec_isSome {t : Prog L σ Unit} :
    ∀ {s : σ} {held : List (Guard L)} {us : List (Thread L σ)},
      Completes ⟨s, ⟨held, t⟩ :: us⟩ → (∀ u ∈ us, u.held = []) →
      (t.exec held s).isSome = true := by
  induction t with
  | ret a => intro s held us _ _; rfl
  | get k ih =>
      intro s held us h hus
      cases h with
      | intro _ hstep => exact ih s (hstep 0 _ rfl) hus
  | modify f k ih =>
      intro s held us h hus
      cases h with
      | intro _ hstep => exact ih (hstep 0 _ rfl) hus
  | acquire g k ih =>
      intro s held us h hus
      have hown := @Completes.not_own _ _ _ _ h 0 _ rfl g rfl
      have hnot : ¬ ∃ x ∈ held, g.Conflicts x := by
        rintro ⟨x, hx, hc⟩
        exact hown hx hc
      rw [Prog.exec, if_neg hnot]
      cases h with
      | intro _ hstep =>
          refine ih (hstep 0 _ ?_) hus
          have hgranted : (⟨s, ⟨held, .acquire g k⟩ :: us⟩ : Pool L σ).Granted
              ⟨held, .acquire g k⟩ := by
            intro u hu x hx
            rcases List.mem_cons.mp hu with rfl | hu
            · exact hown hx
            · rw [hus u hu] at hx
              cases hx
          exact step_eq_some.mpr ⟨_, _, _, rfl, hgranted, rfl, rfl⟩
  | release g k ih =>
      intro s held us h hus
      cases h with
      | intro _ hstep => exact ih (hstep 0 _ rfl) hus

end Pool

end Lock
