import Mathlib.Data.List.Basic

/-!
# Programs that take locks

Straight-line code over a shared memory `σ` guarded by non-reentrant
reader-writer locks named by `L`. A program reads the memory, updates it, and
takes and drops guards; a mutex is a lock only ever taken in write mode.

One program has two readings. `exec` keeps the guards the program itself still
holds and refuses to return from a request that conflicts with one of them:
the thread would wait for itself. `eval` forgets the locks and runs the same
code on plain memory. `exec_eval` says the two agree wherever `exec` returns,
so a property of the plain reading is a property of every run that is not
stuck, and being stuck is a property of `exec` alone.
-/

namespace Lock

inductive Mode where
  | read
  | write
  deriving DecidableEq, Repr

/-- A guard: a lock, and the mode it is held in. -/
structure Guard (L : Type) where
  lock : L
  mode : Mode
  deriving DecidableEq, Repr

/-- Two guards exclude each other when they are on one lock and not both
read guards. -/
def Guard.Conflicts {L : Type} (g h : Guard L) : Prop :=
  g.lock = h.lock ∧ (g.mode = .write ∨ h.mode = .write)

instance {L : Type} [DecidableEq L] (g h : Guard L) :
    Decidable (g.Conflicts h) :=
  inferInstanceAs (Decidable (_ ∧ _))

/-- Code that reads and updates a memory and takes and drops guards. -/
inductive Prog (L σ α : Type) where
  | ret (a : α)
  | get (k : σ → Prog L σ α)
  | modify (f : σ → σ) (k : Prog L σ α)
  | acquire (g : Guard L) (k : Prog L σ α)
  | release (g : Guard L) (k : Prog L σ α)

namespace Prog

variable {L σ α β : Type}

def bind : Prog L σ α → (α → Prog L σ β) → Prog L σ β
  | ret a, f => f a
  | get k, f => get fun s => (k s).bind f
  | modify u k, f => modify u (k.bind f)
  | acquire g k, f => acquire g (k.bind f)
  | release g k, f => release g (k.bind f)

instance : Monad (Prog L σ) where
  pure := ret
  bind := bind

def read : Prog L σ σ := get ret

def write (f : σ → σ) : Prog L σ Unit := modify f (ret ())

/-- A guard that lives for the scope of `body`. -/
def withGuard (g : Guard L) (body : Prog L σ α) : Prog L σ α :=
  acquire g (body.bind fun a => release g (ret a))

def forEach (f : α → Prog L σ Unit) : List α → Prog L σ Unit
  | [] => ret ()
  | x :: xs => (f x).bind fun _ => forEach f xs

/-! ## The plain reading -/

/-- Runs the code on plain memory, the locks forgotten. -/
def eval : Prog L σ α → σ → α × σ
  | ret a, s => (a, s)
  | get k, s => (k s).eval s
  | modify u k, s => k.eval (u s)
  | acquire _ k, s => k.eval s
  | release _ k, s => k.eval s

@[simp] theorem eval_pure (a : α) (s : σ) :
    (pure a : Prog L σ α).eval s = (a, s) := rfl

@[simp] theorem eval_bind (p : Prog L σ α) (f : α → Prog L σ β) (s : σ) :
    (p.bind f).eval s = (f (p.eval s).1).eval (p.eval s).2 := by
  induction p generalizing s with
  | ret a => rfl
  | get k ih => exact ih s s
  | modify u k ih => exact ih (u s)
  | acquire g k ih => exact ih s
  | release g k ih => exact ih s

@[simp] theorem eval_monad_bind (p : Prog L σ α) (f : α → Prog L σ β) (s : σ) :
    (p >>= f).eval s = (f (p.eval s).1).eval (p.eval s).2 :=
  eval_bind p f s

@[simp] theorem eval_read (s : σ) : (read : Prog L σ σ).eval s = (s, s) := rfl

@[simp] theorem eval_write (f : σ → σ) (s : σ) :
    (write f : Prog L σ Unit).eval s = ((), f s) := rfl

@[simp] theorem eval_withGuard (g : Guard L) (p : Prog L σ α) (s : σ) :
    (withGuard g p).eval s = p.eval s := by
  simp [withGuard, eval]

theorem eval_forEach (f : α → Prog L σ Unit) :
    ∀ (xs : List α) (s : σ), ((forEach f xs).eval s).2 =
      xs.foldl (fun s x => ((f x).eval s).2) s := by
  intro xs
  induction xs with
  | nil => intro s; rfl
  | cons x xs ih => intro s; simp only [forEach, eval_bind, ih, List.foldl_cons]

/-! ## The reading with locks -/

variable [DecidableEq L]

/-- Runs the code with the guards `held` alive. `none` is a request that waits
for a guard of the program itself, so for ever. -/
def exec : Prog L σ α → List (Guard L) → σ → Option (α × List (Guard L) × σ)
  | ret a, held, s => some (a, held, s)
  | get k, held, s => (k s).exec held s
  | modify u k, held, s => k.exec held (u s)
  | acquire g k, held, s =>
      if ∃ h ∈ held, g.Conflicts h then none else k.exec (g :: held) s
  | release g k, held, s => k.exec (held.erase g) s

@[simp] theorem exec_ret (a : α) (held : List (Guard L)) (s : σ) :
    (ret a : Prog L σ α).exec held s = some (a, held, s) := rfl

@[simp] theorem exec_pure (a : α) (held : List (Guard L)) (s : σ) :
    (pure a : Prog L σ α).exec held s = some (a, held, s) := rfl

theorem exec_bind (p : Prog L σ α) (f : α → Prog L σ β)
    (held : List (Guard L)) (s : σ) :
    (p.bind f).exec held s =
      (p.exec held s).bind fun r => (f r.1).exec r.2.1 r.2.2 := by
  induction p generalizing held s with
  | ret a => rfl
  | get k ih => exact ih s held s
  | modify u k ih => exact ih held (u s)
  | acquire g k ih =>
      rw [bind, exec, exec]
      split
      · rfl
      · exact ih (g :: held) s
  | release g k ih => exact ih (held.erase g) s

@[simp] theorem exec_monad_bind (p : Prog L σ α) (f : α → Prog L σ β)
    (held : List (Guard L)) (s : σ) :
    (p >>= f).exec held s =
      (p.exec held s).bind fun r => (f r.1).exec r.2.1 r.2.2 :=
  exec_bind p f held s

@[simp] theorem exec_read (held : List (Guard L)) (s : σ) :
    (read : Prog L σ σ).exec held s = some (s, held, s) := rfl

@[simp] theorem exec_write (f : σ → σ) (held : List (Guard L)) (s : σ) :
    (write f : Prog L σ Unit).exec held s = some ((), held, f s) := rfl

/-- A scoped guard blocks on a conflict with what is already held, and is gone
again when its scope returns. -/
theorem exec_withGuard (g : Guard L) (p : Prog L σ α) (held : List (Guard L))
    (s : σ) : (withGuard g p).exec held s =
      if ∃ h ∈ held, g.Conflicts h then none
      else (p.exec (g :: held) s).map fun r => (r.1, r.2.1.erase g, r.2.2) := by
  rw [withGuard, exec]
  split
  · rfl
  · rw [exec_bind]
    cases p.exec (g :: held) s with
    | none => rfl
    | some r => rfl

/-- Where the reading with locks returns, it returns what the plain reading
computes. -/
theorem exec_eval {p : Prog L σ α} :
    ∀ {held held' : List (Guard L)} {s s' : σ} {a : α},
      p.exec held s = some (a, held', s') → p.eval s = (a, s') := by
  induction p with
  | ret a =>
      intro held held' s s' b h
      simp only [exec, Option.some.injEq, Prod.mk.injEq] at h
      obtain ⟨rfl, -, rfl⟩ := h
      rfl
  | get k ih => intro held held' s s' b h; exact ih s h
  | modify u k ih => intro held held' s s' b h; exact ih h
  | acquire g k ih =>
      intro held held' s s' b h
      rw [exec] at h
      split at h
      · cases h
      · exact ih h
  | release g k ih => intro held held' s s' b h; exact ih h

end Prog

end Lock
