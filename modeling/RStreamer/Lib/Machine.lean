import Mathlib.Data.List.Basic
import Mathlib.Data.List.Induction

/-!
# Event-driven machines

A machine here is a function `step : σ → ε → σ`: what one event does to the
state. Everything a safety argument needs of it is said once in this file,
about an arbitrary state type and an arbitrary event type.

`run` plays a list of events. `Along` says that every event of a run met a
condition in the state it was handled in, and `Always` that a property held in
every state the run went through, the first and the last included. The two
meet in `always_iff_along`: when a condition on the state *before* an event
decides whether the property survives the event, then a run keeps the property
throughout exactly when every event of it met the condition. That is the form
in which a condition found for one step is stated for whole runs.

The second half is the same for a machine whose step can fail to return
(`step? : σ → ε → Option σ`): `run?` stops at the first event that does not
return, and `run?_isSome_iff_along` reads off when it never stops.
-/

namespace Machine

variable {σ ε : Type}

def run (step : σ → ε → σ) (s : σ) (es : List ε) : σ :=
  es.foldl step s

theorem run_append (step : σ → ε → σ) (s : σ) (es fs : List ε) :
    run step s (es ++ fs) = run step (run step s es) fs :=
  List.foldl_append

/-- What every step keeps, a run keeps. -/
theorem run_invariant {step : σ → ε → σ} {I : σ → Prop}
    (hstep : ∀ s e, I s → I (step s e)) :
    ∀ (es : List ε) {s : σ}, I s → I (run step s es) := by
  intro es
  induction es with
  | nil => intro s hs; exact hs
  | cons e es ih => intro s hs; exact ih (hstep s e hs)

/-- What every step with an event of a kind keeps, a run of such events keeps. -/
theorem run_invariant_of {step : σ → ε → σ} {I : σ → Prop} {K : ε → Prop}
    (hstep : ∀ s e, K e → I s → I (step s e)) :
    ∀ {es : List ε} {s : σ}, (∀ e ∈ es, K e) → I s → I (run step s es) := by
  intro es
  induction es with
  | nil => intro s _ hs; exact hs
  | cons e es ih =>
      intro s hes hs
      have hs' := hstep s e (hes e List.mem_cons_self) hs
      exact ih (fun e' he' => hes e' (List.mem_cons_of_mem e he')) hs'

/-- If runs of a kind can always bring a measure down, they can bring it down to
zero. A run of the kind leads from some `t` to some `u`, and the next one goes on
there. -/
theorem exists_run_of_measure {τ : Type} {step : σ → ε → σ} {I : σ → Prop}
    {K : τ → List ε → τ → Prop} {μ : σ → Nat} (hnil : ∀ t, K t [] t)
    (happend : ∀ {t u v es fs}, K t es u → K u fs v → K t (es ++ fs) v)
    (hI : ∀ {t u es s}, K t es u → I s → I (run step s es))
    (h : ∀ s t, I s → 0 < μ s → ∃ es u, K t es u ∧ μ (run step s es) < μ s) :
    ∀ {s : σ}, I s → ∀ t, ∃ es u, K t es u ∧ μ (run step s es) = 0 := by
  intro s
  induction hn : μ s using Nat.strongRecOn generalizing s with
  | ind n ih =>
      intro hs t
      rcases Nat.eq_zero_or_pos n with hzero | hpos
      · exact ⟨[], t, hnil t, hn.trans hzero⟩
      · obtain ⟨es, u, hes, hlt⟩ := h s t hs (hn ▸ hpos)
        obtain ⟨fs, v, hfs, hdone⟩ := ih _ (hn ▸ hlt) rfl (hI hes hs) u
        refine ⟨es ++ fs, v, happend hes hfs, ?_⟩
        rw [run_append]
        exact hdone

/-- The same for what also depends on the events so far. -/
theorem run_invariant_past {step : σ → ε → σ} {I : List ε → σ → Prop} {s : σ}
    (hs : I [] s)
    (hstep : ∀ past s e, I past s → I (past ++ [e]) (step s e)) :
    ∀ es : List ε, I es (run step s es) := by
  intro es
  induction es using List.reverseRecOn with
  | nil => exact hs
  | append_singleton es e ih =>
      rw [run_append]
      exact hstep es _ e ih

/-- Every event of the run meets `P` in the state it is handled in. -/
def Along (step : σ → ε → σ) (P : σ → ε → Prop) : σ → List ε → Prop
  | _, [] => True
  | s, e :: es => P s e ∧ Along step P (step s e) es

/-- `Q` holds in every state the run goes through. -/
def Always (step : σ → ε → σ) (Q : σ → Prop) : σ → List ε → Prop
  | s, [] => Q s
  | s, e :: es => Q s ∧ Always step Q (step s e) es

theorem along_congr {step : σ → ε → σ} {P Q : σ → ε → Prop}
    (h : ∀ s e, P s e ↔ Q s e) :
    ∀ {es : List ε} {s : σ}, Along step P s es ↔ Along step Q s es := by
  intro es
  induction es with
  | nil => intro s; exact Iff.rfl
  | cons e es ih => intro s; exact and_congr (h s e) ih

/-- What events that meet `P` keep, and what follows from it at each of
them. -/
theorem Along.of_invariant {step : σ → ε → σ} {I : σ → Prop}
    {P Q : σ → ε → Prop} (hI : ∀ s e, I s → P s e → I (step s e))
    (hQ : ∀ s e, I s → P s e → Q s e) :
    ∀ {es : List ε} {s : σ}, I s → Along step P s es → Along step Q s es := by
  intro es
  induction es with
  | nil => intro s _ _; trivial
  | cons e es ih =>
      intro s hs h
      exact ⟨hQ s e hs h.1, ih (hI s e hs h.1) h.2⟩

theorem along_append {step : σ → ε → σ} {P : σ → ε → Prop} :
    ∀ {es fs : List ε} {s : σ}, Along step P s (es ++ fs) ↔
      Along step P s es ∧ Along step P (run step s es) fs := by
  intro es
  induction es with
  | nil => intro fs s; exact (iff_of_eq (true_and _)).symm
  | cons e es ih =>
      intro fs s
      exact (and_congr_right fun _ => ih).trans and_assoc.symm

theorem Always.head {step : σ → ε → σ} {Q : σ → Prop} {s : σ} {es : List ε}
    (h : Always step Q s es) : Q s := by
  cases es with
  | nil => exact h
  | cons e es => exact h.1

/-- What holds throughout a run holds after every part of it. -/
theorem Always.run_of_append {step : σ → ε → σ} {Q : σ → Prop} :
    ∀ {es fs : List ε} {s : σ}, Always step Q s (es ++ fs) →
      Q (run step s es) := by
  intro es
  induction es with
  | nil => intro fs s h; exact h.head
  | cons e es ih => intro fs s h; exact ih h.2

/-- A condition on every place of a run is met along the run. -/
theorem along_of_forall_append {step : σ → ε → σ} {P : σ → ε → Prop} :
    ∀ {es : List ε} {s : σ},
      (∀ pre e post, es = pre ++ e :: post → P (run step s pre) e) →
      Along step P s es := by
  intro es
  induction es with
  | nil => intro s _; trivial
  | cons e es ih =>
      intro s h
      refine ⟨h [] e es rfl, ih fun pre e' post heq => ?_⟩
      exact h (e :: pre) e' post (by rw [heq, List.cons_append])

theorem Always.mono {step : σ → ε → σ} {Q R : σ → Prop} (hQR : ∀ s, Q s → R s) :
    ∀ {es : List ε} {s : σ}, Always step Q s es → Always step R s es := by
  intro es
  induction es with
  | nil => intro s h; exact hQR s h
  | cons e es ih => intro s h; exact ⟨hQR s h.1, ih h.2⟩

/-- When the condition decides whether `Q` survives the step, keeping `Q`
throughout and meeting the condition throughout are the same thing. -/
theorem always_iff_along {step : σ → ε → σ} {I Q : σ → Prop}
    {P : σ → ε → Prop} (hI : ∀ s e, I s → I (step s e))
    (hQ : ∀ s e, I s → Q s → (Q (step s e) ↔ P s e)) :
    ∀ {es : List ε} {s : σ}, I s → Q s →
      (Always step Q s es ↔ Along step P s es) := by
  intro es
  induction es with
  | nil => intro s _ hq; exact ⟨fun _ => trivial, fun _ => hq⟩
  | cons e es ih =>
      intro s hi hq
      refine ⟨?_, ?_⟩
      · intro h
        have hq' : Q (step s e) := h.2.head
        exact ⟨(hQ s e hi hq).mp hq', (ih (hI s e hi) hq').mp h.2⟩
      · intro h
        have hq' : Q (step s e) := (hQ s e hi hq).mpr h.1
        exact ⟨hq, (ih (hI s e hi) hq').mpr h.2⟩

/-- The same at the end of a run, if `Q` never comes back once it is lost. -/
theorem run_iff_along {step : σ → ε → σ} {Q : σ → Prop} {P : σ → ε → Prop}
    (hQ : ∀ s e, Q s → (Q (step s e) ↔ P s e))
    (hlost : ∀ s e, ¬ Q s → ¬ Q (step s e)) :
    ∀ {es : List ε} {s : σ}, Q s → (Q (run step s es) ↔ Along step P s es) := by
  intro es
  induction es with
  | nil => intro s hq; exact ⟨fun _ => trivial, fun _ => hq⟩
  | cons e es ih =>
      intro s hq
      by_cases hp : P s e
      · exact (ih ((hQ s e hq).mpr hp)).trans (and_iff_right hp).symm
      · have hnot : ¬ Q (step s e) := fun hq' => hp ((hQ s e hq).mp hq')
        exact iff_of_false (run_invariant hlost es hnot) fun h => hp h.1

theorem along_and {step : σ → ε → σ} {P Q : σ → ε → Prop} :
    ∀ {es : List ε} {s : σ}, Along step (fun s e => P s e ∧ Q s e) s es ↔
      Along step P s es ∧ Along step Q s es := by
  intro es
  induction es with
  | nil => intro s; exact ⟨fun _ => ⟨trivial, trivial⟩, fun _ => trivial⟩
  | cons e es ih =>
      intro s
      rw [Along, Along, Along, ih]
      exact and_and_and_comm

/-! ## Counters along a run -/

/-- What the events of a run add up to. -/
def total (step : σ → ε → σ) (add : σ → ε → Nat) : σ → List ε → Nat
  | _, [] => 0
  | s, e :: es => add s e + total step add (step s e) es

/-- A counter that is exact as long as it stays below `bound` stays below it
throughout a run exactly if it ends below it. -/
theorem along_lt_iff_total_lt {step : σ → ε → σ} {value : σ → Nat}
    {add : σ → ε → Nat} {bound : Nat} (hvalue : ∀ s, value s < bound)
    (hstep : ∀ s e, value s + add s e < bound →
      value (step s e) = value s + add s e) :
    ∀ {es : List ε} {s : σ},
      Along step (fun s e => value s + add s e < bound) s es ↔
        value s + total step add s es < bound := by
  intro es
  induction es with
  | nil => intro s; exact ⟨fun _ => hvalue s, fun _ => trivial⟩
  | cons e es ih =>
      intro s
      rw [Along, ih, total]
      by_cases h : value s + add s e < bound
      · rw [hstep s e h, Nat.add_assoc]
        exact and_iff_right h
      · refine iff_of_false (fun hs => h hs.1) (fun hs => h ?_)
        omega

/-! ## Machines whose step may not return -/

/-- Plays events until one of them does not return. -/
def run? (step? : σ → ε → Option σ) : σ → List ε → Option σ
  | s, [] => some s
  | s, e :: es => (step? s e).bind fun s' => run? step? s' es

@[simp] theorem run?_cons (step? : σ → ε → Option σ) (s : σ) (e : ε)
    (es : List ε) : run? step? s (e :: es) =
      (step? s e).bind fun s' => run? step? s' es := rfl

/-- If a step that returns does what `step` does, and it returns exactly
under `P`, then a run returns exactly when all its events met `P`. -/
theorem run?_isSome_iff_along {step? : σ → ε → Option σ} {step : σ → ε → σ}
    {P : σ → ε → Prop} (hstep : ∀ s e s', step? s e = some s' → s' = step s e)
    (hP : ∀ s e, (step? s e).isSome = true ↔ P s e) :
    ∀ {es : List ε} {s : σ},
      (run? step? s es).isSome = true ↔ Along step P s es := by
  intro es
  induction es with
  | nil => intro s; exact ⟨fun _ => trivial, fun _ => rfl⟩
  | cons e es ih =>
      intro s
      rw [run?_cons, Along, ← hP s e]
      cases h : step? s e with
      | none => simp
      | some s' =>
          rw [← hstep s e s' h, ← ih]
          simp

end Machine
