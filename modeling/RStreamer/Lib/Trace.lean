import Mathlib.Data.List.Perm.Subperm
import RStreamer.Lib.Machine

/-!
# What a run puts out, and what can be left out of it

A step of a machine may put something out: `out s e` lists what event `e` puts
out in state `s`, and `trace` collects it along a run. Two rules read a trace
off the states: a potential that pays for what is put out bounds how much there
is of it, and a cell only written with what is put out holds the last of it. Two
more are for queues: if no step changes the order of what is under way, then
things come out in the order they went in, and if no step loses or repeats any of
it either, then what came out and what is left is exactly what went in. Where
order is not kept and things may get lost, at least nothing comes out more often
than it went in (`trace_subperm`); where nothing gets lost, everything comes out or
is still there (`trace_perm`). And what is in a queue was put there at some point of
the run, by an event in the state of that point (`exists_of_mem_run`).

The second half is the unwinding argument for two runs. An observer sees a
machine through a view `π`. If equal views stay equal under equal events and
put the same things out, and if some events neither change the view nor put
anything out, then those events can be left out of a run: whatever subset of
them is dropped, the trace stays the same (`trace_purge`), and so does what the
observer sees at the end (`run_purge`).
-/

namespace Machine

variable {σ ε β V : Type}

/-- What a run puts out, in order. -/
def trace (step : σ → ε → σ) (out : σ → ε → List β) : σ → List ε → List β
  | _, [] => []
  | s, e :: es => out s e ++ trace step out (step s e) es

@[simp] theorem trace_cons (step : σ → ε → σ) (out : σ → ε → List β) (s : σ)
    (e : ε) (es : List ε) : trace step out s (e :: es) =
      out s e ++ trace step out (step s e) es := rfl

/-- A potential that every step pays from for what it puts out bounds what a
run puts out. -/
theorem countP_trace_le {step : σ → ε → σ} {out : σ → ε → List β}
    {φ : σ → Nat} {p : β → Bool}
    (h : ∀ s e, (out s e).countP p + φ (step s e) ≤ φ s) :
    ∀ (es : List ε) (s : σ), (trace step out s es).countP p ≤ φ s := by
  intro es
  induction es with
  | nil => intro s; exact Nat.zero_le _
  | cons e es ih =>
      intro s
      have hstep := h s e
      have htail := ih (step s e)
      rw [trace_cons, List.countP_append]
      omega

/-- What each step puts out is bounded by what it puts out otherwise. -/
theorem countP_trace_le_length {γ : Type} {step : σ → ε → σ}
    {out : σ → ε → List β} {other : σ → ε → List γ} {p : β → Bool}
    (h : ∀ s e, (out s e).countP p ≤ (other s e).length) :
    ∀ (es : List ε) (s : σ), (trace step out s es).countP p ≤
      (trace step other s es).length := by
  intro es
  induction es with
  | nil => intro s; exact Nat.le_refl _
  | cons e es ih =>
      intro s
      rw [trace_cons, trace_cons, List.countP_append, List.length_append]
      exact Nat.add_le_add (h s e) (ih (step s e))

/-- A counter that pays for what is put out and is paid for by what comes in. -/
theorem countP_trace_le_source {γ : Type} {step : σ → ε → σ}
    {out : σ → ε → List β} {source : σ → ε → List γ} {I : σ → Prop}
    {φ : σ → Nat} {p : β → Bool} {q : γ → Bool}
    (hI : ∀ s e, I s → I (step s e))
    (h : ∀ s e, I s → (out s e).countP p + φ (step s e) ≤
      φ s + (source s e).countP q) :
    ∀ (es : List ε) {s : σ}, I s →
      (trace step out s es).countP p + φ (run step s es) ≤
        φ s + (trace step source s es).countP q := by
  intro es
  induction es with
  | nil => intro s _; exact Nat.le_of_eq (Nat.add_comm _ _)
  | cons e es ih =>
      intro s hs
      have hstep := h s e hs
      have htail := ih (hI s e hs)
      rw [trace_cons, trace_cons, List.countP_append, List.countP_append]
      change _ + φ (run step (step s e) es) ≤ _
      omega

/-- Output that depends on the event alone. -/
theorem trace_of_event (step : σ → ε → σ) (g : ε → List β) :
    ∀ (es : List ε) (s : σ), trace step (fun _ e => g e) s es = es.flatMap g := by
  intro es
  induction es with
  | nil => intro s; rfl
  | cons e es ih => intro s; rw [trace_cons, ih, List.flatMap_cons]

theorem map_trace {γ : Type} (step : σ → ε → σ) (out : σ → ε → List β)
    (f : β → γ) : ∀ (es : List ε) (s : σ),
      (trace step out s es).map f =
        trace step (fun s e => (out s e).map f) s es := by
  intro es
  induction es with
  | nil => intro s; rfl
  | cons e es ih => intro s; rw [trace_cons, trace_cons, List.map_append, ih]

theorem filterMap_trace {γ : Type} (step : σ → ε → σ) (out : σ → ε → List β)
    (f : β → Option γ) : ∀ (es : List ε) (s : σ),
      (trace step out s es).filterMap f =
        trace step (fun s e => (out s e).filterMap f) s es := by
  intro es
  induction es with
  | nil => intro s; rfl
  | cons e es ih =>
      intro s
      rw [trace_cons, trace_cons, List.filterMap_append, ih]

/-- A cell that is only written with what is put out holds the last of it. -/
theorem run_eq_getLast? {step : σ → ε → σ} {out : σ → ε → List β} {I : σ → Prop}
    {π : σ → Option V} {f : β → Option V} (hI : ∀ s e, I s → I (step s e))
    (h : ∀ s e, I s →
      π (step s e) = ((out s e).filterMap f).getLast?.or (π s)) :
    ∀ (es : List ε) {s : σ}, I s →
      π (run step s es) = ((trace step out s es).filterMap f).getLast?.or
        (π s) := by
  intro es
  induction es with
  | nil => intro s _; rfl
  | cons e es ih =>
      intro s hs
      have htail : π (run step s (e :: es)) =
          ((trace step out (step s e) es).filterMap f).getLast?.or
            (π (step s e)) := ih (hI s e hs)
      rw [htail, h s e hs, trace_cons, List.filterMap_append,
        List.getLast?_append, Option.or_assoc]

theorem trace_append (step : σ → ε → σ) (out : σ → ε → List β) :
    ∀ (es fs : List ε) (s : σ), trace step out s (es ++ fs) =
      trace step out s es ++ trace step out (run step s es) fs := by
  intro es
  induction es with
  | nil => intro fs s; rfl
  | cons e es ih =>
      intro fs s
      rw [List.cons_append, trace_cons, ih, trace_cons, List.append_assoc]
      rfl

/-- What also depends on the events and on what was put out so far. -/
theorem trace_invariant {step : σ → ε → σ} {out : σ → ε → List β}
    {I : List ε → List β → σ → Prop} {s : σ} (hs : I [] [] s)
    (hstep : ∀ past log s e, I past log s →
      I (past ++ [e]) (log ++ out s e) (step s e)) :
    ∀ es : List ε, I es (trace step out s es) (run step s es) := by
  intro es
  induction es using List.reverseRecOn with
  | nil => exact hs
  | append_singleton es e ih =>
      rw [run_append, trace_append, trace_cons, trace, List.append_nil]
      exact hstep es _ _ e ih

/-- When every step keeps the order of what is under way, what a run puts out
and has left is in the order of what was there and came in. -/
theorem trace_sublist {step : σ → ε → σ} {out : σ → ε → List β} {I : σ → Prop}
    {P : σ → ε → Prop} {π : σ → List V} {f : β → Option V} {g : ε → Option V}
    (hI : ∀ s e, I s → I (step s e))
    (h : ∀ s e, I s → P s e →
      ((out s e).filterMap f ++ π (step s e)).Sublist (π s ++ (g e).toList)) :
    ∀ (es : List ε) {s : σ}, I s → Along step P s es →
      ((trace step out s es).filterMap f ++ π (run step s es)).Sublist
        (π s ++ es.filterMap g) := by
  intro es
  induction es with
  | nil =>
      intro s _ _
      rw [List.filterMap_nil, List.append_nil]
      exact List.Sublist.refl _
  | cons e es ih =>
      intro s hs hP
      have hhead := h s e hs hP.1
      have htail := ih (hI s e hs) hP.2
      have hg : (e :: es).filterMap g = (g e).toList ++ es.filterMap g := by
        rw [List.filterMap_cons]
        cases g e <;> rfl
      rw [trace_cons, List.filterMap_append, List.append_assoc, hg]
      refine (htail.append_left _).trans ?_
      rw [← List.append_assoc, ← List.append_assoc]
      exact hhead.append_right _

/-- When every step moves what is under way along a queue, what a run puts out
and has left is what was there and came in. -/
theorem trace_flatMap_append {step : σ → ε → σ} {out : σ → ε → List β}
    {π : σ → List V} {f : β → List V} {g : ε → List V}
    (h : ∀ s e, (out s e).flatMap f ++ π (step s e) = π s ++ g e) :
    ∀ (es : List ε) (s : σ),
      (trace step out s es).flatMap f ++ π (run step s es) =
        π s ++ es.flatMap g := by
  intro es
  induction es with
  | nil => intro s; exact (List.append_nil (π s)).symm
  | cons e es ih =>
      intro s
      have htail := ih (step s e)
      rw [trace_cons, List.flatMap_append, List.append_assoc]
      show (out s e).flatMap f ++ ((trace step out (step s e) es).flatMap f ++
        π (run step (step s e) es)) = _
      rw [htail, ← List.append_assoc, h, List.append_assoc,
        List.flatMap_cons]

/-- When no step makes anything up, what a run puts out and has left was there
or came in, and nothing of it twice. -/
theorem trace_subperm {step : σ → ε → σ} {out source : σ → ε → List β}
    {π : σ → List β}
    (h : ∀ s e, (out s e ++ π (step s e)).Subperm (π s ++ source s e)) :
    ∀ (es : List ε) (s : σ),
      (trace step out s es ++ π (run step s es)).Subperm
        (π s ++ trace step source s es) := by
  intro es
  induction es with
  | nil =>
      intro s
      rw [trace, trace, List.append_nil]
      exact List.Subperm.refl _
  | cons e es ih =>
      intro s
      have htail := ih (step s e)
      have hhead := (List.subperm_append_right
        (trace step source (step s e) es)).mpr (h s e)
      rw [trace_cons, trace_cons, List.append_assoc]
      refine ((List.subperm_append_left (out s e)).mpr htail).trans ?_
      rw [List.append_assoc, List.append_assoc] at hhead
      exact hhead

/-- What is in a queue after a run was there before, or an event of the run put it
there, in the state it found. -/
theorem exists_of_mem_run {step : σ → ε → σ} {out : σ → ε → List β}
    {π : σ → List β}
    (h : ∀ s e b, b ∈ π (step s e) → b ∈ π s ∨ b ∈ out s e) :
    ∀ (es : List ε) {s : σ} {b : β}, b ∈ π (run step s es) →
      b ∈ π s ∨ ∃ pre e post, es = pre ++ e :: post ∧
        b ∈ out (run step s pre) e := by
  intro es
  induction es with
  | nil => intro s b hb; exact .inl hb
  | cons e es ih =>
      intro s b hb
      rcases ih hb with hstart | ⟨pre, e', post, rfl, hout⟩
      · refine (h s e b hstart).imp id fun hout => ?_
        exact ⟨[], e, es, rfl, hout⟩
      · exact .inr ⟨e :: pre, e', post, rfl, hout⟩

/-- When no step loses anything either, what a run puts out and has left is what
was there and came in. -/
theorem trace_perm {step : σ → ε → σ} {out : σ → ε → List β}
    {source : ε → List β} {π : σ → List β} {I : σ → Prop} {K : ε → Prop}
    (hI : ∀ s e, K e → I s → I (step s e))
    (h : ∀ s e, K e → I s → (out s e ++ π (step s e)).Perm (π s ++ source e)) :
    ∀ {es : List ε} {s : σ}, (∀ e ∈ es, K e) → I s →
      (trace step out s es ++ π (run step s es)).Perm
        (π s ++ es.flatMap source) := by
  intro es
  induction es with
  | nil =>
      intro s _ _
      rw [List.flatMap_nil, List.append_nil]
      exact .refl _
  | cons e es ih =>
      intro s hes hs
      have he := hes e List.mem_cons_self
      have hhead := (h s e he hs).append_right (es.flatMap source)
      have htail := ih (fun e' he' => hes e' (List.mem_cons_of_mem e he'))
        (hI s e he hs)
      rw [trace_cons, List.append_assoc, List.flatMap_cons,
        ← List.append_assoc (π s)]
      refine (htail.append_left _).trans ?_
      rwa [← List.append_assoc]

/-- Forward simulation: if `R` is kept when the second machine plays the events
`proj` has for it, then it holds after a run and the run of these. -/
theorem run_simulates {τ φ : Type} {step : σ → ε → σ} {step' : τ → φ → τ}
    {proj : σ → ε → List φ} {R : σ → τ → Prop}
    (h : ∀ s t e, R s t → R (step s e) (run step' t (proj s e))) :
    ∀ (es : List ε) {s : σ} {t : τ}, R s t →
      R (run step s es) (run step' t (trace step proj s es)) := by
  intro es
  induction es with
  | nil => intro s t hR; exact hR
  | cons e es ih =>
      intro s t hR
      rw [trace_cons, run_append]
      exact ih (h s t e hR)

/-- Then they put the same things out, if they do at each event. -/
theorem trace_simulates {τ φ : Type} {step : σ → ε → σ} {step' : τ → φ → τ}
    {proj : σ → ε → List φ} {R : σ → τ → Prop} {out : σ → ε → List β}
    {out' : τ → φ → List β}
    (h : ∀ s t e, R s t → R (step s e) (run step' t (proj s e)))
    (hout : ∀ s t e, R s t → out s e = trace step' out' t (proj s e)) :
    ∀ (es : List ε) {s : σ} {t : τ}, R s t →
      trace step out s es = trace step' out' t (trace step proj s es) := by
  intro es
  induction es with
  | nil => intro s t _; rfl
  | cons e es ih =>
      intro s t hR
      rw [trace_cons, trace_cons, trace_append, hout s t e hR,
        ih (h s t e hR)]

/-- `Purge step R s es fs`: the run `fs` is the run `es` from `s` with some
events left out, each of which met `R` in the state it was handled in. -/
inductive Purge (step : σ → ε → σ) (R : σ → ε → Prop) :
    σ → List ε → List ε → Prop
  | nil (s : σ) : Purge step R s [] []
  | keep {s : σ} (e : ε) {es fs : List ε} (h : Purge step R (step s e) es fs) :
      Purge step R s (e :: es) (e :: fs)
  | drop {s : σ} {e : ε} {es fs : List ε} (hR : R s e)
      (h : Purge step R (step s e) es fs) : Purge step R s (e :: es) fs

/-- Unwinding: events that leave the view alone and put nothing out can be
left out of a run. `I` is what is known of every state of the run they are
left out of. -/
theorem trace_purge {step : σ → ε → σ} {out : σ → ε → List β} {π : σ → V}
    {I : σ → Prop} {R : σ → ε → Prop} (hI : ∀ s e, I s → I (step s e))
    (hview : ∀ s s' e, π s = π s' → π (step s e) = π (step s' e))
    (hout : ∀ s s' e, π s = π s' → out s e = out s' e)
    (hdrop : ∀ s e, I s → R s e → π (step s e) = π s ∧ out s e = []) {s : σ}
    {es fs : List ε} (h : Purge step R s es fs) :
    ∀ {s' : σ}, I s → π s = π s' →
      trace step out s es = trace step out s' fs := by
  induction h with
  | nil s => intro s' _ _; rfl
  | @keep s e es fs _ ih =>
      intro s' hi hπ
      rw [trace_cons, trace_cons, hout s s' e hπ,
        ih (hI s e hi) (hview s s' e hπ)]
  | @drop s e es fs hR _ ih =>
      intro s' hi hπ
      obtain ⟨hv, ho⟩ := hdrop s e hi hR
      rw [trace_cons, ho, List.nil_append, ih (hI s e hi) (hv.trans hπ)]

theorem run_purge {step : σ → ε → σ} {π : σ → V} {I : σ → Prop}
    {R : σ → ε → Prop} (hI : ∀ s e, I s → I (step s e))
    (hview : ∀ s s' e, π s = π s' → π (step s e) = π (step s' e))
    (hdrop : ∀ s e, I s → R s e → π (step s e) = π s) {s : σ}
    {es fs : List ε} (h : Purge step R s es fs) :
    ∀ {s' : σ}, I s → π s = π s' → π (run step s es) = π (run step s' fs) := by
  induction h with
  | nil s => intro s' _ hπ; exact hπ
  | @keep s e es fs _ ih =>
      intro s' hi hπ
      exact ih (hI s e hi) (hview s s' e hπ)
  | @drop s e es fs hR _ ih =>
      intro s' hi hπ
      exact ih (hI s e hi) ((hdrop s e hi hR).trans hπ)

theorem Purge.filter (step : σ → ε → σ) (p : ε → Bool) :
    ∀ (es : List ε) (s : σ),
      Purge step (fun _ e => p e = false) s es (es.filter p) := by
  intro es
  induction es with
  | nil => intro s; exact .nil s
  | cons e es ih =>
      intro s
      cases hp : p e with
      | true =>
          rw [List.filter_cons_of_pos hp]
          exact .keep e (ih (step s e))
      | false =>
          rw [List.filter_cons_of_neg (by rw [hp]; decide)]
          exact .drop hp (ih (step s e))

end Machine
