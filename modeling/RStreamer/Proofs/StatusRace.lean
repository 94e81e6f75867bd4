import RStreamer.Client.Tasks

/-!
# Connected clients that are taken down

A task reads the status under the state's lock, releases the lock, and takes it
again in `connect`. `connect` swaps `Shutdown` into the state before it looks at
what was there, so a task that read `New` and reaches `connect` when the client
has been connected by another one takes the connection down, and then asks for
the client's deletion because it is `AlreadyConnected`.

It takes two tasks that have both read `New` before the first of them enters
`connect`. As long as no task reads `New` while another one is on its way from
there to `connect`, the one that is on its way finds the state as it read it
(`Unraced`), and a connected client stays connected. As soon as one does, the
rest of the run can be scheduled so that the client is lost.
-/

namespace RStreamer.Tasks

variable {S : Type}

/-- What one step may do to client `c`: a connected client stays connected, no
deletion is requested because the client is connected already, and a `connect`
that returns this error leaves the state as it found it. -/
def Stays (c : ClientRef) (s : Tasks S) (e : TaskEvent S) : Prop :=
  (s.state c = .connected → (step s e).state c = .connected) ∧
    .deleteSent c (.connect .alreadyConnected) ∉ reports s e ∧
    (.connectReturned c (.error .alreadyConnected) ∈ reports s e →
      (step s e).state c = s.state c)

def atConnect (phase : Phase) : Bool := phase = .connect

/-- Every handshake that ends in the run ends well. -/
def HandshakesSucceed (es : List (TaskEvent S)) : Prop :=
  ∀ i hs, .poll i (.accepted hs) ∈ es → ∃ tr, hs = .ok tr

/-- No task reads the status `New` of client `c` while another one, which has
read it before, still waits for the lock in `connect`. -/
def NoRace (c : ClientRef) (s : Tasks S) : TaskEvent S → Prop
  | .poll i .state =>
      ∀ t, s.tasks[i]? = some t → t.client = c → t.phase = .readStatus →
        s.stateFree c = true → s.state c = .new → s.count atConnect c = 0
  | _ => True

/-- A task about to report that its client is connected already. -/
def reportsConnected (phase : Phase) : Bool :=
  phase = .deleting (.connect .alreadyConnected)

def inHandshake (phase : Phase) : Bool := phase = .handshake

/-- The client as its tasks leave it when they do not race: one holder of the
state's lock, `Shutdown` during the handshake, at most one task on its way to
`connect`, and the state `New` as long as there is one. -/
structure Unraced (c : ClientRef) (s : Tasks S) : Prop where
  locked : s.count Phase.holdsState c ≤ 1
  shaking : 0 < s.count inHandshake c → s.state c = .shutdown
  one : s.count atConnect c ≤ 1
  waiting : 0 < s.count atConnect c → s.state c = .new
  unblamed : s.count reportsConnected c = 0

theorem unraced_init (c : ClientRef) : Unraced c (init : Tasks S) where
  locked := Nat.zero_le 1
  shaking h := absurd h (Nat.lt_irrefl 0)
  one := Nat.zero_le 1
  waiting h := absurd h (Nat.lt_irrefl 0)
  unblamed := rfl

theorem count_inHandshake_le (s : Tasks S) (c : ClientRef) :
    s.count inHandshake c ≤ s.count Phase.holdsState c := by
  refine List.countP_mono_left fun t _ ht => ?_
  simp only [Bool.and_eq_true, inHandshake, decide_eq_true_eq] at ht ⊢
  exact ⟨ht.1, by rw [ht.2]; rfl⟩

theorem count_eq_zero_of_free {s : Tasks S} {c : ClientRef}
    (h : s.stateFree c = true) : s.count Phase.holdsState c = 0 := by
  simpa [stateFree] using h

/-- The same counts and the same state. -/
theorem Unraced.of_same {c : ClientRef} {s s' : Tasks S} (h : Unraced c s)
    (hcount : ∀ p : Phase → Bool, p .push = false →
      s'.count p c = s.count p c)
    (hstate : s'.state c = s.state c) : Unraced c s' where
  locked := by rw [hcount _ rfl]; exact h.locked
  shaking := by rw [hcount _ rfl, hstate]; exact h.shaking
  one := by rw [hcount _ rfl]; exact h.one
  waiting := by rw [hcount _ rfl, hstate]; exact h.waiting
  unblamed := by rw [hcount _ rfl]; exact h.unblamed

/-- A resumed task of client `c`, as the counts see it. -/
theorem count_resumed_self {s : Tasks S} {i : Nat} {t : Task}
    (ht : s.tasks[i]? = some t) (res : Resumed S) (p : Phase → Bool) :
    (s.resumed i t res).count p t.client + (if p t.phase then 1 else 0) =
      s.count p t.client + (if p res.phase then 1 else 0) := by
  have h := count_resumed ht res p t.client
  simpa only [true_and] using h

theorem count_resumed_ne {s : Tasks S} {i : Nat} {t : Task}
    (ht : s.tasks[i]? = some t) (res : Resumed S) (p : Phase → Bool)
    {c : ClientRef} (hc : t.client ≠ c) :
    (s.resumed i t res).count p c = s.count p c := by
  have h := count_resumed ht res p c
  simpa only [hc, false_and, if_false, Nat.add_zero] using h

/-! ## One resumed task -/

theorem resumeConnect_new (c : ClientRef) (setup : SslSetup) :
    (resumeConnect (S := S) c .new setup).phase =
        .deleting (.connect .sslErrorStack) ∨
      (resumeConnect (S := S) c .new setup).phase = .handshake ∧
        (resumeConnect (S := S) c .new setup).state = .shutdown := by
  cases setup with
  | noSsl => exact .inl rfl
  | noStream => exact .inl rfl
  | ready => exact .inr ⟨rfl, rfl⟩

theorem resumeHandshake_cases (c : ClientRef) (state : ClientState)
    (hs : Handshake S) :
    (∃ e, e ≠ .alreadyConnected ∧
        (resumeHandshake c state hs).phase = .deleting (.connect e)) ∨
      (resumeHandshake c state hs).phase = .done := by
  cases hs with
  | timedOut => exact .inl ⟨.timedOut, by decide, rfl⟩
  | sslError => exact .inl ⟨.sslError, by decide, rfl⟩
  | srtpError => exact .inl ⟨.srtpParseError, by decide, rfl⟩
  | ok t => exact .inr rfl

section Resumed

variable {s : Tasks S} {i : Nat} {t : Task}

theorem count_pos_of_phase (ht : s.tasks[i]? = some t) {p : Phase → Bool}
    (hp : p t.phase = true) : 0 < s.count p t.client := by
  refine List.countP_pos_iff.mpr ⟨t, List.mem_of_getElem? ht, ?_⟩
  simpa using hp

/-- A task that enters `connect` finds the state as it read it. -/
theorem Unraced.new_of_connect (h : Unraced t.client s)
    (ht : s.tasks[i]? = some t) (hphase : t.phase = .connect) :
    s.state t.client = .new :=
  h.waiting (count_pos_of_phase ht (by simp [atConnect, hphase]))

/-- A task that is the only one to hold the lock or to wait for it moves on, and
not to where it would wait or complain. -/
theorem Unraced.of_moved {res : Resumed S} (h : Unraced t.client s)
    (ht : s.tasks[i]? = some t)
    (hheld : s.count Phase.holdsState t.client ≤
      if inHandshake t.phase then 1 else 0)
    (hwait : s.count atConnect t.client ≤ if atConnect t.phase then 1 else 0)
    (hnext : atConnect res.phase = false)
    (hblame : reportsConnected res.phase = false)
    (hdown : inHandshake res.phase = true → res.state = .shutdown) :
    Unraced t.client (s.resumed i t res) := by
  have hstate := state_resumed s i t res t.client
  rw [if_pos rfl] at hstate
  have hholds : (if inHandshake t.phase then 1 else 0) ≤
      if Phase.holdsState t.phase then 1 else 0 := by
    cases t.phase <;> simp [inHandshake, Phase.holdsState]
  have hshake := count_inHandshake_le s t.client
  have hone : (if Phase.holdsState res.phase then 1 else 0) ≤ 1 := by
    split <;> simp
  have c₁ := count_resumed_self ht res Phase.holdsState
  have c₂ := count_resumed_self ht res inHandshake
  have c₃ := count_resumed_self ht res atConnect
  have c₄ := count_resumed_self ht res reportsConnected
  simp only [hnext, Bool.false_eq_true, if_false, Nat.add_zero] at c₃
  simp only [hblame, h.unblamed, Bool.false_eq_true, if_false,
    Nat.add_zero] at c₄
  refine ⟨by omega, ?_, by omega, fun hpos => by omega, by omega⟩
  intro hpos
  rw [hstate]
  by_cases hres : inHandshake res.phase = true
  · exact hdown hres
  · rw [if_neg hres] at c₂
    omega

theorem Unraced.connect (h : Unraced t.client s) (ht : s.tasks[i]? = some t)
    (hphase : t.phase = .connect) (hfree : s.stateFree t.client = true)
    (setup : SslSetup) : Unraced t.client
      (s.resumed i t (resumeConnect t.client (s.state t.client) setup)) := by
  rw [h.new_of_connect ht hphase]
  have hheld := count_eq_zero_of_free hfree
  have hwait : s.count atConnect t.client ≤
      if atConnect t.phase then 1 else 0 := by
    simpa [hphase, atConnect] using h.one
  rcases resumeConnect_new (S := S) t.client setup with hp | ⟨hp, hs⟩
  · exact h.of_moved ht (by omega) hwait (by simp [hp, atConnect])
      (by simp [hp, reportsConnected]) (by simp [hp, inHandshake])
  · exact h.of_moved ht (by omega) hwait (by simp [hp, atConnect])
      (by simp [hp, reportsConnected]) fun _ => hs

theorem Unraced.handshake (h : Unraced t.client s) (ht : s.tasks[i]? = some t)
    (hphase : t.phase = .handshake) (hs : Handshake S) : Unraced t.client
      (s.resumed i t (resumeHandshake t.client (s.state t.client) hs)) := by
  have hdown : s.state t.client = .shutdown :=
    h.shaking (count_pos_of_phase ht (by simp [inHandshake, hphase]))
  have hnone : s.count atConnect t.client = 0 := by
    by_contra hne
    have := h.waiting (Nat.pos_of_ne_zero hne)
    rw [hdown] at this
    cases this
  have hheld : s.count Phase.holdsState t.client ≤
      if inHandshake t.phase then 1 else 0 := by
    simpa [hphase, inHandshake] using h.locked
  rcases resumeHandshake_cases t.client (s.state t.client) hs with
    ⟨e, hne, hp⟩ | hp
  · exact h.of_moved ht hheld (by omega) (by simp [hp, atConnect])
      (by simp [hp, reportsConnected, hne]) (by simp [hp, inHandshake])
  · exact h.of_moved ht hheld (by omega) (by simp [hp, atConnect])
      (by simp [hp, reportsConnected]) (by simp [hp, inHandshake])

/-- A read begins with the lock, and nothing else here takes it. -/
theorem Unraced.locked_quiet (h : Unraced t.client s)
    (ht : s.tasks[i]? = some t) {x : Ready S} {res : Resumed S}
    (hq : Quiet (s.surroundings i t.client) (s.state t.client) t.client t.phase
      x res) : (s.resumed i t res).count Phase.holdsState t.client ≤ 1 := by
  have hlocked := h.locked
  have hcount := count_resumed_self ht res Phase.holdsState
  by_cases hread : res.phase = .reading
  · have hfree := count_eq_zero_of_free (hq.to_reading hread)
    rw [hread, hfree] at hcount
    simp only [Phase.holdsState, if_true] at hcount
    omega
  · have hnone : Phase.holdsState res.phase = false := by
      have hshake := hq.no_handshake
      revert hread hshake
      cases res.phase <;> simp [Phase.holdsState]
    rw [hnone] at hcount
    simp only [Bool.false_eq_true, if_false] at hcount
    omega

theorem Unraced.quiet (h : Unraced t.client s) (ht : s.tasks[i]? = some t)
    {x : Ready S} {res : Resumed S}
    (hq : Quiet (s.surroundings i t.client) (s.state t.client) t.client t.phase
      x res)
    (hrace : res.phase = .connect → s.count atConnect t.client = 0) :
    Unraced t.client (s.resumed i t res) := by
  have hone := h.one
  have hblamed := h.unblamed
  have hstate := state_resumed s i t res t.client
  rw [if_pos rfl, hq.state_eq] at hstate
  have c₂ := count_resumed_self ht res inHandshake
  have c₃ := count_resumed_self ht res atConnect
  have c₄ := count_resumed_self ht res reportsConnected
  simp only [inHandshake, hq.outside.2, hq.no_handshake, decide_false,
    Bool.false_eq_true, if_false, Nat.add_zero] at c₂
  simp only [atConnect, hq.outside.1, decide_false, decide_eq_true_eq,
    Bool.false_eq_true, if_false, Nat.add_zero] at c₃
  simp only [reportsConnected, hq.to_deleting, decide_false,
    Bool.false_eq_true, if_false, Nat.add_zero] at c₄
  refine ⟨h.locked_quiet ht hq, ?_, ?_, ?_, ?_⟩
  · intro hpos
    rw [hstate]
    exact h.shaking (c₂ ▸ hpos)
  · by_cases hnext : res.phase = .connect
    · have hzero := hrace hnext
      rw [if_pos hnext] at c₃
      exact Nat.le_of_eq (c₃.trans (congrArg (· + 1) hzero))
    · rw [if_neg hnext] at c₃
      exact Nat.le_trans (Nat.le_of_eq c₃) hone
  · intro hpos
    rw [hstate]
    by_cases hnext : res.phase = .connect
    · exact (hq.to_connect hnext).2.2.1
    · rw [if_neg hnext, Nat.add_zero] at c₃
      exact h.waiting (c₃ ▸ hpos)
  · exact Nat.eq_zero_of_le_zero
      (Nat.le_trans (Nat.le_of_add_right_le (Nat.le_of_eq c₄))
        (Nat.le_of_eq hblamed))

end Resumed

/-! ## Whole runs -/

theorem Unraced.step {c : ClientRef} {s : Tasks S} {e : TaskEvent S}
    (h : Unraced c s) (hrace : NoRace c s e) : Unraced c (Tasks.step s e) := by
  rcases step_cases s e with ⟨addr, now, rfl⟩ |
    ⟨i, x, t, res, rfl, hpoll, hstep, -⟩ | ⟨htasks, hstate, -⟩
  · exact h.of_same (fun p hp => count_datagram s addr now hp c) rfl
  · obtain ⟨ht, hres⟩ := polled_eq_some.mp hpoll
    rw [hstep]
    by_cases hc : t.client = c
    · subst hc
      rcases resume_cases hres with ⟨hphase, hfree, setup, rfl⟩ |
        ⟨hphase, hs, rfl⟩ | hq
      · exact h.connect ht hphase hfree setup
      · exact h.handshake ht hphase hs
      · refine h.quiet ht hq fun hnext => ?_
        obtain ⟨rfl, hphase, hnew, hfree⟩ := hq.to_connect hnext
        exact hrace t ht rfl hphase hfree hnew
    · refine h.of_same (fun p _ => count_resumed_ne ht res p hc) ?_
      rw [state_resumed, if_neg (Ne.symm hc)]
  · exact h.of_same (fun p _ => count_of_tasks htasks p c)
      (congrFun hstate c)

/-- A step of a task of another client. -/
theorem stays_of_ne {c : ClientRef} {s : Tasks S} {i : Nat} {x : Ready S}
    {t : Task} {res : Resumed S} (hpoll : s.polled i x = some (t, res))
    (hstep : step s (.poll i x) = s.resumed i t res)
    (hrep : reports s (.poll i x) = res.reports) (hc : t.client ≠ c) :
    Stays c s (.poll i x) := by
  have habout := client_reports (polled_eq_some.mp hpoll).2
  have hstate : (step s (.poll i x)).state c = s.state c := by
    rw [hstep, state_resumed, if_neg (Ne.symm hc)]
  refine ⟨fun h => hstate.trans h, ?_, fun _ => hstate⟩
  rw [hrep]
  exact fun hmem => hc (habout _ hmem).symm

theorem Unraced.stays_self {s : Tasks S} {i : Nat} {x : Ready S} {t : Task}
    {res : Resumed S} (h : Unraced t.client s)
    (hpoll : s.polled i x = some (t, res))
    (hstep : Tasks.step s (.poll i x) = s.resumed i t res)
    (hrep : reports s (.poll i x) = res.reports) :
    Stays t.client s (.poll i x) := by
  obtain ⟨ht, hres⟩ := polled_eq_some.mp hpoll
  rw [Stays, hrep, hstep, state_resumed, if_pos rfl]
  rcases resume_cases hres with ⟨hphase, -, setup, rfl⟩ |
    ⟨hphase, hs, rfl⟩ | hq
  · have hnew := h.new_of_connect ht hphase
    rw [hnew]
    refine ⟨fun hcon => (by cases hcon), ?_, ?_⟩ <;>
      cases setup <;> simp [resumeConnect, enterConnect, takesStream]
  · have hdown := h.shaking
      (count_pos_of_phase ht (p := inHandshake) (by simp [inHandshake, hphase]))
    rw [hdown]
    refine ⟨fun hcon => (by cases hcon), ?_, ?_⟩ <;>
      cases hs <;> simp [resumeHandshake, Handshake.result]
  · refine ⟨fun hcon => hq.state_eq.trans hcon, ?_, fun _ => hq.state_eq⟩
    intro hmem
    obtain ⟨cause, hphase, heq⟩ := hq.reports_eq _ hmem
    cases heq
    have hpos := count_pos_of_phase ht (p := reportsConnected)
      (by simp [reportsConnected, hphase])
    rw [h.unblamed] at hpos
    exact Nat.lt_irrefl 0 hpos

theorem Unraced.stays {c : ClientRef} {s : Tasks S} (h : Unraced c s)
    (e : TaskEvent S) : Stays c s e := by
  rcases step_cases s e with ⟨addr, now, rfl⟩ |
    ⟨i, x, t, res, rfl, hpoll, hstep, hrep⟩ | ⟨-, hstate, hrep⟩
  · exact ⟨id, by simp [reports], fun _ => rfl⟩
  · by_cases hc : t.client = c
    · subst hc
      exact h.stays_self hpoll hstep hrep
    · exact stays_of_ne hpoll hstep hrep hc
  · rw [Stays, hstate, hrep]
    exact ⟨id, by simp, fun _ => rfl⟩

/-! ## The race, once it is on -/

theorem polled_connect {s : Tasks S} {i : Nat} {t : Task}
    (ht : s.tasks[i]? = some t) (hphase : t.phase = .connect)
    (hfree : s.count Phase.holdsState t.client = 0) (setup : SslSetup) :
    s.polled i (.entered setup) =
      some (t, resumeConnect t.client (s.state t.client) setup) := by
  refine polled_eq_some.mpr ⟨ht, ?_⟩
  rw [hphase]
  exact if_pos (by simpa [surroundings, stateFree] using hfree)

theorem polled_handshake {s : Tasks S} {i : Nat} {t : Task}
    (ht : s.tasks[i]? = some t) (hphase : t.phase = .handshake)
    (hs : Handshake S) : s.polled i (.accepted hs) =
      some (t, resumeHandshake t.client (s.state t.client) hs) := by
  refine polled_eq_some.mpr ⟨ht, ?_⟩
  rw [hphase]
  rfl

/-- A task on its way to `connect` takes a connected client down. -/
theorem not_stays_of_connected {s : Tasks S} {i : Nat} {t : Task}
    (ht : s.tasks[i]? = some t) (hphase : t.phase = .connect)
    (hfree : s.count Phase.holdsState t.client = 0)
    (hcon : s.state t.client = .connected) :
    ¬ Stays t.client s (.poll i (.entered .ready)) := by
  rintro ⟨hstays, -⟩
  have hnext := hstays hcon
  rw [step_poll (polled_connect ht hphase hfree .ready), state_resumed,
    if_pos rfl, hcon] at hnext
  cases hnext

/-- Two tasks on their way to `connect`: the first one connects the client, the
second one takes it down. -/
theorem lost_of_two {s : Tasks S} {i j : Nat} {t t' : Task}
    (ht : s.tasks[i]? = some t) (ht' : s.tasks[j]? = some t')
    (hclient : t'.client = t.client) (hij : j ≠ i)
    (hphase : t.phase = .connect) (hphase' : t'.phase = .connect)
    (hfree : s.count Phase.holdsState t.client = 0)
    (hnew : s.state t.client = .new) (tr : SrtpTransport S) :
    ¬ Machine.Along step (Stays t.client) s
      [.poll j (.entered .ready), .poll j (.accepted (.ok tr)),
        .poll i (.entered .ready)] := by
  rintro ⟨-, -, hlast, -⟩
  -- task `j` takes the stream and is in its handshake
  rw [← hclient] at hfree hnew
  have hpoll₁ := polled_connect ht' hphase' hfree .ready
  rw [hnew] at hpoll₁
  rw [step_poll hpoll₁] at hlast
  have hself₁ := getElem?_resumed_self ht' (resumeConnect t'.client .new .ready)
  have hother₁ := (getElem?_resumed_ne hij t'
    (resumeConnect t'.client .new .ready)).trans ht
  have hcount₁ := count_resumed_self ht'
    (resumeConnect t'.client .new .ready) Phase.holdsState
  generalize s.resumed j t' (resumeConnect t'.client .new .ready) = s₁
    at hlast hself₁ hother₁ hcount₁
  -- the handshake ends well
  have hpoll₂ := polled_handshake hself₁ rfl (.ok tr)
  rw [step_poll hpoll₂] at hlast
  have hother₂ := (getElem?_resumed_ne hij { t' with phase := .handshake }
    (resumeHandshake t'.client (s₁.state t'.client) (.ok tr))).trans hother₁
  have hcount₂ := count_resumed_self hself₁
    (resumeHandshake t'.client (s₁.state t'.client) (.ok tr)) Phase.holdsState
  have hstate₂ := state_resumed s₁ j { t' with phase := .handshake }
    (resumeHandshake t'.client (s₁.state t'.client) (.ok tr)) t'.client
  rw [if_pos rfl] at hstate₂
  have hfree₂ : (s₁.resumed j { t' with phase := .handshake }
      (resumeHandshake t'.client (s₁.state t'.client) (.ok tr))).count
        Phase.holdsState t'.client = 0 := by
    rw [hphase'] at hcount₁
    simp only [resumeConnect, resumeHandshake, enterConnect, Handshake.result,
      Phase.holdsState] at hcount₁ hcount₂ ⊢
    simp at hcount₁ hcount₂
    omega
  exact not_stays_of_connected hother₂ hphase (hclient ▸ hfree₂)
    (hclient ▸ hstate₂) hlast

theorem exists_of_not_noRace {c : ClientRef} {s : Tasks S} {e : TaskEvent S}
    (h : ¬ NoRace c s e) : ∃ i t, e = .poll i .state ∧
      s.tasks[i]? = some t ∧ t.client = c ∧ t.phase = .readStatus ∧
      s.stateFree c = true ∧ s.state c = .new ∧ s.count atConnect c ≠ 0 := by
  cases e with
  | poll i x =>
      cases x with
      | state =>
          simp only [NoRace, not_forall] at h
          obtain ⟨t, ht, hclient, hphase, hfree, hnew, hcount⟩ := h
          exact ⟨i, t, rfl, ht, hclient, hphase, hfree, hnew, hcount⟩
      | _ => exact absurd trivial h
  | _ => exact absurd trivial h

/-- A task that reads `New` while another one is on its way to `connect` can
cost the client its connection. -/
theorem lost_of_race {c : ClientRef} {s : Tasks S} {e : TaskEvent S}
    (h : ¬ NoRace c s e) (tr : SrtpTransport S) :
    ∃ fs, HandshakesSucceed fs ∧
      ¬ Machine.Along step (Stays c) s (e :: fs) := by
  obtain ⟨i, t, rfl, ht, rfl, hphase, hfree, hnew, hcount⟩ :=
    exists_of_not_noRace h
  obtain ⟨t', hmem, htask⟩ :=
    List.countP_pos_iff.mp (Nat.pos_of_ne_zero hcount)
  simp only [Bool.and_eq_true, decide_eq_true_eq, atConnect] at htask
  obtain ⟨j, ht'⟩ := List.getElem?_of_mem hmem
  have hij : i ≠ j := by
    rintro rfl
    rw [ht] at ht'
    cases ht'
    rw [hphase] at htask
    cases htask.2
  have hpoll : s.polled i .state =
      some (t, { phase := .connect, state := .new }) := by
    refine polled_eq_some.mpr ⟨ht, ?_⟩
    rw [hphase, hnew]
    exact if_pos hfree
  have hheld := count_eq_zero_of_free hfree
  have hcount' := count_resumed_self ht
    ({ phase := .connect, state := .new } : Resumed S) Phase.holdsState
  rw [hphase, hheld] at hcount'
  simp only [Phase.holdsState, Bool.false_eq_true, if_false,
    Nat.add_zero] at hcount'
  have hstate' := state_resumed s i t
    ({ phase := .connect, state := .new } : Resumed S) t.client
  rw [if_pos rfl] at hstate'
  refine ⟨[.poll j (.entered .ready), .poll j (.accepted (.ok tr)),
    .poll i (.entered .ready)], ?_, fun halong => ?_⟩
  · intro k hs hmem
    simp only [List.mem_cons, TaskEvent.poll.injEq, Ready.accepted.injEq,
      reduceCtorEq, and_false, List.not_mem_nil, or_false, false_or] at hmem
    exact ⟨tr, hmem.2⟩
  have htail := halong.2
  rw [step_poll hpoll] at htail
  exact lost_of_two (getElem?_resumed_self ht _)
    ((getElem?_resumed_ne hij t _).trans ht') htask.1 hij.symm rfl htask.2
    hcount' hstate' tr htail

/-- For every client: in every run in which no task reads its status `New`
while another one that has read it is still on its way to `connect`, a connected
client stays connected at every step; and every run in which one does has a
continuation, with its handshake succeeding, in which it does not. -/
theorem connected_stays_without_race (c : ClientRef) (tr : SrtpTransport S) :
    (∀ es : List (TaskEvent S), Machine.Along step (NoRace c) init es →
      Machine.Along step (Stays c) init es) ∧
    (∀ (es : List (TaskEvent S)) (e : TaskEvent S), ¬ NoRace c (after es) e →
      ∃ fs, HandshakesSucceed fs ∧
        ¬ Machine.Along step (Stays c) init (es ++ e :: fs)) := by
  refine ⟨fun es h => h.of_invariant (fun _ _ hs => hs.step)
    (fun _ e hs _ => hs.stays e) (unraced_init c), ?_⟩
  intro es e hrace
  obtain ⟨fs, hsucceed, hfs⟩ := lost_of_race hrace tr
  exact ⟨fs, hsucceed, fun h => hfs (Machine.along_append.mp h).2⟩

/-- A client that connects before its second datagram comes. -/
theorem orderly_client_stays :
    Machine.Along step (Stays 0) (init : Tasks Unit)
      [.datagram (.host 1) 0, .poll 0 .writer, .poll 0 .state,
        .poll 0 (.entered .ready), .poll 0 (.accepted (.ok ⟨(), ()⟩)),
        .datagram (.host 1) 0, .poll 1 .writer, .poll 1 .state] :=
  (connected_stays_without_race 0 ⟨(), ()⟩).1 _
    ⟨trivial, trivial, fun _ _ _ _ _ _ => by decide +kernel, trivial, trivial,
      trivial, trivial, fun _ _ _ _ _ _ => by decide +kernel, trivial⟩

/-- Two datagrams of a new client. Both tasks have read the status when the
first one enters `connect`. -/
theorem second_connect_takes_client_down :
    ¬ ∀ (c : ClientRef) (es : List (TaskEvent Unit)), HandshakesSucceed es →
      Machine.Along step (Stays c) init es := by
  intro h
  have hrun := h 0 [.datagram (.host 1) 0, .datagram (.host 1) 0,
    .poll 0 .writer, .poll 1 .writer, .poll 0 .state, .poll 1 .state,
    .poll 0 (.entered .ready), .poll 0 (.accepted (.ok ⟨(), ()⟩)),
    .poll 1 (.entered .ready)] (by simp [HandshakesSucceed]; exact ⟨⟨(), ()⟩⟩)
  have hlast := hrun.2.2.2.2.2.2.2.2.1.1 (by decide +kernel)
  revert hlast
  decide +kernel

end RStreamer.Tasks
