import RStreamer.Proofs.Isolation
import RStreamer.Proofs.ThreadProtocols

/-!
# The threads of the server get on

`ClientActor` and the threads of `RtcActor` wait for each other's locks. Two of
the locks are taken in both orders: `ClientActor` asks for a client's receivers
while it reads the storage, and `RtcActor` asks for the storage while it reads a
client's receivers. What keeps this from being a deadlock is that `RtcActor`
only ever reads the storage, so it is held up there by a writer alone, and the
only writer is `ClientActor`, which holds nothing else when it writes.

`level` puts the requests into an order in which every wait goes up. Locks have
no such order, requests have one: the storage comes first for `ClientActor` and
last for `RtcActor`. So the threads always get done, unless `ClientActor` is sent
a takeover, and then it waits for itself, whatever the others do.

The same protocols say what the interleaving can change. The numbers written into
packets are those the counters give one packet after another, and routing is what
`ClientActor` would have made of it alone.
-/

namespace RStreamer

open Lock Lock.Prog Registry

open ClientLock (rd wr)

variable {S : Type}

/-- Where a request of `ClientActor` (thread 0) or of `RtcActor` stands among
the waits. -/
def level : Nat → Guard ClientLock → Nat
  | 0, ⟨.receivers _, _⟩ => 1
  | 0, ⟨.senderAddr _, _⟩ => 3
  | 0, ⟨.media _, _⟩ => 3
  | 0, ⟨.clientStorage, .write⟩ => 5
  | 0, _ => 0
  | _ + 1, ⟨.senderAddr _, _⟩ => 2
  | _ + 1, ⟨.media _, _⟩ => 2
  | _ + 1, ⟨.jitterStats _, _⟩ => 4
  | _ + 1, ⟨.clientStorage, _⟩ => 4
  | _ + 1, ⟨.srtp _, _⟩ => 4
  | _ + 1, _ => 0

theorem level_lt (i : Nat) (g : Guard ClientLock) : level i g < 6 := by
  unfold level
  split <;> decide

/-- What `ClientActor` may hold while it waits, and at which level it then
waits. -/
theorem ClientActor.Requests.waits {held : List (Guard ClientLock)}
    {g k : Guard ClientLock} (h : ClientActor.Requests held g)
    (hk : k ∈ held) :
    k = rd .clientStorage ∨
      (∃ c, k = wr (.receivers c) ∨ k = wr (.rtpRuntimeStorage c)) ∧
        level 0 g = 3 := by
  cases h with
  | storage | lookup | prune c | connected c => cases hk
  | link s | runtimes c => exact .inl (List.mem_singleton.mp hk)
  | senderAddr s c =>
      rcases List.mem_cons.mp hk with rfl | hk
      · exact .inr ⟨⟨s, .inl rfl⟩, rfl⟩
      · exact .inl (List.mem_singleton.mp hk)
  | media c =>
      rcases List.mem_cons.mp hk with rfl | hk
      · exact .inr ⟨⟨c, .inr rfl⟩, rfl⟩
      · exact .inl (List.mem_singleton.mp hk)

/-- What a thread of `RtcActor` may hold while it waits, and at which level. -/
theorem RtcActor.Requests.waits (j : Nat) {held : List (Guard ClientLock)}
    {g k : Guard ClientLock} (h : RtcActor.Requests held g) (hk : k ∈ held) :
    (∃ c, k = rd (.receivers c) ∧ 2 ≤ level (j + 1) g) ∨
      (∃ c, k = rd (.senderAddr c) ∨ k = wr (.rtpRuntimeStorage c)) ∧
        level (j + 1) g = 4 := by
  cases h with
  | lookup | codec c | decrypt c | counters c | receivers c => cases hk
  | stats c => exact .inr ⟨⟨c, .inr (List.mem_singleton.mp hk)⟩, rfl⟩
  | encrypt c d =>
      exact .inl ⟨c, List.mem_singleton.mp hk, (by decide : 2 ≤ 4)⟩
  | payload c d =>
      exact .inl ⟨c, List.mem_singleton.mp hk, (by decide : 2 ≤ 2)⟩
  | senderAddr c =>
      exact .inl ⟨c, List.mem_singleton.mp hk, (by decide : 2 ≤ 2)⟩
  | sender c =>
      rcases List.mem_cons.mp hk with rfl | hk
      · exact .inr ⟨⟨c, .inl rfl⟩, rfl⟩
      · exact .inl ⟨c, List.mem_singleton.mp hk, (by decide : 2 ≤ 4)⟩
  | feedback c d =>
      rcases List.mem_cons.mp hk with rfl | hk
      · exact .inr ⟨⟨c, .inl rfl⟩, rfl⟩
      · exact .inl ⟨c, List.mem_singleton.mp hk, (by decide : 2 ≤ 4)⟩

/-- What `RtcActor` writes is its own: sessions, counters and statistics. -/
theorem RtcActor.Requests.writes {held : List (Guard ClientLock)}
    {l : ClientLock} (h : RtcActor.Requests held ⟨l, .write⟩) :
    ∃ c, l = .srtp c ∨ l = .rtpRuntimeStorage c ∨ l = .jitterStats c := by
  cases h with
  | decrypt c => exact ⟨c, .inl rfl⟩
  | counters c => exact ⟨c, .inr (.inl rfl)⟩
  | stats c => exact ⟨c, .inr (.inr rfl)⟩
  | encrypt c d => exact ⟨d, .inl rfl⟩
  | feedback c d => exact ⟨d, .inl rfl⟩

/-- A request that conflicts with a read guard is for writing. -/
theorem write_of_conflicts {g : Guard ClientLock} {l : ClientLock}
    (h : g.Conflicts (rd l)) : g = wr l := by
  obtain ⟨l', m⟩ := g
  obtain ⟨rfl, hm | hm⟩ := h
  · obtain rfl : m = .write := hm
    rfl
  · cases hm

/-- No request but that of a takeover meets a guard of its own thread. -/
theorem own_request {i : Nat} {held : List (Guard ClientLock)}
    {g k : Guard ClientLock} (h : (protocols (S := S) i).may held g)
    (hk : k ∈ held) : ¬ g.Conflicts k := by
  have hlocks : ∀ x ∈ held, g.lock ≠ x.lock := by
    cases i with
    | zero => cases h <;> simp [rd, wr]
    | succ i => cases h <;> simp [rd, wr]
  exact fun hc => hlocks k hk hc.1

/-- A request that waits for `ClientActor`. -/
theorem level_lt_client {i : Nat} {held held' : List (Guard ClientLock)}
    {g g' k : Guard ClientLock} (hi : RtcActor.Requests held g)
    (h : ClientActor.Requests held' g') (hk : k ∈ held')
    (hc : g.Conflicts k) : level (i + 1) g < level 0 g' := by
  obtain ⟨l, m⟩ := g
  rcases h.waits hk with rfl | ⟨⟨c, rfl | rfl⟩, hlevel⟩
  · -- nobody but `ClientActor` writes to the storage
    have hw := write_of_conflicts hc
    cases hw
    obtain ⟨d, hl | hl | hl⟩ := hi.writes <;> cases hl
  · obtain rfl : l = .receivers c := hc.1
    rw [hlevel]
    exact (by decide : 0 < 3)
  · obtain rfl : l = .rtpRuntimeStorage c := hc.1
    rw [hlevel]
    exact (by decide : 0 < 3)

/-- A request that waits for a thread of `RtcActor`. -/
theorem level_lt_rtc {i j : Nat} {held held' : List (Guard ClientLock)}
    {g g' k : Guard ClientLock} (hi : (protocols (S := S) i).may held g)
    (h : RtcActor.Requests held' g') (hk : k ∈ held')
    (hc : g.Conflicts k) : level i g < level (j + 1) g' := by
  rcases h.waits j hk with ⟨c, rfl, hlevel⟩ | ⟨⟨c, rfl | rfl⟩, hlevel⟩
  · obtain rfl := write_of_conflicts hc
    cases i with
    | zero => exact Nat.lt_of_lt_of_le (by decide : 1 < 2) hlevel
    | succ i => obtain ⟨d, hl | hl | hl⟩ := hi.writes <;> cases hl
  · obtain rfl := write_of_conflicts hc
    rw [hlevel]
    cases i with
    | zero => exact (by decide : 3 < 4)
    | succ i => obtain ⟨d, hl | hl | hl⟩ := hi.writes <;> cases hl
  · obtain ⟨l, m⟩ := g
    obtain rfl : l = .rtpRuntimeStorage c := hc.1
    rw [hlevel]
    cases i with
    | zero => exact (by decide : 0 < 4)
    | succ i => exact (by decide : 0 < 4)

theorem levelled_protocols :
    Pool.Levelled (protocols (S := S)) level where
  bounded := ⟨6, level_lt⟩
  own h k hk := own_request h hk
  holder {i j held held' g g'} hij hi hj k hk hc := by
    cases j with
    | succ j => exact level_lt_rtc hi hj hk hc
    | zero =>
        cases i with
        | zero => exact absurd rfl hij
        | succ i => exact level_lt_client hi hj hk hc
  writer {i j held held' l} hij hi hj := by
    cases j with
    | succ j =>
        obtain ⟨c, rfl | rfl | rfl⟩ := RtcActor.Requests.writes hj
        · cases i with
          | zero => cases hi
          | succ i => cases hi
        · cases i with
          | zero => cases hi
          | succ i => cases hi
        · cases i with
          | zero => cases hi
          | succ i => cases hi
    | zero =>
        cases i with
        | zero => exact absurd rfl hij
        | succ i =>
            cases hi with
            | lookup | sender c => exact (by decide : 4 < 5)
            | codec c | payload c d => exact (by decide : 2 < 3)
            | receivers c => exact (by decide : 0 < 1)
            | senderAddr c => exact (by decide : 2 < 3)

/-! ## `ClientActor` by itself -/

namespace ClientActor

variable {r₀ : Registry S} {ms₀ : List (Message S)}

/-- A handler that returns is no takeover, has let go of its locks, and has done
what it does on plain memory. -/
theorem of_exec_handler {s s' : Shared S} {m : Message S}
    {held : List (Guard ClientLock)} (hI : Serial r₀ ms₀ s) (hmem : m ∈ ms₀)
    (h : ((handler m).zoom Shared.registry Shared.onRegistry).exec [] s =
      some ((), held, s')) :
    ¬ IsTakeover s.registry m ∧ held = [] ∧ Serial r₀ ms₀ s' ∧
      s'.registry = handle s.registry m := by
  have hexec : (((handler m).zoom Shared.registry Shared.onRegistry).exec []
      s).map (fun out => (out.1, out.2.1, out.2.2.registry)) =
        (handler m).exec [] s.registry :=
    exec_zoom (fun _ _ => rfl) (handler m) [] s
  rw [h, Option.map_some] at hexec
  have hreturns : handle? s.registry m = some s'.registry := by
    rw [handle?, ← hexec]
    rfl
  have hnot : ¬ IsTakeover s.registry m :=
    (handle?_isSome s.registry m).mp (by rw [hreturns]; rfl)
  obtain ⟨hinv, hheld, -⟩ :=
    (obeys_handler hI (.refl _) hmem hnot).of_exec hI h
  exact ⟨hnot, hheld, hinv, handle_of_handle? hreturns⟩

/-- If the thread of `ClientActor` gets to its end alone, no message of it was a
takeover. -/
theorem along_of_exec_thread : ∀ {ms : List (Message S)} {s : Shared S},
    (∀ m ∈ ms, m ∈ ms₀) → Serial r₀ ms₀ s →
    ((thread ms).exec [] s).isSome = true →
    Machine.Along handle (fun r m => ¬ IsTakeover r m) s.registry ms := by
  intro ms
  induction ms with
  | nil => intro s _ _ _; trivial
  | cons m ms ih =>
      intro s hmem hI h
      rw [thread, forEach, exec_bind] at h
      cases hm : ((handler m).zoom Shared.registry Shared.onRegistry).exec [] s with
      | none => rw [hm] at h; cases h
      | some out =>
          obtain ⟨⟨⟩, held, s'⟩ := out
          obtain ⟨hnot, rfl, hI', hs'⟩ :=
            of_exec_handler hI (hmem m (List.mem_cons_self ..)) hm
          rw [hm, Option.bind_some] at h
          have htail := ih (fun m' hm' => hmem m' (List.mem_cons_of_mem m hm'))
            hI' h
          rw [hs'] at htail
          exact ⟨hnot, htail⟩

end ClientActor

/-! ## All threads -/

theorem serial_start {r : Registry S} (hw : r.WF) (hm : r.Metered)
    (ms : List (ClientActor.Message S)) :
    Serial r ms ⟨r, [], [], []⟩ where
  stored_lt := hw.stored_lt
  logged_lt w hw := by cases hw
  replays c f rt hrt := ⟨rt, .inl hrt, .nil rt⟩
  fresh c f hnone := ⟨hnone, rfl⟩
  unmade hc f := hm.fresh hc f

/-- What the thread of `ClientActor` is known to leave. -/
def RoutingLeft (r : Registry S) : Nat → Shared S → Prop
  | 0, s => r.SameRouting s.registry
  | _ + 1, _ => True

theorem sound_threads (lib : SrtpLib S) {r : Registry S} (hw : r.WF)
    (hm : r.Metered) {ms : List (ClientActor.Message S)}
    (h : Machine.Along ClientActor.handle
      (fun r m => ¬ ClientActor.IsTakeover r m) r ms)
    (jobs : List (List MediaJob)) :
    (threads lib r ms jobs).Sound protocols (Serial r ms)
      (RoutingLeft (Machine.run ClientActor.handle r ms)) := by
  have hI := serial_start hw hm ms
  refine Pool.sound_start hI fun i p hp => ?_
  cases i with
  | zero =>
      cases hp
      exact ClientActor.obeys_thread (fun _ hm => hm) hI (.refl r) h
  | succ i =>
      rw [List.getElem?_cons_succ, List.getElem?_map,
        Option.map_eq_some_iff] at hp
      obtain ⟨js, -, rfl⟩ := hp
      exact RtcActor.obeys_thread lib js hI

/-- From any reachable state, with any messages for `ClientActor` and any packets
on any number of threads of `RtcActor`: all threads get done, however they are
scheduled and whether or not waiting writers go before readers, exactly if
`ClientActor` is sent no takeover. -/
theorem threads_complete_iff_no_takeover (lib : SrtpLib S)
    (es : List (Event S)) (ms : List (ClientActor.Message S))
    (jobs : List (List MediaJob)) :
    (threads lib (System.after lib es).registry ms jobs).Completes ↔
      Machine.Along ClientActor.handle
        (fun r m => ¬ ClientActor.IsTakeover r m)
        (System.after lib es).registry ms := by
  obtain ⟨hw, hm⟩ := System.sound_after lib es
  refine ⟨fun h => ?_, fun h => ?_⟩
  · have hothers : ∀ u ∈ (jobs.map (RtcActor.thread lib)).map
        (fun p => (⟨[], p⟩ : Thread ClientLock (Shared S))), u.held = [] := by
      intro u hu
      obtain ⟨p, -, rfl⟩ := List.mem_map.mp hu
      rfl
    exact ClientActor.along_of_exec_thread (fun _ hm => hm)
      (serial_start hw hm ms) (Pool.Completes.exec_isSome h hothers)
  · exact (sound_threads lib hw hm h jobs).completes compatible_protocols
      levelled_protocols

/-- At whatever point of whatever schedule `ClientActor` is done with its
messages, routing is what it would be without any thread of `RtcActor`. -/
theorem routing_of_any_schedule (lib : SrtpLib S) (es : List (Event S))
    (ms : List (ClientActor.Message S)) (jobs : List (List MediaJob))
    (h : Machine.Along ClientActor.handle
      (fun r m => ¬ ClientActor.IsTakeover r m)
      (System.after lib es).registry ms) (schedule : List Nat)
    (t : Thread ClientLock (Shared S))
    (hat : ((threads lib (System.after lib es).registry ms jobs).run
      schedule).threads[0]? = some t) (hdone : t.Done) :
    Registry.SameRouting
      (Machine.run ClientActor.handle (System.after lib es).registry ms)
      ((threads lib (System.after lib es).registry ms jobs).run
        schedule).mem.registry := by
  obtain ⟨hw, hm⟩ := System.sound_after lib es
  have hsound := (sound_threads lib hw hm h jobs).run compatible_protocols
    schedule
  exact (hsound.post_of_done hat hdone).2

/-- A client registered while a packet from its address is on the way: the
packet is dropped or not, and the client is registered. -/
theorem routing_of_first_packet :
    Registry.SameRouting
      (Machine.run ClientActor.handle (Registry.init : Registry Unit)
        [.dtls (.host 1) 0])
      ((threads SrtpLib.null Registry.init [.dtls (.host 1) 0]
        [[⟨videoPacket 7, .host 1, 0, []⟩]]).run
          [1, 0, 0, 1, 1, 0, 0, 0]).mem.registry :=
  routing_of_any_schedule SrtpLib.null [] [.dtls (.host 1) 0] _ ⟨id, trivial⟩ _
    ⟨[], .ret ()⟩ rfl rfl

/-! ## The numbers in the packets -/

def Written.arrival (w : Written) : RtpHeader × Instant := (w.header, w.now)

def Written.numbers (w : Written) : UInt16 × UInt32 :=
  (w.sequence, w.timestamp)

/-- What `Replays` says about a log: it is the stream of its packets played
through `rewriteAll`. -/
theorem Replays.rewriteAll {rt rt' : ClientRtpRuntime} {log : List Written}
    (h : Replays rt log rt') (packets : List (RtpHeader × Instant)) :
    rt.rewriteAll (log.map Written.arrival ++ packets) =
      log.map Written.numbers ++ rt'.rewriteAll packets := by
  induction h generalizing packets with
  | nil => rfl
  | @concat rt' log w _ hseq hts ih =>
      rw [List.map_append, List.map_append, List.append_assoc, ih]
      rw [List.append_assoc]
      refine congrArg (_ ++ ·) ?_
      show (_, _) :: _ = Written.numbers w :: _
      rw [Written.numbers, hseq, hts]
      rfl

/-- The numbers `s` has of `c` at `f` are those one set of counters gives to
their packets one after another, and this set is now what `c` has at `f`. -/
def InTurn (r : Registry S) (ms : List (ClientActor.Message S))
    (s : Shared S) (c : ClientRef) (f : UInt32) : Prop :=
  match s.registry.counters c f with
  | none => numbersOf c f s.written = []
  | some rt => ∃ rt₀, StartsFrom r ms c f rt₀ ∧
      Replays rt₀ (numbersOf c f s.written) rt ∧
      (numbersOf c f s.written).map Written.numbers =
        rt₀.rewriteAll ((numbersOf c f s.written).map Written.arrival)

/-- At every point of every schedule, for every client and every frequency: the
numbers given out so far are those one set of counters gives to these packets,
one after another and none twice. The counters are the ones the run began with,
or, if there were none, those a codec table of the run made. -/
theorem numbers_of_any_schedule (lib : SrtpLib S) (es : List (Event S))
    (ms : List (ClientActor.Message S)) (jobs : List (List MediaJob))
    (h : Machine.Along ClientActor.handle
      (fun r m => ¬ ClientActor.IsTakeover r m)
      (System.after lib es).registry ms) (schedule : List Nat)
    (c : ClientRef) (f : UInt32) :
    InTurn (System.after lib es).registry ms
      ((threads lib (System.after lib es).registry ms jobs).run schedule).mem
      c f := by
  obtain ⟨hw, hm⟩ := System.sound_after lib es
  have hI := ((sound_threads lib hw hm h jobs).run compatible_protocols
    schedule).inv
  rw [InTurn]
  split
  · next hrt => exact (hI.fresh c f hrt).2
  · next rt hrt =>
      obtain ⟨rt₀, hstart, hreplays⟩ := hI.replays c f rt hrt
      have hall := hreplays.rewriteAll []
      rw [List.append_nil, ClientRtpRuntime.rewriteAll, List.append_nil] at hall
      exact ⟨rt₀, hstart, hreplays, hall.symm⟩

/-- Two threads of `RtcActor` with a packet each of the same stream. -/
def twoPackets : Pool ClientLock (Shared Unit) :=
  threads SrtpLib.null (System.after SrtpLib.null System.oneClient).registry
    [.groupId 1 (.host 1) true]
    [[⟨videoPacket 7, .host 1, 0, []⟩], [⟨videoPacket 9, .host 1, 0, []⟩]]

/-- They take turns with each other and with `ClientActor`, and both packets get
their numbers. -/
theorem numbers_of_two_threads :
    ∃ schedule : List Nat,
      (numbersOf 0 90000 (twoPackets.run schedule).mem.written).length = 2 ∧
      InTurn (System.after SrtpLib.null System.oneClient).registry
        [.groupId 1 (.host 1) true] (twoPackets.run schedule).mem 0 90000 := by
  have hnot : Machine.Along ClientActor.handle
      (fun r m => ¬ ClientActor.IsTakeover r m)
      (System.after SrtpLib.null System.oneClient).registry
      [.groupId 1 (.host 1) true] := by
    refine ⟨?_, trivial⟩
    rintro ⟨-, last, hlast, -⟩
    cases hlast
  have h : ∀ schedule, InTurn
      (System.after SrtpLib.null System.oneClient).registry
      [.groupId 1 (.host 1) true] (twoPackets.run schedule).mem 0 90000 :=
    fun schedule => numbers_of_any_schedule SrtpLib.null System.oneClient _ _
      hnot schedule 0 90000
  have hboth : ∃ schedule : List Nat, (numbersOf 0 90000
      (twoPackets.run schedule).mem.written).length = 2 :=
    ⟨(List.replicate 40 [1, 0, 2]).flatten, by decide +kernel⟩
  obtain ⟨schedule, hlength⟩ := hboth
  exact ⟨schedule, hlength, h schedule⟩

end RStreamer
