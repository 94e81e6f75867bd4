import RStreamer.Proofs.Answers
import RStreamer.Proofs.ReceivePath

/-!
# What takes the server down

Without `UdpRecv` the server takes nothing in, and a handler of `ClientActor` that
does not return keeps the main thread from the other actors on it. There is one way
to each: a datagram without payload, whose first byte the receive path reads, and an
announcement that takes a group over. Nothing else the actors of the main thread
handle does it, in whatever state and order (`running_iff_harmless`).

The first is a matter of one datagram from anywhere. The second takes two
addresses that have both announced themselves in the group
(`hung_by_two_announced`).
-/

namespace RStreamer.Server

variable {S M : Type}

/-- An event that neither makes a handler panic nor keeps one from returning. -/
def Harmless (s : Server S) : ServerEvent S → Prop
  | .datagram buf _ => buf ≠ []
  | .client i _ _ => ∀ g addr isSender,
      s.toClients[i]? = some (.groupId g addr isSender) →
        ¬ ClientActor.TakesOver s.clients.registry g addr isSender
  | _ => True

theorem health_handleRequest (s : Server S) (req : WebRtcRequest) :
    (s.handleRequest req).health = s.health := by
  cases req <;> rfl

/-- A handler of `ClientActor` hangs if it takes a group over. -/
theorem health_handleClient (s : Server S) (now : Instant)
    (draw : UInt32 → RuntimeDraw) (m : ClientMessage) :
    ((∀ g addr isSender, m = .groupId g addr isSender →
        ¬ ClientActor.TakesOver s.clients.registry g addr isSender) ∧
      (s.handleClient now draw m).health = s.health) ∨
    (∃ g addr isSender, m = .groupId g addr isSender ∧
      ClientActor.TakesOver s.clients.registry g addr isSender ∧
      (s.handleClient now draw m).health = .hung) := by
  cases m with
  | dtls message addr => exact .inl ⟨nofun, rfl⟩
  | mediaAddr addr media => exact .inl ⟨nofun, rfl⟩
  | outgoing message addr => exact .inl ⟨nofun, rfl⟩
  | groupId g addr isSender =>
      have hiff := ClientActor.handle?_groupId s.clients.registry g addr isSender
      rw [handleClient]
      cases hret : ClientActor.handle? s.clients.registry
          (.groupId g addr isSender) with
      | none =>
          rw [hret] at hiff
          have htakes : ClientActor.TakesOver s.clients.registry g addr
              isSender := by
            by_contra hnot
            cases hiff.mpr hnot
          exact .inr ⟨g, addr, isSender, rfl, htakes, rfl⟩
      | some r =>
          rw [hret] at hiff
          refine .inl ⟨?_, rfl⟩
          rintro g addr isSender ⟨⟩
          exact hiff.mp rfl

/-- `UdpSend` never panics. -/
theorem datagramOf_ok (host : Host S M) (buf : Vector UInt8 1200)
    (m : WebRtcRequest) : ∃ d, datagramOf host buf m = .ok d := by
  cases m with
  | stun req addr =>
      rw [datagramOf]
      rcases Stun.sendStunResponse_cases host.stun req.transactionId addr
        (Stun.utf8 host.data.password) buf with hnone | ⟨mac, hsome⟩
      · rw [hnone]
        exact ⟨_, rfl⟩
      · rw [hsome]
        exact ⟨_, rfl⟩
  | dtls message addr => exact ⟨_, rfl⟩
  | rtc message addr => exact ⟨_, rfl⟩
  | unknown => exact ⟨_, rfl⟩

theorem health_datagram (host : Host S M) (s : Server S) (buf : DataPacket)
    (addr : SocketAddr) : (s.act host (.datagram buf addr)).health =
      if buf = [] then .crashed else s.health := by
  rw [act]
  cases buf with
  | nil => rfl
  | cons b rest =>
      obtain ⟨req, hreq⟩ := fromDatagram_cons b rest addr
      rw [hreq, if_neg (List.cons_ne_nil b rest)]
      exact health_handleRequest s req

theorem health_send (host : Host S M) (s : Server S) (i : Nat)
    (buf : Vector UInt8 1200) :
    (s.act host (.send i buf)).health = s.health := by
  rw [act, deliver]
  split
  · rfl
  · next m _ =>
      obtain ⟨d, hd⟩ := datagramOf_ok host buf m
      rw [hd]

/-- What an event does to the handlers: nothing, unless it is an empty datagram or
a takeover. -/
theorem health_act (host : Host S M) (s : Server S) (e : ServerEvent S) :
    (s.Harmless e ∧ (s.act host e).health = s.health) ∨
    (¬ s.Harmless e ∧ (s.act host e).health = .crashed) ∨
    (∃ g addr isSender, .groupId g addr isSender ∈ s.toClients ∧
      ClientActor.TakesOver s.clients.registry g addr isSender ∧
      ¬ s.Harmless e ∧ (s.act host e).health = .hung) := by
  cases e with
  | datagram buf addr =>
      rw [health_datagram]
      split
      · next hnil => exact .inr (.inl ⟨fun h => h hnil, rfl⟩)
      · next hcons => exact .inl ⟨hcons, rfl⟩
  | client i now draw =>
      rw [act, deliver, Harmless]
      cases hbox : s.toClients[i]? with
      | none =>
          refine .inl ⟨?_, rfl⟩
          intro g addr isSender hnone
          cases hnone
      | some m =>
          rcases health_handleClient
            { s with toClients := s.toClients.eraseIdx i } now draw m with
            ⟨hnot, heq⟩ | ⟨g, addr, isSender, rfl, htakes, heq⟩
          · refine .inl ⟨?_, heq⟩
            rintro g addr isSender ⟨⟩
            exact hnot g addr isSender rfl
          · exact .inr (.inr ⟨g, addr, isSender, List.mem_of_getElem? hbox,
              htakes, fun h => h g addr isSender rfl htakes, heq⟩)
  | send i buf => exact .inl ⟨trivial, health_send host s i buf⟩
  | recv i =>
      obtain ⟨_, _, heq⟩ := act_recv host s i
      exact .inl ⟨trivial, by rw [heq]⟩
  | delay i now =>
      obtain ⟨_, _, heq⟩ := act_delay host s i now
      exact .inl ⟨trivial, by rw [heq]⟩
  | rtc i now sched =>
      refine .inl ⟨trivial, ?_⟩
      rw [act, deliver]
      split <;> rfl
  | sslRead c =>
      obtain ⟨_, heq⟩ := act_sslRead host s c
      exact .inl ⟨trivial, by rw [heq]⟩
  | sslWrite c message =>
      obtain ⟨_, heq⟩ := act_sslWrite host s c message
      exact .inl ⟨trivial, by rw [heq]⟩
  | outgoing c =>
      obtain ⟨_, _, heq⟩ := act_outgoing host s c
      exact .inl ⟨trivial, by rw [heq]⟩
  | offer sdp groupId world => exact .inl ⟨trivial, rfl⟩
  | clearData now => exact .inl ⟨trivial, rfl⟩
  | poll i x => exact .inl ⟨trivial, rfl⟩
  | delete => exact .inl ⟨trivial, rfl⟩
  | jitter now => exact .inl ⟨trivial, rfl⟩
  | forward i => exact .inl ⟨trivial, rfl⟩
  | giveUp i => exact .inl ⟨trivial, rfl⟩

theorem running_act_iff (host : Host S M) {s : Server S}
    (hrun : s.health = .running) (e : ServerEvent S) :
    (s.act host e).health = .running ↔ s.Harmless e := by
  rcases health_act host s e with
    ⟨hharm, heq⟩ | ⟨hnot, heq⟩ | ⟨-, -, -, -, -, hnot, heq⟩
  · rw [heq]
    exact iff_of_true hrun hharm
  · rw [heq]
    exact iff_of_false (by decide) hnot
  · rw [heq]
    exact iff_of_false (by decide) hnot

/-- `UdpRecv` and `ClientActor` are up after a run exactly if no datagram of the
run was empty and no announcement in it took a group over. -/
theorem running_iff_harmless (host : Host S M) (es : List (ServerEvent S)) :
    (after host es).health = .running ↔
      Machine.Along (step host) Harmless init es := by
  refine Machine.run_iff_along (Q := fun s : Server S => s.health = .running)
    ?_ ?_ rfl
  · intro s e hrun
    rw [step_of_running hrun]
    exact running_act_iff host hrun e
  · intro s e hdown
    rw [step]
    split
    · rcases health_act host s e with
        ⟨-, heq⟩ | ⟨-, heq⟩ | ⟨-, -, -, -, -, -, heq⟩
      · rwa [heq]
      · rw [heq]
        decide
      · rw [heq]
        decide
    · exact hdown

/-- A server that begins to hang has just handled a takeover. -/
theorem takesOver_of_hung {host : Host S M} {s : Server S} {e : ServerEvent S}
    (hup : s.health ≠ .hung) (h : (s.step host e).health = .hung) :
    ∃ g addr isSender, .groupId g addr isSender ∈ s.toClients ∧
      ClientActor.TakesOver s.clients.registry g addr isSender := by
  rw [step] at h
  split at h
  · rcases health_act host s e with
      ⟨-, heq⟩ | ⟨-, heq⟩ | ⟨g, addr, isSender, hmem, htakes, -⟩
    · exact absurd (heq ▸ h) hup
    · rw [heq] at h
      cases h
    · exact ⟨g, addr, isSender, hmem, htakes⟩
  · exact absurd h hup

/-- A server hangs only if two addresses have announced themselves in one group,
each by a binding request of its own with a session offered for the group. -/
theorem hung_by_two_announced (host : Host S M) (es : List (ServerEvent S))
    (h : (after host es).health = .hung) :
    ∃ g a b, a ≠ b ∧ Announced host es g a ∧ Announced host es g b := by
  refine (Machine.run_invariant_past (I := fun past s => Accounted host past s ∧
    (s.health = .hung → ∃ g a b, a ≠ b ∧ Announced host past g a ∧
      Announced host past g b)) ⟨accounted_init host, nofun⟩ ?_ es).2 h
  intro past s e ⟨hacc, hhung⟩
  have hsub := List.subset_append_left past [e]
  have hacc' := accounted_step hacc e
  refine ⟨hacc', fun hdown => ?_⟩
  by_cases hup : s.health = .hung
  · obtain ⟨g, a, b, hne, ha, hb⟩ := hhung hup
    exact ⟨g, a, b, hne, ha.mono hsub, hb.mono hsub⟩
  · obtain ⟨g, addr, isSender, hmem, -, last, hlast, hne, -⟩ :=
      takesOver_of_hung hup hdown
    exact ⟨g, last, addr, hne, (hacc.grouped.groups hlast).mono hsub,
      (hacc.mailed hmem).mono hsub fun _ _ hc => hc⟩

def senderText : String := clientText "abcd" "a=sendonly\r\n" ""

/-- A server that gets the offer of a sender. -/
def senderHost : Host Unit PlainMedia :=
  { plainHost with
    sdp := SdpLib.plain senderText (clientOffer "abcd" [.sendonly] []) }

/-- The sender announces itself from two addresses. -/
def twoSenders : List (ServerEvent Unit) :=
  [.offer senderText 1 ⟨fun _ => 0, 7, fun _ => 0⟩, .recv 0, .recv 0] ++
    joined 0 (.host 1) ++ joined 1 (.host 2)

theorem two_senders_hang :
    ∃ g a b, a ≠ b ∧ Announced senderHost twoSenders g a ∧
      Announced senderHost twoSenders g b :=
  hung_by_two_announced senderHost twoSenders (by decide +kernel)

end RStreamer.Server
