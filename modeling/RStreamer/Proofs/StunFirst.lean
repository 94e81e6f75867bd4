import RStreamer.Client.Metered
import RStreamer.System

/-!
# A client whose STUN request comes first

A STUN request makes `UdpRecv` send `ClientActor` two messages, the media of the
client and its group; the first DTLS datagram makes the client. In the order ICE
prescribes the pair comes first, when there is no client yet. `MediaAddrMessage`
is then dropped, and `GroupId` enters its address in the group table and makes
no link: the two messages amount to `setGroup` (`pair_of_absent`).

So the two orders agree on the group table and on who is stored, and never on
the media: a client registered after the pair has none.
-/

namespace RStreamer

open Registry

/-- What the registration of clients is about: the groups, who is stored, and of
everybody who is stored the media, the frequencies that have counters, the
receivers and the sender. -/
structure Registry.SameRegistration {S : Type} (r r' : Registry S) : Prop where
  groups : ∀ g, r'.groups.lookup g = r.groups.lookup g
  stored : ∀ b, (r'.clientAt b).isSome = (r.clientAt b).isSome
  media : ∀ b c c', r.clientAt b = some c → r'.clientAt b = some c' →
    (r'.heap c').media = (r.heap c).media
  frequencies : ∀ b c c', r.clientAt b = some c → r'.clientAt b = some c' →
    ∀ f, ((r'.heap c').rtpRuntimeStorage.lookup f).isSome =
      ((r.heap c).rtpRuntimeStorage.lookup f).isSome
  receivers : ∀ b c c', r.clientAt b = some c → r'.clientAt b = some c' →
    ∀ a, (r'.heap c').receivers.lookup a = (r.heap c).receivers.lookup a
  senderAddr : ∀ b c c', r.clientAt b = some c → r'.clientAt b = some c' →
    (r'.heap c').senderAddr = (r.heap c).senderAddr

namespace ClientActor

variable {S : Type}

/-- The two messages of a STUN request. -/
def pair (a : SocketAddr) (media : MediaList) (g : Nat) (isSender : Bool)
    (now : Instant) (draw : UInt32 → RuntimeDraw) : List (Message S) :=
  [.mediaAddr a media now draw, .groupId g a isSender]

/-- Without a client, the pair changes the group table and nothing else. -/
theorem pair_of_absent {r : Registry S} {a : SocketAddr}
    (h : r.clientAt a = none) (media : MediaList) (g : Nat) (isSender : Bool)
    (now : Instant) (draw : UInt32 → RuntimeDraw) :
    Machine.run handle r (pair a media g isSender now draw) =
      r.setGroup g a isSender := by
  have hmedia : r.mediaAddr a media now draw = r := by rw [mediaAddr, h]
  show handle (handle r (.mediaAddr a media now draw)) (.groupId g a isSender) = _
  rw [handle_mediaAddr, hmedia, handle_groupId]
  rcases groupId_cases r g a isSender with
    ⟨heq, -⟩ | ⟨x, s, hx, -⟩ | ⟨x, s, hx, -⟩
  · exact heq
  · rw [h] at hx; cases hx
  · rw [h] at hx; cases hx

theorem groups_pair (r : Registry S) (a : SocketAddr) (media : MediaList)
    (g : Nat) (isSender : Bool) (now : Instant)
    (draw : UInt32 → RuntimeDraw) :
    (Machine.run handle r (pair a media g isSender now draw)).groups =
      (r.groups.insertOrGetSender g a isSender).2 := by
  show (handle (handle r (.mediaAddr a media now draw))
    (.groupId g a isSender)).groups = _
  rw [handle_mediaAddr, handle_groupId, groups_groupId, setGroup,
    groups_mediaAddr]

theorem clientAt_pair (r : Registry S) (a : SocketAddr) (media : MediaList)
    (g : Nat) (isSender : Bool) (now : Instant)
    (draw : UInt32 → RuntimeDraw) (b : SocketAddr) :
    (Machine.run handle r (pair a media g isSender now draw)).clientAt b =
      r.clientAt b := by
  show (handle (handle r (.mediaAddr a media now draw))
    (.groupId g a isSender)).clientAt b = _
  rw [handle_mediaAddr, handle_groupId, clientAt, clientStorage_groupId]
  exact (sameRoutes_mediaAddr r a media now draw).clientAt b

/-- With a client, the pair gives it its media. -/
theorem media_pair {r : Registry S} {a : SocketAddr} {c : ClientRef}
    (h : r.clientAt a = some c) (media : MediaList) (g : Nat)
    (isSender : Bool) (now : Instant) (draw : UInt32 → RuntimeDraw) :
    ((Machine.run handle r (pair a media g isSender now draw)).heap c).media =
      some media := by
  show ((handle (handle r (.mediaAddr a media now draw))
    (.groupId g a isSender)).heap c).media = _
  rw [handle_mediaAddr, handle_groupId]
  refine ((sameStreams_groupId _ g a isSender).field (fun cl => cl.media)
    (fun _ _ _ _ => rfl) c).trans ?_
  rw [mediaAddr, h]
  simp only [modifyClient_heap_self]

/-- The pair first: all that is left of it when the client comes is the group. -/
theorem run_stunFirst {r : Registry S} {a : SocketAddr}
    (h : r.clientAt a = none) (media : MediaList) (g : Nat) (isSender : Bool)
    (t₁ t₂ : Instant) (draw : UInt32 → RuntimeDraw) (later : List (Message S)) :
    Machine.run handle r
        (pair a media g isSender t₁ draw ++ .dtls a t₂ :: later) =
      Machine.run handle ((r.setGroup g a isSender).register a t₂) later := by
  rw [Machine.run, List.foldl_append, List.foldl_cons]
  show Machine.run handle (handle (Machine.run handle r
    (pair a media g isSender t₁ draw)) (.dtls a t₂)) later = _
  rw [pair_of_absent h, handle_dtls]

theorem clientAt_setGroup_register {r : Registry S} {a : SocketAddr}
    (h : r.clientAt a = none) (g : Nat) (isSender : Bool) (t : Instant) :
    ((r.setGroup g a isSender).register a t).clientAt a = some r.next := by
  have hset : (r.setGroup g a isSender).clientAt a = none := h
  rw [clientAt_register _ a t hset, if_pos rfl]
  rfl

/-! A later keep-alive does not make up for it. The group table names the new
sender already, so nothing is taken over from the one it replaced. -/

/-- The group's sender is stored at `a` as client `c`, and nobody but `c` has
changed since `r`. -/
structure OnlyChanged (r : Registry S) (g : Nat) (a : SocketAddr)
    (c : ClientRef) (r' : Registry S) : Prop where
  sender : r'.groups.lookup g = some a
  stored : r'.clientAt a = some c
  others : ∀ d, d ≠ c → r'.heap d = r.heap d

theorem OnlyChanged.keepAlive {r r' : Registry S} {g : Nat} {a : SocketAddr}
    {c : ClientRef} (h : OnlyChanged r g a c r') (media : MediaList)
    (now : Instant) (draw : UInt32 → RuntimeDraw) :
    OnlyChanged r g a c
      (Machine.run handle r' (pair a media g true now draw)) := by
  refine ⟨?_, ?_, ?_⟩
  · rw [groups_pair]
    exact AList.lookup_insert _
  · rw [clientAt_pair]
    exact h.stored
  · intro d hd
    have hmedia : (r'.mediaAddr a media now draw).heap d = r'.heap d := by
      rw [mediaAddr, h.stored]
      simp only [addRuntimes, modifyClient_heap_ne _ hd]
    have hlast : (r'.mediaAddr a media now draw).lastSender g a = a := by
      rw [lastSender, groups_mediaAddr, h.sender]
      rfl
    have hat := (sameRoutes_mediaAddr r' a media now draw).clientAt a
    rw [h.stored] at hat
    show (handle (handle r' (.mediaAddr a media now draw))
      (.groupId g a true)).heap d = _
    rw [handle_mediaAddr, handle_groupId, ← h.others d hd, ← hmedia]
    rcases groupId_cases (r'.mediaAddr a media now draw) g a true with
      ⟨heq, -⟩ | ⟨x, s, -, -, hcase, -⟩ | ⟨x, s, hx, hs, -, heq⟩
    · rw [heq]; rfl
    · exact absurd hlast hcase.1
    · rw [hlast, hat] at hs
      rw [hat] at hx
      cases hs
      cases hx
      rw [heq, heap_join, if_neg hd, if_neg hd]
      rfl

end ClientActor

namespace System

open ClientActor

variable {S : Type}

/-- In every reachable state without a client at `a`, and whatever the times and
the draws: the pair of a STUN request and the first DTLS datagram lead to the
same groups and the same stored addresses in either order, and never to the same
registration. -/
theorem stun_first_loses_registration (lib : SrtpLib S) (es : List (Event S))
    (a : SocketAddr) (h : (after lib es).registry.clientAt a = none)
    (media : MediaList) (g : Nat) (isSender : Bool) (t₁ t₂ t₃ t₄ : Instant)
    (draw draw' : UInt32 → RuntimeDraw) :
    let stunFirst := Machine.run handle (after lib es).registry
      (pair a media g isSender t₁ draw ++ [.dtls a t₂])
    let dtlsFirst := Machine.run handle (after lib es).registry
      (.dtls a t₃ :: pair a media g isSender t₄ draw')
    stunFirst.groups = dtlsFirst.groups ∧
      (∀ b, (stunFirst.clientAt b).isSome = (dtlsFirst.clientAt b).isSome) ∧
      ¬ SameRegistration stunFirst dtlsFirst := by
  generalize (after lib es).registry = r at h
  have hset : (r.setGroup g a isSender).clientAt a = none := h
  have hdtls : Machine.run handle r
      (.dtls a t₃ :: pair a media g isSender t₄ draw') =
        Machine.run handle (r.register a t₃)
          (pair a media g isSender t₄ draw') := by
    rw [← handle_dtls]
    rfl
  have hnew : (r.register a t₃).clientAt a = some r.next := by
    rw [clientAt_register r a t₃ h, if_pos rfl]
  have hstun : Machine.run handle r
      (pair a media g isSender t₁ draw ++ [.dtls a t₂]) =
        (r.setGroup g a isSender).register a t₂ :=
    run_stunFirst h media g isSender t₁ t₂ draw []
  simp only [hstun, hdtls]
  refine ⟨?_, ?_, ?_⟩
  · rw [groups_register, groups_pair, groups_register]
    rfl
  · intro b
    rw [clientAt_pair, clientAt_register r a t₃ h,
      clientAt_register _ a t₂ hset]
    rfl
  · intro hsame
    have hmedia := hsame.media a r.next r.next
      (clientAt_setGroup_register h g isSender t₂)
      ((clientAt_pair _ a media g isSender t₄ draw' a).trans hnew)
    have hblank : (((r.setGroup g a isSender).register a t₂).heap
        r.next).media = none := by
      rw [heap_register _ a t₂ hset]
      exact congrArg Client.media (if_pos rfl)
    rw [media_pair hnew, hblank] at hmedia
    cases hmedia

/-- A sender that comes to a group by STUN first never gets the viewers of the
sender before it: however often it repeats its request, no other client's
receivers or sender change. -/
theorem stun_first_never_takes_over (lib : SrtpLib S) (es : List (Event S))
    (a : SocketAddr) (h : (after lib es).registry.clientAt a = none)
    (media : MediaList) (g : Nat) (t₁ t₂ : Instant)
    (draw : UInt32 → RuntimeDraw) (later : List (Instant × (UInt32 → RuntimeDraw)))
    (d : ClientRef) (hd : d ≠ (after lib es).registry.next) :
    (Machine.run handle (after lib es).registry
      (pair a media g true t₁ draw ++ .dtls a t₂ ::
        later.flatMap fun x => pair a media g true x.1 x.2)).heap d =
      (after lib es).registry.heap d := by
  generalize (after lib es).registry = r at h hd
  have hset : (r.setGroup g a true).clientAt a = none := h
  have hstart : OnlyChanged r g a r.next
      ((r.setGroup g a true).register a t₂) := by
    refine ⟨?_, ?_, ?_⟩
    · rw [groups_register]
      exact AList.lookup_insert _
    · exact clientAt_setGroup_register h g true t₂
    · intro d hd
      rw [heap_register _ a t₂ hset]
      exact if_neg hd
  rw [run_stunFirst h]
  refine OnlyChanged.others (g := g) (a := a) ?_ d hd
  generalize (r.setGroup g a true).register a t₂ = r' at hstart
  induction later generalizing r' with
  | nil => exact hstart
  | cons x later ih =>
      rw [List.flatMap_cons, Machine.run, List.foldl_append]
      exact ih _ (hstart.keepAlive media x.1 x.2)

theorem stun_first_loses_first_sender :
    (after SrtpLib.null []).registry.clientAt (.host 1) = none ∧
      ¬ SameRegistration
        (Machine.run handle (after SrtpLib.null []).registry
          (pair (.host 1) MediaList.vp8 1 true 0 (fun _ => .least) ++
            [.dtls (.host 1) 0]))
        (Machine.run handle (after SrtpLib.null []).registry
          (.dtls (.host 1) 0 ::
            pair (.host 1) MediaList.vp8 1 true 0 fun _ => .least)) :=
  ⟨rfl, (stun_first_loses_registration SrtpLib.null [] (.host 1) rfl
    MediaList.vp8 1 true 0 0 0 0 _ _).2.2⟩

/-- The same input, as the two orders leave it: with the DTLS datagram first the
sender has its media, with the pair first it has none. -/
theorem first_sender_without_media :
    ¬ ∀ (es : List (Event Unit)) (a : SocketAddr) (media : MediaList) (g : Nat)
      (isSender : Bool) (now : Instant) (draw : UInt32 → RuntimeDraw),
      (after SrtpLib.null es).registry.clientAt a = none →
      SameRegistration
        (Machine.run handle (after SrtpLib.null es).registry
          (pair a media g isSender now draw ++ [.dtls a now]))
        (Machine.run handle (after SrtpLib.null es).registry
          (.dtls a now :: pair a media g isSender now draw)) := by
  intro h
  have hmedia := congrArg Option.isSome ((h [] (.host 1) MediaList.vp8 1 true 0
    (fun _ => .least) rfl).media (.host 1) 0 0 (by decide +kernel)
    (by decide +kernel))
  revert hmedia
  decide +kernel

end System

end RStreamer
