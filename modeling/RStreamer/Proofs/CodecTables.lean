import RStreamer.Client.Sending
import RStreamer.Proofs.AcceptedCodecs

/-!
# Three tables and one lookup

A packet reaches its counters through three tables: the name of its payload
type and the frequency of its payload type, both in the codec table of its
client, and the counters of that frequency. They are filled by different
operations. The name of a payload type can go while its frequency stays, when a
later insert takes the name for another payload type or the payload type for
another name, and a codec table can be replaced while the counters of the old
one are kept.

What holds between them is one-sided. A named payload type has a frequency,
since the last insert of either is the same call (`table_is_bijection`), and
every frequency of the current table has counters, since the table arrives with
them and nothing removes any (`Metered`). So the chain of lookups breaks at the
first of them or not at all, and `CodecNotSet` is the answer to a payload type
without a name and to nothing else (`codecNotSet_iff_unnamed`).
-/

namespace RStreamer

/-! ## The codec table -/

namespace MediaList

theorem getFrequency_of_last {rs : List SdpAttributeRtpmap} {p : UInt8}
    {r : SdpAttributeRtpmap} {post : List SdpAttributeRtpmap}
    (h : LastWith (fun x => x.payloadType = p) rs r post) :
    (ofRtpmaps rs).getFrequency p = some r.frequency :=
  (getFrequency_ofRtpmaps rs p _).mpr ⟨r, post, h, rfl⟩

/-- A table filled by any inserts, each given as an rtpmap: the two directions
agree, a payload type and a name belong together exactly when the last insert
of the one is the last insert of the other, and the frequency is that of this
insert. -/
theorem table_is_bijection (rs : List SdpAttributeRtpmap) (id : UInt8)
    (name : String) :
    ((ofRtpmaps rs).getName id = some name ↔
        (ofRtpmaps rs).getId name = some id) ∧
      ((ofRtpmaps rs).getName id = some name ↔
        ∃ r post, LastWith (fun x => x.payloadType = id) rs r post ∧
          LastWith (fun x => x.codecName = name) rs r post) ∧
      ∀ r post, LastWith (fun x => x.payloadType = id) rs r post →
        LastWith (fun x => x.codecName = name) rs r post →
        (ofRtpmaps rs).getFrequency id = some r.frequency := by
  refine ⟨getName_eq_some_iff, getName_ofRtpmaps rs id name, ?_⟩
  intro r post hid _
  exact getFrequency_of_last hid

/-- A name that moves on leaves its old payload type without one, and with its
frequency. -/
example :
    let m := ofRtpmaps [⟨102, "H264", 90000, none⟩, ⟨104, "H264", 90000, none⟩]
    m.getName 102 = none ∧ m.getFrequency 102 = some 90000 := by
  decide +kernel

/-- The table was filled by inserts. -/
def Built (m : MediaList) : Prop := ∃ rs, m = ofRtpmaps rs

theorem Built.getFrequency {m : MediaList} (h : m.Built) {p : UInt8}
    {name : String} (hname : m.getName p = some name) :
    ∃ f, m.getFrequency p = some f := by
  obtain ⟨rs, rfl⟩ := h
  obtain ⟨r, post, hid, -⟩ := (getName_ofRtpmaps rs p name).mp hname
  exact ⟨r.frequency, getFrequency_of_last hid⟩

end MediaList

/-! ## Along a run -/

/-- A codec table that arrives was filled by inserts. -/
def Event.Built {S : Type} : Event S → Prop
  | .client (.mediaAddr _ media _ _) => media.Built
  | _ => True

/-- So was the codec table of every client. -/
def Registry.TablesBuilt {S : Type} (r : Registry S) : Prop :=
  ∀ c m, (r.heap c).media = some m → m.Built

namespace Registry

variable {S : Type}

theorem TablesBuilt.of_media {r r' : Registry S} (h : r.TablesBuilt)
    (hmedia : ∀ c, (r'.heap c).media = (r.heap c).media) : r'.TablesBuilt := by
  intro c m hm
  rw [hmedia c] at hm
  exact h c m hm

theorem TablesBuilt.register {r : Registry S} (h : r.TablesBuilt)
    (addr : SocketAddr) (now : Instant) :
    (r.register addr now).TablesBuilt := by
  cases hat : r.clientAt addr with
  | some c => rw [register_of_stored hat]; exact h
  | none =>
      intro c m hm
      rw [heap_register r addr now hat] at hm
      split at hm
      · cases hm
      · exact h c m hm

theorem TablesBuilt.mediaAddr {r : Registry S} (h : r.TablesBuilt)
    (addr : SocketAddr) {media : MediaList} (hb : media.Built) (now : Instant)
    (draw : UInt32 → RuntimeDraw) :
    (r.mediaAddr addr media now draw).TablesBuilt := by
  intro c m hm
  by_cases hat : r.clientAt addr = some c
  · rw [media_mediaAddr hat] at hm
    cases hm
    exact hb
  · rw [heap_mediaAddr_ne hat] at hm
    exact h c m hm

theorem TablesBuilt.handle {r : Registry S} (h : r.TablesBuilt)
    (m : ClientActor.Message S) (hb : (Event.client m).Built) :
    (ClientActor.handle r m).TablesBuilt := by
  cases m with
  | dtls addr now => rw [ClientActor.handle_dtls]; exact h.register addr now
  | connected c t =>
      rw [ClientActor.handle_connected]
      exact h.of_media ((sameButSessions_setSrtp r c t).field
        (fun cl => cl.media) fun _ _ => rfl)
  | groupId g addr isSender =>
      rw [ClientActor.handle_groupId]
      exact h.of_media ((sameStreams_groupId r g addr isSender).field
        (fun cl => cl.media) fun _ _ _ _ => rfl)
  | mediaAddr addr media now draw =>
      rw [ClientActor.handle_mediaAddr]
      exact h.mediaAddr addr hb now draw
  | delete addr =>
      rw [ClientActor.handle_delete]
      exact h.of_media ((sameStreams_delete r addr).field
        (fun cl => cl.media) fun _ _ _ _ => rfl)

end Registry

namespace System

variable {S : Type}

theorem tablesBuilt_step (lib : SrtpLib S) (s : System S) (e : Event S)
    (he : e.Built) (h : s.registry.TablesBuilt) :
    (step lib s e).registry.TablesBuilt := by
  cases e with
  | client m => exact h.handle m he
  | rtc message addr now sched =>
      exact h.of_media (RtcActor.media_handle lib s.registry now sched message
        addr)
  | datagram addr data => exact h
  | jitter now => rw [registry_step_jitter]; exact h

theorem tablesBuilt_after (lib : SrtpLib S) {es : List (Event S)}
    (hes : ∀ e ∈ es, e.Built) : (after lib es).registry.TablesBuilt :=
  Machine.run_invariant_of (I := fun s : System S => s.registry.TablesBuilt)
    (tablesBuilt_step lib) hes fun c m hm => by cases hm

/-- In every reachable state a named payload type has a frequency, and that
frequency has counters. -/
theorem counters_of_name (lib : SrtpLib S) {es : List (Event S)}
    (hes : ∀ e ∈ es, e.Built) {c : ClientRef} {m : MediaList} {p : UInt8}
    {name : String} (hm : ((after lib es).registry.heap c).media = some m)
    (hname : m.getName p = some name) :
    ∃ f, m.getFrequency p = some f ∧
      ((after lib es).registry.counters c f).isSome = true := by
  obtain ⟨f, hf⟩ := (tablesBuilt_after lib hes c m hm).getFrequency hname
  exact ⟨f, hf,
    (sound_after lib es).2.listed hm (MediaList.mem_getFrequencies hf)⟩

end System

/-! ## Packets without a codec -/

namespace RtcActor

variable {S : Type}

theorem codecNotSet_iff_runtimeOf {lib : SrtpLib S} {r : Registry S}
    {message : DataPacket} {addr : SocketAddr} {c : ClientRef}
    {header : RtpHeader} (h : DecryptedRtp lib r message addr c header)
    (hp : header.payload ≠ 111) (now : Instant) (sched : List Receiver) :
    (handle lib r now sched message addr).result =
        .error (.codecNotSet addr) ↔
      runtimeOf (r.heap c)
        (codecNFrequency (r.heap c).media false header.payload) = none := by
  refine ⟨?_, ?_⟩
  · intro hres
    obtain ⟨c', header', hat, hheader, hnone⟩ :=
      runtimeOf_of_codecNotSet lib hres
    rw [h.client] at hat
    rw [h.parses] at hheader
    cases hat
    cases hheader
    exact hnone
  · intro hnone
    obtain ⟨t, plain, ht, hplain⟩ := h.decrypts
    rw [handle_eq_process h.client h.parses h.rtp]
    simp only [process, ht, hplain, Bool.false_eq_true, if_false, if_neg hp,
      handleRtp, runtimeOf_setSrtp, hnone]
    rfl

theorem runtimeOf_eq_none_iff {cl : Client S} {p : UInt8}
    (h : ∀ m name, cl.media = some m → m.getName p = some name →
      ∃ f, m.getFrequency p = some f ∧
        (cl.rtpRuntimeStorage.lookup f).isSome = true) :
    runtimeOf cl (codecNFrequency cl.media false p) = none ↔
      cl.media = none ∨ ∃ m, cl.media = some m ∧ m.getName p = none := by
  rw [codecNFrequency, if_neg Bool.false_ne_true]
  cases hm : cl.media with
  | none => exact iff_of_true rfl (.inl rfl)
  | some m =>
      cases hname : m.getName p with
      | none =>
          refine iff_of_true ?_ (.inr ⟨m, rfl, hname⟩)
          rw [Option.bind_some, hname]
          rfl
      | some name =>
          obtain ⟨f, hf, hcount⟩ := h m name hm hname
          obtain ⟨rt, hrt⟩ := Option.isSome_iff_exists.mp hcount
          refine iff_of_false ?_ ?_
          · simp [runtimeOf, hname, hf, hrt]
          · rintro (hnone | ⟨m', hm', hname'⟩)
            · cases hnone
            · cases hm'
              rw [hname] at hname'
              cases hname'

end RtcActor

open RtcActor

/-- In every state the server reaches with codec tables filled by inserts, a
named payload type has a frequency and counters for it, and a decrypted RTP
packet, not of payload type 111, is answered with `CodecNotSet` exactly if its
client has no codec table or none that names its payload type. -/
theorem codecNotSet_iff_unnamed {S : Type} (lib : SrtpLib S)
    (es : List (Event S)) (hes : ∀ e ∈ es, e.Built) :
    (∀ c m p name, ((System.after lib es).registry.heap c).media = some m →
      m.getName p = some name → ∃ f, m.getFrequency p = some f ∧
        ((System.after lib es).registry.counters c f).isSome = true) ∧
    ∀ message addr c header,
      DecryptedRtp lib (System.after lib es).registry message addr c header →
      header.payload ≠ 111 → ∀ now sched,
      ((handle lib (System.after lib es).registry now sched message
          addr).result = .error (.codecNotSet addr) ↔
        ((System.after lib es).registry.heap c).media = none ∨
          ∃ m, ((System.after lib es).registry.heap c).media = some m ∧
            m.getName header.payload = none) := by
  refine ⟨fun c m p name => System.counters_of_name lib hes, ?_⟩
  intro message addr c header h hp now sched
  rw [codecNotSet_iff_runtimeOf h hp]
  exact runtimeOf_eq_none_iff fun m name => System.counters_of_name lib hes

/-- A client with the codec table of one codec. -/
def videoClient : List (Event Unit) :=
  [.client (.dtls (.host 1) 0), .client (.connected 0 ⟨(), ()⟩),
    .client (.mediaAddr (.host 1)
      (MediaList.ofRtpmaps [⟨96, "VP8", 90000, none⟩]) 0
      fun _ => RuntimeDraw.least)]

theorem video_packet_has_codec :
    (handle SrtpLib.null (System.after SrtpLib.null videoClient).registry 0 []
      (videoPacket 7) (.host 1)).result ≠ .error (.codecNotSet (.host 1)) := by
  have hes : ∀ e ∈ videoClient, e.Built := by
    intro e he
    simp only [videoClient, List.mem_cons, List.not_mem_nil, or_false] at he
    rcases he with rfl | rfl | rfl
    · trivial
    · trivial
    · exact ⟨_, rfl⟩
  have hiff := (codecNotSet_iff_unnamed SrtpLib.null videoClient hes).2
    (videoPacket 7) (.host 1) 0 ⟨false, 96, 7, 9⟩
    ⟨by decide +kernel, by decide +kernel, by decide +kernel,
      ⟨(), ()⟩, _, rfl, rfl⟩ (by decide) 0 []
  intro hres
  rcases hiff.mp hres with hnone | ⟨m, hm, hname⟩
  · cases hnone
  · cases hm
    revert hname
    decide +kernel

end RStreamer
