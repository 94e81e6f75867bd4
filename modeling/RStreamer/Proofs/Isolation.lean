import RStreamer.Client.Counters
import RStreamer.Client.Metered

/-!
# The stream of one client at one clock rate

Whatever else the server does, the numbers written into the packets of client
`c` at frequency `f` are those `ClientRtpRuntime.rewriteAll` gives for the
counters of `(c, f)` and the packets of that stream, in the order they were
handled (`numbers_trace`). A packet belongs to the stream if it decrypted, is
not of payload type 111 and resolved to `f` when it was handled; `packets` and
`numbers` list what one event adds to either side.

For leaving steps out of a run, `view` is all of the server the stream depends
on: who is stored where, and of client `c` its codec table, its inbound session
and its counters for `f`. Every event maps equal views to equal views
(`view_step`), and the events that do not concern the stream do not change it
(`view_removable`). Unwinding then says that any number of them can be left
out.
-/

namespace RStreamer.System

open Registry RtcActor

variable {S : Type}

/-! ## The stream -/

def packetFor (lib : SrtpLib S) (c : ClientRef) (f : UInt32) (r : Registry S)
    (message : DataPacket) (addr : SocketAddr) : Option RtpHeader :=
  (resolves lib r message addr).bind fun x =>
    if x.1 = c ∧ x.2.1 = f then some x.2.2 else none

/-- The packet an event adds to the stream, with the time it is handled. -/
def packets (lib : SrtpLib S) (c : ClientRef) (f : UInt32) (s : System S) :
    Event S → List (RtpHeader × Instant)
  | .rtc message addr now _ =>
      ((packetFor lib c f s.registry message addr).map fun h => (h, now)).toList
  | _ => []

/-- The numbers an event writes for client `c` at frequency `f`. -/
def numbers (lib : SrtpLib S) (c : ClientRef) (f : UInt32) (s : System S) :
    Event S → List (UInt16 × UInt32)
  | .rtc message addr now sched =>
      match (RtcActor.handle lib s.registry now sched message addr).written with
      | some w =>
          if w.client = c ∧ w.frequency = f then [(w.sequence, w.timestamp)]
          else []
      | none => []
  | _ => []

theorem numbers_rtc (lib : SrtpLib S) (c : ClientRef) (f : UInt32)
    (s : System S) (message : DataPacket) (addr : SocketAddr) (now : Instant)
    (sched : List Receiver) :
    numbers lib c f s (.rtc message addr now sched) =
      ((packetFor lib c f s.registry message addr).bind fun h =>
        (s.registry.counters c f).map fun rt => rt.firstNumbers h).toList := by
  have hw := (handle_effects lib s.registry now sched message addr).2.2
  simp only [numbers, hw, packetFor, rewritingOf]
  cases resolves lib s.registry message addr with
  | none => rfl
  | some x =>
      obtain ⟨c', f', h⟩ := x
      simp only [Option.bind_some]
      by_cases hcf : c' = c ∧ f' = f
      · obtain ⟨rfl, rfl⟩ := hcf
        simp only [and_self, if_true, Option.bind_some, counters]
        cases (s.registry.heap c').rtpRuntimeStorage.lookup f' with
        | none => rfl
        | some rt =>
            simp only [Option.map_some, writtenOf, and_self, if_true]
            rfl
      · rw [if_neg hcf]
        cases (s.registry.heap c').rtpRuntimeStorage.lookup f' with
        | none => rfl
        | some rt =>
            simp only [Option.map_some, writtenOf, if_neg hcf]
            rfl

theorem counters_rtc (lib : SrtpLib S) (c : ClientRef) (f : UInt32)
    (r : Registry S) (message : DataPacket) (addr : SocketAddr) (now : Instant)
    (sched : List Receiver) :
    (RtcActor.handle lib r now sched message addr).registry.counters c f =
      match packetFor lib c f r message addr with
      | some h => (r.counters c f).map fun rt => (rt.rewrite h now).runtime
      | none => r.counters c f := by
  rw [counters, counters_handle, packetFor, rewritingOf]
  cases resolves lib r message addr with
  | none => rfl
  | some x =>
      obtain ⟨c', f', h⟩ := x
      simp only [Option.bind_some]
      by_cases hcf : c' = c ∧ f' = f
      · obtain ⟨rfl, rfl⟩ := hcf
        simp only [and_self, if_true, counters]
        cases (r.heap c').rtpRuntimeStorage.lookup f' with
        | none => rfl
        | some rt => simp only [Option.map_some, and_self, if_true]
      · rw [if_neg hcf]
        have hcf' : ¬ (c = c' ∧ f = f') := fun e => hcf ⟨e.1.symm, e.2.symm⟩
        cases (r.heap c').rtpRuntimeStorage.lookup f' with
        | none => rfl
        | some rt => simp only [Option.map_some, if_neg hcf']; rfl

theorem counters_client {r : Registry S} (hm : r.Metered)
    (m : ClientActor.Message S) {c : ClientRef} {f : UInt32}
    {rt : ClientRtpRuntime} (h : r.counters c f = some rt) :
    (ClientActor.handle r m).counters c f = some rt := by
  rw [← h]
  cases m with
  | dtls addr now =>
      rw [ClientActor.handle_dtls]
      cases hat : r.clientAt addr with
      | some d => rw [register_of_stored hat]
      | none =>
          rw [counters, heap_register r addr now hat, if_neg]
          · rfl
          · intro hc
            rw [hm.fresh (Nat.le_of_eq hc.symm)] at h
            cases h
  | connected d t =>
      rw [ClientActor.handle_connected]
      exact (sameButSessions_setSrtp r d t).field
        (fun cl => cl.rtpRuntimeStorage.lookup f) (fun _ _ => rfl) c
  | groupId g addr isSender =>
      rw [ClientActor.handle_groupId]
      exact (sameStreams_groupId r g addr isSender).field
        (fun cl => cl.rtpRuntimeStorage.lookup f) (fun _ _ _ _ => rfl) c
  | mediaAddr addr media now draw =>
      rw [ClientActor.handle_mediaAddr]
      by_cases hat : r.clientAt addr = some c
      · rw [counters_mediaAddr hat, h]
        split <;> rfl
      · rw [counters, heap_mediaAddr_ne hat]
        rfl
  | delete addr =>
      rw [ClientActor.handle_delete]
      exact (sameStreams_delete r addr).field
        (fun cl => cl.rtpRuntimeStorage.lookup f) (fun _ _ _ _ => rfl) c

/-- One event of the server is one packet of the stream, or none. -/
theorem counters_step {s : System S} (hs : s.Sound) (lib : SrtpLib S)
    (e : Event S) {c : ClientRef} {f : UInt32} {rt : ClientRtpRuntime}
    (h : s.registry.counters c f = some rt) :
    (packets lib c f s e = [] ∧ numbers lib c f s e = [] ∧
      (step lib s e).registry.counters c f = some rt) ∨
    ∃ header now, packets lib c f s e = [(header, now)] ∧
      numbers lib c f s e = [rt.firstNumbers header] ∧
      (step lib s e).registry.counters c f =
        some (rt.rewrite header now).runtime := by
  cases e with
  | client m => exact .inl ⟨rfl, rfl, counters_client hs.2 m h⟩
  | datagram addr data => exact .inl ⟨rfl, rfl, h⟩
  | jitter now =>
      refine .inl ⟨rfl, rfl, ?_⟩
      rw [registry_step_jitter]
      exact h
  | rtc message addr now sched =>
      have hc := counters_rtc lib c f s.registry message addr now sched
      rw [numbers_rtc, packets]
      cases hp : packetFor lib c f s.registry message addr with
      | none =>
          rw [hp] at hc
          exact .inl ⟨rfl, rfl, hc.trans h⟩
      | some header =>
          rw [hp, h] at hc
          refine .inr ⟨header, now, rfl, ?_, hc⟩
          rw [h]
          rfl

/-- Along any run, the numbers written for `(c, f)` are those of its counters
and its packets. -/
theorem numbers_trace (lib : SrtpLib S) (c : ClientRef) (f : UInt32) :
    ∀ (es : List (Event S)) {s : System S} {rt : ClientRtpRuntime}, s.Sound →
      s.registry.counters c f = some rt →
      Machine.trace (step lib) (numbers lib c f) s es =
        rt.rewriteAll (Machine.trace (step lib) (packets lib c f) s es) := by
  intro es
  induction es with
  | nil => intro s rt _ _; rfl
  | cons e es ih =>
      intro s rt hs h
      have hs' := sound_step lib s e hs
      rw [Machine.trace_cons, Machine.trace_cons]
      rcases counters_step hs lib e h with
        ⟨hp, hn, hc⟩ | ⟨header, now, hp, hn, hc⟩
      · rw [hp, hn]
        exact ih hs' hc
      · rw [hp, hn, ih hs' hc]
        rfl

/-! ## What the stream depends on -/

structure View (S : Type) where
  clientStorage : Table SocketAddr ClientRef
  next : ClientRef
  media : Option MediaList
  inbound : Option S
  counters : Option ClientRtpRuntime

def view (c : ClientRef) (f : UInt32) (s : System S) : View S where
  clientStorage := s.registry.clientStorage
  next := s.registry.next
  media := (s.registry.heap c).media
  inbound := s.registry.inbound c
  counters := s.registry.counters c f

theorem frequencyOf_eq (lib : SrtpLib S) (r : Registry S)
    (message : DataPacket) (c : ClientRef) (header : RtpHeader) :
    frequencyOf lib r message c header =
      (r.inbound c).bind fun t =>
        if (lib.unprotect t message).2.isSome ∧ header.payload ≠ 111 then
          (codecNFrequency (r.heap c).media false header.payload).map
            fun cf => cf.2
        else none := by
  rw [frequencyOf, Registry.inbound]
  cases (r.heap c).srtp <;> rfl

theorem packetFor_of_ne {lib : SrtpLib S} {c : ClientRef} {f : UInt32}
    {r : Registry S} {message : DataPacket} {addr : SocketAddr}
    (h : r.clientAt addr ≠ some c) :
    packetFor lib c f r message addr = none := by
  rw [packetFor, resolves]
  split
  · next d header hd _ _ =>
      have hne : d ≠ c := fun e => h (e ▸ hd)
      cases frequencyOf lib r message d header with
      | none => rfl
      | some g => simp [hne]
  · rfl

/-- Which packets belong to the stream can be seen in its view. -/
theorem packetFor_congr (lib : SrtpLib S) {c : ClientRef} {f : UInt32}
    {s s' : System S} (h : view c f s = view c f s') (message : DataPacket)
    (addr : SocketAddr) : packetFor lib c f s.registry message addr =
      packetFor lib c f s'.registry message addr := by
  simp only [view, View.mk.injEq] at h
  obtain ⟨hstore, -, hmedia, hin, -⟩ := h
  have hat : s.registry.clientAt addr = s'.registry.clientAt addr := by
    rw [clientAt, hstore]; rfl
  by_cases hc : s'.registry.clientAt addr = some c
  · have hfreq : ∀ header, frequencyOf lib s.registry message c header =
        frequencyOf lib s'.registry message c header := by
      intro header
      rw [frequencyOf_eq, frequencyOf_eq, hmedia, hin]
    have hres : resolves lib s.registry message addr =
        resolves lib s'.registry message addr := by
      simp only [resolves]
      rw [hat, hc]
      split
      · next d header hd _ _ =>
          cases hd
          rw [hfreq]
      · rfl
    rw [packetFor, packetFor, hres]
  · rw [packetFor_of_ne hc, packetFor_of_ne (hat ▸ hc)]

theorem packets_congr (lib : SrtpLib S) {c : ClientRef} {f : UInt32}
    {s s' : System S} (e : Event S) (h : view c f s = view c f s') :
    packets lib c f s e = packets lib c f s' e := by
  cases e with
  | rtc message addr now sched =>
      rw [packets, packets, packetFor_congr lib h]
  | client m => rfl
  | datagram addr data => rfl
  | jitter now => rfl

theorem numbers_congr (lib : SrtpLib S) {c : ClientRef} {f : UInt32}
    {s s' : System S} (e : Event S) (h : view c f s = view c f s') :
    numbers lib c f s e = numbers lib c f s' e := by
  cases e with
  | rtc message addr now sched =>
      have hc : s.registry.counters c f = s'.registry.counters c f :=
        congrArg View.counters h
      rw [numbers_rtc, numbers_rtc, packetFor_congr lib h, hc]
  | client m => rfl
  | datagram addr data => rfl
  | jitter now => rfl

/-! Every event maps equal views to equal views. For a message of
`ClientActor` the view after it is computed from the view before; for a packet
this is `packetFor_congr`, `counters_rtc` and what decryption does to the
session. -/

theorem view_client {c : ClientRef} {f : UInt32} {s s' : System S}
    (h : view c f s = view c f s') (m : ClientActor.Message S) :
    view c f { s with registry := ClientActor.handle s.registry m } =
      view c f { s' with registry := ClientActor.handle s'.registry m } := by
  obtain ⟨r, j, b⟩ := s
  obtain ⟨r', j', b'⟩ := s'
  simp only [view, View.mk.injEq, Registry.inbound, counters] at h ⊢
  obtain ⟨hstore, hnext, hmedia, hin, hcount⟩ := h
  have hat : ∀ addr, r.clientAt addr = r'.clientAt addr := by
    intro addr; rw [clientAt, hstore]; rfl
  cases m with
  | dtls addr now =>
      rw [ClientActor.handle_dtls, ClientActor.handle_dtls]
      simp only [register]
      rw [hat addr]
      cases r'.clientAt addr with
      | some d => exact ⟨hstore, hnext, hmedia, hin, hcount⟩
      | none =>
          simp only [hstore, hnext, Function.update_apply]
          split
          · exact ⟨trivial, trivial, rfl, rfl, rfl⟩
          · exact ⟨trivial, trivial, hmedia, hin, hcount⟩
  | connected d t =>
      simp only [ClientActor.handle_connected, connected, modifyClient_heap,
        modifyClient_clientStorage, modifyClient_next]
      split
      · next hd => subst hd; exact ⟨hstore, hnext, hmedia, rfl, hcount⟩
      · exact ⟨hstore, hnext, hmedia, hin, hcount⟩
  | groupId g addr isSender =>
      have hs := sameStreams_groupId r g addr isSender
      have hs' := sameStreams_groupId r' g addr isSender
      rw [ClientActor.handle_groupId, ClientActor.handle_groupId,
        clientStorage_groupId, clientStorage_groupId, hs.next, hs'.next,
        hs.heap c, hs'.heap c]
      exact ⟨hstore, hnext, hmedia, hin, hcount⟩
  | mediaAddr addr media now draw =>
      rw [ClientActor.handle_mediaAddr, ClientActor.handle_mediaAddr,
        clientStorage_mediaAddr, clientStorage_mediaAddr, next_mediaAddr,
        next_mediaAddr, srtp_mediaAddr, srtp_mediaAddr]
      refine ⟨hstore, hnext, ?_, hin, ?_⟩
      · by_cases hc : r'.clientAt addr = some c
        · rw [media_mediaAddr ((hat addr).trans hc), media_mediaAddr hc]
        · rw [heap_mediaAddr_ne (hat addr ▸ hc), heap_mediaAddr_ne hc, hmedia]
      · by_cases hc : r'.clientAt addr = some c
        · have h₁ := counters_mediaAddr ((hat addr).trans hc) media now draw f
          have h₂ := counters_mediaAddr hc media now draw f
          simp only [counters] at h₁ h₂
          rw [h₁, h₂, hcount]
        · rw [heap_mediaAddr_ne (hat addr ▸ hc), heap_mediaAddr_ne hc, hcount]
  | delete addr =>
      have hs := sameStreams_delete r addr
      have hs' := sameStreams_delete r' addr
      rw [ClientActor.handle_delete, ClientActor.handle_delete,
        clientStorage_delete, clientStorage_delete, hs.next, hs'.next,
        hs.heap c, hs'.heap c, hstore]
      exact ⟨rfl, hnext, hmedia, hin, hcount⟩

theorem view_step (lib : SrtpLib S) {c : ClientRef} {f : UInt32}
    {s s' : System S} (e : Event S) (h : view c f s = view c f s') :
    view c f (step lib s e) = view c f (step lib s' e) := by
  cases e with
  | client m => exact view_client h m
  | datagram addr data => exact h
  | jitter now =>
      have hr : ∀ s : System S, view c f (step lib s (.jitter now)) =
          view c f s := by
        intro s
        rw [view, registry_step_jitter]
        rfl
      rw [hr, hr, h]
  | rtc message addr now sched =>
      have hp := packetFor_congr lib h message addr
      simp only [view, View.mk.injEq, step] at h ⊢
      obtain ⟨hstore, hnext, hmedia, hin, hcount⟩ := h
      have hat : s.registry.clientAt addr = s'.registry.clientAt addr := by
        rw [clientAt, hstore]; rfl
      refine ⟨?_, ?_, ?_, ?_, ?_⟩
      · rw [clientStorage_handle, clientStorage_handle, hstore]
      · rw [(handle_sameRoutes lib s.registry now sched message addr).next,
          (handle_sameRoutes lib s'.registry now sched message addr).next,
          hnext]
      · rw [media_handle, media_handle, hmedia]
      · rw [inbound_handle, inbound_handle, hat]
        split
        · next d _ _ _ =>
            by_cases hd : c = d
            · subst hd; rw [if_pos rfl, if_pos rfl, hin]
            · rw [if_neg hd, if_neg hd, hin]
        · exact hin
      · rw [counters_rtc, counters_rtc, hp, hcount]

/-! ## Steps that can be left out -/

/-- The events that do not concern the stream of `c` at `f`: messages to a
group, codec tables for other clients, a codec table `c` already has, packets
of other clients, and those packets of `c` that are not of the stream and leave
the session they are decrypted with as it was. -/
def Removable (lib : SrtpLib S) (c : ClientRef) (f : UInt32) (s : System S) :
    Event S → Prop
  | .client (.groupId _ _ _) => True
  | .client (.mediaAddr addr media _ _) =>
      s.registry.clientAt addr = some c →
        (s.registry.heap c).media = some media
  | .client _ => False
  | .rtc message addr _ _ =>
      s.registry.clientAt addr = some c →
        packetFor lib c f s.registry message addr = none ∧
        (s.registry.inbound c).map
            (sessionAfter lib (isRtcp message matches .ok true) message) =
          s.registry.inbound c
  | .datagram _ _ => True
  | .jitter _ => True

theorem counters_repeated {r : Registry S} (hm : r.Metered)
    {addr : SocketAddr} {c : ClientRef} (hat : r.clientAt addr = some c)
    {media : MediaList} (hmedia : (r.heap c).media = some media)
    (now : Instant) (draw : UInt32 → RuntimeDraw) (f : UInt32) :
    (r.mediaAddr addr media now draw).counters c f = r.counters c f := by
  rw [counters_mediaAddr hat]
  split
  · next hf =>
      obtain ⟨rt, hrt⟩ := Option.isSome_iff_exists.mp (hm.listed hmedia hf)
      rw [hrt]
      rfl
  · rfl

theorem view_removable {lib : SrtpLib S} {c : ClientRef} {f : UInt32}
    {s : System S} (hs : s.Sound) {e : Event S} (h : Removable lib c f s e) :
    view c f (step lib s e) = view c f s ∧ packets lib c f s e = [] := by
  cases e with
  | datagram addr data => exact ⟨rfl, rfl⟩
  | jitter now =>
      refine ⟨?_, rfl⟩
      rw [view, registry_step_jitter]
      rfl
  | client m =>
      refine ⟨?_, rfl⟩
      simp only [view, View.mk.injEq, step]
      cases m with
      | dtls addr now => exact absurd h id
      | connected d t => exact absurd h id
      | delete addr => exact absurd h id
      | groupId g addr isSender =>
          have hss := sameStreams_groupId s.registry g addr isSender
          rw [ClientActor.handle_groupId, clientStorage_groupId, hss.next,
            Registry.inbound, counters, hss.heap c]
          exact ⟨rfl, rfl, rfl, rfl, rfl⟩
      | mediaAddr addr media now draw =>
          rw [ClientActor.handle_mediaAddr, clientStorage_mediaAddr,
            next_mediaAddr, Registry.inbound, srtp_mediaAddr]
          by_cases hat : s.registry.clientAt addr = some c
          · rw [media_mediaAddr hat, counters_repeated hs.2 hat (h hat)]
            exact ⟨rfl, rfl, (h hat).symm, rfl, rfl⟩
          · rw [counters, heap_mediaAddr_ne hat]
            exact ⟨rfl, rfl, rfl, rfl, rfl⟩
  | rtc message addr now sched =>
      have hp : packetFor lib c f s.registry message addr = none := by
        by_cases hat : s.registry.clientAt addr = some c
        · exact (h hat).1
        · exact packetFor_of_ne hat
      refine ⟨?_, by rw [packets, hp]; rfl⟩
      simp only [view, View.mk.injEq, step]
      refine ⟨clientStorage_handle lib _ now sched message addr,
        (handle_sameRoutes lib _ now sched message addr).next,
        media_handle lib _ now sched message addr c, ?_, ?_⟩
      · rw [inbound_handle]
        split
        · next d _ hd _ =>
            split
            · next hc => subst hc; exact (h hd).2
            · rfl
        · rfl
      · rw [counters_rtc, hp]

theorem numbers_of_packets_nil {lib : SrtpLib S} {c : ClientRef} {f : UInt32}
    {s : System S} {e : Event S} (h : packets lib c f s e = []) :
    numbers lib c f s e = [] := by
  cases e with
  | client m => rfl
  | datagram addr data => rfl
  | jitter now => rfl
  | rtc message addr now sched =>
      rw [packets, Option.toList_eq_nil_iff, Option.map_eq_none_iff] at h
      rw [numbers_rtc, h]
      rfl

/-- In every reachable state in which `(c, f)` has counters, and for every run
from there: the numbers written for `(c, f)` are those its counters and the
packets of its stream give; any other run from any reachable state with the
same counters and the same packets writes the same numbers; and every event
that does not concern the stream can be left out, without changing the stream
or its numbers. -/
theorem rewriting_isolated (lib : SrtpLib S) (before es : List (Event S))
    (c : ClientRef) (f : UInt32) (rt : ClientRtpRuntime)
    (hrt : (after lib before).registry.counters c f = some rt) :
    Machine.trace (step lib) (numbers lib c f) (after lib before) es =
        rt.rewriteAll
          (Machine.trace (step lib) (packets lib c f) (after lib before) es) ∧
    (∀ (before' es' : List (Event S)) (c' : ClientRef) (f' : UInt32),
      (after lib before').registry.counters c' f' = some rt →
      (Machine.trace (step lib) (packets lib c' f') (after lib before')
          es').map (fun p => p.1) =
        (Machine.trace (step lib) (packets lib c f) (after lib before)
          es).map (fun p => p.1) →
      Machine.trace (step lib) (numbers lib c' f') (after lib before') es' =
        Machine.trace (step lib) (numbers lib c f) (after lib before) es) ∧
    ∀ es', Machine.Purge (step lib) (Removable lib c f) (after lib before) es
        es' →
      Machine.trace (step lib) (packets lib c f) (after lib before) es' =
        Machine.trace (step lib) (packets lib c f) (after lib before) es ∧
      Machine.trace (step lib) (numbers lib c f) (after lib before) es' =
        Machine.trace (step lib) (numbers lib c f) (after lib before) es := by
  have hs := sound_after lib before
  have heq := numbers_trace lib c f es hs hrt
  refine ⟨heq, ?_, ?_⟩
  · intro before' es' c' f' hrt' hheaders
    rw [heq, numbers_trace lib c' f' es' (sound_after lib before') hrt']
    exact rt.rewriteAll_congr hheaders
  · intro es' hpurge
    refine ⟨?_, ?_⟩
    · exact (Machine.trace_purge (sound_step lib)
        (fun _ _ e => view_step lib e) (fun _ _ e => packets_congr lib e)
        (fun _ _ hs' hR => view_removable hs' hR) hpurge hs rfl).symm
    · refine (Machine.trace_purge (sound_step lib)
        (fun _ _ e => view_step lib e) (fun _ _ e => numbers_congr lib e)
        (fun _ _ hs' hR => ?_) hpurge hs rfl).symm
      have hv := view_removable hs' hR
      exact ⟨hv.1, numbers_of_packets_nil hv.2⟩

def oneClient : List (Event Unit) :=
  [.client (.dtls (.host 1) 0),
    .client (.connected 0 ⟨(), ()⟩),
    .client (.mediaAddr (.host 1) MediaList.vp8 0 fun _ => RuntimeDraw.least)]

/-- A keep-alive between two packets: the group and the codec table once
more. -/
theorem keep_alive_leaves_numbers :
    Machine.trace (step SrtpLib.null) (numbers SrtpLib.null 0 90000)
        (after SrtpLib.null oneClient)
        [.rtc (videoPacket 7) (.host 1) 0 [],
          .rtc (videoPacket 9) (.host 1) 0 []] =
      Machine.trace (step SrtpLib.null) (numbers SrtpLib.null 0 90000)
        (after SrtpLib.null oneClient)
        [.rtc (videoPacket 7) (.host 1) 0 [],
          .client (.mediaAddr (.host 1) MediaList.vp8 5
            fun _ => RuntimeDraw.least),
          .client (.groupId 1 (.host 1) true),
          .rtc (videoPacket 9) (.host 1) 0 []] := by
  refine ((rewriting_isolated SrtpLib.null oneClient _ 0 90000 _ rfl).2.2 _
    ?_).2
  refine .keep _ (.drop ?_ (.drop ?_ (.keep _ (.nil _))))
  · intro _
    rfl
  · exact trivial

end RStreamer.System
