import RStreamer.Sdp.Attributes

/-!
# Who is a sender, and who is told so

An offer says which way media goes with direction attributes: those of a section
for the section, and those of the session for the sections without one. Two
places read them. Registering the offer asks the session alone, and answering
it asks each section alone. A browser writes directions into the sections, so a
client that only sends is answered that the server only receives, and stored as
a viewer.

Where the two agree can be said exactly. No section may leave a one-way
direction to the session, a section that says several things has to say them
consistently, and a `sendonly` of the session has to stand next to sections that
all repeat it, or not at all.
-/

namespace RStreamer

open Edit (edit ofTag)

inductive Direction where
  | sendonly | recvonly | sendrecv | inactive
  deriving DecidableEq

def SdpAttributeType.direction : SdpAttributeType → Option Direction
  | .sendonly => some .sendonly
  | .recvonly => some .recvonly
  | .other name =>
      if name = "sendrecv" then some .sendrecv
      else if name = "inactive" then some .inactive
      else none
  | _ => none

/-- The direction attributes in a list, in order. -/
def directions (l : List SdpAttribute) : List Direction :=
  l.filterMap fun a => a.type.direction

/-- The direction of a section: its own, or that of the session. -/
def effective (session own : List SdpAttribute) : Option Direction :=
  (directions own).head?.or (directions session).head?

/-! ## Turning a list of directions round -/

/-- `turnDirection`, on the directions of a section. -/
def turned (ds : List Direction) : List Direction :=
  if .recvonly ∈ ds then
    ((ds.filter (· ≠ .recvonly)).filter (· ≠ .sendonly)) ++ [.sendonly]
  else if .sendonly ∈ ds then
    ((ds.filter (· ≠ .sendonly)).filter (· ≠ .recvonly)) ++ [.recvonly]
  else ds

/-- The directions `ds` of a section are one-way in a manner that the answer can
turn round. -/
structure Turnable (session ds : List Direction) : Prop where
  own : ds = [] →
    session.head? ≠ some .sendonly ∧ session.head? ≠ some .recvonly
  sendonly : ds.head? = some .sendonly → ∀ d ∈ ds, d = .sendonly
  recvonly : ds.head? = some .recvonly → ∀ d ∈ ds, d = .sendonly ∨ d = .recvonly

theorem head?_concat_iff {l : List Direction} {d : Direction} (hd : d ∉ l) :
    (l ++ [d]).head? = some d ↔ l = [] := by
  cases l with
  | nil => simp
  | cons x xs =>
      have hx : x ≠ d := fun h => hd (h ▸ List.mem_cons_self)
      simp [hx]

theorem turned_sendonly_iff {ds : List Direction}
    (hs : ds.head? = some .sendonly) :
    (turned ds).head? = some .recvonly ↔ ∀ d ∈ ds, d = .sendonly := by
  have hmem : .sendonly ∈ ds := List.mem_of_head? hs
  by_cases hrecv : .recvonly ∈ ds
  · rw [turned, if_pos hrecv]
    refine ⟨fun h => ?_, fun h => absurd (h _ hrecv) (by decide)⟩
    have hkept := List.mem_of_head? h
    simp at hkept
  · rw [turned, if_neg hrecv, if_pos hmem, head?_concat_iff (by simp),
      List.filter_filter, List.filter_eq_nil_iff]
    refine forall₂_congr fun d hd => ?_
    have hd' : d ≠ .recvonly := fun h => hrecv (h ▸ hd)
    simp [hd']

theorem turned_recvonly_iff {ds : List Direction}
    (hs : ds.head? = some .recvonly) :
    (turned ds).head? = some .sendonly ↔
      ∀ d ∈ ds, d = .sendonly ∨ d = .recvonly := by
  rw [turned, if_pos (List.mem_of_head? hs), head?_concat_iff (by simp),
    List.filter_filter, List.filter_eq_nil_iff]
  refine forall₂_congr fun d _ => ?_
  simp [or_iff_not_imp_left]

/-- Turning a section round does what the effective directions ask for exactly
if its directions are turnable. -/
theorem turned_iff_turnable {session ds : List Direction} :
    ((ds.head?.or session.head? = some .sendonly →
        (turned ds).head? = some .recvonly) ∧
      (ds.head?.or session.head? = some .recvonly →
        (turned ds).head? = some .sendonly)) ↔ Turnable session ds := by
  cases ds with
  | nil =>
      constructor
      · rintro ⟨hsend, hrecv⟩
        refine ⟨fun _ => ⟨fun h => ?_, fun h => ?_⟩, fun h => ?_, fun h => ?_⟩
        · cases hsend h
        · cases hrecv h
        · cases h
        · cases h
      · intro h
        exact ⟨fun hs => absurd hs (h.own rfl).1,
          fun hr => absurd hr (h.own rfl).2⟩
  | cons d ds =>
      have hor : (d :: ds).head?.or session.head? = (d :: ds).head? := rfl
      rw [hor]
      constructor
      · rintro ⟨hsend, hrecv⟩
        exact ⟨fun h => (by cases h),
          fun hs => (turned_sendonly_iff hs).mp (hsend hs),
          fun hr => (turned_recvonly_iff hr).mp (hrecv hr)⟩
      · intro h
        exact ⟨fun hs => (turned_sendonly_iff hs).mpr (h.sendonly hs),
          fun hr => (turned_recvonly_iff hr).mpr (h.recvonly hr)⟩

/-! ## The directions of an answered section -/

namespace SdpAttributeType

/-- The two one-way directions have one attribute each. -/
theorem direction_eq_iff {t u : SdpAttributeType}
    (hu : u = .recvonly ∨ u = .sendonly) : t.direction = u.direction ↔ t = u := by
  cases t with
  | other name =>
      rw [direction]
      rcases hu with rfl | rfl <;> split_ifs <;> simp [direction]
  | _ => rcases hu with rfl | rfl <;> simp [direction]

theorem direction_eq_recvonly_iff {t : SdpAttributeType} :
    t.direction = some .recvonly ↔ t = .recvonly :=
  direction_eq_iff (.inl rfl)

theorem direction_eq_sendonly_iff {t : SdpAttributeType} :
    t.direction = some .sendonly ↔ t = .sendonly :=
  direction_eq_iff (.inr rfl)

theorem direction_of_isCodec {t : SdpAttributeType}
    (ht : t.isCodec) : t.direction = none := by
  simp only [isCodec, decide_eq_true_eq, List.mem_cons, List.not_mem_nil,
    or_false] at ht
  rcases ht with rfl | rfl | rfl | rfl | rfl <;> simp [direction]

end SdpAttributeType

/-- Items without a direction can come and go. -/
theorem directions_filter {p : SdpAttribute → Bool} {l : List SdpAttribute}
    (h : ∀ a ∈ l, p a = false → a.type.direction = none) :
    directions (l.filter p) = directions l := by
  rw [directions, directions, List.filterMap_filter]
  refine List.filterMap_congr fun a ha => ?_
  cases hp : p a with
  | true => rfl
  | false => exact (h a ha hp).symm

theorem directions_remove {t : SdpAttributeType} {d : Direction}
    (h : ∀ {t' : SdpAttributeType}, t'.direction = some d ↔ t' = t)
    (l : List SdpAttribute) :
    directions (l.filter fun a => a.type ≠ t) =
      (directions l).filter (· ≠ d) := by
  rw [directions, directions, List.filterMap_filter, List.filter_filterMap]
  refine List.filterMap_congr fun a _ => ?_
  by_cases ha : a.type = t
  · simp [ha, h.mpr rfl, Option.filter]
  · have hd : a.type.direction ≠ some d := fun hd => ha (h.mp hd)
    cases hdir : a.type.direction with
    | none => simp
    | some d' =>
        have hne : d' ≠ d := fun h' => hd (h' ▸ hdir)
        simp [ha, hne, Option.filter]

theorem directions_edit {es : List AttributeEdit}
    (h : ∀ e ∈ es, (e.target SdpAttribute.type).direction = none)
    (l : List SdpAttribute) :
    directions (edit SdpAttribute.type l es) = directions l := by
  have hself : ∀ l, directions l =
      directions (l.filter fun a => a.type.direction.isSome) := by
    intro l
    refine (directions_filter fun a _ ha => ?_).symm
    exact Option.isNone_iff_eq_none.mp (by simpa using ha)
  rw [hself, Edit.filter_edit, ← hself]
  intro e he a ha
  rw [ha, h e he, Option.isSome_none]

theorem mem_directions_iff {t : SdpAttributeType} {d : Direction}
    (h : ∀ {t' : SdpAttributeType}, t'.direction = some d ↔ t' = t)
    {l : List SdpAttribute} :
    d ∈ directions l ↔ (ofTag SdpAttribute.type t l).isEmpty = false := by
  rw [directions, List.mem_filterMap, List.isEmpty_eq_false_iff_exists_mem]
  refine exists_congr fun a => ?_
  rw [Edit.mem_ofTag, h]

/-- A set direction stands behind what the two removals left. -/
theorem directions_edit_turn {t : SdpAttributeType} {a : SdpAttribute}
    {d d' : Direction}
    (hd : ∀ {t' : SdpAttributeType}, t'.direction = some d ↔ t' = t)
    (hd' : ∀ {t' : SdpAttributeType}, t'.direction = some d' ↔ t' = a.type)
    (l : List SdpAttribute) :
    directions (edit SdpAttribute.type l [.remove t, .set a]) =
      (((directions l).filter (· ≠ d)).filter (· ≠ d')) ++ [d'] := by
  rw [← directions_remove hd, ← directions_remove hd']
  show directions (((l.filter fun b => b.type ≠ t).filter
    fun b => b.type ≠ a.type) ++ [a]) = _
  rw [directions, List.filterMap_append, List.filterMap_cons, hd'.mpr rfl,
    List.filterMap_nil]
  rfl

theorem directions_turnEdits (l : List SdpAttribute) :
    directions (edit SdpAttribute.type l (turnEdits l)) =
      turned (directions l) := by
  have hrecv := mem_directions_iff (l := l)
    SdpAttributeType.direction_eq_recvonly_iff
  have hsend := mem_directions_iff (l := l)
    SdpAttributeType.direction_eq_sendonly_iff
  by_cases hr : .recvonly ∈ directions l
  · rw [turned, if_pos hr, turnEdits, hrecv.mp hr, if_neg Bool.false_ne_true]
    exact directions_edit_turn SdpAttributeType.direction_eq_recvonly_iff
      SdpAttributeType.direction_eq_sendonly_iff l
  · rw [turned, if_neg hr, turnEdits,
      if_pos (Bool.not_eq_false _ ▸ mt hrecv.mpr hr)]
    by_cases hs : .sendonly ∈ directions l
    · rw [if_pos hs, hsend.mp hs, if_neg Bool.false_ne_true]
      exact directions_edit_turn SdpAttributeType.direction_eq_sendonly_iff
        SdpAttributeType.direction_eq_recvonly_iff l
    · rw [if_neg hs, if_pos (Bool.not_eq_false _ ▸ mt hsend.mpr hs)]
      rfl

section Section

variable {M : Type} {lib : SdpLib M}

theorem directions_others (m : M) :
    directions (lib.others m) = directions (lib.getAttributes m) := by
  refine directions_filter fun a _ ha => ?_
  exact SdpAttributeType.direction_of_isCodec
    (by simpa [SdpAttribute.isCodec] using ha)

theorem directions_answerSection (h : lib.Documented) {m m' : M}
    {server : ServerData} {addr : SocketAddr} {priority : UInt32}
    (hm : answerSection lib m server addr priority = .ok m') :
    directions (lib.getAttributes m') =
      turned (directions (lib.getAttributes m)) := by
  have hrest : ∀ e ∈ [.remove .ssrcGroup, .remove .ssrc] ++
      serverEdits server addr priority,
      (Edit.target SdpAttribute.type e).direction = none := by
    intro e he
    have hall : (([.remove .ssrcGroup, .remove .ssrc] ++
        serverEdits server addr priority : List AttributeEdit).all
          fun e => (e.target SdpAttribute.type).direction.isNone) = true := rfl
    exact Option.isNone_iff_eq_none.mp (List.all_eq_true.mp hall e he)
  have hmsid : directions ((lib.others m).filter fun a => a.type ≠ .msid) =
      directions (lib.getAttributes m) := by
    rw [← directions_others m]
    refine directions_filter fun a _ ha => ?_
    have hat : a.type = .msid := by simpa using ha
    rw [hat]
    rfl
  rw [← directions_others m', h.others_answerSection hm, answerEdits,
    uselessEdits, List.append_assoc, Edit.edit_append, directions_edit hrest,
    ← turnEdits_remove, ← hmsid, ← directions_turnEdits]
  rfl

/-- The answer's own directions are those of its sections. -/
theorem directions_respond (h : lib.Documented) {req answer : SdpSession M}
    {session : String} {server : ServerData} {sdpAddr : SocketAddr}
    {world : OfferWorld}
    (ha : respond lib req session server sdpAddr world = .ok answer) :
    directions answer.attributes = [] := by
  have hgroup : (groupOf lib req).type.direction = none := by
    rw [groupOf, h.sessionAttribute]
    cases hfind : req.attributes.find? fun a => a.type = .group with
    | none => rfl
    | some a =>
        have ha : a.type = .group := by simpa using List.find?_some hfind
        rw [Option.getD_some, ha]
        rfl
  simp only [respond, bind_eq_ok] at ha
  obtain ⟨media, -, r₁, h₁, r₂, h₂, r₃, h₃, r₄, h₄, hans⟩ := ha
  cases hans
  show directions r₄.attributes = []
  rw [h.addSessionAttribute h₄, h.addSessionAttribute h₃,
    h.addSessionAttribute h₂, h.addSessionAttribute h₁, h.newSession]
  refine List.filterMap_eq_nil_iff.mpr fun a ha => ?_
  simp only [List.nil_append, List.mem_append, List.mem_singleton] at ha
  rcases ha with ((rfl | rfl) | rfl) | rfl
  · rfl
  · exact hgroup
  · rfl
  · rfl

/-! ## Roles -/

/-- A one-way section `m` of the offer is answered by one the other way. -/
def AnsweredRound (lib : SdpLib M) (req answer : SdpSession M) (m m' : M) :
    Prop :=
  (effective req.attributes (lib.getAttributes m) = some .sendonly →
    effective answer.attributes (lib.getAttributes m') = some .recvonly) ∧
  (effective req.attributes (lib.getAttributes m) = some .recvonly →
    effective answer.attributes (lib.getAttributes m') = some .sendonly)

/-- The role stored for a client is the one its sections announce, and every
one-way section is answered with the other way. -/
structure DirectionsAgree (lib : SdpLib M) (req answer : SdpSession M)
    (stored : List Registration) : Prop where
  role : ∀ g ∈ stored, (g.item.isSender = true ↔ ∀ m ∈ req.media,
    effective req.attributes (lib.getAttributes m) = some .sendonly)
  round : List.Forall₂ (AnsweredRound lib req answer) req.media answer.media

/-- What an offer has to be for that: turnable in every section, and, if it
names a client, `sendonly` at both levels or at neither. -/
structure DirectionsClear (lib : SdpLib M) (req : SdpSession M) : Prop where
  turnable : ∀ m ∈ req.media,
    Turnable (directions req.attributes) (directions (lib.getAttributes m))
  levels : (∃ m ∈ req.media, ∃ u, .iceUfrag u ∈ lib.getAttributes m) →
    (.sendonly ∈ req.attributes ↔ ∀ m ∈ req.media,
      (directions (lib.getAttributes m)).head? = some .sendonly)

theorem isSome_find? {l : List SdpAttribute} {t : SdpAttributeType} :
    (l.find? fun a => a.type = t).isSome ↔ ∃ a ∈ l, a.type = t := by
  simp

theorem isSender_registrations (h : lib.Documented) {req : SdpSession M}
    {server : ServerData} {groupId : Nat} {now : Nat → SystemTime}
    {g : Registration} (hg : g ∈ registrations lib req server groupId now) :
    g.item.isSender = true ↔ .sendonly ∈ req.attributes := by
  rw [registrations, List.mem_mapIdx] at hg
  obtain ⟨i, hi, rfl⟩ := hg
  show (lib.sessionAttribute req .sendonly).isSome = true ↔ _
  rw [h.sessionAttribute, isSome_find?]
  constructor
  · rintro ⟨a, ha, htype⟩
    cases a with
    | sendonly => exact ha
    | _ => cases htype
  · exact fun hs => ⟨.sendonly, hs, rfl⟩

theorem registrations_eq_nil_iff (h : lib.Documented) {req : SdpSession M}
    {server : ServerData} {groupId : Nat} {now : Nat → SystemTime} :
    registrations lib req server groupId now = [] ↔
      ¬ ∃ m ∈ req.media, ∃ u, .iceUfrag u ∈ lib.getAttributes m := by
  rw [registrations, List.mapIdx_eq_nil_iff, clientUsers, List.map_eq_nil_iff,
    List.filterMap_eq_nil_iff, not_exists]
  refine forall_congr' fun m => ?_
  rw [not_and]
  refine imp_congr_right fun _ => ?_
  rw [h.getAttribute, List.find?_eq_none, not_exists]
  constructor
  · intro hnone u hu
    exact hnone _ hu (by rfl)
  · intro hnone a ha
    cases a with
    | iceUfrag u => exact absurd ha (hnone u)
    | _ => simp [SdpAttribute.type]

theorem forall₂_answeredRound_iff (h : lib.Documented)
    {req answer : SdpSession M} {session : String} {server : ServerData}
    {sdpAddr : SocketAddr} {world : OfferWorld}
    (ha : respond lib req session server sdpAddr world = .ok answer) :
    List.Forall₂ (AnsweredRound lib req answer) req.media answer.media ↔
      ∀ m ∈ req.media, Turnable (directions req.attributes)
        (directions (lib.getAttributes m)) := by
  refine forall₂_iff_forall_mem (forall₂_answerMedia (media_respond ha)) ?_
  rintro m m' ⟨p, hm⟩
  rw [AnsweredRound, effective, effective, directions_respond h ha,
    directions_answerSection h hm, List.head?_nil, Option.or_none]
  exact turned_iff_turnable

theorem effective_sendonly_iff {session own : List SdpAttribute}
    (h : Turnable (directions session) (directions own)) :
    effective session own = some .sendonly ↔
      (directions own).head? = some .sendonly := by
  rw [effective]
  cases hds : directions own with
  | nil =>
      refine ⟨fun hs => ?_, fun hs => (by cases hs)⟩
      exact absurd hs (h.own hds).1
  | cons d ds => rfl

/-- The stored role is read off the session, so it is the announced one if the
session says what the sections do. -/
theorem role_iff_levels (h : lib.Documented) {req : SdpSession M}
    {server : ServerData} {groupId : Nat} {now : Nat → SystemTime}
    (hturn : ∀ m ∈ req.media,
      Turnable (directions req.attributes) (directions (lib.getAttributes m))) :
    (∀ g ∈ registrations lib req server groupId now,
      (g.item.isSender = true ↔ ∀ m ∈ req.media,
        effective req.attributes (lib.getAttributes m) = some .sendonly)) ↔
      ((∃ m ∈ req.media, ∃ u, .iceUfrag u ∈ lib.getAttributes m) →
        (.sendonly ∈ req.attributes ↔ ∀ m ∈ req.media,
          (directions (lib.getAttributes m)).head? = some .sendonly)) := by
  have hown : (∀ m ∈ req.media,
      effective req.attributes (lib.getAttributes m) = some .sendonly) ↔
      ∀ m ∈ req.media,
        (directions (lib.getAttributes m)).head? = some .sendonly :=
    forall₂_congr fun m hm => effective_sendonly_iff (hturn m hm)
  have hnamed : registrations lib req server groupId now ≠ [] ↔
      ∃ m ∈ req.media, ∃ u, .iceUfrag u ∈ lib.getAttributes m :=
    (registrations_eq_nil_iff h).not_left
  rw [hown]
  constructor
  · intro hrole hex
    obtain ⟨g, hg⟩ := List.exists_mem_of_ne_nil _ (hnamed.mpr hex)
    exact (isSender_registrations h hg).symm.trans (hrole g hg)
  · intro hlevels g hg
    rw [isSender_registrations h hg]
    exact hlevels (hnamed.mp (List.ne_nil_of_mem hg))

/-- For an offer that is answered, the stored role and the answered directions
agree if and only if the offer is clear about its directions. -/
theorem directions_agree_iff_clear (lib : SdpLib M) (h : lib.Documented)
    (sdp : String) (server : ServerData) (groupId : Nat) (sdpAddr : SocketAddr)
    (world : OfferWorld) (req answer : SdpSession M)
    (hreq : lib.parseSdp sdp true = .ok req)
    (hanswer : (generateStreamerResponse lib sdp (some server) groupId sdpAddr
      world).answer = .ok answer) :
    DirectionsAgree lib req answer (generateStreamerResponse lib sdp
        (some server) groupId sdpAddr world).registrations ↔
      DirectionsClear lib req := by
  obtain ⟨server', session, hserver, hregs, hres⟩ :=
    response_of_answer hreq hanswer
  cases hserver
  have hround := forall₂_answeredRound_iff h hres
  rw [hregs]
  constructor
  · intro hagree
    have hturn := hround.mp hagree.round
    exact ⟨hturn, (role_iff_levels h hturn).mp hagree.role⟩
  · intro hclear
    exact ⟨(role_iff_levels h hclear.turnable).mpr hclear.levels,
      hround.mpr hclear.turnable⟩

end Section

/-! ## A client that only sends -/

def sendingOffer : SdpSession PlainMedia := clientOffer "abcd" [] [.sendonly]

def sendingText : String := clientText "abcd" "" "a=sendonly\r\n"

/-- A client whose only section is `sendonly` is stored as one that watches. -/
theorem sending_client_stored_as_viewer : ∃ answer,
    (answerClient sendingText sendingOffer).answer = .ok answer ∧
      ¬ DirectionsAgree (SdpLib.plain sendingText sendingOffer) sendingOffer
        answer (answerClient sendingText sendingOffer).registrations := by
  obtain ⟨answer, hanswer⟩ := exists_ok_of_isOk
    (x := (answerClient sendingText sendingOffer).answer) (by decide +kernel)
  refine ⟨answer, hanswer, fun hagree => ?_⟩
  obtain ⟨server, session, -, hregs, -⟩ :=
    response_of_answer (SdpLib.parse_plain _ _) hanswer
  have hlib := SdpLib.documented_plain sendingText sendingOffer
  have hnamed : ∃ m ∈ sendingOffer.media, ∃ u, .iceUfrag u ∈
      (SdpLib.plain sendingText sendingOffer).getAttributes m :=
    ⟨_, List.mem_singleton_self _, "abcd", List.mem_cons_self⟩
  obtain ⟨g, hg⟩ := List.exists_mem_of_ne_nil _
    ((registrations_eq_nil_iff hlib).not_left.mpr hnamed)
  have hrole := hagree.role g (hregs ▸ hg)
  rw [isSender_registrations hlib hg] at hrole
  have hnone : .sendonly ∉ sendingOffer.attributes := List.not_mem_nil
  refine hnone (hrole.mpr fun m hm => ?_)
  obtain rfl := List.mem_singleton.mp hm
  rfl

/-- The same client, if it also says so for the session. -/
def repeatingOffer : SdpSession PlainMedia :=
  clientOffer "abcd" [.sendonly] [.sendonly]

def repeatingText : String := clientText "abcd" "a=sendonly\r\n" "a=sendonly\r\n"

theorem repeating_client_agrees : ∃ answer,
    (answerClient repeatingText repeatingOffer).answer = .ok answer ∧
      DirectionsAgree (SdpLib.plain repeatingText repeatingOffer) repeatingOffer
        answer (answerClient repeatingText repeatingOffer).registrations := by
  obtain ⟨answer, hanswer⟩ := exists_ok_of_isOk
    (x := (answerClient repeatingText repeatingOffer).answer) (by decide +kernel)
  refine ⟨answer, hanswer, ?_⟩
  refine (directions_agree_iff_clear _ (SdpLib.documented_plain _ _)
    repeatingText _ 1 (.host 9) _ repeatingOffer answer (SdpLib.parse_plain _ _)
      hanswer).mpr ⟨?_, ?_⟩
  · intro m hm
    obtain rfl := List.mem_singleton.mp hm
    exact ⟨by decide +kernel, by decide +kernel, by decide +kernel⟩
  · intro _
    refine ⟨fun _ m hm => ?_, fun _ => List.mem_singleton_self _⟩
    obtain rfl := List.mem_singleton.mp hm
    rfl

end RStreamer
