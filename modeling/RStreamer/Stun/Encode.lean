import RStreamer.Stun.Parse

/-!
# The encoding of binding requests

What a STUN agent puts on the wire: a header with the type, the length of
everything after it, the cookie and the transaction id, then the attributes,
each a type, the length of its value, the value and bytes that pad it to the
alignment. What the padding bytes are is up to the sender.

The parser reads such a request attribute by attribute (`parseAttributes_at`).
Its two bounds compare offsets into the datagram with a length that starts
twenty bytes later, so it gets as far as the user attribute exactly when at
least twenty bytes of attributes come after it (`parse_encodeRequest`).
-/

namespace RStreamer.Stun

open Bytes

/-- `StunAttributeType::MessageIntegrity` -/
def MESSAGE_INTEGRITY : UInt16 := 0x08

/-- `StunAttributeType::Fingerprint` -/
def FINGERPRINT : UInt16 := 0x8028

structure Attribute where
  type : UInt16
  value : List UInt8
  padding : List UInt8
  aligned : value.length + padding.length = paddedLen value.length

namespace Attribute

def encode (a : Attribute) : List UInt8 :=
  be16 a.type ++ (be16 (UInt16.ofNat a.value.length) ++ (a.value ++ a.padding))

/-- An attribute padded with zeros. -/
def zeroPadded (type : UInt16) (value : List UInt8) : Attribute where
  type := type
  value := value
  padding := List.replicate (paddedLen value.length - value.length) 0
  aligned := by
    rw [List.length_replicate]
    have := le_paddedLen value.length
    omega

theorem length_encode (a : Attribute) :
    a.encode.length = 4 + paddedLen a.value.length := by
  have := a.aligned
  simp only [encode, be16, List.length_append, List.length_cons,
    List.length_nil]
  omega

end Attribute

def encodeAttributes (attrs : List Attribute) : List UInt8 :=
  attrs.flatMap Attribute.encode

@[simp] theorem encodeAttributes_cons (a : Attribute)
    (attrs : List Attribute) :
    encodeAttributes (a :: attrs) = a.encode ++ encodeAttributes attrs := rfl

@[simp] theorem encodeAttributes_append (attrs attrs' : List Attribute) :
    encodeAttributes (attrs ++ attrs') =
      encodeAttributes attrs ++ encodeAttributes attrs' :=
  List.flatMap_append

theorem length_value_le {a : Attribute} {attrs : List Attribute}
    (h : a ∈ attrs) : a.value.length ≤ (encodeAttributes attrs).length := by
  induction attrs with
  | nil => cases h
  | cons b attrs ih =>
      rw [encodeAttributes_cons, List.length_append]
      rcases List.mem_cons.mp h with rfl | hmem
      · have hlen := a.length_encode
        have hpad := le_paddedLen a.value.length
        omega
      · have hle := ih hmem
        omega

/-- The header of a request with `length` bytes of attributes. -/
def encodeHeader (transactionId : TransactionId) (length : Nat) : List UInt8 :=
  be16 BINDING_REQUEST ++ (be16 (UInt16.ofNat length) ++
    (STUN_COOKIE ++ transactionId.toList))

def encodeRequest (transactionId : TransactionId) (attrs : List Attribute) :
    List UInt8 :=
  encodeHeader transactionId (encodeAttributes attrs).length ++
    encodeAttributes attrs

theorem length_encodeHeader (transactionId : TransactionId) (length : Nat) :
    (encodeHeader transactionId length).length = STUN_HEADER_LEN := by
  have hid : transactionId.toList.length = STUN_TRANSACTION_ID_LEN :=
    transactionId.length_toList
  simp only [encodeHeader, List.length_append, hid]
  rfl

/-! ## One attribute -/

theorem parseAttributes_at {bytes front back : List UInt8} {a : Attribute}
    (hbytes : bytes = front ++ (a.encode ++ back))
    (hvalue : a.value.length < 65536) (length limit : Nat)
    (transactionId : TransactionId) :
    parseAttributes bytes length limit transactionId front.length =
      if front.length < limit then
        if front.length + a.encode.length > length then .ok none
        else if a.type = USER then parseUser transactionId a.value
        else parseAttributes bytes length limit transactionId
          (front.length + a.encode.length)
      else .ok none := by
  have hlen : (UInt16.ofNat a.value.length).toNat = a.value.length :=
    UInt16.toNat_ofNat_of_lt' hvalue
  have htype : slice bytes front.length (front.length + 2) =
      .ok (be16 a.type) := by
    rw [hbytes, Attribute.encode, List.append_assoc]
    exact slice_append rfl rfl
  have hvlen : slice bytes (front.length + 2) (front.length + 4) =
      .ok (be16 (UInt16.ofNat a.value.length)) := by
    rw [hbytes, Attribute.encode, List.append_assoc, List.append_assoc,
      ← List.append_assoc front]
    exact slice_append (by rw [List.length_append]; rfl) rfl
  have hval : slice bytes (front.length + 4)
      (front.length + 4 + a.value.length) = .ok a.value := by
    rw [hbytes, Attribute.encode, List.append_assoc, List.append_assoc,
      List.append_assoc, ← List.append_assoc front,
      ← List.append_assoc (front ++ _)]
    exact slice_append (by rw [List.length_append, List.length_append]; rfl) rfl
  rw [parseAttributes, a.length_encode, ← Nat.add_assoc]
  split
  · simp only [htype, hvlen, ok_bind, readU16_be16, hlen, hval]
    rfl
  · rfl

/-! ## The user attribute -/

def utf8 (s : String) : List UInt8 := s.toUTF8.data.toList

/-- A value of the user attribute that names two users. -/
structure NamesUsers (value : List UInt8) (serverUser remoteUser : String) :
    Prop where
  value_eq : value = utf8 serverUser ++ 58 :: utf8 remoteUser
  no_colon : 58 ∉ utf8 serverUser
  server_len : (utf8 serverUser).length ≤ STUN_MAX_IDENTIFIER_LEN
  remote_len : (utf8 remoteUser).length ≤ STUN_MAX_IDENTIFIER_LEN

theorem fromUtf8_eq_some {bytes : List UInt8} {s : String} :
    fromUtf8 bytes = some s ↔ bytes = utf8 s := by
  rw [fromUtf8, String.fromUTF8?]
  split
  · next hvalid =>
      rw [Option.some.injEq, ← String.toByteArray_inj]
      refine ⟨?_, ?_⟩
      · intro h
        rw [utf8, String.toUTF8, ← h]
        rfl
      · rintro rfl
        rfl
  · next hinvalid =>
      refine iff_of_false (by simp) ?_
      rintro rfl
      exact hinvalid s.isValidUTF8

theorem findIdx?_colon {server remote : List UInt8} (h : 58 ∉ server) :
    (server ++ 58 :: remote).findIdx? (· == 58) = some server.length := by
  rw [List.findIdx?_eq_some_iff_getElem]
  refine ⟨by simp, by simp, ?_⟩
  intro j hj
  rw [List.getElem_append_left hj]
  simp only [beq_iff_eq]
  rintro heq
  exact h (heq ▸ List.getElem_mem hj)

theorem parseUser_split (transactionId : TransactionId)
    {server remote : List UInt8} (h : 58 ∉ server) :
    parseUser transactionId (server ++ 58 :: remote) =
      if server.length > STUN_MAX_IDENTIFIER_LEN ||
          remote.length > STUN_MAX_IDENTIFIER_LEN then .ok none
      else
        match fromUtf8 server, fromUtf8 remote with
        | some serverUser, some remoteUser =>
            .ok (some ⟨transactionId, remoteUser, serverUser⟩)
        | _, _ => .ok none := by
  have hserver : slice (server ++ 58 :: remote) 0 server.length =
      .ok server :=
    @slice_append [] server (58 :: remote) _ _ rfl (Nat.zero_add _).symm
  have hremote : slice (server ++ 58 :: remote) (server.length + 1)
      (server ++ 58 :: remote).length = .ok remote := by
    have happ : server ++ 58 :: remote = (server ++ [58]) ++ (remote ++ []) := by
      simp
    rw [happ]
    exact slice_append (by simp) (by simp; omega)
  rw [parseUser, findIdx?_colon h]
  simp only [hserver, hremote, ok_bind]
  rfl

theorem parseUser_no_colon (transactionId : TransactionId)
    {value : List UInt8} (h : 58 ∉ value) :
    parseUser transactionId value = .ok none := by
  have hnone : value.findIdx? (· == 58) = none := by
    rw [List.findIdx?_eq_none_iff]
    intro b hb
    simp only [beq_eq_false_iff_ne, ne_eq]
    rintro rfl
    exact h hb
  rw [parseUser, hnone]
  rfl

theorem parseUser_eq_some {transactionId : TransactionId} {value : List UInt8}
    {req : StunBindingRequest} :
    parseUser transactionId value = .ok (some req) ↔
      req.transactionId = transactionId ∧
        NamesUsers value req.serverUser req.remoteUser := by
  refine ⟨?_, ?_⟩
  · intro h
    by_cases hmem : 58 ∈ value
    · obtain ⟨server, remote, rfl, hcolon⟩ := List.eq_append_cons_of_mem hmem
      rw [parseUser_split transactionId hcolon] at h
      split at h
      · cases h
      · next hlen =>
          simp only [Bool.or_eq_true, decide_eq_true_eq, not_or,
            gt_iff_lt, Nat.not_lt] at hlen
          split at h
          · next serverUser remoteUser hs hr =>
              cases h
              rw [fromUtf8_eq_some] at hs hr
              subst hs hr
              exact ⟨rfl, rfl, hcolon, hlen.1, hlen.2⟩
          · cases h
    · rw [parseUser_no_colon transactionId hmem] at h
      cases h
  · rintro ⟨rfl, rfl, hcolon, hserver, hremote⟩
    rw [parseUser_split _ hcolon, if_neg, fromUtf8_eq_some.mpr rfl,
      fromUtf8_eq_some.mpr rfl]
    simp only [Bool.or_eq_true, decide_eq_true_eq, not_or, gt_iff_lt,
      Nat.not_lt]
    exact ⟨hserver, hremote⟩

theorem parseUser_eq_none {transactionId : TransactionId}
    {value : List UInt8} :
    parseUser transactionId value = .ok none ↔
      ∀ serverUser remoteUser, ¬ NamesUsers value serverUser remoteUser := by
  refine ⟨?_, ?_⟩
  · intro h serverUser remoteUser hnames
    have hsome := parseUser_eq_some.mpr
      (show (⟨transactionId, remoteUser, serverUser⟩ :
        StunBindingRequest).transactionId = transactionId ∧ _ from
        ⟨rfl, hnames⟩)
    rw [h] at hsome
    cases hsome
  · intro h
    obtain ⟨res, hres⟩ := parseUser_ok transactionId value
    cases res with
    | none => exact hres
    | some req => exact absurd (parseUser_eq_some.mp hres).2 (h _ _)

/-! ## A whole request -/

/-- Everything before the user attribute is skipped, as long as the bounds let
the loop get past it. -/
theorem parseAttributes_user {user : Attribute} (huser : user.type = USER)
    (hvalue : user.value.length < 65536) (length limit : Nat)
    (transactionId : TransactionId) :
    ∀ (before : List Attribute) {bytes front back : List UInt8},
      (∀ a ∈ before, a.type ≠ USER ∧ a.value.length < 65536) →
      bytes = front ++ (encodeAttributes before ++ (user.encode ++ back)) →
      parseAttributes bytes length limit transactionId front.length =
        if front.length + (encodeAttributes before).length < limit ∧
            front.length + (encodeAttributes before).length +
              user.encode.length ≤ length then
          parseUser transactionId user.value
        else .ok none := by
  intro before
  induction before with
  | nil =>
      intro bytes front back _ hbytes
      rw [parseAttributes_at hbytes hvalue, huser]
      rw [if_pos rfl]
      have h0 : (encodeAttributes []).length = 0 := rfl
      rw [h0]
      by_cases hlt : front.length < limit
      · by_cases hroom : front.length + user.encode.length > length
        · rw [if_pos hlt, if_pos hroom, if_neg (by omega)]
        · rw [if_pos hlt, if_neg hroom, if_pos (by omega)]
      · rw [if_neg hlt, if_neg (by omega)]
  | cons a before ih =>
      intro bytes front back hbefore hbytes
      obtain ⟨hne, hlen⟩ := hbefore a (List.mem_cons_self ..)
      have hrest : ∀ b ∈ before, b.type ≠ USER ∧ b.value.length < 65536 :=
        fun b hb => hbefore b (List.mem_cons_of_mem a hb)
      rw [encodeAttributes_cons, List.append_assoc] at hbytes
      have hnext := @ih bytes (front ++ a.encode) back hrest
        (by rw [hbytes, List.append_assoc])
      rw [List.length_append] at hnext
      rw [parseAttributes_at hbytes hlen, if_neg hne, hnext,
        encodeAttributes_cons, List.length_append]
      by_cases hlt : front.length < limit
      · by_cases hroom : front.length + a.encode.length > length
        · rw [if_pos hlt, if_pos hroom, if_neg (by omega)]
        · rw [if_pos hlt, if_neg hroom, Nat.add_assoc front.length]
      · rw [if_neg hlt, if_neg (by omega)]

theorem parseStunBindingRequest_header (transactionId : TransactionId)
    {length : Nat} (h4 : 4 ≤ length) (h16 : length < 65536)
    {body : List UInt8} (hbody : length ≤ body.length) :
    parseStunBindingRequest (encodeHeader transactionId length ++ body) =
      parseAttributes (encodeHeader transactionId length ++ body) length
        (length - 4) transactionId STUN_HEADER_LEN := by
  have hid : transactionId.toList.length = STUN_TRANSACTION_ID_LEN :=
    transactionId.length_toList
  have hsize : STUN_HEADER_LEN + length ≤
      (encodeHeader transactionId length ++ body).length := by
    rw [List.length_append, length_encodeHeader]
    omega
  have hbytes : encodeHeader transactionId length ++ body =
      be16 BINDING_REQUEST ++ (be16 (UInt16.ofNat length) ++
        (STUN_COOKIE ++ (transactionId.toList ++ body))) := by
    simp only [encodeHeader, List.append_assoc]
  generalize encodeHeader transactionId length ++ body = b at hsize hbytes ⊢
  have hdeclared : declaredLength b = length := by
    rw [declaredLength, hbytes]
    show (ofBe16 (UInt16.ofNat length >>> 8).toUInt8
      (UInt16.ofNat length).toUInt8).toNat = length
    rw [ofBe16_be16, UInt16.toNat_ofNat_of_lt' h16]
  have hheader : HasStunHeader b := by
    refine ⟨by rw [hbytes]; rfl, ?_, ?_, by rw [hbytes]; rfl⟩
    · rw [hdeclared]; exact h4
    · rw [hdeclared]; exact hsize
  rcases parse_cases b with ⟨hnot, -⟩ | ⟨-, transactionId', hid', hparse⟩
  · exact absurd hheader hnot
  · have hsame : transactionId' = transactionId := by
      rw [← Vector.toList_inj, hid', hbytes]
      exact List.take_left' hid
    rw [hparse, hdeclared, hsame]

/-- A message integrity alone is long enough for what comes before it to be
read. -/
theorem room_integrity {integrity : Attribute}
    (hlen : integrity.value.length = 20) (attrs attrs' : List Attribute) :
    STUN_HEADER_LEN ≤
      (encodeAttributes (attrs ++ integrity :: attrs')).length := by
  have henc := integrity.length_encode
  rw [hlen] at henc
  rw [encodeAttributes_append, encodeAttributes_cons, List.length_append,
    List.length_append, henc]
  show 20 ≤ _ + (24 + _)
  omega

/-- A request is understood by its first user attribute, if at least twenty
bytes of attributes come after it; otherwise it is not understood. -/
theorem parse_encodeRequest (transactionId : TransactionId)
    {before after : List Attribute} {user : Attribute}
    (hbefore : ∀ a ∈ before, a.type ≠ USER) (huser : user.type = USER)
    (h16 : (encodeAttributes (before ++ user :: after)).length < 65536)
    (trailing : List UInt8) :
    parseStunBindingRequest
        (encodeRequest transactionId (before ++ user :: after) ++ trailing) =
      if STUN_HEADER_LEN ≤ (encodeAttributes after).length then
        parseUser transactionId user.value
      else .ok none := by
  have hshort : ∀ a ∈ before ++ user :: after, a.value.length < 65536 :=
    fun a ha => Nat.lt_of_le_of_lt (length_value_le ha) h16
  have hvalue : user.value.length < 65536 := hshort user (by simp)
  have huserLen := user.length_encode
  have hpad := le_paddedLen user.value.length
  have hlen : (encodeAttributes (before ++ user :: after)).length =
      (encodeAttributes before).length + (user.encode.length +
        (encodeAttributes after).length) := by
    rw [encodeAttributes_append, encodeAttributes_cons, List.length_append,
      List.length_append]
  rw [encodeRequest, List.append_assoc,
    parseStunBindingRequest_header transactionId (by omega) h16 (by simp)]
  have hparse := parseAttributes_user huser hvalue
    (encodeAttributes (before ++ user :: after)).length
    ((encodeAttributes (before ++ user :: after)).length - 4) transactionId
    before (fun a ha => ⟨hbefore a ha, hshort a (by simp [ha])⟩)
    (show encodeHeader transactionId
        (encodeAttributes (before ++ user :: after)).length ++
          (encodeAttributes (before ++ user :: after) ++ trailing) =
        encodeHeader transactionId
          (encodeAttributes (before ++ user :: after)).length ++
          (encodeAttributes before ++ (user.encode ++
            (encodeAttributes after ++ trailing))) by
      rw [encodeAttributes_append, encodeAttributes_cons]
      simp only [List.append_assoc])
  rw [length_encodeHeader] at hparse
  rw [hparse, hlen]
  by_cases hroom : STUN_HEADER_LEN ≤ (encodeAttributes after).length
  · rw [if_pos hroom]
    by_cases hempty : user.value.length = 0
    · -- an empty value is not understood, whether it is reached or not
      have hnone : parseUser transactionId user.value = .ok none := by
        rw [List.length_eq_zero_iff] at hempty
        rw [hempty]
        exact parseUser_no_colon transactionId List.not_mem_nil
      rw [hnone, ite_self]
    · rw [if_pos (by omega)]
  · rw [if_neg hroom, if_neg (by omega)]

end RStreamer.Stun
