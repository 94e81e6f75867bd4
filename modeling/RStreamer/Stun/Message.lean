import RStreamer.Sdp.Types
import RStreamer.Stun.Encode

/-!
# How a STUN agent reads a message

The receiving side of the protocol, for any message: the header is checked and the
body is cut into attributes that have to tile it exactly (`decodeMessage`), a
mapped address is recovered from its exclusive-or with the cookie and the
transaction id, and the two attributes at the end are verified against what comes
before them. Nothing here is taken from the program; it is what its responses are
held against.

The lemmas are about messages given as a header and encoded attributes: each
function takes one encoded attribute off the front of a body and goes on with the
rest.
-/

namespace RStreamer.Stun

open Bytes

/-! ## Messages -/

/-- A message as it is read: attributes are types with values. -/
structure Message where
  type : UInt16
  transactionId : TransactionId
  attributes : List (UInt16 × List UInt8)

/-- Cuts a body into attributes; nothing may be left over. -/
def decodeAttributes (body : List UInt8) :
    Option (List (UInt16 × List UInt8)) :=
  match body with
  | [] => some []
  | t₀ :: t₁ :: l₀ :: l₁ :: rest =>
      let len := (ofBe16 l₀ l₁).toNat
      if paddedLen len ≤ rest.length then
        (decodeAttributes (rest.drop (paddedLen len))).map
          fun attrs => (ofBe16 t₀ t₁, rest.take len) :: attrs
      else none
  | _ => none
termination_by body.length
decreasing_by
  simp only [List.length_drop, List.length_cons]
  omega

def toVector? (n : Nat) (bytes : List UInt8) : Option (Vector UInt8 n) :=
  if h : bytes.length = n then some ⟨bytes.toArray, h⟩ else none

theorem toVector?_toList {n : Nat} (v : Vector UInt8 n) :
    toVector? n v.toList = some v :=
  dif_pos v.length_toList

/-- Reads a message: the two top bits are zero, the cookie is in place, the
length field counts exactly what follows the header, the length is a multiple of
four, and the attributes tile the body. -/
def decodeMessage (bytes : List UInt8) : Option Message :=
  match bytes with
  | t₀ :: t₁ :: l₀ :: l₁ :: rest =>
      if t₀ >>> 6 = 0 ∧ rest.take 4 = STUN_COOKIE ∧
          STUN_HEADER_LEN + (ofBe16 l₀ l₁).toNat = bytes.length ∧
          bytes.length % 4 = 0 then
        (toVector? STUN_TRANSACTION_ID_LEN ((rest.drop 4).take 12)).bind
          fun transactionId => (decodeAttributes (rest.drop 16)).map
            fun attrs => ⟨ofBe16 t₀ t₁, transactionId, attrs⟩
      else none
  | _ => none

/-! ## Addresses -/

def xorBytes (bytes mask : List UInt8) : List UInt8 :=
  List.zipWith (· ^^^ ·) bytes mask

/-- XOR-MAPPED-ADDRESS: the port is masked with the top half of the cookie, an
IPv4 address with the cookie, an IPv6 address with the cookie and the
transaction id. -/
def decodeXorMappedAddress (transactionId : TransactionId)
    (value : List UInt8) : Option (IpAddr × UInt16) :=
  match value with
  | _ :: family :: p₀ :: p₁ :: rest =>
      let port := ofBe16 p₀ p₁ ^^^ 0x2112
      if family = 1 then
        (toVector? 4 (xorBytes rest STUN_COOKIE)).map fun ip => (.v4 ip, port)
      else if family = 2 then
        (toVector? 16 (xorBytes rest (STUN_COOKIE ++ transactionId.toList))).map
          fun ip => (.v6 ip, port)
      else none
  | _ => none

/-! ## Verification -/

/-- Where the first attribute of a type starts in a body. -/
def attributeOffset (type : UInt16) (body : List UInt8) : Option Nat :=
  match body with
  | t₀ :: t₁ :: l₀ :: l₁ :: rest =>
      let len := 4 + paddedLen (ofBe16 l₀ l₁).toNat
      if ofBe16 t₀ t₁ = type then some 0
      else (attributeOffset type (rest.drop (len - 4))).map (· + len)
  | _ => none
termination_by body.length
decreasing_by
  simp only [List.length_drop, List.length_cons]
  omega

/-- The 20 bytes in the MESSAGE-INTEGRITY attribute are the HMAC of everything
before the attribute, taken with the length field set to the end of the
attribute. -/
def verifyIntegrity (hmac : List UInt8 → Vector UInt8 20)
    (message : List UInt8) : Bool :=
  match attributeOffset MESSAGE_INTEGRITY (message.drop STUN_HEADER_LEN) with
  | none => false
  | some i =>
      let start := STUN_HEADER_LEN + i
      let adjusted := overwrite message 2 (be16 (UInt16.ofNat (i + 24)))
      (message.drop (start + 4)).take 20 = (hmac (adjusted.take start)).toList

/-- The four bytes in the FINGERPRINT attribute are the CRC of everything before
the attribute, xored with a constant. -/
def verifyFingerprint (crc : List UInt8 → UInt32) (message : List UInt8) :
    Bool :=
  match attributeOffset FINGERPRINT (message.drop STUN_HEADER_LEN) with
  | none => false
  | some i =>
      let start := STUN_HEADER_LEN + i
      (message.drop (start + 4)).take 4 =
        be32 (crc (message.take start) ^^^ 0x5354554e)

/-! ## Encoded messages are read back -/

theorem xorBytes_xorBytes : ∀ {bytes mask : List UInt8},
    bytes.length ≤ mask.length →
      xorBytes (xorBytes bytes mask) mask = bytes := by
  intro bytes
  induction bytes with
  | nil => intro mask _; rfl
  | cons b bytes ih =>
      intro mask h
      cases mask with
      | nil => cases h
      | cons m mask =>
          have hb : b ^^^ m ^^^ m = b := by
            rw [UInt8.xor_assoc, UInt8.xor_self, UInt8.xor_zero]
          show (b ^^^ m ^^^ m) :: xorBytes (xorBytes bytes mask) mask = _
          rw [hb, ih (Nat.le_of_succ_le_succ h)]

theorem decodeAttributes_encode {a : Attribute} (h : a.value.length < 65536)
    (rest : List UInt8) : decodeAttributes (a.encode ++ rest) =
      (decodeAttributes rest).map fun attrs => (a.type, a.value) :: attrs := by
  have hlen : (UInt16.ofNat a.value.length).toNat = a.value.length :=
    UInt16.toNat_ofNat_of_lt' h
  have hroom : paddedLen a.value.length ≤
      (a.value ++ a.padding ++ rest).length := by
    rw [List.length_append, List.length_append, a.aligned]
    omega
  have hdrop : (a.value ++ a.padding ++ rest).drop
      (paddedLen a.value.length) = rest := by
    rw [← a.aligned, ← List.length_append, List.drop_left]
  have htake : (a.value ++ a.padding ++ rest).take a.value.length =
      a.value := by
    rw [List.append_assoc, List.take_left]
  show decodeAttributes (_ :: _ :: _ :: _ :: (a.value ++ a.padding ++ rest)) = _
  rw [decodeAttributes]
  simp only [ofBe16_be16, hlen, hdrop, htake, if_pos hroom]

theorem attributeOffset_encode {a : Attribute} (h : a.value.length < 65536)
    (type : UInt16) (rest : List UInt8) :
    attributeOffset type (a.encode ++ rest) =
      if a.type = type then some 0
      else (attributeOffset type rest).map (· + a.encode.length) := by
  have hlen : (UInt16.ofNat a.value.length).toNat = a.value.length :=
    UInt16.toNat_ofNat_of_lt' h
  have hdrop : (a.value ++ a.padding ++ rest).drop
      (paddedLen a.value.length) = rest := by
    rw [← a.aligned, ← List.length_append, List.drop_left]
  rw [a.length_encode]
  show attributeOffset type
    (_ :: _ :: _ :: _ :: (a.value ++ a.padding ++ rest)) = _
  rw [attributeOffset]
  simp only [ofBe16_be16, hlen, Nat.add_sub_cancel_left, hdrop]

/-- The header of a message with `length` bytes of attributes. -/
def messageHeader (type : UInt16) (transactionId : TransactionId)
    (length : Nat) : List UInt8 :=
  be16 type ++ (be16 (UInt16.ofNat length) ++
    (STUN_COOKIE ++ transactionId.toList))

theorem length_messageHeader (type : UInt16) (transactionId : TransactionId)
    (length : Nat) :
    (messageHeader type transactionId length).length = STUN_HEADER_LEN := by
  have hid : transactionId.toList.length = STUN_TRANSACTION_ID_LEN :=
    transactionId.length_toList
  simp only [messageHeader, List.length_append, hid]
  rfl

theorem decodeMessage_encode {type : UInt16} (htype : (type >>> 8).toUInt8 >>> 6 = 0)
    (transactionId : TransactionId) {body : List UInt8}
    (h16 : body.length < 65536) (h4 : body.length % 4 = 0) :
    decodeMessage (messageHeader type transactionId body.length ++ body) =
      (decodeAttributes body).map fun attrs => ⟨type, transactionId, attrs⟩ := by
  have hid : transactionId.toList.length = 12 := transactionId.length_toList
  have hlen : (UInt16.ofNat body.length).toNat = body.length :=
    UInt16.toNat_ofNat_of_lt' h16
  have hsize : (messageHeader type transactionId body.length ++ body).length =
      STUN_HEADER_LEN + body.length := by
    rw [List.length_append, length_messageHeader]
  have hcookie : (STUN_COOKIE ++ transactionId.toList ++ body).take 4 =
      STUN_COOKIE := rfl
  have htid : ((STUN_COOKIE ++ transactionId.toList ++ body).drop 4).take 12 =
      transactionId.toList := by
    show (transactionId.toList ++ body).take 12 = _
    rw [List.take_append_of_le_length (by omega), List.take_of_length_le (by omega)]
  have hbody : (STUN_COOKIE ++ transactionId.toList ++ body).drop 16 = body := by
    show (transactionId.toList ++ body).drop 12 = _
    rw [← hid, List.drop_left]
  have hbytes : messageHeader type transactionId body.length ++ body =
      (type >>> 8).toUInt8 :: type.toUInt8 ::
        (UInt16.ofNat body.length >>> 8).toUInt8 ::
        (UInt16.ofNat body.length).toUInt8 ::
        (STUN_COOKIE ++ transactionId.toList ++ body) := rfl
  rw [hbytes] at hsize ⊢
  rw [decodeMessage, if_pos]
  · rw [htid, toVector?_toList, Option.bind_some, hbody, ofBe16_be16]
  · rw [ofBe16_be16, hlen, hsize]
    refine ⟨htype, hcookie, rfl, ?_⟩
    rw [STUN_HEADER_LEN]
    omega

/-! ## Verified attributes

A message is given here as the header, the attributes before the one that is
verified, that one, and what comes after it. -/

theorem take_value (header before back : List UInt8) (a : Attribute) :
    ((header ++ (before ++ (a.encode ++ back))).drop
      (header.length + before.length + 4)).take a.value.length = a.value := by
  have hsplit : header ++ (before ++ (a.encode ++ back)) =
      (header ++ (before ++ (be16 a.type ++
        be16 (UInt16.ofNat a.value.length)))) ++
        (a.value ++ (a.padding ++ back)) := by
    simp only [Attribute.encode, List.append_assoc]
  have hlen : header.length + before.length + 4 =
      (header ++ (before ++ (be16 a.type ++
        be16 (UInt16.ofNat a.value.length)))).length := by
    rw [List.length_append, List.length_append, Nat.add_assoc]
    rfl
  rw [hsplit, hlen, List.drop_left, List.take_left]

theorem take_before {header before back : List UInt8} :
    (header ++ (before ++ back)).take (header.length + before.length) =
      header ++ before := by
  rw [← List.append_assoc, ← List.length_append, List.take_left]

theorem verifyIntegrity_iff {hmac : List UInt8 → Vector UInt8 20}
    {header before back : List UInt8} {a : Attribute}
    (hheader : header.length = STUN_HEADER_LEN)
    (hoffset : attributeOffset MESSAGE_INTEGRITY
      (before ++ (a.encode ++ back)) = some before.length)
    (hvalue : a.value.length = 20) :
    verifyIntegrity hmac (header ++ (before ++ (a.encode ++ back))) = true ↔
      a.value = (hmac (overwrite header 2
        (be16 (UInt16.ofNat (before.length + 24))) ++ before)).toList := by
  have hbody : (header ++ (before ++ (a.encode ++ back))).drop
      STUN_HEADER_LEN = before ++ (a.encode ++ back) := by
    rw [← hheader, List.drop_left]
  have hstored := take_value header before back a
  rw [hvalue, hheader] at hstored
  -- the length field is inside the header
  have hadjust : ∀ bytes rest, bytes.length = 2 →
      overwrite (header ++ rest) 2 bytes = overwrite header 2 bytes ++ rest := by
    intro bytes rest hbytes
    have h20 : 4 ≤ header.length := by rw [hheader]; decide
    rw [overwrite, overwrite, hbytes, List.take_append_of_le_length (by omega),
      List.drop_append_of_le_length (by omega)]
    simp only [List.append_assoc]
  have hsame : (overwrite header 2
      (be16 (UInt16.ofNat (before.length + 24)))).length = STUN_HEADER_LEN := by
    rw [← hheader, overwrite]
    have h20 : 4 ≤ header.length := by rw [hheader]; decide
    have h2 : (be16 (UInt16.ofNat (before.length + 24))).length = 2 := rfl
    simp only [List.length_append, List.length_take, List.length_drop, h2]
    omega
  rw [verifyIntegrity, hbody, hoffset]
  simp only [decide_eq_true_eq]
  rw [hstored, hadjust _ _ rfl, ← hsame, take_before]

theorem verifyFingerprint_iff {crc : List UInt8 → UInt32}
    {header before back : List UInt8} {a : Attribute}
    (hheader : header.length = STUN_HEADER_LEN)
    (hoffset : attributeOffset FINGERPRINT
      (before ++ (a.encode ++ back)) = some before.length)
    (hvalue : a.value.length = 4) :
    verifyFingerprint crc (header ++ (before ++ (a.encode ++ back))) = true ↔
      a.value = be32 (crc (header ++ before) ^^^ 0x5354554e) := by
  have hbody : (header ++ (before ++ (a.encode ++ back))).drop
      STUN_HEADER_LEN = before ++ (a.encode ++ back) := by
    rw [← hheader, List.drop_left]
  have hstored := take_value header before back a
  rw [hvalue, hheader] at hstored
  rw [verifyFingerprint, hbody, hoffset]
  simp only [decide_eq_true_eq]
  rw [hstored, ← hheader, take_before]

end RStreamer.Stun
