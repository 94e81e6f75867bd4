import RStreamer.Basic

/-!
# Binding requests (`stun/mod.rs`)

The parser of STUN binding requests, on bytes that panic: the fixed header,
then a loop over attributes of a type, a length and a padded value, until the
one with the user names is found. The loop is a recursion on the offset, which
every attribute moves forward.
-/

namespace RStreamer

open Bytes

def STUN_TRANSACTION_ID_LEN : Nat := 12
def STUN_MAX_IDENTIFIER_LEN : Nat := 128
def STUN_HEADER_LEN : Nat := 20
def STUN_ALIGNMENT : Nat := 4
def STUN_COOKIE : List UInt8 := [0x21, 0x12, 0xa4, 0x42]

/-- `[u8; STUN_TRANSACTION_ID_LEN]` -/
abbrev TransactionId : Type := Vector UInt8 STUN_TRANSACTION_ID_LEN

/-- `StunBindingRequest` -/
structure StunBindingRequest where
  transactionId : TransactionId
  remoteUser : String
  serverUser : String
  deriving DecidableEq

namespace Stun

/-- `StunType::BindingRequest` -/
def BINDING_REQUEST : UInt16 := 0x0001

/-- `StunAttributeType::User` -/
def USER : UInt16 := 0x06

/-- `(len + STUN_ALIGNMENT - 1) & !(STUN_ALIGNMENT - 1)`: the bits below the
alignment are cleared. -/
def paddedLen (len : Nat) : Nat :=
  (len + STUN_ALIGNMENT - 1) / STUN_ALIGNMENT * STUN_ALIGNMENT

/-- `str::from_utf8` -/
def fromUtf8 (bytes : List UInt8) : Option String :=
  String.fromUTF8? ⟨bytes.toArray⟩

/-- The value of the user attribute: two names with a colon between them. -/
def parseUser (transactionId : TransactionId) (value : List UInt8) :
    Except Panic (Option StunBindingRequest) := do
  match value.findIdx? (· == 58) with
  | none => return none
  | some colon =>
      let serverUser ← slice value 0 colon
      let remoteUser ← slice value (colon + 1) value.length
      if serverUser.length > STUN_MAX_IDENTIFIER_LEN ||
          remoteUser.length > STUN_MAX_IDENTIFIER_LEN then
        return none
      match fromUtf8 serverUser, fromUtf8 remoteUser with
      | some serverUser, some remoteUser =>
          return some ⟨transactionId, remoteUser, serverUser⟩
      | _, _ => return none

/-- The loop over the attributes. `limit` is its `length - 4`. -/
def parseAttributes (bytes : List UInt8) (length limit : Nat)
    (transactionId : TransactionId) (offset : Nat) :
    Except Panic (Option StunBindingRequest) :=
  if _h : offset < limit then do
    let payloadType ← readU16 (← slice bytes offset (offset + 2))
    let payloadLen := (← readU16 (← slice bytes (offset + 2) (offset + 4))).toNat
    if offset + 4 + paddedLen payloadLen > length then
      return none
    if payloadType = USER then
      parseUser transactionId
        (← slice bytes (offset + 4) (offset + 4 + payloadLen))
    else
      parseAttributes bytes length limit transactionId
        (offset + 4 + paddedLen payloadLen)
  else return none
termination_by limit - offset

/-- `parse_stun_binding_request` -/
def parseStunBindingRequest (bytes : List UInt8) :
    Except Panic (Option StunBindingRequest) := do
  if bytes.length < STUN_HEADER_LEN then
    return none
  if (← index bytes 0) >>> 6 ≠ 0 then
    return none
  let stunType ← readU16 (← slice bytes 0 2)
  if stunType ≠ BINDING_REQUEST then
    return none
  let length := (← readU16 (← slice bytes 2 4)).toNat
  if length < 4 || STUN_HEADER_LEN + length > bytes.length then
    return none
  if (← slice bytes 4 8) ≠ STUN_COOKIE then
    return none
  let transactionId ←
    copyFromSlice STUN_TRANSACTION_ID_LEN (← slice bytes 8 STUN_HEADER_LEN)
  let limit ← sub length 4
  parseAttributes bytes length limit transactionId STUN_HEADER_LEN

/-! ## No read is out of range -/

theorem le_paddedLen (len : Nat) : len ≤ paddedLen len := by
  rw [paddedLen, STUN_ALIGNMENT]
  omega

theorem parseUser_ok (transactionId : TransactionId) (value : List UInt8) :
    ∃ res, parseUser transactionId value = .ok res := by
  rw [parseUser]
  cases hc : value.findIdx? (· == 58) with
  | none => exact ⟨none, rfl⟩
  | some colon =>
      have hlt : colon < value.length := by
        rw [List.findIdx?_eq_some_iff_getElem] at hc
        exact hc.1
      simp only []
      rw [slice_ok (Nat.zero_le colon) (Nat.le_of_lt hlt), ok_bind,
        slice_ok (Nat.succ_le_of_lt hlt) (Nat.le_refl _), ok_bind]
      split
      · exact ⟨none, rfl⟩
      · split
        · exact ⟨_, rfl⟩
        · exact ⟨none, rfl⟩

/-- One round of the loop, in a datagram that has the four bytes it reads. -/
theorem parseAttributes_lt {bytes : List UInt8} {length limit offset : Nat}
    (hlt : offset < limit) (hread : offset + 4 ≤ bytes.length)
    (transactionId : TransactionId) {len : Nat}
    (hlen : (ofBe16 (bytes.getD (offset + 2) 0)
      (bytes.getD (offset + 3) 0)).toNat = len) :
    parseAttributes bytes length limit transactionId offset =
      if offset + 4 + paddedLen len > length then .ok none
      else if ofBe16 (bytes.getD offset 0) (bytes.getD (offset + 1) 0) = USER
      then slice bytes (offset + 4) (offset + 4 + len) >>=
        parseUser transactionId
      else parseAttributes bytes length limit transactionId
        (offset + 4 + paddedLen len) := by
  rw [parseAttributes, dif_pos hlt, ← bind_assoc,
    readU16_slice (show offset + 2 ≤ bytes.length by omega), ok_bind,
    ← bind_assoc, readU16_slice (show offset + 2 + 2 ≤ bytes.length by omega),
    ok_bind]
  subst hlen
  rfl

/-- The attributes are read inside the declared length, which is inside the
datagram. The induction is on what the loop has left. -/
theorem parseAttributes_ok {bytes : List UInt8} {length limit : Nat}
    (hlimit : limit + 4 = length) (hlen : length ≤ bytes.length)
    (transactionId : TransactionId) (offset : Nat) :
    ∃ res, parseAttributes bytes length limit transactionId offset =
      .ok res := by
  induction hn : limit - offset using Nat.strongRecOn generalizing offset with
  | _ n ih =>
      by_cases hlt : offset < limit
      · rw [parseAttributes_lt hlt (by omega) transactionId rfl]
        have hpad := le_paddedLen (ofBe16 (bytes.getD (offset + 2) 0)
          (bytes.getD (offset + 3) 0)).toNat
        split
        · exact ⟨none, rfl⟩
        · next hroom =>
            split
            · -- the value is inside the padded one, which is inside the length
              rw [slice_ok (by omega) (by omega), ok_bind]
              exact parseUser_ok transactionId _
            · exact ih _ (by omega) _ rfl
      · rw [parseAttributes, dif_neg hlt]
        exact ⟨none, rfl⟩

/-! ## The header

The tests in front of the loop, and what is left once they passed: everything
said about the parser goes through `parse_cases`, which walks through the tests
once. -/

/-- The length field of a message. -/
def declaredLength (b : List UInt8) : Nat :=
  (ofBe16 (b.getD 2 0) (b.getD 3 0)).toNat

structure HasStunHeader (b : List UInt8) : Prop where
  type : b.take 2 = be16 BINDING_REQUEST
  length : 4 ≤ declaredLength b
  fits : STUN_HEADER_LEN + declaredLength b ≤ b.length
  cookie : (b.drop 4).take 4 = STUN_COOKIE

/-- What the parser does after the tests. -/
def ParsesBody (b : List UInt8) : Prop :=
  ∃ transactionId : TransactionId,
    transactionId.toList = (b.drop 8).take STUN_TRANSACTION_ID_LEN ∧
    parseStunBindingRequest b = parseAttributes b (declaredLength b)
      (declaredLength b - 4) transactionId STUN_HEADER_LEN

theorem take_two_iff {b : List UInt8} (h : 2 ≤ b.length) {v : UInt16} :
    b.take 2 = be16 v ↔ ofBe16 (b.getD 0 0) (b.getD 1 0) = v := by
  obtain ⟨b₀, b, rfl, h1⟩ := exists_cons h
  obtain ⟨b₁, b, rfl, -⟩ := exists_cons h1
  refine ⟨?_, ?_⟩
  · intro htake
    obtain ⟨h₀, htail⟩ := List.cons.inj htake
    obtain ⟨h₁, -⟩ := List.cons.inj htail
    show ofBe16 b₀ b₁ = v
    rw [h₀, h₁, ofBe16_be16]
  · rintro rfl
    exact (be16_ofBe16 b₀ b₁).symm

theorem parse_cases (b : List UInt8) :
    ¬ HasStunHeader b ∧ parseStunBindingRequest b = .ok none ∨
      HasStunHeader b ∧ ParsesBody b := by
  rw [ParsesBody, parseStunBindingRequest]
  by_cases hshort : b.length < STUN_HEADER_LEN
  · rw [if_pos hshort]
    refine .inl ⟨fun h => ?_, rfl⟩
    have := h.fits
    omega
  have hlen : 20 ≤ b.length := Nat.not_lt.mp hshort
  have htype : (slice b 0 2 >>= readU16) =
      .ok (ofBe16 (b.getD 0 0) (b.getD 1 0)) := readU16_slice (by omega)
  have hlength : (slice b 2 4 >>= readU16) =
      .ok (ofBe16 (b.getD 2 0) (b.getD 3 0)) := readU16_slice (by omega)
  have hdeclared : (ofBe16 (b.getD 2 0) (b.getD 3 0)).toNat =
      declaredLength b := rfl
  have htwo := @take_two_iff b (by omega)
  rw [if_neg hshort, index_ok (show 0 < b.length by omega), ok_bind,
    ← bind_assoc, htype, ok_bind, ← bind_assoc, hlength, ok_bind]
  simp only [hdeclared]
  by_cases htop : b.getD 0 0 >>> 6 ≠ 0
  · rw [if_pos htop]
    refine .inl ⟨fun h => htop ?_, rfl⟩
    have hzero : b.getD 0 0 = 0 := by
      rw [← getD_take (show 0 < 2 by decide), h.type]
      rfl
    rw [hzero]
    rfl
  by_cases ht : ofBe16 (b.getD 0 0) (b.getD 1 0) ≠ BINDING_REQUEST
  · rw [if_neg htop, if_pos ht]
    exact .inl ⟨fun h => ht (htwo.mp h.type), rfl⟩
  by_cases hl : 4 ≤ declaredLength b ∧
      STUN_HEADER_LEN + declaredLength b ≤ b.length
  · rw [if_neg htop, if_neg ht, if_neg (by
      simp only [Bool.or_eq_true, decide_eq_true_eq, not_or, Nat.not_lt,
        gt_iff_lt]
      exact hl), slice_ok (show 4 ≤ 8 by omega) (by omega), ok_bind]
    by_cases hcookie : (b.drop 4).take 4 ≠ STUN_COOKIE
    · rw [if_pos hcookie]
      exact .inl ⟨fun h => hcookie h.cookie, rfl⟩
    · obtain ⟨id, hid, hsize⟩ := exists_slice b
        (show 8 ≤ STUN_HEADER_LEN by decide) hlen
      have hsize' : id.length = STUN_TRANSACTION_ID_LEN := hsize
      rw [if_neg hcookie, hid, ok_bind, copyFromSlice_ok hsize', ok_bind,
        sub_ok hl.1, ok_bind]
      rw [slice_ok (show 8 ≤ STUN_HEADER_LEN by decide) hlen] at hid
      cases hid
      exact .inr ⟨⟨htwo.mpr (not_not.mp ht), hl.1, hl.2, not_not.mp hcookie⟩,
        _, rfl, rfl⟩
  · rw [if_neg htop, if_neg ht, if_pos (by
      simp only [Bool.or_eq_true, decide_eq_true_eq, gt_iff_lt]
      rw [not_and_or, Nat.not_le, Nat.not_le] at hl
      exact hl)]
    exact .inl ⟨fun h => hl ⟨h.length, h.fits⟩, rfl⟩

theorem parseStunBindingRequest_ok (bytes : List UInt8) :
    ∃ res, parseStunBindingRequest bytes = .ok res := by
  rcases parse_cases bytes with ⟨-, hnone⟩ | ⟨h, transactionId, -, hparse⟩
  · exact ⟨none, hnone⟩
  · have hlength := h.length
    have hfits := h.fits
    rw [hparse]
    exact parseAttributes_ok (by omega) (by omega) _ _

end Stun

end RStreamer
