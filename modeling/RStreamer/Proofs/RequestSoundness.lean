import RStreamer.Stun.Encode

/-!
# What the parser of binding requests accepts

The attribute loop starts at an absolute offset, 20, and compares it with a
length that is counted from there. Its bounds are therefore twenty bytes
tighter than the end of the message, which costs it requests
(`Stun/Encode.lean`) but never lets it read too far. So every accepted request
is one: the loop stands at an attribute of the message at every turn
(`WalksTo`), and each attribute it stops at or steps over lies in front of the
declared end.

The bounds are also why nothing after the message matters. Every read of the
parser is a slice inside the declared length, and a slice is the same in a
buffer and in any initial part of it that holds the slice (`slice_take`).
-/

namespace RStreamer.Stun

open Bytes

/-! ## Attributes in place -/

/-- The bytes at `offset` are attribute `a`. -/
def AttributeAt (b : List UInt8) (offset : Nat) (a : Attribute) : Prop :=
  a.value.length < 65536 ∧ ∃ back, b.drop offset = a.encode ++ back

/-- The walk over the attributes from `offset` comes to the user attribute
`user`, past attributes of other types and all in front of `stop`. -/
inductive WalksTo (b : List UInt8) (stop : Nat) (user : Attribute) :
    Nat → Prop where
  | here {offset : Nat} : AttributeAt b offset user → user.type = USER →
      offset + user.encode.length ≤ stop → WalksTo b stop user offset
  | next {offset : Nat} {a : Attribute} : AttributeAt b offset a →
      a.type ≠ USER → offset + a.encode.length ≤ stop →
      WalksTo b stop user (offset + a.encode.length) → WalksTo b stop user offset

theorem WalksTo.mono {b : List UInt8} {stop stop' : Nat} (hle : stop ≤ stop')
    {user : Attribute} {offset : Nat} (h : WalksTo b stop user offset) :
    WalksTo b stop' user offset := by
  induction h with
  | here hat htype hstop => exact .here hat htype (by omega)
  | next hat htype hstop _ ih => exact .next hat htype (by omega) ih

/-- Four bytes and room for the length they declare are an attribute. -/
theorem exists_attribute {b : List UInt8} {len : Nat}
    (hlen : (ofBe16 (b.getD 2 0) (b.getD 3 0)).toNat = len)
    (hroom : 4 + paddedLen len ≤ b.length) :
    ∃ a back, b = Attribute.encode a ++ back ∧ a.value.length < 65536 ∧
      a.type = ofBe16 (b.getD 0 0) (b.getD 1 0) ∧
      a.value = (b.drop 4).take len ∧
      a.encode.length = 4 + paddedLen len := by
  have hpad := le_paddedLen len
  obtain ⟨t₀, b, rfl, h3⟩ := exists_cons (show 3 + 1 ≤ b.length by omega)
  obtain ⟨t₁, b, rfl, h2⟩ := exists_cons h3
  obtain ⟨l₀, b, rfl, h1⟩ := exists_cons h2
  obtain ⟨l₁, body, rfl, -⟩ := exists_cons h1
  simp only [List.length_cons] at hroom
  have hl : (ofBe16 l₀ l₁).toNat = len := hlen
  obtain ⟨padded, back, hback, hpadded, -⟩ := exists_append
    (show body.length = paddedLen len + (body.length - paddedLen len) by omega)
  obtain ⟨value, padding, hsplit, hvalue, hpadding⟩ := exists_append
    (show padded.length = len + (paddedLen len - len) by omega)
  subst hvalue hsplit hback
  refine ⟨⟨ofBe16 t₀ t₁, value, padding, by omega⟩, back, ?_, ?_, rfl, ?_,
    Attribute.length_encode _⟩
  · have hfield : UInt16.ofNat value.length = ofBe16 l₀ l₁ := by
      rw [← hl, UInt16.ofNat_toNat]
    simp only [Attribute.encode, hfield, be16_ofBe16, List.cons_append,
      List.nil_append, List.append_assoc]
  · rw [← hl]
    exact (ofBe16 l₀ l₁).toNat_lt
  · show value = (value ++ padding ++ back).take value.length
    rw [List.append_assoc, List.take_left]

theorem exists_attributeAt {b : List UInt8} {offset len : Nat}
    (hlen : (ofBe16 (b.getD (offset + 2) 0) (b.getD (offset + 3) 0)).toNat = len)
    (hroom : offset + 4 + paddedLen len ≤ b.length) :
    ∃ a, AttributeAt b offset a ∧
      a.type = ofBe16 (b.getD offset 0) (b.getD (offset + 1) 0) ∧
      a.value = (b.drop (offset + 4)).take len ∧
      a.encode.length = 4 + paddedLen len := by
  have hdrop : 4 + paddedLen len ≤ (b.drop offset).length := by
    rw [List.length_drop]
    omega
  rw [← getD_drop, ← getD_drop] at hlen
  obtain ⟨a, back, hback, hvalue, htype, hval, hsize⟩ :=
    exists_attribute hlen hdrop
  rw [getD_drop, getD_drop, Nat.add_zero] at htype
  rw [List.drop_drop] at hval
  exact ⟨a, ⟨hvalue, back, hback⟩, htype, hval, hsize⟩

/-! ## The loop -/

/-- The loop finds what the walk comes to. The induction is on what the loop
has left. -/
theorem walksTo_of_parseAttributes {bytes : List UInt8} {length limit : Nat}
    (hlimit : limit + 4 = length) (hlen : length ≤ bytes.length)
    {transactionId : TransactionId} {req : StunBindingRequest} {offset : Nat}
    (h : parseAttributes bytes length limit transactionId offset =
      .ok (some req)) :
    ∃ user, WalksTo bytes length user offset ∧
      parseUser transactionId user.value = .ok (some req) := by
  induction hn : limit - offset using Nat.strongRecOn generalizing offset with
  | _ n ih =>
      by_cases hlt : offset < limit
      · rw [parseAttributes_lt hlt (by omega) transactionId rfl] at h
        split at h
        · cases h
        · next hroom =>
            obtain ⟨a, hat, htype, hvalue, hsize⟩ :=
              @exists_attributeAt bytes offset _ rfl (by omega)
            have hpad := le_paddedLen (ofBe16 (bytes.getD (offset + 2) 0)
              (bytes.getD (offset + 3) 0)).toNat
            have hstop : offset + a.encode.length ≤ length := by omega
            split at h
            · next huser =>
                rw [slice_ok (by omega) (by omega), ok_bind,
                  Nat.add_sub_cancel_left, ← hvalue] at h
                exact ⟨a, .here hat (htype.trans huser) hstop, h⟩
            · next huser =>
                rw [Nat.add_assoc, ← hsize] at h
                obtain ⟨user, hwalk, hparse⟩ := ih _ (by omega) h rfl
                exact ⟨user, .next hat (fun e => huser (htype.symm.trans e))
                  hstop hwalk, hparse⟩
      · rw [parseAttributes, dif_neg hlt] at h
        cases h

theorem parseAttributes_take {bytes : List UInt8} {length limit n : Nat}
    (hlimit : limit + 4 = length) (hlen : length ≤ n) (hn : n ≤ bytes.length)
    (transactionId : TransactionId) (offset : Nat) :
    parseAttributes (bytes.take n) length limit transactionId offset =
      parseAttributes bytes length limit transactionId offset := by
  induction hm : limit - offset using Nat.strongRecOn generalizing offset with
  | _ m ih =>
      by_cases hlt : offset < limit
      · have hget : ∀ k, k < 4 → (bytes.take n).getD (offset + k) 0 =
            bytes.getD (offset + k) 0 := fun k hk => getD_take (by omega)
        have hget0 : (bytes.take n).getD offset 0 = bytes.getD offset 0 :=
          hget 0 (by omega)
        have htake : length ≤ (bytes.take n).length := by
          rw [List.length_take]
          omega
        rw [parseAttributes_lt hlt (by omega) transactionId rfl,
          parseAttributes_lt hlt (by omega) transactionId rfl,
          hget0, hget 1 (by omega), hget 2 (by omega), hget 3 (by omega)]
        have hpad := le_paddedLen (ofBe16 (bytes.getD (offset + 2) 0)
          (bytes.getD (offset + 3) 0)).toNat
        split
        · rfl
        · next hroom =>
            rw [slice_take (by omega) hn]
            split
            · rfl
            · exact ih _ (by omega) _ rfl
      · rw [parseAttributes, parseAttributes, dif_neg hlt, dif_neg hlt]

/-! ## Requests -/

theorem parse_of_hasStunHeader {b : List UInt8} (h : HasStunHeader b) :
    ParsesBody b := by
  rcases parse_cases b with ⟨hnot, -⟩ | ⟨-, hparses⟩
  · exact absurd h hnot
  · exact hparses

theorem parse_of_not_hasStunHeader {b : List UInt8} (h : ¬ HasStunHeader b) :
    parseStunBindingRequest b = .ok none := by
  rcases parse_cases b with ⟨-, hnone⟩ | ⟨hheader, -⟩
  · exact hnone
  · exact absurd hheader h

theorem hasStunHeader_of_parse {b : List UInt8} {req : StunBindingRequest}
    (h : parseStunBindingRequest b = .ok (some req)) : HasStunHeader b := by
  by_contra hnot
  rw [parse_of_not_hasStunHeader hnot] at h
  cases h

theorem declaredLength_take {b : List UInt8} {n : Nat} (h : 4 ≤ n) :
    declaredLength (b.take n) = declaredLength b := by
  rw [declaredLength, declaredLength, getD_take (by omega),
    getD_take (by omega)]

theorem hasStunHeader_take_iff {b : List UInt8} {n : Nat}
    (hn : STUN_HEADER_LEN + declaredLength b ≤ n) (hb : n ≤ b.length) :
    HasStunHeader (b.take n) ↔ HasStunHeader b := by
  rw [STUN_HEADER_LEN] at hn
  have hlen : (b.take n).length = n := by
    rw [List.length_take]
    omega
  have hdl := @declaredLength_take b n (by omega)
  have htype : (b.take n).take 2 = b.take 2 := by
    rw [List.take_take, Nat.min_eq_left (by omega)]
  have hcookie : ((b.take n).drop 4).take 4 = (b.drop 4).take 4 := by
    rw [List.drop_take, List.take_take, Nat.min_eq_left (by omega)]
  refine ⟨fun h => ⟨?_, ?_, ?_, ?_⟩, fun h => ⟨?_, ?_, ?_, ?_⟩⟩
  · rw [← htype]; exact h.type
  · rw [← hdl]; exact h.length
  · rw [STUN_HEADER_LEN]; omega
  · rw [← hcookie]; exact h.cookie
  · rw [htype]; exact h.type
  · rw [hdl]; exact h.length
  · rw [STUN_HEADER_LEN, hdl, hlen]; exact hn
  · rw [hcookie]; exact h.cookie

/-- Only the message counts, not what follows it in the buffer. -/
theorem parse_take (b : List UInt8) :
    parseStunBindingRequest (b.take (STUN_HEADER_LEN + declaredLength b)) =
      parseStunBindingRequest b := by
  by_cases hb : STUN_HEADER_LEN + declaredLength b ≤ b.length
  · have hiff := hasStunHeader_take_iff (Nat.le_refl _) hb
    by_cases h : HasStunHeader b
    · obtain ⟨transactionId, hid, hparse⟩ := parse_of_hasStunHeader h
      obtain ⟨transactionId', hid', hparse'⟩ :=
        parse_of_hasStunHeader (hiff.mpr h)
      have hsame : transactionId' = transactionId := by
        rw [← Vector.toList_inj, hid, hid', List.drop_take, List.take_take,
          Nat.min_eq_left (by rw [STUN_HEADER_LEN, STUN_TRANSACTION_ID_LEN]; omega)]
      have hlength := h.length
      rw [hparse', hparse, hsame, declaredLength_take (by omega)]
      exact parseAttributes_take (by omega) (by omega) hb _ _
    · rw [parse_of_not_hasStunHeader h,
        parse_of_not_hasStunHeader (mt hiff.mp h)]
  · rw [List.take_of_length_le (by omega)]

/-- `b` starts with a binding request that says what `req` says. -/
structure IsBindingRequest (b : List UInt8) (req : StunBindingRequest) :
    Prop where
  type : b.take 2 = [0x00, 0x01]
  length : 20 + declaredLength b ≤ b.length
  cookie : (b.drop 4).take 4 = STUN_COOKIE
  transactionId : req.transactionId.toList = (b.drop 8).take 12
  username : ∃ user, WalksTo b (20 + declaredLength b) user 20 ∧
    NamesUsers user.value req.serverUser req.remoteUser

/-- Every request the parser returns stands in the bytes it was given, and
bytes behind the declared length change nothing. -/
theorem accepted_request_sound (b : List UInt8) :
    (∀ req, parseStunBindingRequest b = .ok (some req) →
      IsBindingRequest b req) ∧
    ∀ b', b'.take (20 + declaredLength b) = b.take (20 + declaredLength b) →
      parseStunBindingRequest b' = parseStunBindingRequest b := by
  refine ⟨?_, ?_⟩
  · intro req hreq
    have h := hasStunHeader_of_parse hreq
    have hlength := h.length
    have hfits := h.fits
    obtain ⟨transactionId, hid, hparse⟩ := parse_of_hasStunHeader h
    rw [hparse] at hreq
    obtain ⟨user, hwalk, hnames⟩ :=
      walksTo_of_parseAttributes (by omega) (by omega) hreq
    obtain ⟨htid, hnames⟩ := parseUser_eq_some.mp hnames
    refine ⟨h.type, h.fits, h.cookie, ?_, user, ?_, hnames⟩
    · rw [htid]
      exact hid
    · exact hwalk.mono (Nat.le_add_left _ _)
  · intro b' htake
    have hdl : declaredLength b' = declaredLength b := by
      rw [← @declaredLength_take b' (20 + declaredLength b) (by omega), htake,
        declaredLength_take (by omega)]
    have hb := parse_take b
    have hb' := parse_take b'
    rw [hdl] at hb'
    rw [← hb, ← hb']
    exact congrArg parseStunBindingRequest htake

/-! ## Words

The offsets above are numbers. In the program they are words, and the padded
length is computed by clearing bits. The length field has sixteen bits and the
loop only goes on below it, so that in words of thirty-two bits or more no sum
of a round wraps. -/

/-- `(payload_len + STUN_ALIGNMENT - 1) & !(STUN_ALIGNMENT - 1)` in words of
`w` bits. -/
def paddedLenWord {w : Nat} (len : BitVec w) : BitVec w :=
  (len + BitVec.ofNat w STUN_ALIGNMENT - 1#w) &&&
    ~~~(BitVec.ofNat w STUN_ALIGNMENT - 1#w)

theorem toNat_word {w : Nat} (hw : 32 ≤ w) {n : Nat} (h : n < 4294967296) :
    (BitVec.ofNat w n).toNat = n := by
  have hpow := Nat.pow_le_pow_right (show 2 > 0 by decide) hw
  rw [BitVec.toNat_ofNat]
  exact Nat.mod_eq_of_lt (Nat.lt_of_lt_of_le h hpow)

theorem and_not_three {w : Nat} (x : BitVec w) :
    x &&& ~~~3#w = x >>> 2 <<< 2 := by
  have hbit : ∀ i, Nat.testBit 3 i = decide (i < 2) :=
    fun i => Nat.testBit_two_pow_sub_one 2 i
  apply BitVec.eq_of_getLsbD_eq
  intro i hi
  rw [BitVec.getLsbD_and, BitVec.getLsbD_not, BitVec.getLsbD_ofNat, hbit,
    BitVec.getLsbD_shiftLeft, BitVec.getLsbD_ushiftRight]
  by_cases h : i < 2
  · simp [h, hi]
  · rw [show 2 + (i - 2) = i by omega]
    simp [h, hi]

theorem paddedLenWord_eq {w : Nat} (hw : 32 ≤ w) {len : Nat}
    (hlen : len < 65536) :
    paddedLenWord (BitVec.ofNat w len) = BitVec.ofNat w (paddedLen len) := by
  have hfour : 4#w - 1#w = 3#w := by
    have hadd : 3#w + 1#w = 4#w := by rw [← BitVec.ofNat_add]
    rw [← hadd, BitVec.add_sub_cancel]
  have hsum : BitVec.ofNat w len + 4#w - 1#w = BitVec.ofNat w (len + 3) := by
    have hadd : BitVec.ofNat w (len + 3) + 1#w = BitVec.ofNat w len + 4#w := by
      rw [← BitVec.ofNat_add, ← BitVec.ofNat_add]
    rw [← hadd, BitVec.add_sub_cancel]
  have hpow := Nat.pow_le_pow_right (show 2 > 0 by decide) hw
  rw [paddedLenWord, STUN_ALIGNMENT, hfour, hsum, and_not_three,
    ← BitVec.toNat_inj, BitVec.toNat_shiftLeft, BitVec.toNat_ushiftRight,
    toNat_word hw (by omega), Nat.shiftRight_eq_div_pow, Nat.shiftLeft_eq,
    Nat.mod_eq_of_lt (by omega), paddedLen, STUN_ALIGNMENT,
    toNat_word hw (by omega)]
  rfl

/-- The parser returns on every input: it has no operation out of range, and
the sums and the difference it takes in one round of its loop are the same in
words as in numbers. -/
theorem parser_total (bytes : List UInt8) :
    (∃ res, parseStunBindingRequest bytes = .ok res) ∧
    ∀ (w : Nat) (length payloadLen : UInt16) (offset : Nat), 32 ≤ w →
      offset < length.toNat - 4 →
      (BitVec.ofNat w payloadLen.toNat + 4#w).toNat = payloadLen.toNat + 4 ∧
      (BitVec.ofNat w offset + 4#w +
          paddedLenWord (BitVec.ofNat w payloadLen.toNat)).toNat =
        offset + 4 + paddedLen payloadLen.toNat := by
  refine ⟨parseStunBindingRequest_ok bytes, ?_⟩
  intro w length payloadLen offset hw hoffset
  have hlength := length.toNat_lt
  have hlen := payloadLen.toNat_lt
  have hpadded : paddedLen payloadLen.toNat ≤ 65536 := by
    rw [paddedLen, STUN_ALIGNMENT]
    omega
  refine ⟨?_, ?_⟩
  · rw [← BitVec.ofNat_add, toNat_word hw (by omega)]
  · rw [paddedLenWord_eq hw hlen, ← BitVec.ofNat_add, ← BitVec.ofNat_add,
      toNat_word hw (by omega)]

end RStreamer.Stun
