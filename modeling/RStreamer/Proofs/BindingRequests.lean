import RStreamer.Stun.Encode

/-!
# Which binding requests are understood

An ICE agent ends its requests with a message integrity and a fingerprint, 32
bytes together. That is more than the twenty bytes by which the parser's bounds
are off, so every such request is understood, whatever else is in it
(`binding_request_understood`).

Without them it depends on what follows the user attribute. Appending
attributes to a request changes what the parser makes of it exactly when they
bring the number of bytes after a well-formed user attribute from below twenty
to twenty or more (`appended_irrelevant_iff`).
-/

namespace RStreamer.Stun

theorem binding_request_understood (transactionId : TransactionId)
    (attrs attrs' : List Attribute)
    (user integrity fingerprint : Attribute) (serverUser remoteUser : String)
    (hattrs : ∀ a ∈ attrs, a.type ≠ USER) (huser : user.type = USER)
    (hnames : NamesUsers user.value serverUser remoteUser)
    (hintegrity : integrity.type = MESSAGE_INTEGRITY ∧
      integrity.value.length = 20)
    (_hfingerprint : fingerprint.type = FINGERPRINT ∧
      fingerprint.value.length = 4)
    (h16 : (encodeAttributes (attrs ++ user ::
      (attrs' ++ [integrity, fingerprint]))).length < 65536)
    (trailing : List UInt8) :
    parseStunBindingRequest
        (encodeRequest transactionId (attrs ++ user ::
          (attrs' ++ [integrity, fingerprint])) ++ trailing) =
      .ok (some ⟨transactionId, remoteUser, serverUser⟩) := by
  rw [parse_encodeRequest transactionId hattrs huser h16,
    if_pos (room_integrity hintegrity.2 attrs' [fingerprint])]
  exact parseUser_eq_some.mpr ⟨rfl, hnames⟩

theorem browser_request_understood :
    parseStunBindingRequest
        (encodeRequest (Vector.replicate 12 7)
          ([.zeroPadded 0x24 [1, 2, 3, 4]] ++ .zeroPadded USER [115, 58, 99] ::
            ([] ++ [.zeroPadded MESSAGE_INTEGRITY (List.replicate 20 0),
              .zeroPadded FINGERPRINT (List.replicate 4 0)])) ++ [255]) =
      .ok (some ⟨Vector.replicate 12 7, "c", "s"⟩) :=
  binding_request_understood (Vector.replicate 12 7)
    [.zeroPadded 0x24 [1, 2, 3, 4]] [] (.zeroPadded USER [115, 58, 99])
    (.zeroPadded MESSAGE_INTEGRITY (List.replicate 20 0))
    (.zeroPadded FINGERPRINT (List.replicate 4 0)) "s" "c"
    (by decide) rfl ⟨by decide, by decide, by decide, by decide⟩
    ⟨rfl, rfl⟩ ⟨rfl, rfl⟩ (by decide) [255]

/-! ## Attributes after the user attribute -/

def username (attrs : List Attribute) : Option Attribute :=
  attrs.find? fun a => a.type = USER

/-- What comes after the first user attribute. -/
def afterUsername (attrs : List Attribute) : List Attribute :=
  (attrs.dropWhile fun a => a.type ≠ USER).tail

theorem exists_username {attrs : List Attribute}
    (h : ∃ a ∈ attrs, a.type = USER) :
    ∃ before user, attrs = before ++ user :: afterUsername attrs ∧
      (∀ a ∈ before, a.type ≠ USER) ∧ user.type = USER ∧
      username attrs = some user := by
  induction attrs with
  | nil => obtain ⟨a, ha, -⟩ := h; cases ha
  | cons b attrs ih =>
      by_cases hb : b.type = USER
      · refine ⟨[], b, ?_, by simp, hb, by simp [username, hb]⟩
        simp [afterUsername, hb]
      · obtain ⟨a, ha, hau⟩ := h
        have hmem : a ∈ attrs := by
          rcases List.mem_cons.mp ha with rfl | hmem
          · exact absurd hau hb
          · exact hmem
        obtain ⟨before, user, heq, hbefore, huser, hfind⟩ := ih ⟨a, hmem, hau⟩
        have hafter : afterUsername (b :: attrs) = afterUsername attrs := by
          simp [afterUsername, hb]
        refine ⟨b :: before, user, ?_, ?_, huser, ?_⟩
        · rw [hafter, List.cons_append, ← heq]
        · intro a ha
          rcases List.mem_cons.mp ha with rfl | hmem
          · exact hb
          · exact hbefore a hmem
        · rw [username, List.find?_cons_of_neg (by simpa using hb)]
          exact hfind

/-- Appending attributes to a request with a user attribute leaves what the
parser makes of it alone, exactly when its value names no users, when twenty
bytes follow it already, or when fewer than twenty still do. -/
theorem appended_irrelevant_iff (transactionId : TransactionId)
    (attrs attrs' : List Attribute) (huser : ∃ a ∈ attrs, a.type = USER)
    (h16 : (encodeAttributes attrs).length < 65536)
    (h16' : (encodeAttributes (attrs ++ attrs')).length < 65536) :
    parseStunBindingRequest (encodeRequest transactionId (attrs ++ attrs')) =
        parseStunBindingRequest (encodeRequest transactionId attrs) ↔
      (∀ user, username attrs = some user →
        ∀ serverUser remoteUser,
          ¬ NamesUsers user.value serverUser remoteUser) ∨
      20 ≤ (encodeAttributes (afterUsername attrs)).length ∨
      (encodeAttributes (afterUsername attrs)).length +
        (encodeAttributes attrs').length < 20 := by
  obtain ⟨before, user, heq, hbefore, htype, hfind⟩ := exists_username huser
  have hparse : parseStunBindingRequest (encodeRequest transactionId attrs) =
      if 20 ≤ (encodeAttributes (afterUsername attrs)).length then
        parseUser transactionId user.value
      else .ok none := by
    have h := parse_encodeRequest transactionId hbefore htype (heq ▸ h16) []
    rwa [List.append_nil, ← heq] at h
  have happend : attrs ++ attrs' =
      before ++ user :: (afterUsername attrs ++ attrs') := by
    rw [← List.cons_append, ← List.append_assoc, ← heq]
  have hparse' : parseStunBindingRequest
      (encodeRequest transactionId (attrs ++ attrs')) =
      if 20 ≤ (encodeAttributes (afterUsername attrs)).length +
          (encodeAttributes attrs').length then
        parseUser transactionId user.value
      else .ok none := by
    have h := parse_encodeRequest transactionId hbefore htype
      (happend ▸ h16') []
    rwa [List.append_nil, ← happend, encodeAttributes_append,
      List.length_append] at h
  have hnone : (∀ u, username attrs = some u → ∀ serverUser remoteUser,
      ¬ NamesUsers u.value serverUser remoteUser) ↔
      parseUser transactionId user.value = .ok none := by
    rw [parseUser_eq_none, hfind]
    simp
  rw [hnone, hparse, hparse']
  by_cases hroom : 20 ≤ (encodeAttributes (afterUsername attrs)).length
  · rw [if_pos hroom, if_pos (by omega)]
    exact iff_of_true rfl (.inr (.inl hroom))
  · rw [if_neg hroom]
    split
    · next hroom' =>
        refine ⟨fun h => .inl h, ?_⟩
        rintro (h | h | h)
        · exact h
        · exact absurd h hroom
        · omega
    · next hroom' => exact iff_of_true rfl (.inr (.inr (by omega)))

theorem integrity_then_fingerprint :
    parseStunBindingRequest
        (encodeRequest (Vector.replicate 12 7)
          ([.zeroPadded USER [115, 58, 99],
            .zeroPadded MESSAGE_INTEGRITY (List.replicate 20 0)] ++
            [.zeroPadded FINGERPRINT (List.replicate 4 0)])) =
      parseStunBindingRequest
        (encodeRequest (Vector.replicate 12 7)
          [.zeroPadded USER [115, 58, 99],
            .zeroPadded MESSAGE_INTEGRITY (List.replicate 20 0)]) :=
  (appended_irrelevant_iff (Vector.replicate 12 7)
    [.zeroPadded USER [115, 58, 99],
      .zeroPadded MESSAGE_INTEGRITY (List.replicate 20 0)]
    [.zeroPadded FINGERPRINT (List.replicate 4 0)]
    ⟨_, List.mem_cons_self .., rfl⟩ (by decide) (by decide)).mpr
    (.inr (.inl (by decide)))

/-- A request that ends with its user attribute is not understood, and is once
a message integrity is appended. -/
theorem bare_username_not_understood :
    ¬ ∀ (transactionId : TransactionId) (attrs attrs' : List Attribute),
      (∃ a ∈ attrs, a.type = USER) →
      (encodeAttributes attrs).length < 65536 →
      (encodeAttributes (attrs ++ attrs')).length < 65536 →
      parseStunBindingRequest (encodeRequest transactionId (attrs ++ attrs')) =
        parseStunBindingRequest (encodeRequest transactionId attrs) := by
  intro h
  have heq := h (Vector.replicate 12 7) [.zeroPadded USER [115, 58, 99]]
    [.zeroPadded MESSAGE_INTEGRITY (List.replicate 20 0)]
    ⟨_, List.mem_cons_self .., rfl⟩ (by decide) (by decide)
  have halone := @parse_encodeRequest (Vector.replicate 12 7) [] []
    (.zeroPadded USER [115, 58, 99]) (by simp) rfl (by decide) []
  have hmore := @parse_encodeRequest (Vector.replicate 12 7) []
    [.zeroPadded MESSAGE_INTEGRITY (List.replicate 20 0)]
    (.zeroPadded USER [115, 58, 99]) (by simp) rfl (by decide) []
  have hnames : NamesUsers [115, 58, 99] "s" "c" :=
    ⟨by decide, by decide, by decide, by decide⟩
  rw [List.append_nil, if_neg (by decide)] at halone
  rw [List.append_nil, if_pos (by decide)] at hmore
  have hnone := hmore.symm.trans (heq.trans halone)
  exact parseUser_eq_none.mp hnone "s" "c" hnames

end RStreamer.Stun
