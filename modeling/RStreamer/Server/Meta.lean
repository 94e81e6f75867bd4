import RStreamer.Sdp.Offer
import RStreamer.Stun.Encode

/-!
# Names (`server/meta.rs`)

The server draws a user name and a password when it starts, and a client brings
its own in its offers. Both are made of ICE characters, so on the wire a name
takes one byte for each character, and none of them is the colon that stands
between the two names in a binding request.
-/

namespace RStreamer

/-- `RAND_CHAR_TABLE` -/
def RAND_CHAR_TABLE : Vector Char 62 where
  toArray := ("ABCDEFGHIJKLMNOPQRSTUVWXYZabcdefghijklmnopqrstuvwxyz" ++
    "0123456789").toList.toArray
  size_toArray := by decide

/-- `rand_string`, for the numbers that are drawn. -/
def randString (draws : List (Fin 62)) : String :=
  String.ofList (draws.map fun i => RAND_CHAR_TABLE.get i)

/-- `ServerMeta` -/
structure ServerMeta where
  user : String
  password : String

/-- `ServerMeta::new` -/
def ServerMeta.new (user : Vector (Fin 62) 12) (password : Vector (Fin 62) 24) :
    ServerMeta where
  user := randString user.toList
  password := randString password.toList

/-- What an answer reads of a server that goes by these names. -/
def ServerMeta.data (names : ServerMeta) (digest : List UInt8) : ServerData :=
  ⟨names.user, names.password, digest⟩

/-! ## ICE characters -/

/-- Letters, digits, `+` and `/`. -/
def isIceChar (c : Char) : Bool :=
  ('A' ≤ c && c ≤ 'Z') || ('a' ≤ c && c ≤ 'z') || ('0' ≤ c && c ≤ '9') ||
    c == '+' || c == '/'

/-- A string of ICE characters. -/
def IceChars (s : String) : Prop := ∀ c ∈ s.toList, isIceChar c = true

theorem isIceChar_randChar (i : Fin 62) :
    isIceChar (RAND_CHAR_TABLE.get i) = true := by
  revert i
  decide +kernel

theorem iceChars_randString (draws : List (Fin 62)) :
    IceChars (randString draws) := by
  intro c hc
  rw [randString, String.toList_ofList, List.mem_map] at hc
  obtain ⟨i, -, rfl⟩ := hc
  exact isIceChar_randChar i

theorem length_randString (draws : List (Fin 62)) :
    (randString draws).length = draws.length := by
  rw [randString, String.length_ofList, List.length_map]

theorem isIceChar_bounds {c : Char} (h : isIceChar c = true) :
    c.toNat < 128 ∧ c.toNat ≠ 58 := by
  simp only [isIceChar, Bool.or_eq_true, Bool.and_eq_true, decide_eq_true_eq,
    beq_iff_eq, Char.le_def, UInt32.le_iff_toNat_le] at h
  rcases h with ((((hlow | hlow) | hlow) | rfl) | rfl)
  · exact ⟨Nat.lt_of_le_of_lt hlow.2 (by decide), fun h => absurd
      (show 65 ≤ c.toNat from hlow.1) (by omega)⟩
  · exact ⟨Nat.lt_of_le_of_lt hlow.2 (by decide), fun h => absurd
      (show 97 ≤ c.toNat from hlow.1) (by omega)⟩
  · exact ⟨Nat.lt_of_le_of_lt hlow.2 (by decide), fun h => absurd
      (show c.toNat ≤ 57 from hlow.2) (by omega)⟩
  · decide
  · decide

namespace Stun

theorem utf8_eq_flatMap (s : String) :
    utf8 s = s.toList.flatMap String.utf8EncodeChar := by
  rw [utf8, String.toUTF8_eq_toByteArray, ← String.utf8Encode_toList,
    List.utf8Encode, List.toList_data_toByteArray]

/-- Two names with a colon between them, on the wire. -/
theorem utf8_colon (s t : String) :
    utf8 (s ++ ":" ++ t) = utf8 s ++ 58 :: utf8 t := by
  simp only [utf8_eq_flatMap, String.toList_append, List.flatMap_append,
    List.append_assoc]
  rfl

theorem utf8EncodeChar_ascii {c : Char} (h : c.toNat < 128) :
    String.utf8EncodeChar c = [c.val.toUInt8] := by
  refine String.utf8EncodeChar_eq_singleton (Char.utf8Size_eq_one_iff.mpr ?_)
  rw [UInt32.le_iff_toNat_le]
  exact Nat.le_of_lt_succ h

/-- A name of ICE characters, on the wire. -/
theorem utf8_iceChars {s : String} (h : IceChars s) :
    utf8 s = s.toList.map fun c => c.val.toUInt8 := by
  rw [utf8_eq_flatMap, List.map_eq_flatMap]
  refine List.flatMap_congr fun c hc => ?_
  exact utf8EncodeChar_ascii (isIceChar_bounds (h c hc)).1

theorem length_utf8 {s : String} (h : IceChars s) :
    (utf8 s).length = s.length := by
  rw [utf8_iceChars h, List.length_map, String.length_toList]

theorem colon_notMem_utf8 {s : String} (h : IceChars s) : 58 ∉ utf8 s := by
  rw [utf8_iceChars h, List.mem_map]
  rintro ⟨c, hc, hcolon⟩
  obtain ⟨hlt, hne⟩ := isIceChar_bounds (h c hc)
  refine hne ?_
  have hval : c.val.toNat < 256 := Nat.lt_trans hlt (by decide)
  have hnat := congrArg UInt8.toNat hcolon
  rw [UInt32.toNat_toUInt8, Nat.mod_eq_of_lt hval] at hnat
  exact hnat

end Stun

end RStreamer
