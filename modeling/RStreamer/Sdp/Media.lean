import RStreamer.Lib.BiMap
import RStreamer.Lib.LastWith
import RStreamer.Lib.Table
import RStreamer.Sdp.Types

/-!
# The codec table of one client (`sdp/media.rs`)

`MediaList` keeps the payload types an offer declared: a bijection between
codec names and payload types, and the clock frequency of each payload type.
It is filled with the rtpmaps of an offer one by one, and each of them drops the
pair of an earlier one with its payload type and the pair of an earlier one with
its name; the frequency of a payload type is only replaced by a later one.
-/

namespace RStreamer

/-- `MediaList` -/
structure MediaList where
  names : BiMap String UInt8
  frequencies : Table UInt8 UInt32

namespace MediaList

/-- `MediaList::default` -/
def empty : MediaList := ⟨BiMap.empty, ∅⟩

/-- `MediaList::get_name` -/
def getName (m : MediaList) (id : UInt8) : Option String :=
  m.names.getByRight id

/-- `MediaList::get_id` -/
def getId (m : MediaList) (name : String) : Option UInt8 :=
  m.names.getByLeft name

/-- `MediaList::get_frequency` -/
def getFrequency (m : MediaList) (id : UInt8) : Option UInt32 :=
  m.frequencies.lookup id

/-- `MediaList::get_frequencies`, one item per payload type. -/
def getFrequencies (m : MediaList) : List UInt32 :=
  m.frequencies.entries.map fun e => e.2

/-- `MediaList::insert` -/
def insert (m : MediaList) (id : UInt8) (name : String) (frequency : UInt32) :
    MediaList where
  names := m.names.insert name id
  frequencies := m.frequencies.insert id frequency

def vp8 : MediaList := empty.insert 96 "VP8" 90000

def insertRtpmap (m : MediaList) (r : SdpAttributeRtpmap) : MediaList :=
  m.insert r.payloadType r.codecName r.frequency

def ofRtpmaps (rs : List SdpAttributeRtpmap) : MediaList :=
  rs.foldl insertRtpmap empty

/-- `FromIterator<SdpAttribute>` -/
def fromIter (attrs : List SdpAttribute) : MediaList :=
  ofRtpmaps (attrs.filterMap SdpAttribute.asRtpmap)

/-- `From<Vec<SdpMedia>>` -/
def ofMedia {M : Type} (lib : SdpLib M) (media : List M) : MediaList :=
  fromIter (media.flatMap lib.getAttributes)

/-! ## What a table holds -/

theorem getName_insert {m : MediaList} {id p : UInt8} {name n : String}
    {frequency : UInt32} : (m.insert id name frequency).getName p = some n ↔
      n = name ∧ p = id ∨ m.getName p = some n ∧ n ≠ name ∧ p ≠ id := by
  rw [getName, getName, BiMap.getByRight_eq_some, BiMap.getByRight_eq_some,
    insert, BiMap.mem_insert]

/-- The two directions of a table agree. -/
theorem getName_eq_some_iff {m : MediaList} {id : UInt8} {name : String} :
    m.getName id = some name ↔ m.getId name = some id := by
  rw [getName, getId, BiMap.getByRight_eq_some, BiMap.getByLeft_eq_some]

theorem getFrequency_insert (m : MediaList) (id p : UInt8) (name : String)
    (frequency : UInt32) : (m.insert id name frequency).getFrequency p =
      if p = id then some frequency else m.getFrequency p :=
  Table.lookup_insert' p id frequency m.frequencies

theorem mem_getFrequencies {m : MediaList} {p : UInt8} {f : UInt32}
    (h : m.getFrequency p = some f) : f ∈ m.getFrequencies :=
  List.mem_map.mpr ⟨⟨p, f⟩, Table.mem_entries_iff.mpr h, rfl⟩

theorem ofRtpmaps_concat (rs : List SdpAttributeRtpmap)
    (r : SdpAttributeRtpmap) : ofRtpmaps (rs ++ [r]) =
      (ofRtpmaps rs).insert r.payloadType r.codecName r.frequency := by
  rw [ofRtpmaps, List.foldl_append]
  rfl

/-- A payload type has a name if the last rtpmap that declares it is the last
one of that name. -/
theorem getName_ofRtpmaps (rs : List SdpAttributeRtpmap) (p : UInt8)
    (n : String) : (ofRtpmaps rs).getName p = some n ↔
      ∃ r post, LastWith (fun x => x.payloadType = p) rs r post ∧
        LastWith (fun x => x.codecName = n) rs r post := by
  induction rs using List.reverseRecOn with
  | nil =>
      refine ⟨fun h => (by cases h), ?_⟩
      rintro ⟨r, post, h, -⟩
      exact absurd h LastWith.not_nil
  | append_singleton rs a ih =>
      rw [ofRtpmaps_concat, getName_insert]
      simp only [LastWith.concat_iff]
      constructor
      · rintro (⟨rfl, rfl⟩ | ⟨hold, hn, hp⟩)
        · exact ⟨a, [], .inl ⟨rfl, rfl, rfl⟩, .inl ⟨rfl, rfl, rfl⟩⟩
        · obtain ⟨r, post, hid, hname⟩ := ih.mp hold
          exact ⟨r, post ++ [a], .inr ⟨Ne.symm hp, post, rfl, hid⟩,
            .inr ⟨Ne.symm hn, post, rfl, hname⟩⟩
      · rintro ⟨r, post, ⟨hp, -, rfl⟩ | ⟨hp, q, rfl, hid⟩, hname⟩
        · rcases hname with ⟨hn, -, -⟩ | ⟨-, q, hq, -⟩
          · exact .inl ⟨hn.symm, hp.symm⟩
          · simp at hq
        · rcases hname with ⟨-, -, hq⟩ | ⟨hn, q', hq, hname⟩
          · simp at hq
          · obtain ⟨rfl, -⟩ := List.append_inj' hq rfl
            exact .inr ⟨ih.mpr ⟨r, q, hid, hname⟩, Ne.symm hn, Ne.symm hp⟩

/-- A payload type has the frequency of the last rtpmap that declares it. -/
theorem getFrequency_ofRtpmaps (rs : List SdpAttributeRtpmap) (p : UInt8)
    (f : UInt32) : (ofRtpmaps rs).getFrequency p = some f ↔
      ∃ r post, LastWith (fun x => x.payloadType = p) rs r post ∧
        r.frequency = f := by
  induction rs using List.reverseRecOn with
  | nil =>
      refine ⟨fun h => (by cases h), ?_⟩
      rintro ⟨r, post, h, -⟩
      exact absurd h LastWith.not_nil
  | append_singleton rs a ih =>
      rw [ofRtpmaps_concat, getFrequency_insert]
      simp only [LastWith.concat_iff]
      split
      · next hp =>
          constructor
          · intro h
            exact ⟨a, [], .inl ⟨hp.symm, rfl, rfl⟩, Option.some.inj h⟩
          · rintro ⟨r, post, ⟨-, rfl, -⟩ | ⟨hne, -⟩, hf⟩
            · rw [hf]
            · exact absurd hp.symm hne
      · next hp =>
          rw [ih]
          constructor
          · rintro ⟨r, post, h, hf⟩
            exact ⟨r, post ++ [a], .inr ⟨Ne.symm hp, post, rfl, h⟩, hf⟩
          · rintro ⟨r, post, ⟨heq, -, -⟩ | ⟨-, q, -, h⟩, hf⟩
            · exact absurd heq.symm hp
            · exact ⟨r, q, h, hf⟩

end MediaList

end RStreamer
