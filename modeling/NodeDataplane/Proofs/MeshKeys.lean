import NodeDataplane.Field
import NodeDataplane.Proofs.Base64Text

/-!
# Public keys of the mesh

A key of 32 bytes is written in 44 characters, of which the last one is a pad. The one before has
two bits that belong to no byte of the key. They are not looked at, so every key has four texts that
are read, and only one of them is the text that writing the key gives.

## Main results

- `FieldKind.readMeshPublicKey_eq_ok_iff`: what is read are the texts of keys.
- `Field.meshPublicKey_texts`: so a field takes a text that is no writing of a key exactly if one of
  its two spare bits is set, and takes a key under exactly four texts.
-/

namespace NodeDataplane

namespace Field

/-- A text of a key, with a value of the two bits behind its last byte. -/
structure IsKeyText (raw : String) (key : List UInt8) (spare : Nat) : Prop where
  size : key.length = meshKeySize
  bound : spare < 4
  text : raw.toList = Base64.encodeWith spare key

/-- The text that writing a key gives. -/
def IsStandardKey (raw : String) : Prop :=
  ∃ key, key.length = meshKeySize ∧ raw.toList = Base64.encode key

namespace IsKeyText

variable {raw other : String} {key : List UInt8} {spare spare' : Nat}

theorem bound_size (text : IsKeyText raw key spare) : spare < Base64.spareBound key.length := by
  rw [text.size]
  exact text.bound

theorem length (text : IsKeyText raw key spare) : raw.toList.length = meshKeyLength := by
  rw [text.text, Base64.length_encodeWith, text.size]
  rfl

theorem decode (text : IsKeyText raw key spare) : Base64.decode raw.toList = .ok key := by
  rw [text.text, Base64.decode_encodeWith text.bound_size]

theorem pad_mem (text : IsKeyText raw key spare) : '=' ∈ raw.toList := by
  rw [text.text, Base64.encodeWith, text.size]
  exact List.mem_append_right _ (by decide)

theorem ne_empty (text : IsKeyText raw key spare) : raw ≠ "" := by
  rintro rfl
  exact absurd text.length (by decide)

/-- All texts of one key differ in the spare bits. -/
theorem eq_iff (first : IsKeyText raw key spare) (second : IsKeyText other key spare') :
    raw = other ↔ spare = spare' := by
  rw [← String.toList_inj, first.text, second.text]
  exact ⟨Base64.encodeWith_inj first.bound_size second.bound_size, congrArg (Base64.encodeWith · key)⟩

theorem isStandardKey_iff (text : IsKeyText raw key spare) : IsStandardKey raw ↔ spare = 0 := by
  constructor
  · rintro ⟨key', size, written⟩
    -- Both texts are read, so they are texts of one key.
    have read := Base64.decode_encode key'
    rw [← written, text.decode] at read
    cases read
    rw [← Base64.encodeWith_zero] at written
    exact (text.eq_iff ⟨size, by decide, written⟩).1 rfl
  · rintro rfl
    exact ⟨key, text.size, text.text.trans (Base64.encodeWith_zero key)⟩

end IsKeyText

theorem IsStandardKey.exists_isKeyText {raw : String} (standard : IsStandardKey raw) :
    ∃ key, IsKeyText raw key 0 := by
  obtain ⟨key, size, written⟩ := standard
  exact ⟨key, size, by decide, written.trans (Base64.encodeWith_zero key).symm⟩

end Field

/-! ### What is read -/

theorem FieldKind.readMeshPublicKey_eq_ok_iff {raw value : String} :
    readMeshPublicKey raw = .ok value ↔ value = raw ∧ ∃ key spare, Field.IsKeyText raw key spare := by
  constructor
  · intro read
    unfold readMeshPublicKey at read
    dsimp only at read
    split at read
    next => cases read
    next length =>
      split at read
      next => cases read
      next =>
        split at read
        next => cases read
        next key decoded =>
          split at read
          next => cases read
          next size =>
            cases read
            have size : key.length = meshKeySize := Decidable.not_not.1 size
            obtain ⟨spare, bound, vain, text, allowed⟩ := Base64.decode_eq_ok_iff.1 decoded
            rw [size] at bound allowed
            -- The last group of 32 bytes is not complete, so there are no more pads than it needs.
            obtain rfl : vain = 0 := allowed.resolve_right fun complete => absurd complete.1 (by decide)
            exact ⟨rfl, key, spare, size, bound, text.trans (List.append_nil _)⟩
  · rintro ⟨rfl, key, spare, text⟩
    have ascii : (value.toList.any fun c => 0x80 ≤ c.toNat) = false := by
      simp only [List.any_eq_false, decide_eq_true_eq, Nat.not_le, text.text]
      exact fun c => Base64.toNat_lt_of_mem_encodeWith text.bound_size
    simp only [readMeshPublicKey, text.length, ne_eq, not_true_eq_false, if_false, ascii,
      Bool.false_eq_true, text.decode, text.size]

namespace Field

theorem parse_meshPublicKey_eq_parsed_iff {raw value : String} :
    parse .meshPublicKey (some raw) none = .parsed value ↔
      value = raw ∧ ∃ key spare, IsKeyText raw key spare := by
  by_cases empty : raw = ""
  · refine iff_of_false ?_ fun ⟨_, key, spare, text⟩ => text.ne_empty empty
    rw [parse_eq_absent_iff.2 empty]
    nofun
  · rw [← FieldKind.readMeshPublicKey_eq_ok_iff, ← FieldResult.value?_eq_some_iff,
      value?_parse _ empty]
    change (FieldKind.readMeshPublicKey raw).toOption = some value ↔ _
    cases FieldKind.readMeshPublicKey raw <;> simp [Except.toOption]

/-- A field takes every text of a key, whatever its spare bits: so it takes texts that are no
standard ones, and each key under four texts. -/
theorem meshPublicKey_texts (raw : String) :
    (parse .meshPublicKey (some raw) none = .absent ↔ raw = "") ∧
    (∀ value, parse .meshPublicKey (some raw) none = .parsed value ↔
      value = raw ∧ ∃ key spare, IsKeyText raw key spare) ∧
    ((parse .meshPublicKey (some raw) none).failed = true ↔
      raw ≠ "" ∧ ¬ ∃ key spare, IsKeyText raw key spare) ∧
    (∀ key spare, IsKeyText raw key spare →
      Base64.decode raw.toList = .ok key ∧
        ∀ other spare', IsKeyText other key spare' → (raw = other ↔ spare = spare')) ∧
    (∀ key spare, key.length = meshKeySize → spare < 4 → ∃ text, IsKeyText text key spare) ∧
    (((parse .meshPublicKey (some raw) none).ok = true ↔ IsStandardKey raw) ↔
      ∀ key spare, IsKeyText raw key spare → spare = 0) := by
  have accepted : (parse .meshPublicKey (some raw) none).ok = true ↔
      ∃ key spare, IsKeyText raw key spare := by
    rw [FieldResult.ok_iff]
    exact ⟨fun ⟨value, parsed⟩ => (parse_meshPublicKey_eq_parsed_iff.1 parsed).2,
      fun text => ⟨raw, parse_meshPublicKey_eq_parsed_iff.2 ⟨rfl, text⟩⟩⟩
  refine ⟨parse_eq_absent_iff, fun value => parse_meshPublicKey_eq_parsed_iff, ?_,
    fun key spare text => ⟨text.decode, fun other spare' => text.eq_iff⟩,
    fun key spare size bound => ⟨_, size, bound, String.toList_ofList⟩, ?_⟩
  · rw [failed_parse_iff, ← accepted, FieldResult.ok, Option.not_isSome_iff_eq_none]
  · rw [accepted]
    constructor
    · intro standard key spare text
      exact text.isStandardKey_iff.1 (standard.1 ⟨key, spare, text⟩)
    · intro no_spare
      constructor
      · rintro ⟨key, spare, text⟩
        exact text.isStandardKey_iff.2 (no_spare key spare text)
      · intro standard
        obtain ⟨key, text⟩ := standard.exists_isKeyText
        exact ⟨key, 0, text⟩

theorem meshPublicKey_texts_of_key :
    let raw := "HIgo9xNzJMWLKASShiTqIybxZ0U3wGLiUeJ1PKf8ykw="
    parse .meshPublicKey (some raw) none = .parsed raw ∧ IsStandardKey raw := by
  let key : List UInt8 := [28, 136, 40, 247, 19, 115, 36, 197, 139, 40, 4, 146, 134, 36, 234, 35,
    38, 241, 103, 69, 55, 192, 98, 226, 81, 226, 117, 60, 167, 252, 202, 76]
  have text : IsKeyText "HIgo9xNzJMWLKASShiTqIybxZ0U3wGLiUeJ1PKf8ykw=" key 0 :=
    ⟨by decide, by decide, by decide⟩
  obtain ⟨-, parsed, -, texts, -, accepted⟩ :=
    meshPublicKey_texts "HIgo9xNzJMWLKASShiTqIybxZ0U3wGLiUeJ1PKf8ykw="
  have taken := (parsed _).2 ⟨rfl, key, 0, text⟩
  refine ⟨taken, (accepted.2 fun key' spare text' => ?_).1 (FieldResult.ok_iff.2 ⟨_, taken⟩)⟩
  -- The key is the one that is read, so there is no other value of the spare bits.
  have same := (texts key 0 text).1.symm.trans (texts key' spare text').1
  cases same
  exact (((texts key 0 text).2 _ spare text').1 rfl).symm

/-- Two texts of one key are taken, of which the second is not what writing the key gives. -/
theorem spare_bits_taken :
    let text := "AAAAAAAAAAAAAAAAAAAAAAAAAAAAAAAAAAAAAAAAAAA="
    let other := "AAAAAAAAAAAAAAAAAAAAAAAAAAAAAAAAAAAAAAAAAAB="
    parse .meshPublicKey (some text) none = .parsed text ∧
      parse .meshPublicKey (some other) none = .parsed other ∧
      Base64.decode text.toList = Base64.decode other.toList ∧ ¬ IsStandardKey other := by
  refine ⟨by decide +kernel, by decide +kernel, by decide +kernel, ?_⟩
  rintro ⟨key, -, written⟩
  have read := Base64.decode_encode key
  have zeros : Base64.decode "AAAAAAAAAAAAAAAAAAAAAAAAAAAAAAAAAAAAAAAAAAB=".toList =
      .ok (List.replicate 32 0) := by decide +kernel
  rw [← written, zeros] at read
  cases read
  exact absurd written (by decide +kernel)

end Field

end NodeDataplane
