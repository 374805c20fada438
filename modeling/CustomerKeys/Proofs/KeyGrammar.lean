import CustomerKeys.Proofs.KeyVersions

/-!
# The names of keys, as texts

A text is the name of a key when it has four parts in the places that the fixed words leave for
them, and a part may be anything that is not empty and holds no slash, the fixed words included.
Reading such a text gives its parts, and writing them gives the text, so each name is read in one
way only. A key that is put together from other parts has no text that is read as that key.

The name of a version carries the key and the number. Neither can be mistaken: two keys whose
versions have one name extend each other, and what is left after the key is the number alone.
-/

namespace CustomerKeys

/-- Numbers with the same decimal text are the same: reading its digits gives the number back. -/
theorem to_string_nat_injective {number other : Nat} (same : toString number = toString other) :
    number = other := by
  rw [Nat.toString_eq_ofList_toDigits, Nat.toString_eq_ofList_toDigits, String.ofList_inj] at same
  rw [← Nat.ofDigitChars_ten_toDigits (n := number), same, Nat.ofDigitChars_ten_toDigits]

namespace KeyName

/-- What may stand as a part of a name: at least one character, and no slash. -/
def IsPart (part : String) : Prop := part ≠ "" ∧ '/' ∉ part.toList

/-- Whether a text may be a part of a key's name can be computed. -/
instance (part : String) : Decidable (IsPart part) := inferInstanceAs (Decidable (_ ∧ _))

/-- A text spells a key out when it has the key's four parts between the fixed words. -/
def Spells (text project location ring key : String) : Prop :=
  IsPart project ∧ IsPart location ∧ IsPart ring ∧ IsPart key ∧
    text = "projects/" ++ project ++ "/locations/" ++ location ++ "/keyRings/" ++ ring ++
      "/cryptoKeys/" ++ key

/-- Whether a text spells a key with given parts can be computed as well. -/
instance (text project location ring key : String) :
    Decidable (Spells text project location ring key) :=
  inferInstanceAs (Decidable (_ ∧ _ ∧ _ ∧ _ ∧ _))

/-- A name is well formed when all four of its parts may stand there. -/
theorem well_formed_iff {name : KeyName} :
    name.WellFormed ↔
      IsPart name.project ∧ IsPart name.location ∧ IsPart name.ring ∧ IsPart name.key := by
  simp [WellFormed, IsPart]

/-- Reading finds the parts that a text spells out, and no others. -/
theorem parse_eq_ok_iff_spells {text project location ring key : String} :
    parse text = .ok ⟨project, location, ring, key⟩ ↔ Spells text project location ring key := by
  rw [parse_eq_ok_iff, well_formed_iff, Spells, and_assoc, and_assoc, and_assoc, eq_comm, render]

/-- Keys that extend each other are the same. -/
theorem Extends.antisymm {name other : KeyName} (longer : name.Extends other)
    (shorter : other.Extends name) : name = other := by
  obtain ⟨sameProject, sameLocation, sameRing, begins⟩ := longer
  obtain ⟨-, -, -, begun⟩ := shorter
  have sameKey := String.toList_inj.mp (begins.eq_of_length_le begun.length_le)
  cases name
  cases other
  rw [KeyName.mk.injEq]
  exact ⟨sameProject, sameLocation, sameRing, sameKey.symm⟩

/-- The name of a version says which key and which number it is of. -/
theorem version_injective {name other : KeyName} (wellFormed : name.WellFormed)
    (otherWellFormed : other.WellFormed) {number otherNumber : UInt32}
    (same : name.version number = other.version otherNumber) :
    name = other ∧ number = otherNumber := by
  have begins := is_prefix_of_version (parse_render wellFormed) number
  have otherBegins := is_prefix_of_version (parse_render otherWellFormed) otherNumber
  rw [same, is_prefix_of_version_iff wellFormed otherWellFormed] at begins
  rw [← same, is_prefix_of_version_iff otherWellFormed wellFormed] at otherBegins
  obtain rfl := otherBegins.antisymm begins
  have numbers : toString number.toNat = toString otherNumber.toNat := by
    simpa [version] using same
  exact ⟨rfl, UInt32.toNat_inj.mp (to_string_nat_injective numbers)⟩

/-- Reading accepts the texts that spell a key out and gives the parts they are made of, and writing
the key gives the text again. The other way round a key is read from its own text exactly when its
parts may stand there. No two versions of keys that can be read share a name. -/
theorem names_are_read_as_written :
    (∀ text : String, (∃ name, parse text = .ok name) ↔
      ∃ project location ring key, Spells text project location ring key) ∧
    (∀ text project location ring key : String,
      parse text = .ok ⟨project, location, ring, key⟩ ↔
        Spells text project location ring key) ∧
    (∀ (text : String) (name : KeyName), parse text = .ok name → name.render = text) ∧
    (∀ name : KeyName, parse name.render = .ok name ↔
      IsPart name.project ∧ IsPart name.location ∧ IsPart name.ring ∧ IsPart name.key) ∧
    (∀ (text otherText : String) (name other : KeyName) (number otherNumber : UInt32),
      parse text = .ok name → parse otherText = .ok other →
        name.version number = other.version otherNumber →
          name = other ∧ number = otherNumber) := by
  refine ⟨?_, ?_, ?_, ?_, ?_⟩
  · intro text
    constructor
    · rintro ⟨name, readsKey⟩
      exact ⟨_, _, _, _, parse_eq_ok_iff_spells.mp readsKey⟩
    · rintro ⟨project, location, ring, key, spells⟩
      exact ⟨_, parse_eq_ok_iff_spells.mpr spells⟩
  · intro text project location ring key
    exact parse_eq_ok_iff_spells
  · intro text name readsKey
    exact render_of_parse readsKey
  · intro name
    rw [parse_eq_ok_iff, well_formed_iff]
    exact and_iff_left rfl
  · intro text otherText name other number otherNumber readsKey readsOther same
    exact version_injective (well_formed_of_parse readsKey) (well_formed_of_parse readsOther) same

/-- The fixed words may stand as parts, and are read by their places. The versions of such a key
have names of their own. -/
theorem fixed_words_read_as_parts :
    let text := "projects/locations/locations/projects/keyRings/keyRings/cryptoKeys/cryptoKeys"
    let name : KeyName := ⟨"locations", "projects", "keyRings", "cryptoKeys"⟩
    parse text = .ok name ∧ name.render = text ∧ parse name.render = .ok name ∧
      ∀ number other : UInt32, name.version number = name.version other → number = other := by
  intro text name
  obtain ⟨-, reads, writes, readsBack, versions⟩ := names_are_read_as_written
  have readsKey : parse text = .ok name := (reads text _ _ _ _).mpr (by decide)
  refine ⟨readsKey, writes text name readsKey, (readsBack name).mpr (by decide), ?_⟩
  intro number other same
  exact (versions text text name name number other readsKey readsKey same).2

end KeyName

end CustomerKeys
