import CustomerKeys.Proofs.WrittenSettings

/-!
# Which settings have a text

Settings have a text exactly when their waits and the lifetime of their backups are numbers that 64
bits hold with a sign, and are then read back from it. Of what stands in settings nothing else is
out of reach: a text of any characters has a form, a list may have any length, and the number of
nodes is small enough. When one of the numbers is too large there is no text at all, so none can be
mistaken for other settings.
-/

namespace CustomerKeys

section MapM

variable {ε α β : Type} {make : α → Except ε β} {items : List α} {fault : ε}

/-- A list of which nothing can be made has an item of which nothing can be made. -/
theorem exists_error_of_traverse (failed : items.mapM make = .error fault) :
    ∃ item ∈ items, make item = .error fault := by
  induction items with
  | nil => cases failed
  | cons item items inductionHypothesis =>
    rw [List.mapM_cons] at failed
    cases first : make item with
    | error early =>
      rw [first] at failed
      obtain rfl := Except.error.inj failed
      exact ⟨item, List.mem_cons_self, first⟩
    | ok result =>
      cases others : items.mapM make with
      | error late =>
        rw [first, others] at failed
        obtain rfl := Except.error.inj failed
        obtain ⟨wrong, listed, unmade⟩ := inductionHypothesis others
        exact ⟨wrong, List.mem_cons_of_mem item listed, unmade⟩
      | ok results =>
        rw [first, others] at failed
        cases failed

/-- If items fail in one way only and one of them does, the list fails in that way. -/
theorem traverse_eq_error (only : ∀ item ∈ items, ∀ other, make item = .error other → other = fault)
    {item : α} (listed : item ∈ items) (wrong : make item = .error fault) :
    items.mapM make = .error fault := by
  induction items with
  | nil => cases listed
  | cons head items inductionHypothesis =>
    obtain ⟨headOnly, only⟩ := List.forall_mem_cons.mp only
    rw [List.mapM_cons]
    cases first : make head with
    | error other =>
      rw [headOnly other first]
      rfl
    | ok result =>
      have behind : item ∈ items := by
        rcases List.mem_cons.mp listed with rfl | later
        · cases first.symm.trans wrong
        · exact later
      rw [inductionHypothesis only behind]
      rfl

end MapM

namespace Toml

/-- A natural number that does not fit cannot be written. -/
theorem written_scalar_wide {number : Nat} (wide : signedBound ≤ number) :
    writtenScalar (.integer number) = .error .wideInteger := by
  have bound : (signedBound : Int) ≤ number := Int.ofNat_le.mpr wide
  have unfit : fitsSigned number = false := by
    simp only [fitsSigned, Bool.and_eq_false_iff, decide_eq_false_iff_not]
    omega
  rw [writtenScalar, unfit]
  rfl

/-- It is no value of an entry either. -/
theorem written_value_wide {number : Nat} (wide : signedBound ≤ number) :
    writtenValue (.integer number) = .error .wideInteger := by
  rw [writtenValue]
  · exact written_scalar_wide wide
  · intro items same
    cases same

/-- No scalar fails in another way. -/
theorem eq_wide_integer_of_written_scalar {document : Document} (plain : document.Scalar)
    {fault : Unwritable} (failed : writtenScalar document = .error fault) :
    fault = .wideInteger := by
  cases plain with
  | boolean truth => cases failed
  | natural number =>
    rw [writtenScalar] at failed
    split at failed
    · cases failed
    · exact (Except.error.inj failed).symm
  | text characters => cases failed

/-- Nor does a list of scalars. -/
theorem eq_wide_integer_of_written_value {document : Document} (plain : document.Flat)
    {fault : Unwritable} (failed : writtenValue document = .error fault) :
    fault = .wideInteger := by
  cases plain with
  | scalar plain =>
    apply eq_wide_integer_of_written_scalar plain
    cases plain <;> exact failed
  | @list items plain =>
    cases made : items.mapM writtenScalar with
    | error other =>
      rw [writtenValue, made] at failed
      obtain rfl := Except.error.inj failed
      obtain ⟨item, listed, wrong⟩ := exists_error_of_traverse made
      exact eq_wide_integer_of_written_scalar (plain item listed) wrong
    | ok texts =>
      rw [writtenValue, made] at failed
      cases failed

/-- A list cannot be written when one of its numbers does not fit. -/
theorem written_value_list_wide {items : List Document} (plain : ∀ item ∈ items, item.Scalar)
    {number : Nat} (listed : .integer number ∈ items) (wide : signedBound ≤ number) :
    writtenValue (.list items) = .error .wideInteger := by
  have only : ∀ item ∈ items, ∀ other, writtenScalar item = .error other → other = .wideInteger :=
    fun item inside _ failed => eq_wide_integer_of_written_scalar (plain item inside) failed
  rw [writtenValue, traverse_eq_error only listed (written_scalar_wide wide)]
  rfl

/-- A table cannot be written when one of its values cannot. -/
theorem write_wide {entries : List (String × Document)} (plain : ∀ entry ∈ entries, entry.2.Flat)
    {entry : String × Document} (listed : entry ∈ entries)
    (wide : writtenValue entry.2 = .error .wideInteger) :
    write (.table entries) = .error .wideInteger := by
  have only : ∀ entry ∈ entries, ∀ other, writtenEntry entry = .error other →
      other = .wideInteger := by
    intro other inside fault failed
    cases value : writtenValue other.2 with
    | error early =>
      rw [writtenEntry, value] at failed
      obtain rfl := Except.error.inj failed
      exact eq_wide_integer_of_written_value (plain other inside) value
    | ok shown =>
      rw [writtenEntry, value] at failed
      cases failed
  have wrong : writtenEntry entry = .error .wideInteger := by
    rw [writtenEntry, wide]
    rfl
  rw [write, traverse_eq_error only listed wrong]
  rfl

end Toml

namespace Settings

/-- The largest number that 64 bits hold with a sign. -/
def largestSigned : Nat := 9223372036854775807

/-- Every wait of the settings, and the lifetime of their backups, is a number that 64 bits hold
with a sign. -/
def FitSigned (settings : Settings) : Prop :=
  (∀ seconds ∈ settings.backoff, seconds.toNat ≤ largestSigned) ∧
    settings.backupLifetime.toNat ≤ largestSigned

/-- Settings with a larger wait have no text. -/
theorem to_toml_of_wide_wait {settings : Settings} {seconds : UInt64}
    (listed : seconds ∈ settings.backoff) (wide : largestSigned < seconds.toNat) :
    settings.toToml = .error .wideInteger := by
  have waits : ∀ item ∈ settings.backoff.map Encode.word64, item.Scalar := by
    intro item inside
    obtain ⟨other, -, rfl⟩ := List.mem_map.mp inside
    exact .natural other.toNat
  have entry : ("backoff_secs", Encode.list Encode.word64 settings.backoff) ∈ settings.entries := by
    simp [entries, encode]
  rw [toToml, encode_eq]
  apply Toml.write_wide settings.flat_entries entry
  exact Toml.written_value_list_wide waits (List.mem_map_of_mem listed) wide

/-- Settings with a longer lifetime of backups have no text. -/
theorem to_toml_of_wide_lifetime {settings : Settings}
    (wide : largestSigned < settings.backupLifetime.toNat) :
    settings.toToml = .error .wideInteger := by
  have entry : ("backup_ttl_secs", Encode.word64 settings.backupLifetime) ∈ settings.entries := by
    simp [entries, encode]
  rw [toToml, encode_eq]
  apply Toml.write_wide settings.flat_entries entry
  exact Toml.written_value_wide wide

/-- Settings and their text. Whatever the settings are, if their waits and the lifetime of their
backups fit then they have a text, and reading it gives the same settings again. If one of these
numbers is larger there is no text, and the reason is that number. -/
theorem toml_round_trip (settings : Settings) :
    (settings.FitSigned → ∃ text, settings.toToml = .ok text ∧ ofToml text = .ok settings) ∧
    (¬ settings.FitSigned → settings.toToml = .error .wideInteger) := by
  constructor
  · rintro ⟨waits, lifetime⟩
    have small : ∀ seconds ∈ settings.backoff, seconds.toNat < signedBound :=
      fun seconds listed => Nat.lt_succ_of_le (waits seconds listed)
    obtain ⟨text, written⟩ := exists_to_toml small (Nat.lt_succ_of_le lifetime)
    exact ⟨text, written, of_toml_of_to_toml written⟩
  · intro unfit
    by_cases lifetime : settings.backupLifetime.toNat ≤ largestSigned
    · have wait : ¬ ∀ seconds ∈ settings.backoff, seconds.toNat ≤ largestSigned :=
        fun waits => unfit ⟨waits, lifetime⟩
      simp only [not_forall, Nat.not_le] at wait
      obtain ⟨seconds, listed, wide⟩ := wait
      exact to_toml_of_wide_wait listed wide
    · exact to_toml_of_wide_lifetime (Nat.lt_of_not_le lifetime)

/-- A key of quotes, backslashes, control characters and others comes back, and so do the longest
lifetime and a schedule without entries. With a wait of one second more there is no text. -/
theorem odd_settings_round_trip :
    let settings := { scaffold "p" "\"'''k\\\x00\n\r\t\"\"\"é" with
      backoff := [], backupLifetime := 9223372036854775807 }
    let larger := { settings with backoff := [5, 9223372036854775808] }
    settings.FitSigned ∧ (∃ text, settings.toToml = .ok text ∧ ofToml text = .ok settings) ∧
      ¬ larger.FitSigned ∧ larger.toToml = .error .wideInteger := by
  intro settings larger
  have fits : settings.FitSigned := ⟨nofun, Nat.le_refl _⟩
  have wide : ¬ larger.FitSigned := by
    intro small
    have wait := small.1 9223372036854775808 (by decide)
    exact absurd wait (by decide)
  exact ⟨fits, (toml_round_trip settings).1 fits, wide, (toml_round_trip larger).2 wide⟩

end Settings

end CustomerKeys
