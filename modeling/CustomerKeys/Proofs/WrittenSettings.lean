import CustomerKeys.Proofs.RecordShapes
import CustomerKeys.Proofs.WrittenDocuments
import CustomerKeys.Settings.Text

/-!
# Settings read back from their text

The document of settings is a table of eleven entries under different bare names, each of them a
scalar or a list of scalars, so it survives being written and read as TOML. The shape of settings
then finds the settings in it. Whatever text is written for settings is therefore read back as
these settings, also by way of the bytes of a file.

A text exists as soon as the two kinds of 64-bit numbers, waits and lifetime, fit in 64 bits with a
sign; the number of nodes always does.
-/

namespace CustomerKeys

/-- Where something can be made of every item, something can be made of the list. -/
theorem exists_traverse {ε α β : Type} {make : α → Except ε β} {items : List α}
    (each : ∀ item ∈ items, ∃ result, make item = .ok result) :
    ∃ results, items.mapM make = .ok results := by
  induction items with
  | nil => exact ⟨[], rfl⟩
  | cons item items inductionHypothesis =>
    obtain ⟨first, others⟩ := List.forall_mem_cons.mp each
    obtain ⟨result, made⟩ := first
    obtain ⟨results, rest⟩ := inductionHypothesis others
    refine ⟨result :: results, ?_⟩
    rw [List.mapM_cons, made, rest]
    rfl

/-- A text is found again in its bytes, so a file that a text was written to holds that text. -/
theorem from_utf8_to_utf8 (text : String) : String.fromUTF8? text.toUTF8 = some text := by
  have valid : text.toUTF8.IsValidUTF8 := text.isValidUTF8
  rw [String.fromUTF8?, dif_pos valid]
  rfl

namespace Toml

/-- A natural number that fits can be written. -/
theorem written_scalar_natural {number : Nat} (fits : number < signedBound) :
    writtenScalar (.integer number) = .ok (toString (number : Int)) := by
  rw [writtenScalar, if_pos (fits_signed_of_lt fits)]

/-- So can an entry with one. -/
theorem written_value_natural {number : Nat} (fits : number < signedBound) :
    ∃ shown, writtenValue (.integer number) = .ok shown := by
  refine ⟨toString (number : Int), ?_⟩
  rw [writtenValue]
  · exact written_scalar_natural fits
  · intro items same
    cases same

/-- A table can be written when its values can. That its names are bare is a matter of its reading.
-/
theorem exists_write {entries : List (String × Document)}
    (each : ∀ entry ∈ entries, ∃ shown, writtenValue entry.2 = .ok shown) :
    ∃ text, write (.table entries) = .ok text := by
  have lines : ∀ entry ∈ entries, ∃ line, writtenEntry entry = .ok line := by
    intro entry listed
    obtain ⟨shown, value⟩ := each entry listed
    exact ⟨_, by rw [writtenEntry, value]; rfl⟩
  obtain ⟨texts, made⟩ := exists_traverse lines
  exact ⟨String.join texts, by rw [write, made]; rfl⟩

end Toml

namespace Settings

/-- The entries of the document of settings, in the order in which they are written. -/
def entries (settings : Settings) : List (String × Document) :=
  match settings.encode with
  | .table entries => entries
  | _ => []

/-- The names of settings in a document, in the spelling of the settings file. -/
def names : List String :=
  ["project_id", "kms_key_name", "primary_zone", "primary_region_second_zone", "secondary_zone",
    "wait_for_key_status", "instance_prefix", "backoff_secs", "serve_nodes", "storage_type",
    "backup_ttl_secs"]

/-- Settings are written as the table of these entries. -/
theorem encode_eq (settings : Settings) : settings.encode = .table settings.entries := rfl

/-- The entries have these names, whatever the values. -/
theorem map_fst_entries (settings : Settings) : settings.entries.map Prod.fst = names := rfl

/-- The names of settings are written as they are, since all of them are bare. -/
theorem bare_names : ∀ name ∈ names, Toml.Bare name := by
  have letters : names.all (fun name => !name.toList.isEmpty && name.toList.all Toml.isBare) :=
    by decide
  intro name listed
  have both := List.all_eq_true.mp letters name listed
  simp only [Bool.and_eq_true, Bool.not_eq_true', List.isEmpty_eq_false_iff, List.all_eq_true]
    at both
  exact ⟨both.1, both.2⟩

/-- The values of settings are scalars and lists of scalars. -/
theorem flat_entries (settings : Settings) : ∀ entry ∈ settings.entries, entry.2.Flat := by
  have waits : (Encode.list Encode.word64 settings.backoff).Flat := by
    refine .list fun item listed => ?_
    obtain ⟨seconds, -, rfl⟩ := List.mem_map.mp listed
    exact .natural seconds.toNat
  simp only [entries, encode, List.forall_mem_cons]
  exact ⟨.scalar (.text _), .scalar (.text _), .scalar (.text _), .scalar (.text _),
    .scalar (.text _), .scalar (.boolean _), .scalar (.text _), waits, .scalar (.natural _),
    .scalar (.text _), .scalar (.natural _), List.forall_mem_nil _⟩

/-- The shape of settings finds them in their document, field by field. -/
theorem shape_finds (settings : Settings) : (shape .toml).Finds settings.entries settings := by
  have waits := Decode.list_encode Decode.word64_encode settings.backoff
  have nodes := Decode.word32_encode settings.serveNodes
  have storage : StorageType.decode .toml settings.storage.encode = .ok settings.storage :=
    Decode.variant_encode (fun _ => rfl) (by decide) (by cases settings.storage <;> decide)
  have lifetime := Decode.word64_encode settings.backupLifetime
  obtain ⟨⟩ := settings
  refine .seq ?_ (.field rfl lifetime)
  refine .seq ?_ (.field rfl storage)
  refine .seq ?_ (.field rfl nodes)
  refine .seq ?_ (.field rfl waits)
  iterate 6 refine .seq ?_ (.field rfl rfl)
  refine RecordShape.Finds.map ?_ Settings.mk
  exact .field rfl rfl

/-- Whatever text is written for settings, they are read back from it. -/
theorem of_toml_of_to_toml {settings : Settings} {text : String}
    (written : settings.toToml = .ok text) : ofToml text = .ok settings := by
  rw [toToml, encode_eq] at written
  have bare : ∀ entry ∈ settings.entries, Toml.Bare entry.1 := fun entry listed =>
    bare_names entry.1 (settings.map_fst_entries ▸ List.mem_map_of_mem listed)
  have distinct : (settings.entries.map Prod.fst).Nodup := by
    rw [map_fst_entries]
    decide
  have decoded : decode .toml (.table settings.entries) = .ok settings :=
    settings.shape_finds.decode "HarnessConfig"
  rw [ofToml, Toml.parse_write bare distinct settings.flat_entries written]
  simp only [decoded]
  rfl

/-- They are also read back from a file with that text. -/
theorem of_file_of_to_toml {settings : Settings} {text : String}
    (written : settings.toToml = .ok text) (path : String) :
    ofFile path (.ok text.toUTF8) = .ok settings := by
  simp only [ofFile, from_utf8_to_utf8]
  exact of_toml_of_to_toml written

/-- Settings can be written when their waits and the lifetime of their backups fit. -/
theorem exists_to_toml {settings : Settings}
    (waits : ∀ seconds ∈ settings.backoff, seconds.toNat < signedBound)
    (lifetime : settings.backupLifetime.toNat < signedBound) :
    ∃ text, settings.toToml = .ok text := by
  have list : ∃ shown, Toml.writtenValue (Encode.list Encode.word64 settings.backoff) =
      .ok shown := by
    have each : ∀ item ∈ settings.backoff.map Encode.word64,
        ∃ shown, Toml.writtenScalar item = .ok shown := by
      intro item listed
      obtain ⟨seconds, inside, rfl⟩ := List.mem_map.mp listed
      exact ⟨_, Toml.written_scalar_natural (waits seconds inside)⟩
    obtain ⟨items, made⟩ := exists_traverse each
    exact ⟨Toml.bracketed items, by rw [Encode.list, Toml.writtenValue, made]; rfl⟩
  have nodes : settings.serveNodes.toNat < signedBound :=
    Nat.lt_trans settings.serveNodes.toNat_lt (by decide)
  rw [toToml, encode_eq]
  apply Toml.exists_write
  simp only [entries, encode, List.forall_mem_cons]
  exact ⟨⟨_, rfl⟩, ⟨_, rfl⟩, ⟨_, rfl⟩, ⟨_, rfl⟩, ⟨_, rfl⟩, ⟨_, rfl⟩, ⟨_, rfl⟩, list,
    Toml.written_value_natural nodes, ⟨_, rfl⟩, Toml.written_value_natural lifetime,
    List.forall_mem_nil _⟩

end Settings

end CustomerKeys
