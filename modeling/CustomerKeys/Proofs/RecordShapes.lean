import CustomerKeys.Document.Records

/-!
# What record shapes find in tables

A record is read back from a table when each of its fields stands there once with a document that
the field's decoder takes back to the value. Entries under other names make no difference, and
neither does the order of the entries. This is shown field by field, so a record is read back as
soon as its parts are.

The simple values are taken back from their documents in every format.
-/

namespace CustomerKeys

/-- Checks that all pass, pass one after the other. -/
theorem for_each_eq_ok {ε α : Type} {check : α → Except ε Unit} {items : List α}
    (pass : ∀ item ∈ items, check item = .ok ()) : items.forM check = .ok () := by
  induction items with
  | nil => rfl
  | cons item items inductionHypothesis =>
    obtain ⟨first, others⟩ := List.forall_mem_cons.mp pass
    rw [List.forM_eq_forM, List.forM_cons, first]
    exact inductionHypothesis others

/-- A name stands in a table once, for a document. -/
def StandsOnce (entries : List (String × Document)) (name : String) (document : Document) : Prop :=
  entries.filter (fun entry => entry.1 = name) = [(name, document)]

namespace StandsOnce

variable {entries : List (String × Document)} {name : String} {document : Document}
  (once : StandsOnce entries name document)

include once

/-- A look-up finds the document that stands under the name. -/
theorem lookup_eq : entries.lookup name = some document := by
  obtain ⟨before, after, rfl, others, -, -⟩ := List.filter_eq_cons_iff.mp once
  refine List.lookup_eq_some_iff.mpr ⟨before, after, rfl, fun entry listed => ?_⟩
  have other : entry.1 ≠ name := by simpa using others entry listed
  simpa using other.symm

/-- No entry of the name holds anything else. -/
theorem eq_of_mem {found : Document} (listed : (name, found) ∈ entries) : found = document := by
  have kept : (name, found) ∈ entries.filter (fun entry => entry.1 = name) :=
    List.mem_filter.mpr ⟨listed, decide_eq_true rfl⟩
  rw [once] at kept
  exact (Prod.mk.inj (List.mem_singleton.mp kept)).2

end StandsOnce

namespace RecordShape

variable {α β : Type} {entries : List (String × Document)}

/-- A shape finds a value in a table: every entry under a name of its fields is fit for that field,
and the fields make up the value. -/
structure Finds (shape : RecordShape α) (entries : List (String × Document)) (value : α) :
    Prop where
  accepts : ∀ field ∈ shape.fields, ∀ document, (field.1, document) ∈ entries →
    field.2 document = .ok ()
  named : shape.named entries = .ok value

namespace Finds

/-- A record without fields is found in every table, as it asks for nothing. -/
theorem constant (value : α) : (pure value : RecordShape α).Finds entries value :=
  ⟨nofun, rfl⟩

/-- Two parts of a record are found one after the other, since a table that is fit for the fields of
both is fit for the fields of each. -/
theorem seq {first : RecordShape (α → β)} {second : RecordShape α} {build : α → β} {value : α}
    (builds : first.Finds entries build) (finds : second.Finds entries value) :
    (first <*> second).Finds entries (build value) := by
  refine ⟨fun field listed => ?_, ?_⟩
  · rcases List.mem_append.mp listed with early | late
    · exact builds.accepts field early
    · exact finds.accepts field late
  · change (do return (← first.named entries) (← second.named entries)) = _
    rw [builds.named, finds.named]
    rfl

/-- The first part of a record is found where the value that it is built from is. -/
theorem map {shape : RecordShape α} {value : α} (finds : shape.Finds entries value)
    (build : α → β) : (build <$> shape).Finds entries (build value) :=
  (constant build).seq finds

/-- A field is found where its name stands once and its decoder takes back the value. -/
theorem field {name : String} {decode : Decoder α} {unnamed unplaced : Option α}
    {document : Document} {value : α} (once : StandsOnce entries name document)
    (decoded : decode document = .ok value) :
    (field name decode unnamed unplaced).Finds entries value := by
  refine ⟨List.forall_mem_singleton.mpr fun found listed => ?_, ?_⟩
  · obtain rfl := once.eq_of_mem listed
    change (decode found).map _ = _
    rw [decoded]
    rfl
  · simp only [RecordShape.field, once.lookup_eq, decoded]

/-- What a shape finds in a table is read from it: the entries pass their checks one after the
other, and then the fields make up the value. -/
theorem of_entries {shape : RecordShape α} {value : α} (finds : shape.Finds entries value) :
    shape.ofEntries entries = .ok value := by
  rw [RecordShape.ofEntries, for_each_eq_ok]
  · exact finds.named
  · rintro ⟨name, document⟩ listed
    dsimp only
    split
    · rename_i demand asked
      obtain ⟨before, after, split, -⟩ := List.lookup_eq_some_iff.mp asked
      exact finds.accepts (name, demand) (split ▸ List.mem_append_cons_self) document listed
    · rfl

/-- A record is read from a table in which its shape finds it. -/
theorem decode {shape : RecordShape α} {value : α} (finds : shape.Finds entries value)
    (title : String) : shape.decode title (.table entries) = .ok value :=
  finds.of_entries

end Finds

end RecordShape

namespace Decode

/-- A natural number below the bound is taken as it is, whatever the message about a wrong one would
say. -/
theorem nat_below_of_lt {bound number : Nat} (below : number < bound) (expected : String) :
    natBelow bound expected (.integer number) = .ok number :=
  if_pos ⟨Int.natCast_nonneg number, Int.ofNat_lt.mpr below⟩

/-- An unsigned number of 32 bits is taken back. -/
theorem word32_encode (value : UInt32) : word32 (Encode.word32 value) = .ok value := by
  rw [word32, Encode.word32, nat_below_of_lt value.toNat_lt, Except.map, UInt32.ofNat_toNat]

/-- An unsigned number of 64 bits is taken back. -/
theorem word64_encode (value : UInt64) : word64 (Encode.word64 value) = .ok value := by
  rw [word64, Encode.word64, nat_below_of_lt value.toNat_lt, Except.map, UInt64.ofNat_toNat]

/-- A list is taken back when its items are. -/
theorem list_encode {α : Type} {item : α → Document} {decode : Decoder α}
    (each : ∀ value, decode (item value) = .ok value) (values : List α) :
    list decode (Encode.list item values) = .ok values := by
  change (values.map item).mapM decode = .ok values
  induction values with
  | nil => rfl
  | cons value values inductionHypothesis =>
    rw [List.map_cons, List.mapM_cons, each, inductionHypothesis]
    rfl

/-- A variant is taken back from its name when names tell the variants apart. -/
theorem variant_encode {α : Type} {format : Format} {name : α → String} {all : List α}
    (spelled : ∀ word, format.variant (.text word) = .ok (word, none))
    (distinct : ∀ other ∈ all, ∀ value ∈ all, name other = name value → other = value)
    {value : α} (listed : value ∈ all) : variant format name all (.text (name value)) =
      .ok value := by
  have found : all.find? (fun other => name other = name value) = some value := by
    cases first : all.find? (fun other => name other = name value) with
    | none => simpa using List.find?_eq_none.mp first value listed
    | some other =>
      have same : name other = name value := by simpa using List.find?_some first
      rw [distinct other (List.mem_of_find?_eq_some first) value listed same]
  simp only [variant, spelled, bind, Except.bind, found]
  rfl

end Decode

end CustomerKeys
