import CustomerKeys.Proofs.RecordShapes
import CustomerKeys.Proofs.WrittenValues

/-!
# Documents with further fields

A document may be extended by further fields in any of its tables. Every field that was there stays
once under its name, with a document that may be extended in turn; what else stands in the table,
and in which order, is left open. Values are read back from their documents when they are read back
from all extensions of these, and so it is shown of simple values, of lists and options, and of
records field by field.

Where the names of a table are the keys of a map nothing may be added to the table itself, but its
values may still be extended.
-/

namespace CustomerKeys

/-- What stands in a table once is one of its entries. -/
theorem StandsOnce.mem {entries : List (String × Document)} {name : String} {document : Document}
    (once : StandsOnce entries name document) : (name, document) ∈ entries := by
  apply List.mem_of_mem_filter
  rw [StandsOnce] at once
  rw [once]
  exact List.mem_singleton_self _

/-- A name that stands in a table once still does when other entries are left out. -/
theorem StandsOnce.filter {entries : List (String × Document)} {name : String} {document : Document}
    (once : StandsOnce entries name document) {keep : String × Document → Bool}
    (kept : keep (name, document) = true) : StandsOnce (entries.filter keep) name document := by
  rw [StandsOnce] at once ⊢
  rw [List.filter_comm, once, List.filter_singleton, kept]
  rfl

/-- Names that are all different stand in their table once each. -/
theorem StandsOnce.of_nodup {entries : List (String × Document)} {name : String}
    {document : Document} (distinct : (entries.map Prod.fst).Nodup)
    (listed : (name, document) ∈ entries) : StandsOnce entries name document := by
  induction entries with
  | nil => cases listed
  | cons entry entries inductionHypothesis =>
    rw [List.map_cons, List.nodup_cons] at distinct
    obtain ⟨new, distinct⟩ := distinct
    rcases List.mem_cons.mp listed with rfl | behind
    · have others : entries.filter (fun entry => entry.1 = name) = [] := by
        rw [List.filter_eq_nil_iff]
        intro other inside same
        exact new (List.mem_map.mpr ⟨other, inside, of_decide_eq_true same⟩)
      simp only [StandsOnce, List.filter_cons, decide_true, if_true, others]
    · have different : entry.1 ≠ name := by
        intro same
        exact new (List.mem_map.mpr ⟨_, behind, same.symm⟩)
      rw [StandsOnce, List.filter_cons_of_neg (by simpa using different)]
      exact inductionHypothesis distinct behind

/-- The second document is the first one with further fields in some of its tables, and with the
fields of tables in any order. -/
inductive Document.Extended : Document → Document → Prop
  | same (document : Document) : Extended document document
  | list {items others : List Document} (each : List.Forall₂ Extended items others) :
    Extended (.list items) (.list others)
  | table {entries others : List (String × Document)} (kept : String → Document)
    (once : ∀ entry ∈ entries, StandsOnce others entry.1 (kept entry.1))
    (each : ∀ entry ∈ entries, Extended entry.2 (kept entry.1)) :
    Extended (.table entries) (.table others)

/-- A table has every entry of another one once, with an extended document. -/
def Carries (others entries : List (String × Document)) : Prop :=
  ∀ entry ∈ entries, ∃ document, StandsOnce others entry.1 document ∧ entry.2.Extended document

/-- The second document is the first one with further fields in the values of its entries, but with
no further entries of its own. -/
inductive Document.ExtendedInValues : Document → Document → Prop
  | table {entries others : List (String × Document)} (carries : Carries others entries)
    (known : ∀ entry ∈ others, entry.1 ∈ entries.map Prod.fst) :
    ExtendedInValues (.table entries) (.table others)

/-- A table with different names has all its entries. -/
theorem Carries.refl {entries : List (String × Document)}
    (distinct : (entries.map Prod.fst).Nodup) : Carries entries entries := by
  intro entry listed
  exact ⟨entry.2, .of_nodup distinct listed, .same entry.2⟩

/-- A field under a new name may be put anywhere in a table, which then still has all it had. -/
theorem Carries.insert {before after : List (String × Document)} {name : String}
    (distinct : ((before ++ after).map Prod.fst).Nodup)
    (new : name ∉ (before ++ after).map Prod.fst) (document : Document) :
    Carries (before ++ (name, document) :: after) (before ++ after) := by
  intro entry listed
  have different : ¬ name = entry.1 := by
    rintro rfl
    exact new (List.mem_map_of_mem listed)
  refine ⟨entry.2, ?_, .same entry.2⟩
  have once : StandsOnce (before ++ after) entry.1 entry.2 := .of_nodup distinct listed
  unfold StandsOnce at once ⊢
  rw [List.filter_append] at once ⊢
  rw [List.filter_cons_of_neg (by simpa using different), once]

namespace Document

/-- A table that has all entries of another is an extension of it. -/
theorem Extended.of_carries {entries others : List (String × Document)}
    (carries : Carries others entries) : Extended (.table entries) (.table others) := by
  have looked : ∀ entry ∈ entries, ∀ document, StandsOnce others entry.1 document →
      (others.lookup entry.1).getD null = document := by
    intro entry _ document once
    rw [once.lookup_eq, Option.getD_some]
  refine .table (fun name => (others.lookup name).getD null) ?_ ?_
  · intro entry listed
    obtain ⟨document, once, -⟩ := carries entry listed
    rw [looked entry listed document once]
    exact once
  · intro entry listed
    obtain ⟨document, once, extended⟩ := carries entry listed
    rw [looked entry listed document once]
    exact extended

/-- The extensions of a table with different names are the tables that have all its entries. -/
theorem Extended.exists_table {entries : List (String × Document)} {document : Document}
    (extended : Extended (.table entries) document) (distinct : (entries.map Prod.fst).Nodup) :
    ∃ others, document = .table others ∧ Carries others entries := by
  cases extended with
  | same => exact ⟨entries, rfl, .refl distinct⟩
  | @table _ others kept once each =>
    refine ⟨others, rfl, ?_⟩
    intro entry listed
    exact ⟨kept entry.1, once entry listed, each entry listed⟩

/-- A list is extended item by item. -/
theorem Extended.exists_list {items : List Document} {document : Document}
    (extended : Extended (.list items) document) :
    ∃ others, document = .list others ∧ List.Forall₂ Extended items others := by
  cases extended with
  | same => exact ⟨items, rfl, List.forall₂_same.mpr fun item _ => .same item⟩
  | @list _ others each => exact ⟨others, rfl, each⟩

/-- Scalars have no fields, so a scalar is extended to itself alone. -/
theorem Extended.eq_of_scalar {scalar document : Document} (extended : scalar.Extended document)
    (plain : scalar.Scalar) : document = scalar := by
  cases plain <;> cases extended <;> rfl

/-- Only null is extended to null. Where a value is never written as null, null therefore stands for
no value. -/
theorem Extended.eq_null {document : Document} (extended : document.Extended null) :
    document = null := by
  cases extended
  rfl

end Document

/-- Values are read back from their documents, and from what these documents may grow to. -/
structure ReadsBack {α : Type} (grows : Document → Document → Prop) (encode : α → Document)
    (decode : Decoder α) : Prop where
  alone : ∀ value, decode (encode value) = .ok value
  grown : ∀ value document, grows (encode value) document → decode document = .ok value

namespace ReadsBack

open Document (Extended ExtendedInValues)

variable {α : Type} {encode : α → Document} {decode : Decoder α}

/-- What is read back from all extensions is read back from the document itself, which is one of
them. -/
theorem of_extended
    (grown : ∀ value document, (encode value).Extended document → decode document = .ok value) :
    ReadsBack Extended encode decode := by
  constructor
  · intro value
    exact grown value _ (.same _)
  · exact grown

/-- Scalars that are taken back are read back, since they are not extended. -/
theorem of_scalar (plain : ∀ value, (encode value).Scalar)
    (alone : ∀ value, decode (encode value) = .ok value) : ReadsBack Extended encode decode := by
  apply of_extended
  intro value document extended
  rw [extended.eq_of_scalar (plain value)]
  exact alone value

/-- Texts are read back. -/
theorem text : ReadsBack Extended .text Decode.text := of_scalar .text fun _ => rfl

/-- Booleans are read back. -/
theorem boolean : ReadsBack Extended .boolean Decode.boolean := of_scalar .boolean fun _ => rfl

/-- Unsigned numbers of 32 bits are read back, up to the largest. -/
theorem word32 : ReadsBack Extended Encode.word32 Decode.word32 :=
  of_scalar (fun value => .natural value.toNat) Decode.word32_encode

/-- Unsigned numbers of 64 bits are read back, up to the largest. -/
theorem word64 : ReadsBack Extended Encode.word64 Decode.word64 :=
  of_scalar (fun value => .natural value.toNat) Decode.word64_encode

/-- A count is read back. It is written as the number of 64 bits that it is, and read under another
name. -/
theorem count : ReadsBack Extended Encode.word64 Decode.count := by
  refine of_scalar (fun value => .natural value.toNat) ?_
  intro value
  rw [Decode.count, Encode.word64, Decode.nat_below_of_lt value.toNat_lt, Except.map,
    UInt64.ofNat_toNat]

/-- A variant is read back from its name when names tell the variants apart and all are listed. -/
theorem variant {name : α → String} {all : List α} (complete : ∀ value, value ∈ all)
    (distinct : ∀ other ∈ all, ∀ value ∈ all, name other = name value → other = value) :
    ReadsBack Extended (fun value => .text (name value)) (Decode.variant .json name all) := by
  apply of_scalar fun value => .text (name value)
  intro value
  exact Decode.variant_encode (fun _ => rfl) distinct (complete value)

/-- Items that are extended one by one are read back. -/
theorem traverse_extended (item : ReadsBack Extended encode decode) {values : List α}
    {others : List Document} (each : List.Forall₂ Extended (values.map encode) others) :
    others.mapM decode = .ok values := by
  induction values generalizing others with
  | nil =>
    cases each
    rfl
  | cons value values inductionHypothesis =>
    cases each with
    | @cons _ first _ rest extended each =>
      rw [List.mapM_cons, item.grown value first extended, inductionHypothesis each]
      rfl

/-- Lists are read back item by item, whatever their length. -/
theorem list (item : ReadsBack Extended encode decode) :
    ReadsBack Extended (Encode.list encode) (Decode.list decode) := by
  apply of_extended
  intro values document extended
  obtain ⟨others, rfl, each⟩ := extended.exists_list
  exact item.traverse_extended each

/-- Options are read back when no value is written as null. -/
theorem option (item : ReadsBack Extended encode decode) (solid : ∀ value, encode value ≠ .null) :
    ReadsBack Extended (Encode.option encode) (Decode.option decode) := by
  apply of_extended
  intro value document extended
  cases value with
  | none =>
    cases extended
    rfl
  | some value =>
    have read := item.grown value document extended
    cases document with
    | null => exact absurd extended.eq_null (solid value)
    | _ => exact (congrArg (Except.map some) read).trans rfl

section ByName

variable {values : ByName α}

/-- Entries that agree with a map are read as entries that agree with it. -/
theorem traverse_agree {others : List (String × Document)}
    (agree : ∀ other ∈ others,
      ∃ value, values[other.1]? = some value ∧ decode other.2 = .ok value) :
    ∃ entries : List (String × α),
      others.mapM (fun (name, document) => (decode document).map fun value => (name, value)) =
        .ok entries ∧
      entries.map Prod.fst = others.map Prod.fst ∧
      ∀ entry ∈ entries, values[entry.1]? = some entry.2 := by
  induction others with
  | nil => exact ⟨[], rfl, rfl, nofun⟩
  | cons other others inductionHypothesis =>
    obtain ⟨⟨value, kept, decoded⟩, rest⟩ := List.forall_mem_cons.mp agree
    obtain ⟨entries, read, names, agreeing⟩ := inductionHypothesis rest
    refine ⟨(other.1, value) :: entries, ?_, ?_, List.forall_mem_cons.mpr ⟨kept, agreeing⟩⟩
    · rw [List.mapM_cons, read]
      simp only [decoded]
      rfl
    · rw [List.map_cons, List.map_cons, names]

/-- Putting entries that agree with a map into another shows that map under their names. -/
theorem lookup_insert_many {others : ByName α} {entries : List (String × α)}
    (agree : ∀ entry ∈ entries, values[entry.1]? = some entry.2) (name : String) :
    (others.insertMany entries)[name]? =
      if name ∈ entries.map Prod.fst then values[name]? else others[name]? := by
  induction entries generalizing others with
  | nil => simp
  | cons entry entries inductionHypothesis =>
    obtain ⟨first, rest⟩ := List.forall_mem_cons.mp agree
    rw [Std.ExtTreeMap.insertMany_cons, inductionHypothesis rest]
    by_cases behind : name ∈ entries.map Prod.fst
    · simp [behind]
    · by_cases here : name = entry.1
      · subst here
        simp [behind, first]
      · simp [behind, here, Std.ExtTreeMap.getElem?_insert, Ne.symm here]

/-- A map is made of entries that agree with it and have all of its names. -/
theorem of_list_eq {entries : List (String × α)}
    (agree : ∀ entry ∈ entries, values[entry.1]? = some entry.2)
    (complete : ∀ entry ∈ values.toList, entry.1 ∈ entries.map Prod.fst) :
    Std.ExtTreeMap.ofList entries = values := by
  apply Std.ExtTreeMap.ext_getElem?
  intro name
  rw [Std.ExtTreeMap.ofList_eq_insertMany_empty, lookup_insert_many agree]
  split
  · rfl
  · rename_i absent
    cases kept : values[name]? with
    | none => exact Std.ExtTreeMap.getElem?_empty
    | some value =>
      have listed := Std.ExtTreeMap.mem_toList_iff_getElem?_eq_some.mpr kept
      exact absurd (complete _ listed) absent

/-- A map is read back from its names and values. -/
theorem by_name (item : ReadsBack Extended encode decode) :
    ReadsBack ExtendedInValues (Encode.byName encode) (Decode.byName decode) := by
  have grown : ∀ values document, (Encode.byName encode values).ExtendedInValues document →
      Decode.byName decode document = .ok values := by
    intro values document extended
    cases extended with
    | @table _ others carries known =>
      have agree : ∀ other ∈ others, ∃ value, values[other.1]? = some value ∧
          decode other.2 = .ok value := by
        intro other inside
        obtain ⟨_, listed, same⟩ := List.mem_map.mp (known other inside)
        obtain ⟨document, once, extended⟩ := carries _ listed
        obtain ⟨⟨name, value⟩, kept, rfl⟩ := List.mem_map.mp listed
        obtain rfl : name = other.1 := same
        obtain rfl : other.2 = document := once.eq_of_mem inside
        exact ⟨value, Std.ExtTreeMap.mem_toList_iff_getElem?_eq_some.mp kept,
          item.grown value other.2 extended⟩
      obtain ⟨entries, read, names, agreeing⟩ := traverse_agree agree
      have complete : ∀ entry ∈ values.toList, entry.1 ∈ entries.map Prod.fst := by
        intro entry kept
        obtain ⟨document, once, -⟩ := carries _ (List.mem_map_of_mem kept)
        have inside : (entry.1, document) ∈ others := once.mem
        rw [names]
        exact List.mem_map_of_mem inside
      rw [Decode.byName, read, ← of_list_eq agreeing complete]
      rfl
  constructor
  · intro values
    have names : (values.toList.map fun entry => (entry.1, encode entry.2)).map Prod.fst =
        values.keys := by
      rw [List.map_map, ← Std.ExtTreeMap.map_fst_toList_eq_keys]
      rfl
    apply grown
    exact .table (.refl (names ▸ values.nodup_keys)) fun entry => List.mem_map_of_mem
  · exact grown

end ByName

end ReadsBack

namespace RecordShape

open Document (Extended)

variable {α β : Type}

/-- A shape gathers a value from some entries: it finds the value in every table that has them. -/
def Gathers (shape : RecordShape α) (entries : List (String × Document)) (value : α) : Prop :=
  ∀ others, Carries others entries → shape.Finds others value

namespace Gathers

/-- A field is gathered from an entry under its name with the document of the value. -/
theorem field {name : String} {encode : α → Document} {decode : Decoder α}
    {unnamed unplaced : Option α} (reads : ReadsBack Extended encode decode) (value : α) :
    (field name decode unnamed unplaced).Gathers [(name, encode value)] value := by
  intro others carries
  obtain ⟨document, once, extended⟩ := carries _ List.mem_cons_self
  exact .field once (reads.grown value document extended)

/-- The first part of a record is gathered from the same entries as the value that it is built from.
-/
theorem map {shape : RecordShape α} {entries : List (String × Document)} {value : α}
    (gathers : shape.Gathers entries value) (build : α → β) :
    (build <$> shape).Gathers entries (build value) :=
  fun others carries => (gathers others carries).map build

/-- Two parts of a record are gathered one after the other, each from its own entries; other entries
may stand between. -/
theorem seq {first : RecordShape (α → β)} {second : RecordShape α}
    {entries more : List (String × Document)} {build : α → β} {value : α}
    (builds : first.Gathers entries build) (gathers : second.Gathers more value) :
    (first <*> second).Gathers (entries ++ more) (build value) := by
  intro others carries
  apply Finds.seq
  · exact builds others fun entry listed => carries entry (List.mem_append_left more listed)
  · exact gathers others fun entry listed => carries entry (List.mem_append_right entries listed)

end Gathers

end RecordShape

/-- A record is read back when it is written with the names of its shape, which are different, and
its shape gathers it from what is written. -/
theorem ReadsBack.record {α : Type} {encode : α → Document} {shape : RecordShape α} {title : String}
    {entries : α → List (String × Document)}
    (written : ∀ value, encode value = .table (entries value))
    (named : ∀ value, (entries value).map Prod.fst = shape.fields.map Prod.fst)
    (distinct : (shape.fields.map Prod.fst).Nodup)
    (gathers : ∀ value, shape.Gathers (entries value) value) :
    ReadsBack Document.Extended encode (shape.decode title) := by
  apply of_extended
  intro value document extended
  rw [written] at extended
  obtain ⟨others, rfl, carries⟩ := extended.exists_table (named value ▸ distinct)
  exact (gathers value others carries).decode title

end CustomerKeys
