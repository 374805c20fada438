import CustomerKeys.Document.Basic
import CustomerKeys.Resource

/-!
# Reading values from documents

Decoders for the simple values, and `RecordShape` for records. A record is read from a table by the
names of its fields: the entries are visited in the order of the table and the first one that is a
field with an unfit value is the error; after that the fields are looked for in the order of their
declaration and the first one missing is the error. Entries that are no fields are ignored. A list
is read as a record field by field, in the order of declaration.

Formats differ in how they write the variant of an enumeration, which `Format` records.
-/

namespace CustomerKeys

/-- A decoder of values: what is read from a document, or why the document does not hold it. -/
abbrev Decoder (α : Type) : Type := Document → Except DecodeError α

/-- How a format writes a variant: its name with the content that comes along, if any, and which
content a variant without data may have. -/
structure Format where
  variant : Decoder (String × Option Document)
  emptyContent : Decoder Unit

namespace Format

/-- A JSON variant is its name, or a table with the name as its only entry and null as the value. -/
def json : Format where
  variant
    | .text name => .ok (name, none)
    | .table [(name, content)] => .ok (name, some content)
    | .table _ => .error (.wrongValue .table "map with a single key")
    | other => .error (.wrongType other.found "string or map")
  emptyContent
    | .null => .ok ()
    | other => .error (.wrongType other.found "unit")

/-- A TOML variant is its name, or a table with the name as its only entry and something empty as
the value. Other documents are refused without the usual wording. -/
def toml : Format where
  variant
    | .text name => .ok (name, none)
    | .table [(name, content)] => .ok (name, some content)
    | .table [] => .error (.unusable "wanted exactly 1 element, found 0 elements")
    | .table _ => .error (.unusable "wanted exactly 1 element, more than 1 element")
    | _ => .error (.unusable "wanted string or table")
  emptyContent
    | .list [] => .ok ()
    | .table [] => .ok ()
    | .list _ => .error (.unusable "expected empty array")
    | .table _ => .error (.unusable "expected empty table")
    | _ => .error (.unusable "expected table")

end Format

namespace Decode

/-- A text, as it is. Numbers and booleans are not turned into texts. -/
def text : Decoder String
  | .text value => .ok value
  | other => .error (.wrongType other.found "a string")

/-- A boolean. The words for it count only where the format writes them without quotes. -/
def boolean : Decoder Bool
  | .boolean value => .ok value
  | other => .error (.wrongType other.found "a boolean")

/-- A natural number below a bound. A number outside the bound is a wrong value, anything that is
not an integer a wrong type. -/
def natBelow (bound : Nat) (expected : String) : Decoder Nat
  | .integer value =>
    if 0 ≤ value ∧ value < (bound : Int) then .ok value.toNat
    else .error (.wrongValue (.integer value) expected)
  | other => .error (.wrongType other.found expected)

/-- An unsigned number of 32 bits, such as the number of nodes of a cluster. -/
def word32 : Decoder UInt32 := fun document =>
  (natBelow UInt32.size "u32" document).map UInt32.ofNat

/-- An unsigned number of 64 bits, such as a time or a duration in seconds. -/
def word64 : Decoder UInt64 := fun document =>
  (natBelow UInt64.size "u64" document).map UInt64.ofNat

/-- A count, which has 64 bits as well but goes by another name in the message about a wrong one. -/
def count : Decoder UInt64 := fun document =>
  (natBelow UInt64.size "usize" document).map UInt64.ofNat

/-- A list; the first unfit item is the error, and later items are then not looked at. -/
def list {α : Type} (item : Decoder α) : Decoder (List α)
  | .list items => items.mapM item
  | other => .error (.wrongType other.found "a sequence")

/-- A table as values by name; the first unfit entry is the error. Of two entries with one name the
later one counts. -/
def byName {α : Type} (item : Decoder α) : Decoder (ByName α)
  | .table entries => do
    let values ← entries.mapM fun (name, value) => (item value).map fun read => (name, read)
    return Std.ExtTreeMap.ofList values
  | other => .error (.wrongType other.found "a map")

/-- A value or null. Whether it may also be missing is a matter of the field that holds it. -/
def option {α : Type} (item : Decoder α) : Decoder (Option α)
  | .null => .ok none
  | other => (item other).map some

/-- A variant of an enumeration without data. The name is judged before the content, so an unknown
name is the error even if the content is unfit. -/
def variant {α : Type} (format : Format) (name : α → String) (all : List α) : Decoder α :=
  fun document => do
    let (wanted, content) ← format.variant document
    match all.find? fun value => name value = wanted with
    | none => throw (.unknownVariant wanted (all.map name))
    | some value =>
      match content with
      | none => return value
      | some content => (format.emptyContent content).map fun _ => value

end Decode

/-- How a record is read: the fields with what they demand of their values, the record from the
entries of a table, and the record from the front of a list. The list reader is given how many
items were read before it and the error for an item that is missing. -/
structure RecordShape (α : Type) where
  fields : List (String × Decoder Unit)
  named : List (String × Document) → Except DecodeError α
  placed : (missing : Nat → DecodeError) → (before : Nat) → List Document →
    Except DecodeError (α × List Document)

namespace RecordShape

/-- A record without fields, which is how the construction of a record begins. -/
def constant {α : Type} (value : α) : RecordShape α where
  fields := []
  named _ := .ok value
  placed _ _ items := .ok (value, items)

/-- Two parts of a record, one after the other. The fields of the first come before those of the
second, in tables and in lists. -/
def apply {α β : Type} (first : RecordShape (α → β)) (second : RecordShape α) : RecordShape β where
  fields := first.fields ++ second.fields
  named entries := do
    let build ← first.named entries
    let value ← second.named entries
    return build value
  placed missing before items := do
    let (build, rest) ← first.placed missing before items
    let (value, rest) ← second.placed missing (before + first.fields.length) rest
    return (build value, rest)

/-- Records are put together field by field: a constructor, and a field for each of its arguments in
their order. -/
instance : Applicative RecordShape where
  pure := constant
  seq first second := apply first (second ())

/-- A field, given its value when the table lacks it and when the list ends before it; no value
means that this is an error. -/
def field {α : Type} (name : String) (decode : Decoder α) (unnamed unplaced : Option α) :
    RecordShape α where
  fields := [(name, fun value => (decode value).map fun _ => ())]
  named entries :=
    match entries.lookup name with
    | some value => decode value
    | none =>
      match unnamed with
      | some value => .ok value
      | none => .error (.missingField name)
  placed missing before items :=
    match items with
    | item :: rest => (decode item).map fun value => (value, rest)
    | [] =>
      match unplaced with
      | some value => .ok (value, [])
      | none => .error (missing before)

/-- A field that must be there, in a table as well as in a list. -/
def required {α : Type} (name : String) (decode : Decoder α) : RecordShape α :=
  field name decode none none

/-- A field that may be null, or missing from a table. A list has to hold it, if only as null. -/
def optional {α : Type} (name : String) (decode : Decoder α) : RecordShape (Option α) :=
  field name (Decode.option decode) (some none) none

/-- A field with a value of its own when it is missing. Settings have such fields, so that a file
may leave out what is usual. -/
def defaulted {α : Type} (name : String) (decode : Decoder α) (value : α) : RecordShape α :=
  field name decode (some value) (some value)

/-- Read a record from the entries of a table. All entries that are fields are judged first, in
their order; only then is it asked whether one is missing. -/
def ofEntries {α : Type} (shape : RecordShape α) (entries : List (String × Document)) :
    Except DecodeError α := do
  entries.forM fun (name, value) =>
    match shape.fields.lookup name with
    | some demand => demand value
    | none => .ok ()
  shape.named entries

/-- How many fields a record has, as the message about a list of the wrong length says it. -/
def sizeText {α : Type} (shape : RecordShape α) : String :=
  if shape.fields.length = 1 then "1 element" else toString shape.fields.length ++ " elements"

/-- Read a record from the front of a list, and say how many items are left. Whether any may be left
is decided by the caller. -/
def ofItems {α : Type} (shape : RecordShape α) (title : String) (items : List Document) :
    Except DecodeError (α × List Document) :=
  shape.placed (fun length => .wrongLength length (title ++ " with " ++ shape.sizeText)) 0 items

/-- Read a record from a document, which is a table or a list. The title of the record stands in the
message about anything else. -/
def decode {α : Type} (shape : RecordShape α) (title : String) : Decoder α
  | .table entries => shape.ofEntries entries
  | .list items => do
    let (value, rest) ← shape.ofItems ("struct " ++ title) items
    if rest.isEmpty then return value
    else throw (.wrongLength items.length "fewer elements in array")
  | other => .error (.wrongType other.found ("struct " ++ title))

end RecordShape

end CustomerKeys
