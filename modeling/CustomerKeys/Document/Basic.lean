import CustomerKeys.Number.Shortest
import CustomerKeys.Text.Quoted

/-!
# Documents

A document is the tree that a text in JSON or TOML denotes. Values of the library are written to
documents and read back from them; how a document becomes text is a matter of the format.

`DecodeError` says why a document does not hold the value that was looked for. Its text depends on
the format only in the way a number is written.
-/

namespace CustomerKeys

/-- A document. Entries of a table stand in the order in which they are visited; `moment` is a date
or a time, whose value nothing here asks for. -/
inductive Document where
  | null
  | boolean (value : Bool)
  | integer (value : Int)
  | real (value : Binary64)
  | text (value : String)
  | moment
  | list (items : List Document)
  | table (entries : List (String × Document))

/-- Half the number of integers that 64 bits can tell apart. With their sign, the integers from its
negative up to one below it fit. -/
def signedBound : Nat := 9223372036854775808

/-- The integer fits in 64 bits with its sign, so that TOML can hold it. JSON also holds the greater
ones that fit without a sign. -/
def fitsSigned (value : Int) : Bool := -(signedBound : Int) ≤ value && value < (signedBound : Int)

/-- What was found in the place of something else, with its value as far as a message shows one.
Lists and tables are shown by their kind alone. -/
inductive Found where
  | null
  | boolean (value : Bool)
  | integer (value : Int)
  | real (value : Binary64)
  | text (value : String)
  | list
  | table
  deriving DecidableEq, Repr

/-- What a document is, without its contents, for the message that says so. A date counts as a
table. -/
def Document.found : Document → Found
  | .null => .null
  | .boolean value => .boolean value
  | .integer value => .integer value
  | .real value => .real value
  | .text value => .text value
  | .moment => .table
  | .list _ => .list
  | .table _ => .table

/-- The text of what was found. Numbers with a point are written as the format does, and texts are
quoted. -/
def Found.message (layout : RealLayout) : Found → String
  | .null => "null"
  | .boolean value => "boolean `" ++ toString value ++ "`"
  | .integer value => "integer `" ++ toString value ++ "`"
  | .real value => "floating point `" ++ layout.render value ++ "`"
  | .text value => "string " ++ Text.quoted value
  | .list => "sequence"
  | .table => "map"

/-- Why a document does not hold a value. The errors are those that a decoder can tell by itself;
which field it was about is not part of them. -/
inductive DecodeError where
  | wrongType (found : Found) (expected : String)
  | wrongValue (found : Found) (expected : String)
  | wrongLength (length : Nat) (expected : String)
  | unknownVariant (name : String) (known : List String)
  | missingField (name : String)
  | unusable (reason : String)
  deriving DecidableEq, Repr

/-- The names that would have been accepted, as a message lists them: one or two are joined by
words, and more stand behind commas. -/
def alternatives (names : List String) : String :=
  match names.map fun name => "`" ++ name ++ "`" with
  | [] => "there are no variants"
  | [only] => "expected " ++ only
  | [first, second] => "expected " ++ first ++ " or " ++ second
  | many => "expected one of " ++ String.intercalate ", " many

/-- The text of a decoding error. The layout of numbers is the only thing in which formats differ
here. -/
def DecodeError.message (layout : RealLayout) : DecodeError → String
  | .wrongType found expected =>
    "invalid type: " ++ found.message layout ++ ", expected " ++ expected
  | .wrongValue found expected =>
    "invalid value: " ++ found.message layout ++ ", expected " ++ expected
  | .wrongLength length expected =>
    "invalid length " ++ toString length ++ ", expected " ++ expected
  | .unknownVariant name known => "unknown variant `" ++ name ++ "`, " ++ alternatives known
  | .missingField name => "missing field `" ++ name ++ "`"
  | .unusable reason => reason

end CustomerKeys
