import CustomerKeys.Toml.Moment
import CustomerKeys.Toml.Number
import CustomerKeys.Toml.Text
import CustomerKeys.Toml.Tree

/-!
# Names and values

A name is bare, made of ASCII letters, digits, dashes and underscores, or a text on one line. Names
joined by dots form a path. A value is told by its first character; only those that may begin a
number may also begin a date or a time, which is tried first.

Arrays run over as many lines as they like and may end with a comma. An inline table stays on its
line, has no comma behind its last entry, and is complete: nothing is added to it from outside.
-/

namespace CustomerKeys.Toml

open CustomerKeys.Text (Reader Listing spanWhile word)

/-- A character of a bare name: a letter or digit of ASCII, a dash or an underscore. -/
def isBare (c : Char) : Bool := c.isAlphanum || c = '-' || c = '_'

/-- A bare name, which has at least one character and goes on as long as there are any. -/
def bareName : Reader String := fun text =>
  let (name, rest) := spanWhile isBare text
  if name.isEmpty then none else some (.ofList name, rest)

/-- A name, bare or quoted. A quoted one may be empty and may hold any character that a text on one
line may hold. -/
def name : Reader String
  | '"' :: rest => (shortText ('"' :: rest)).map fun (found, rest) => (.ofList found, rest)
  | '\'' :: rest => (shortText ('\'' :: rest)).map fun (found, rest) => (.ofList found, rest)
  | text => bareName text

/-- Names with dots between them. Spaces may stand around every name, but not the end of a line. -/
def anyPath (text : List Char) : Option (Path × List Char) :=
  match name (skipSpaces text) with
  | none => none
  | some (first, rest) =>
    match skipSpaces rest with
    | '.' :: rest =>
      if rest.length < text.length then
        (anyPath rest).map fun (path, rest) => (⟨first :: path.parents, path.name⟩, rest)
      else none
    | rest => some (⟨[], first⟩, rest)
termination_by text.length

/-- The number of names at which a path is too long. The reader has this bound so that no document
nests without end. -/
def pathLimit : Nat := 80

/-- A path that is not too long, for entries and for headers. -/
def path : Reader Path := fun text =>
  match anyPath text with
  | some (found, rest) => if found.parents.length + 1 < pathLimit then some (found, rest) else none
  | none => none

/-- An entry of a table: a path, an equals sign and a value, all on the line on which they begin. -/
def entry (value : Reader Document) : Reader (Path × Document) := fun text => do
  let (target, rest) ← path text
  let (found, rest) ← value (skipSpaces (← mark '=' rest))
  return ((target, found), rest)

/-- A number, a date or a time. A date begins like a number, so it is tried first. -/
def numberOrMoment : Reader Document := fun text =>
  match afterMoment text with
  | some rest => some (.moment, rest)
  | none => number text

/-- The items of an array may have newlines and comments between them and a comma behind them. -/
def arrayListing : Listing := ⟨skipFiller, ']', true⟩

/-- The entries of an inline table have only spaces between them, and no comma stands behind the
last. -/
def inlineListing : Listing := ⟨skipSpaces, '\x7d', false⟩

/-- The document of an inline table, unless its entries define something twice. They may have paths
with dots like other entries. -/
def inlineTable (entries : List (Path × Document)) : Option Document :=
  (entries.foldlM (fun (placed : Entries) (target, value) => placed.place target value) []).map
    fun placed => .table (entryDocuments placed)

/-- A value with at most so many arrays and inline tables inside one another. Its first character
tells its kind, except for numbers and dates. -/
def value : Nat → Reader Document
  | depth + 1, '[' :: rest =>
    (arrayListing.items (value depth) rest).map fun (items, rest) => (.list items, rest)
  | depth + 1, '\x7b' :: rest => do
    let (entries, rest) ← inlineListing.items (entry (value depth)) rest
    return (← inlineTable entries, rest)
  | _, '"' :: rest => (text ('"' :: rest)).map fun (found, rest) => (.text (.ofList found), rest)
  | _, '\'' :: rest => (text ('\'' :: rest)).map fun (found, rest) => (.text (.ofList found), rest)
  | _, 't' :: rest => word "rue" (.boolean true) rest
  | _, 'f' :: rest => word "alse" (.boolean false) rest
  | _, other => numberOrMoment other

/-- How many arrays and inline tables may stand inside one another in a document. -/
def depthLimit : Nat := 79

end CustomerKeys.Toml
