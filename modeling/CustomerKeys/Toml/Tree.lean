import CustomerKeys.Document.Basic

/-!
# Trees under construction

A document is built entry by entry. Entries stand in the order in which they were added, and a table
remembers how it came to be, because that decides who may still add to it: a table opened by a
header takes entries only from under that header, a table implied by the header of a table inside it
may still be opened itself, and a table made by dots in the name of an entry takes entries only
through such names.

`place` puts an entry under a path, `openTable` and `openElement` act for headers. Each of them
answers with nothing where the entry or the table would be defined twice.
-/

namespace CustomerKeys.Toml

/-- How a table came to be: by a header of its own, on the way to another header, or by dots in the
path of an entry. It decides what may still be added to it. -/
inductive Origin where
  | opened
  | implied
  | dotted
  deriving DecidableEq, Repr

/-- What stands under a name: a value, a table, or the elements of an array of tables. -/
inductive Node where
  | value (document : Document)
  | table (origin : Origin) (entries : List (String × Node))
  | elements (tables : List (List (String × Node)))

/-- The entries of a table in their order, which is the order in which the finished document has
them. -/
abbrev Entries : Type := List (String × Node)

/-- A name together with the names of the tables on the way to it. There is always a last name, so a
path is never empty. -/
structure Path where
  parents : List String
  name : String
  deriving DecidableEq, Repr

/-- All names of a path, from the outermost table down to the entry. -/
def Path.names (path : Path) : List String := path.parents ++ [path.name]

namespace Entries

/-- Entries with the value of a name replaced. The entry keeps its place, and without one of that
name nothing changes. -/
def replace (entries : Entries) (name : String) (node : Node) : Entries :=
  entries.map fun (key, old) => (key, if key = name then node else old)

/-- Change the table at the end of a path. A missing table is made with the given origin; `passable`
says which tables may be entered. An array of tables is entered at its last element. -/
def changeAt (fresh : Origin) (passable : Origin → Bool)
    (change : Origin → Entries → Option Entries) :
    List String → Origin → Entries → Option Entries
  | [], origin, entries => change origin entries
  | name :: path, _, entries =>
    match entries.lookup name with
    | none =>
      (changeAt fresh passable change path fresh []).map fun inner =>
        entries ++ [(name, .table fresh inner)]
    | some (.value _) => none
    | some (.table origin inner) =>
      if passable origin then
        (changeAt fresh passable change path origin inner).map fun inner =>
          entries.replace name (.table origin inner)
      else none
    | some (.elements tables) =>
      match tables.getLast? with
      | none => none
      | some last =>
        (changeAt fresh passable change path .opened last).map fun last =>
          entries.replace name (.elements (tables.dropLast ++ [last]))

/-- Add an entry to a table, for a path with or without dots. A table made by dots is the only one
that a path with dots may add to, and takes entries from no other. -/
def add (dots : Bool) (name : String) (value : Document) (origin : Origin) (entries : Entries) :
    Option Entries :=
  if (origin = .dotted) ≠ dots then none
  else if (entries.lookup name).isSome then none
  else some (entries ++ [(name, .value value)])

/-- Put a value under a path that starts at an opened table. It fails when the path goes through
something that is no table or when the name is taken. -/
def place (entries : Entries) (path : Path) (value : Document) : Option Entries :=
  changeAt .dotted (· ≠ .opened) (add (!path.parents.isEmpty) path.name value) path.parents
    .opened entries

/-- Go down the names of a header, where every table may be entered. A value may not, be it written
as a table or not. -/
def underHeader (path : List String) (change : Entries → Option Entries) (entries : Entries) :
    Option Entries :=
  changeAt .implied (fun _ => true) (fun _ => change) path .opened entries

/-- Open the table of a header. One that was implied keeps its entries and moves to the end. -/
def openTable (entries : Entries) (path : Path) : Option Entries :=
  underHeader path.parents (fun siblings =>
    match siblings.lookup path.name with
    | none => some (siblings ++ [(path.name, .table .opened [])])
    | some (.table .implied inner) =>
      let others := siblings.filter fun (key, _) => key ≠ path.name
      some (others ++ [(path.name, .table .opened inner)])
    | some _ => none) entries

/-- Open a new element of an array of tables. The array comes to be with its first element. -/
def openElement (entries : Entries) (path : Path) : Option Entries :=
  underHeader path.parents (fun siblings =>
    match siblings.lookup path.name with
    | none => some (siblings ++ [(path.name, .elements [[]])])
    | some (.elements tables) => some (replace siblings path.name (.elements (tables ++ [[]])))
    | some _ => none) entries

end Entries

mutual

/-- The finished document of a node, in which nothing tells any more how its tables were written. -/
def Node.document : Node → Document
  | .value document => document
  | .table _ entries => .table (entryDocuments entries)
  | .elements tables => .list (elementDocuments tables)

/-- The finished documents of entries, in the same order. -/
def entryDocuments : List (String × Node) → List (String × Document)
  | [] => []
  | (name, node) :: rest => (name, node.document) :: entryDocuments rest

/-- The finished documents of the elements of an array of tables, each a table. -/
def elementDocuments : List (List (String × Node)) → List Document
  | [] => []
  | entries :: rest => .table (entryDocuments entries) :: elementDocuments rest

end

end CustomerKeys.Toml
