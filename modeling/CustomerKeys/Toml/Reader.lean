import CustomerKeys.Toml.Value

/-!
# Documents from TOML text

A text is a sequence of statements with blanks and comments between them: headers that open a table
or a new element of an array of tables, and entries, which belong to what was opened last. The
statements are read first; then the tree is built from them in order. A text of which either fails
denotes nothing.
-/

namespace CustomerKeys.Toml

open CustomerKeys.Text (Reader)

/-- A line of a document: an entry for the table that is open, or the header of a table or of an
element of an array of tables. -/
inductive Statement where
  | table (header : Path)
  | element (header : Path)
  | entry (place : Path) (value : Document)

/-- A statement at the front of a text. Headers begin with one bracket or two, and everything else
is an entry. -/
def statement : Reader Statement
  | '[' :: '[' :: rest => do
    let (header, rest) ← path rest
    return (.element header, ← mark ']' (← mark ']' rest))
  | '[' :: rest => do
    let (header, rest) ← path rest
    return (.table header, ← mark ']' rest)
  | text =>
    (entry (value depthLimit) text).map fun ((place, found), rest) => (.entry place found, rest)

/-- The statements of a text, each on a line of its own. Empty lines and comments may stand between
them. -/
def statements (text : List Char) : Option (List Statement) :=
  match skipFiller text with
  | [] => some []
  | start =>
    match statement start with
    | none => none
    | some (first, rest) =>
      match lineEnd rest with
      | none => none
      | some rest =>
        if rest.length < text.length then (statements rest).map fun others => first :: others
        else none
termination_by text.length

/-- A tree with the names of the table that was opened last. Entries are put there until the next
header. -/
structure Progress where
  entries : Entries
  current : List String

namespace Progress

/-- Nothing but the root, which is open from the start and stays open until the first header. -/
def start : Progress := ⟨[], []⟩

/-- Carry out a statement. It may fail, since nothing may be defined twice and only some tables may
be entered. -/
def add (progress : Progress) : Statement → Option Progress
  | .table header =>
    (progress.entries.openTable header).map fun entries => ⟨entries, header.names⟩
  | .element header =>
    (progress.entries.openElement header).map fun entries => ⟨entries, header.names⟩
  | .entry place value =>
    (progress.entries.underHeader progress.current fun inner => inner.place place value).map
      fun entries => ⟨entries, progress.current⟩

end Progress

/-- The entries of the document that statements describe, carried out one after the other. -/
def build (statements : List Statement) : Option (List (String × Document)) :=
  (statements.foldlM Progress.add .start).map fun progress => entryDocuments progress.entries

/-- A text without the mark that may tell its encoding. The mark is allowed only at the very front.
-/
def withoutMark : List Char → List Char
  | '\ufeff' :: rest => rest
  | text => text

/-- The document of a whole text, which is always a table. No part of it is given when anything in
the text is wrong. -/
def parse (text : String) : Option Document :=
  ((statements (withoutMark text.toList)).bind build).map .table

end CustomerKeys.Toml
