/-!
# Readers

A reader takes something off the front of a text: it answers with what it read and the rest, or with
nothing when the text does not begin that way. Two loops are shared by the formats: `collect`
gathers pieces until one says that it was the last, and `Listing.items` reads items between commas
up to a closing bracket. Both go on only while the text gets shorter, so they end on every text and
with every reader.
-/

namespace CustomerKeys.Text

/-- A reader of something at the front of a text: what was read and the rest. The formats are put
together from readers of this type. -/
abbrev Reader (α : Type) : Type := List Char → Option (α × List Char)

/-- A fixed word, read as the value it stands for. What follows the word is not looked at. -/
def word {α : Type} (letters : String) (value : α) : Reader α := fun text =>
  if letters.toList.isPrefixOf text then some (value, text.drop letters.length) else none

/-- Pieces in a row, up to the step that answers with no piece: that step is the end. A step that
leaves the text as long as it was ends the reading without an answer. -/
def collect {α : Type} (step : Reader (Option α)) (text : List Char) :
    Option (List α × List Char) :=
  match step text with
  | none => none
  | some (none, rest) => some ([], rest)
  | some (some piece, rest) =>
    if rest.length < text.length then
      (collect step rest).map fun (others, rest) => (piece :: others, rest)
    else none
termination_by text.length

/-- How items are listed: what may be skipped around them, which bracket closes the list, and
whether a comma may stand behind the last item. -/
structure Listing where
  skip : List Char → List Char
  closing : Char
  lastComma : Bool

namespace Listing

/-- Items with commas between them up to the closing bracket. There must be one, unless a comma
stands before and may be the last. -/
def further {α : Type} (listing : Listing) (item : Reader α) (text : List Char) :
    Option (List α × List Char) :=
  match item (listing.skip text) with
  | none => none
  | some (first, rest) =>
    match listing.skip rest with
    | [] => none
    | mark :: rest =>
      if mark = listing.closing then some ([first], rest)
      else if mark = ',' ∧ rest.length < text.length then
        match listing.skip rest with
        | [] => none
        | next :: beyond =>
          if listing.lastComma ∧ next = listing.closing then some ([first], beyond)
          else (listing.further item rest).map fun (others, rest) => (first :: others, rest)
      else none
termination_by text.length

/-- All items of a list whose opening bracket has been read. Nothing but what may be skipped needs
to stand before the closing bracket. -/
def items {α : Type} (listing : Listing) (item : Reader α) (text : List Char) :
    Option (List α × List Char) :=
  match listing.skip text with
  | [] => none
  | mark :: rest => if mark = listing.closing then some ([], rest) else listing.further item text

end Listing

end CustomerKeys.Text
