/-!
# Columns

A text is brought to the width of its column with blanks at one side. The width counts characters,
and a text too long for its column is shown in full.
-/

namespace CustomerKeys.Text

/-- The blanks that bring a text to a width, counted in characters. A text that is wide enough or
too wide gets none. -/
def filling (width : Nat) (text : String) : String :=
  String.ofList (List.replicate (width - text.length) ' ')

/-- A text at the left of a column: the blanks that fill the column stand behind it. A text too wide
for the column is not cut. -/
def atLeft (width : Nat) (text : String) : String := text ++ filling width text

/-- A text at the right of a column, with the blanks before it, as numbers are aligned. -/
def atRight (width : Nat) (text : String) : String := filling width text ++ text

end CustomerKeys.Text
