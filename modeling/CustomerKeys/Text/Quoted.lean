import CustomerKeys.Text.Printable

/-!
# Quoted text

Messages show a text they were given between double quotes, with every character that would be
invisible or ambiguous written as an escape. The quote and the backslash are escaped by a
backslash; newline, carriage return, tab and NUL have their usual letters; every other character
that is not printable becomes its code point in braces. An apostrophe is left as it is.
-/

namespace CustomerKeys.Text

/-- The hexadecimal digits of a number in lower case, without leading zeros. Escapes that need a
fixed number of digits fill them up themselves. -/
def hexDigits (n : Nat) : List Char := Nat.toDigits 16 n

/-- How one character is written between the quotes: by itself, by a letter behind a backslash, or
by its code point in braces. -/
def escaped (c : Char) : List Char :=
  if c = '"' then ['\\', '"']
  else if c = '\\' then ['\\', '\\']
  else if c = '\n' then ['\\', 'n']
  else if c = '\r' then ['\\', 'r']
  else if c = '\t' then ['\\', 't']
  else if c = '\x00' then ['\\', '0']
  else if isPrintable c then [c]
  else ['\\', 'u', '\x7b'] ++ hexDigits c.toNat ++ ['\x7d']

/-- A text between double quotes, as messages show it. What is invisible in the text can be seen in
the message, and the quotes show where it ends. -/
def quoted (text : String) : String :=
  String.ofList ('"' :: text.toList.flatMap escaped ++ ['"'])

end CustomerKeys.Text
