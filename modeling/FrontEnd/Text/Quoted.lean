import FrontEnd.Text.Printable

/-!
# Quoted text

Reports quote the text they talk about, on one line and with every character
visible. The quote is `'`, unless the text holds `'` and no `"`; then it is `"`. A
backslash goes before a backslash and before the quote in use; line feed, carriage
return and tab have their short escapes, and any other character that is not
printable is written by its code point in two, four or eight hexadecimal digits,
the fewest of the three that fit.
-/

namespace FrontEnd.Text

/-- The last `width` hexadecimal digits of a number, the most significant first. -/
def hexDigits : Nat → Nat → List Char
  | 0, _ => []
  | width + 1, n => hexDigits width (n / 16) ++ [Nat.digitChar (n % 16)]

/-- The quote that a text is written between. -/
def quoteFor (text : List Char) : Char :=
  if '\'' ∈ text ∧ '\"' ∉ text then '\"' else '\''

/-- A character written by its code point. -/
def escapeCode (c : Char) : List Char :=
  if c.toNat < 0x100 then '\\' :: 'x' :: hexDigits 2 c.toNat
  else if c.toNat < 0x10000 then '\\' :: 'u' :: hexDigits 4 c.toNat
  else '\\' :: 'U' :: hexDigits 8 c.toNat

/-- How one character is written between two `quote`s. -/
def escapeChar (quote c : Char) : List Char :=
  if c = '\\' ∨ c = quote then ['\\', c]
  else if c = '\n' then ['\\', 'n']
  else if c = '\r' then ['\\', 'r']
  else if c = '\t' then ['\\', 't']
  else if isPrintable c then [c]
  else escapeCode c

/-- A text between quotes. -/
def quote (text : String) : String :=
  let mark := quoteFor text.toList
  String.ofList (mark :: text.toList.flatMap (escapeChar mark) ++ [mark])

end FrontEnd.Text
