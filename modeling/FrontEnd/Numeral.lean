import FrontEnd.Fault
import FrontEnd.Text.Ascii

/-!
# Numerals

Decimal numerals as they stand in a source text: ASCII digits, leading zeros
allowed. A numeral of more than `Numeral.digitLimit` digits is refused, leading
zeros counted.
-/

namespace FrontEnd.Numeral

/-- The most digits that are converted. -/
def digitLimit : Nat := 4300

/-- The value of a list of digits, the most significant first. -/
def value (digits : List Char) : Nat :=
  digits.foldl (fun total digit => 10 * total + (digit.toNat - '0'.toNat)) 0

/-- Convert a numeral. -/
def read (text : String) : Except Fault Nat :=
  if digitLimit < text.length then .error (.oversizedNumeral text.length)
  else if text.isEmpty || !text.toList.all Text.isDigit then .error (.malformedNumeral text)
  else .ok (value text.toList)

end FrontEnd.Numeral
