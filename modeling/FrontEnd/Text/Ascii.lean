/-!
# ASCII classes

The two classes of characters that the engines know. Both are confined to ASCII:
digits and letters of other scripts belong to neither.
-/

namespace FrontEnd.Text

/-- Whether a character is one of the ten ASCII digits. -/
def isDigit (c : Char) : Bool := '0' ≤ c && c ≤ '9'

/-- Whether a character is an ASCII letter, small or capital. -/
def isLetter (c : Char) : Bool := ('a' ≤ c && c ≤ 'z') || ('A' ≤ c && c ≤ 'Z')

end FrontEnd.Text
