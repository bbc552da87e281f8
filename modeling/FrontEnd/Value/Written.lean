import FrontEnd.Text.Quoted
import FrontEnd.Value

/-!
# Written values

How a report writes a value: the words `None`, `True` and `False`, integers in
decimal, text quoted, lists in brackets and records in braces, with a comma and a
space between the items.
-/

namespace FrontEnd.Value

mutual

def written : Value → String
  | .null => "None"
  | .bool true => "True"
  | .bool false => "False"
  | .int value => toString value
  | .text value => Text.quote value
  | .list items => "[" ++ ", ".intercalate (writtenItems items) ++ "]"
  | .record fields => "\x7b" ++ ", ".intercalate (writtenFields fields) ++ "\x7d"

def writtenItems : List Value → List String
  | [] => []
  | item :: rest => item.written :: writtenItems rest

def writtenFields : List (String × Value) → List String
  | [] => []
  | (name, value) :: rest => (Text.quote name ++ ": " ++ value.written) :: writtenFields rest

end

end FrontEnd.Value
