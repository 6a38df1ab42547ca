import Lockstep.Json.Value
import Lockstep.Json.Text

/-!
# Writing JSON texts

A value is written without blanks, an object with its members in their order.
-/

namespace Lockstep.Json

/-- The texts with a comma between any two. -/
def commaSeparated : List (List Char) → List Char
  | [] => []
  | [s] => s
  | s :: rest => s ++ ',' :: commaSeparated rest

mutual

/-- The text of a value. -/
def Value.render : Value → List Char
  | .null => "null".toList
  | .bool true => "true".toList
  | .bool false => "false".toList
  | .number n => n.render
  | .string s => renderString s.toList
  | .array items => '[' :: (commaSeparated (renderItems items) ++ [']'])
  | .object members => '\x7b' :: (commaSeparated (renderMembers members) ++ ['\x7d'])

/-- The texts of the items of an array. -/
def renderItems : List Value → List (List Char)
  | [] => []
  | v :: rest => v.render :: renderItems rest

/-- The texts of the members of an object. -/
def renderMembers : List (String × Value) → List (List Char)
  | [] => []
  | (key, v) :: rest => (renderString key.toList ++ ':' :: v.render) :: renderMembers rest

end

end Lockstep.Json
