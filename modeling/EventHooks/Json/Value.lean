import EventHooks.Number.Shortest
import EventHooks.Text.Quoted

/-!
# JSON values

A value keeps what its text distinguishes: integers of any size apart from doubles, and the
members of an object in the order of their first appearance. Messages show a value on one line by
`Json.shown`, and `Json.asText` is the text a value stands for where a text is wanted.
-/
namespace EventHooks

/-- A JSON value. -/
inductive Json
  | null
  | bool (value : Bool)
  | integer (value : Int)
  | float (value : Binary64)
  | text (value : String)
  | array (items : List Json)
  | object (members : List (String × Json))
  deriving Repr

namespace Json

/-- The members of an object. -/
abbrev Members := List (String × Json)

/-- The value of a member. -/
def Members.get? (members : Members) (name : String) : Option Json :=
  (members.find? (·.1 == name)).map (·.2)

/-- Sets a member: a name that is there keeps its place and takes the new value. -/
def Members.set (members : Members) (name : String) (value : Json) : Members :=
  if members.any (·.1 == name) then
    members.map fun member => if member.1 == name then (name, value) else member
  else members ++ [(name, value)]

/-- The word for the kind of a value. -/
def kind : Json → String
  | .null => "NoneType"
  | .bool _ => "bool"
  | .integer _ => "int"
  | .float _ => "float"
  | .text _ => "str"
  | .array _ => "list"
  | .object _ => "dict"

/-- Whether a value counts as absent: null, false, a zero, or empty. -/
def isEmpty : Json → Bool
  | .null => true
  | .bool value => !value
  | .integer value => value == 0
  | .float value => value.isZero
  | .text value => value.isEmpty
  | .array items => items.isEmpty
  | .object members => members.isEmpty

mutual

/-- A value on one line: texts are quoted, containers in brackets. -/
def shown : Json → String
  | .null => "None"
  | .bool value => if value then "True" else "False"
  | .integer value => IntegerText.render value
  | .float value => value.render
  | .text value => Text.quoted value
  | .array items => "[" ++ ", ".intercalate (shownItems items) ++ "]"
  | .object members => "\x7b" ++ ", ".intercalate (shownMembers members) ++ "\x7d"

/-- The items of an array, each on one line. -/
def shownItems : List Json → List String
  | [] => []
  | item :: items => shown item :: shownItems items

/-- The members of an object, each with its quoted name. -/
def shownMembers : List (String × Json) → List String
  | [] => []
  | (name, value) :: members => (Text.quoted name ++ ": " ++ shown value) :: shownMembers members

end

/-- The text that a value stands for: a text stands for itself. -/
def asText : Json → String
  | .text value => value
  | value => value.shown

end Json

end EventHooks
