/-!
# JSON values

A value as it is exchanged in JSON text.  The members of an object keep their order and may repeat a
name, since what to do about that is for the reader to decide.  Numbers that are not written as
integers are told apart from integers and carry no value: nothing that is exchanged here is
fractional.  In the same way a string whose escapes denote no text, because a surrogate stands
alone, is a string without text.
-/

namespace TwoStack

/-- A JSON value. -/
inductive Json where
  | null
  | bool (value : Bool)
  | integer (value : Int)
  /-- A number with a fraction or an exponent, or minus zero. -/
  | real
  | string (text : Option String)
  | array (items : List Json)
  | object (members : List (Option String × Json))
  deriving Repr, Inhabited

namespace Json

/-- A string with a given text. -/
def text (s : String) : Json := string (some s)

/-- An object with the given members. -/
def record (members : List (String × Json)) : Json :=
  object (members.map fun (name, value) => (some name, value))

/-- The integer that a value is, if it lies in a range. -/
def integerIn? (least greatest : Int) : Json → Option Int
  | integer value => if least ≤ value ∧ value ≤ greatest then some value else none
  | _ => none

/-- The values of the members with a given name. -/
def membersNamed (name : String) (members : List (Option String × Json)) : List Json :=
  members.filterMap fun (other, value) => if other = some name then some value else none

/-- The fields of a record, in the order of their names.  A record is an object in which no field is
repeated, other members do not matter and every name has a text, or an array of all fields. -/
def fields? (names : List String) : Json → Option (List (Option Json))
  | object members =>
    let found := names.map fun name => membersNamed name members
    if members.all (fun member => member.1.isSome) && found.all (fun values => values.length ≤ 1) then
      some (found.map List.head?)
    else
      none
  | array items => if items.length = names.length then some (items.map some) else none
  | _ => none

/-- The name of a case and what comes with it: a string names a case alone, and an object with one
member a case with the member's value. -/
def case? : Json → Option (String × Option Json)
  | string (some name) => some (name, none)
  | object [(some name, value)] => some (name, some value)
  | _ => none

end Json

end TwoStack
