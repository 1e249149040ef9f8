import CloudScope.Entries

/-!
# JSON values
-/

namespace CloudScope

/-- A JSON value. Objects made by `Json.ofFields` hold their keys in ascending order. -/
inductive Json where
  | null
  | boolean (value : Bool)
  /-- A number as it is written. -/
  | number (literal : String)
  | string (value : String)
  | array (items : List Json)
  | object (fields : List (String × Json))
deriving Repr, Inhabited

namespace Json

inductive Kind where
  | null
  | boolean
  | number
  | string
  | array
  | object
deriving DecidableEq, Repr

/-- How a message speaks of a kind. -/
def Kind.phrase : Kind → String
  | .null => "null"
  | .boolean => "a boolean"
  | .number => "a number"
  | .string => "a string"
  | .array => "an array"
  | .object => "an object"

def kind : Json → Kind
  | .null => .null
  | .boolean _ => .boolean
  | .number _ => .number
  | .string _ => .string
  | .array _ => .array
  | .object _ => .object

/-- The object with the given fields. The last field of a name wins. -/
def ofFields (fields : List (String × Json)) : Json :=
  .object (Entries.ofList fields)

/-- Why a text could not be read. -/
inductive Fault where
  /-- The text ends too early. -/
  | endOfText
  /-- The text is no JSON. -/
  | malformed
  /-- The text is JSON of another shape than what is asked for. -/
  | shape
deriving DecidableEq, Repr

/-- The tag by which a message names a fault. -/
def Fault.message : Fault → String
  | .endOfText => "<json:eof>"
  | .malformed => "<json:syntax>"
  | .shape => "<json:data>"

end Json

end CloudScope
