import CloudScope.Scope.Basic
import CloudScope.Json.Reader
import CloudScope.Json.Writer

/-!
# Scopes as JSON

A scope is written as a compact object of strings with ascending names, and read from any JSON text
of an object of strings.
-/

namespace CloudScope.Scope

inductive Fault where
  | json (fault : Json.Fault)
  | notObject (found : Json.Kind)
  | notString (serviceType : String) (found : Json.Kind)
deriving DecidableEq, Repr

/-- Adds a field, which has to hold a string. -/
def addField (s : Scope) : String × Json → Except Fault Scope
  | (serviceType, .string value) => .ok (s.insert serviceType value)
  | (serviceType, j) => .error (.notString serviceType j.kind)

/-- The scope that a JSON value is. -/
def ofJson : Json → Except Fault Scope
  | .object fields => fields.foldlM addField empty
  | j => .error (.notObject j.kind)

def ofText (text : String) : Except Fault Scope :=
  match Json.parse text with
  | .error fault => .error (.json fault)
  | .ok j => ofJson j

/-- The written form of a scope, as headers carry it. -/
def text (s : Scope) : String :=
  String.ofList (Json.compact s.toList)

def toJson (s : Scope) : Json :=
  .object (s.toList.map fun e => (e.1, .string e.2))

end CloudScope.Scope
