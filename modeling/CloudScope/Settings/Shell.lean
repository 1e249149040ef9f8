import CloudScope.Error

/-!
# The shell scope

The scope of a session is laid together from three sources: variables of the environment, settings,
and the text of an option. Each lies over the ones before it.
-/

namespace CloudScope.Shell

/-- The service types that variables give a value. -/
def serviceTypes : List String := ["compute", "identity", "image", "network", "placement"]

/-- The variable that holds the value for every service type without one of its own. -/
def regionVariable : String := "OS_REGION_NAME"

/-- The variable that holds the value for a service type. -/
def variableOf (serviceType : String) : String :=
  "OS_SCOPE_" ++ serviceType.map Char.toUpper

/-- The value of a variable, if it has one that is not empty. -/
def nonempty? (lookup : String → Option String) (name : String) : Option String :=
  (lookup name).filter (· ≠ "")

def ofVariables (lookup : String → Option String) : Scope :=
  Scope.ofList (serviceTypes.filterMap fun serviceType =>
    let value := nonempty? lookup (variableOf serviceType) <|>
      nonempty? lookup regionVariable
    value.map fun value => (serviceType, value))

/-- The scope of a session, of which `option` is the text of a scope. -/
def resolve (environment settings : Scope) (option : Option String) :
    Except ScopeError Scope :=
  let below := environment.merge settings
  match option with
  | none => .ok below
  | some text =>
    match Scope.ofText text with
    | .ok scope => .ok (below.merge scope)
    | .error fault => .error (.invalidContextWrite (.scope fault))

end CloudScope.Shell
