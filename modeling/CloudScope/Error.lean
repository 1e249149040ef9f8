import CloudScope.Catalog.Basic
import CloudScope.Expr.Parser
import CloudScope.Scope.Text

/-!
# Errors of scope resolution

Each error names its cause; the wording stands in `ScopeError.message`. `Report` is what is shown of
any failure: a text and the texts of what lies beneath it.
-/

namespace CloudScope

inductive ScopeFault where
  /-- The scope has no value for the service type. -/
  | noEntry (scope : Scope) (serviceType : String)
  /-- The value names several clouds where one is needed. -/
  | compound (value serviceType : String)
  /-- The endpoint put in place of the value names several clouds. -/
  | notAtomic (endpoint : String)
  /-- The scope has no value for the identity service. -/
  | noIdentity (scope : Scope)
  /-- The cloud of the identity service has no administrative interface for it. -/
  | noAdminIdentity (cloud : String)
  /-- A reason given by a caller. -/
  | stated (reason : String)
deriving DecidableEq, Repr

def ScopeFault.message : ScopeFault → String
  | .noEntry scope serviceType =>
    "scope " ++ scope.text ++ " has no entry for service type '" ++ serviceType ++ "'"
  | .compound value serviceType =>
    "compound scope `" ++ value ++ "` for '" ++ serviceType ++ "' must be dispatched"
  | .notAtomic endpoint => "endpoint override `" ++ endpoint ++ "` is not atomic"
  | .noIdentity scope => "scope " ++ scope.text ++ " has no identity entry"
  | .noAdminIdentity cloud => "no admin identity service for identity scope `" ++ cloud ++ "`"
  | .stated reason => reason

/-- The wording of why something is no scope, where JSON faults stand by themselves. -/
def Scope.Fault.message : Scope.Fault → String
  | .json fault => fault.message
  | .notObject found => "scope must be a JSON object, got " ++ found.phrase
  | .notString serviceType found =>
    "scope value for '" ++ serviceType ++ "' must be a string, got " ++ found.phrase

inductive HeaderFault where
  | escape (fault : Utf8.Fault)
  | scope (fault : Scope.Fault)
deriving DecidableEq, Repr

def HeaderFault.message : HeaderFault → String
  | .escape fault => "invalid escape: " ++ fault.message
  | .scope fault => fault.message

/-- Why a write to a context is refused. -/
inductive ContextFault where
  | scope (fault : Scope.Fault)
  | blankEndpoint
  | compoundEndpoint (endpoint : String)
deriving DecidableEq, Repr

def ContextFault.message : ContextFault → String
  | .scope (.json fault) => "invalid scope JSON: " ++ fault.message
  | .scope fault => fault.message
  | .blankEndpoint => "execution scope endpoint must not be empty"
  | .compoundEndpoint endpoint =>
    "execution scope `" ++ endpoint ++ "` must not include operators"

/-- Errors of resolving or dispatching a scope. -/
inductive ScopeError where
  /-- The catalog has no such service. -/
  | serviceNotFound (sought : Sought)
  /-- A scope cannot be resolved. -/
  | invalidScope (fault : ScopeFault)
  /-- A scope expression cannot be read. -/
  | parse (error : Expr.ParseError)
  /-- A header does not carry what it should. -/
  | malformedHeader (header : String) (fault : HeaderFault)
  /-- A write to a context is refused. -/
  | invalidContextWrite (fault : ContextFault)
  /-- The shell scope is read before it is set. -/
  | shellScopeUnset
  /-- A dispatcher without an extractor has to find the scope of a call. -/
  | missingScopeExtractor
deriving DecidableEq, Repr

namespace ScopeError

def message : ScopeError → String
  | .serviceNotFound sought => "Service not found: " ++ sought.message
  | .invalidScope fault => "Invalid scope: " ++ fault.message
  | .parse e =>
    "Failed to parse scope expression `" ++ e.expression ++ "` at offset " ++ toString e.offset ++
      ": " ++ e.fault.message
  | .malformedHeader header fault => "Malformed " ++ header ++ " header: " ++ fault.message
  | .invalidContextWrite fault => "Invalid context write: " ++ fault.message
  | .shellScopeUnset => "Shell scope is undefined"
  | .missingScopeExtractor => "Dispatcher has no scope extractor"

/-- Whether an error ends a whole dispatch rather than one endpoint of it. -/
def isFatal : ScopeError → Bool
  | .parse _ | .malformedHeader .. => true
  | _ => false

end ScopeError

structure Report where
  message : String
  /-- The texts of what lies beneath, the nearest first. -/
  causes : List String := []
deriving DecidableEq, Repr

def Report.above (r : Report) (message : String) : Report :=
  ⟨message, r.message :: r.causes⟩

/-- The lines that show a failure: its text, and the texts beneath it, numbered if there are many. -/
def Report.lines (r : Report) : List String :=
  match r.causes with
  | [] => [r.message]
  | [cause] => [r.message, "", "Caused by:", "    " ++ cause]
  | causes =>
    let numbered := causes.zipIdx.map fun (cause, n) => "    " ++ toString n ++ ": " ++ cause
    r.message :: "" :: "Caused by:" :: numbered

/-- What is shown of a scope error. -/
def ScopeError.report (e : ScopeError) : Report :=
  ⟨e.message, []⟩

end CloudScope
