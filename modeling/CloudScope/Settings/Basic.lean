import CloudScope.Catalog.Location
import CloudScope.Settings.Document

/-!
# Settings

Settings name a catalog and a scope, and each may be left out. Their document gives the catalog by
one string. It gives the scope in one of three ways: by a table of its own, by a table in braces, or
by keys with a dot at its front. Nothing is given twice, and nothing else may be given.
-/

namespace CloudScope

/-- What a user has settled for all calls. -/
structure Settings where
  catalog : Option String := none
  scope : Scope := ∅
deriving DecidableEq

namespace Settings

def location (s : Settings) : String :=
  s.catalog.getD Catalog.defaultLocation

/-- How far the scope of a document is given. -/
inductive Extent where
  /-- Not at all. -/
  | absent
  /-- By keys with a dot, of which more may follow. -/
  | dotted
  /-- Wholly. -/
  | complete
  /-- By its table, to which all following keys belong. -/
  | table
deriving DecidableEq, Repr

/-- What is read of a document so far. -/
structure Draft where
  settings : Settings := {}
  extent : Extent := .absent

/-- Adds an entry to a scope. Its key is a single one, and new. -/
def addEntry (s : Scope) : List String × String → Except Fault Scope
  | ([serviceType], value) =>
    if s.contains serviceType then .error .malformed else .ok (s.insert serviceType value)
  | _ => .error .malformed

/-- The key under which a moment stands where a table is wanted. -/
def momentKey : String := "$__toml_private_datetime"

/-- The scope that a value is. A moment is a table of its text. -/
def scopeOf : Value → Except Fault Scope
  | .text _ => .error .malformed
  | .moment text => .ok (Scope.empty.insert momentKey text)
  | .table entries => entries.foldlM addEntry ∅

namespace Draft

/-- Adds an entry to the scope of a draft. -/
def withEntry (d : Draft) (extent : Extent) (key : List String) :
    Value → Except Fault Draft
  | .text value =>
    (addEntry d.settings.scope (key, value)).map fun scope =>
      { settings := { d.settings with scope }, extent }
  | _ => .error .malformed

def add (d : Draft) : Statement → Except Fault Draft
  | .header key =>
    if key = ["scope"] ∧ d.extent = .absent then .ok { d with extent := .table }
    else .error .malformed
  | .assign key value =>
    match d.extent, key with
    | .table, key => d.withEntry .table key value
    | _, ["catalog"] =>
      match d.settings.catalog, value with
      | none, .text location => .ok { d with settings.catalog := some location }
      | _, _ => .error .malformed
    | .absent, ["scope"] =>
      (scopeOf value).map fun scope =>
        { settings := { d.settings with scope }, extent := .complete }
    | .absent, "scope" :: key => d.withEntry .dotted key value
    | .dotted, "scope" :: key => d.withEntry .dotted key value
    | _, _ => .error .malformed

end Draft

def ofText (document : String) : Except Fault Settings := do
  let statements ← statementsOf document
  let draft ← statements.foldlM Draft.add {}
  return draft.settings

/-- What is shown of a text that is no document of settings. -/
def textReport (fault : Fault) : Report :=
  Report.above ⟨fault.message, []⟩ "Invalid TOML in config"

inductive LoadError where
  | unreadable (path : String) (fault : ReadFault)
  | malformed (path : String) (fault : Fault)
deriving DecidableEq, Repr

/-- What is shown of settings that cannot be loaded. -/
def LoadError.report : LoadError → Report
  | .unreadable path fault => ⟨"Failed to read config file: " ++ path, [fault.message]⟩
  | .malformed path fault => (textReport fault).above ("Failed to parse config file: " ++ path)

/-- The settings in the file at a path, given what reading the file brought. A path that leads
nowhere is as good as one to an empty file. -/
def ofFile (path : String) : Except ReadFault String → Except LoadError Settings
  | .ok document => (ofText document).mapError (.malformed path)
  | .error fault => if fault.leadsNowhere then .ok {} else .error (.unreadable path fault)

end Settings

end CloudScope
