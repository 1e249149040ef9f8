import CloudScope.Catalog.Listing
import CloudScope.Files
import CloudScope.Url

/-!
# Where catalogs lie

The location of a catalog is a path, or a path behind `file://` with its escapes. A location that is
an absolute URL of another scheme is refused; a scheme of one letter is a drive and part of a path.
-/

namespace CloudScope.Catalog

/-- Where the catalog lies if nothing else is said. -/
def defaultLocation : String := "file:///etc/openstackoid/catalog.json"

inductive LoadError where
  | badEscape (location : String) (fault : Utf8.Fault)
  | unsupportedScheme (scheme location : String)
  | unreadable (path : String) (fault : ReadFault)
  | malformed (path : String) (fault : Json.Fault)
deriving DecidableEq, Repr

/-- What is shown of a catalog that cannot be loaded. -/
def LoadError.report : LoadError → Report
  | .badEscape location fault => ⟨"Invalid catalog location: " ++ location, [fault.message]⟩
  | .unsupportedScheme scheme location =>
    ⟨"Unsupported catalog scheme '" ++ scheme ++ "' in " ++ location ++
      "; only file:// is supported", []⟩
  | .unreadable path fault => ⟨"Failed to read service catalog: " ++ path, [fault.message]⟩
  | .malformed path fault =>
    (textReport fault).above ("Failed to load service catalog: " ++ path)

def pathOf (location : String) : Except LoadError String :=
  match "file://".toList.isPrefixOf? location.toList with
  | some rest =>
    match Percent.decode rest with
    | .ok path => .ok (String.ofList path)
    | .error fault => .error (.badEscape location fault)
  | none =>
    match Url.scheme? location with
    | some scheme =>
      if scheme.length ≤ 1 then .ok location else .error (.unsupportedScheme scheme location)
    | none => .ok location

/-- The catalog in the file at a path, given what reading the file brought. -/
def ofFile (path : String) (content : Except ReadFault String) : Except LoadError Catalog :=
  match content with
  | .error fault => .error (.unreadable path fault)
  | .ok text => (ofText text).mapError (.malformed path)

/-- The catalog at a location, where `read` reads files. -/
def load {m : Type → Type} [Monad m] (read : String → m (Except ReadFault String))
    (location : String) : m (Except LoadError Catalog) :=
  match pathOf location with
  | .error e => return .error e
  | .ok path => return ofFile path (← read path)

end CloudScope.Catalog
