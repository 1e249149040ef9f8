import CloudScope.Catalog.Location
import CloudScope.Entries

/-!
# Registries of loaded catalogs

A registry keeps the catalogs that were loaded or put in, by their locations. Locations are compared
as texts. Each loading makes a new instance, told apart from all others by its number.
-/

namespace CloudScope

/-- A catalog that was loaded or put in once. -/
structure Instance where
  number : Nat
  catalog : Catalog
deriving DecidableEq, Repr

structure Registry where
  /-- Locations in ascending order, with the instances at them. -/
  entries : List (String × Instance) := []
  /-- The number of instances made so far. -/
  made : Nat := 0
deriving DecidableEq, Repr

namespace Registry

def empty : Registry := {}

instance : EmptyCollection Registry := ⟨empty⟩

def get? (r : Registry) (location : String) : Option Instance :=
  Entries.find? location r.entries

/-- Puts a catalog at a location, as a new instance. -/
def insert (r : Registry) (location : String) (c : Catalog) : Instance × Registry :=
  let made : Instance := ⟨r.made, c⟩
  (made, ⟨Entries.insert location made r.entries, r.made + 1⟩)

/-- Loads the catalog at a location, in place of the instance there. Nothing changes if that
fails. -/
def reload {m : Type → Type} [Monad m] {ε : Type} (load : String → m (Except ε Catalog))
    (r : Registry) (location : String) : m (Except ε Instance × Registry) := do
  match ← load location with
  | .ok c =>
    let (made, r) := r.insert location c
    return (.ok made, r)
  | .error e => return (.error e, r)

/-- The instance at a location, loaded if there is none. -/
def getOrLoad {m : Type → Type} [Monad m] {ε : Type} (load : String → m (Except ε Catalog))
    (r : Registry) (location : String) : m (Except ε Instance × Registry) :=
  match r.get? location with
  | some found => return (.ok found, r)
  | none => r.reload load location

/-- Takes the instance at a location away, and says whether there was one. -/
def invalidate (r : Registry) (location : String) : Bool × Registry :=
  ((r.get? location).isSome, { r with entries := Entries.erase location r.entries })

def clear (r : Registry) : Registry :=
  { r with entries := [] }

/-- The number of locations with an instance. -/
def size (r : Registry) : Nat :=
  r.entries.length

def isEmpty (r : Registry) : Bool :=
  r.entries.isEmpty

end Registry

end CloudScope
