import CloudScope.Entries

/-!
# Scopes

A scope says for each service type which clouds serve it. A value names one cloud, or joins clouds
by operators and is then an expression.
-/

namespace CloudScope

/-- The characters that make a scope value compound. -/
def operatorChars : List Char := ['&', '|', '^']

/-- Whether a scope value names a single cloud. -/
def isAtomic (value : String) : Bool :=
  value.toList.all fun c => !operatorChars.contains c

/-- A table from service types to scope values. -/
structure Scope where
  /-- Service types in ascending order, with their values. -/
  toList : List (String × String) := []
  ascending : Entries.Ascending toList := by exact List.Pairwise.nil
deriving Repr

namespace Scope

theorem ext {s t : Scope} (h : s.toList = t.toList) : s = t := by
  cases s; cases t; cases h; rfl

instance : DecidableEq Scope := fun s t =>
  if h : s.toList = t.toList then isTrue (ext h) else isFalse fun e => h (congrArg toList e)

def empty : Scope := {}

instance : EmptyCollection Scope := ⟨empty⟩

instance : Inhabited Scope := ⟨empty⟩

def get? (s : Scope) (serviceType : String) : Option String :=
  Entries.find? serviceType s.toList

/-- Whether a service type has a value. -/
def contains (s : Scope) (serviceType : String) : Bool :=
  (s.get? serviceType).isSome

/-- Gives a service type a value, in place of the one it has. -/
def insert (s : Scope) (serviceType value : String) : Scope where
  toList := Entries.insert serviceType value s.toList
  ascending := s.ascending.insert serviceType value

/-- Takes the value of a service type away. -/
def erase (s : Scope) (serviceType : String) : Scope where
  toList := Entries.erase serviceType s.toList
  ascending := s.ascending.erase serviceType

def size (s : Scope) : Nat :=
  s.toList.length

def isEmpty (s : Scope) : Bool :=
  s.toList.isEmpty

/-- The scope with the given entries. The last entry of a service type wins. -/
def ofList (entries : List (String × String)) : Scope :=
  entries.foldl (fun s e => s.insert e.1 e.2) empty

/-- Lays the entries of `t` over `s`. -/
def merge (s t : Scope) : Scope :=
  t.toList.foldl (fun s e => s.insert e.1 e.2) s

end Scope

end CloudScope
