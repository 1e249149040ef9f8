/-!
# Headers

An ordered list of named values. Names are compared without regard to the case of ASCII letters. A
value put under a name that is there replaces the old value in its place, and the spelling of the
name stays.
-/

namespace CloudScope

/-- The name of a header with its ASCII letters in lower case. -/
def foldName (name : String) : String :=
  String.ofList (name.toList.map Char.toLower)

/-- Whether two names are one up to the case of ASCII letters. -/
def SameName (a b : String) : Prop := foldName a = foldName b

instance (a b : String) : Decidable (SameName a b) :=
  inferInstanceAs (Decidable (foldName a = foldName b))

structure Headers where
  /-- Names as they are spelled, with their values. -/
  toList : List (String × String) := []
deriving DecidableEq, Repr

namespace Headers

def empty : Headers := {}

instance : EmptyCollection Headers := ⟨empty⟩

def get? (h : Headers) (name : String) : Option String :=
  (h.toList.find? fun e => SameName e.1 name).map (·.2)

/-- Whether there is a value under a name. -/
def contains (h : Headers) (name : String) : Bool :=
  (h.get? name).isSome

/-- Replaces the value of the first entry of a name, or puts an entry at the end. -/
def insertEntry (name value : String) : List (String × String) → List (String × String)
  | [] => [(name, value)]
  | e :: l => if SameName e.1 name then (e.1, value) :: l else e :: insertEntry name value l

def insert (h : Headers) (name value : String) : Headers :=
  ⟨insertEntry name value h.toList⟩

/-- Takes the first entry of a name out. -/
def erase (h : Headers) (name : String) : Headers :=
  ⟨h.toList.eraseP fun e => SameName e.1 name⟩

/-- Takes the first entry of a name out, and gives its value. -/
def remove (h : Headers) (name : String) : Option String × Headers :=
  match h.toList.findIdx? fun e => SameName e.1 name with
  | none => (none, h)
  | some i => (h.toList[i]?.map (·.2), ⟨h.toList.eraseIdx i⟩)

def size (h : Headers) : Nat :=
  h.toList.length

def isEmpty (h : Headers) : Bool :=
  h.toList.isEmpty

/-- Puts values under names one after the other. -/
def insertAll (h : Headers) (entries : List (String × String)) : Headers :=
  entries.foldl (fun h e => h.insert e.1 e.2) h

/-- The headers with the given names and values. -/
def ofList (entries : List (String × String)) : Headers :=
  empty.insertAll entries

end Headers

end CloudScope
