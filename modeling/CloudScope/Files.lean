import CloudScope.Text.Utf8

/-!
# Files

A tree of files in one directory. Paths are relative to it. Outside it there is nothing but the
directories above it, up to the one where absolute paths start. Paths and the names in them have a
greatest length.
-/

namespace CloudScope

inductive ReadFault where
  | missing
  | isDirectory
  /-- A part of the path in front of another is no directory. -/
  | notDirectory
  /-- The path, or a name in it, has too many bytes. -/
  | nameTooLong
  /-- The path holds a NUL character. -/
  | nulInPath
  /-- The bytes of the file are not UTF-8. -/
  | notText
  /-- Any other reason, in the words of the system. -/
  | other (reason : String)
deriving DecidableEq, Repr

def ReadFault.message : ReadFault → String
  | .missing => "No such file or directory (os error 2)"
  | .isDirectory => "Is a directory (os error 21)"
  | .notDirectory => "Not a directory (os error 20)"
  | .nameTooLong => "File name too long (os error 36)"
  | .nulInPath => "file name contained an unexpected NUL byte"
  | .notText => "stream did not contain valid UTF-8"
  | .other reason => reason

/-- Whether a fault says that the path leads to nothing at all. -/
def ReadFault.leadsNowhere : ReadFault → Bool
  | .missing | .notDirectory | .nameTooLong | .nulInPath => true
  | .isDirectory | .notText | .other _ => false

def textOfBytes (bytes : List UInt8) : Except ReadFault String :=
  match Utf8.decode bytes with
  | .ok s => .ok (String.ofList s)
  | .error _ => .error .notText

/-- What stands at a place in a tree of files. -/
inductive Entry where
  | file (bytes : List UInt8)
  | directory
deriving DecidableEq, Repr

/-- A tree of files: what stands at each place below the top. A place is named by the steps that
lead to it. -/
structure Files where
  entries : List (List String × Entry) := []

namespace Files

def entry? (fs : Files) (place : List String) : Option Entry :=
  if place.isEmpty then some .directory else fs.entries.lookup place

/-- Whether a step stays where it is. -/
def isIdle (step : String) : Bool :=
  step = "" || step = "."

/-- The least number of bytes that a path may not have. -/
def pathLimit : Nat := 4096

/-- The greatest number of bytes of a name in a path. -/
def maxNameSize : Nat := 255

/-- Why a name leads nowhere from a directory without entries. -/
def unknownName (name : String) : ReadFault :=
  if maxNameSize < name.utf8ByteSize then .nameTooLong else .missing

/-- Follows the steps of a path from a directory outside the tree, which no name leads out of. -/
def walkOutside (steps : List String) : Except ReadFault (Option (List String)) :=
  match steps.find? fun step => !isIdle step && step ≠ ".." with
  | some name => .error (unknownName name)
  | none => .ok none

/-- Follows the steps of a path from a place, or to a directory outside the tree, which is
`none`. -/
def walk (fs : Files) (place : List String) : List String →
    Except ReadFault (Option (List String))
  | [] => .ok (some place)
  | step :: steps =>
    match fs.entry? place with
    | none => .error .missing
    | some (.file _) => .error .notDirectory
    | some .directory =>
      if isIdle step then walk fs place steps
      else if step = ".." then
        if place.isEmpty then walkOutside steps else walk fs place.dropLast steps
      else if maxNameSize < step.utf8ByteSize then .error .nameTooLong
      else walk fs (place ++ [step]) steps

/-- What is wrong with a path, wherever it leads. -/
def pathFault? (path : String) : Option ReadFault :=
  if path.toList.contains '\x00' then some .nulInPath
  else if pathLimit ≤ path.utf8ByteSize then some .nameTooLong
  else none

/-- The place that a path leads to, and what stands there. -/
def resolve (fs : Files) (path : String) : Except ReadFault (Option (List String) × Entry) :=
  match pathFault? path with
  | some fault => .error fault
  | none =>
    let steps := path.splitOn "/"
    let reached : Except ReadFault (Option (List String)) :=
      if path.isEmpty then .error .missing
      else if path.toList.head? = some '/' then walkOutside steps
      else fs.walk [] steps
    match reached with
    | .error fault => .error fault
    | .ok none => .ok (none, .directory)
    | .ok (some place) =>
      match fs.entry? place with
      | some entry => .ok (some place, entry)
      | none => .error .missing

/-- The text of the file that a path leads to. -/
def read (fs : Files) (path : String) : Except ReadFault String :=
  match fs.resolve path with
  | .error fault => .error fault
  | .ok (_, .directory) => .error .isDirectory
  | .ok (_, .file bytes) => textOfBytes bytes

/-- The steps of a path that go somewhere. -/
def steps (path : String) : List String :=
  (path.splitOn "/").filter fun step => !isIdle step

/-- Puts something at a place, and directories on the way to it. -/
def put (fs : Files) (place : List String) (entry : Entry) : Files :=
  let onTheWay := (List.range place.length).tail.map fun n => (place.take n, Entry.directory)
  ⟨(place, entry) :: onTheWay ++ fs.entries⟩

/-- Takes the file away that a path leads to, and says whether there was one. -/
def delete (fs : Files) (path : String) : Bool × Files :=
  match fs.resolve path with
  | .ok (some place, .file _) => (true, ⟨fs.entries.filter fun e => e.1 ≠ place⟩)
  | _ => (false, fs)

end Files

end CloudScope
