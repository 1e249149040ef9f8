import CloudScope.Text.Composition
import CloudScope.Text.Direction
import CloudScope.Text.Joining
import CloudScope.Url.NameMapping
import CloudScope.Url.Punycode

/-!
# Names of hosts

A name is a row of labels with dots between them, in any script. Its characters are brought into one
form first. A label that starts with `xn--` stands for the label that Punycode makes of its rest,
which has to be in that form already. Each label must start with a letter or the like, may hold
joiners only where they show, and must not mix directions if any of them runs from the right.
-/

namespace CloudScope.HostName

open Text

/-- The ASCII characters that no host may hold. -/
def forbiddenInHost : List Char :=
  ['\x00', '\t', '\n', '\r', ' ', '#', '/', ':', '<', '>', '?', '@', '[', '\\', ']', '^', '|']

/-- Whether a character may not stand in a name. -/
def isForbidden (c : Char) : Bool :=
  forbiddenInHost.contains c || c == '%' || c.toNat < 0x20 || c == '\x7f'

/-- A name in the form in which names are compared; `none` if it holds a character that no name may
hold. -/
def normalForm? (name : List Char) : Option (List Char) := do
  let meanings ← name.mapM meaning?
  let normal := compose meanings.flatten
  if normal.any isForbidden then none else some normal

/-! ## Labels -/

/-- The start of a label in Punycode. -/
def codeMark : List Char := ['x', 'n', '-', '-']

/-- The greatest length of a text that is decoded. -/
def maxCodeLength : Nat := 2000

/-- The greatest length of a label with characters beyond ASCII. -/
def maxLength : Nat := 1000

/-- The label that a label in normal form stands for. -/
def decoded? (label : List Char) : Option (List Char) :=
  match codeMark.isPrefixOf? label with
  | none => some label
  | some code =>
    if code.isEmpty || code.getLast? = some '-' || maxCodeLength < code.length then none
    else
      match Punycode.decode? code with
      | none => none
      | some text => if text.all isPlain && compose text == text then some text else none

def nonJoiner : Char := Char.ofNat 0x200C

def joiner : Char := Char.ofNat 0x200D

/-- Whether a joiner shows between the characters before it, from the nearest one on, and those
behind it: behind a virama, or if it keeps letters apart that would be joined. -/
def joinerShows (c : Char) (before after : List Char) : Bool :=
  let nearest (s : List Char) (joins : Char → Bool) : Bool :=
    (s.dropWhile isTransparent).head?.any joins
  before.head?.any (combiningClass · = viramaClass) ||
    (c == nonJoiner && nearest before joinsNext && nearest after joinsPrevious)

/-- Whether all joiners show in a text that stands behind `before`, which is given backwards. -/
def joinersShow (before : List Char) : List Char → Bool
  | [] => true
  | c :: rest =>
    (c != nonJoiner && c != joiner || joinerShows c before rest) && joinersShow (c :: before) rest

/-- Whether a label is sound by itself. -/
def isSound (label : List Char) : Bool :=
  let plain := label.all fun c => c.toNat < 0x80
  plain || !label.head?.any isMark && joinersShow [] label && label.length ≤ maxLength

/-- Whether a label keeps to one direction. -/
def keepsDirection : List Char → Bool
  | [] => true
  | first :: rest =>
    let inner := (rest.map direction).reverse.dropWhile (· = .mark)
    match direction first, inner with
    | .fromLeft, [] | .fromRight, [] => true
    | .fromLeft, last :: middle =>
      (last = .fromLeft || last = .digit) &&
        middle.all fun d => d ≠ .fromRight ∧ d ≠ .arabicDigit
    | .fromRight, last :: middle =>
      (last = .fromRight || last = .digit || last = .arabicDigit) &&
        (middle.all fun d => d ≠ .fromLeft) &&
        !(inner.contains .digit && inner.contains .arabicDigit)
    | _, _ => false

/-- No character with a smaller code point runs from the right. -/
def firstFromRight : Nat := 0x590

/-- Whether a character makes a name one that runs from the right. -/
def turns (c : Char) : Bool :=
  firstFromRight ≤ c.toNat && (direction c = .fromRight || direction c = .arabicDigit)

/-- The labels of a name; `none` if it is no name of a host. -/
def labels? (name : List Char) : Option (List (List Char)) := do
  let normal ← normalForm? name
  let labels ← (partsAt '.' normal).mapM decoded?
  if labels.all isSound && (!(labels.any fun label => label.any turns) || labels.all keepsDirection)
  then some labels
  else none

end CloudScope.HostName
