import CloudScope.Text.Reader

/-!
# Punycode

Letters, digits and hyphens that stand for characters beyond ASCII. What is ASCII comes first, up to
the last hyphen. Behind it stands a number for each other character. It says how far to go, over the
places of the text again and again and up by a code point each time, to where the character belongs.
Numbers have at most 32 bits.
-/

namespace CloudScope.Punycode

/-- The value of a digit: letters in lower case come before decimal digits. -/
def digit? (c : Char) : Option Nat :=
  if 'a' ≤ c ∧ c ≤ 'z' then some (c.toNat - 97)
  else if '0' ≤ c ∧ c ≤ '9' then some (c.toNat - 22)
  else none

def base : Nat := 36

/-- The least number that has too many bits. -/
def limit : Nat := Nat.pow 2 32

/-- The least digit that does not end a number. Places are counted in steps of the base. -/
def threshold (bias place : Nat) : Nat :=
  if place ≤ bias then 1 else if bias + 26 ≤ place then 26 else place - bias

/-- Reads a number, its digits from the least weighty one on, and adds it to `sum`. -/
def number? (bias place weight sum : Nat) : (s : List Char) → Option (Nat × Rest s)
  | [] => none
  | c :: rest =>
    match digit? c with
    | none => none
    | some digit =>
      let sum := sum + digit * weight
      let least := threshold bias place
      let next := weight * (base - least)
      if limit ≤ sum then none
      else if digit < least then some (sum, .tail c rest)
      else if limit ≤ next then none
      else (number? bias (place + base) next sum rest).map fun (n, r) => (n, r.behind c)

/-- Divides a number by 35 until it is at most 455, and says how often. -/
def scale (n : Nat) : Nat × Nat :=
  if 455 < n then
    let (rest, times) := scale (n / 35)
    (rest, times + 1)
  else (n, 0)
termination_by n
decreasing_by omega

/-- The bias behind a number that makes a text `size` long. -/
def adapt (number size : Nat) (fromStart : Bool) : Nat :=
  let half := if fromStart then number / 700 else number / 2
  let (rest, times) := scale (half + half / size)
  base * times + base * rest / (rest + 38)

/-- Puts the characters that numbers stand for into a text, where the one before the first of them
was put in front of `place` and has the code point `code`. -/
def insertAll (bias code place : Nat) (text : List Char) (s : List Char) : Option (List Char) :=
  if s.isEmpty then some text
  else
    match number? bias base 1 place s with
    | none => none
    | some (sum, rest) =>
      let size := text.length + 1
      let newCode := code + sum / size
      let newPlace := sum % size
      if newCode.isValidChar then
        insertAll (adapt (sum - place) size (place = 0)) newCode (newPlace + 1)
          (text.insertIdx newPlace (Char.ofNat newCode)) rest.val
      else none
termination_by s.length
decreasing_by exact rest.property

/-- The text that letters in lower case, digits and hyphens stand for. -/
def decode? (s : List Char) : Option (List Char) :=
  let basic := (s.reverse.dropWhile (· ≠ '-')).reverse.dropLast
  insertAll 72 0x80 0 basic (if basic.isEmpty then s else s.drop (basic.length + 1))

end CloudScope.Punycode
