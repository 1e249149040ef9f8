/-!
# Digits

Texts as numbers in positional notation, in bases up to sixteen.
-/

namespace CloudScope.Text

/-- The value of a hexadecimal digit in either case. -/
def hexDigit? (c : Char) : Option Nat :=
  if '0' ≤ c ∧ c ≤ '9' then some (c.toNat - 48)
  else if 'a' ≤ c ∧ c ≤ 'f' then some (c.toNat - 87)
  else if 'A' ≤ c ∧ c ≤ 'F' then some (c.toNat - 55)
  else none

/-- The value of a digit; other characters have none. -/
def digitValue (c : Char) : Nat :=
  (hexDigit? c).getD 0

/-- The number that digits of a base stand for. -/
def valueOf (base : Nat) (digits : List Char) : Nat :=
  digits.foldl (fun n c => n * base + digitValue c) 0

/-- Whether all characters are digits of a base. -/
def areDigits (base : Nat) (s : List Char) : Bool :=
  s.all fun c => match hexDigit? c with
    | some n => n < base
    | none => false

end CloudScope.Text
