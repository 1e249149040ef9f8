import CloudScope.Text.Digits

/-!
# Magnitudes of numbers

A decimal number without its sign, kept to as many of its digits as fit 64 bits, and whether it is
beyond 64-bit floating point. It is brought to floating point in three steps that each round to the
nearest value: its digits, the power of ten, and their product.
-/

namespace CloudScope.Json

/-- The size of a number: a whole number of at most 64 bits, times a power of ten. -/
structure Magnitude where
  significand : Nat
  exponent : Int
deriving DecidableEq, Repr

namespace Magnitude

/-- The least number that does not fit 64 bits. -/
def capacity : Nat := Nat.pow 2 64

/-- The magnitude with digits before the point behind its own. From the first one on that does not
fit, each of them only counts as a place. -/
def withWhole (m : Magnitude) : List Char → Magnitude
  | [] => m
  | c :: rest =>
    let next := m.significand * 10 + Text.digitValue c
    if next < capacity then withWhole { m with significand := next } rest
    else { m with exponent := m.exponent + (rest.length + 1) }

/-- The magnitude with digits behind the point behind its own. From the first one on that does not
fit, none of them counts. -/
def withFraction (m : Magnitude) : List Char → Magnitude
  | [] => m
  | c :: rest =>
    let next := m.significand * 10 + Text.digitValue c
    if next < capacity then withFraction ⟨next, m.exponent - 1⟩ rest else m

/-- The magnitude of a number in digits before the point, digits behind it and a power of ten. -/
def ofDigits (whole fraction : List Char) (power : Int) : Magnitude :=
  let m := (withWhole ⟨0, 0⟩ whole).withFraction fraction
  { m with exponent := m.exponent + power }

/-- The whole number nearest to a quotient; of two such the even one. -/
def roundedQuotient (n d : Nat) : Nat :=
  if d < 2 * (n % d) ∨ (2 * (n % d) = d ∧ n / d % 2 = 1) then n / d + 1 else n / d

/-- The nearest number whose binary digits are zeros behind the 53rd; of two such the one whose 53rd
digit is a zero. -/
def nearest (n : Nat) : Nat :=
  let unit := Nat.pow 2 (Nat.log2 n - 52)
  roundedQuotient n unit * unit

/-- The greatest power of ten below infinity. -/
def maxPower : Nat := 308

/-- Half a unit above the greatest finite value. -/
def bound : Nat := Nat.pow 2 1024 - Nat.pow 2 970

/-- Whether a magnitude is beyond the finite values of 64-bit floating point. -/
def overflows (m : Magnitude) : Bool :=
  if m.significand = 0 ∨ m.exponent < 0 then false
  else if maxPower < m.exponent then true
  else bound ≤ nearest m.significand * nearest (Nat.pow 10 m.exponent.toNat)

end Magnitude

end CloudScope.Json
