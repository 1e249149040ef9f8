import CloudScope.Text.Digits
import CloudScope.Text.Utf8

/-!
# Percent escapes

A percent sign with two hexadecimal digits stands for a byte; any other percent sign stands for
itself, and so does every other character. One pass from left to right, never repeated.
-/

namespace CloudScope.Percent

/-- The byte that two characters after a percent sign stand for. -/
def escape? (a b : Char) : Option UInt8 :=
  match Text.hexDigit? a, Text.hexDigit? b with
  | some x, some y => some (.ofNat (16 * x + y))
  | _, _ => none

/-- The bytes that an escaped text stands for. -/
def bytes : List Char → List UInt8
  | [] => []
  | '%' :: a :: b :: rest =>
    match escape? a b with
    | some byte => byte :: bytes rest
    | none => Utf8.encodeChar '%' ++ bytes (a :: b :: rest)
  | c :: rest => Utf8.encodeChar c ++ bytes rest

/-- The text that an escaped text stands for. The escaped bytes have to be UTF-8. -/
def decode (s : List Char) : Except Utf8.Fault (List Char) :=
  Utf8.decode (bytes s)

end CloudScope.Percent
