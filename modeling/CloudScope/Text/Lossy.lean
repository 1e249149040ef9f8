import CloudScope.Text.Utf8

/-!
# Texts of faulty bytes

Bytes that are not UTF-8 still have a text, with a replacement character for each fault.
-/

namespace CloudScope.Utf8

/-- The text of bytes, with U+FFFD in the place of each sequence that no character has. -/
def decodeLossy : List UInt8 → List Char
  | [] => []
  | a :: rest =>
    let readable (length : Nat) := (decode ((a :: rest).take length)).toOption.getD []
    match decode (a :: rest) with
    | .ok s => s
    | .error (.incomplete index) => readable index ++ ['\uFFFD']
    | .error (.invalid length index) =>
      readable index ++ '\uFFFD' :: decodeLossy (rest.drop (index + length - 1))
termination_by bytes => bytes.length
decreasing_by
  simp only [List.length_cons, List.length_drop]
  omega

theorem decodeLossy_of_decode_eq_ok {bytes : List UInt8} {s : List Char}
    (h : decode bytes = .ok s) : decodeLossy bytes = s := by
  unfold decodeLossy
  split
  · cases h
    rfl
  · rw [h]

/-- The second byte does not go on with what the first opens, and the last byte lacks a second. -/
example : decodeLossy [0x61, 0xE2, 0x21, 0xFF, 0xC3] =
    ['a', '\uFFFD', '!', '\uFFFD', '\uFFFD'] := by cbv

end CloudScope.Utf8
