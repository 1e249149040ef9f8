import CloudScope.Json.Writer

/-!
# The grammar of JSON texts

Which texts there are of a string, a number, a sequence of items and a value, by RFC 8259: white
space stands wherever it may, and the characters of strings are spelled in any way.
-/

namespace CloudScope.Json

variable {β : Type}

/-- White space. -/
def Blank (s : List Char) : Prop :=
  ∀ c ∈ s, c ∈ [' ', '\t', '\n', '\r']

instance (s : List Char) : Decidable (Blank s) :=
  List.decidableBAll _ s

/-! ## Strings -/

/-- A digit of base sixteen, in either case. -/
def IsHexDigit (n : Nat) (c : Char) : Prop :=
  c = hexDigit n ∨ c = (hexDigit n).toUpper

/-- The four digits of a code unit. -/
def IsCodeUnit (n : Nat) (digits : List Char) : Prop :=
  n < 0x10000 ∧ ∃ a b c d, digits = [a, b, c, d] ∧ IsHexDigit (n / 0x1000) a ∧
    IsHexDigit (n / 0x100 % 0x10) b ∧ IsHexDigit (n / 0x10 % 0x10) c ∧ IsHexDigit (n % 0x10) d

/-- What a backslash and the letter `u` are followed by for a character: its number, or the two
halves of a surrogate pair. -/
inductive Numbers : List Char → Char → Prop where
  | unit {digits : List Char} {c : Char} : IsCodeUnit c.toNat digits → Numbers digits c
  | pair {high low : List Char} {c : Char} : 0x10000 ≤ c.toNat →
    IsCodeUnit (0xD800 + (c.toNat - 0x10000) / 0x400) high →
    IsCodeUnit (0xDC00 + (c.toNat - 0x10000) % 0x400) low →
    Numbers (high ++ '\\' :: 'u' :: low) c

/-- What a backslash and the letter `u` are followed by where surrogates need no partner: each code
unit counts as an unknown character. -/
def NumbersAny (digits : List Char) (c : Char) : Prop :=
  c = '\ufffd' ∧ ∃ n, IsCodeUnit n digits

/-- The letters that may follow a backslash, with the characters they stand for. -/
def shortEscapes : List (Char × Char) :=
  [('"', '"'), ('\\', '\\'), ('/', '/'), ('b', '\x08'), ('f', '\x0c'), ('n', '\n'), ('r', '\r'),
    ('t', '\t')]

/-- The spellings of characters inside a string: each as it is, by a letter or by its number. -/
inductive Spells (numbers : List Char → Char → Prop) : List Char → List Char → Prop where
  | nil : Spells numbers [] []
  | plain {c : Char} {s cs : List Char} : c ≠ '"' → c ≠ '\\' → ¬ c.toNat < 0x20 →
    Spells numbers s cs → Spells numbers (c :: s) (c :: cs)
  | short {d c : Char} {s cs : List Char} : (d, c) ∈ shortEscapes →
    Spells numbers s cs → Spells numbers ('\\' :: d :: s) (c :: cs)
  | number {digits : List Char} {c : Char} {s cs : List Char} : numbers digits c →
    Spells numbers s cs → Spells numbers ('\\' :: 'u' :: (digits ++ s)) (c :: cs)

/-- The texts of a string. -/
inductive Quotes (numbers : List Char → Char → Prop) : String → List Char → Prop where
  | mk {text : String} {s : List Char} : Spells numbers s text.toList →
    Quotes numbers text ('"' :: (s ++ ['"']))

/-! ## Numbers -/

/-- At least one decimal digit. -/
def IsDigits (s : List Char) : Prop :=
  s ≠ [] ∧ ∀ c ∈ s, c.isDigit = true

/-- The digits before the point: a single zero, or digits that start with another one. -/
def IsWhole (s : List Char) : Prop :=
  IsDigits s ∧ (s = ['0'] ∨ s.head? ≠ some '0')

def IsFraction (s : List Char) : Prop :=
  s = [] ∨ ∃ digits, IsDigits digits ∧ s = '.' :: digits

def IsExponent (s : List Char) : Prop :=
  s = [] ∨ ∃ e ∈ ['e', 'E'], ∃ sign ∈ [[], ['+'], ['-']], ∃ digits, IsDigits digits ∧
    s = e :: (sign ++ digits)

inductive IsNumber : List Char → Prop where
  | mk {sign whole fraction exponent : List Char} : sign ∈ [[], ['-']] → IsWhole whole →
    IsFraction fraction → IsExponent exponent →
    IsNumber (sign ++ (whole ++ (fraction ++ exponent)))

/-! ## Sequences and values -/

/-- What follows an item of a sequence: the mark that closes the sequence, or a comma and further
items. -/
inductive Further (item : β → List Char → Prop) (close : Char) : List β → List Char → Prop where
  | close {w : List Char} : Blank w → Further item close [] (w ++ [close])
  | comma {w w' p s : List Char} {b : β} {bs : List β} : Blank w → Blank w' → item b p →
    Further item close bs s → Further item close (b :: bs) (w ++ ',' :: (w' ++ (p ++ s)))

/-- The items of a sequence, and the mark that closes it. -/
inductive Sequence (item : β → List Char → Prop) (close : Char) : List β → List Char → Prop where
  | empty {w : List Char} : Blank w → Sequence item close [] (w ++ [close])
  | items {w p s : List Char} {b : β} {bs : List β} : Blank w → item b p →
    Further item close bs s → Sequence item close (b :: bs) (w ++ (p ++ s))

/-- A name, a colon and a value. -/
inductive Field (name : String → List Char → Prop) (item : β → List Char → Prop) :
    String × β → List Char → Prop where
  | mk {n : String} {b : β} {k w w' v : List Char} : name n k → Blank w → Blank w' → item b v →
    Field name item (n, b) (k ++ (w ++ ':' :: (w' ++ v)))

/-- The texts of a value, in whose strings surrogates need no partner. Numbers are kept as they are
written. -/
inductive Renders : Json → List Char → Prop where
  | null : Renders .null "null".toList
  | true : Renders (.boolean .true) "true".toList
  | false : Renders (.boolean .false) "false".toList
  | number {s : List Char} : IsNumber s → Renders (.number (String.ofList s)) s
  | string {text : String} {s : List Char} : Quotes NumbersAny text s → Renders (.string text) s
  | array {js : List Json} {s : List Char} : Sequence Renders ']' js s →
    Renders (.array js) ('[' :: s)
  | object {fields : List (String × Json)} {s : List Char} :
    Sequence (Field (Quotes NumbersAny) Renders) '}' fields s →
    Renders (ofFields fields) ('{' :: s)

end CloudScope.Json
