import CloudScope.Json.Basic
import CloudScope.Json.Magnitude
import CloudScope.Text.Reader
import CloudScope.Text.Utf8
import CloudScope.Text.Digits

/-!
# Strings, numbers and words of JSON

Readers for the parts of a JSON text that have no parts of their own. A fault that lies beyond the
last character is told apart from one at a character.
-/

namespace CloudScope.Json

/-- Takes a `β` off the front of a text. -/
abbrev TextReader (β : Type) := Reader Char Fault β

/-- The characters that may stand between the parts of a JSON text. -/
def isSpace (c : Char) : Bool :=
  c == ' ' || c == '\t' || c == '\n' || c == '\r'

/-- The text without the spaces at its front. -/
def skipSpace (s : List Char) : List Char :=
  s.dropWhile isSpace

theorem length_skipSpace_le (s : List Char) : (skipSpace s).length ≤ s.length :=
  (List.dropWhile_sublist _).length_le

/-- A reader that passes over the spaces in front. -/
def spaced {β : Type} (read : TextReader β) : TextReader β := fun s =>
  (read (skipSpace s)).map fun (b, rest) => (b, rest.widen (length_skipSpace_le s))

def mark (c : Char) : TextReader Unit
  | [] => .error .endOfText
  | d :: rest => if d = c then .ok ((), .tail _ rest) else .error .malformed

/-- The character that a backslash and `c` stand for. -/
def shortEscape? : Char → Option Char
  | '"' => some '"'
  | '\\' => some '\\'
  | '/' => some '/'
  | 'b' => some '\x08'
  | 'f' => some '\x0c'
  | 'n' => some '\n'
  | 'r' => some '\r'
  | 't' => some '\t'
  | _ => none

/-- Reads four hexadecimal digits. What is left of the text has to be at least four bytes long. -/
def codeUnit : TextReader Nat
  | a :: b :: c :: d :: rest =>
    match Text.hexDigit? a, Text.hexDigit? b, Text.hexDigit? c, Text.hexDigit? d with
    | some a, some b, some c, some d =>
      .ok (a * 4096 + b * 256 + c * 16 + d, (((Rest.tail _ rest).behind _).behind _).behind _)
    | _, _, _, _ => .error .malformed
  | s => .error (if Utf8.size s < 4 then .endOfText else .malformed)

/-- Whether a number is a code unit that opens a surrogate pair. -/
def isHighSurrogate (n : Nat) : Bool := 0xD800 ≤ n && n ≤ 0xDBFF

/-- Whether a number is a code unit that closes a surrogate pair. -/
def isLowSurrogate (n : Nat) : Bool := 0xDC00 ≤ n && n ≤ 0xDFFF

/-- Reads the escape of a code unit that closes a surrogate pair. -/
def lowSurrogate : TextReader Nat
  | '\\' :: 'u' :: rest =>
    match codeUnit rest with
    | .error f => .error f
    | .ok (m, last) =>
      if isLowSurrogate m then .ok (m, (last.behind _).behind _) else .error .malformed
  | ['\\'] => .error .endOfText
  | [] => .error .endOfText
  | _ => .error .malformed

/-- Reads what follows a backslash and the letter `u`: four digits, or a surrogate pair. -/
def unicodeEscape : TextReader Char := fun s =>
  match codeUnit s with
  | .error f => .error f
  | .ok (n, rest) =>
    if isLowSurrogate n then .error .malformed
    else if isHighSurrogate n then
      match lowSurrogate rest.val with
      | .error f => .error f
      | .ok (m, last) =>
        .ok (Char.ofNat (0x10000 + (n - 0xD800) * 0x400 + (m - 0xDC00)), rest.trans last)
    else .ok (Char.ofNat n, rest)

/-- Reads one character of a string, or `none` at the quote that ends it; `unicode` reads what
follows a backslash and the letter `u`. -/
def stringChar (unicode : TextReader Char) : TextReader (Option Char)
  | [] => .error .endOfText
  | '"' :: rest => .ok (none, .tail _ rest)
  | ['\\'] => .error .endOfText
  | '\\' :: 'u' :: rest =>
    (unicode rest).map fun (c, r) => (some c, (r.behind _).behind _)
  | '\\' :: c :: rest =>
    match shortEscape? c with
    | some c => .ok (some c, (Rest.tail _ rest).behind _)
    | none => .error .malformed
  | c :: rest => if c.toNat < 0x20 then .error .malformed else .ok (some c, .tail _ rest)

/-- Reads the characters of a string up to the quote that ends it. -/
def stringTail (unicode : TextReader Char) (s : List Char) : Except Fault (List Char × Rest s) :=
  match stringChar unicode s with
  | .error f => .error f
  | .ok (none, rest) => .ok ([], rest)
  | .ok (some c, rest) =>
    match stringTail unicode rest.val with
    | .error f => .error f
    | .ok (cs, last) => .ok (c :: cs, rest.trans last)
termination_by s.length
decreasing_by exact rest.property

def word (letters : List Char) (s : List Char) : Except Fault (Within s) :=
  match letters, s with
  | [], s => .ok (.whole s)
  | _ :: _, [] => .error .endOfText
  | l :: letters, c :: rest =>
    if l = c then (word letters rest).map fun r => (r.behind c).within else .error .malformed

/-- Takes the digits at the front of a text, at least one. -/
def digits (cut : Fault) : TextReader (List Char)
  | [] => .error cut
  | c :: rest =>
    if c.isDigit then
      .ok (c :: rest.takeWhile Char.isDigit, (Within.dropWhile Char.isDigit rest).behind c)
    else .error .malformed

/-- Reads the digits before the point: a single zero, or digits that start with another one. -/
def wholeDigits (cut : Fault) : TextReader (List Char)
  | '0' :: c :: rest =>
    if c.isDigit then .error .malformed else .ok (['0'], .tail _ (c :: rest))
  | s => digits cut s

/-- Reads the sign and the digits of a power of ten. -/
def exponentDigits (cut : Fault) : TextReader Int
  | '+' :: rest =>
    (digits cut rest).map fun (ds, r) =>
      (Text.valueOf 10 ds, r.behind _)
  | '-' :: rest =>
    (digits cut rest).map fun (ds, r) =>
      (-Text.valueOf 10 ds, r.behind _)
  | s => (digits cut s).map fun (ds, r) => (Text.valueOf 10 ds, r)

/-- Reads a power of ten, if there is one. -/
def exponentPart (cut : Fault) (s : List Char) :
    Except Fault (Int × Within s) :=
  match s with
  | c :: rest =>
    if c = 'e' ∨ c = 'E' then
      (exponentDigits cut rest).map fun (n, r) => (n, (r.behind c).within)
    else .ok (0, .whole (c :: rest))
  | [] => .ok (0, .whole [])

/-- Reads the digits behind the point, if there is one. -/
def fractionPart (cut : Fault) (s : List Char) :
    Except Fault (List Char × Within s) :=
  match s with
  | '.' :: rest => (digits cut rest).map fun (ds, r) => (ds, (r.behind _).within)
  | s => .ok ([], .whole s)

/-- Reads a number without its sign. Where the text ends inside it, the fault is `cut`. -/
def unsigned (cut : Fault) : TextReader Magnitude := fun s =>
  match wholeDigits cut s with
  | .error f => .error f
  | .ok (whole, rest) =>
    match fractionPart cut rest.val with
    | .error f => .error f
    | .ok (fraction, more) =>
      match exponentPart cut more.val with
      | .error f => .error f
      | .ok (power, last) =>
        .ok (.ofDigits whole fraction power, (rest.extend more).extend last)

def numeral (cut : Fault) : TextReader Magnitude
  | '-' :: rest => (unsigned cut rest).map fun (m, r) => (m, r.behind _)
  | s => unsigned cut s

end CloudScope.Json
