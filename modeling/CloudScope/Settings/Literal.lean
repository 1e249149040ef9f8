import CloudScope.Text.Reader
import CloudScope.Text.Digits

/-!
# Spaces and strings of settings documents

A string stands between quotes on one line or between triple quotes over lines. Double quotes allow
escapes, single quotes do not.
-/

namespace CloudScope.Settings

/-- Why a document cannot be read: it is no TOML, or not of the shape of settings. -/
inductive Fault where
  | malformed
deriving DecidableEq, Repr

/-- The tag by which a message names a fault. -/
def Fault.message : Fault → String
  | .malformed => "<toml>"

/-- Takes a `β` off the front of a document. -/
abbrev DocumentReader (β : Type) := Reader Char Fault β

/-! ## Spaces and lines -/

/-- Whether a character is a space inside a line. -/
def isGap (c : Char) : Bool :=
  c == ' ' || c == '\t'

/-- The text without the spaces at its front. -/
def skipGap (s : List Char) : List Char :=
  s.dropWhile isGap

theorem length_skipGap_le (s : List Char) : (skipGap s).length ≤ s.length :=
  (List.dropWhile_sublist _).length_le

/-- A reader that passes over the spaces in front. -/
def gapped {β : Type} (read : DocumentReader β) : DocumentReader β := fun s =>
  (read (skipGap s)).map fun (b, rest) => (b, rest.widen (length_skipGap_le s))

/-- Whether a character may stand in a comment, or for itself in a string: no control characters
but the tab. -/
def isPlain (c : Char) : Bool :=
  c == '\t' || (0x20 ≤ c.toNat && c != '\x7f')

/-- What follows the line break at the front of a text, if there is one. -/
def lineBreak? : List Char → Option (List Char)
  | '\n' :: rest => some rest
  | '\r' :: '\n' :: rest => some rest
  | _ => none

theorem length_lt_of_lineBreak? {s r : List Char} (h : lineBreak? s = some r) :
    r.length < s.length := by
  unfold lineBreak? at h
  split at h
  · cases h
    exact Nat.lt_succ_self _
  · cases h
    exact Nat.lt_succ_of_lt (Nat.lt_succ_self _)
  · cases h

/-- The text without the spaces and line breaks at its front. -/
def skipGapsAndBreaks : List Char → List Char
  | ' ' :: rest | '\t' :: rest | '\n' :: rest => skipGapsAndBreaks rest
  | '\r' :: '\n' :: rest => skipGapsAndBreaks rest
  | s => s

theorem length_skipGapsAndBreaks_le (s : List Char) :
    (skipGapsAndBreaks s).length ≤ s.length := by
  fun_induction skipGapsAndBreaks s <;> grind

/-- Reads a character, a word or another single thing in front. -/
def mark (c : Char) : DocumentReader Unit
  | [] => .error .malformed
  | d :: rest => if d = c then .ok ((), .tail _ rest) else .error .malformed

/-! ## Strings -/

/-- Reads `count` hexadecimal digits behind the value `n`. -/
def hexDigits (n : Nat) : (count : Nat) → (s : List Char) → Except Fault (Nat × Within s)
  | 0, s => .ok (n, .whole s)
  | _ + 1, [] => .error .malformed
  | count + 1, c :: rest =>
    match Text.hexDigit? c with
    | none => .error .malformed
    | some d =>
      (hexDigits (n * 16 + d) count rest).map fun (n, r) => (n, (r.behind c).within)

/-- Reads the digits of a code point, which has to be that of a character. -/
def codePoint (count : Nat) (s : List Char) :
    Except Fault (Char × Within s) :=
  match hexDigits 0 count s with
  | .error f => .error f
  | .ok (n, rest) => if n.isValidChar then .ok (Char.ofNat n, rest) else .error .malformed

def escaped : DocumentReader Char
  | [] => .error .malformed
  | c :: rest =>
    match c with
    | 'b' => .ok ('\x08', .tail _ rest)
    | 't' => .ok ('\t', .tail _ rest)
    | 'n' => .ok ('\n', .tail _ rest)
    | 'f' => .ok ('\x0c', .tail _ rest)
    | 'r' => .ok ('\r', .tail _ rest)
    | '"' => .ok ('"', .tail _ rest)
    | '\\' => .ok ('\\', .tail _ rest)
    | 'u' => (codePoint 4 rest).map fun (c, r) => (c, r.behind _)
    | 'U' => (codePoint 8 rest).map fun (c, r) => (c, r.behind _)
    | _ => .error .malformed

inductive Piece where
  | chars (cs : List Char)
  /-- The end of the string, and what stands before it. -/
  | last (cs : List Char)

/-- Reads the pieces of a string up to its end. -/
def pieces (piece : DocumentReader Piece) (s : List Char) :
    Except Fault (List Char × Rest s) :=
  match piece s with
  | .error f => .error f
  | .ok (.last cs, rest) => .ok (cs, rest)
  | .ok (.chars cs, rest) =>
    match pieces piece rest.val with
    | .error f => .error f
    | .ok (more, last) => .ok (cs ++ more, rest.trans last)
termination_by s.length
decreasing_by exact rest.property

/-- Reads a piece of a string between quotes on one line; escapes count if `escapes` says so. -/
def linePiece (quote : Char) (escapes : Bool) : DocumentReader Piece
  | [] => .error .malformed
  | c :: rest =>
    if c = quote then .ok (.last [], .tail _ rest)
    else if escapes ∧ c = '\\' then
      (escaped rest).map fun (c, r) => (.chars [c], r.behind _)
    else if isPlain c then .ok (.chars [c], .tail _ rest)
    else .error .malformed

/-- Reads the end of a string between triple quotes, with up to two quotes before it. -/
def tripleEnd? (quote : Char) (s : List Char) : Option (List Char × Rest s) :=
  let count := (s.takeWhile (· = quote)).length
  if count < 3 then none
  else
    let taken := min count 5
    if h : taken ≤ s.length ∧ 0 < taken then
      some (List.replicate (taken - 3) quote, ⟨s.drop taken, by simp only [List.length_drop]; omega⟩)
    else none

/-- Reads a piece of a string between triple quotes, over lines; escapes count if `escapes` says so,
and a backslash at the end of a line takes the spaces and lines behind it away. -/
def blockPiece (quote : Char) (escapes : Bool) : DocumentReader Piece := fun s =>
  match tripleEnd? quote s with
  | some (cs, rest) => .ok (.last cs, rest)
  | none =>
    match h : lineBreak? s with
    | some rest => .ok (.chars ['\n'], ⟨rest, length_lt_of_lineBreak? h⟩)
    | none =>
      match s with
      | [] => .error .malformed
      | c :: rest =>
        if escapes ∧ c = '\\' then
          if (lineBreak? (skipGap rest)).isSome then
            .ok (.chars [], ⟨skipGapsAndBreaks rest,
              Nat.lt_succ_of_le (length_skipGapsAndBreaks_le rest)⟩)
          else (escaped rest).map fun (c, r) => (.chars [c], r.behind _)
        else if isPlain c then .ok (.chars [c], .tail _ rest)
        else .error .malformed

/-- The text without the line break at its front. -/
def skipBreak (s : List Char) : List Char :=
  (lineBreak? s).getD s

theorem length_skipBreak_le (s : List Char) : (skipBreak s).length ≤ s.length := by
  unfold skipBreak
  cases h : lineBreak? s with
  | none => exact Nat.le_refl _
  | some r => exact Nat.le_of_lt (length_lt_of_lineBreak? h)

/-- Reads a string on one line, behind its opening quote. -/
def lineString (quote : Char) : DocumentReader String := fun s =>
  (pieces (linePiece quote (quote = '"')) s).map fun (cs, r) => (String.ofList cs, r)

/-- Reads a string over lines, behind its opening quotes. A line break right behind them is no part
of it. -/
def blockString (quote : Char) : DocumentReader String := fun s =>
  (pieces (blockPiece quote (quote = '"')) (skipBreak s)).map fun (cs, r) =>
    (String.ofList cs, r.widen (length_skipBreak_le s))

def string : DocumentReader String
  | '"' :: '"' :: '"' :: rest =>
    (blockString '"' rest).map fun (t, r) => (t, ((r.behind _).behind _).behind _)
  | '\'' :: '\'' :: '\'' :: rest =>
    (blockString '\'' rest).map fun (t, r) => (t, ((r.behind _).behind _).behind _)
  | '"' :: rest => (lineString '"' rest).map fun (t, r) => (t, r.behind _)
  | '\'' :: rest => (lineString '\'' rest).map fun (t, r) => (t, r.behind _)
  | _ => .error .malformed

end CloudScope.Settings
