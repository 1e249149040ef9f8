import CloudScope.Json.Lexeme

/-!
# Reading JSON

Reads RFC 8259 text: no comments, no trailing commas, no lone surrogates, no number beyond 64-bit
floating point, and at most `maxNesting` arrays and objects inside one another. The readers for the
items of arrays and objects are open to other uses.
-/

namespace CloudScope.Json

/-- The most arrays and objects that may be open at a time. -/
def maxNesting : Nat := 127

/-! ## Arrays and objects -/

/-- What comes next in a sequence of items. -/
inductive Next (s : List Char) where
  /-- The sequence is closed. -/
  | closed (rest : Rest s)
  /-- An item starts here. -/
  | item (front : Within s)

/-- Looks for the next item of a sequence that `close` closes; commas stand between the items, and
`first` tells whether none was read yet. -/
def next (close : Char) (first : Bool) (s : List Char) : Except Fault (Next s) :=
  match h : skipSpace s with
  | [] => .error .endOfText
  | c :: rest =>
    have hle : rest.length < s.length := by
      have := length_skipSpace_le s
      rw [h, List.length_cons] at this
      omega
    if c = close then .ok (.closed ⟨rest, hle⟩)
    else if first then .ok (.item ⟨c :: rest, hle⟩)
    else if c = ',' then
      match h : skipSpace rest with
      | [] => .error .endOfText
      | d :: more =>
        if d = close then .error .malformed
        else .ok (.item ⟨d :: more, by have := length_skipSpace_le rest; rw [h] at this; omega⟩)
    else .error .malformed

/-- Reads the items of a sequence one after the other, each together with what came of the ones
before it. -/
def fold {β : Type} (close : Char) (item : β → TextReader β) (first : Bool) (b : β)
    (s : List Char) : Except Fault (β × Rest s) :=
  match next close first s with
  | .error f => .error f
  | .ok (.closed rest) => .ok (b, rest)
  | .ok (.item front) =>
    match item b front.val with
    | .error f => .error f
    | .ok (b, after) =>
      match fold close item false b after.val with
      | .error f => .error f
      | .ok (b, last) => .ok (b, front.trans (after.trans last))
termination_by s.length
decreasing_by
  have := after.property; have := front.property
  omega

def items {β : Type} (close : Char) (item : TextReader β) (first : Bool) (s : List Char) :
    Except Fault (List β × Rest s) :=
  match next close first s with
  | .error f => .error f
  | .ok (.closed rest) => .ok ([], rest)
  | .ok (.item front) =>
    match item front.val with
    | .error f => .error f
    | .ok (b, after) =>
      match items close item false after.val with
      | .error f => .error f
      | .ok (bs, last) => .ok (b :: bs, front.trans (after.trans last))
termination_by s.length
decreasing_by
  have := after.property; have := front.property
  omega

def fieldName (unicode : TextReader Char) : TextReader String
  | [] => .error .endOfText
  | '"' :: rest =>
    (stringTail unicode rest).map fun (name, r) => (String.ofList name, r.behind _)
  | _ => .error .malformed

/-- Reads the colon behind the name of a field. -/
def colon : TextReader Unit :=
  spaced (mark ':')

/-- Reads a colon and a value behind it. -/
def afterColon {β : Type} (item : TextReader β) : TextReader β :=
  colon.andThen fun () => item

/-- Reads a name, a colon and a value. -/
def field {β : Type} (unicode : TextReader Char) (item : TextReader β) :
    TextReader (String × β) := fun s =>
  match fieldName unicode s with
  | .error f => .error f
  | .ok (name, rest) =>
    (afterColon item rest.val).map fun (b, last) => ((name, b), rest.trans last)

/-! ## Values -/

/-- How closely strings and numbers are looked at. -/
structure Care where
  /-- Reads what follows a backslash and the letter `u`. -/
  unicode : TextReader Char
  /-- Reads a number and gives its text. -/
  number : TextReader String

/-- What was taken off the front of a text. -/
def taken (s : List Char) (rest : Rest s) : String :=
  String.ofList (s.take (s.length - rest.val.length))

def full : Care where
  unicode := unicodeEscape
  number s :=
    match numeral .endOfText s with
    | .error f => .error f
    | .ok (m, rest) => if m.overflows then .error .malformed else .ok (taken s rest, rest)

/-- For values that are passed over: surrogates need no partner, numbers may have any size, and a
number that the end of the text cuts short is malformed. -/
def slight : Care where
  unicode s := (codeUnit s).map fun (_, rest) => ('\ufffd', rest)
  number s := (numeral .malformed s).map fun (_, rest) => (taken s rest, rest)

/-- Reads a value in which at most `nesting` further arrays and objects are open at a time. -/
def value (care : Care) (nesting : Nat) : TextReader Json :=
  spaced fun
    | [] => .error .endOfText
    | 'n' :: rest =>
      (word ['u', 'l', 'l'] rest).map fun r => (.null, r.behind _)
    | 't' :: rest =>
      (word ['r', 'u', 'e'] rest).map fun r => (.boolean true, r.behind _)
    | 'f' :: rest =>
      (word ['a', 'l', 's', 'e'] rest).map fun r => (.boolean false, r.behind _)
    | '"' :: rest =>
      (stringTail care.unicode rest).map fun (cs, r) =>
        (.string (String.ofList cs), r.behind _)
    | '[' :: rest =>
      match nesting with
      | 0 => .error .malformed
      | nesting + 1 =>
        (items ']' (value care nesting) true rest).map fun (bs, r) => (.array bs, r.behind _)
    | '{' :: rest =>
      match nesting with
      | 0 => .error .malformed
      | nesting + 1 =>
        (items '}' (field care.unicode (value care nesting)) true rest).map fun (bs, r) =>
          (ofFields bs, r.behind _)
    | c :: rest =>
      if c = '-' ∨ c.isDigit then
        (care.number (c :: rest)).map fun (literal, r) => (.number literal, r)
      else .error .malformed

/-- Passes over a value, however deep: each array or object takes a character of the text. -/
def skipValue : TextReader Unit := fun s =>
  (value slight s.length s).map fun (_, rest) => ((), rest)

/-- Nothing but spaces may follow what was read. -/
def complete {β : Type} (read : TextReader β) (s : List Char) : Except Fault β :=
  match read s with
  | .error f => .error f
  | .ok (b, rest) => if (skipSpace rest.val).isEmpty then .ok b else .error .malformed

/-- Reads a text that is one value and spaces around it. -/
def parse (text : String) : Except Fault Json :=
  complete (value full maxNesting) text.toList

end CloudScope.Json
