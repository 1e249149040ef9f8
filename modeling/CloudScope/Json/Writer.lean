import CloudScope.Json.Basic

/-!
# Writing JSON

Strings have one written form: quotes, backslashes and the characters below 0x20 are escaped, with
a letter where there is one, and all others stand for themselves. Objects of strings are written
without spaces; other values are laid out over lines, two spaces to a level.
-/

namespace CloudScope.Json

/-- The lower-case digit of a number below 16. -/
def hexDigit (n : Nat) : Char :=
  if n < 10 then Char.ofNat (48 + n) else Char.ofNat (87 + n)

/-- The written form of a character inside a string. -/
def escape (c : Char) : List Char :=
  if c = '"' then ['\\', '"']
  else if c = '\\' then ['\\', '\\']
  else if c = '\x08' then ['\\', 'b']
  else if c = '\x0c' then ['\\', 'f']
  else if c = '\n' then ['\\', 'n']
  else if c = '\r' then ['\\', 'r']
  else if c = '\t' then ['\\', 't']
  else if c.toNat < 0x20 then ['\\', 'u', '0', '0', hexDigit (c.toNat / 16), hexDigit (c.toNat % 16)]
  else [c]

def quoted (s : String) : List Char :=
  '"' :: s.toList.flatMap escape ++ ['"']

/-- The written form of a field that holds a string. -/
def quotedField (e : String × String) : List Char :=
  quoted e.1 ++ ':' :: quoted e.2

/-- The written form of an object of strings, without spaces. -/
def compact (fields : List (String × String)) : List Char :=
  '{' :: [','].intercalate (fields.map quotedField) ++ ['}']

/-- A new line and the spaces of a level. -/
def newLine (level : Nat) : String :=
  "\n" ++ String.ofList (List.replicate (2 * level) ' ')

/-- Joins the parts of an array or object, one to a line. -/
def block (opening closing : String) (level : Nat) (parts : List String) : String :=
  if parts.isEmpty then opening ++ closing
  else
    opening ++ newLine (level + 1) ++ ("," ++ newLine (level + 1)).intercalate parts ++
      newLine level ++ closing

mutual

/-- The layout of a value over lines, inside `level` arrays and objects. -/
def layout (level : Nat) : Json → String
  | .null => "null"
  | .boolean true => "true"
  | .boolean false => "false"
  | .number literal => literal
  | .string value => String.ofList (quoted value)
  | .array parts => block "[" "]" level (layoutItems (level + 1) parts)
  | .object parts => block "\x7b" "\x7d" level (layoutFields (level + 1) parts)

/-- The layouts of the items of an array. -/
def layoutItems (level : Nat) : List Json → List String
  | [] => []
  | j :: rest => layout level j :: layoutItems level rest

/-- The layouts of the fields of an object. -/
def layoutFields (level : Nat) : List (String × Json) → List String
  | [] => []
  | (name, j) :: rest =>
    (String.ofList (quoted name) ++ ": " ++ layout level j) :: layoutFields level rest

end

/-- The layout of a value over lines. -/
def pretty (j : Json) : String :=
  layout 0 j

end CloudScope.Json
