import CloudScope.Catalog.Basic
import CloudScope.Error

/-!
# Endpoint listings

The text of a catalog is a JSON array of records. A record is an object with the fields
`Service Type`, `Region`, `URL` and, if there is one, `Interface`, among any others; or an array of
those values in that order. The text is read once from left to right, and the first fault wins:
a value of the wrong kind is found where it starts, a second field of one name at its name, and a
field that is missing where the record ends.
-/

namespace CloudScope.Catalog

open Json

inductive Column where
  | serviceType
  | region
  | url
  | interface
deriving DecidableEq, Repr

/-- The column that a field of a record fills. -/
def Column.ofName? : String → Option Column
  | "Service Type" => some .serviceType
  | "Region" => some .region
  | "URL" => some .url
  | "Interface" => some .interface
  | _ => none

/-- Why there cannot be a string or a list at the front of a text: a word or a number is read to its
end before its kind is held against it. -/
def misplaced (s : List Char) : Fault :=
  match s with
  | '[' :: _ | '{' :: _ => .shape
  | _ =>
    match value full 0 s with
    | .ok _ => .shape
    | .error f => f

def stringCell : TextReader String :=
  spaced fun
    | [] => .error .endOfText
    | '"' :: rest =>
      (stringTail unicodeEscape rest).map fun (cs, r) => (String.ofList cs, r.behind _)
    | s => .error (misplaced s)

def optionalCell : TextReader (Option String) :=
  spaced fun
    | 'n' :: rest =>
      (word ['u', 'l', 'l'] rest).map fun r => (none, r.behind _)
    | s => (stringCell s).map fun (cell, r) => (some cell, r)

/-- The cells of a record that were read so far. -/
abbrev Cells := List (Column × Option String)

/-- The service of a record, once all its cells are read. -/
def ofCells? (cells : Cells) : Option Service := do
  let serviceType ← (cells.lookup .serviceType).join
  let cloud ← (cells.lookup .region).join
  let url ← (cells.lookup .url).join
  return { serviceType, cloud, url, interface := (cells.lookup .interface).join }

/-- Reads a field of a record into its cell, or passes over it. -/
def recordField (cells : Cells) : TextReader Cells := fun s =>
  match fieldName unicodeEscape s with
  | .error f => .error f
  | .ok (name, rest) =>
    match Column.ofName? name with
    | none => (afterColon skipValue rest.val).map fun (_, last) => (cells, rest.trans last)
    | some column =>
      if (cells.lookup column).isSome then .error .shape
      else
        let cell : TextReader (Option String) :=
          match column with
          | .interface => optionalCell
          | _ => fun s => (stringCell s).map fun (cell, r) => (some cell, r)
        (afterColon cell rest.val).map fun (cell, last) =>
          ((column, cell) :: cells, rest.trans last)

/-- Reads a record that is an object, behind its opening brace. -/
def objectRecord : TextReader Service := fun s =>
  match fold '}' recordField true [] s with
  | .error f => .error f
  | .ok (cells, rest) =>
    match ofCells? cells with
    | some service => .ok (service, rest)
    | none => .error .shape

/-- Reads a cell that a record has to have at its place in an array. -/
def arrayCell (first : Bool) : TextReader String := fun s =>
  match next ']' first s with
  | .error f => .error f
  | .ok (.closed _) => .error .shape
  | .ok (.item front) => (stringCell front.val).map fun (cell, r) => (cell, front.trans r)

/-- Reads the bracket that closes an array. Nothing else may stand there. -/
def closingBracket : TextReader Unit :=
  spaced (mark ']')

/-- Reads the last cell of a record that is an array, which may be left out, and its end. -/
def lastCell : TextReader (Option String) := fun s =>
  match next ']' false s with
  | .error f => .error f
  | .ok (.closed rest) => .ok (none, rest)
  | .ok (.item front) =>
    match optionalCell front.val with
    | .error f => .error f
    | .ok (cell, rest) =>
      (closingBracket rest.val).map fun (_, last) =>
        (cell, front.trans (rest.trans last))

/-- Reads a record that is an array, behind its opening bracket. -/
def arrayRecord : TextReader Service := fun s =>
  match arrayCell true s with
  | .error f => .error f
  | .ok (serviceType, afterType) =>
    match arrayCell false afterType.val with
    | .error f => .error f
    | .ok (cloud, afterCloud) =>
      match arrayCell false afterCloud.val with
      | .error f => .error f
      | .ok (url, afterUrl) =>
        (lastCell afterUrl.val).map fun (interface, last) =>
          ({ serviceType, cloud, url, interface },
            ((afterType.trans afterCloud).trans afterUrl).trans last)

def record : TextReader Service :=
  spaced fun
    | [] => .error .endOfText
    | '{' :: rest => (objectRecord rest).map fun (service, r) => (service, r.behind _)
    | '[' :: rest => (arrayRecord rest).map fun (service, r) => (service, r.behind _)
    | s => .error (misplaced s)

def listing : TextReader (List Service) :=
  spaced fun
    | [] => .error .endOfText
    | '[' :: rest => (items ']' record true rest).map fun (services, r) =>
        (services, r.behind _)
    | s => .error (misplaced s)

def ofText (text : String) : Except Fault Catalog :=
  (complete listing text.toList).map Catalog.mk

/-- What is shown of a text that is no listing. -/
def textReport (fault : Fault) : Report :=
  Report.above ⟨fault.message, []⟩ "Failed to parse service catalog JSON"

end CloudScope.Catalog
