import CloudScope.Text.Digits
import CloudScope.Text.Parts

/-!
# Addresses of hosts

A host may be an address in numbers: four bytes, written as up to four numbers between dots, or eight
16-bit groups between colons.
-/

namespace CloudScope.Url

open Text

/-- The value of one part of a numeric address: decimal, octal behind a zero, or hexadecimal behind
a zero and an `x`. -/
def numericPart? (s : List Char) : Option Nat :=
  let (base, digits) : Nat × List Char :=
    match s with
    | '0' :: 'x' :: rest | '0' :: 'X' :: rest => (16, rest)
    | '0' :: c :: rest => (8, c :: rest)
    | _ => (10, s)
  if s.isEmpty then none
  else if areDigits base digits then some (valueOf base digits)
  else none

/-- The parts between the dots of a host that count: an empty one at the end does not. -/
def countedParts (parts : List (List Char)) : List (List Char) :=
  if 1 < parts.length ∧ parts.getLast? = some [] then parts.dropLast else parts

/-- Whether a host in parts has to be a numeric address: its last part is a number. -/
def endsInNumber (parts : List (List Char)) : Bool :=
  match (countedParts parts).getLast? with
  | none | some [] => false
  | some last => last.all Char.isDigit || (numericPart? last).isSome

/-- Whether the parts of a host are a numeric address of four bytes. The last part stands for all
the bytes that the others leave. -/
def isNumericAddress (parts : List (List Char)) : Bool :=
  match (countedParts parts).mapM numericPart? with
  | some numbers =>
    match numbers.getLast? with
    | some last =>
      numbers.length ≤ 4 && last < Nat.pow 256 (5 - numbers.length) && numbers.dropLast.all (· < 256)
    | none => false
  | none => false

/-- Whether a text is a byte in decimal, without zeros in front. -/
def isDecimalByte (s : List Char) : Bool :=
  match s with
  | [] => false
  | ['0'] => true
  | '0' :: _ => false
  | s => s.all Char.isDigit && s.length ≤ 3 && valueOf 10 s < 256

/-- The number of 16-bit groups that the parts between colons stand for, if they are such: each of
up to four hexadecimal digits, the last part perhaps four decimal bytes. -/
def groupCount? : List (List Char) → Option Nat
  | [] => some 0
  | [s] =>
    if s.contains '.' then
      let bytes := partsAt '.' s
      if bytes.length = 4 ∧ bytes.all isDecimalByte then some 2 else none
    else if !s.isEmpty && s.length ≤ 4 && areDigits 16 s then some 1
    else none
  | s :: rest =>
    if !s.isEmpty && s.length ≤ 4 && areDigits 16 s then (groupCount? rest).map (· + 1) else none

/-- The parts of a text around its first pair of colons. -/
def splitPair? : List Char → Option (List Char × List Char)
  | ':' :: ':' :: rest => some ([], rest)
  | [] => none
  | c :: rest => (splitPair? rest).map fun (before, after) => (c :: before, after)

/-- Whether a text is an address of eight 16-bit groups. A pair of colons stands for the groups that
are left out, one at least. -/
def isGroupAddress (s : List Char) : Bool :=
  let groups (side : List Char) : Option Nat :=
    if side.isEmpty then some 0 else groupCount? (partsAt ':' side)
  match splitPair? s with
  | some (before, after) =>
    match groups before, groups after with
    | some m, some n => !before.contains '.' && m + n ≤ 7
    | _, _ => false
  | none => groups s = some 8

/-- What stands between brackets, if a text starts with one; `none` if it does not end with one. -/
def bracketed? (host : List Char) : Option (Option (List Char)) :=
  match host with
  | '[' :: rest => some (if rest.getLast? = some ']' then some rest.dropLast else none)
  | _ => none

end CloudScope.Url
