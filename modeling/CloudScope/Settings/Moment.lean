import CloudScope.Settings.Literal

/-!
# Dates and times of settings documents

A moment is a date, a time, or both with an offset or without. Its text separates date and time by
`T`, ends a fraction of a second after nine digits or before its last zeros, and has `Z` in upper
case and no negative offset of nothing.
-/

namespace CloudScope.Settings

def decimal (digits : List Char) : Nat :=
  digits.foldl (fun n d => n * 10 + (d.toNat - 48)) 0

/-- Reads `count` digits of a number between `low` and `high`. -/
def figures (count low high : Nat) : DocumentReader (List Char) := fun s =>
  let digits := s.take count
  if h : 0 < count ∧ count ≤ s.length ∧ digits.all Char.isDigit ∧
      low ≤ decimal digits ∧ decimal digits ≤ high then
    .ok (digits, ⟨s.drop count, by simp only [List.length_drop]; omega⟩)
  else .error .malformed

def oneOf (chars : List Char) : DocumentReader Char
  | [] => .error .malformed
  | c :: rest => if chars.contains c then .ok (c, .tail _ rest) else .error .malformed

def daysIn (year month : Nat) : Nat :=
  if month = 2 then
    if year % 4 = 0 ∧ (year % 100 ≠ 0 ∨ year % 400 = 0) then 29 else 28
  else if month = 4 ∨ month = 6 ∨ month = 9 ∨ month = 11 then 30
  else 31

def date : DocumentReader (List Char) :=
  (figures 4 0 9999).andThen fun year =>
    (mark '-').andThen fun () =>
      (figures 2 1 12).andThen fun month =>
        (mark '-').andThen fun () =>
          (figures 2 1 (daysIn (decimal year) (decimal month))).map fun day =>
            year ++ '-' :: month ++ '-' :: day

/-- Reads the fraction of a second, behind its point. -/
def fraction : DocumentReader (List Char)
  | [] => .error .malformed
  | c :: rest =>
    if c.isDigit then
      let digits := (c :: rest.takeWhile Char.isDigit).take 9
      .ok ((digits.reverse.dropWhile (· = '0')).reverse,
        (Within.dropWhile Char.isDigit rest).behind c)
    else .error .malformed

def hourAndMinute : DocumentReader (List Char) :=
  (figures 2 0 23).andThen fun hour =>
    (mark ':').andThen fun () =>
      (figures 2 0 59).map fun minute => hour ++ ':' :: minute

def time : DocumentReader (List Char) :=
  let seconds := (mark ':').andThen fun () => figures 2 0 60
  let perhapsFraction := seconds.andPerhaps ((mark '.').andThen fun () => fraction)
  hourAndMinute.andThen fun start =>
    perhapsFraction.map fun
      | (second, some (digit :: digits)) => start ++ ':' :: second ++ '.' :: digit :: digits
      | (second, _) => start ++ ':' :: second

/-- Reads an offset in hours and minutes, behind its sign. -/
def offsetBehind (sign : Char) : DocumentReader (List Char) :=
  hourAndMinute.map fun distance =>
    if distance = "00:00".toList then '+' :: distance else sign :: distance

def offset : DocumentReader (List Char) := fun s =>
  match oneOf ['Z', 'z'] s with
  | .ok (_, rest) => .ok (['Z'], rest)
  | .error _ => ((oneOf ['+', '-']).andThen offsetBehind) s

/-- Reads a moment, and gives its text. -/
def moment : DocumentReader (List Char) := fun s =>
  let behindDate := (oneOf ['T', 't', ' ']).andThen fun _ => time.andPerhaps offset
  match date.andPerhaps behindDate s with
  | .ok ((day, none), rest) => .ok (day, rest)
  | .ok ((day, some (clock, shift)), rest) => .ok (day ++ 'T' :: clock ++ shift.getD [], rest)
  | .error _ => time s

end CloudScope.Settings
