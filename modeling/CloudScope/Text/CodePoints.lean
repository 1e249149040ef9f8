import CloudScope.Text.Digits
import CloudScope.Text.Parts

/-!
# Tables of code points

A property of characters is written down as a table: words with blanks between them, each for a run
of code points in hexadecimal. `A0` stands for one of them, `C0-D6` for all from the first to the
last, and `100-12E/2` for every second one. Behind an equals sign may stand the code points that the
property gives to each of the run, with commas between them. Behind a greater-than sign stands the
one that it gives to the first of the run; those of the others keep the same distance.
-/

namespace CloudScope.Text

structure Run where
  first : Nat
  last : Nat
  step : Nat
deriving DecidableEq, Repr

namespace Run

/-- Whether a character is in a run. -/
def contains (r : Run) (c : Char) : Bool :=
  r.first ≤ c.toNat && c.toNat ≤ r.last && (c.toNat - r.first) % r.step = 0

/-- The run that a word stands for. -/
def ofWord (word : List Char) : Run :=
  match partsAt '-' word with
  | first :: rest :: _ =>
    match partsAt '/' rest with
    | last :: step :: _ => ⟨valueOf 16 first, valueOf 16 last, valueOf 16 step⟩
    | _ => ⟨valueOf 16 first, valueOf 16 rest, 1⟩
  | _ => ⟨valueOf 16 word, valueOf 16 word, 1⟩

end Run

def wordsOf (table : String) : List (List Char) :=
  (table.splitOn "\n").flatMap fun line => (partsAt ' ' line.toList).filter (!·.isEmpty)

/-- The runs of a table that gives nothing to its characters. -/
def runsOf (table : String) : List Run :=
  (wordsOf table).map Run.ofWord

/-- Whether a character is in one of the runs. -/
def isIn (runs : List Run) (c : Char) : Bool :=
  runs.any (·.contains c)

/-- A run, and what is given to its characters. -/
structure Row where
  run : Run
  values : List Nat
  /-- Whether the values are those of the first character, and others keep the distance. -/
  moves : Bool
deriving DecidableEq, Repr

namespace Row

/-- The row that a word stands for. -/
def ofWord (word : List Char) : Row :=
  match partsAt '=' word, partsAt '>' word with
  | run :: values :: _, _ => ⟨.ofWord run, (partsAt ',' values).map (valueOf 16), false⟩
  | _, run :: value :: _ => ⟨.ofWord run, [valueOf 16 value], true⟩
  | _, _ => ⟨.ofWord word, [], false⟩

/-- What is given to a character of the run. -/
def valuesAt (r : Row) (c : Char) : List Nat :=
  if r.moves then r.values.map (· + (c.toNat - r.run.first)) else r.values

end Row

def rowsOf (table : String) : List Row :=
  (wordsOf table).map Row.ofWord

/-- What a table gives to a character, if it is in one of the rows. -/
def values? (rows : List Row) (c : Char) : Option (List Nat) :=
  (rows.find? (·.run.contains c)).map (·.valuesAt c)

end CloudScope.Text
