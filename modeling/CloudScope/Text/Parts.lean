/-!
# Parts of a text

A text as the parts between the occurrences of a character. There is always a part, and a part may
be empty.
-/

namespace CloudScope.Text

/-- The parts of a text between the occurrences of `separator`. -/
def partsAt (separator : Char) : List Char → List (List Char)
  | [] => [[]]
  | c :: rest =>
    if c = separator then [] :: partsAt separator rest
    else
      match partsAt separator rest with
      | [] => [[c]]
      | part :: parts => (c :: part) :: parts

end CloudScope.Text
