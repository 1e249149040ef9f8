import CloudScope.Dispatch.Program

/-!
# Combinators at hand

The first two choose one side and evaluate the right one only if the left one does not decide. The
others merge values, for calls whose results can be put together.
-/

namespace CloudScope.Combinator

open Combination

variable {σ ε τ υ : Type}

/-- Keeps the right value if both sides are true. The right side is left alone if the left one is
false. -/
def conjunction : Combinator σ ε τ := fun _ _ => do
  if ← isTruthy .left then
    if ← isTruthy .right then take .right else return none
  else return none

/-- Keeps the value of the first side that is true. The right side is left alone if the left one is
true. -/
def disjunction : Combinator σ ε τ := fun _ _ => do
  if ← isTruthy .left then take .left
  else if ← isTruthy .right then take .right
  else return none

/-- Merges two values if there are two, and else gives the one there is. -/
def mergePresent (merge : τ → τ → τ) : Option τ → Option τ → Option τ
  | some left, some right => some (merge left right)
  | some left, none => some left
  | none, right => right

/-- Merges the values of both sides, whatever they are. -/
def mergeAll (merge : τ → τ → τ) : Combinator σ ε τ := fun _ _ => do
  let left ← take .left
  let right ← take .right
  return mergePresent merge left right

/-- Merges the values of both sides if both are true. The right side is left alone if the left one
is false. -/
def mergeTruthy (merge : τ → τ → τ) : Combinator σ ε τ := fun left right => do
  if ← isTruthy .left then
    if ← isTruthy .right then mergeAll merge left right else return none
  else return none

/-- Puts the lists of both sides one after the other, whatever they are. -/
def concatenation : Combinator σ ε (List υ) :=
  mergeAll (· ++ ·)

end CloudScope.Combinator
