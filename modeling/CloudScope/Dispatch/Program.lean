import CloudScope.Dispatch.Action
import CloudScope.Expr.Basic

/-!
# Programs over the two sides of an operator

A program is a step-by-step account of what a combinator does with the sides of its operator: it
reads them, overwrites them, asks whether they are evaluated, judges values and acts on the session.
Each further step may depend on all answers before it. A program says nothing of how a side is
evaluated.
-/

namespace CloudScope

inductive Side where
  | left
  | right
deriving DecidableEq, Repr

/-- What stands at the root of an expression. -/
inductive Label where
  | endpoint (name : String)
  | operator (op : Operator)
deriving DecidableEq, Repr

/-- What stands at the root of an expression. -/
def Expr.label : Expr → Label
  | .endpoint name => .endpoint name
  | .combine op _ _ => .operator op

/-- A program that comes to an `α`, where values are of the type `τ` and errors of the type `ε`. -/
inductive Program (σ ε τ α : Type) where
  | done (result : α)
  /-- Reads a side, which is evaluated for that if it has no outcome. -/
  | read (side : Side) (next : Except ε (Option τ) → Program σ ε τ α)
  /-- Gives a side an outcome. -/
  | set (side : Side) (value : Option τ) (next : Program σ ε τ α)
  /-- Asks whether a side has an outcome. -/
  | isEvaluated (side : Side) (next : Bool → Program σ ε τ α)
  /-- Asks whether a value counts as true. -/
  | judge (value : Option τ) (next : Bool → Program σ ε τ α)
  /-- Changes the session, and goes on with what it was before. -/
  | act (change : Session σ → Session σ) (next : Session σ → Program σ ε τ α)

namespace Program

variable {σ ε τ α β : Type}

def bind : Program σ ε τ α → (α → Program σ ε τ β) → Program σ ε τ β
  | done result, f => f result
  | read side next, f => read side fun answer => (next answer).bind f
  | set side value next, f => set side value (next.bind f)
  | isEvaluated side next, f => isEvaluated side fun answer => (next answer).bind f
  | judge value next, f => judge value fun answer => (next answer).bind f
  | act change next, f => act change fun before => (next before).bind f

instance : Monad (Program σ ε τ) where
  pure := done
  bind := bind

end Program

abbrev Combination (σ ε τ : Type) := ExceptT ε (Program σ ε τ)

/-- Says what an operator makes of its sides, given what stands at their roots. -/
abbrev Combinator (σ ε τ : Type) := (left right : Label) → Combination σ ε τ (Option τ)

namespace Combination

variable {σ ε τ : Type}

def read (side : Side) : Combination σ ε τ (Option τ) :=
  .mk (.read side .done)

def set (side : Side) (value : Option τ) : Combination σ ε τ Unit :=
  .mk (.set side value (.done (.ok ())))

def isEvaluated (side : Side) : Combination σ ε τ Bool :=
  .mk (.isEvaluated side fun answer => .done (.ok answer))

def judge (value : Option τ) : Combination σ ε τ Bool :=
  .mk (.judge value fun answer => .done (.ok answer))

/-- Changes the session, and gives what it was before. -/
def act (change : Session σ → Session σ) : Combination σ ε τ (Session σ) :=
  .mk (.act change fun before => .done (.ok before))

/-- Moves the value of a side out. The side stays evaluated, without a value. -/
def take (side : Side) : Combination σ ε τ (Option τ) := do
  let value ← read side
  set side none
  return value

/-- Whether the value of a side counts as true. -/
def isTruthy (side : Side) : Combination σ ε τ Bool := do
  judge (← read side)

end Combination

end CloudScope
