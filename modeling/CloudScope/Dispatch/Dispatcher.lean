import CloudScope.Dispatch.Combinators
import CloudScope.Dispatch.Node
import CloudScope.Expr.Parser

/-!
# Dispatchers

A dispatcher makes one logical call into calls on several clouds: it runs its leaf for the endpoints
of a scope expression, each inside a frame that names the endpoint, and folds what comes back by the
operators of the expression.
-/

namespace CloudScope

/-- How a call with arguments of the type `α` is dispatched. -/
structure Dispatcher (σ ε α τ : Type) where
  /-- How a scope error is told to the caller. -/
  ofScopeError : ScopeError → ε
  /-- The call on one cloud. -/
  leaf : α → Action σ ε τ
  /-- Finds the service type and the expression of a call; one without a scope has none. -/
  extract : Option (α → Action σ ε (Option (String × String))) := none
  /-- Adapts the arguments to an endpoint. -/
  transform : (endpoint : String) → α → Action σ ε α := fun _ args => pure args
  /-- What `&` makes of its sides. -/
  conjunction : Combinator σ ε τ := .conjunction
  /-- What `|` makes of its sides. -/
  disjunction : Combinator σ ε τ := .disjunction
  /-- Whether a value counts as true. -/
  isTruthy : Option τ → StateM σ Bool := fun value => pure value.isSome

namespace Dispatcher

variable {σ ε α τ : Type}

/-- Runs the leaf for an endpoint, inside its frame and on the arguments adapted to it. -/
def runLeaf (d : Dispatcher σ ε α τ) (serviceType : String) (args : α) (endpoint : String) :
    Action σ ε τ :=
  .inFrame d.ofScopeError serviceType endpoint do
    d.leaf (← d.transform endpoint args)

def combinator (d : Dispatcher σ ε α τ) : Operator → Combinator σ ε τ
  | .and => d.conjunction
  | .or => d.disjunction

/-- The evaluation of an expression for a call. -/
def evaluator (d : Dispatcher σ ε α τ) (serviceType : String) (args : α) : Evaluator σ ε τ where
  leaf _ endpoint := d.runLeaf serviceType args endpoint
  combine _ op := d.combinator op
  isTruthy := d.isTruthy

/-- Dispatches a call over the endpoints of an expression. Nothing runs if it cannot be read. -/
def dispatch (d : Dispatcher σ ε α τ) (serviceType expression : String) (args : α) :
    Action σ ε (Option τ) :=
  match Expr.parse expression with
  | .error e => throw (d.ofScopeError (.parse e))
  | .ok e => (d.evaluator serviceType args).evaluate e

/-- Dispatches a call over the scope found in its arguments. A call without a scope runs the leaf
once, as it is and outside any frame. -/
def call (d : Dispatcher σ ε α τ) (args : α) : Action σ ε (Option τ) := do
  let some extract := d.extract | throw (d.ofScopeError .missingScopeExtractor)
  match ← extract args with
  | some (serviceType, expression) => d.dispatch serviceType expression args
  | none => some <$> d.leaf args

end Dispatcher

end CloudScope
