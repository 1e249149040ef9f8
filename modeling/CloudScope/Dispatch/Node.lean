import CloudScope.Dispatch.Program

/-!
# Evaluation with memory

Each node of an expression remembers its outcome, so that it is evaluated when it is first read, and
not again. Evaluating an endpoint runs its leaf; evaluating an operator runs the program of its
combinator, which reads the sides. A node whose evaluation fails has no outcome, but the nodes below
it keep theirs.
-/

namespace CloudScope

/-- An expression in the course of its evaluation. The outcome of a node is `none` before it has
one, and `some none` if it is to have no value. -/
inductive Node (τ : Type) : Expr → Type where
  | endpoint {name : String} (outcome : Option (Option τ)) : Node τ (.endpoint name)
  | combine {op : Operator} {l r : Expr} (outcome : Option (Option τ))
      (left : Node τ l) (right : Node τ r) : Node τ (.combine op l r)

namespace Node

variable {τ : Type}

def fresh : (e : Expr) → Node τ e
  | .endpoint _ => .endpoint none
  | .combine _ l r => .combine none (fresh l) (fresh r)

def outcome {e : Expr} : Node τ e → Option (Option τ)
  | .endpoint outcome => outcome
  | .combine outcome _ _ => outcome

def set {e : Expr} (value : Option τ) : Node τ e → Node τ e
  | .endpoint _ => .endpoint (some value)
  | .combine _ left right => .combine (some value) left right

end Node

/-- What evaluation does at the nodes of an expression. A node is told its place, the sides that
lead to it from the root, which tells endpoints of one name apart. -/
structure Evaluator (σ ε τ : Type) where
  /-- Runs the leaf of an endpoint. -/
  leaf : (place : List Side) → (endpoint : String) → Action σ ε τ
  /-- The combinator of an operator. -/
  combine : (place : List Side) → Operator → Combinator σ ε τ
  /-- Whether a value counts as true. -/
  isTruthy : Option τ → StateM σ Bool

/-- Reads a node: gives its value, evaluated or remembered, and what becomes of the node and the
session. -/
abbrev Reading (σ ε τ : Type) (e : Expr) :=
  Node τ e → Session σ → Except ε (Option τ) × Node τ e × Session σ

variable {σ ε τ α : Type}

def Session.judge (s : Session σ) (isTruthy : Option τ → StateM σ Bool) (value : Option τ) :
    Bool × Session σ :=
  let (answer, shared) := isTruthy value s.shared
  (answer, { s with shared })

/-- Runs a program on two nodes, which are read as given. -/
def Program.run {l r : Expr} (isTruthy : Option τ → StateM σ Bool)
    (readLeft : Reading σ ε τ l) (readRight : Reading σ ε τ r) :
    Program σ ε τ α → Node τ l → Node τ r → Session σ → α × (Node τ l × Node τ r) × Session σ
  | .done result, left, right, s => (result, (left, right), s)
  | .read .left next, left, right, s =>
    let (answer, left, s) := readLeft left s
    run isTruthy readLeft readRight (next answer) left right s
  | .read .right next, left, right, s =>
    let (answer, right, s) := readRight right s
    run isTruthy readLeft readRight (next answer) left right s
  | .set .left value next, left, right, s =>
    run isTruthy readLeft readRight next (left.set value) right s
  | .set .right value next, left, right, s =>
    run isTruthy readLeft readRight next left (right.set value) s
  | .isEvaluated .left next, left, right, s =>
    run isTruthy readLeft readRight (next left.outcome.isSome) left right s
  | .isEvaluated .right next, left, right, s =>
    run isTruthy readLeft readRight (next right.outcome.isSome) left right s
  | .judge value next, left, right, s =>
    let (answer, s) := s.judge isTruthy value
    run isTruthy readLeft readRight (next answer) left right s
  | .act change next, left, right, s =>
    run isTruthy readLeft readRight (next s) left right (change s)

namespace Evaluator

/-- Reads the node of an expression at a place. -/
def read (ev : Evaluator σ ε τ) : (e : Expr) → (place : List Side) → Reading σ ε τ e
  | .endpoint _, _, .endpoint (some value), s => (.ok value, .endpoint (some value), s)
  | .endpoint name, place, .endpoint none, s =>
    match ev.leaf place name s with
    | (.ok value, s) => (.ok (some value), .endpoint (some (some value)), s)
    | (.error e, s) => (.error e, .endpoint none, s)
  | .combine .., _, .combine (some value) left right, s =>
    (.ok value, .combine (some value) left right, s)
  | .combine op l r, place, .combine none left right, s =>
    let program := (ev.combine place op l.label r.label).run
    match program.run ev.isTruthy (read ev l (place ++ [.left])) (read ev r (place ++ [.right]))
      left right s with
    | (.ok value, (left, right), s) => (.ok value, .combine (some value) left right, s)
    | (.error e, (left, right), s) => (.error e, .combine none left right, s)

/-- Evaluates an expression and keeps its value if it counts as true. -/
def evaluate (ev : Evaluator σ ε τ) (e : Expr) : Action σ ε (Option τ) := fun s =>
  match ev.read e [] (.fresh e) s with
  | (.error e, _, s) => (.error e, s)
  | (.ok value, _, s) =>
    let (answer, s) := s.judge ev.isTruthy value
    (.ok (if answer then value else none), s)

end Evaluator

end CloudScope
