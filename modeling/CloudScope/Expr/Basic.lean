/-!
# Scope expressions

An expression names one endpoint, or joins two expressions by an operator. The written form puts
parentheses around every operator.
-/

namespace CloudScope

inductive Operator where
  | and
  | or
deriving DecidableEq, Repr

namespace Operator

def symbol : Operator → Char
  | .and => '&'
  | .or => '|'

/-- The operator of greater precedence binds tighter. -/
def precedence : Operator → Nat
  | .or => 1
  | .and => 2

end Operator

inductive Expr where
  | endpoint (name : String)
  | combine (op : Operator) (left right : Expr)
deriving DecidableEq, Repr

namespace Expr

/-- Whether the expression is a single endpoint. -/
def isEndpoint : Expr → Bool
  | endpoint _ => true
  | combine .. => false

/-- The endpoints from left to right, each as often as it is named. -/
def endpoints : Expr → List String
  | endpoint name => [name]
  | combine _ left right => left.endpoints ++ right.endpoints

/-- The height of the tree: 0 for an endpoint, one more than the higher side for an operator. -/
def height : Expr → Nat
  | endpoint _ => 0
  | combine _ left right => max left.height right.height + 1

def chars : Expr → List Char
  | endpoint name => name.toList
  | combine op left right =>
    '(' :: left.chars ++ ' ' :: op.symbol :: ' ' :: right.chars ++ [')']

def text (e : Expr) : String :=
  String.ofList e.chars

end Expr

end CloudScope
