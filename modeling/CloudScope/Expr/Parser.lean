import CloudScope.Expr.Lexeme
import CloudScope.Text.Reader
import CloudScope.Text.Utf8

/-!
# Reading scope expressions

The grammar is

    expr    := term ('|' term)*
    term    := primary ('&' primary)*
    primary := NAME | '(' expr ')'

so `&` binds tighter than `|`, and both associate to the left. The reader climbs precedences: an
expression of floor `p` is a primary and the operators of precedence at least `p` behind it. Nested
calls of `expression` are bounded by a budget, which the limit on parentheses keeps from running out.
-/

namespace CloudScope.Expr

/-- Why an expression could not be read. -/
structure ParseError where
  expression : String
  offset : Nat
  fault : Fault
deriving DecidableEq, Repr

inductive Stop where
  | misread (m : Misreading)
  /-- No further nested call was allowed. -/
  | exhausted
deriving DecidableEq, Repr

/-- Takes an expression off the front of the lexemes. -/
abbrev ExprReader := Reader Lexeme Stop Expr

/-- Reads the operators of precedence at least `floor` behind `left` together with their right
sides, which `operand` reads at the floor it is given. -/
def operands (operand : Nat → ExprReader) (floor : Nat) (left : Expr) (s : List Lexeme) :
    Except Stop (Expr × Within s) :=
  match s with
  | ⟨.operator op, offset⟩ :: rest =>
    if op.precedence < floor then
      .ok (left, .whole (⟨.operator op, offset⟩ :: rest))
    else
      match operand (op.precedence + 1) rest with
      | .error stop => .error stop
      | .ok (right, after) =>
        (operands operand floor (.combine op left right) after.val).map fun (e, last) =>
          (e, ((after.extend last).behind _).within)
  | rest => .ok (left, .whole rest)
termination_by s.length
decreasing_by
  have := after.property
  simp only [List.length_cons]
  omega

/-- Reads a closing parenthesis, where the text ends at the offset `stop`. -/
def closing (stop : Nat) : Reader Lexeme Stop Unit
  | [] => .error (.misread ⟨stop, .unclosed⟩)
  | ⟨.closing, _⟩ :: rest => .ok ((), .tail _ rest)
  | ⟨found, offset⟩ :: _ => .error (.misread ⟨offset, .notClosed found⟩)

/-- Reads a name, or an expression in parentheses with `inner`, where `nesting` parentheses are
open and the text ends at the offset `stop`. -/
def primary (stop nesting : Nat) (inner : ExprReader) : ExprReader
  | [] => .error (.misread ⟨stop, .missingEndpoint⟩)
  | ⟨.name text, _⟩ :: rest => .ok (.endpoint text, .tail _ rest)
  | ⟨.opening, offset⟩ :: rest =>
    if nesting = maxNesting then .error (.misread ⟨offset, .nestedTooDeep⟩)
    else
      match inner rest with
      | .error e => .error e
      | .ok (e, after) =>
        (closing stop after.val).map fun ((), last) => (e, (after.trans last).behind _)
  | ⟨found, offset⟩ :: _ => .error (.misread ⟨offset, .notAnEndpoint found⟩)

/-- Reads an expression of the given floor where `nesting` parentheses are open, with at most
`budget` calls of itself open at a time. -/
def expression (stop : Nat) : (budget nesting floor : Nat) → ExprReader
  | 0, _, _, _ => .error .exhausted
  | budget + 1, nesting, floor, s =>
    match primary stop nesting (expression stop budget (nesting + 1) 0) s with
    | .error e => .error e
    | .ok (left, rest) =>
      match operands (expression stop budget nesting) floor left rest.val with
      | .error e => .error e
      | .ok (e, last) => .ok (e, rest.extend last)

/-- Nested calls of `expression` that any text can lead to: three on each level of parentheses. -/
def maxCalls : Nat := 3 * (maxNesting + 1)

/-- Reads lexemes that are one expression, of a text with `stop` bytes. -/
def ofLexemes (stop : Nat) (s : List Lexeme) : Except Stop Expr :=
  match expression stop maxCalls 0 0 s with
  | .error e => .error e
  | .ok (e, ⟨[], _⟩) => .ok e
  | .ok (_, ⟨⟨found, offset⟩ :: _, _⟩) => .error (.misread ⟨offset, .trailing found⟩)

def parse (expression : String) : Except ParseError Expr :=
  let chars := expression.toList
  match lex chars with
  | .error m => .error ⟨expression, m.offset, m.fault⟩
  | .ok lexemes =>
    match ofLexemes (Utf8.size chars) lexemes with
    | .ok e => .ok e
    | .error (.misread m) => .error ⟨expression, m.offset, m.fault⟩
    | .error .exhausted => .error ⟨expression, Utf8.size chars, .nestedTooDeep⟩

end CloudScope.Expr
