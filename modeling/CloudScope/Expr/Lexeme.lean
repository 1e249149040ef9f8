import CloudScope.Expr.Basic
import CloudScope.Text.Blank

/-!
# Lexemes of scope expressions

Names, operators and parentheses with the byte offset at which each starts. Blanks separate and are
dropped. The first fault in the text wins: a character outside the alphabet, or one name too many.
-/

namespace CloudScope.Expr

/-- The most endpoints that one expression may name. -/
def maxEndpoints : Nat := 256

def maxNesting : Nat := 64

inductive Token where
  | name (text : String)
  | operator (op : Operator)
  | opening
  | closing
deriving DecidableEq, Repr

/-- How a message speaks of a token. -/
def Token.description : Token → String
  | .name text => "identifier `" ++ text ++ "`"
  | .operator op => "operator `" ++ op.symbol.toString ++ "`"
  | .opening => "`(`"
  | .closing => "`)`"

/-- A token and the byte offset of its first character. -/
structure Lexeme where
  token : Token
  offset : Nat
deriving DecidableEq, Repr

inductive Fault where
  | unexpectedCharacter (c : Char)
  | tooManyEndpoints
  | missingEndpoint
  | notAnEndpoint (found : Token)
  | nestedTooDeep
  | unclosed
  | notClosed (found : Token)
  | trailing (found : Token)
deriving DecidableEq, Repr

def Fault.message : Fault → String
  | .unexpectedCharacter c => "unexpected character `" ++ c.toString ++ "`"
  | .tooManyEndpoints => "more than " ++ toString maxEndpoints ++ " endpoints"
  | .missingEndpoint => "expected an endpoint, found end of expression"
  | .notAnEndpoint found => "expected an endpoint, found " ++ found.description
  | .nestedTooDeep => "parentheses nested deeper than " ++ toString maxNesting
  | .unclosed => "unclosed `(`"
  | .notClosed found => "expected `)`, found " ++ found.description
  | .trailing found => "unexpected " ++ found.description

/-- A fault and the byte offset at which it was found. -/
structure Misreading where
  offset : Nat
  fault : Fault
deriving DecidableEq, Repr

/-- Whether a character may stand in the name of an endpoint. -/
def isNameChar (c : Char) : Bool :=
  c.isAlphanum || c == '_' || c == '-' || c == '.' || c == ':'

/-- The token that a character is by itself. -/
def symbol? : Char → Option Token
  | '&' => some (.operator .and)
  | '|' => some (.operator .or)
  | '(' => some .opening
  | ')' => some .closing
  | _ => none

/-- Reads the lexemes of a text that starts at `offset`, after `named` names. A name is as long as
it can be, and all its characters are single bytes. -/
def lexFrom (offset named : Nat) : List Char → Except Misreading (List Lexeme)
  | [] => .ok []
  | c :: rest =>
    if Text.isBlank c then lexFrom (offset + c.utf8Size) named rest
    else
      match symbol? c with
      | some token => (lexFrom (offset + 1) named rest).map (⟨token, offset⟩ :: ·)
      | none =>
        if isNameChar c then
          if named = maxEndpoints then .error ⟨offset, .tooManyEndpoints⟩
          else
            let name := c :: rest.takeWhile isNameChar
            (lexFrom (offset + name.length) (named + 1) (rest.dropWhile isNameChar)).map
              (⟨.name (String.ofList name), offset⟩ :: ·)
        else .error ⟨offset, .unexpectedCharacter c⟩
termination_by s => s.length
decreasing_by
  · simp
  · simp
  · exact Nat.lt_succ_of_le (List.dropWhile_sublist _).length_le

def lex (s : List Char) : Except Misreading (List Lexeme) :=
  lexFrom 0 0 s

end CloudScope.Expr
