import CloudScope.Proofs.Expr.Words

/-!
# The grammar of scope expressions

What tokens are an expression, and of which tree:

    expression := term ('|' term)*
    term       := primary ('&' primary)*
    primary    := NAME | '(' expression ')'

The sequences behind a first side are parts of their own. Such a part stands behind the tree of what
is to its left, so it makes both operators associate to the left.
-/

namespace CloudScope.Expr

inductive Part where
  | expression
  | term
  | primary
  /-- The terms behind `left`, each after a `|`. -/
  | terms (left : Expr)
  /-- The primaries behind `left`, each after a `&`. -/
  | primaries (left : Expr)

/-- Tokens are a part with a tree, where at most the given number of parentheses is open at a
time. -/
inductive Derives : Part → Nat → List Token → Expr → Prop where
  | expression {n ts us left e} :
    Derives .term n ts left → Derives (.terms left) n us e → Derives .expression n (ts ++ us) e
  | noTerm {n left} : Derives (.terms left) n [] left
  | moreTerms {n ts us left right e} :
    Derives .term n ts right → Derives (.terms (.combine .or left right)) n us e →
    Derives (.terms left) n (.operator .or :: (ts ++ us)) e
  | term {n ts us left e} :
    Derives .primary n ts left → Derives (.primaries left) n us e → Derives .term n (ts ++ us) e
  | noPrimary {n left} : Derives (.primaries left) n [] left
  | morePrimaries {n ts us left right e} :
    Derives .primary n ts right → Derives (.primaries (.combine .and left right)) n us e →
    Derives (.primaries left) n (.operator .and :: (ts ++ us)) e
  | name {n text} : Derives .primary n [.name text] (.endpoint text)
  | group {n ts e} :
    Derives .expression n ts e → Derives .primary (n + 1) (.opening :: ts ++ [.closing]) e

/-- The endpoints of what stands to the left of a part. -/
def Part.endpointsBefore : Part → List String
  | .expression | .term | .primary => []
  | .terms left | .primaries left => left.endpoints

/-- The endpoints of a tree are the names among its tokens, in their order. -/
theorem Derives.endpoints_eq {part : Part} {n : Nat} {ts : List Token} {e : Expr}
    (h : Derives part n ts e) :
    e.endpoints = part.endpointsBefore ++ ts.filterMap Token.name? := by
  induction h with
  | expression _ _ iht ihu | term _ _ iht ihu =>
    simp only [Part.endpointsBefore] at iht ihu ⊢
    rw [List.filterMap_append, ihu, iht, List.append_assoc]
  | moreTerms _ _ iht ihu | morePrimaries _ _ iht ihu =>
    simp only [Part.endpointsBefore, endpoints, List.nil_append] at iht ihu ⊢
    rw [ihu, iht, List.append_assoc, List.filterMap_cons_none rfl, List.filterMap_append]
  | noTerm | noPrimary => exact (List.append_nil _).symm
  | name => rfl
  | group _ ih =>
    rw [ih, List.cons_append, List.filterMap_cons_none rfl, List.filterMap_append]
    exact (List.append_nil _).symm

/-- The operators from left to right. -/
def operators : Expr → List Operator
  | .endpoint _ => []
  | .combine op left right => left.operators ++ op :: right.operators

/-- The operators of what stands to the left of a part. -/
def Part.operatorsBefore : Part → List Operator
  | .expression | .term | .primary => []
  | .terms left | .primaries left => left.operators

/-- The operators of a tree are those among its tokens, in their order. -/
theorem Derives.operators_eq {part : Part} {n : Nat} {ts : List Token} {e : Expr}
    (h : Derives part n ts e) :
    e.operators = part.operatorsBefore ++ ts.filterMap Token.operator? := by
  induction h with
  | expression _ _ iht ihu | term _ _ iht ihu =>
    simp only [Part.operatorsBefore] at iht ihu ⊢
    rw [List.filterMap_append, ihu, iht, List.append_assoc]
  | moreTerms _ _ iht ihu | morePrimaries _ _ iht ihu =>
    simp only [Part.operatorsBefore, operators, List.nil_append] at iht ihu ⊢
    rw [ihu, iht, List.append_assoc, List.cons_append, ← List.filterMap_append]
    rfl
  | noTerm | noPrimary => exact (List.append_nil _).symm
  | name => rfl
  | group _ ih =>
    rw [ih, List.cons_append, List.filterMap_cons_none rfl, List.filterMap_append]
    exact (List.append_nil _).symm

end CloudScope.Expr
