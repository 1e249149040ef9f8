import CloudScope.Proofs.Dispatch.Trace
import CloudScope.Proofs.Expr.Calls
import CloudScope.Proofs.Expr.Printing

/-!
# The depth of recursions

An expression is less high than it has endpoints. A recursion over it, such as the one that makes
its text, the one that makes the nodes of a dispatch and the one that evaluates them, has no more
calls open at a time than it is high, and one for its root. So the limits on endpoints and
parentheses bound the recursions over texts and over their expressions (`Expr.within_limits`).
-/

namespace CloudScope

variable {σ ε τ : Type}

namespace Expr

/-! ## Heights -/

theorem length_endpoints_pos (e : Expr) : 0 < e.endpoints.length := by
  cases e with
  | endpoint name => exact Nat.one_pos
  | combine op left right =>
    rw [endpoints, List.length_append]
    exact Nat.add_pos_left left.length_endpoints_pos _

theorem height_lt_length_endpoints (e : Expr) : e.height < e.endpoints.length := by
  induction e with
  | endpoint name => exact Nat.one_pos
  | combine op left right ihl ihr =>
    have hleft := left.length_endpoints_pos
    have hright := right.length_endpoints_pos
    rw [height, endpoints, List.length_append]
    omega

/-! ## Recursions -/

/-- A recursion over expressions: what it makes of an endpoint, and of an operator from what it made
of the sides. -/
structure Recursion (β : Expr → Type) where
  endpoint (name : String) : β (.endpoint name)
  combine (op : Operator) {left right : Expr} : β left → β right → β (.combine op left right)

namespace Recursion

variable {β : Expr → Type} (f : Recursion β) (beyond : (e : Expr) → β e)

def run : (e : Expr) → β e
  | .endpoint name => f.endpoint name
  | .combine op left right => f.combine op (run left) (run right)

/-- What a recursion comes to if at most `calls` of its calls may be open at a time, and one too
many comes to anything. -/
def runWithin : (calls : Nat) → (e : Expr) → β e
  | 0, e => beyond e
  | _ + 1, .endpoint name => f.endpoint name
  | calls + 1, .combine op left right =>
    f.combine op (runWithin calls left) (runWithin calls right)

theorem runWithin_of_height_lt {calls : Nat} {e : Expr} (h : e.height < calls) :
    f.runWithin beyond calls e = f.run e := by
  induction e generalizing calls with
  | endpoint name =>
    cases calls with
    | zero => cases h
    | succ calls => rfl
  | combine op left right ihl ihr =>
    cases calls with
    | zero => cases h
    | succ calls =>
      have hheight : max left.height right.height < calls := Nat.lt_of_succ_lt_succ h
      rw [runWithin, run, ihl (Nat.lt_of_le_of_lt (Nat.le_max_left _ _) hheight),
        ihr (Nat.lt_of_le_of_lt (Nat.le_max_right _ _) hheight)]

end Recursion

/-! ## What is made of expressions -/

/-- The recursion that writes an expression. -/
def printing : Recursion fun _ => List Char where
  endpoint name := name.toList
  combine op _ _ left right := '(' :: left ++ ' ' :: op.symbol :: ' ' :: right ++ [')']

theorem run_printing (e : Expr) : printing.run e = e.chars := by
  induction e with
  | endpoint name => rfl
  | combine op left right ihl ihr =>
    rw [Recursion.run, ihl, ihr]
    rfl

/-- If the calls are too few, a text in which they come to too much is longer. -/
theorem length_chars_le_runWithin (e : Expr) (calls : Nat) :
    let written := printing.runWithin (fun e => '(' :: e.chars) calls e
    e.chars.length ≤ written.length ∧ (calls ≤ e.height → e.chars.length < written.length) := by
  induction e generalizing calls with
  | endpoint name =>
    cases calls with
    | zero => exact ⟨Nat.le_succ _, fun _ => Nat.lt_succ_self _⟩
    | succ calls => exact ⟨Nat.le_refl _, fun h => absurd h (Nat.not_succ_le_zero calls)⟩
  | combine op left right ihl ihr =>
    cases calls with
    | zero => exact ⟨Nat.le_succ _, fun _ => Nat.lt_succ_self _⟩
    | succ calls =>
      obtain ⟨hleft, hleftLow⟩ := ihl calls
      obtain ⟨hright, hrightLow⟩ := ihr calls
      simp only [Recursion.runWithin, printing, chars, height, List.length_append, List.length_cons,
        List.length_nil] at *
      refine ⟨by omega, fun h => ?_⟩
      rcases le_max_iff.mp (Nat.le_of_succ_le_succ h) with hlow | hlow
      · have := hleftLow hlow
        omega
      · have := hrightLow hlow
        omega

/-- An expression is written with as many calls open at a time as it is high, and one more. -/
theorem forall_runWithin_printing_iff {e : Expr} {calls : Nat} :
    (∀ beyond, printing.runWithin beyond calls e = e.chars) ↔ e.height < calls := by
  constructor
  · intro h
    by_contra hlow
    have hlt := (length_chars_le_runWithin e calls).2 (Nat.le_of_not_lt hlow)
    rw [h] at hlt
    exact Nat.lt_irrefl _ hlt
  · intro h beyond
    rw [Recursion.runWithin_of_height_lt _ _ h, run_printing]

end Expr

/-- The recursion that makes the nodes of an expression. -/
def Node.building (τ : Type) : Expr.Recursion (Node τ) where
  endpoint _ := .endpoint none
  combine _ _ _ left right := .combine none left right

theorem Node.run_building (e : Expr) : (Node.building τ).run e = Node.fresh e := by
  induction e with
  | endpoint name => rfl
  | combine op left right ihl ihr =>
    rw [Expr.Recursion.run, ihl, ihr]
    rfl

namespace Evaluator

/-- The recursion that reads the node of an expression at a place. -/
def reading (ev : Evaluator σ ε τ) : Expr.Recursion fun e => List Side → Reading σ ε τ e where
  endpoint name := ev.read (.endpoint name)
  combine op l r readLeft readRight place
    | .combine (some value) left right, s => (.ok value, .combine (some value) left right, s)
    | .combine none left right, s =>
      let run := (ev.combine place op l.label r.label).run.run ev.isTruthy
        (readLeft (place ++ [.left])) (readRight (place ++ [.right])) left right s
      (run.1, .combine run.1.toOption run.2.1.1 run.2.1.2, run.2.2)

theorem run_reading (ev : Evaluator σ ε τ) (e : Expr) : ev.reading.run e = ev.read e := by
  induction e with
  | endpoint name => rfl
  | combine op l r ihl ihr =>
    rw [Expr.Recursion.run, ihl, ihr]
    funext place n s
    rcases n with _ | ⟨_ | value, left, right⟩
    · rw [read_combine]
      rfl
    · rfl

end Evaluator

namespace Expr

variable {text : String} {e : Expr}

theorem length_endpoints_le_of_parse (h : parse text = .ok e) :
    e.endpoints.length ≤ maxEndpoints := by
  rw [endpoints_eq_names_of_parse h]
  exact (parse_eq_ok_iff_derives.mp h).2.1

/-- The endpoints of a tree that was read are the names among the lexemes. -/
theorem exists_lex_of_parse (h : parse text = .ok e) :
    ∃ lexemes, lex text.toList = .ok lexemes ∧
      e.endpoints = lexemes.filterMap fun lexeme => lexeme.token.name? := by
  obtain ⟨hlegal, hcount, -⟩ := parse_eq_ok_iff_derives.mp h
  obtain ⟨lexemes, hlex, htokens⟩ := lex_eq_ok_iff.mpr ⟨hlegal, hcount, rfl⟩
  refine ⟨lexemes, hlex, ?_⟩
  rw [endpoints_eq_names_of_parse h, ← filterMap_name?_tokens, ← htokens, List.filterMap_map]
  rfl

/-- No lexemes lead to more than 195 calls of the reader that are nested in one another, and none
exhaust a budget of as many. A tree that is read has as endpoints the names of its text, from one to
256, and is less high than that, so no recursion over it has more than 256 calls open at a time. -/
theorem within_limits :
    (∀ stop s, expression stop (3 * (64 + 1)) 0 0 s ≠ .error .exhausted ∧
      ∀ calls, (Call.mk 0 0 s :: calls).IsChain (Call.Nests stop) →
        (Call.mk 0 0 s :: calls).length ≤ 3 * (64 + 1)) ∧
    ∀ text e, parse text = .ok e →
      (∃ lexemes, lex text.toList = .ok lexemes ∧
        e.endpoints = lexemes.filterMap fun lexeme => lexeme.token.name?) ∧
      1 ≤ e.endpoints.length ∧ e.endpoints.length ≤ 256 ∧ e.height < e.endpoints.length ∧
      (∀ beyond, printing.runWithin beyond 256 e = e.chars) ∧
      (∀ τ beyond, (Node.building τ).runWithin beyond 256 e = Node.fresh e) ∧
      ∀ (σ ε τ : Type) (ev : Evaluator σ ε τ) beyond,
        ev.reading.runWithin beyond 256 e = ev.read e := by
  refine ⟨fun stop s => ⟨run_maxCalls_ne_exhausted stop s, fun calls hcalls => ?_⟩,
    fun text e h => ?_⟩
  · exact Nat.lt_of_le_of_lt (Nat.le_add_right _ _) (length_add_depth_lt hcalls (fits_of_lexemes s))
  · have hcount := length_endpoints_le_of_parse h
    have hheight := e.height_lt_length_endpoints
    have hcalls : e.height < 256 := Nat.lt_of_lt_of_le hheight hcount
    refine ⟨exists_lex_of_parse h, e.length_endpoints_pos, hcount, hheight,
      forall_runWithin_printing_iff.mpr hcalls, fun τ beyond => ?_, fun σ ε τ ev beyond => ?_⟩
    · rw [Recursion.runWithin_of_height_lt _ _ hcalls, Node.run_building]
    · rw [Recursion.runWithin_of_height_lt _ _ hcalls, Evaluator.run_reading]

/-- The limits are reached: stairs of 64 levels lead to 195 calls, and a chain of 256 names is
written with 256 calls open at a time, but not with 255. -/
theorem within_limits_reached :
    (∃ calls, (Call.mk 0 0 (stairs 64) :: calls).IsChain (Call.Nests 0) ∧
      (Call.mk 0 0 (stairs 64) :: calls).length = 195 ∧
      (Call.mk 0 0 (stairs 64) :: calls).length ≤ 3 * (64 + 1)) ∧
    ∃ e, parse (String.ofList (chainChars .or "a" (List.replicate 255 "b"))) = .ok e ∧
      e.endpoints.length ≤ 256 ∧ (∀ beyond, printing.runWithin beyond 256 e = e.chars) ∧
      ¬ ∀ beyond, printing.runWithin beyond 255 e = e.chars := by
  obtain ⟨calls, hcalls, hlength⟩ := exists_isChain_stairs 0 64 (Nat.zero_add 64)
  have hnames : ∀ name ∈ List.replicate 255 "b", IsName name := by
    intro name hname
    rw [List.eq_of_mem_replicate hname]
    exact ⟨by decide, by decide⟩
  have hcount : (List.replicate 255 "b").length < maxEndpoints := by
    rw [List.length_replicate]
    decide
  have hname : IsName "a" := ⟨by decide, by decide⟩
  have hparse : parse (String.ofList (chainChars .or "a" (List.replicate 255 "b"))) =
      .ok (joined .or (endpoint "a") (List.replicate 255 "b")) := parse_chain hname hnames hcount
  have hheight : (joined .or (endpoint "a") (List.replicate 255 "b")).height = 255 := by
    rw [height_joined, List.length_replicate]
    rfl
  obtain ⟨-, -, hfew, -, hprinting, -⟩ := within_limits.2 _ _ hparse
  refine ⟨⟨calls, hcalls, by rw [List.length_cons, hlength], ?_⟩, _, hparse, hfew, hprinting, ?_⟩
  · exact (within_limits.1 0 (stairs 64)).2 calls hcalls
  · rw [forall_runWithin_printing_iff, hheight]
    exact Nat.lt_irrefl 255

end Expr

end CloudScope
