import CloudScope.Proofs.Dispatch.ShortCircuit

/-!
# Regrouping

A chain of one operator can be grouped in any way: with the combinators that choose one side, and a
judge that goes by the values steadily, evaluation runs the same things in the same order and comes
to the same (`Dispatcher.dispatch_of_regroups`). The reason is that a right side is evaluated unless
the left one settles the matter, and a value that an inner node keeps settles it as the sides of
that node would.
-/

namespace CloudScope

variable {σ ε υ α τ : Type}

namespace Expr

/-- Expressions that differ by how chains of one operator are grouped, anywhere in them. -/
inductive Regroups : Expr → Expr → Prop where
  | refl {e} : Regroups e e
  | symm {e e'} : Regroups e e' → Regroups e' e
  | trans {e e' e''} : Regroups e e' → Regroups e' e'' → Regroups e e''
  | assoc {op a b c} :
    Regroups (combine op (combine op a b) c) (combine op a (combine op b c))
  | combine {op l l' r r'} :
    Regroups l l' → Regroups r r' → Regroups (combine op l r) (combine op l' r')

/-! ## Grouping to the right -/

/-- Joins a chain to an expression behind it, link by link. -/
def chain (op : Operator) : Expr → Expr → Expr
  | endpoint name, behind => combine op (endpoint name) behind
  | combine op' l r, behind =>
    if op' = op then chain op l (chain op r behind) else combine op (combine op' l r) behind

/-- The expression with all its chains grouped to the right. -/
def groupedRight : Expr → Expr
  | endpoint name => endpoint name
  | combine op l r => chain op l.groupedRight r.groupedRight

theorem chain_chain (op : Operator) (a b c : Expr) :
    chain op (chain op a b) c = chain op a (chain op b c) := by
  induction a generalizing b with
  | endpoint name => simp only [chain, if_true]
  | combine op' l r ihl ihr =>
    by_cases h : op' = op
    · simp only [chain, if_pos h, ihl, ihr]
    · simp only [chain, if_neg h, if_true]

theorem regroups_chain (op : Operator) (a b : Expr) : Regroups (combine op a b) (chain op a b) := by
  induction a generalizing b with
  | endpoint name => exact .refl
  | combine op' l r ihl ihr =>
    rw [chain]
    split
    · rename_i h
      subst h
      exact .trans .assoc (.trans (.combine .refl (ihr b)) (ihl _))
    · exact .refl

theorem regroups_groupedRight (e : Expr) : e.Regroups e.groupedRight := by
  induction e with
  | endpoint name => exact .refl
  | combine op l r ihl ihr => exact .trans (.combine ihl ihr) (regroups_chain op _ _)

theorem Regroups.groupedRight_eq {e e' : Expr} (h : e.Regroups e') :
    e.groupedRight = e'.groupedRight := by
  induction h with
  | refl => rfl
  | symm _ ih => exact ih.symm
  | trans _ _ ih ih' => exact ih.trans ih'
  | assoc => exact chain_chain _ _ _ _
  | combine _ _ ihl ihr => rw [groupedRight, groupedRight, ihl, ihr]

/-- Expressions differ by the grouping of chains only if they are the same once all chains are
grouped to the right. -/
theorem regroups_iff {e e' : Expr} : e.Regroups e' ↔ e.groupedRight = e'.groupedRight := by
  refine ⟨Regroups.groupedRight_eq, fun h => .trans (regroups_groupedRight e) ?_⟩
  rw [h]
  exact .symm (regroups_groupedRight e')

instance (e e' : Expr) : Decidable (e.Regroups e') :=
  decidable_of_iff _ regroups_iff.symm

example : Regroups
    (combine .or (combine .and (combine .and (endpoint "A") (endpoint "B")) (endpoint "C"))
      (endpoint "D"))
    (combine .or (combine .and (endpoint "A") (combine .and (endpoint "B") (endpoint "C")))
      (endpoint "D")) := by decide

/-! ## Evaluation -/

section

variable {isTruthy : Option τ → StateM σ Bool} (h : Steady isTruthy) (leaf : String → Action σ ε τ)

include h

theorem decide_assoc (op : Operator) (a b c : Expr) :
    (combine op (combine op a b) c).decide (.judge isTruthy) Stock.choosing leaf =
      (combine op a (combine op b c)).decide (.judge isTruthy) Stock.choosing leaf := by
  simp only [decide_combine h, bind_assoc]
  refine congrArg (a.decide (.judge isTruthy) Stock.choosing leaf >>= ·) (funext fun value => ?_)
  -- what settles the matter for the inner node settles it for the outer one
  split
  · rename_i hsettled
    rw [pure_bind, if_pos hsettled]
  · rfl

theorem decide_of_regroups {e e' : Expr} (hregroups : e.Regroups e') :
    e.decide (.judge isTruthy) Stock.choosing leaf =
      e'.decide (.judge isTruthy) Stock.choosing leaf := by
  induction hregroups with
  | refl => rfl
  | symm _ ih => exact ih.symm
  | trans _ _ ih ih' => exact ih.trans ih'
  | assoc => exact decide_assoc h leaf _ _ _ _
  | combine _ _ ihl ihr => rw [decide_combine h, decide_combine h, ihl, ihr]

end

end Expr

/-! ## Dispatches -/

theorem Steady.traced {isTruthy : Option τ → StateM σ Bool} (h : Steady isTruthy) :
    Steady (judgeTraced isTruthy : Option τ → StateM (σ × List υ) Bool) where
  absent s := by
    rw [judgeTraced, h.absent]
  again {value s s'} hvalue := by
    rcases hs : isTruthy value s.1 with ⟨answer, shared⟩
    rw [judgeTraced, hs] at hvalue
    cases hvalue
    rw [judgeTraced, h.again hs]

namespace Dispatcher

/-- With the combinators that choose one side, dispatching over expressions that differ by the
grouping of chains is the same: both come to the same value, to none or to the same error, leave the
same session, and run the transform and the leaf the same times in the same order. This holds of the
trees themselves, and so of any two texts that are read as them; a text whose parentheses are nested
too deep is not. -/
theorem dispatch_of_regroups (d : Dispatcher σ ε α τ) (h : Steady d.isTruthy) {e e' : Expr}
    (hregroups : e.Regroups e') (serviceType : String) (args : α) :
    let choosing := d.withStock Stock.choosing
    (choosing.evaluator serviceType args).evaluate e =
        (choosing.evaluator serviceType args).evaluate e' ∧
      (choosing.traced.evaluator serviceType args).evaluate e =
        (choosing.traced.evaluator serviceType args).evaluate e' ∧
      ∀ x x', Expr.parse x = .ok e → Expr.parse x' = .ok e' →
        choosing.dispatch serviceType x args = choosing.dispatch serviceType x' args ∧
          choosing.traced.dispatch serviceType x args =
            choosing.traced.dispatch serviceType x' args := by
  intro choosing
  have hplain : (choosing.evaluator serviceType args).evaluate e =
      (choosing.evaluator serviceType args).evaluate e' := by
    rw [evaluate_withStock, evaluate_withStock]
    exact Expr.decide_of_regroups h _ hregroups
  have htraced : (choosing.traced.evaluator serviceType args).evaluate e =
      (choosing.traced.evaluator serviceType args).evaluate e' := by
    rw [traced_withStock, evaluate_withStock, evaluate_withStock]
    exact Expr.decide_of_regroups h.traced _ hregroups
  refine ⟨hplain, htraced, fun x x' hx hx' => ⟨?_, ?_⟩⟩
  · rw [dispatch_of_parse _ _ _ hx, dispatch_of_parse _ _ _ hx', hplain]
  · rw [dispatch_of_parse _ _ _ hx, dispatch_of_parse _ _ _ hx', htraced]

/-- The leaf counts its runs and fails for the last endpoint of the chain. -/
theorem dispatch_of_regroups_failing :
    let d : Dispatcher Nat String String Nat :=
      { ofScopeError := ScopeError.message
        leaf := fun args s =>
          (if args = "list@C" then .error "C is down" else .ok (if args = "list@D" then 0 else 7),
            { s with shared := s.shared + 1 })
        transform := fun endpoint args => pure (args ++ "@" ++ endpoint)
        isTruthy := fun value => pure (value.any (0 < ·)) }
    let choosing := d.withStock Stock.choosing
    let left := Expr.combine .or (.endpoint "D")
      (.combine .and (.combine .and (.endpoint "A") (.endpoint "B")) (.endpoint "C"))
    let right := Expr.combine .or (.endpoint "D")
      (.combine .and (.endpoint "A") (.combine .and (.endpoint "B") (.endpoint "C")))
    let s : Session (Nat × List (Run String)) := ⟨∅, (0, [])⟩
    Steady d.isTruthy ∧ left.Regroups right ∧
      Expr.parse "D | A & B & C" = .ok left ∧ Expr.parse "D | A & (B & C)" = .ok right ∧
      choosing.dispatch "compute" "D | A & B & C" "list" ⟨∅, 0⟩ = (.error "C is down", ⟨∅, 4⟩) ∧
      choosing.dispatch "compute" "D | A & (B & C)" "list" ⟨∅, 0⟩ =
        (.error "C is down", ⟨∅, 4⟩) ∧
      choosing.traced.dispatch "compute" "D | A & B & C" "list" s =
        choosing.traced.dispatch "compute" "D | A & (B & C)" "list" s := by
  intro d choosing left right s
  have hsteady : Steady d.isTruthy := steady_pure rfl
  have hregroups : left.Regroups right := by decide
  have hleft : Expr.parse "D | A & B & C" = .ok left := by cbv
  have hright : Expr.parse "D | A & (B & C)" = .ok right := by cbv
  have hdispatch : choosing.dispatch "compute" "D | A & B & C" "list" ⟨∅, 0⟩ =
      (.error "C is down", ⟨∅, 4⟩) := by
    rw [dispatch_withStock d _ "compute" "list" hleft]
    rfl
  obtain ⟨-, -, htexts⟩ := d.dispatch_of_regroups hsteady hregroups "compute" "list"
  obtain ⟨hplain, htraced⟩ := htexts _ _ hleft hright
  refine ⟨hsteady, hregroups, hleft, hright, hdispatch, ?_, congrFun htraced s⟩
  rw [← hdispatch]
  exact (congrFun hplain _).symm

end Dispatcher

end CloudScope
