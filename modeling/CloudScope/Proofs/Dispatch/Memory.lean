import CloudScope.Proofs.Dispatch.Trace
import Mathlib

/-!
# Evaluation with and without memory

An expression can be evaluated without memory: each side of an operator is run where its value is
asked for. For the combinators at hand, evaluation with memory comes to the same, runs the same
things and does so in the same order (`Dispatcher.dispatch_eq_decide`). A node is run when it is
first read, and its value is what a later reading gives (`Reading.Recalls`).
-/

namespace CloudScope

variable {σ ε υ α β τ : Type}

inductive Stock : Type → Type 1 where
  | conjunction {τ : Type} : Stock τ
  | disjunction {τ : Type} : Stock τ
  | mergeTruthy {τ : Type} (merge : τ → τ → τ) : Stock τ
  | mergeAll {τ : Type} (merge : τ → τ → τ) : Stock τ
  | concatenation {υ : Type} : Stock (List υ)

def Stock.combinator : Stock τ → Combinator σ ε τ
  | conjunction => .conjunction
  | disjunction => .disjunction
  | mergeTruthy merge => .mergeTruthy merge
  | mergeAll merge => .mergeAll merge
  | concatenation => .concatenation

/-! ## Evaluation without memory -/

section

variable {m : Type → Type} [Monad m] (judge : Option τ → m Bool)

/-- Runs the right side only if the left one is true, and comes to a result if both are. -/
def ifBoth (left right : m (Option τ)) (result : Option τ → Option τ → Option τ) :
    m (Option τ) := do
  let a ← left
  if ← judge a then
    let b ← right
    if ← judge b then return result a b else return none
  else return none

/-- Runs the right side only if the left one is false, and comes to the first that is true. -/
def firstTrue (left right : m (Option τ)) : m (Option τ) := do
  let a ← left
  if ← judge a then return a
  else
    let b ← right
    if ← judge b then return b else return none

/-- Runs the left side and then the right one. -/
def bothSides (left right : m (Option τ)) (result : Option τ → Option τ → Option τ) :
    m (Option τ) := do
  let a ← left
  let b ← right
  return result a b

/-- What a combinator makes of two sides that are run where they are asked for. -/
def Stock.join (left right : m (Option τ)) : Stock τ → m (Option τ)
  | conjunction => ifBoth judge left right fun _ b => b
  | disjunction => firstTrue judge left right
  | mergeTruthy merge => ifBoth judge left right (Option.merge merge)
  | mergeAll merge => bothSides left right (Option.merge merge)
  | concatenation => bothSides left right (Option.merge (· ++ ·))

variable (stock : Operator → Stock τ) (leaf : String → m τ)

/-- The value of an expression, evaluated without memory. -/
def Expr.value : Expr → m (Option τ)
  | endpoint name => do return some (← leaf name)
  | combine op l r => (stock op).join judge (value l) (value r)

/-- The value of an expression if it counts as true. -/
def Expr.decide (e : Expr) : m (Option τ) := do
  let value ← e.value judge stock leaf
  if ← judge value then return value else return none

end

def Action.judge (isTruthy : Option τ → StateM σ Bool) (value : Option τ) : Action σ ε Bool :=
  fun s => (.ok (s.judge isTruthy value).1, (s.judge isTruthy value).2)

theorem Action.bind_judge (isTruthy : Option τ → StateM σ Bool) (value : Option τ)
    (f : Bool → Action σ ε β) (s : Session σ) :
    (judge isTruthy value >>= f) s =
      f (s.judge isTruthy value).1 (s.judge isTruthy value).2 := rfl

/-! ## Nodes and their memory -/

/-- A reading of an expression that a plain action gives the value of: a fresh node runs the action
and keeps its value, and a node with an outcome gives it and runs nothing. -/
structure Reading.Recalls {e : Expr} (read : Reading σ ε τ e) (action : Action σ ε (Option τ)) :
    Prop where
  fresh : ∀ s, ∃ n, read (.fresh e) s = ((action s).1, n, (action s).2) ∧
    ∀ value, (action s).1 = .ok value → n.outcome = some value
  kept : ∀ n s value, n.outcome = some value → read n s = (.ok value, n, s)

theorem Program.run_bind {l r : Expr} (isTruthy : Option τ → StateM σ Bool)
    (readLeft : Reading σ ε τ l) (readRight : Reading σ ε τ r) (p : Program σ ε τ α)
    (f : α → Program σ ε τ β) : ∀ left right s,
      (p.bind f).run isTruthy readLeft readRight left right s =
        match p.run isTruthy readLeft readRight left right s with
        | (a, (left, right), s) => (f a).run isTruthy readLeft readRight left right s := by
  induction p with
  | done a => intro left right s; rfl
  | read side next ih | isEvaluated side next ih =>
    intro left right s
    cases side <;> exact ih _ _ _ _
  | set side value next ih => intro left right s; cases side <;> exact ih _ _ _
  | judge value next ih | act change next ih => intro left right s; exact ih _ _ _ _

namespace Combination

variable {l r : Expr}

section

variable (isTruthy : Option τ → StateM σ Bool)
  (readLeft : Reading σ ε τ l) (readRight : Reading σ ε τ r)

/-- Runs a combination on two nodes, which are read as given. -/
def exec (c : Combination σ ε τ α) (n : Node τ l × Node τ r) (s : Session σ) :
    Except ε α × (Node τ l × Node τ r) × Session σ :=
  c.run.run isTruthy readLeft readRight n.1 n.2 s

end

/-- Gives the node of a side an outcome. -/
def put (side : Side) (value : Option τ) (n : Node τ l × Node τ r) : Node τ l × Node τ r :=
  match side with
  | .left => (n.1.set value, n.2)
  | .right => (n.1, n.2.set value)

variable {isTruthy : Option τ → StateM σ Bool}
  {readLeft : Reading σ ε τ l} {readRight : Reading σ ε τ r}
  {c : Combination σ ε τ α} {f : α → Combination σ ε τ β} {side : Side}
  {n n' : Node τ l × Node τ r} {s s' : Session σ} {a : α} {e : ε} {value : Option τ}

theorem exec_bind_ok (h : c.exec isTruthy readLeft readRight n s = (.ok a, n', s')) :
    (c >>= f).exec isTruthy readLeft readRight n s =
      (f a).exec isTruthy readLeft readRight n' s' := by
  change (c.run.bind _).run isTruthy readLeft readRight n.1 n.2 s = _
  rw [Program.run_bind, show c.run.run isTruthy readLeft readRight n.1 n.2 s = _ from h]
  rfl

theorem exec_bind_error (h : c.exec isTruthy readLeft readRight n s = (.error e, n', s')) :
    (c >>= f).exec isTruthy readLeft readRight n s = (.error e, n', s') := by
  change (c.run.bind _).run isTruthy readLeft readRight n.1 n.2 s = _
  rw [Program.run_bind, show c.run.run isTruthy readLeft readRight n.1 n.2 s = _ from h]
  rfl

theorem exec_take
    (h : (read side).exec isTruthy readLeft readRight n s = (.ok value, n', s')) :
    (take side).exec isTruthy readLeft readRight n s = (.ok value, put side none n', s') := by
  rw [take, exec_bind_ok h]
  cases side <;> rfl

variable (isTruthy readLeft readRight) in
/-- From the given nodes and session, a combination comes to what an action comes to. -/
def Yields (c : Combination σ ε τ α) (n : Node τ l × Node τ r) (s : Session σ)
    (x : Action σ ε α) : Prop :=
  ∃ n', c.exec isTruthy readLeft readRight n s = ((x s).1, n', (x s).2)

theorem Yields.pure : Yields isTruthy readLeft readRight (Pure.pure a) n s (Pure.pure a) :=
  ⟨n, rfl⟩

variable {x : Action σ ε (Option τ)} {g : Option τ → Action σ ε β}

/-- Taking a side where its value is asked for. -/
theorem Yields.bind_take {f : Option τ → Combination σ ε τ β}
    (h : (read side).exec isTruthy readLeft readRight n s = ((x s).1, n', (x s).2))
    (hf : ∀ value s', x s = (.ok value, s') →
      Yields isTruthy readLeft readRight (f value) (put side none n') s' (g value)) :
    Yields isTruthy readLeft readRight (take side >>= f) n s (x >>= g) := by
  rcases hx : x s with ⟨e | value, s'⟩ <;> rw [hx] at h
  · have htake : (take side).exec isTruthy readLeft readRight n s = (.error e, n', s') :=
      exec_bind_error h
    exact ⟨n', by rw [exec_bind_error htake, Action.bind_error hx]⟩
  · rw [Yields, exec_bind_ok (exec_take h), Action.bind_ok hx]
    exact hf value s' hx

/-- Judging a side where its value is asked for. -/
theorem Yields.bind_isTruthy {f : Bool → Combination σ ε τ β}
    {g : Option τ → Bool → Action σ ε β}
    (h : (read side).exec isTruthy readLeft readRight n s = ((x s).1, n', (x s).2))
    (hf : ∀ value s', x s = (.ok value, s') → ∀ answer s',
      Yields isTruthy readLeft readRight (f answer) n' s' (g value answer)) :
    Yields isTruthy readLeft readRight (Combination.isTruthy side >>= f) n s
      (x >>= fun value => Action.judge isTruthy value >>= g value) := by
  rcases hx : x s with ⟨e | value, s'⟩ <;> rw [hx] at h
  · have hjudge : (Combination.isTruthy side).exec isTruthy readLeft readRight n s =
        (.error e, n', s') := exec_bind_error h
    exact ⟨n', by rw [exec_bind_error hjudge, Action.bind_error hx]⟩
  · have hjudge : (Combination.isTruthy side).exec isTruthy readLeft readRight n s =
        (.ok (s'.judge isTruthy value).1, n', (s'.judge isTruthy value).2) := exec_bind_ok h
    rw [Yields, exec_bind_ok hjudge, Action.bind_ok hx, Action.bind_judge]
    exact hf value s' hx _ _

end Combination

/-! ## The combinators at hand -/

namespace Reading.Recalls

variable {l r : Expr} {isTruthy : Option τ → StateM σ Bool} {readLeft : Reading σ ε τ l}
  {readRight : Reading σ ε τ r} {plainLeft plainRight : Action σ ε (Option τ)}

theorem read_left (h : readLeft.Recalls plainLeft) (right : Node τ r)
    (s : Session σ) : ∃ left, (Combination.read .left).exec isTruthy readLeft readRight
      (.fresh l, right) s = ((plainLeft s).1, (left, right), (plainLeft s).2) ∧
      ∀ value, (plainLeft s).1 = .ok value → left.outcome = some value := by
  obtain ⟨left, hread, hkept⟩ := h.fresh s
  refine ⟨left, ?_, hkept⟩
  change ((readLeft (.fresh l) s).1, ((readLeft (.fresh l) s).2.1, right), _) = _
  rw [hread]

theorem read_right (h : readRight.Recalls plainRight) (left : Node τ l)
    (s : Session σ) : ∃ right, (Combination.read .right).exec isTruthy readLeft readRight
      (left, .fresh r) s = ((plainRight s).1, (left, right), (plainRight s).2) ∧
      ∀ value, (plainRight s).1 = .ok value → right.outcome = some value := by
  obtain ⟨right, hread, hkept⟩ := h.fresh s
  refine ⟨right, ?_, hkept⟩
  change ((readRight (.fresh r) s).1, (left, (readRight (.fresh r) s).2.1), _) = _
  rw [hread]

theorem reread_left (h : readLeft.Recalls plainLeft) {left : Node τ l}
    {value : Option τ} (hn : left.outcome = some value) (right : Node τ r) (s : Session σ) :
    (Combination.read .left).exec isTruthy readLeft readRight (left, right) s =
      (.ok value, (left, right), s) := by
  change ((readLeft left s).1, ((readLeft left s).2.1, right), _) = _
  rw [h.kept left s value hn]

theorem reread_right (h : readRight.Recalls plainRight) {right : Node τ r}
    {value : Option τ} (hn : right.outcome = some value) (left : Node τ l) (s : Session σ) :
    (Combination.read .right).exec isTruthy readLeft readRight (left, right) s =
      (.ok value, (left, right), s) := by
  change ((readRight right s).1, (left, (readRight right s).2.1), _) = _
  rw [h.kept right s value hn]

end Reading.Recalls

open Combination

section

variable {l r : Expr} {isTruthy : Option τ → StateM σ Bool} {readLeft : Reading σ ε τ l}
  {readRight : Reading σ ε τ r} {plainLeft plainRight : Action σ ε (Option τ)}
  (hl : readLeft.Recalls plainLeft) (hr : readRight.Recalls plainRight)

include hl hr

/-- Guarding a combination by both sides is guarding its result by both actions. -/
theorem yields_ifBoth {rest : Combination σ ε τ (Option τ)}
    {result : Option τ → Option τ → Option τ}
    (hrest : ∀ left right s a b, left.outcome = some a → right.outcome = some b →
      Yields isTruthy readLeft readRight rest (left, right) s (pure (result a b)))
    (s : Session σ) :
    Yields isTruthy readLeft readRight (do
        if ← Combination.isTruthy .left then
          if ← Combination.isTruthy .right then rest else return none
        else return none) (.fresh l, .fresh r) s
      (ifBoth (.judge isTruthy) plainLeft plainRight result) := by
  obtain ⟨left, hleft, ha⟩ := hl.read_left (.fresh r) s
  refine .bind_isTruthy hleft fun a s₁ hs₁ answer s₁ => ?_
  cases answer with
  | false => exact .pure
  | true =>
    obtain ⟨right, hright, hb⟩ := hr.read_right left s₁
    refine .bind_isTruthy hright fun b s₂ hs₂ answer s₂ => ?_
    cases answer with
    | false => exact .pure
    | true => exact hrest _ _ _ _ _ (ha a (by rw [hs₁])) (hb b (by rw [hs₂]))

theorem yields_disjunction (a b : Label) (s : Session σ) :
    Yields isTruthy readLeft readRight (Combinator.disjunction a b) (.fresh l, .fresh r) s
      (firstTrue (.judge isTruthy) plainLeft plainRight) := by
  obtain ⟨left, hleft, ha⟩ := hl.read_left (.fresh r) s
  refine .bind_isTruthy hleft fun a s₁ hs₁ answer s₁ => ?_
  cases answer with
  | true => exact ⟨_, exec_take (hl.reread_left (ha a (by rw [hs₁])) _ _)⟩
  | false =>
    obtain ⟨right, hright, hb⟩ := hr.read_right left s₁
    refine .bind_isTruthy hright fun b s₂ hs₂ answer s₂ => ?_
    cases answer with
    | false => exact .pure
    | true => exact ⟨_, exec_take (hr.reread_right (hb b (by rw [hs₂])) _ _)⟩

omit hl hr in
theorem mergePresent_eq (merge : τ → τ → τ) (a b : Option τ) :
    Combinator.mergePresent merge a b = Option.merge merge a b := by
  cases a <;> cases b <;> rfl

theorem yields_mergeAll (merge : τ → τ → τ) (a b : Label) (s : Session σ) :
    Yields isTruthy readLeft readRight (Combinator.mergeAll merge a b) (.fresh l, .fresh r) s
      (bothSides plainLeft plainRight (Option.merge merge)) := by
  obtain ⟨left, hleft, -⟩ := hl.read_left (.fresh r) s
  refine .bind_take hleft fun a s₁ _ => ?_
  obtain ⟨right, hright, -⟩ := hr.read_right (left.set none) s₁
  refine .bind_take hright fun b s₂ _ => ?_
  rw [mergePresent_eq]
  exact .pure

theorem yields_mergeAll_of_outcome (merge : τ → τ → τ) (la lb : Label) {left : Node τ l}
    {right : Node τ r} {a b : Option τ} (ha : left.outcome = some a) (hb : right.outcome = some b)
    (s : Session σ) :
    Yields isTruthy readLeft readRight (Combinator.mergeAll merge la lb) (left, right) s
      (pure (Option.merge merge a b)) := by
  have hleft : (Combination.read .left).exec isTruthy readLeft readRight (left, right) s =
      (.ok a, (left, right), s) := hl.reread_left ha right s
  have hright : (Combination.read .right).exec isTruthy readLeft readRight
      (put .left none (left, right)) s = (.ok b, put .left none (left, right), s) :=
    hr.reread_right hb _ s
  rw [Combinator.mergeAll, Yields, exec_bind_ok (exec_take hleft), exec_bind_ok (exec_take hright),
    mergePresent_eq]
  exact Yields.pure

/-- On fresh nodes, a combinator at hand comes to what its actions come to. -/
theorem Stock.yields (stock : Stock τ) (a b : Label) (s : Session σ) :
    Yields isTruthy readLeft readRight (stock.combinator a b) (.fresh l, .fresh r) s
      (stock.join (.judge isTruthy) plainLeft plainRight) := by
  cases stock with
  | conjunction =>
    exact yields_ifBoth hl hr
      (fun left _ s _ _ _ hb => ⟨_, exec_take (hr.reread_right hb left s)⟩) s
  | disjunction => exact yields_disjunction hl hr a b s
  | mergeTruthy merge =>
    exact yields_ifBoth hl hr
      (fun _ _ s _ _ ha hb => yields_mergeAll_of_outcome hl hr merge a b ha hb s) s
  | mergeAll merge => exact yields_mergeAll hl hr merge a b s
  | concatenation => exact yields_mergeAll hl hr _ a b s

end

/-! ## Expressions -/

/-- Reading an expression with memory recalls its value without memory. -/
theorem Evaluator.recalls_value {ev : Evaluator σ ε τ} {leaf : String → Action σ ε τ}
    {stock : Operator → Stock τ} (hleaf : ∀ place, ev.leaf place = leaf)
    (hcombine : ∀ place op, ev.combine place op = (stock op).combinator) (e : Expr) :
    ∀ place, Reading.Recalls (ev.read e place) (e.value (.judge ev.isTruthy) stock leaf) := by
  induction e with
  | endpoint name =>
    intro place
    refine ⟨fun s => ?_, fun n s value hn => ?_⟩
    · simp only [Expr.value, Node.fresh, read, hleaf]
      rcases h : leaf name s with ⟨e | value, s'⟩
      · exact ⟨_, by rw [Action.bind_error h], by simp [Action.bind_error h]⟩
      · refine ⟨.endpoint (some (some value)), by rw [Action.bind_ok h]; rfl, fun v hv => ?_⟩
        rw [Action.bind_ok h] at hv
        cases hv
        rfl
    · cases n
      cases hn
      rfl
  | combine op l r ihl ihr =>
    intro place
    refine ⟨fun s => ?_, fun n s value hn => ?_⟩
    · obtain ⟨n, hn⟩ : Yields ev.isTruthy (ev.read l (place ++ [.left]))
          (ev.read r (place ++ [.right])) (ev.combine place op l.label r.label) (.fresh l, .fresh r)
          s (Expr.value (.judge ev.isTruthy) stock leaf (.combine op l r)) := by
        rw [hcombine]
        exact Stock.yields (ihl _) (ihr _) (stock op) _ _ s
      rcases h : Expr.value (.judge ev.isTruthy) stock leaf (.combine op l r) s with ⟨e | value, s'⟩
      all_goals
        rw [h] at hn
        simp only [Node.fresh, read, show Program.run _ _ _ _ _ _ s = _ from hn, h]
      · exact ⟨_, rfl, fun v hv => by cases hv⟩
      · exact ⟨_, rfl, fun v hv => congrArg some (Except.ok.inj hv)⟩
    · cases n
      cases hn
      rfl

/-- Evaluation with memory comes to what evaluation without memory comes to. -/
theorem Evaluator.evaluate_eq_decide {ev : Evaluator σ ε τ} {leaf : String → Action σ ε τ}
    {stock : Operator → Stock τ} (hleaf : ∀ place, ev.leaf place = leaf)
    (hcombine : ∀ place op, ev.combine place op = (stock op).combinator) (e : Expr) :
    ev.evaluate e = e.decide (.judge ev.isTruthy) stock leaf := by
  funext s
  obtain ⟨n, hn, -⟩ := (recalls_value hleaf hcombine e []).fresh s
  rcases h : e.value (.judge ev.isTruthy) stock leaf s with ⟨e | value, s'⟩ <;> rw [h] at hn
  · rw [evaluate, hn, Expr.decide, Action.bind_error h]
  · rw [evaluate, hn, Expr.decide, Action.bind_ok h, Action.bind_judge]
    dsimp only
    split <;> rfl

/-! ## Dispatches -/

namespace Combination

/-- Puts a combination under a trace that it leaves alone. -/
def traced (c : Combination σ ε τ α) : Combination (σ × List υ) ε τ α :=
  .mk c.run.traced

theorem traced_bind (c : Combination σ ε τ α) (f : α → Combination σ ε τ β) :
    (c >>= f).traced (υ := υ) = c.traced >>= fun a => (f a).traced := by
  refine (Program.traced_bind c.run (ExceptT.bindCont f)).trans ?_
  refine congrArg (Program.bind c.run.traced) (funext fun result => ?_)
  cases result <;> rfl

theorem traced_ite (p : Prop) [Decidable p] (c c' : Combination σ ε τ α) :
    (if p then c else c').traced (υ := υ) = if p then c.traced else c'.traced := by
  split <;> rfl

theorem traced_pure (a : α) :
    (pure a : Combination σ ε τ α).traced (υ := υ) = pure a := rfl

theorem traced_isTruthy (side : Side) :
    (Combination.isTruthy side : Combination σ ε τ Bool).traced (υ := υ) =
      Combination.isTruthy side := by
  simp only [Combination.isTruthy, traced_bind]
  rfl

theorem traced_take (side : Side) :
    (take side : Combination σ ε τ (Option τ)).traced (υ := υ) = take side := by
  simp only [take, traced_bind]
  rfl

end Combination

/-- The combinators at hand leave traces alone. -/
theorem Stock.traced_combinator (stock : Stock τ) :
    (stock.combinator : Combinator σ ε τ).traced (υ := υ) = stock.combinator := by
  have hmerge : ∀ merge : τ → τ → τ,
      (Combinator.mergeAll merge : Combinator σ ε τ).traced (υ := υ) =
        Combinator.mergeAll merge := fun merge => by
    funext a b
    change (Combinator.mergeAll merge a b).traced = _
    simp only [Combinator.mergeAll, traced_bind, traced_take, traced_pure]
  funext a b
  change (stock.combinator a b).traced = stock.combinator a b
  cases stock with
  | conjunction =>
    simp only [combinator, Combinator.conjunction, traced_bind, traced_isTruthy, traced_ite,
      traced_take, traced_pure]
  | disjunction =>
    simp only [combinator, Combinator.disjunction, traced_bind, traced_isTruthy, traced_ite,
      traced_take, traced_pure]
  | mergeTruthy merge =>
    simp only [combinator, Combinator.mergeTruthy, traced_bind, traced_isTruthy, traced_ite,
      traced_pure]
    rw [show (Combinator.mergeAll merge a b).traced = _ from congrFun (congrFun (hmerge merge) a) b]
  | mergeAll merge => exact congrFun (congrFun (hmerge merge) a) b
  | concatenation => exact congrFun (congrFun (hmerge _) a) b

namespace Dispatcher

/-- The dispatcher with combinators at hand in the place of its own. -/
def withStock (d : Dispatcher σ ε α τ) (stock : Operator → Stock τ) : Dispatcher σ ε α τ :=
  { d with conjunction := (stock .and).combinator, disjunction := (stock .or).combinator }

theorem dispatch_of_parse (d : Dispatcher σ ε α τ) (serviceType : String) {expression : String}
    (args : α) {e : Expr} (h : Expr.parse expression = .ok e) :
    d.dispatch serviceType expression args = (d.evaluator serviceType args).evaluate e := by
  rw [dispatch, h]

theorem evaluate_withStock (d : Dispatcher σ ε α τ) (stock : Operator → Stock τ)
    (serviceType : String) (args : α) (e : Expr) :
    ((d.withStock stock).evaluator serviceType args).evaluate e =
      e.decide (.judge d.isTruthy) stock (d.runLeaf serviceType args) :=
  Evaluator.evaluate_eq_decide (fun _ => rfl) (fun _ op => by cases op <;> rfl) e

theorem dispatch_withStock (d : Dispatcher σ ε α τ) (stock : Operator → Stock τ)
    (serviceType : String) {expression : String} (args : α) {e : Expr}
    (h : Expr.parse expression = .ok e) :
    (d.withStock stock).dispatch serviceType expression args =
      e.decide (.judge d.isTruthy) stock (d.runLeaf serviceType args) := by
  rw [dispatch_of_parse _ _ _ h, evaluate_withStock]

theorem traced_withStock (d : Dispatcher σ ε α τ) (stock : Operator → Stock τ) :
    (d.withStock stock).traced = d.traced.withStock stock := by
  simp only [withStock, traced, Stock.traced_combinator]

/-- With combinators at hand, a dispatch with memory is the evaluation without memory: it comes to
the same result, leaves the same session, and runs the transform and the leaf the same times in the
same contexts. -/
theorem dispatch_eq_decide (d : Dispatcher σ ε α τ) (stock : Operator → Stock τ)
    (serviceType : String) {expression : String} (args : α) {e : Expr}
    (h : Expr.parse expression = .ok e) :
    (d.withStock stock).dispatch serviceType expression args =
        e.decide (.judge d.isTruthy) stock (d.runLeaf serviceType args) ∧
      (d.withStock stock).traced.dispatch serviceType expression args =
        e.decide (.judge d.traced.isTruthy) stock (d.traced.runLeaf serviceType args) :=
  ⟨d.dispatch_withStock stock serviceType args h,
    traced_withStock d stock ▸ d.traced.dispatch_withStock stock serviceType args h⟩

theorem dispatch_eq_decide_mixed :
    let d : Dispatcher Unit String String Nat :=
      { ofScopeError := ScopeError.message
        leaf := fun args s => (if args = "list@B" then .ok 0 else .ok args.length, s)
        transform := fun endpoint args => pure (args ++ "@" ++ endpoint)
        isTruthy := fun value => pure (value.any (0 < ·)) }
    let stock : Operator → Stock Nat
      | .and => .mergeTruthy (· + ·)
      | .or => .disjunction
    let inside (endpoint : String) : Context := ⟨none, [⟨"compute", endpoint⟩]⟩
    let runs (endpoint : String) : List (Dispatcher.Run String) :=
      [.transform endpoint "list" (inside endpoint) (inside endpoint),
       .leaf ("list@" ++ endpoint) (inside endpoint) (inside endpoint)]
    Expr.parse "A & (B | C)" = .ok (.combine .and (.endpoint "A")
        (.combine .or (.endpoint "B") (.endpoint "C"))) ∧
      (d.withStock stock).dispatch "compute" "A & (B | C)" "list" ⟨∅, ()⟩ =
        (.ok (some 12), ⟨∅, ()⟩) ∧
      (d.withStock stock).traced.dispatch "compute" "A & (B | C)" "list" ⟨∅, ((), [])⟩ =
        (.ok (some 12), ⟨∅, ((), runs "A" ++ runs "B" ++ runs "C")⟩) := by
  intro d stock inside runs
  have h : Expr.parse "A & (B | C)" = .ok (.combine .and (.endpoint "A")
        (.combine .or (.endpoint "B") (.endpoint "C"))) := by cbv
  refine ⟨h, ?_, ?_⟩
  · rw [(dispatch_eq_decide d stock "compute" "list" h).1]
    rfl
  · rw [(dispatch_eq_decide d stock "compute" "list" h).2]
    rfl

/-- A right side that is false is not merged, even if the merged value would count as true. -/
theorem dispatch_of_false_right :
    let d : Dispatcher Unit String String (List String) :=
      { ofScopeError := ScopeError.message
        leaf := fun _ s =>
          (.ok (if s.context.peek?.any (·.endpoint = "B") then ["bad"] else ["a"]), s)
        isTruthy := fun value => pure (value.any ("bad" ∉ ·)) }
    let merge : List String → List String → List String := fun left _ => left
    let mergedIfLeft : Action Unit String (Option (List String)) := do
      let a ← d.runLeaf "compute" "q" "A"
      if ← Action.judge d.isTruthy (some a) then
        let value := some (merge a (← d.runLeaf "compute" "q" "B"))
        if ← Action.judge d.isTruthy value then return value else return none
      else return none
    (d.withStock fun _ => .mergeTruthy merge).dispatch "compute" "A & B" "q" ⟨∅, ()⟩ =
        (.ok none, ⟨∅, ()⟩) ∧
      mergedIfLeft ⟨∅, ()⟩ = (.ok (some ["a"]), ⟨∅, ()⟩) := by
  intro d merge mergedIfLeft
  have h : Expr.parse "A & B" = .ok (.combine .and (.endpoint "A") (.endpoint "B")) := by cbv
  refine ⟨?_, rfl⟩
  -- the left value and the merged one are both `["a"]`, the right one is judged false
  rw [dispatch_withStock d _ "compute" "q" h]
  rfl

end Dispatcher

end CloudScope
