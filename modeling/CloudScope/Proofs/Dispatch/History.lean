import CloudScope.Proofs.Dispatch.Trace

/-!
# Histories of dispatches

The history of a dispatch lists what happens at the nodes of its expression: readings with their
answers, outcomes that combinators set, questions whether a node has an outcome, and the runs of
transforms, leaves and combinators. Writing the history changes nothing
(`Dispatcher.follows_dispatchObserved`).
-/

namespace CloudScope

variable {σ ε υ α β τ : Type}

/-- What a node can run when it is read. -/
inductive NodePart where
  | transform
  | leaf
  | combinator
deriving DecidableEq

/-- What happens at a node, which is named by its place. -/
inductive NodeEvent (ε τ : Type) where
  /-- A reading begins. -/
  | reading (place : List Side)
  /-- A reading ends. -/
  | read (place : List Side) (answer : Except ε (Option τ))
  /-- A combinator gives the node an outcome. -/
  | set (place : List Side) (value : Option τ)
  /-- A combinator asks whether the node has an outcome. -/
  | asked (place : List Side) (answer : Bool)
  /-- A part of the node starts to run. -/
  | run (place : List Side) (part : NodePart)

/-- The session with one more event in its trace. -/
def Session.noting (s : Session (σ × List υ)) (event : υ) : Session (σ × List υ) :=
  s.untraced.traced (s.trace ++ [event])

@[simp] theorem Session.untraced_noting (s : Session (σ × List υ)) (event : υ) :
    (s.noting event).untraced = s.untraced := rfl

@[simp] theorem Session.trace_noting (s : Session (σ × List υ)) (event : υ) :
    (s.noting event).trace = s.trace ++ [event] := rfl

/-- Puts an action under a trace where its start is noted. -/
def Action.starting (event : υ) (action : Action σ ε β) : Action (σ × List υ) ε β := fun s =>
  action.untouched (s.noting event)

theorem Action.starting_eq {x : Action σ ε α} {s : Session (σ × List υ)} {after : Session σ}
    {result : Except ε α} (h : x s.untraced = (result, after)) (event : υ) :
    x.starting event s = (result, after.traced (s.trace ++ [event])) := by
  rw [starting, untouched, Session.untraced_noting, h]
  rfl

/-- Puts a reading under a trace where its beginning and its end are noted. -/
def Reading.observed {e : Expr} (place : List Side)
    (read : Reading (σ × List (NodeEvent ε τ)) ε τ e) :
    Reading (σ × List (NodeEvent ε τ)) ε τ e := fun n s =>
  let (answer, n, s) := read n (s.noting (.reading place))
  (answer, n, s.noting (.read place answer))

/-- Puts the program of the node at a place under a trace where it notes what it does with its
sides. -/
def Program.observed (place : List Side) :
    Program σ ε τ α → Program (σ × List (NodeEvent ε τ)) ε τ α
  | done result => done result
  | read side next =>
    act (·.noting (.reading (place ++ [side]))) fun _ =>
      read side fun answer =>
        act (·.noting (.read (place ++ [side]) answer)) fun _ => (next answer).observed place
  | set side value next =>
    set side value (act (·.noting (.set (place ++ [side]) value)) fun _ => next.observed place)
  | isEvaluated side next =>
    isEvaluated side fun answer =>
      act (·.noting (.asked (place ++ [side]) answer)) fun _ => (next answer).observed place
  | judge value next => judge value fun answer => (next answer).observed place
  | act change next =>
    act (fun s => (change s.untraced).traced s.trace) fun before =>
      (next before.untraced).observed place

/-- Puts the combinator of the node at a place under a trace where it notes that it starts, and what
it does with its sides. -/
def Combinator.observed (place : List Side) (c : Combinator σ ε τ) :
    Combinator (σ × List (NodeEvent ε τ)) ε τ := fun left right =>
  .mk (.act (·.noting (.run place .combinator)) fun _ => (c left right).run.observed place)

theorem Reading.Follows.observed {e : Expr} {read' : Reading (σ × List (NodeEvent ε τ)) ε τ e}
    {read : Reading σ ε τ e} (h : read'.Follows read) (place : List Side) :
    (read'.observed place).Follows read := fun n s => h n (s.noting (.reading place))

theorem Program.follows_observed (place : List Side) (p : Program σ ε τ α) :
    (p.observed place).Follows p := by
  intro l r isTruthy readLeft readRight tracedLeft tracedRight hl hr
  induction p with
  | done result => intro left right s; rfl
  | read side next ih =>
    intro left right s
    cases side with
    | left =>
      simp only [run, ← hl.observed (place ++ [.left]) left s]
      exact ih _ _ _ _
    | right =>
      simp only [run, ← hr.observed (place ++ [.right]) right s]
      exact ih _ _ _ _
  | set side value next ih => intro left right s; cases side <;> exact ih _ _ _
  | isEvaluated side next ih => intro left right s; cases side <;> exact ih _ _ _ _
  | judge value next ih | act change next ih => intro left right s; exact ih _ _ _ _

/-- Evaluates an expression, and notes the reading of its root. -/
def Evaluator.evaluateObserved (ev : Evaluator (σ × List (NodeEvent ε τ)) ε τ) (e : Expr) :
    Action (σ × List (NodeEvent ε τ)) ε (Option τ) := fun s =>
  match Reading.observed [] (ev.read e []) (.fresh e) s with
  | (.error e, _, s) => (.error e, s)
  | (.ok value, _, s) =>
    let (answer, s) := s.judge ev.isTruthy value
    (.ok (if answer then value else none), s)

namespace Dispatcher

variable (d : Dispatcher σ ε α τ) (serviceType : String) (args : α)

/-- Runs the leaf for the endpoint at a place, and notes that its transform and itself start. -/
def runLeafObserved (place : List Side) (endpoint : String) :
    Action (σ × List (NodeEvent ε τ)) ε τ :=
  .inFrame d.ofScopeError serviceType endpoint do
    let args ← (d.transform endpoint args).starting (.run place .transform)
    (d.leaf args).starting (.run place .leaf)

/-- The evaluation of an expression for a call, where the history is written. -/
def observer : Evaluator (σ × List (NodeEvent ε τ)) ε τ where
  leaf := d.runLeafObserved serviceType args
  combine place op := (d.combinator op).observed place
  isTruthy := judgeTraced d.isTruthy

/-- Dispatches a call, and writes the history. -/
def dispatchObserved (expression : String) : Action (σ × List (NodeEvent ε τ)) ε (Option τ) :=
  match Expr.parse expression with
  | .error e => throw (d.ofScopeError (.parse e))
  | .ok e => (d.observer serviceType args).evaluateObserved e

theorem follows_observer :
    (d.observer serviceType args).Follows (d.evaluator serviceType args) where
  leaf place endpoint := .inFrame (.bind (fun _ => rfl) fun _ _ => rfl) _ _ _
  combine place op a b := by
    intro l r isTruthy readLeft readRight tracedLeft tracedRight hl hr left right s
    exact Program.follows_observed place _ isTruthy hl hr left right _
  isTruthy := rfl

/-- Writing the history changes neither what a dispatch comes to nor what becomes of the session. -/
theorem follows_dispatchObserved (expression : String) :
    (d.dispatchObserved serviceType args expression).Follows
      (d.dispatch serviceType expression args) := by
  intro s
  simp only [dispatchObserved, dispatch]
  cases Expr.parse expression with
  | error e => rfl
  | ok e =>
    have hs := ((d.follows_observer serviceType args).read e []).observed [] (.fresh e) s
    simp only [Evaluator.evaluateObserved, Evaluator.evaluate, ← hs]
    rcases Reading.observed [] _ (.fresh e) s with ⟨_ | _, _, t⟩ <;> rfl

end Dispatcher

end CloudScope
