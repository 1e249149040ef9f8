import CloudScope.Dispatch.Dispatcher

/-!
# Traces of dispatches

A traced dispatcher does what the dispatcher does, and notes each run of its transform and of its
leaf in the shared part of the session. The trace of a dispatch lists these runs in their order; one
that a leaf starts by a dispatcher of its own is not among them. Tracing changes neither the outcome
nor what becomes of the session (`Dispatcher.traced_dispatch`).
-/

namespace CloudScope

variable {σ ε υ α β τ : Type}

/-- A run of a function of a dispatcher, with what it is given and the contexts around it. -/
inductive Dispatcher.Run (α : Type) where
  | transform (endpoint : String) (args : α) (before after : Context)
  | leaf (args : α) (before after : Context)
deriving DecidableEq, Repr

namespace Session

def untraced (s : Session (σ × List υ)) : Session σ :=
  ⟨s.context, s.shared.1⟩

def traced (s : Session σ) (trace : List υ) : Session (σ × List υ) :=
  ⟨s.context, (s.shared, trace)⟩

def trace (s : Session (σ × List υ)) : List υ :=
  s.shared.2

@[simp] theorem untraced_context (s : Session (σ × List υ)) :
    s.untraced.context = s.context := rfl

@[simp] theorem trace_traced (s : Session σ) (trace : List υ) :
    (s.traced trace).trace = trace := rfl

end Session

/-! ## Actions under a trace -/

namespace Action

/-- Puts an action under a trace that it leaves alone. -/
def untouched (action : Action σ ε β) : Action (σ × List υ) ε β := fun s =>
  let (result, after) := action s.untraced
  (result, after.traced s.trace)

/-- Puts an action under a trace, and notes there that it was run between two contexts. -/
def noted (note : Context → Context → υ) (action : Action σ ε β) :
    Action (σ × List υ) ε β := fun s =>
  let (result, after) := action s.untraced
  (result, after.traced (s.trace ++ [note s.context after.context]))

theorem bind_ok {x : Action σ ε α} {f : α → Action σ ε β} {s s' : Session σ} {a : α}
    (h : x s = (.ok a, s')) : (x >>= f) s = f a s' := by
  change (match x s with | (result, s) => ExceptT.bindCont f result s) = f a s'
  rw [h]
  rfl

theorem bind_error {x : Action σ ε α} {f : α → Action σ ε β} {s s' : Session σ} {e : ε}
    (h : x s = (.error e, s')) : (x >>= f) s = (.error e, s') := by
  change (match x s with | (result, s) => ExceptT.bindCont f result s) = (.error e, s')
  rw [h]
  rfl

/-- An action under a trace comes to the same without it. -/
def Follows (traced : Action (σ × List υ) ε β) (action : Action σ ε β) : Prop :=
  ∀ s, ((traced s).1, (traced s).2.untraced) = action s.untraced

theorem Follows.bind {x' : Action (σ × List υ) ε α} {x : Action σ ε α}
    {f' : α → Action (σ × List υ) ε β} {f : α → Action σ ε β} (hx : x'.Follows x)
    (hf : ∀ a, (f' a).Follows (f a)) : (x' >>= f').Follows (x >>= f) := by
  intro s
  have hs := hx s
  rcases h : x' s with ⟨e | a, t⟩ <;> rw [h] at hs
  · rw [bind_error h, bind_error hs.symm]
  · rw [bind_ok h, bind_ok hs.symm]
    exact hf a t

theorem Follows.inFrame {x' : Action (σ × List υ) ε α} {x : Action σ ε α} (hx : x'.Follows x)
    (ofScopeError : ScopeError → ε) (serviceType endpoint : String) :
    (inFrame ofScopeError serviceType endpoint x').Follows
      (inFrame ofScopeError serviceType endpoint x) := by
  intro s
  simp only [Action.inFrame, Session.untraced_context]
  cases s.context.push serviceType endpoint with
  | error e => rfl
  | ok p =>
    have hs := hx { s with context := p.2 }
    change (_, _) = x { s.untraced with context := p.2 } at hs
    simp only [← hs]
    rfl

end Action

/-! ## Places -/

theorem not_prefix_of_append {place other : List Side} {side : Side} (h : ¬ place <+: other) :
    ¬ place ++ [side] <+: other :=
  fun hprefix => h ((List.prefix_append place [side]).trans hprefix)

theorem not_prefix_sibling {side side' : Side} (hne : side ≠ side') (place rest : List Side) :
    ¬ place ++ [side] <+: place ++ [side'] ++ rest := by
  rw [List.append_assoc, List.prefix_append_right_inj]
  simp [hne]

theorem not_prefix_self (place : List Side) (side : Side) : ¬ place ++ [side] <+: place := fun h =>
  absurd h.length_le (by simp)

/-! ## Readings -/

section

variable (ev : Evaluator σ ε τ) {op : Operator} {l r : Expr} {place : List Side} {name : String}
  {s : Session σ}

/-- Reading an endpoint that has no outcome runs its leaf. -/
theorem Evaluator.read_endpoint :
    let run := ev.leaf place name s
    ev.read (.endpoint name) place (.endpoint none) s =
      (run.1.map some, .endpoint (run.1.toOption.map some), run.2) := by
  intro run
  simp only [read]
  rw [show ev.leaf place name s = run from rfl]
  rcases run with ⟨_ | _, _⟩ <;> rfl

/-- Reading an operator that has no outcome runs the program of its combinator. -/
theorem Evaluator.read_combine {left : Node τ l} {right : Node τ r} :
    let run := (ev.combine place op l.label r.label).run.run ev.isTruthy
      (ev.read l (place ++ [.left])) (ev.read r (place ++ [.right])) left right s
    ev.read (.combine op l r) place (.combine none left right) s =
      (run.1, .combine run.1.toOption run.2.1.1 run.2.1.2, run.2.2) := by
  intro run
  simp only [read]
  rw [show Program.run _ _ _ _ left right s = run from rfl]
  rcases run with ⟨_ | _, _, _⟩ <;> rfl

/-- A node has an outcome after a reading if the reading came to one. -/
theorem Evaluator.outcome_read {e : Expr} (n : Node τ e) :
    (ev.read e place n s).2.1.outcome = (ev.read e place n s).1.toOption := by
  rcases n with ⟨_ | value⟩ | ⟨_ | value, left, right⟩
  · rw [ev.read_endpoint]
    rcases (ev.leaf place _ s).1 with _ | _ <;> rfl
  · rfl
  · rw [ev.read_combine]
    rfl
  · rfl

end

/-! ## Evaluation under a trace -/

namespace Program

/-- Puts a program under a trace that it leaves alone. -/
def traced : Program σ ε τ α → Program (σ × List υ) ε τ α
  | done result => done result
  | read side next => read side fun answer => (next answer).traced
  | set side value next => set side value next.traced
  | isEvaluated side next => isEvaluated side fun answer => (next answer).traced
  | judge value next => judge value fun answer => (next answer).traced
  | act change next =>
    act (fun s => (change s.untraced).traced s.trace) fun before => (next before.untraced).traced

theorem traced_bind (p : Program σ ε τ α) (f : α → Program σ ε τ β) :
    (p.bind f).traced (υ := υ) = p.traced.bind fun a => (f a).traced := by
  induction p with
  | done result => rfl
  | set side value next ih => simp only [bind, traced, ih]
  | read side next ih | isEvaluated side next ih | judge value next ih | act change next ih =>
    simp only [bind, traced, ih]

end Program

/-- Puts a combinator under a trace that it leaves alone. -/
def Combinator.traced (c : Combinator σ ε τ) : Combinator (σ × List υ) ε τ := fun left right =>
  .mk (c left right).run.traced

/-- Judges values under a trace that stays alone. -/
def judgeTraced (isTruthy : Option τ → StateM σ Bool) (value : Option τ) :
    StateM (σ × List υ) Bool := fun s =>
  let (answer, shared) := isTruthy value s.1
  (answer, (shared, s.2))

/-- What is read under a trace, without the trace. -/
def untrace {γ : Type} (x : β × γ × Session (σ × List υ)) : β × γ × Session σ :=
  (x.1, x.2.1, x.2.2.untraced)

/-- A reading under a trace comes to the same without it. -/
def Reading.Follows {e : Expr} (traced : Reading (σ × List υ) ε τ e) (read : Reading σ ε τ e) :
    Prop :=
  ∀ n s, untrace (traced n s) = read n s.untraced

/-- A program under a trace comes to the same without it, however its sides are read. -/
def Program.Follows (traced : Program (σ × List υ) ε τ α) (p : Program σ ε τ α) : Prop :=
  ∀ {l r : Expr} (isTruthy : Option τ → StateM σ Bool)
    {readLeft : Reading σ ε τ l} {readRight : Reading σ ε τ r}
    {tracedLeft : Reading (σ × List υ) ε τ l} {tracedRight : Reading (σ × List υ) ε τ r},
    tracedLeft.Follows readLeft → tracedRight.Follows readRight → ∀ left right s,
      untrace (traced.run (judgeTraced isTruthy) tracedLeft tracedRight left right s) =
        p.run isTruthy readLeft readRight left right s.untraced

theorem Program.follows_traced (p : Program σ ε τ α) :
    (p.traced : Program (σ × List υ) ε τ α).Follows p := by
  intro l r isTruthy readLeft readRight tracedLeft tracedRight hl hr
  induction p with
  | done result => intro left right s; rfl
  | read side next ih =>
    intro left right s
    cases side with
    | left => simp only [traced, run, ← hl left s]; exact ih _ _ _ _
    | right => simp only [traced, run, ← hr right s]; exact ih _ _ _ _
  | set side value next ih => intro left right s; cases side <;> exact ih _ _ _
  | isEvaluated side next ih => intro left right s; cases side <;> exact ih _ _ _ _
  | judge value next ih | act change next ih => intro left right s; exact ih _ _ _ _

/-- An evaluation under a trace comes to the same without it, in each of its parts. -/
structure Evaluator.Follows (traced : Evaluator (σ × List υ) ε τ) (ev : Evaluator σ ε τ) :
    Prop where
  leaf : ∀ place endpoint, (traced.leaf place endpoint).Follows (ev.leaf place endpoint)
  combine : ∀ place op a b,
    Program.Follows (traced.combine place op a b).run (ev.combine place op a b).run
  isTruthy : traced.isTruthy = judgeTraced ev.isTruthy

section

variable {ev : Evaluator σ ε τ} {traced : Evaluator (σ × List υ) ε τ}

theorem Evaluator.Follows.read (h : traced.Follows ev) (e : Expr) :
    ∀ place, Reading.Follows (traced.read e place) (ev.read e place) := by
  induction e with
  | endpoint name =>
    intro place n s
    rcases n with ⟨_ | value⟩
    · rw [read_endpoint, read_endpoint, ← h.leaf place name s]
      rfl
    · rfl
  | combine op l r ihl ihr =>
    intro place n s
    rcases n with _ | ⟨_ | value, left, right⟩
    · have hs := h.combine place op l.label r.label ev.isTruthy (ihl (place ++ [.left]))
        (ihr (place ++ [.right])) left right s
      rw [read_combine, read_combine, h.isTruthy, ← hs]
      rfl
    · rfl

/-- Evaluation comes to the same under a trace. -/
theorem Evaluator.Follows.evaluate (h : traced.Follows ev) (e : Expr) :
    (traced.evaluate e).Follows (ev.evaluate e) := by
  intro s
  have hs := h.read e [] (.fresh e) s
  simp only [Evaluator.evaluate, ← hs, h.isTruthy]
  rcases traced.read e [] (.fresh e) s with ⟨_ | _, _, t⟩ <;> rfl

end

/-- The evaluation that puts another one under a trace, where its leaves make their notes. -/
def Evaluator.traced (ev : Evaluator σ ε τ)
    (leaf : (place : List Side) → (endpoint : String) → Action (σ × List υ) ε τ) :
    Evaluator (σ × List υ) ε τ where
  leaf
  combine place op := (ev.combine place op).traced
  isTruthy := judgeTraced ev.isTruthy

theorem Evaluator.follows_traced {ev : Evaluator σ ε τ}
    {leaf : (place : List Side) → (endpoint : String) → Action (σ × List υ) ε τ}
    (h : ∀ place endpoint, (leaf place endpoint).Follows (ev.leaf place endpoint)) :
    (ev.traced leaf).Follows ev where
  leaf := h
  combine place op a b := Program.follows_traced (ev.combine place op a b).run
  isTruthy := rfl

namespace Dispatcher

/-- The dispatcher that notes the runs of its transform and of its leaf. -/
def traced (d : Dispatcher σ ε α τ) : Dispatcher (σ × List (Dispatcher.Run α)) ε α τ where
  ofScopeError := d.ofScopeError
  leaf args := (d.leaf args).noted (.leaf args)
  extract := d.extract.map fun extract args => (extract args).untouched
  transform endpoint args := (d.transform endpoint args).noted (.transform endpoint args)
  conjunction := d.conjunction.traced
  disjunction := d.disjunction.traced
  isTruthy := judgeTraced d.isTruthy

theorem traced_runLeaf (d : Dispatcher σ ε α τ) (serviceType : String) (args : α)
    (endpoint : String) :
    (d.traced.runLeaf serviceType args endpoint).Follows (d.runLeaf serviceType args endpoint) :=
  .inFrame (.bind (fun _ => rfl) fun _ _ => rfl) _ _ _

theorem traced_evaluator (d : Dispatcher σ ε α τ) (serviceType : String) (args : α) :
    d.traced.evaluator serviceType args =
      (d.evaluator serviceType args).traced fun _ => d.traced.runLeaf serviceType args := by
  have hc : ∀ op, d.traced.combinator op = (d.combinator op).traced := fun op => by cases op <;> rfl
  simp only [evaluator, Evaluator.traced, hc]
  rfl

/-- Tracing changes neither what a dispatch comes to nor what becomes of the session. -/
theorem traced_dispatch (d : Dispatcher σ ε α τ) (serviceType expression : String) (args : α) :
    (d.traced.dispatch serviceType expression args).Follows
      (d.dispatch serviceType expression args) := by
  intro s
  simp only [dispatch]
  cases Expr.parse expression with
  | error e => rfl
  | ok e =>
    rw [traced_evaluator]
    exact (Evaluator.follows_traced fun _ => d.traced_runLeaf serviceType args).evaluate e s

end Dispatcher

end CloudScope
