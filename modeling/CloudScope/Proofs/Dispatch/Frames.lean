import CloudScope.Proofs.Dispatch.Memory

/-!
# Frames of dispatches

A dispatch leaves the stack of frames as it was, whatever it comes to, if its transform and its leaf
leave the frames below their own in place; they may push and pop above them and run dispatches of
their own (`Dispatcher.frames_dispatch`). Without that condition the stack is at least no deeper
afterwards, since each frame is released to the depth at which it was pushed.
-/

namespace CloudScope

variable {σ ε υ α β τ : Type}

/-! ## What a run of an evaluation preserves -/

/-- Every change that a program makes to the session is of a kind. -/
def Program.Acts (p : (Session σ → Session σ) → Prop) : Program σ ε τ α → Prop
  | done _ => True
  | read _ next => ∀ answer, (next answer).Acts p
  | set _ _ next => next.Acts p
  | isEvaluated _ next => ∀ answer, (next answer).Acts p
  | judge _ next => ∀ answer, (next answer).Acts p
  | act change next => p change ∧ ∀ before, (next before).Acts p

theorem Program.Acts.mono {p q : (Session σ → Session σ) → Prop} {x : Program σ ε τ α}
    (h : x.Acts p) (hpq : ∀ change, p change → q change) : x.Acts q := by
  induction x with
  | done => trivial
  | read _ _ ih | isEvaluated _ _ ih | judge _ _ ih => exact fun answer => ih answer (h answer)
  | set _ _ _ ih => exact ih h
  | act _ _ ih => exact ⟨hpq _ h.1, fun before => ih before (h.2 before)⟩

theorem Program.Acts.traced {p : (Session σ → Session σ) → Prop}
    {q : (Session (σ × List υ) → Session (σ × List υ)) → Prop} {x : Program σ ε τ α}
    (h : x.Acts p) (hpq : ∀ change, p change → q fun s => (change s.untraced).traced s.trace) :
    x.traced.Acts q := by
  induction x with
  | done => trivial
  | read _ _ ih | isEvaluated _ _ ih | judge _ _ ih => exact fun answer => ih answer (h answer)
  | set _ _ _ ih => exact ih h
  | act _ _ ih => exact ⟨hpq _ h.1, fun before => ih _ (h.2 _)⟩

theorem Program.Acts.bind {p : (Session σ → Session σ) → Prop} {x : Program σ ε τ α}
    {f : α → Program σ ε τ β} (hx : x.Acts p) (hf : ∀ a, (f a).Acts p) : (x.bind f).Acts p := by
  induction x with
  | done a => exact hf a
  | read _ _ ih | isEvaluated _ _ ih | judge _ _ ih => exact fun answer => ih answer (hx answer)
  | set _ _ _ ih => exact ih hx
  | act _ _ ih => exact ⟨hx.1, fun before => ih before (hx.2 before)⟩

/-- What each step of a program keeps, given what is left of the program, the two sides and the
session. -/
structure Program.Kept {l r : Expr} (isTruthy : Option τ → StateM σ Bool)
    (readLeft : Reading σ ε τ l) (readRight : Reading σ ε τ r)
    (inv : Program σ ε τ α → Node τ l → Node τ r → Session σ → Prop) : Prop where
  left : ∀ next left right s, inv (.read .left next) left right s →
    inv (next (readLeft left s).1) (readLeft left s).2.1 right (readLeft left s).2.2
  right : ∀ next left right s, inv (.read .right next) left right s →
    inv (next (readRight right s).1) left (readRight right s).2.1 (readRight right s).2.2
  setLeft : ∀ value next left right s, inv (.set .left value next) left right s →
    inv next (left.set value) right s
  setRight : ∀ value next left right s, inv (.set .right value next) left right s →
    inv next left (right.set value) s
  ask : ∀ side next left right s answer, inv (.isEvaluated side next) left right s →
    inv (next answer) left right s
  judge : ∀ value next left right s, inv (.judge value next) left right s →
    inv (next (s.judge isTruthy value).1) left right (s.judge isTruthy value).2
  act : ∀ change next left right s, inv (.act change next) left right s →
    inv (next s) left right (change s)

/-- What each step of a program keeps, a run of it keeps. -/
theorem Program.Kept.run {l r : Expr} {isTruthy : Option τ → StateM σ Bool}
    {readLeft : Reading σ ε τ l} {readRight : Reading σ ε τ r}
    {inv : Program σ ε τ α → Node τ l → Node τ r → Session σ → Prop}
    (hkept : Kept isTruthy readLeft readRight inv) (p : Program σ ε τ α) : ∀ left right s,
      inv p left right s → let after := p.run isTruthy readLeft readRight left right s
        inv (.done after.1) after.2.1.1 after.2.1.2 after.2.2 := by
  induction p with
  | done result => exact fun left right s h => h
  | read side next ih =>
    intro left right s h
    cases side with
    | left => exact ih _ _ _ _ (hkept.left next left right s h)
    | right => exact ih _ _ _ _ (hkept.right next left right s h)
  | set side value next ih =>
    intro left right s h
    cases side with
    | left => exact ih _ _ _ (hkept.setLeft value next left right s h)
    | right => exact ih _ _ _ (hkept.setRight value next left right s h)
  | isEvaluated side next ih =>
    intro left right s h
    cases side <;> exact ih _ _ _ _ (hkept.ask _ next left right s _ h)
  | judge value next ih =>
    exact fun left right s h => ih _ _ _ _ (hkept.judge value next left right s h)
  | act change next ih =>
    exact fun left right s h => ih _ _ _ _ (hkept.act change next left right s h)

/-- A change that keeps what is said of the session. -/
def Session.Keeps (inv : Session σ → Prop) (change : Session σ → Session σ) : Prop :=
  ∀ s, inv s → inv (change s)

section

variable {inv : Session σ → Prop} {isTruthy : Option τ → StateM σ Bool}
  (hjudge : ∀ value, Session.Keeps inv fun s => (s.judge isTruthy value).2)

include hjudge

theorem Program.run_keeps {l r : Expr} {readLeft : Reading σ ε τ l} {readRight : Reading σ ε τ r}
    (hl : ∀ n, Session.Keeps inv fun s => (readLeft n s).2.2)
    (hr : ∀ n, Session.Keeps inv fun s => (readRight n s).2.2)
    {p : Program σ ε τ α} (hp : p.Acts (Session.Keeps inv)) (left : Node τ l) (right : Node τ r) :
    Session.Keeps inv fun s => (p.run isTruthy readLeft readRight left right s).2.2 := by
  have hkept : Kept isTruthy readLeft readRight fun (p : Program σ ε τ α) _ _ s =>
      p.Acts (Session.Keeps inv) ∧ inv s :=
    { left := fun next left right s h => ⟨h.1 _, hl left s h.2⟩
      right := fun next left right s h => ⟨h.1 _, hr right s h.2⟩
      setLeft := fun value next left right s h => h
      setRight := fun value next left right s h => h
      ask := fun side next left right s answer h => ⟨h.1 answer, h.2⟩
      judge := fun value next left right s h => ⟨h.1 _, hjudge value s h.2⟩
      act := fun change next left right s h => ⟨h.1.2 s, h.1.1 s h.2⟩ }
  exact fun s hs => (hkept.run p left right s ⟨hp, hs⟩).2

theorem Evaluator.read_keeps {ev : Evaluator σ ε τ} (hev : ev.isTruthy = isTruthy)
    (hleaf : ∀ place endpoint, Session.Keeps inv fun s => (ev.leaf place endpoint s).2)
    (hcombine : ∀ place op a b, (ev.combine place op a b).run.Acts (Session.Keeps inv))
    (e : Expr) : ∀ place n, Session.Keeps inv fun s => (ev.read e place n s).2.2 := by
  subst hev
  induction e with
  | endpoint name =>
    intro place n s hs
    rcases n with ⟨_ | value⟩
    · simp only [ev.read_endpoint]
      exact hleaf place name s hs
    · exact hs
  | combine op l r ihl ihr =>
    intro place n s hs
    rcases n with _ | ⟨_ | value, left, right⟩
    · simp only [ev.read_combine]
      exact Program.run_keeps hjudge (ihl (place ++ [.left])) (ihr (place ++ [.right]))
        (hcombine place op l.label r.label) left right s hs
    · exact hs

theorem Evaluator.evaluate_keeps {ev : Evaluator σ ε τ} (hev : ev.isTruthy = isTruthy)
    (hleaf : ∀ place endpoint, Session.Keeps inv fun s => (ev.leaf place endpoint s).2)
    (hcombine : ∀ place op a b, (ev.combine place op a b).run.Acts (Session.Keeps inv))
    (e : Expr) : Session.Keeps inv fun s => (ev.evaluate e s).2 := by
  intro s hs
  have h : inv (ev.read e [] (.fresh e) s).2.2 :=
    read_keeps hjudge hev hleaf hcombine e [] (.fresh e) s hs
  subst hev
  rcases hx : ev.read e [] (.fresh e) s with ⟨_ | value, _, s'⟩ <;> rw [hx] at h
  · simpa only [evaluate, hx] using h
  · simpa only [evaluate, hx] using hjudge value s' h

end

/-! ## Frames -/

theorem Context.push_ok {ctx context : Context} {serviceType endpoint : String} {guard : Guard}
    (h : ctx.push serviceType endpoint = .ok (guard, context)) :
    guard.depth = ctx.frames.length ∧ context.frames = ctx.frames ++ [⟨serviceType, endpoint⟩] := by
  simp only [push] at h
  split at h
  · cases h
  · split at h
    · cases h
      exact ⟨rfl, rfl⟩
    · cases h

/-- A frame is refused before anything runs, or the action runs on top of it and the stack is then
cut back to its depth before. -/
theorem Action.inFrame_cases (ofScopeError : ScopeError → ε) (serviceType endpoint : String)
    (x : Action σ ε α) (s : Session σ) :
    (inFrame ofScopeError serviceType endpoint x s).2 = s ∨
      ∃ context : Context, context.frames = s.context.frames ++ [⟨serviceType, endpoint⟩] ∧
        (inFrame ofScopeError serviceType endpoint x s).2 =
          let after := (x { s with context }).2
          { after with context := after.context.release ⟨s.context.frames.length⟩ } := by
  simp only [inFrame]
  cases h : s.context.push serviceType endpoint with
  | error e => exact .inl rfl
  | ok p =>
    obtain ⟨⟨depth⟩, context⟩ := p
    obtain ⟨hdepth, hframes⟩ := Context.push_ok h
    cases hdepth
    exact .inr ⟨context, hframes, rfl⟩

/-- An action that leaves in place a stack of frames that it starts above. -/
def Action.KeepsBelow (entry : List Frame) (x : Action σ ε α) : Prop :=
  ∀ s, entry <+: s.context.frames → entry <+: (x s).2.context.frames

/-- No change that a combinator makes to the session touches the frames. -/
def Combinator.KeepsFrames (c : Combinator σ ε τ) : Prop :=
  ∀ left right, (c left right).run.Acts fun change =>
    ∀ s, (change s).context.frames = s.context.frames

/-- What holds of each step that the combinators at hand are made of, and of a sequence if it holds
of its parts. -/
structure Combination.Compositional (p : ∀ {α : Type}, Combination σ ε τ α → Prop) : Prop where
  pure : ∀ {α : Type} (a : α), p (pure a)
  bind : ∀ {α β : Type} {x : Combination σ ε τ α} {f : α → Combination σ ε τ β}, p x →
    (∀ a, p (f a)) → p (x >>= f)
  read : ∀ side, p (Combination.read side)
  set : ∀ side value, p (Combination.set side value)
  judge : ∀ value, p (Combination.judge value)

section

variable {p : ∀ {α : Type}, Combination σ ε τ α → Prop}

theorem Combination.Compositional.take (h : Compositional p) (side : Side) : p (take side) :=
  h.bind (h.read side) fun _ => h.bind (h.set side none) fun _ => h.pure _

theorem Combination.Compositional.ifTruthy (h : Compositional p) {side : Side}
    {x y : Combination σ ε τ (Option τ)} (hx : p x) (hy : p y) :
    p (do if ← isTruthy side then x else y) := by
  refine h.bind (h.bind (h.read side) h.judge) fun answer => ?_
  cases answer with
  | false => exact hy
  | true => exact hx

/-- What is compositional holds of the combinators at hand. -/
theorem Combination.Compositional.stock (h : Compositional p) (stock : Stock τ) (a b : Label) :
    p (stock.combinator a b) := by
  have hmerge : ∀ merge : τ → τ → τ, p (Combinator.mergeAll merge a b) := fun merge =>
    h.bind (h.take .left) fun _ => h.bind (h.take .right) fun _ => h.pure _
  cases stock with
  | conjunction => exact h.ifTruthy (h.ifTruthy (h.take .right) (h.pure none)) (h.pure none)
  | disjunction => exact h.ifTruthy (h.take .left) (h.ifTruthy (h.take .right) (h.pure none))
  | mergeTruthy merge => exact h.ifTruthy (h.ifTruthy (hmerge merge) (h.pure none)) (h.pure none)
  | mergeAll merge => exact hmerge merge
  | concatenation => exact hmerge _

end

theorem Combination.compositional_acts (p : (Session σ → Session σ) → Prop) :
    Compositional fun {α} (x : Combination σ ε τ α) => x.run.Acts p where
  pure _ := trivial
  bind hx hf := Program.Acts.bind hx fun result => match result with
    | .error _ => trivial
    | .ok a => hf a
  read _ := fun _ => trivial
  set _ _ := trivial
  judge _ := fun _ => trivial

/-- The combinators at hand change nothing in the session. -/
theorem Stock.acts (stock : Stock τ) (p : (Session σ → Session σ) → Prop) (a b : Label) :
    (stock.combinator a b : Combination σ ε τ (Option τ)).run.Acts p :=
  (Combination.compositional_acts p).stock stock a b

theorem Stock.keepsFrames (stock : Stock τ) : (stock.combinator : Combinator σ ε τ).KeepsFrames :=
  fun a b => stock.acts _ a b

namespace Dispatcher

/-- Above a stack of frames, the runs of the transform and of the leaf for a call leave that stack
in place; their own frame is on top of it when the transform starts. -/
structure Confined (d : Dispatcher σ ε α τ) (serviceType : String) (args : α)
    (entry : List Frame) : Prop where
  transform : ∀ endpoint s, s.context.frames = entry ++ [⟨serviceType, endpoint⟩] →
    entry <+: (d.transform endpoint args s).2.context.frames
  leaf : ∀ endpoint s args' s', s.context.frames = entry ++ [⟨serviceType, endpoint⟩] →
    d.transform endpoint args s = (.ok args', s') → entry <+: (d.leaf args' s').2.context.frames

end Dispatcher

/-- Runs as they follow each other in a dispatch: each run of the transform starts with the frame of
its endpoint on top of the entry stack, and so does the run of the leaf behind it if the context is
as the transform found it. -/
inductive Framed (serviceType : String) (entry : List Frame) : List (Dispatcher.Run α) → Prop where
  | nil : Framed serviceType entry []
  | transform {endpoint : String} {args : α} {before after : Context}
    {runs : List (Dispatcher.Run α)} :
    Framed serviceType entry runs → before.frames = entry ++ [⟨serviceType, endpoint⟩] →
    Framed serviceType entry (runs ++ [.transform endpoint args before after])
  | leaf {endpoint : String} {args args' : α} {before after start last : Context}
    {runs : List (Dispatcher.Run α)} :
    Framed serviceType entry (runs ++ [.transform endpoint args before after]) →
    (after = before → start.frames = entry ++ [⟨serviceType, endpoint⟩]) →
    Framed serviceType entry
      (runs ++ [.transform endpoint args before after] ++ [.leaf args' start last])

namespace Dispatcher

variable {d : Dispatcher σ ε α τ} {serviceType : String} {args : α} {entry : List Frame}

/-- What a traced dispatcher runs for an endpoint leaves the stack of frames as it was, and its runs
are framed. -/
theorem traced_runLeaf_keeps (h : d.Confined serviceType args entry) (endpoint : String) :
    Session.Keeps (fun s => s.context.frames = entry ∧ Framed serviceType entry s.trace)
      fun s => (d.traced.runLeaf serviceType args endpoint s).2 := by
  rintro s ⟨rfl, htrace⟩
  rcases Action.inFrame_cases d.traced.ofScopeError serviceType endpoint
    (do d.traced.leaf (← d.traced.transform endpoint args)) s with hs | ⟨context, hctx, hs⟩
  · simp only [runLeaf, hs]
    exact ⟨trivial, htrace⟩
  simp only [runLeaf, hs]
  have hkept := h.transform endpoint ⟨context, s.shared.1⟩ hctx
  have hruns : Framed serviceType s.context.frames (s.trace ++ [.transform endpoint args context
      (d.transform endpoint args ⟨context, s.shared.1⟩).2.context]) := htrace.transform hctx
  rcases ht : d.transform endpoint args ⟨context, s.shared.1⟩ with ⟨e | args', s'⟩ <;>
    rw [ht] at hkept hruns
  · have htr : d.traced.transform endpoint args { s with context } = (.error e, s'.traced
        (s.trace ++ [.transform endpoint args context s'.context])) := by
      simp only [traced, Action.noted, Session.untraced, ht]
      rfl
    rw [Action.bind_error htr]
    exact ⟨(List.prefix_iff_eq_take.1 hkept).symm, hruns⟩
  · have htr : d.traced.transform endpoint args { s with context } = (.ok args', s'.traced
        (s.trace ++ [.transform endpoint args context s'.context])) := by
      simp only [traced, Action.noted, Session.untraced, ht]
      rfl
    rw [Action.bind_ok htr]
    refine ⟨(List.prefix_iff_eq_take.1 (h.leaf endpoint _ args' s' hctx ht)).symm, ?_⟩
    exact hruns.leaf fun hsame => (congrArg Context.frames hsame).trans hctx

theorem runLeaf_depth (depth : Nat) (endpoint : String) :
    Session.Keeps (fun s => s.context.depth ≤ depth)
      fun s => (d.runLeaf serviceType args endpoint s).2 := by
  intro s hs
  rcases Action.inFrame_cases d.ofScopeError serviceType endpoint
    (do d.leaf (← d.transform endpoint args)) s with h | ⟨context, -, h⟩
  · simpa only [runLeaf, h] using hs
  · simp only [runLeaf, h, Context.depth, Context.release]
    exact Nat.le_trans (List.length_take_le _ _) hs

/-- A dispatch keeps what its leaves, its judge and its combinators keep. -/
theorem dispatch_keeps {inv : Session σ → Prop}
    (hjudge : ∀ value, Session.Keeps inv fun s => (s.judge d.isTruthy value).2)
    (hleaf : ∀ endpoint, Session.Keeps inv fun s => (d.runLeaf serviceType args endpoint s).2)
    (hand : ∀ a b, (d.conjunction a b).run.Acts (Session.Keeps inv))
    (hor : ∀ a b, (d.disjunction a b).run.Acts (Session.Keeps inv)) (expression : String) :
    Session.Keeps inv fun s => (d.dispatch serviceType expression args s).2 := by
  intro s hs
  simp only [dispatch]
  cases Expr.parse expression with
  | error e => exact hs
  | ok e =>
    refine Evaluator.evaluate_keeps hjudge rfl (fun _ => hleaf) (fun _ op => ?_) e s hs
    cases op with
    | and => exact hand
    | or => exact hor

theorem frames_traced_dispatch (h : d.Confined serviceType args entry)
    (hand : d.conjunction.KeepsFrames) (hor : d.disjunction.KeepsFrames) (expression : String) :
    Session.Keeps (fun s => s.context.frames = entry ∧ Framed serviceType entry s.trace)
      fun s => (d.traced.dispatch serviceType expression args s).2 := by
  refine dispatch_keeps (fun _ _ hs => hs) (traced_runLeaf_keeps h) (fun a b => ?_)
    (fun a b => ?_) expression
  · exact (hand a b).traced fun change hc s hs => ⟨(hc _).trans hs.1, hs.2⟩
  · exact (hor a b).traced fun change hc s hs => ⟨(hc _).trans hs.1, hs.2⟩

/-- A dispatch leaves the stack of frames exactly as it was. -/
theorem frames_eq_of_confined (s : Session σ) (h : d.Confined serviceType args s.context.frames)
    (hand : d.conjunction.KeepsFrames) (hor : d.disjunction.KeepsFrames) (expression : String) :
    (d.dispatch serviceType expression args s).2.context.frames = s.context.frames := by
  have hframes := (frames_traced_dispatch h hand hor expression (s.traced []) ⟨rfl, .nil⟩).1
  have hsame : _ = (d.dispatch serviceType expression args s).2 :=
    congrArg Prod.snd (d.traced_dispatch serviceType expression args (s.traced []))
  exact hsame ▸ hframes

theorem depth_dispatch_le (s : Session σ) (hand : d.conjunction.KeepsFrames)
    (hor : d.disjunction.KeepsFrames) (expression : String) :
    (d.dispatch serviceType expression args s).2.context.depth ≤ s.context.depth := by
  have hkeeps : Session.Keeps (fun s' => s'.context.depth ≤ s.context.depth)
      fun s' => (d.dispatch serviceType expression args s').2 := by
    refine dispatch_keeps (fun _ _ hs => hs) (runLeaf_depth _) (fun a b => ?_) (fun a b => ?_)
      expression
    · exact (hand a b).mono fun change hc s hs =>
        Nat.le_trans (Nat.le_of_eq (congrArg List.length (hc s))) hs
    · exact (hor a b).mono fun change hc s hs =>
        Nat.le_trans (Nat.le_of_eq (congrArg List.length (hc s))) hs
  exact hkeeps s (Nat.le_refl _)

/-- Dispatchers whose leaves run dispatches of lower levels leave the stack of frames exactly as it
was, if their own runs leave in place what these dispatches leave in place. -/
theorem frames_eq_of_nested (d : Nat → Dispatcher σ ε α τ)
    (hand : ∀ n, (d n).conjunction.KeepsFrames) (hor : ∀ n, (d n).disjunction.KeepsFrames)
    (h : ∀ n serviceType args entry, (∀ m < n, ∀ serviceType expression args,
        ((d m).dispatch serviceType expression args).KeepsBelow entry) →
      (d n).Confined serviceType args entry) (n : Nat) :
    ∀ (serviceType expression : String) (args : α) (s : Session σ),
      ((d n).dispatch serviceType expression args s).2.context.frames = s.context.frames := by
  induction n using Nat.strongRecOn with
  | ind n ih =>
    intro serviceType expression args s
    refine frames_eq_of_confined s (h n _ _ _ fun m hm _ _ _ s' hs' => ?_) (hand n) (hor n) _
    rw [ih m hm]
    exact hs'

/-- With combinators that leave the frames alone, a dispatch leaves the stack of frames exactly as
it was, and its runs are framed, if the transform and the leaf leave the frames below their own in
place. Whatever they do, the stack is no deeper afterwards. -/
theorem frames_dispatch (d : Dispatcher σ ε α τ) (serviceType expression : String) (args : α)
    (s : Session σ) (hand : d.conjunction.KeepsFrames) (hor : d.disjunction.KeepsFrames) :
    (d.Confined serviceType args s.context.frames →
        (d.dispatch serviceType expression args s).2.context.frames = s.context.frames ∧
        Framed serviceType s.context.frames
          (d.traced.dispatch serviceType expression args (s.traced [])).2.trace) ∧
      (d.dispatch serviceType expression args s).2.context.depth ≤ s.context.depth :=
  ⟨fun h => ⟨frames_eq_of_confined s h hand hor expression,
      (frames_traced_dispatch h hand hor expression (s.traced []) ⟨rfl, .nil⟩).2⟩,
    depth_dispatch_le s hand hor expression⟩

theorem frames_dispatch_popped :
    let leaking : Dispatcher Unit String Unit Nat :=
      { ofScopeError := ScopeError.message
        leaf := fun _ s => (.ok s.context.depth,
          ⟨⟨s.context.shell, s.context.frames ++ [⟨"image", "kept"⟩]⟩, ()⟩) }
    let popping : Dispatcher Unit String Unit Nat :=
      { ofScopeError := ScopeError.message
        leaf := fun _ => do
          (fun s => (.ok (), ⟨s.context.pop.2, ()⟩) : Action Unit String Unit)
          let _ ← leaking.dispatch "image" "C | D" ()
          throw "lost" }
    let s : Session Unit := ⟨⟨none, [⟨"network", "N"⟩]⟩, ()⟩
    popping.Confined "compute" () s.context.frames ∧
      (popping.dispatch "compute" "A & B" () s).2.context.frames = s.context.frames ∧
      Framed "compute" s.context.frames
        (popping.traced.dispatch "compute" "A & B" () (s.traced [])).2.trace ∧
      (popping.dispatch "compute" "A & B" () s).2.context.depth ≤ s.context.depth := by
  intro leaking popping s
  have hleaking (t : Session Unit) :
      (leaking.dispatch "image" "C | D" () t).2.context.frames = t.context.frames := by
    refine frames_eq_of_confined t ⟨fun _ _ h => ?_, fun _ _ _ _ h ht => ?_⟩
      (Stock.keepsFrames .conjunction) (Stock.keepsFrames .disjunction) _
    · exact h ▸ List.prefix_append _ _
    · cases ht
      exact (h ▸ List.prefix_append _ _ : t.context.frames <+: _).trans (List.prefix_append _ _)
  have h : popping.Confined "compute" () s.context.frames := by
    refine ⟨fun _ _ h => h ▸ List.prefix_append _ _, fun _ t _ _ h ht => ?_⟩
    cases ht
    have hpop : t.context.pop.2.frames = s.context.frames := by simp [Context.pop, h]
    have hinner := hleaking ⟨t.context.pop.2, ()⟩
    rcases hd : leaking.dispatch "image" "C | D" () ⟨t.context.pop.2, ()⟩ with ⟨e | value, t'⟩
    all_goals
      rw [hd] at hinner
      have hend : t'.context.frames = s.context.frames := hinner.trans hpop
      simp only [popping, Action.bind_ok (x := fun s => (.ok (), ⟨s.context.pop.2, ()⟩)) rfl]
    · rw [Action.bind_error hd]
      exact hend ▸ List.prefix_refl _
    · rw [Action.bind_ok hd]
      exact hend ▸ List.prefix_refl _
  have hdispatch := frames_dispatch popping "compute" "A & B" () s (Stock.keepsFrames .conjunction)
    (Stock.keepsFrames .disjunction)
  exact ⟨h, (hdispatch.1 h).1, (hdispatch.1 h).2, hdispatch.2⟩

end Dispatcher

end CloudScope
