import CloudScope.Proofs.Dispatch.Events
import CloudScope.Proofs.Dispatch.Frames

/-!
# Runs of leaves

A leaf that came to a value has an outcome, and is not run again. But a leaf that failed has none:
if a combinator lets the failure pass and reads that side once more, the leaf is run once more. So
all runs of a leaf but the last one fail, and a leaf is run at most once if no combinator reads a
side again that it saw fail (`Dispatcher.results_dispatch`).
-/

namespace CloudScope

variable {σ ε υ α β τ : Type}

/-! ## Runs and their results -/

/-- A run of the leaf at a place. -/
structure LeafRun (ε τ : Type) where
  place : List Side
  result : Except ε τ

/-- What the runs of the leaf at a place came to, in their order. -/
def results (place : List Side) (trace : List (LeafRun ε τ)) : List (Except ε τ) :=
  trace.filterMap fun run => if run.place = place then some run.result else none

theorem results_concat (place : List Side) (trace : List (LeafRun ε τ)) (run : LeafRun ε τ) :
    results place (trace ++ [run]) =
      results place trace ++ if run.place = place then [run.result] else [] := by
  rw [results, List.filterMap_append]
  split <;> simp [*, results]

/-- An evaluation that notes the runs of its leaves and leaves its trace alone otherwise. A leaf
that is not run fails. -/
structure Evaluator.Logs (ev : Evaluator (σ × List (LeafRun ε τ)) ε τ) : Prop where
  leaf : ∀ place endpoint (s : Session (σ × List (LeafRun ε τ))),
    (ev.leaf place endpoint s).2.trace = s.trace ++ [⟨place, (ev.leaf place endpoint s).1⟩] ∨
      (ev.leaf place endpoint s).2.trace = s.trace ∧ ∃ e, (ev.leaf place endpoint s).1 = .error e
  combine : ∀ place op a b, (ev.combine place op a b).run.Acts fun change =>
    ∀ s, (change s).trace = s.trace
  judge : ∀ value (s : Session (σ × List (LeafRun ε τ))),
    (s.judge ev.isTruthy value).2.trace = s.trace

section

variable {ev : Evaluator (σ × List (LeafRun ε τ)) ε τ} (hlogs : ev.Logs)
  {place other : List Side} {s : Session (σ × List (LeafRun ε τ))}

include hlogs

theorem Evaluator.Logs.results_leaf (hne : place ≠ other) (name : String) :
    results other (ev.leaf place name s).2.trace = results other s.trace := by
  obtain h | ⟨h, -⟩ := hlogs.leaf place name s <;> rw [h]
  rw [results_concat, if_neg hne, List.append_nil]

/-- Reading a node runs no leaves but those below it. -/
theorem Evaluator.Logs.results_read {e : Expr} (hother : ¬ place <+: other) (n : Node τ e) :
    results other (ev.read e place n s).2.2.trace = results other s.trace := by
  induction e generalizing place s with
  | endpoint name =>
    rcases n with ⟨_ | value⟩
    · have hne : place ≠ other := fun h => hother (h ▸ List.prefix_refl place)
      rw [ev.read_endpoint]
      exact hlogs.results_leaf hne name
    · rfl
  | combine op l r ihl ihr =>
    rcases n with _ | ⟨_ | value, left, right⟩
    · have hkeeps : ∀ left right,
          Session.Keeps (fun t => results other t.trace = results other s.trace) fun t =>
            ((ev.combine place op l.label r.label).run.run ev.isTruthy
              (ev.read l (place ++ [.left])) (ev.read r (place ++ [.right])) left right t).2.2 :=
        Program.run_keeps
          (fun value t ht => (congrArg (results other) (hlogs.judge value t)).trans ht)
          (fun n t ht => (ihl (not_prefix_of_append hother) n).trans ht)
          (fun n t ht => (ihr (not_prefix_of_append hother) n).trans ht)
          ((hlogs.combine place op _ _).mono fun change hchange t ht =>
            (congrArg (results other) (hchange t)).trans ht)
      rw [ev.read_combine]
      exact hkeeps left right s rfl
    · rfl

end

/-! ## Failures and outcomes -/

/-- Results of which all are failures but the last one, which may be a value once there is an
outcome. -/
def Retried (settled : Bool) (results : List (Except ε τ)) : Prop :=
  ∃ (failures : List ε) (value? : Option τ),
    results = failures.map .error ++ value?.toList.map .ok ∧ (value?.isSome → settled)

section

variable {settled settled' : Bool} {l : List (Except ε τ)}

theorem Retried.mono (h : Retried settled l) (hsettled : settled → settled') :
    Retried settled' l := by
  obtain ⟨failures, value?, hl, hvalue⟩ := h
  exact ⟨failures, value?, hl, fun hsome => hsettled (hvalue hsome)⟩

theorem Retried.concat (h : Retried false l) (result : Except ε τ) :
    Retried result.toOption.isSome (l ++ [result]) := by
  obtain ⟨failures, _ | value, rfl, hvalue⟩ := h
  · cases result with
    | error e => exact ⟨failures ++ [e], none, by simp, nofun⟩
    | ok value => exact ⟨failures, some value, by simp, fun _ => rfl⟩
  · cases hvalue rfl

end

namespace Node

/-- Whether the node at a place below a node has an outcome. -/
def isEvaluatedAt : {e : Expr} → Node τ e → List Side → Bool
  | _, n, [] => n.outcome.isSome
  | _, .endpoint _, _ :: _ => false
  | _, .combine _ left _, .left :: rest => left.isEvaluatedAt rest
  | _, .combine _ _ right, .right :: rest => right.isEvaluatedAt rest

/-- The leaves below a node that have no outcome have failed in all their runs, and the others in
all but the last one. -/
def Accounts {e : Expr} (n : Node τ e) (place : List Side) (trace : List (LeafRun ε τ)) : Prop :=
  ∀ rest, Retried (n.isEvaluatedAt rest) (results (place ++ rest) trace)

section

variable {e l r : Expr} {op : Operator} {n : Node τ e} {left : Node τ l} {right : Node τ r}
  {outcome : Option (Option τ)} {place : List Side} {trace trace' : List (LeafRun ε τ)}

theorem Accounts.congr (h : n.Accounts place trace)
    (hsame : ∀ rest, results (place ++ rest) trace' = results (place ++ rest) trace) :
    n.Accounts place trace' := fun rest => hsame rest ▸ h rest

theorem Accounts.set (h : n.Accounts place trace) (value : Option τ) :
    (n.set value).Accounts place trace := by
  intro rest
  refine (h rest).mono fun hsettled => ?_
  cases n <;> rcases rest with _ | ⟨_ | _, rest⟩ <;> first | rfl | exact hsettled

theorem accounts_combine_iff :
    Accounts (.combine outcome left right : Node τ (.combine op l r)) place trace ↔
      Retried outcome.isSome (results place trace) ∧ left.Accounts (place ++ [.left]) trace ∧
        right.Accounts (place ++ [.right]) trace := by
  constructor
  · intro h
    refine ⟨?_, fun rest => ?_, fun rest => ?_⟩
    · simpa [isEvaluatedAt, Node.outcome] using h []
    · simpa [isEvaluatedAt] using h (.left :: rest)
    · simpa [isEvaluatedAt] using h (.right :: rest)
  · rintro ⟨hself, hleft, hright⟩ (_ | ⟨_ | _, rest⟩)
    · simpa [isEvaluatedAt, Node.outcome] using hself
    · simpa [isEvaluatedAt] using hleft rest
    · simpa [isEvaluatedAt] using hright rest

end

end Node

section

variable {ev : Evaluator (σ × List (LeafRun ε τ)) ε τ} (hlogs : ev.Logs)
  {place : List Side} {s : Session (σ × List (LeafRun ε τ))}

include hlogs

/-- Running a leaf that has failed so far gives it one more failure, or a value. -/
theorem Evaluator.Logs.retried_leaf (name : String) (h : Retried false (results place s.trace)) :
    Retried (ev.leaf place name s).1.toOption.isSome
      (results place (ev.leaf place name s).2.trace) := by
  obtain hrun | ⟨hrun, e, hfail⟩ := hlogs.leaf place name s <;> rw [hrun]
  · rw [results_concat, if_pos rfl]
    exact h.concat _
  · rwa [hfail]

end

/-- What is kept of the failures and outcomes below the two sides of an operator at a place. -/
structure Program.Accounted {l r : Expr} (place : List Side)
    (p : Program (σ × List (LeafRun ε τ)) ε τ α) (left : Node τ l) (right : Node τ r)
    (s : Session (σ × List (LeafRun ε τ))) : Prop where
  acts : p.Acts fun change => ∀ s, (change s).trace = s.trace
  self : Retried false (results place s.trace)
  left : left.Accounts (place ++ [.left]) s.trace
  right : right.Accounts (place ++ [.right]) s.trace

/-- A reading at a place that keeps the account of failures and outcomes there. -/
def Reading.KeepsAccount {e : Expr} (read : Reading (σ × List (LeafRun ε τ)) ε τ e)
    (place : List Side) : Prop :=
  ∀ n s, n.Accounts place s.trace → (read n s).2.1.Accounts place (read n s).2.2.trace

section

variable {ev : Evaluator (σ × List (LeafRun ε τ)) ε τ} (hlogs : ev.Logs)

include hlogs

/-- Each side keeps its own account, and what the other side runs is not in it. -/
theorem Evaluator.Logs.kept_accounted {l r : Expr} (place : List Side)
    (hl : Reading.KeepsAccount (ev.read l (place ++ [Side.left])) (place ++ [Side.left]))
    (hr : Reading.KeepsAccount (ev.read r (place ++ [Side.right])) (place ++ [Side.right])) :
    Program.Kept ev.isTruthy (ev.read l (place ++ [.left])) (ev.read r (place ++ [.right]))
      (Program.Accounted (α := α) place) where
  left next left right s h := {
    acts := h.acts _
    self := by
      rw [hlogs.results_read (not_prefix_self place .left)]
      exact h.self
    left := hl left s h.left
    right := h.right.congr fun rest =>
      hlogs.results_read (not_prefix_sibling (by decide) place rest) left }
  right next left right s h := {
    acts := h.acts _
    self := by
      rw [hlogs.results_read (not_prefix_self place .right)]
      exact h.self
    left := h.left.congr fun rest =>
      hlogs.results_read (not_prefix_sibling (by decide) place rest) right
    right := hr right s h.right }
  setLeft value next left right s h := ⟨h.acts, h.self, h.left.set value, h.right⟩
  setRight value next left right s h := ⟨h.acts, h.self, h.left, h.right.set value⟩
  ask side next left right s answer h := ⟨h.acts answer, h.self, h.left, h.right⟩
  judge value next left right s h := by
    have hsame := hlogs.judge value s
    exact ⟨h.acts _, hsame ▸ h.self, hsame ▸ h.left, hsame ▸ h.right⟩
  act change next left right s h := by
    have hsame := h.acts.1 s
    exact ⟨h.acts.2 s, hsame ▸ h.self, hsame ▸ h.left, hsame ▸ h.right⟩

/-- A reading keeps the account of failures and outcomes. -/
theorem Evaluator.Logs.accounts_read (e : Expr) :
    ∀ place, Reading.KeepsAccount (ev.read e place) place := by
  induction e with
  | endpoint name =>
    intro place n s h
    rcases n with ⟨_ | value⟩
    · rw [ev.read_endpoint]
      rintro (_ | ⟨side, rest⟩)
      · have hfailed : Retried false (results place s.trace) := by
          rw [← List.append_nil place]
          exact h []
        have hleaf := hlogs.retried_leaf name hfailed
        rw [List.append_nil]
        exact hleaf.mono fun hsome => Option.isSome_map.trans hsome
      · rw [hlogs.results_leaf (by simp)]
        exact h (side :: rest)
    · exact h
  | combine op l r ihl ihr =>
    intro place n s h
    rcases n with _ | ⟨_ | value, left, right⟩
    · -- no leaf stands at the place of an operator, so its own account stays as it is
      obtain ⟨hself, hleft, hright⟩ := Node.accounts_combine_iff.mp h
      rw [ev.read_combine]
      have hrun := (hlogs.kept_accounted place (ihl _) (ihr _)).run _ left right s
        ⟨hlogs.combine place op l.label r.label, hself, hleft, hright⟩
      exact Node.accounts_combine_iff.mpr
        ⟨hrun.self.mono (nomatch ·), hrun.left, hrun.right⟩
    · exact h

end

/-! ## Heedful programs -/

/-- The program reads no side again after it failed, unless the side was given an outcome since. It
starts with the sides that have `failed`. -/
def Program.Heeds : (failed : Side → Bool) → Program σ ε τ α → Prop
  | _, done _ => True
  | failed, read side next => failed side = false ∧ (∀ value, (next (.ok value)).Heeds failed) ∧
    ∀ e, (next (.error e)).Heeds (Function.update failed side true)
  | failed, set side _ next => next.Heeds (Function.update failed side false)
  | failed, isEvaluated _ next => ∀ answer, (next answer).Heeds failed
  | failed, judge _ next => ∀ answer, (next answer).Heeds failed
  | failed, act _ next => ∀ before, (next before).Heeds failed

theorem Program.Heeds.traced {failed : Side → Bool} {p : Program σ ε τ α} (h : p.Heeds failed) :
    (p.traced : Program (σ × List υ) ε τ α).Heeds failed := by
  induction p generalizing failed with
  | done => trivial
  | read _ _ ih => exact ⟨h.1, fun value => ih _ (h.2.1 value), fun e => ih _ (h.2.2 e)⟩
  | set _ _ _ ih => exact ih h
  | isEvaluated _ _ ih | judge _ _ ih => exact fun answer => ih answer (h answer)
  | act _ _ ih => exact fun before => ih _ (h _)

/-- A combinator that never reads a side again that it saw fail. -/
def Combinator.Heeds (c : Combinator σ ε τ) : Prop :=
  ∀ a b, (c a b).run.Heeds fun _ => false

/-- A failure that the program reads is what it comes to. -/
def Program.Propagates : Program σ ε τ (Except ε α) → Prop
  | done _ => True
  | read _ next => (∀ value, (next (.ok value)).Propagates) ∧ ∀ e, next (.error e) = done (.error e)
  | set _ _ next => next.Propagates
  | isEvaluated _ next => ∀ answer, (next answer).Propagates
  | judge _ next => ∀ answer, (next answer).Propagates
  | act _ next => ∀ before, (next before).Propagates

theorem Program.Propagates.bind {p : Program σ ε τ (Except ε α)} (hp : p.Propagates)
    {f : α → Combination σ ε τ β} (hf : ∀ a, (f a).run.Propagates) :
    (Program.bind p (ExceptT.bindCont f)).Propagates := by
  induction p with
  | done result =>
    cases result with
    | error => trivial
    | ok a => exact hf a
  | read _ _ ih =>
    exact ⟨fun value => ih _ (hp.1 value), fun e =>
      congrArg (Program.bind · (ExceptT.bindCont f)) (hp.2 e)⟩
  | set _ _ _ ih => exact ih hp
  | isEvaluated _ _ ih | judge _ _ ih | act _ _ ih => exact fun answer => ih answer (hp answer)

theorem Combination.compositional_propagates :
    Compositional fun {α} (x : Combination σ ε τ α) => x.run.Propagates where
  pure _ := trivial
  bind hx hf := Program.Propagates.bind hx hf
  read _ := ⟨fun _ => trivial, fun _ => rfl⟩
  set _ _ := trivial
  judge _ := fun _ => trivial

theorem Program.Propagates.heeds {p : Program σ ε τ (Except ε α)} (h : p.Propagates) :
    p.Heeds fun _ => false := by
  induction p with
  | done => trivial
  | read _ _ ih =>
    refine ⟨rfl, fun value => ih _ (h.1 value), fun e => ?_⟩
    rw [h.2 e]
    trivial
  | set _ _ _ ih =>
    rw [Heeds, Function.update_eq_self]
    exact ih h
  | isEvaluated _ _ ih | judge _ _ ih | act _ _ ih => exact fun answer => ih answer (h answer)

/-- The combinators at hand fail with the first side that fails. -/
theorem Stock.heeds (stock : Stock τ) : (stock.combinator : Combinator σ ε τ).Heeds := fun a b =>
  (Combination.compositional_propagates.stock stock a b).heeds

/-- No leaf at a place or below it has been run twice. -/
def AtMostOnce (place : List Side) (trace : List (LeafRun ε τ)) : Prop :=
  ∀ rest, (results (place ++ rest) trace).length ≤ 1

theorem atMostOnce_iff {place : List Side} {trace : List (LeafRun ε τ)} : AtMostOnce place trace ↔
    (results place trace).length ≤ 1 ∧ AtMostOnce (place ++ [.left]) trace ∧
      AtMostOnce (place ++ [.right]) trace := by
  constructor
  · intro h
    exact ⟨by simpa using h [], fun rest => by simpa using h (.left :: rest),
      fun rest => by simpa using h (.right :: rest)⟩
  · rintro ⟨hself, hleft, hright⟩ (_ | ⟨_ | _, rest⟩)
    · simpa using hself
    · simpa using hleft rest
    · simpa using hright rest

/-- No leaf below a node has been run twice and, unless the node has failed, none will be when it is
read: it has an outcome, or nothing below it has been run. -/
structure Node.Ready {e : Expr} (failed : Bool) (n : Node τ e) (place : List Side)
    (trace : List (LeafRun ε τ)) : Prop where
  once : AtMostOnce place trace
  fit : failed = false →
    n.outcome.isSome ∨ n = .fresh e ∧ ∀ rest, results (place ++ rest) trace = []

section

variable {e : Expr} {failed : Bool} {n : Node τ e} {place : List Side}
  {trace trace' : List (LeafRun ε τ)}

theorem Node.Ready.congr (h : n.Ready failed place trace)
    (hsame : ∀ rest, results (place ++ rest) trace' = results (place ++ rest) trace) :
    n.Ready failed place trace' where
  once rest := by
    rw [hsame]
    exact h.once rest
  fit hfailed := (h.fit hfailed).imp id fun ⟨hfresh, hnone⟩ =>
    ⟨hfresh, fun rest => (hsame rest).trans (hnone rest)⟩

theorem Node.Ready.set (h : n.Ready failed place trace) (value : Option τ) :
    (n.set value).Ready false place trace :=
  ⟨h.once, fun _ => .inl (by cases n <;> rfl)⟩

theorem Node.ready_fresh (e : Expr) (hnone : ∀ rest, results (place ++ rest) trace = []) :
    (Node.fresh e : Node τ e).Ready false place trace where
  once rest := by simp [hnone rest]
  fit _ := .inr ⟨rfl, hnone⟩

/-- A node that was ready is ready after a reading, unless that failed. -/
theorem Node.Ready.of_read {ev : Evaluator (σ × List (LeafRun ε τ)) ε τ}
    {s : Session (σ × List (LeafRun ε τ))}
    (honce : AtMostOnce place (ev.read e place n s).2.2.trace)
    (hfailed : failed = false → ∃ value, (ev.read e place n s).1 = .ok value) :
    (ev.read e place n s).2.1.Ready failed place (ev.read e place n s).2.2.trace := by
  refine ⟨honce, fun hok => .inl ?_⟩
  obtain ⟨value, hvalue⟩ := hfailed hok
  rw [ev.outcome_read, hvalue]
  rfl

end

/-- What is kept of the runs below the two sides of an operator at a place. -/
structure Program.Heedful {l r : Expr} (place : List Side)
    (p : Program (σ × List (LeafRun ε τ)) ε τ α) (left : Node τ l) (right : Node τ r)
    (s : Session (σ × List (LeafRun ε τ))) : Prop where
  acts : p.Acts fun change => ∀ s, (change s).trace = s.trace
  self : results place s.trace = []
  ready : ∃ failed, p.Heeds failed ∧ left.Ready (failed .left) (place ++ [.left]) s.trace ∧
    right.Ready (failed .right) (place ++ [.right]) s.trace

/-- A reading at a place that runs no leaf there twice if the node was ready. -/
def Reading.RunsOnce {e : Expr} (read : Reading (σ × List (LeafRun ε τ)) ε τ e)
    (place : List Side) : Prop :=
  ∀ n s, n.Ready false place s.trace → AtMostOnce place (read n s).2.2.trace

/-- A side that a heedful program reads was ready, and is ready again unless it failed, which the
rest of the program heeds. -/
theorem Program.Heeds.ready_read {ev : Evaluator (σ × List (LeafRun ε τ)) ε τ} {e : Expr}
    {n : Node τ e} {place : List Side} {s : Session (σ × List (LeafRun ε τ))} {side : Side}
    {next : Except ε (Option τ) → Program (σ × List (LeafRun ε τ)) ε τ α} {failed : Side → Bool}
    (hheeds : (Program.read side next).Heeds failed)
    (hread : Reading.RunsOnce (ev.read e place) place) (h : n.Ready (failed side) place s.trace) :
    ∃ failed' : Side → Bool, (∀ other ≠ side, failed' other = failed other) ∧
      (next (ev.read e place n s).1).Heeds failed' ∧
      (ev.read e place n s).2.1.Ready (failed' side) place (ev.read e place n s).2.2.trace := by
  obtain ⟨hfailed, hok, herror⟩ := hheeds
  rw [hfailed] at h
  have honce := hread n s h
  cases hresult : (ev.read e place n s).1 with
  | error error =>
    refine ⟨_, fun other hne => Function.update_of_ne hne _ _, herror error, .of_read honce ?_⟩
    simp
  | ok value =>
    exact ⟨failed, fun _ _ => rfl, hok value, .of_read honce fun _ => ⟨value, hresult⟩⟩

section

variable {ev : Evaluator (σ × List (LeafRun ε τ)) ε τ} (hlogs : ev.Logs)

include hlogs

/-- Each side stays ready until it fails, and what the other side runs is not below it. -/
theorem Evaluator.Logs.kept_heedful {l r : Expr} (place : List Side)
    (hl : Reading.RunsOnce (ev.read l (place ++ [Side.left])) (place ++ [Side.left]))
    (hr : Reading.RunsOnce (ev.read r (place ++ [Side.right])) (place ++ [Side.right])) :
    Program.Kept ev.isTruthy (ev.read l (place ++ [.left])) (ev.read r (place ++ [.right]))
      (Program.Heedful (α := α) place) where
  left next left right s h := by
    obtain ⟨failed, hheeds, hleft, hright⟩ := h.ready
    obtain ⟨failed', hsame, hheeds', hleft'⟩ := hheeds.ready_read hl hleft
    refine ⟨h.acts _, ?self, failed', hheeds', hleft', ?other⟩
    case self =>
      rw [hlogs.results_read (not_prefix_self place .left)]
      exact h.self
    case other =>
      rw [hsame .right (by decide)]
      exact hright.congr fun rest =>
        hlogs.results_read (not_prefix_sibling (by decide) place rest) left
  right next left right s h := by
    obtain ⟨failed, hheeds, hleft, hright⟩ := h.ready
    obtain ⟨failed', hsame, hheeds', hright'⟩ := hheeds.ready_read hr hright
    refine ⟨h.acts _, ?self, failed', hheeds', ?other, hright'⟩
    case self =>
      rw [hlogs.results_read (not_prefix_self place .right)]
      exact h.self
    case other =>
      rw [hsame .left (by decide)]
      exact hleft.congr fun rest =>
        hlogs.results_read (not_prefix_sibling (by decide) place rest) right
  setLeft value next left right s h := by
    obtain ⟨failed, hheeds, hleft, hright⟩ := h.ready
    exact ⟨h.acts, h.self, _, hheeds, hleft.set value, hright⟩
  setRight value next left right s h := by
    obtain ⟨failed, hheeds, hleft, hright⟩ := h.ready
    exact ⟨h.acts, h.self, _, hheeds, hleft, hright.set value⟩
  ask side next left right s answer h := by
    obtain ⟨failed, hheeds, hready⟩ := h.ready
    exact ⟨h.acts answer, h.self, failed, hheeds answer, hready⟩
  judge value next left right s h := by
    have hsame := hlogs.judge value s
    obtain ⟨failed, hheeds, hready⟩ := h.ready
    exact ⟨h.acts _, hsame ▸ h.self, failed, hheeds _, hsame ▸ hready⟩
  act change next left right s h := by
    have hsame := h.acts.1 s
    obtain ⟨failed, hheeds, hready⟩ := h.ready
    exact ⟨h.acts.2 s, hsame ▸ h.self, failed, hheeds s, hsame ▸ hready⟩

/-- With combinators that read no side again after it failed, readings run no leaf twice. -/
theorem Evaluator.Logs.runsOnce_read (hheeds : ∀ place op, (ev.combine place op).Heeds)
    (e : Expr) : ∀ place, Reading.RunsOnce (ev.read e place) place := by
  induction e with
  | endpoint name =>
    intro place n s h
    rcases n with ⟨_ | value⟩
    · obtain hsome | ⟨-, hnone⟩ := h.fit rfl
      · cases hsome
      rw [ev.read_endpoint]
      rintro (_ | ⟨side, rest⟩)
      · have hself := hnone []
        rw [List.append_nil] at hself ⊢
        obtain hrun | ⟨hrun, -⟩ := hlogs.leaf place name s <;> simp [hrun, results_concat, hself]
      · rw [hlogs.results_leaf (by simp)]
        exact h.once (side :: rest)
    · exact h.once
  | combine op l r ihl ihr =>
    intro place n s h
    rcases n with _ | ⟨_ | value, left, right⟩
    · obtain hsome | ⟨hfresh, hnone⟩ := h.fit rfl
      · cases hsome
      -- an operator that is read for the first time has fresh sides, so both of them are ready
      cases hfresh
      have hside (side : Side) (rest : List Side) :
          results (place ++ [side] ++ rest) s.trace = [] := by
        rw [List.append_assoc]
        exact hnone _
      rw [ev.read_combine]
      have hrun := (hlogs.kept_heedful place (ihl _) (ihr _)).run _ (.fresh l) (.fresh r) s
        { acts := hlogs.combine place op l.label r.label
          self := by simpa using hnone []
          ready := ⟨fun _ => false, hheeds place op l.label r.label,
            Node.ready_fresh l (hside .left), Node.ready_fresh r (hside .right)⟩ }
      obtain ⟨failed, -, hleft, hright⟩ := hrun.ready
      exact atMostOnce_iff.mpr ⟨by simp [hrun.self], hleft.once, hright.once⟩
    · exact h.once

end

/-! ## Dispatches -/

theorem Evaluator.Logs.trace_evaluate {ev : Evaluator (σ × List (LeafRun ε τ)) ε τ}
    (hlogs : ev.Logs) (e : Expr) (s : Session (σ × List (LeafRun ε τ))) :
    (ev.evaluate e s).2.trace = (ev.read e [] (.fresh e) s).2.2.trace := by
  rw [evaluate]
  rcases ev.read e [] (.fresh e) s with ⟨_ | value, _, s'⟩
  · rfl
  · exact hlogs.judge value s'

theorem Program.acts_traced (p : Program σ ε τ α) :
    (p.traced : Program (σ × List υ) ε τ α).Acts fun change => ∀ s, (change s).trace = s.trace := by
  induction p with
  | done => trivial
  | read _ _ ih | isEvaluated _ _ ih | judge _ _ ih => exact fun answer => ih answer
  | set _ _ _ ih => exact ih
  | act _ _ ih => exact ⟨fun _ => rfl, fun before => ih _⟩

theorem Action.untouched_eq {x : Action σ ε α} {s : Session (σ × List υ)} {after : Session σ}
    {result : Except ε α} (h : x s.untraced = (result, after)) :
    x.untouched s = (result, after.traced s.trace) := by
  rw [untouched, h]

namespace Dispatcher

section

variable (d : Dispatcher σ ε α τ) (serviceType : String) (args : α)

/-- Runs the leaf for the endpoint at a place, and notes what that run comes to. -/
def runLeafAt (place : List Side) (endpoint : String) : Action (σ × List (LeafRun ε τ)) ε τ :=
  .inFrame d.ofScopeError serviceType endpoint do
    let args ← (d.transform endpoint args).untouched
    Session.recorded (fun result => ⟨place, result⟩) (d.leaf args)

/-- Dispatches a call, and notes the runs of the leaves with their places in the expression. -/
def dispatchLogged (expression : String) : Action (σ × List (LeafRun ε τ)) ε (Option τ) :=
  match Expr.parse expression with
  | .error e => throw (d.ofScopeError (.parse e))
  | .ok e => ((d.evaluator serviceType args).traced (d.runLeafAt serviceType args)).evaluate e

theorem follows_dispatchLogged (expression : String) :
    (d.dispatchLogged serviceType args expression).Follows
      (d.dispatch serviceType expression args) := by
  intro s
  simp only [dispatchLogged, dispatch]
  cases Expr.parse expression with
  | error e => rfl
  | ok e =>
    refine (Evaluator.follows_traced fun place endpoint => ?_).evaluate e s
    exact .inFrame (.bind (fun _ => rfl) fun _ _ => rfl) _ _ _

theorem logs_runLeafAt :
    ((d.evaluator serviceType args).traced (d.runLeafAt serviceType args)).Logs where
  leaf place endpoint s := by
    rw [show Evaluator.leaf _ = d.runLeafAt serviceType args from rfl, runLeafAt]
    rcases hpush : s.context.push serviceType endpoint with e | ⟨guard, context⟩
    · simp only [Action.inFrame, hpush]
      exact .inr ⟨trivial, _, rfl⟩
    · rw [Action.inFrame_of_push _ hpush]
      rcases ht : d.transform endpoint args ⟨context, s.shared.1⟩ with ⟨e | args', s'⟩ <;>
        have htransform : (d.transform endpoint args).untouched { s with context } =
          (_, s'.traced s.trace) := Action.untouched_eq ht
      · rw [Action.bind_error htransform]
        exact .inr ⟨rfl, e, rfl⟩
      · rw [Action.bind_ok htransform]
        exact .inl rfl
  combine place op a b := Program.acts_traced _
  judge _ _ := rfl

section

variable (expression : String) (s : Session σ)

theorem exists_results_eq (place : List Side) :
    ∃ (failures : List ε) (value? : Option τ),
      results place (d.dispatchLogged serviceType args expression (s.traced [])).2.trace =
        failures.map .error ++ value?.toList.map .ok := by
  rw [dispatchLogged]
  cases Expr.parse expression with
  | error e => exact ⟨[], none, rfl⟩
  | ok e =>
    have hlogs := d.logs_runLeafAt serviceType args
    have haccounts := hlogs.accounts_read e [] (.fresh e) (s.traced []) fun rest =>
      ⟨[], none, rfl, nofun⟩
    obtain ⟨failures, value?, hresults, -⟩ := haccounts place
    rw [hlogs.trace_evaluate]
    exact ⟨failures, value?, hresults⟩

variable {d} in
theorem length_results_le_one (hand : d.conjunction.Heeds) (hor : d.disjunction.Heeds)
    (place : List Side) :
    (results place
      (d.dispatchLogged serviceType args expression (s.traced [])).2.trace).length ≤ 1 := by
  rw [dispatchLogged]
  cases Expr.parse expression with
  | error e => exact Nat.zero_le 1
  | ok e =>
    have hlogs := d.logs_runLeafAt serviceType args
    have hready : (Node.fresh e : Node τ e).Ready false [] ([] : List (LeafRun ε τ)) :=
      Node.ready_fresh e fun _ => rfl
    rw [hlogs.trace_evaluate]
    refine hlogs.runsOnce_read (fun _ op a b => ?_) e [] (.fresh e) (s.traced []) hready place
    cases op with
    | and => exact (hand a b).traced
    | or => exact (hor a b).traced

/-- With combinators at hand, no leaf is run twice. -/
theorem length_results_withStock (stock : Operator → Stock τ) (place : List Side) :
    (results place ((d.withStock stock).dispatchLogged serviceType args expression
      (s.traced [])).2.trace).length ≤ 1 :=
  length_results_le_one serviceType args expression s (stock .and).heeds (stock .or).heeds place

/-- All runs of a leaf but the last one fail. If no combinator reads a side again after it failed, a
leaf is run at most once. -/
theorem results_dispatch :
    let run := d.dispatchLogged serviceType args expression (s.traced [])
    (run.1, run.2.untraced) = d.dispatch serviceType expression args s ∧
      ∀ place,
        (∃ (failures : List ε) (value? : Option τ),
          results place run.2.trace = failures.map .error ++ value?.toList.map .ok) ∧
        (d.conjunction.Heeds → d.disjunction.Heeds → (results place run.2.trace).length ≤ 1) :=
  ⟨d.follows_dispatchLogged serviceType args expression (s.traced []), fun place =>
    ⟨d.exists_results_eq serviceType args expression s place, fun hand hor =>
      length_results_le_one serviceType args expression s hand hor place⟩⟩

end

end

theorem results_dispatch_failover :
    let d : Dispatcher Unit String String Nat :=
      { ofScopeError := ScopeError.message
        leaf := fun _ s =>
          (if s.context.peek?.any (·.endpoint = "A") then .error "down" else .ok 7, s)
        conjunction := fun _ _ => .mk (.read .left fun _ => .read .right .done) }
    let s : Session Unit := ⟨∅, ()⟩
    let run := d.dispatchLogged "compute" "list" "A & B" (s.traced [])
    d.conjunction.Heeds ∧ d.disjunction.Heeds ∧ run.1 = .ok (some 7) ∧
      results [.left] run.2.trace = [.error "down"] ∧
      ∀ place, (results place run.2.trace).length ≤ 1 := by
  intro d s run
  have h : Expr.parse "A & B" = .ok (.combine .and (.endpoint "A") (.endpoint "B")) := by cbv
  have hand : d.conjunction.Heeds := fun _ _ =>
    have hright (failed : Side → Bool) (hfailed : failed .right = false) :
        (Program.read .right .done : Program Unit String Nat _).Heeds failed :=
      ⟨hfailed, fun _ => trivial, fun _ => trivial⟩
    ⟨rfl, fun _ => hright _ rfl, fun _ => hright _ rfl⟩
  have hor : d.disjunction.Heeds := Stock.disjunction.heeds
  refine ⟨hand, hor, ?_, ?_, fun place => ?_⟩
  · simp only [run, dispatchLogged, h]
    rfl
  · simp only [run, dispatchLogged, h]
    rfl
  · exact ((results_dispatch d "compute" "list" "A & B" s).2 place).2 hand hor

/-- A leaf that fails is run again when its side is read again. -/
theorem results_dispatch_of_reread :
    let d : Dispatcher Unit String String Nat :=
      { ofScopeError := ScopeError.message
        leaf := fun _ s => (.error "down", s)
        conjunction := fun _ _ =>
          .mk (.read .left fun _ => .read .left fun _ => .done (.ok none)) }
    let s : Session Unit := ⟨∅, ()⟩
    let run := d.dispatchLogged "compute" "list" "A & B" (s.traced [])
    d.dispatch "compute" "A & B" "list" s = (.ok none, s) ∧
      results [.left] run.2.trace = [.error "down", .error "down"] ∧
      ¬ ∀ place, (results place run.2.trace).length ≤ 1 := by
  intro d s run
  have h : Expr.parse "A & B" = .ok (.combine .and (.endpoint "A") (.endpoint "B")) := by cbv
  have hresults : results [.left] run.2.trace = [.error "down", .error "down"] := by
    simp only [run, dispatchLogged, h]
    rfl
  refine ⟨?_, hresults, fun honce => ?_⟩
  · rw [dispatch, h]
    rfl
  · have hleft := honce [.left]
    rw [hresults] at hleft
    exact absurd hleft (by decide)

end Dispatcher

end CloudScope
