import CloudScope.Proofs.Dispatch.Events
import CloudScope.Proofs.Dispatch.Memory

/-!
# Short-circuit evaluation

With the combinators that choose one side, an expression is read as a Boolean one: an endpoint holds
if its answer is true, `&` is "and", `|` is "or", and a right side is left alone where the left one
settles the matter. What is evaluated comes to the answer that this reading chooses, or to the error
of the first endpoint that fails (`Expr.notes_decide`).
-/

namespace CloudScope

variable {σ ε υ τ : Type}

/-- Whether an operator leaves its right side alone, given the truth of the left one. -/
def Operator.isSettledBy : Operator → Bool → Bool
  | .and, left => !left
  | .or, left => left

namespace Expr

/-! ## The Boolean reading -/

section

variable (isTrue : τ → Bool)

/-- Whether an expression is true, given an answer for each place of an endpoint in it. -/
def holds : Expr → (List Side → τ) → Bool
  | endpoint _, answer => isTrue (answer [])
  | combine .and l r, answer => holds l (answer <| .left :: ·) && holds r (answer <| .right :: ·)
  | combine .or l r, answer => holds l (answer <| .left :: ·) || holds r (answer <| .right :: ·)

/-- The answer that makes an expression true: the rightmost of a conjunction, and the first one of a
disjunction that is true. -/
def chosen : Expr → (List Side → τ) → τ
  | endpoint _, answer => answer []
  | combine .and _ r, answer => chosen r (answer <| .right :: ·)
  | combine .or l r, answer =>
    if holds isTrue l (answer <| .left :: ·) then chosen l (answer <| .left :: ·)
    else chosen r (answer <| .right :: ·)

/-- The answer that is chosen, if the expression is true. -/
def outcome (e : Expr) (answer : List Side → τ) : Option τ :=
  if e.holds isTrue answer then some (e.chosen isTrue answer) else none

/-- The endpoints that evaluation from left to right gets to, with their answers. -/
def reached : Expr → (List Side → τ) → List (String × τ)
  | endpoint name, answer => [(name, answer [])]
  | combine op l r, answer =>
    reached l (answer <| .left :: ·) ++
      if op.isSettledBy (holds isTrue l (answer <| .left :: ·)) then []
      else reached r (answer <| .right :: ·)

variable {isTrue} {op : Operator} {l r : Expr} {answer : List Side → τ}

theorem isSome_outcome (e : Expr) (answer : List Side → τ) :
    (e.outcome isTrue answer).isSome = e.holds isTrue answer := by
  rw [outcome]
  cases e.holds isTrue answer <;> rfl

theorem outcome_endpoint (name : String) (answer : List Side → τ) :
    (endpoint name).outcome isTrue answer = Option.guard isTrue (answer []) := rfl

/-- An expression comes to what its left side comes to if that settles the matter, and else to what
its right side comes to. -/
theorem outcome_combine :
    (combine op l r).outcome isTrue answer =
      if op.isSettledBy (l.holds isTrue (answer <| .left :: ·)) then
        l.outcome isTrue (answer <| .left :: ·)
      else r.outcome isTrue (answer <| .right :: ·) := by
  cases op <;> cases h : holds isTrue l (answer <| .left :: ·) <;>
    simp [outcome, holds, chosen, Operator.isSettledBy, h]

/-- What an expression comes to is a true answer of an endpoint that is reached. -/
theorem exists_mem_reached_of_mem_outcome {e : Expr} {value : τ}
    (h : value ∈ e.outcome isTrue answer) :
    isTrue value = true ∧ ∃ name, (name, value) ∈ e.reached isTrue answer := by
  induction e generalizing answer with
  | endpoint name =>
    rw [Option.mem_def, outcome_endpoint] at h
    obtain ⟨rfl, hvalue⟩ := Option.guard_eq_some_iff.mp h
    exact ⟨hvalue, name, List.mem_singleton_self _⟩
  | combine op l r ihl ihr =>
    rw [outcome_combine] at h
    split at h <;> rename_i hsettled
    · obtain ⟨hvalue, name, hname⟩ := ihl h
      exact ⟨hvalue, name, List.mem_append_left _ hname⟩
    · obtain ⟨hvalue, name, hname⟩ := ihr h
      rw [reached, if_neg hsettled]
      exact ⟨hvalue, name, List.mem_append_right _ hname⟩

/-- What is reached are some of the endpoints, in their order. -/
theorem reached_sublist (e : Expr) (answer : List Side → τ) :
    ((e.reached isTrue answer).map Prod.fst).Sublist e.endpoints := by
  induction e generalizing answer with
  | endpoint name => exact .refl _
  | combine op l r ihl ihr =>
    rw [reached, List.map_append]
    refine (ihl _).append ?_
    split
    · exact List.nil_sublist _
    · exact ihr _

example : (combine .or (endpoint "A") (combine .and (endpoint "B") (endpoint "C"))).reached
    (· < 300) (fun place => if place = [.left] then 503 else 404) = [("A", 503), ("B", 404)] := rfl

end

end Expr

/-! ## Visits of endpoints -/

/-- Endpoints that are visited in turn, and answer. -/
inductive Visits (visit : String → List υ → Except ε τ → Prop) :
    List (String × τ) → List υ → Prop where
  | nil : Visits visit [] []
  | cons {name : String} {value : τ} {rest : List (String × τ)} {events events' : List υ} :
    visit name events (.ok value) → Visits visit rest events' →
    Visits visit ((name, value) :: rest) (events ++ events')

section

variable {visit : String → List υ → Except ε τ → Prop}

theorem Visits.single {name : String} {value : τ} {events : List υ}
    (h : visit name events (.ok value)) : Visits visit [(name, value)] events := by
  have hvisits := Visits.cons h .nil
  rwa [List.append_nil] at hvisits

/-- An endpoint that answered was visited at some time of the visits. -/
theorem Visits.exists_visit {visited : List (String × τ)} {name : String} {value : τ}
    {events : List υ} (h : Visits visit visited events) (hmem : (name, value) ∈ visited) :
    ∃ noted, noted <:+: events ∧ visit name noted (.ok value) := by
  induction h with
  | nil => cases hmem
  | cons hvisit _ ih =>
    rcases List.mem_cons.mp hmem with hfirst | hmem
    · cases hfirst
      exact ⟨_, (List.prefix_append _ _).isInfix, hvisit⟩
    · obtain ⟨noted, hnoted, hlater⟩ := ih hmem
      exact ⟨noted, hnoted.trans (List.suffix_append _ _).isInfix, hlater⟩

theorem Visits.append {visited visited' : List (String × τ)} {events events' : List υ}
    (h : Visits visit visited events) (h' : Visits visit visited' events') :
    Visits visit (visited ++ visited') (events ++ events') := by
  induction h with
  | nil => exact h'
  | cons hvisit _ ih =>
    rw [List.append_assoc]
    exact .cons hvisit ih

end

/-- Evaluation from left to right of an expression, by the events and the result of it: it fails
with the first endpoint reached that fails, and else comes to the outcome of the answers. At places
that are not reached, and where an endpoint fails, no answer matters. -/
inductive Expr.ShortCircuits (isTrue : τ → Bool) (visit : String → List υ → Except ε τ → Prop)
    (e : Expr) : List υ → Except ε (Option τ) → Prop where
  | failed (answer : List Side → τ) {visited unvisited : List (String × τ)} {name : String}
    {value : τ} {events events' : List υ} {error : ε} :
    e.reached isTrue answer = visited ++ (name, value) :: unvisited →
    Visits visit visited events → visit name events' (.error error) →
    ShortCircuits isTrue visit e (events ++ events') (.error error)
  | completed (answer : List Side → τ) {events : List υ} :
    Visits visit (e.reached isTrue answer) events →
    ShortCircuits isTrue visit e events (.ok (e.outcome isTrue answer))

namespace Expr

/-- The answers of two sides, by the places below them. -/
def beside (left right : List Side → τ) : List Side → τ
  | [] => left []
  | .left :: place => left place
  | .right :: place => right place

section

variable (isTrue : τ → Bool) (op : Operator) (l r : Expr) (left right : List Side → τ)

theorem reached_beside :
    (combine op l r).reached isTrue (beside left right) = l.reached isTrue left ++
      if op.isSettledBy (l.holds isTrue left) then [] else r.reached isTrue right := rfl

theorem outcome_beside :
    (combine op l r).outcome isTrue (beside left right) =
      if op.isSettledBy (l.holds isTrue left) then l.outcome isTrue left
      else r.outcome isTrue right := outcome_combine

end

section

variable {isTrue : τ → Bool} {visit : String → List υ → Except ε τ → Prop} {op : Operator}
  {l r : Expr} {events events' : List υ} {value : Option τ} {result : Except ε (Option τ)}

theorem ShortCircuits.endpoint [Nonempty τ] {name : String} {answer : Except ε τ}
    (h : visit name events answer) :
    (endpoint name).ShortCircuits isTrue visit events (answer.map (Option.guard isTrue)) := by
  cases answer with
  | error e =>
    have answer (_ : List Side) : τ := Classical.arbitrary τ
    have hreached : (Expr.endpoint name).reached isTrue answer = [] ++ [(name, answer [])] := rfl
    exact .failed answer hreached .nil h
  | ok value => exact .completed (fun _ => value) (.single h)

/-- An endpoint is all that evaluation of it gets to. -/
theorem ShortCircuits.of_endpoint {name : String}
    (h : (Expr.endpoint name).ShortCircuits isTrue visit events result) :
    ∃ answer, visit name events answer ∧ result = answer.map (Option.guard isTrue) := by
  cases h with
  | @failed answer visited unvisited name' value _ _ error hreached hvisits hfail =>
    rcases visited with _ | ⟨first, visited⟩
    · cases hreached
      cases hvisits
      exact ⟨.error error, hfail, rfl⟩
    · have hlength := congrArg List.length hreached
      simp [reached] at hlength
  | completed answer hvisits =>
    rw [reached] at hvisits
    obtain _ | @⟨_, _, _, _, _, hvisit, hnone⟩ := hvisits
    cases hnone
    rw [List.append_nil]
    exact ⟨.ok (answer []), hvisit, rfl⟩

/-- A value that evaluation comes to is a true answer of an endpoint that was visited. -/
theorem ShortCircuits.exists_visit {e : Expr} {answered : τ}
    (h : e.ShortCircuits isTrue visit events (.ok (some answered))) :
    isTrue answered = true ∧ ∃ name ∈ e.endpoints, ∃ noted, noted <:+: events ∧
      visit name noted (.ok answered) := by
  generalize hresult : (.ok (some answered) : Except ε (Option τ)) = result at h
  cases h with
  | failed => cases hresult
  | completed answer hvisits =>
    obtain ⟨htrue, name, hreached⟩ :=
      exists_mem_reached_of_mem_outcome (Except.ok.inj hresult).symm
    have hname := (e.reached_sublist answer).subset (List.mem_map_of_mem hreached)
    exact ⟨htrue, name, hname, hvisits.exists_visit hreached⟩

theorem ShortCircuits.left_error {error : ε}
    (h : l.ShortCircuits isTrue visit events (.error error)) :
    (combine op l r).ShortCircuits isTrue visit events (.error error) := by
  obtain ⟨answer, hreached, hvisits, hfail⟩ := h
  have hbeside := reached_beside isTrue op l r answer answer
  rw [hreached, List.append_assoc, List.cons_append] at hbeside
  exact .failed _ hbeside hvisits hfail

/-- A left side that settles the matter is all that is evaluated. -/
theorem ShortCircuits.settled (h : l.ShortCircuits isTrue visit events (.ok value))
    (hsettled : op.isSettledBy value.isSome = true) :
    (combine op l r).ShortCircuits isTrue visit events (.ok value) := by
  obtain _ | ⟨answer, hvisits⟩ := h
  rw [isSome_outcome] at hsettled
  have hreached : (combine op l r).reached isTrue (beside answer answer) =
      l.reached isTrue answer := by
    rw [reached_beside, if_pos hsettled, List.append_nil]
  have houtcome : (combine op l r).outcome isTrue (beside answer answer) =
      l.outcome isTrue answer := by
    rw [outcome_beside, if_pos hsettled]
  rw [← houtcome]
  rw [← hreached] at hvisits
  exact .completed _ hvisits

/-- Behind a left side that does not settle the matter, the right side is evaluated. -/
theorem ShortCircuits.right (h : l.ShortCircuits isTrue visit events (.ok value))
    (hopen : op.isSettledBy value.isSome = false)
    (hr : r.ShortCircuits isTrue visit events' result) :
    (combine op l r).ShortCircuits isTrue visit (events ++ events') result := by
  obtain _ | ⟨left, hleft⟩ := h
  rw [isSome_outcome] at hopen
  have hreached (right : List Side → τ) :
      (combine op l r).reached isTrue (beside left right) =
        l.reached isTrue left ++ r.reached isTrue right := by
    rw [reached_beside, hopen]
    rfl
  have houtcome (right : List Side → τ) :
      (combine op l r).outcome isTrue (beside left right) = r.outcome isTrue right := by
    rw [outcome_beside, hopen]
    rfl
  -- the places below the two sides are apart, so their answers can be put side by side
  cases hr with
  | failed right hright hvisits hfail =>
    have hboth := hreached right
    rw [hright, ← List.append_assoc] at hboth
    rw [← List.append_assoc]
    exact .failed _ hboth (hleft.append hvisits) hfail
  | completed right hvisits =>
    have hboth := hleft.append hvisits
    rw [← hreached] at hboth
    rw [← houtcome]
    exact .completed _ hboth

end

end Expr

/-! ## Evaluation -/

/-- The combinators that choose one side. -/
def Stock.choosing : Operator → Stock τ
  | .and => .conjunction
  | .or => .disjunction

/-- A judge goes by the values steadily if what is absent is false, and what was found true is found
true again. Neither of these changes anything. -/
structure Steady (isTruthy : Option τ → StateM σ Bool) : Prop where
  absent : ∀ s, isTruthy none s = (false, s)
  again : ∀ {value s s'}, isTruthy value s = (true, s') → isTruthy value s' = (true, s')

/-- Every function of the value is steady, if an absent value is false to it. -/
theorem steady_pure {isTrue : Option τ → Bool} (h : isTrue none = false) :
    Steady (fun value => pure (isTrue value) : Option τ → StateM σ Bool) where
  absent _ := congrArg (·, _) h
  again hvalue := congrArg (·, _) (congrArg Prod.fst hvalue)

namespace Action

/-- Goes on by whether a value counts as true. -/
def ifTrue (isTruthy : Option τ → StateM σ Bool) (value : Option τ) (x y : Action σ ε β) :
    Action σ ε β := do
  if ← judge isTruthy value then x else y

/-- Comes to a value if it counts as true. -/
def keep (isTruthy : Option τ → StateM σ Bool) (value : Option τ) : Action σ ε (Option τ) :=
  ifTrue isTruthy value (pure value) (pure none)

section

variable {isTruthy : Option τ → StateM σ Bool} {value : Option τ} {s : Session σ} {shared : σ}
  (x y : Action σ ε β)

theorem ifTrue_of_true (hs : isTruthy value s.shared = (true, shared)) :
    ifTrue isTruthy value x y s = x { s with shared } := by
  rw [ifTrue, bind_judge, Session.judge, hs]
  rfl

theorem ifTrue_of_false (hs : isTruthy value s.shared = (false, shared)) :
    ifTrue isTruthy value x y s = y { s with shared } := by
  rw [ifTrue, bind_judge, Session.judge, hs]
  rfl

theorem ifTrue_bind (x y : Action σ ε α) (f : α → Action σ ε β) :
    ifTrue isTruthy value x y >>= f = ifTrue isTruthy value (x >>= f) (y >>= f) := by
  rw [ifTrue, ifTrue, bind_assoc]
  refine congrArg (judge isTruthy value >>= ·) (funext fun answer => ?_)
  cases answer <;> rfl

theorem keep_pure (isTrue : Option τ → Bool) (value : Option τ) :
    (keep (fun value => pure (isTrue value)) value : Action σ ε (Option τ)) =
      pure (if isTrue value then value else none) := by
  funext s
  cases hvalue : isTrue value with
  | true => exact ifTrue_of_true _ _ (congrArg (·, s.shared) hvalue)
  | false => exact ifTrue_of_false _ _ (congrArg (·, s.shared) hvalue)

variable {x y} {x' y' : Action σ ε β} (h : Steady isTruthy)

include h

theorem ifTrue_none : ifTrue isTruthy none x y = y :=
  funext fun _ => ifTrue_of_false x y (h.absent _)

/-- What counts as true is a value. -/
theorem ifTrue_congr (hx : value.isSome = true → x = x') (hy : y = y') :
    ifTrue isTruthy value x y = ifTrue isTruthy value x' y' := by
  cases value with
  | none => rw [ifTrue_none h, ifTrue_none h, hy]
  | some a => rw [hx rfl, hy]

/-- What was found true is kept. -/
theorem ifTrue_keep (y : Action σ ε (Option τ)) :
    ifTrue isTruthy value (keep isTruthy value) y = ifTrue isTruthy value (pure value) y := by
  funext s
  rcases hs : isTruthy value s.shared with ⟨_ | _, shared⟩
  · rw [ifTrue_of_false _ _ hs, ifTrue_of_false _ _ hs]
  · rw [ifTrue_of_true _ _ hs, ifTrue_of_true _ _ hs, keep, ifTrue_of_true _ _ (h.again hs)]

/-- What is kept is kept again. -/
theorem bind_keep_keep (x : Action σ ε (Option τ)) :
    x >>= keep isTruthy >>= keep isTruthy = x >>= keep isTruthy := by
  rw [bind_assoc]
  refine congrArg (x >>= ·) (funext fun value => ?_)
  rw [keep, ifTrue_bind, pure_bind, pure_bind, ifTrue_keep h, keep, ifTrue_none h]

end

end Action

namespace Expr

/-- An endpoint is decided by its leaf. -/
theorem decide_endpoint (isTrue : τ → Bool) (stock : Operator → Stock τ)
    (leaf : String → Action σ ε τ) (name : String) :
    (endpoint name).decide (.judge fun value => pure (value.any isTrue)) stock leaf =
      Option.guard isTrue <$> leaf name := by
  change (leaf name >>= fun a => pure (some a)) >>= Action.keep _ = _
  rw [bind_assoc, map_eq_pure_bind]
  refine congrArg (leaf name >>= ·) (funext fun a => ?_)
  rw [pure_bind, Action.keep_pure]
  rfl

/-- The right side is evaluated unless the left one settles the matter. -/
theorem decide_combine {isTruthy : Option τ → StateM σ Bool} (h : Steady isTruthy)
    (leaf : String → Action σ ε τ) (op : Operator) (l r : Expr) :
    (combine op l r).decide (.judge isTruthy) Stock.choosing leaf =
      l.decide (.judge isTruthy) Stock.choosing leaf >>= fun a =>
        if op.isSettledBy a.isSome then pure a
        else r.decide (.judge isTruthy) Stock.choosing leaf := by
  let left := l.value (.judge isTruthy) Stock.choosing leaf
  let right := r.decide (.judge isTruthy) Stock.choosing leaf
  -- the node judges once more what its sides were judged by
  have hright : right >>= Action.keep isTruthy = right := Action.bind_keep_keep h _
  change _ = left >>= Action.keep isTruthy >>= fun a =>
    if op.isSettledBy a.isSome then pure a else right
  rw [bind_assoc]
  cases op with
  | and =>
    change (left >>= fun a => Action.ifTrue isTruthy a right (pure none)) >>=
      Action.keep isTruthy = _
    rw [bind_assoc]
    refine congrArg (left >>= ·) (funext fun a => ?_)
    rw [Action.keep, Action.ifTrue_bind, Action.ifTrue_bind, hright, pure_bind, pure_bind,
      pure_bind, Action.keep, Action.ifTrue_none h]
    exact Action.ifTrue_congr h (fun ha => by rw [ha]; rfl) rfl
  | or =>
    change (left >>= fun a => Action.ifTrue isTruthy a (pure a) right) >>=
      Action.keep isTruthy = _
    rw [bind_assoc]
    refine congrArg (left >>= ·) (funext fun a => ?_)
    rw [Action.ifTrue_bind, pure_bind, hright, Action.ifTrue_keep h, Action.keep,
      Action.ifTrue_bind, pure_bind, pure_bind]
    exact Action.ifTrue_congr h (fun ha => by rw [ha]; rfl) rfl

/-- Evaluation of an expression notes what evaluation from left to right does, if its leaves note
what visits of the endpoints do. -/
theorem notes_decide [Nonempty τ] {isTrue : τ → Bool}
    {visit : String → List υ → Except ε τ → Prop} {leaf' : String → Action (σ × List υ) ε τ}
    {leaf : String → Action σ ε τ} (e : Expr)
    (h : ∀ name ∈ e.endpoints, (leaf' name).Notes (leaf name) (visit name)) :
    Action.Notes
      (e.decide (Action.judge fun value => pure (value.any isTrue)) Stock.choosing leaf')
      (e.decide (Action.judge fun value => pure (value.any isTrue)) Stock.choosing leaf)
      (e.ShortCircuits isTrue visit) := by
  induction e with
  | endpoint name =>
    rw [decide_endpoint, decide_endpoint]
    refine .map ((h name (List.mem_singleton_self name)).mono fun events answer => ?_)
    exact ShortCircuits.endpoint
  | combine op l r ihl ihr =>
    have hl := ihl fun name hname => h name (List.mem_append_left _ hname)
    have hr := ihr fun name hname => h name (List.mem_append_right _ hname)
    rw [decide_combine (steady_pure rfl), decide_combine (steady_pure rfl)]
    -- an error of the left side is that of the node; a value may leave the right side alone
    refine hl.bind (fun events error => .left_error) fun events value hvalue => ?_
    split <;> rename_i hsettled
    · refine .pure ?_
      rw [List.append_nil]
      exact hvalue.settled hsettled
    · exact hr.mono fun events' result => hvalue.right (Bool.eq_false_iff.mpr hsettled)

end Expr

end CloudScope
