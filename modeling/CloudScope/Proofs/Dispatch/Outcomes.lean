import CloudScope.Proofs.Dispatch.History
import Mathlib.Data.List.Induction

/-!
# Outcomes of nodes

A node runs something only while it and all nodes above it are being read for the first time: none
of them has an outcome yet. Once a node has an outcome, nothing below it runs any more, it stays
evaluated, and it gives that outcome to every reading until a combinator sets another one. A reading
that fails leaves no outcome behind. All this holds for any combinators
(`Dispatcher.history_dispatch`).
-/

namespace CloudScope

variable {σ ε υ α β τ : Type}

/-! ## What a history tells of a node -/

/-- The outcome that an event gives the node at a place: what a successful reading comes to, or what
a combinator sets. -/
def NodeEvent.gives? (place : List Side) : NodeEvent ε τ → Option (Option τ)
  | .read other (.ok value) => if other = place then some value else none
  | .set other value => if other = place then some value else none
  | _ => none

/-- The outcome that the node at a place has after a history. -/
def outcomeIn (place : List Side) (history : List (NodeEvent ε τ)) : Option (Option τ) :=
  (history.filterMap (NodeEvent.gives? place)).getLast?

/-- After a history, the node at a place has no outcome, and a reading of it has begun that has not
ended. -/
structure IsBeingRead (place : List Side) (history : List (NodeEvent ε τ)) : Prop where
  outcome : outcomeIn place history = none
  begun : ∃ before after, history = before ++ .reading place :: after ∧
    ∀ answer, .read place answer ∉ after

/-- Whether an event may come after a history. Readings come to the outcome of their node if it has
one, questions are answered by the history, and a node runs something only while it and all above
it are being read. -/
def NodeEvent.Fits (history : List (NodeEvent ε τ)) : NodeEvent ε τ → Prop
  | .reading _ | .set _ _ => True
  | .read place answer => ∀ value, outcomeIn place history = some value → answer = .ok value
  | .asked place answer => answer = (outcomeIn place history).isSome
  | .run place _ => ∀ above, above <+: place → IsBeingRead above history

/-- Histories of which each event fits those before it. -/
inductive Lawful : List (NodeEvent ε τ) → Prop where
  | nil : Lawful []
  | concat {history event} : Lawful history → event.Fits history → Lawful (history ++ [event])

section

variable {place other : List Side} {history history' : List (NodeEvent ε τ)} {event : NodeEvent ε τ}

theorem outcomeIn_concat (place : List Side) (history : List (NodeEvent ε τ))
    (event : NodeEvent ε τ) : outcomeIn place (history ++ [event]) =
      (event.gives? place).or (outcomeIn place history) := by
  cases hgives : event.gives? place with
  | none => simp [outcomeIn, List.filterMap_append, hgives]
  | some value => simp [outcomeIn, List.filterMap_append, hgives]

/-- The place whose outcome an event tells or sets. -/
def NodeEvent.touched? : NodeEvent ε τ → Option (List Side)
  | .read place _ | .set place _ => some place
  | .reading _ | .asked _ _ | .run _ _ => none

theorem NodeEvent.gives?_eq_none (h : event.touched? ≠ some place) : event.gives? place = none := by
  have hne : ∀ other, some other ≠ some place → other ≠ place :=
    fun _ hother heq => hother (congrArg some heq)
  cases event with
  | reading | asked | run => rfl
  | set other value => exact if_neg (hne other h)
  | read other answer =>
    cases answer with
    | error => rfl
    | ok value => exact if_neg (hne other h)

/-- A history goes on without an event that tells or sets the outcome at a place. -/
def Spares (place : List Side) (history history' : List (NodeEvent ε τ)) : Prop :=
  ∃ more, history' = history ++ more ∧ ∀ event ∈ more, event.touched? ≠ some place

theorem Spares.trans {history'' : List (NodeEvent ε τ)} (h : Spares place history history')
    (h' : Spares place history' history'') : Spares place history history'' := by
  obtain ⟨more, rfl, hmore⟩ := h
  obtain ⟨more', rfl, hmore'⟩ := h'
  exact ⟨more ++ more', List.append_assoc .., List.forall_mem_append.mpr ⟨hmore, hmore'⟩⟩

theorem spares_concat (history : List (NodeEvent ε τ)) (h : event.touched? ≠ some place) :
    Spares place history (history ++ [event]) :=
  ⟨[event], rfl, List.forall_mem_singleton.mpr h⟩

theorem Spares.outcomeIn_eq (h : Spares place history history') :
    outcomeIn place history' = outcomeIn place history := by
  obtain ⟨more, rfl, hmore⟩ := h
  have hnone : more.filterMap (NodeEvent.gives? place) = [] :=
    List.filterMap_eq_nil_iff.mpr fun event hevent => NodeEvent.gives?_eq_none (hmore event hevent)
  rw [outcomeIn, List.filterMap_append, hnone, List.append_nil, ← outcomeIn]

theorem IsBeingRead.spared (h : IsBeingRead place history)
    (hspares : Spares place history history') : IsBeingRead place history' := by
  refine ⟨hspares.outcomeIn_eq.trans h.outcome, ?_⟩
  obtain ⟨before, after, rfl, hafter⟩ := h.begun
  obtain ⟨more, rfl, hmore⟩ := hspares
  refine ⟨before, after ++ more, List.append_assoc .., fun answer hmem => ?_⟩
  rcases List.mem_append.mp hmem with hmem | hmem
  · exact hafter answer hmem
  · exact hmore _ hmem rfl

end

/-! ## Nodes and their histories -/

/-- The outcome of the node at a place below a node. -/
def Node.outcomeAt : {e : Expr} → Node τ e → List Side → Option (Option τ)
  | _, n, [] => n.outcome
  | _, .endpoint _, _ :: _ => none
  | _, .combine _ left _, .left :: rest => left.outcomeAt rest
  | _, .combine _ _ right, .right :: rest => right.outcomeAt rest

theorem Node.outcomeAt_fresh (e : Expr) (rest : List Side) :
    (fresh e : Node τ e).outcomeAt rest = none := by
  induction e generalizing rest with
  | endpoint name => cases rest <;> rfl
  | combine op l r ihl ihr =>
    rcases rest with _ | ⟨_ | _, rest⟩
    · rfl
    · exact ihl rest
    · exact ihr rest

theorem Node.outcomeAt_set {e : Expr} (n : Node τ e) (value : Option τ) (side : Side)
    (rest : List Side) : (n.set value).outcomeAt (side :: rest) = n.outcomeAt (side :: rest) := by
  cases n <;> cases side <;> rfl

theorem Node.outcome_set {e : Expr} (n : Node τ e) (value : Option τ) :
    (n.set value).outcome = some value := by
  cases n <;> rfl

/-- A history in which each event fits, and after which the node at a place and all above it are
being read. -/
structure Entered (place : List Side) (history : List (NodeEvent ε τ)) : Prop where
  lawful : Lawful history
  above : ∀ above, above <+: place → IsBeingRead above history

/-- A history in which each event fits, after which all nodes above a place are being read, and the
nodes from there on have the outcomes that it tells. -/
structure Node.Recorded {e : Expr} (n : Node τ e) (place : List Side)
    (history : List (NodeEvent ε τ)) : Prop where
  lawful : Lawful history
  above : ∀ above, above <+: place → above ≠ place → IsBeingRead above history
  outcome : ∀ rest, n.outcomeAt rest = outcomeIn (place ++ rest) history

section

variable {place : List Side} {history history' : List (NodeEvent ε τ)} {e : Expr} {n : Node τ e}

theorem prefix_and_ne_concat_iff {above : List Side} {side : Side} :
    above <+: place ++ [side] ∧ above ≠ place ++ [side] ↔ above <+: place := by
  rw [List.prefix_concat_iff]
  constructor
  · rintro ⟨rfl | h, hne⟩
    · exact absurd rfl hne
    · exact h
  · intro h
    refine ⟨.inr h, ?_⟩
    rintro rfl
    exact not_prefix_self place side h

theorem Entered.run (h : Entered place history) (part : NodePart) :
    Entered place (history ++ [.run place part]) where
  lawful := .concat h.lawful h.above
  above above habove := (h.above above habove).spared (spares_concat history nofun)

@[simp] theorem Node.outcomeAt_nil (n : Node τ e) : n.outcomeAt [] = n.outcome := by
  cases n <;> rfl

/-- A node without an outcome is entered when a reading of it begins. -/
theorem Node.Recorded.enter (h : n.Recorded place history) (hnone : n.outcome = none) :
    Entered place (history ++ [.reading place]) := by
  have hspares : ∀ other, Spares other history (history ++ [.reading place]) := fun _ =>
    spares_concat history nofun
  have hself : outcomeIn place history = none := by
    rw [← hnone, ← n.outcomeAt_nil, h.outcome, List.append_nil]
  refine ⟨.concat h.lawful trivial, fun above habove => ?_⟩
  by_cases heq : above = place
  · subst heq
    exact ⟨(hspares above).outcomeIn_eq.trans hself, history, [], rfl, by simp⟩
  · exact (h.above above habove heq).spared (hspares above)

/-- An event at the place of a node leaves it recorded, with the outcome that the event gives. -/
theorem Node.Recorded.of_touched {event : NodeEvent ε τ} (hlawful : Lawful history)
    (hfits : event.Fits history)
    (habove : ∀ above, above <+: place → above ≠ place → IsBeingRead above history)
    (htouched : event.touched? = some place)
    (hself : n.outcome = (event.gives? place).or (outcomeIn place history))
    (hbelow : ∀ side rest, n.outcomeAt (side :: rest) = outcomeIn (place ++ side :: rest) history) :
    n.Recorded place (history ++ [event]) where
  lawful := .concat hlawful hfits
  above above hpre hne := (habove above hpre hne).spared
    (spares_concat history (by rw [htouched]; exact fun heq => hne (Option.some.inj heq).symm))
  outcome rest := by
    rcases rest with _ | ⟨side, rest⟩
    · rw [n.outcomeAt_nil, List.append_nil, outcomeIn_concat, hself]
    · have hspares : Spares (place ++ side :: rest) history (history ++ [event]) :=
        spares_concat history (by simp [htouched])
      rw [hbelow side rest, hspares.outcomeIn_eq]

/-- When the reading of a node that was entered ends, the node has the outcome that it came to, or
none if it failed. -/
theorem Entered.leave {answer : Except ε (Option τ)} (h : Entered place history)
    (houtcome : n.outcome = answer.toOption)
    (hbelow : ∀ side rest, n.outcomeAt (side :: rest) = outcomeIn (place ++ side :: rest) history) :
    n.Recorded place (history ++ [.read place answer]) := by
  have hnone := (h.above place (List.prefix_refl place)).outcome
  have hfits : NodeEvent.Fits history (.read place answer) := fun value hvalue => by
    rw [hnone] at hvalue
    cases hvalue
  refine .of_touched h.lawful hfits (fun above habove _ => h.above above habove) rfl ?_ hbelow
  rw [houtcome, hnone, Option.or_none]
  cases answer with
  | error => rfl
  | ok value => exact (if_pos rfl).symm

/-- The sides of a node that is entered are recorded if their outcomes are. -/
theorem Entered.recorded (h : Entered place history) (side : Side)
    (houtcome : ∀ rest, n.outcomeAt rest = outcomeIn (place ++ side :: rest) history) :
    n.Recorded (place ++ [side]) history where
  lawful := h.lawful
  above above habove hne := h.above above (prefix_and_ne_concat_iff.mp ⟨habove, hne⟩)
  outcome rest := by rw [houtcome rest, List.append_assoc, List.singleton_append]

theorem Node.Recorded.entered {side : Side} (h : n.Recorded (place ++ [side]) history) :
    Entered place history := by
  refine ⟨h.lawful, fun above habove => ?_⟩
  obtain ⟨hpre, hne⟩ := prefix_and_ne_concat_iff.mpr habove
  exact h.above above hpre hne

/-- An event that touches no outcome leaves a node recorded. -/
theorem Node.Recorded.concat {event : NodeEvent ε τ} (h : n.Recorded place history)
    (hfits : event.Fits history) (hnone : event.touched? = none) :
    n.Recorded place (history ++ [event]) := by
  have hspares : ∀ other, Spares other history (history ++ [event]) := fun other =>
    spares_concat history (by rw [hnone]; exact nofun)
  exact ⟨.concat h.lawful hfits,
    fun above habove hne => (h.above above habove hne).spared (hspares _),
    fun rest => (h.outcome rest).trans (hspares _).outcomeIn_eq.symm⟩

/-- A node that is given an outcome has it from then on. -/
theorem Node.Recorded.set (h : n.Recorded place history) (value : Option τ) :
    (n.set value).Recorded place (history ++ [.set place value]) := by
  refine .of_touched h.lawful trivial h.above rfl ?_ fun side rest => ?_
  · rw [n.outcome_set, NodeEvent.gives?, if_pos rfl, Option.some_or]
  · rw [n.outcomeAt_set, h.outcome]

/-- A node that has an outcome keeps it in a reading, which comes to it. -/
theorem Node.Recorded.reread {value : Option τ} (h : n.Recorded place history)
    (hvalue : n.outcome = some value) :
    n.Recorded place (history ++ [.reading place] ++ [.read place (.ok value)]) := by
  have hreading : n.Recorded place (history ++ [.reading place]) := h.concat trivial rfl
  have hself : outcomeIn place (history ++ [.reading place]) = some value := by
    rw [← hvalue, ← n.outcomeAt_nil, hreading.outcome, List.append_nil]
  refine .of_touched hreading.lawful ?_ hreading.above rfl ?_ fun side rest => hreading.outcome _
  · intro value' hvalue'
    rw [hself] at hvalue'
    cases hvalue'
    rfl
  · rw [hvalue, NodeEvent.gives?, if_pos rfl, Option.some_or]

/-- A side stays recorded when the other side is read. -/
theorem Node.Recorded.beside {e' : Expr} {n' : Node τ e'} {side side' : Side} (hne : side ≠ side')
    (h : n.Recorded (place ++ [side']) history) (h' : n'.Recorded (place ++ [side]) history')
    (hspares : ∀ other, ¬ place ++ [side] <+: other → Spares other history history') :
    n.Recorded (place ++ [side']) history' := by
  refine h'.entered.recorded side' fun rest => ?_
  have hother := not_prefix_sibling hne place rest
  rw [h.outcome rest, ← (hspares _ hother).outcomeIn_eq, List.append_assoc, List.singleton_append]

end

/-! ## Evaluation -/

/-- A reading at a place that leaves the node recorded if it was, and touches nothing that is not
from there on. -/
def Reading.Records {e : Expr} (read : Reading (σ × List (NodeEvent ε τ)) ε τ e)
    (place : List Side) : Prop :=
  ∀ n s, n.Recorded place s.trace → (read n s).2.1.Recorded place (read n s).2.2.trace ∧
    ∀ other, ¬ place <+: other → Spares other s.trace (read n s).2.2.trace

/-- Both sides of the node at a place are recorded, and since the start nothing was touched but
what is below it. -/
structure SidesRecorded {l r : Expr} (place : List Side) (start : List (NodeEvent ε τ))
    (left : Node τ l) (right : Node τ r) (history : List (NodeEvent ε τ)) : Prop where
  left : left.Recorded (place ++ [.left]) history
  right : right.Recorded (place ++ [.right]) history
  spares : ∀ other, (∀ side, ¬ place ++ [side] <+: other) → Spares other start history

section

variable {l r : Expr} {place : List Side} {start history : List (NodeEvent ε τ)}
  {left : Node τ l} {right : Node τ r}

/-- An event that touches no outcome leaves both sides recorded. -/
theorem SidesRecorded.concat {event : NodeEvent ε τ}
    (h : SidesRecorded place start left right history) (hfits : event.Fits history)
    (hnone : event.touched? = none) :
    SidesRecorded place start left right (history ++ [event]) :=
  ⟨h.left.concat hfits hnone, h.right.concat hfits hnone, fun other hother =>
    (h.spares other hother).trans (spares_concat history (by rw [hnone]; exact nofun))⟩

/-- What happens from the left side on leaves both sides recorded if it leaves the left one so. -/
theorem SidesRecorded.ofLeft {left' : Node τ l} {history' : List (NodeEvent ε τ)}
    (h : SidesRecorded place start left right history)
    (hleft : left'.Recorded (place ++ [.left]) history')
    (hspares : ∀ other, ¬ place ++ [.left] <+: other → Spares other history history') :
    SidesRecorded place start left' right history' :=
  ⟨hleft, h.right.beside (by decide) hleft hspares, fun other hother =>
    (h.spares other hother).trans (hspares other (hother .left))⟩

/-- What happens from the right side on leaves both sides recorded if it leaves the right one so. -/
theorem SidesRecorded.ofRight {right' : Node τ r} {history' : List (NodeEvent ε τ)}
    (h : SidesRecorded place start left right history)
    (hright : right'.Recorded (place ++ [.right]) history')
    (hspares : ∀ other, ¬ place ++ [.right] <+: other → Spares other history history') :
    SidesRecorded place start left right' history' :=
  ⟨h.left.beside (by decide) hright hspares, hright, fun other hother =>
    (h.spares other hother).trans (hspares other (hother .right))⟩

/-- Whatever a program does with the sides, they stay recorded. -/
theorem Program.sidesRecorded_run {readLeft : Reading (σ × List (NodeEvent ε τ)) ε τ l}
    {readRight : Reading (σ × List (NodeEvent ε τ)) ε τ r}
    {isTruthy : Option τ → StateM (σ × List (NodeEvent ε τ)) Bool}
    (hl : (readLeft.observed (place ++ [.left])).Records (place ++ [.left]))
    (hr : (readRight.observed (place ++ [.right])).Records (place ++ [.right]))
    (hjudge : ∀ value (s : Session (σ × List (NodeEvent ε τ))),
      (s.judge isTruthy value).2.trace = s.trace)
    (p : Program σ ε τ α) : ∀ (left : Node τ l) (right : Node τ r) s,
      SidesRecorded place start left right s.trace →
        let after := (p.observed place).run isTruthy readLeft readRight left right s
        SidesRecorded place start after.2.1.1 after.2.1.2 after.2.2.trace := by
  induction p with
  | done result => exact fun left right s h => h
  | read side next ih =>
    intro left right s h
    cases side with
    | left =>
      obtain ⟨hleft, hspares⟩ := hl left s h.left
      exact ih _ _ _ _ (h.ofLeft hleft hspares)
    | right =>
      obtain ⟨hright, hspares⟩ := hr right s h.right
      exact ih _ _ _ _ (h.ofRight hright hspares)
  | set side value next ih =>
    intro left right s h
    have hspares : ∀ other, ¬ place ++ [side] <+: other →
        Spares other s.trace (s.trace ++ [.set (place ++ [side]) value]) := fun other hother =>
      spares_concat s.trace fun heq => hother (Option.some.inj heq ▸ List.prefix_refl _)
    cases side with
    | left => exact ih _ _ _ (h.ofLeft (h.left.set value) hspares)
    | right => exact ih _ _ _ (h.ofRight (h.right.set value) hspares)
  | isEvaluated side next ih =>
    intro left right s h
    cases side with
    | left =>
      refine ih _ _ _ _ (h.concat (congrArg Option.isSome ?_) rfl)
      rw [← left.outcomeAt_nil, h.left.outcome, List.append_nil]
    | right =>
      refine ih _ _ _ _ (h.concat (congrArg Option.isSome ?_) rfl)
      rw [← right.outcomeAt_nil, h.right.outcome, List.append_nil]
  | judge value next ih =>
    exact fun left right s h => ih _ _ _ _ ((hjudge value s).symm ▸ h)
  | act change next ih => exact fun left right s h => ih _ _ _ _ h

end

/-- An evaluation whose history is written at its nodes. -/
structure Evaluator.Observes (ev : Evaluator (σ × List (NodeEvent ε τ)) ε τ) : Prop where
  leaf : ∀ place endpoint s, ∃ parts : List NodePart,
    (ev.leaf place endpoint s).2.trace = s.trace ++ parts.map (.run place)
  combine : ∀ place op a b, ∃ p : Program σ ε τ (Except ε (Option τ)),
    (ev.combine place op a b).run =
      .act (·.noting (.run place .combinator)) fun _ => p.observed place
  judge : ∀ value (s : Session (σ × List (NodeEvent ε τ))),
    (s.judge ev.isTruthy value).2.trace = s.trace

section

variable {place : List Side} {history : List (NodeEvent ε τ)}

theorem Entered.runs (h : Entered place history) (parts : List NodePart) :
    Entered place (history ++ parts.map (.run place)) := by
  induction parts generalizing history with
  | nil => rwa [List.map_nil, List.append_nil]
  | cons part parts ih =>
    have hruns := ih (h.run part)
    rwa [List.append_assoc, List.singleton_append, ← List.map_cons] at hruns

theorem spares_runs (other : List Side) (history : List (NodeEvent ε τ)) (parts : List NodePart) :
    Spares other history (history ++ parts.map (.run place)) := by
  refine ⟨_, rfl, fun event hevent => ?_⟩
  obtain ⟨part, -, rfl⟩ := List.mem_map.mp hevent
  exact nofun

theorem spares_reading (other : List Side) (history : List (NodeEvent ε τ)) :
    Spares other history (history ++ [.reading place]) :=
  spares_concat history nofun

theorem spares_read {other : List Side} {answer : Except ε (Option τ)}
    (h : ¬ place <+: other) (history : List (NodeEvent ε τ)) :
    Spares other history (history ++ [.read place answer]) :=
  spares_concat history fun heq => h (Option.some.inj heq ▸ List.prefix_refl _)

/-- Reading leaves nodes recorded, whatever the combinators do. -/
theorem Evaluator.Observes.records_read {ev : Evaluator (σ × List (NodeEvent ε τ)) ε τ}
    (hobserves : ev.Observes) (e : Expr) :
    ∀ place, (Reading.observed place (ev.read e place)).Records place := by
  induction e with
  | endpoint name =>
    intro place n s h
    rcases n with ⟨_ | value⟩
    · obtain ⟨parts, hparts⟩ := hobserves.leaf place name (s.noting (.reading place))
      have hentered := (h.enter rfl).runs parts
      have hspares : ∀ other, Spares other s.trace
          (s.trace ++ [.reading place] ++ parts.map (.run place)) := fun other =>
        (spares_reading other _).trans (spares_runs other _ parts)
      simp only [Reading.observed, ev.read_endpoint, Session.trace_noting, hparts]
      refine ⟨hentered.leave ?_ fun side rest => ?_, fun other hother =>
        (hspares other).trans (spares_read hother _)⟩
      · cases (ev.leaf place name (s.noting (.reading place))).1 <;> rfl
      · rw [(hspares _).outcomeIn_eq, ← h.outcome]
        rfl
    · exact ⟨h.reread rfl, fun other hother =>
        (spares_reading other _).trans (spares_read hother _)⟩
  | combine op l r ihl ihr =>
    intro place n s h
    rcases n with _ | ⟨_ | value, left, right⟩
    · obtain ⟨p, hp⟩ := hobserves.combine place op l.label r.label
      have hentered := (h.enter rfl).run .combinator
      have hspares : ∀ other, Spares other s.trace
          (s.trace ++ [.reading place] ++ [.run place .combinator]) := fun other =>
        (spares_reading other _).trans (spares_runs other _ [.combinator])
      have hsides : SidesRecorded place s.trace left right
          (s.trace ++ [.reading place] ++ [.run place .combinator]) :=
        ⟨hentered.recorded .left fun rest => by rw [(hspares _).outcomeIn_eq, ← h.outcome]; rfl,
          hentered.recorded .right fun rest => by rw [(hspares _).outcomeIn_eq, ← h.outcome]; rfl,
          fun other _ => hspares other⟩
      have hrun := p.sidesRecorded_run (ihl _) (ihr _) hobserves.judge left right
        ((s.noting (.reading place)).noting (.run place .combinator)) hsides
      simp only [Reading.observed, ev.read_combine, hp, Session.trace_noting]
      refine ⟨hrun.left.entered.leave rfl fun side rest => ?_, fun other hother =>
        (hrun.spares other fun side => not_prefix_of_append hother).trans (spares_read hother _)⟩
      cases side with
      | left =>
        have hleft := hrun.left.outcome rest
        rwa [List.append_assoc] at hleft
      | right =>
        have hright := hrun.right.outcome rest
        rwa [List.append_assoc] at hright
    · exact ⟨h.reread rfl, fun other hother =>
        (spares_reading other _).trans (spares_read hother _)⟩

end

/-! ## What fitting histories have in common -/

/-- What a history says of the outcomes of nodes. -/
structure RemembersOutcomes (history : List (NodeEvent ε τ)) : Prop where
  /-- A node runs something only while it and all nodes above it are being read, which began when
  they had no outcome. -/
  runs : ∀ before place part after, history = before ++ .run place part :: after →
    ∀ above, above <+: place → IsBeingRead above before
  /-- Once a node has an outcome, nothing from there on runs, and the node has an outcome for good:
  this one, until another one is set. -/
  settled : ∀ before event after place value, history = before ++ event :: after →
    event.gives? place = some value →
    (∀ below part, place <+: below → .run below part ∉ after) ∧
    (∀ answer, .asked place answer ∈ after → answer = true) ∧
    ∀ between answer later, after = between ++ .read place answer :: later →
      (∀ other, .set place other ∉ between) → answer = .ok value
  /-- When a reading fails, the node had no outcome, and it has none until it is given one. -/
  failed : ∀ before error after place, history = before ++ .read place (.error error) :: after →
    outcomeIn place before = none ∧
    ∀ between answer later, after = between ++ .asked place answer :: later →
      (∀ event ∈ between, event.gives? place = none) → answer = false

section

variable {place : List Side} {history before after more : List (NodeEvent ε τ)}
  {event : NodeEvent ε τ} {value : Option τ}

theorem Lawful.of_append (h : Lawful (before ++ after)) : Lawful before := by
  induction after using List.reverseRecOn with
  | nil => rwa [List.append_nil] at h
  | append_singleton after event ih =>
    rw [← List.append_assoc] at h
    generalize hwhole : before ++ after ++ [event] = whole at h
    cases h with
    | nil => exact absurd hwhole (by simp)
    | concat hlawful _ => exact ih (List.append_inj_left' hwhole rfl ▸ hlawful)

theorem Lawful.fits (h : Lawful (before ++ event :: after)) : event.Fits before := by
  rw [List.append_cons] at h
  have hfront := h.of_append
  generalize hwhole : before ++ [event] = whole at hfront
  cases hfront with
  | nil => exact absurd hwhole (by simp)
  | concat _ hfits =>
    obtain ⟨rfl, hevent⟩ := List.append_inj' hwhole rfl
    cases hevent
    exact hfits

theorem outcomeIn_append (place : List Side) (history more : List (NodeEvent ε τ)) :
    outcomeIn place (history ++ more) = (outcomeIn place more).or (outcomeIn place history) := by
  rw [outcomeIn, List.filterMap_append, List.getLast?_append]
  rfl

theorem outcomeIn_of_gives (h : event.gives? place = some value) :
    outcomeIn place (before ++ [event]) = some value := by
  rw [outcomeIn_concat, h, Option.some_or]

/-- A node with an outcome has one for good. -/
theorem outcomeIn_append_ne_none (h : outcomeIn place history = some value) :
    outcomeIn place (history ++ more) ≠ none := by
  rw [outcomeIn_append, h]
  cases outcomeIn place more <;> exact nofun

/-- A node keeps its outcome as long as no other one is set. -/
theorem Lawful.outcomeIn_append_eq (hlawful : Lawful (history ++ more))
    (h : outcomeIn place history = some value) (hset : ∀ other, .set place other ∉ more) :
    outcomeIn place (history ++ more) = some value := by
  induction more using List.reverseRecOn with
  | nil => rwa [List.append_nil]
  | append_singleton more event ih =>
    rw [← List.append_assoc] at hlawful ⊢
    have hbefore := ih hlawful.of_append fun other hmem => hset other (List.mem_append_left _ hmem)
    by_cases htouched : event.touched? = some place
    · refine outcomeIn_of_gives ?_
      have hfits : event.Fits (history ++ more) := hlawful.fits
      cases event with
      | reading | asked | run => cases htouched
      | set other value' =>
        cases htouched
        exact absurd (List.mem_append_right _ List.mem_cons_self) (hset value')
      | read other answer =>
        cases htouched
        rw [hfits value hbefore, NodeEvent.gives?, if_pos rfl]
    · rw [(spares_concat _ htouched).outcomeIn_eq, hbefore]

/-- Histories of which each event fits remember the outcomes of nodes. -/
theorem Lawful.remembersOutcomes (h : Lawful history) : RemembersOutcomes history where
  runs before place part after hsplit := by
    rw [hsplit] at h
    exact h.fits
  settled before event after place value hsplit hgives := by
    have houtcome : outcomeIn place (before ++ [event]) = some value := outcomeIn_of_gives hgives
    rw [List.append_cons] at hsplit
    refine ⟨fun below part hbelow hmem => ?_, fun answer hmem => ?_,
      fun between answer later hafter hset => ?_⟩
    · obtain ⟨between, later, rfl⟩ := List.append_of_mem hmem
      rw [← List.append_assoc] at hsplit
      have hfits := Lawful.fits (hsplit ▸ h)
      exact outcomeIn_append_ne_none houtcome (hfits place hbelow).outcome
    · obtain ⟨between, later, rfl⟩ := List.append_of_mem hmem
      rw [← List.append_assoc] at hsplit
      have hfits := Lawful.fits (hsplit ▸ h)
      exact hfits.trans (Option.isSome_iff_ne_none.mpr (outcomeIn_append_ne_none houtcome))
    · rw [hafter, ← List.append_assoc] at hsplit
      have hlawful := hsplit ▸ h
      exact hlawful.fits value (hlawful.of_append.outcomeIn_append_eq houtcome hset)
  failed before error after place hsplit := by
    have hnone : outcomeIn place before = none := by
      have hfits := Lawful.fits (hsplit ▸ h)
      rw [← Option.not_isSome_iff_eq_none, Option.isSome_iff_exists]
      rintro ⟨value, hvalue⟩
      cases hfits value hvalue
    refine ⟨hnone, fun between answer later hafter hgives => ?_⟩
    rw [hafter, List.append_cons, ← List.append_assoc] at hsplit
    have hfits := Lawful.fits (hsplit ▸ h)
    have hbetween : outcomeIn place between = none := by
      rw [outcomeIn, List.filterMap_eq_nil_iff.mpr hgives, List.getLast?_nil]
    refine hfits.trans ?_
    rw [outcomeIn_append, hbetween, outcomeIn_concat, hnone]
    rfl

end

/-! ## Dispatches -/

namespace Dispatcher

variable (d : Dispatcher σ ε α τ) (serviceType : String) (args : α)

theorem observes_observer : (d.observer serviceType args).Observes where
  leaf place endpoint s := by
    rw [show Evaluator.leaf _ = d.runLeafObserved serviceType args from rfl, runLeafObserved]
    rcases hpush : s.context.push serviceType endpoint with e | ⟨guard, context⟩
    · exact ⟨[], by simp only [Action.inFrame, hpush, List.map_nil, List.append_nil]⟩
    · simp only [Action.inFrame, hpush]
      rcases ht : d.transform endpoint args ⟨context, s.shared.1⟩ with ⟨e | args', s'⟩ <;>
        have htransform : (d.transform endpoint args).starting (.run place .transform)
          { s with context } = (_, s'.traced (s.trace ++ [.run place .transform])) :=
            Action.starting_eq ht _
      · rw [Action.bind_error htransform]
        exact ⟨[.transform], rfl⟩
      · rw [Action.bind_ok htransform]
        exact ⟨[.transform, .leaf], List.append_assoc s.trace [_] [_]⟩
  combine place op a b := ⟨_, rfl⟩
  judge value s := rfl

/-- The history of a dispatch fits in each of its events. -/
theorem lawful_dispatchObserved (expression : String) (s : Session σ) :
    Lawful (d.dispatchObserved serviceType args expression (s.traced [])).2.trace := by
  rw [dispatchObserved]
  cases Expr.parse expression with
  | error e => exact .nil
  | ok e =>
    have hobserves := d.observes_observer serviceType args
    have hfresh : (Node.fresh e : Node τ e).Recorded [] ([] : List (NodeEvent ε τ)) :=
      ⟨.nil, fun above habove hne => absurd (List.prefix_nil.mp habove) hne,
        fun rest => Node.outcomeAt_fresh e rest⟩
    have hlawful := (hobserves.records_read e [] (.fresh e) (s.traced []) hfresh).1.lawful
    simp only [Evaluator.evaluateObserved]
    rcases hread : Reading.observed [] _ (.fresh e) _ with ⟨_ | value, _, s'⟩ <;>
      rw [hread] at hlawful
    · exact hlawful
    · rwa [hobserves.judge]

/-- Whatever the combinators do, a dispatch remembers the outcomes of nodes. -/
theorem history_dispatch (expression : String) (s : Session σ) :
    let run := d.dispatchObserved serviceType args expression (s.traced [])
    (run.1, run.2.untraced) = d.dispatch serviceType expression args s ∧
      RemembersOutcomes run.2.trace :=
  ⟨d.follows_dispatchObserved serviceType args expression (s.traced []),
    (d.lawful_dispatchObserved serviceType args expression s).remembersOutcomes⟩

/-- A failure is let pass, and an outcome is set in its place. -/
example :
    let d : Dispatcher Unit String String Nat :=
      { ofScopeError := ScopeError.message
        leaf := fun _ s => (.error "down", s)
        conjunction := fun _ _ => .mk (.read .left fun _ => .isEvaluated .left fun _ =>
          .set .left (some 3) (.read .left .done)) }
    let run := d.dispatchObserved "compute" "list" "A & B" (Session.traced ⟨∅, ()⟩ [])
    run.1 = .ok (some 3) ∧ run.2.trace =
      [.reading [], .run [] .combinator, .reading [.left], .run [.left] .transform,
        .run [.left] .leaf, .read [.left] (.error "down"), .asked [.left] false,
        .set [.left] (some 3), .reading [.left], .read [.left] (.ok (some 3)),
        .read [] (.ok (some 3))] := by
  intro d run
  have h : Expr.parse "A & B" = .ok (.combine .and (.endpoint "A") (.endpoint "B")) := by cbv
  constructor
  · simp only [run, dispatchObserved, h]
    rfl
  · simp only [run, dispatchObserved, h]
    rfl

end Dispatcher

end CloudScope
