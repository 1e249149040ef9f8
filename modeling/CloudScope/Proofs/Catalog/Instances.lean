import CloudScope.Catalog.Registry
import CloudScope.Proofs.Scope.Text
import Mathlib

/-!
# Registries over time

Files change as they like, and a registry does not notice: at each location stands the instance that
was last put in there, by hand or by loading the location, unless it was taken away since. A load
that fails changes nothing, and what is done for one location does not show at any other
(`Registry.instances_run`).
-/

namespace CloudScope

namespace Entries

variable {β : Type} {key other : String}

theorem find?_erase_self (key : String) (l : List (String × β)) :
    find? key (erase key l) = none := by
  induction l with
  | nil => rfl
  | cons e l ih =>
    by_cases he : e.1 = key
    · rwa [erase, List.filter_cons_of_neg (by simpa using he), ← erase]
    · rw [erase, List.filter_cons_of_pos (by simpa using he), ← erase, find?, if_neg he, ih]

theorem find?_erase_of_ne (hne : other ≠ key) (l : List (String × β)) :
    find? other (erase key l) = find? other l := by
  induction l with
  | nil => rfl
  | cons e l ih =>
    by_cases he : e.1 = key
    · rw [erase, List.filter_cons_of_neg (by simpa using he), ← erase, ih, find?,
        if_neg (he ▸ Ne.symm hne)]
    · rw [erase, List.filter_cons_of_pos (by simpa using he), ← erase, find?, find?, ih]

end Entries

namespace Registry

/-! ## Histories -/

/-- What is done to a registry. -/
inductive Operation where
  | getOrLoad (location : String)
  | reload (location : String)
  | insert (location : String) (c : Catalog)
  | get (location : String)
  | invalidate (location : String)
  | clear
deriving DecidableEq, Repr

/-- The location that an operation is for. Clearing is for none of its own. -/
def Operation.location? : Operation → Option String
  | .getOrLoad location | .reload location | .insert location _ | .get location
  | .invalidate location => some location
  | .clear => none

/-- An operation, and what files read as at its time. -/
structure Step where
  read : String → Except ReadFault String
  operation : Operation

/-- The catalog at a location at the time of a step. -/
def Step.load (step : Step) (location : String) : Except Catalog.LoadError Catalog :=
  (Catalog.load (m := Id) step.read location).run

/-- What an operation comes to. -/
inductive Answer where
  | held (result : Except Catalog.LoadError Instance)
  | found (i? : Option Instance)
  | removed (present : Bool)
  | cleared

def perform (r : Registry) (step : Step) : Answer × Registry :=
  match step.operation with
  | .getOrLoad location => (r.getOrLoad (m := Id) (pure <| step.load ·) location).run.map .held id
  | .reload location => (r.reload (m := Id) (pure <| step.load ·) location).run.map .held id
  | .insert location c => (r.insert location c).map (.held ∘ .ok) id
  | .get location => (.found (r.get? location), r)
  | .invalidate location => (r.invalidate location).map .removed id
  | .clear => (.cleared, r.clear)

/-- The registry after steps from an empty one. -/
def run (steps : List Step) : Registry :=
  steps.foldl (fun r step => (r.perform step).2) ∅

/-- The catalog that a step brings to a location: one that is given, or one that is loaded. Nothing
is loaded where an instance is found instead. -/
def brought? (r : Registry) (step : Step) : Option (String × Catalog) :=
  match step.operation with
  | .getOrLoad location =>
    if r.get? location = none then (step.load location).toOption.map (location, ·) else none
  | .reload location => (step.load location).toOption.map (location, ·)
  | .insert location c => some (location, c)
  | .get _ | .invalidate _ | .clear => none

/-- Whether a step puts an instance in at a location: a new one, of the catalog brought there. -/
def Installs (r : Registry) (step : Step) (location : String) (i : Instance) : Prop :=
  r.brought? step = some (location, i.catalog) ∧ i.number = r.made

/-- Whether a step takes away what is at a location. -/
def Step.Removes (step : Step) (location : String) : Prop :=
  step.operation = .invalidate location ∨ step.operation = .clear

/-- Whether a step at a time puts an instance in at a location. -/
def InstalledAt (steps : List Step) (time : Nat) (location : String) (i : Instance) : Prop :=
  ∃ step, steps[time]? = some step ∧ (run (steps.take time)).Installs step location i

/-- Whether a step at a time takes away what is at a location, or puts an instance in there. -/
def DisplacedAt (steps : List Step) (time : Nat) (location : String) : Prop :=
  (∃ step, steps[time]? = some step ∧ step.Removes location) ∨
    ∃ i, InstalledAt steps time location i

variable {r : Registry} {step : Step} {steps : List Step} {location other : String} {i : Instance}
  {c : Catalog} {e : Catalog.LoadError} {time : Nat}

/-! ## Single steps -/

/-- Loading a location puts the catalog in that it brings, or fails and changes nothing. -/
theorem reload_pure (r : Registry) (load : String → Except Catalog.LoadError Catalog)
    (location : String) : (r.reload (m := Id) (pure <| load ·) location).run =
      match load location with
      | .ok c => (.ok ⟨r.made, c⟩, (r.insert location c).2)
      | .error e => (.error e, r) := by
  rw [reload, pure_bind]
  cases load location <;> rfl

theorem getOrLoad_of_get?_eq_some {m : Type → Type} [Monad m] (h : r.get? location = some i)
    (load : String → m (Except Catalog.LoadError Catalog)) :
    r.getOrLoad load location = pure (.ok i, r) := by
  rw [getOrLoad, h]

theorem getOrLoad_of_get?_eq_none {m : Type → Type} [Monad m] (h : r.get? location = none)
    (load : String → m (Except Catalog.LoadError Catalog)) :
    r.getOrLoad load location = r.reload load location := by
  rw [getOrLoad, h]

theorem brought?_eq_some_iff : r.brought? step = some (location, c) ↔
    step.operation = .insert location c ∨
      (step.operation = .reload location ∨
        step.operation = .getOrLoad location ∧ r.get? location = none) ∧
      step.load location = .ok c := by
  have hload (location' : String) : (step.load location').toOption.map (location', ·) =
      some (location, c) ↔ location' = location ∧ step.load location = .ok c := by
    cases h : step.load location' <;> grind [Except.toOption]
  rw [brought?]
  cases step.operation <;> grind

/-- A step that brings a catalog puts it in as a new instance, and comes to that. -/
theorem perform_of_brought (h : r.brought? step = some (location, c)) :
    r.perform step = (.held (.ok ⟨r.made, c⟩), (r.insert location c).2) := by
  rcases brought?_eq_some_iff.mp h with hoperation | ⟨hoperation | ⟨hoperation, hget⟩, hload⟩ <;>
    simp only [perform, hoperation]
  · rfl
  · simp only [reload_pure, hload]
    rfl
  · simp only [getOrLoad_of_get?_eq_none hget, reload_pure, hload]
    rfl

/-- A step that loads a location without success comes to that, and changes nothing. -/
theorem perform_of_load_eq_error (hload : step.load location = .error e)
    (hoperation : step.operation = .reload location ∨
      step.operation = .getOrLoad location ∧ r.get? location = none) :
    r.perform step = (.held (.error e), r) := by
  rcases hoperation with hoperation | ⟨hoperation, hget⟩ <;> simp only [perform, hoperation]
  · simp only [reload_pure, hload]
    rfl
  · simp only [getOrLoad_of_get?_eq_none hget, reload_pure, hload]
    rfl

/-- A step that brings nothing takes an instance away, clears the registry, or leaves it alone. -/
theorem cases_of_brought?_eq_none (h : r.brought? step = none) :
    (∃ location, step.operation = .invalidate location ∧
      r.perform step = (r.invalidate location).map .removed id) ∨
    step.operation = .clear ∧ r.perform step = (.cleared, r.clear) ∨
    (r.perform step).2 = r ∧ ∀ location, ¬ step.Removes location := by
  obtain ⟨read, operation⟩ := step
  cases operation with
  | insert location c => cases h
  | invalidate location => exact .inl ⟨location, rfl, rfl⟩
  | clear => exact .inr (.inl ⟨rfl, rfl⟩)
  | get location => exact .inr (.inr ⟨rfl, by simp [Step.Removes]⟩)
  | reload location =>
    rcases hload : Step.load ⟨read, .reload location⟩ location with e | c
    · exact .inr (.inr ⟨by rw [perform_of_load_eq_error hload (.inl rfl)], by simp [Step.Removes]⟩)
    · simp [brought?, hload, Except.toOption] at h
  | getOrLoad location =>
    refine .inr (.inr ⟨?_, by simp [Step.Removes]⟩)
    rcases hget : r.get? location with _ | i
    · rcases hload : Step.load ⟨read, .getOrLoad location⟩ location with e | c
      · rw [perform_of_load_eq_error hload (.inr ⟨rfl, hget⟩)]
      · simp [brought?, hget, hload, Except.toOption] at h
    · simp [perform, getOrLoad_of_get?_eq_some hget]

theorem get?_invalidate (r : Registry) (location other : String) :
    (r.invalidate location).2.get? other = if other = location then none else r.get? other := by
  split
  · next h => exact h ▸ Entries.find?_erase_self ..
  · next h => exact Entries.find?_erase_of_ne h _

/-- After a step, at a location stands what the step puts in there, or else what stood there and is
not taken away. -/
theorem get?_perform_iff : (r.perform step).2.get? location = some i ↔
    r.Installs step location i ∨
      r.get? location = some i ∧ ¬ step.Removes location ∧ ¬ ∃ i, r.Installs step location i := by
  rcases hbrought : r.brought? step with _ | ⟨location', c⟩
  · have hinstalls (i) : ¬ r.Installs step location i := fun h => by simp [h.1] at hbrought
    simp only [hinstalls, exists_false, not_false_eq_true, and_true, false_or]
    obtain ⟨location', hoperation, h⟩ | ⟨hoperation, h⟩ | ⟨h, hremoves⟩ :=
      cases_of_brought?_eq_none hbrought
    · rw [h]
      grind [Step.Removes, get?_invalidate]
    · rw [h]
      simp [Step.Removes, hoperation, clear, get?, Entries.find?]
    · rw [h]
      simp [hremoves location]
  · have hremoves : ¬ step.Removes location := by
      rcases brought?_eq_some_iff.mp hbrought with h | ⟨h | ⟨h, -⟩, -⟩ <;> simp [Step.Removes, h]
    rw [perform_of_brought hbrought]
    by_cases hsame : location = location'
    · subst hsame
      have hinstalls (i) : r.Installs step location i ↔ ⟨r.made, c⟩ = i := by
        obtain ⟨number, c'⟩ := i
        simp [Installs, hbrought, and_comm, eq_comm]
      have hget : (r.insert location c).2.get? location = some ⟨r.made, c⟩ :=
        Entries.find?_insert_self ..
      simp [hget, hinstalls]
    · have hinstalls (i) : ¬ r.Installs step location i := by
        simp [Installs, hbrought, Ne.symm hsame]
      have hget : (r.insert location' c).2.get? location = r.get? location :=
        Entries.find?_insert_of_ne hsame ..
      simp [hget, hinstalls, hremoves]

/-- A step makes one new instance if it puts one in, and else none. -/
theorem made_perform (r : Registry) (step : Step) :
    (r.perform step).2.made = r.made + if (r.brought? step).isSome then 1 else 0 := by
  rcases hbrought : r.brought? step with _ | ⟨location, c⟩
  · obtain ⟨location, -, h⟩ | ⟨-, h⟩ | ⟨h, -⟩ := cases_of_brought?_eq_none hbrought <;>
      rw [h] <;> rfl
  · rw [perform_of_brought hbrought]
    rfl

/-! ## Runs -/

theorem run_concat (steps : List Step) (step : Step) :
    run (steps ++ [step]) = ((run steps).perform step).2 :=
  List.foldl_append

theorem run_take_succ (h : steps[time]? = some step) :
    run (steps.take (time + 1)) = ((run (steps.take time)).perform step).2 := by
  rw [List.take_add_one, h]
  exact run_concat ..

theorem made_run_take_mono {time later : Nat} (h : time ≤ later) :
    (run (steps.take time)).made ≤ (run (steps.take later)).made := by
  induction h with
  | refl => exact Nat.le_refl _
  | @step later _ ih =>
    rcases hstep : steps[later]? with _ | step
    · rwa [List.take_add_one, hstep, Option.toList_none, List.append_nil]
    · rw [run_take_succ hstep, made_perform]
      exact Nat.le_trans ih (Nat.le_add_right _ _)

/-- Instances that are put in at different times have different numbers. -/
theorem InstalledAt.time_le {time' : Nat} {location' : String} {i' : Instance}
    (h : InstalledAt steps time location i) (h' : InstalledAt steps time' location' i')
    (hnumber : i.number = i'.number) : time' ≤ time := by
  obtain ⟨step, hstep, hbrought, hmade⟩ := h
  obtain ⟨step', hstep', hbrought', hmade'⟩ := h'
  refine Nat.le_of_not_lt fun hlater => ?_
  have hmono : (run (steps.take (time + 1))).made ≤ (run (steps.take time')).made :=
    made_run_take_mono (Nat.succ_le_of_lt hlater)
  rw [run_take_succ hstep, made_perform, hbrought] at hmono
  simp only [Option.isSome_some, if_true] at hmono
  omega

/-- Whether the last instance that was put in at a location is still there. -/
def LastInstalled (steps : List Step) (location : String) (i : Instance) : Prop :=
  ∃ time, InstalledAt steps time location i ∧
    ∀ later, time < later → ¬ DisplacedAt steps later location

theorem getElem?_concat_eq_some_iff {steps : List Step} {step step' : Step} {time : Nat} :
    (steps ++ [step])[time]? = some step' ↔
      steps[time]? = some step' ∨ time = steps.length ∧ step' = step := by
  grind

theorem InstalledAt.lt (h : InstalledAt steps time location i) : time < steps.length := by
  obtain ⟨_, hstep, _⟩ := h
  exact (List.getElem?_eq_some_iff.mp hstep).1

theorem installedAt_concat : InstalledAt (steps ++ [step]) time location i ↔
    InstalledAt steps time location i ∨
      time = steps.length ∧ (run steps).Installs step location i := by
  have hearlier (h : time < steps.length) : (steps ++ [step]).take time = steps.take time :=
    List.take_append_of_le_length (Nat.le_of_lt h)
  constructor
  · rintro ⟨step', hstep', hinstalls⟩
    rcases getElem?_concat_eq_some_iff.mp hstep' with hstep' | ⟨rfl, rfl⟩
    · rw [hearlier (List.getElem?_eq_some_iff.mp hstep').1] at hinstalls
      exact .inl ⟨step', hstep', hinstalls⟩
    · rw [List.take_left] at hinstalls
      exact .inr ⟨rfl, hinstalls⟩
  · rintro (⟨step', hstep', hinstalls⟩ | ⟨rfl, hinstalls⟩)
    · refine ⟨step', getElem?_concat_eq_some_iff.mpr (.inl hstep'), ?_⟩
      rwa [hearlier (List.getElem?_eq_some_iff.mp hstep').1]
    · refine ⟨step, getElem?_concat_eq_some_iff.mpr (.inr ⟨rfl, rfl⟩), ?_⟩
      rwa [List.take_left]

theorem displacedAt_concat : DisplacedAt (steps ++ [step]) time location ↔
    DisplacedAt steps time location ∨ time = steps.length ∧
      (step.Removes location ∨ ∃ i, (run steps).Installs step location i) := by
  simp only [DisplacedAt, installedAt_concat, getElem?_concat_eq_some_iff]
  grind

theorem DisplacedAt.lt (h : DisplacedAt steps time location) : time < steps.length := by
  obtain ⟨_, hstep, _⟩ | ⟨_, h⟩ := h
  · exact (List.getElem?_eq_some_iff.mp hstep).1
  · exact h.lt

theorem lastInstalled_concat : LastInstalled (steps ++ [step]) location i ↔
    (run steps).Installs step location i ∨ LastInstalled steps location i ∧
      ¬ step.Removes location ∧ ¬ ∃ i, (run steps).Installs step location i := by
  constructor
  · rintro ⟨time, hinstalled, hlast⟩
    rcases installedAt_concat.mp hinstalled with hinstalled | ⟨rfl, hinstalls⟩
    · have hnow := hlast steps.length hinstalled.lt
      simp only [displacedAt_concat, true_and, not_or] at hnow
      exact .inr ⟨⟨time, hinstalled, fun later hlater hdisplaced =>
        hlast later hlater (displacedAt_concat.mpr (.inl hdisplaced))⟩, hnow.2⟩
    · exact .inl hinstalls
  · rintro (hinstalls | ⟨⟨time, hinstalled, hlast⟩, hremoves, hinstalls⟩)
    · refine ⟨steps.length, installedAt_concat.mpr (.inr ⟨rfl, hinstalls⟩),
        fun later hlater h => ?_⟩
      have := h.lt
      simp only [List.length_append, List.length_singleton] at this
      omega
    · refine ⟨time, installedAt_concat.mpr (.inl hinstalled), fun later hlater h => ?_⟩
      rcases displacedAt_concat.mp h with h | ⟨-, h | h⟩
      · exact hlast later hlater h
      · exact hremoves h
      · exact hinstalls h

/-- At a location stands what was put in last there, unless it was taken away. -/
theorem get?_run_iff (steps : List Step) :
    (run steps).get? location = some i ↔ LastInstalled steps location i := by
  -- from the end, since what a step does depends on all steps before it
  induction steps using List.reverseRecOn generalizing i with
  | nil =>
    refine iff_of_false (fun h => by cases h) ?_
    rintro ⟨_, hinstalled, _⟩
    exact absurd hinstalled.lt (Nat.not_lt_zero _)
  | append_singleton steps step ih =>
    rw [run_concat, get?_perform_iff, lastInstalled_concat, ih]

theorem Installs.location?_eq (h : r.Installs step location i) :
    step.operation.location? = some location := by
  rcases brought?_eq_some_iff.mp h.1 with h | ⟨h | ⟨h, -⟩, -⟩ <;> rw [h] <;> rfl

/-- What is done for one location does not show at another. -/
theorem get?_perform_of_ne (h : step.operation.location? = some location)
    (hne : other ≠ location) : (r.perform step).2.get? other = r.get? other := by
  have hinstalls (i) : ¬ r.Installs step other i := fun hinstalls =>
    hne (Option.some.inj (hinstalls.location?_eq.symm.trans h))
  have hremoves : ¬ step.Removes other := by
    rintro (hoperation | hoperation) <;> rw [hoperation] at h
    · exact hne (Option.some.inj h)
    · cases h
  ext i
  simp [get?_perform_iff, hinstalls, hremoves]

/-- Each instance is put in at one time and one location. -/
theorem InstalledAt.unique {time' : Nat} {location' : String} {i' : Instance}
    (h : InstalledAt steps time location i) (h' : InstalledAt steps time' location' i')
    (hnumber : i.number = i'.number) : time = time' ∧ location = location' ∧ i = i' := by
  obtain rfl := Nat.le_antisymm (h'.time_le h hnumber.symm) (h.time_le h' hnumber)
  obtain ⟨number, c⟩ := i
  obtain ⟨number', c'⟩ := i'
  obtain ⟨step, hstep, hbrought, _⟩ := h
  obtain ⟨step', hstep', hbrought', _⟩ := h'
  cases hstep.symm.trans hstep'
  cases hbrought.symm.trans hbrought'
  cases hnumber
  exact ⟨rfl, rfl, rfl⟩

/-- Whatever is done to a registry while files change, at a location stands the instance that was
put in last there, unless it was taken away since. A step that is given a catalog, or loads one,
puts in an instance of its own and comes to it. An instance that is found is not loaded, whatever
loading would do. A load that fails changes nothing, a step for one location shows at no other, and
taking away tells whether there was an instance. -/
theorem instances_run (steps : List Step) :
    let r := run steps
    (∀ location i, r.get? location = some i ↔ LastInstalled steps location i) ∧
    (∀ step location i, r.Installs step location i → (r.perform step).1 = .held (.ok i)) ∧
    (∀ time time' location location' i i', InstalledAt steps time location i →
      InstalledAt steps time' location' i' → i.number = i'.number →
        time = time' ∧ location = location' ∧ i = i') ∧
    (∀ {m : Type → Type} [Monad m] (load : String → m (Except Catalog.LoadError Catalog)) location,
      (∀ i, r.get? location = some i → r.getOrLoad load location = pure (.ok i, r)) ∧
      (r.get? location = none → r.getOrLoad load location = r.reload load location)) ∧
    (∀ step location e, step.load location = .error e →
      step.operation = .reload location ∨
        step.operation = .getOrLoad location ∧ r.get? location = none →
      r.perform step = (.held (.error e), r)) ∧
    (∀ step location other, step.operation.location? = some location → other ≠ location →
      (r.perform step).2.get? other = r.get? other) ∧
    ∀ read location, (r.perform ⟨read, .invalidate location⟩).1 =
      .removed (r.get? location).isSome := by
  intro r
  refine ⟨fun _ _ => get?_run_iff steps, fun step location i h => ?comes,
    fun _ _ _ _ _ _ h h' hnumber => h.unique h' hnumber, fun load location => ⟨fun i h => ?found,
      fun h => getOrLoad_of_get?_eq_none h load⟩, fun _ _ _ => perform_of_load_eq_error,
    fun _ _ _ => get?_perform_of_ne, fun _ _ => rfl⟩
  case comes =>
    obtain ⟨number, c⟩ := i
    obtain ⟨hbrought, rfl⟩ := h
    rw [perform_of_brought hbrought]
  case found => exact getOrLoad_of_get?_eq_some h load

/-- A catalog that was loaded stays although its file changes and then goes away. -/
theorem instances_run_stale :
    let old : String → Except ReadFault String := fun _ => .ok "[]"
    let new : String → Except ReadFault String := fun _ => .ok "[[\"compute\",\"A\",\"http://a\"]]"
    let gone : String → Except ReadFault String := fun _ => .error .missing
    let steps : List Step := [⟨old, .getOrLoad "c.json"⟩, ⟨new, .getOrLoad "c.json"⟩,
      ⟨new, .reload "./c.json"⟩, ⟨gone, .reload "c.json"⟩, ⟨gone, .invalidate "./c.json"⟩]
    LastInstalled steps "c.json" ⟨0, ⟨[]⟩⟩ ∧
      (run steps).perform ⟨gone, .getOrLoad "./c.json"⟩ =
        (.held (.error (.unreadable "./c.json" .missing)), run steps) := by
  intro old new gone steps
  have hget : (run steps).get? "c.json" = some ⟨0, ⟨[]⟩⟩ := by cbv
  have hnone : (run steps).get? "./c.json" = none := by cbv
  have hload : Step.load ⟨gone, .getOrLoad "./c.json"⟩ "./c.json" =
    .error (.unreadable "./c.json" .missing) := by cbv
  obtain ⟨hlast, -, -, -, hfails, -⟩ := instances_run steps
  exact ⟨(hlast _ _).mp hget, hfails _ _ _ hload (.inr ⟨rfl, hnone⟩)⟩

end Registry

end CloudScope
