import CloudScope.Proofs.Expr.Parsing

/-!
# Nested calls of the reader of expressions

A call of the reader has further calls nested in it: one for an expression in parentheses, and one
for the right side of each operator. A budget runs out exactly if more calls are nested in one
another than it allows (`run_eq_exhausted_iff`). Each of them is on a higher floor than the one
around it, or behind one more parenthesis, so there are never more than `maxCalls`
(`length_add_depth_lt`); there may be as many (`exists_isChain_maxCalls`).
-/

namespace CloudScope.Expr

/-- A call of the reader of expressions, where `nesting` parentheses are open. -/
structure Call where
  nesting : Nat
  floor : Nat
  lexemes : List Lexeme

/-- What a call comes to if at most `budget` calls may be open at a time. -/
def Call.run (stop budget : Nat) (c : Call) : Except Stop (Expr × Rest c.lexemes) :=
  expression stop budget c.nesting c.floor c.lexemes

/-- The way of `operands` over operators and their right sides. -/
inductive Passes (operand : Nat → ExprReader) (floor : Nat) : List Lexeme → List Lexeme → Prop where
  | refl (s) : Passes operand floor s s
  | step {op offset later right after rest} :
    floor ≤ op.precedence → Gives (operand (op.precedence + 1) later) right after →
    Passes operand floor after rest → Passes operand floor (⟨.operator op, offset⟩ :: later) rest

/-- A call has another one nested in it. For what is read before the other one begins, some budget
is enough. -/
inductive Call.Nests (stop : Nat) : Call → Call → Prop where
  /-- The call for what stands in parentheses. -/
  | group {nesting floor offset later} : nesting ≠ maxNesting →
    Nests stop ⟨nesting, floor, ⟨.opening, offset⟩ :: later⟩ ⟨nesting + 1, 0, later⟩
  /-- The call for the right side of an operator. -/
  | operand {budget nesting floor s left mid op offset later} :
    Gives (primary stop nesting (expression stop budget (nesting + 1) 0) s) left mid →
    Passes (expression stop budget nesting) floor mid (⟨.operator op, offset⟩ :: later) →
    floor ≤ op.precedence → Nests stop ⟨nesting, floor, s⟩ ⟨nesting, op.precedence + 1, later⟩

variable {stop nesting budget floor offset : Nat} {s rest later : List Lexeme} {left e : Expr}
  {op : Operator} {c c' : Call} {calls : List Call}

/-! ## Exhausted readers -/

section

variable {operand : Nat → ExprReader}

theorem primary_eq_exhausted_iff {inner : ExprReader} :
    primary stop nesting inner s = .error .exhausted ↔ ∃ offset later,
      s = ⟨.opening, offset⟩ :: later ∧ nesting ≠ maxNesting ∧ inner later = .error .exhausted := by
  rcases s with _ | ⟨⟨_ | _ | _ | _, offset⟩, later⟩
  case cons.opening =>
    have hclosing : ∀ s : List Lexeme, closing stop s ≠ .error .exhausted := by
      rintro (_ | ⟨⟨_ | _ | _ | _, _⟩, _⟩) <;> simp [closing]
    rw [primary]
    by_cases h : nesting = maxNesting
    · simp [h]
    · rw [if_neg h]
      rcases hinner : inner later with fault | ⟨e, after⟩
      · simp [h, hinner]
      · simp only [List.cons.injEq, Lexeme.mk.injEq, true_and]
        constructor
        · exact fun hmap => absurd (eq_error_of_map_eq_error hmap) (hclosing after.val)
        · rintro ⟨_, _, ⟨-, rfl⟩, -, hexhausted⟩
          cases hinner.symm.trans hexhausted
  all_goals simp [primary]

theorem operands_cons_of_exhausted (hop : floor ≤ op.precedence)
    (h : operand (op.precedence + 1) later = .error .exhausted) :
    operands operand floor left (⟨.operator op, offset⟩ :: later) = .error .exhausted := by
  rw [operands]
  dsimp only
  rw [if_neg (Nat.not_lt.mpr hop), h]

theorem operands_cons_of_gives {right : Expr} {after : List Lexeme} (hop : floor ≤ op.precedence)
    (hright : Gives (operand (op.precedence + 1) later) right after)
    (h : operands operand floor (.combine op left right) after = .error .exhausted) :
    operands operand floor left (⟨.operator op, offset⟩ :: later) = .error .exhausted := by
  obtain ⟨_, hright⟩ := hright
  rw [operands]
  dsimp only
  rw [if_neg (Nat.not_lt.mpr hop), hright]
  dsimp only
  rw [h]
  rfl

/-- If the operands exhaust the budget, it is at the right side of an operator. -/
theorem exists_passes_of_exhausted (h : operands operand floor left s = .error .exhausted) :
    ∃ op offset later, Passes operand floor s (⟨.operator op, offset⟩ :: later) ∧
      floor ≤ op.precedence ∧ operand (op.precedence + 1) later = .error .exhausted := by
  -- an operand takes at least one lexeme, so what is behind it is shorter
  induction hlength : s.length using Nat.strong_induction_on generalizing left s with
  | h k ih =>
    rcases s with _ | ⟨⟨_ | op | _ | _, offset⟩, later⟩
    case cons.operator =>
      rw [operands] at h
      dsimp only at h
      split at h
      · cases h
      · next hop =>
        have hop := Nat.le_of_not_lt hop
        rcases hread : operand (op.precedence + 1) later with fault | ⟨right, after⟩
        · rw [hread] at h
          cases h
          exact ⟨op, offset, later, .refl _, hop, hread⟩
        · rw [hread] at h
          have hshorter := after.property
          rw [List.length_cons] at hlength
          obtain ⟨op', offset', later', hpasses, hop', hexhausted⟩ :=
            ih _ (by omega) (eq_error_of_map_eq_error h) rfl
          exact ⟨op', offset', later', .step hop (.of_eq hread) hpasses, hop', hexhausted⟩
    all_goals
      rw [operands.eq_def] at h
      cases h

end

/-! ## Smaller and greater budgets -/

/-- What the second reader gives, the first one gives, too, unless its budget runs out. -/
def Curtails (few many : ExprReader) : Prop :=
  ∀ ⦃s e rest⦄, Gives (many s) e rest → few s = .error .exhausted ∨ Gives (few s) e rest

theorem Curtails.primary {few many : ExprReader} (h : Curtails few many) :
    Curtails (primary stop nesting few) (primary stop nesting many) := by
  intro s e rest hmany
  rcases gives_primary_iff.mp hmany with hname | ⟨offset, later, closed, rfl, hne, hinner⟩
  · exact .inr (gives_primary_iff.mpr (.inl hname))
  · rcases h hinner with hexhausted | hinner
    · exact .inl (primary_eq_exhausted_iff.mpr ⟨offset, later, rfl, hne, hexhausted⟩)
    · exact .inr (gives_primary_iff.mpr (.inr ⟨offset, later, closed, rfl, hne, hinner⟩))

section

variable {few many : Nat → ExprReader} (h : ∀ floor, Curtails (few floor) (many floor))

include h

theorem Curtails.operands (floor : Nat) (left : Expr)
    (hmany : Gives (Expr.operands many floor left s) e rest) :
    Expr.operands few floor left s = .error .exhausted ∨
      Gives (Expr.operands few floor left s) e rest := by
  have hclimbs := climbs_of_gives hmany
  clear hmany
  induction hclimbs with
  | stop hstops => exact .inr ((gives_operands_of_stops hstops).mpr ⟨rfl, rfl⟩)
  | step hop hright _ ih =>
    rcases h _ hright with hexhausted | hright
    · exact .inl (operands_cons_of_exhausted hop hexhausted)
    · rcases ih with hexhausted | hlater
      · exact .inl (operands_cons_of_gives hop hright hexhausted)
      · exact .inr ((gives_operands_cons hop).mpr ⟨_, _, hright, hlater⟩)

theorem Passes.operands_eq_exhausted
    (hpasses : Passes many floor s (⟨.operator op, offset⟩ :: later)) (hop : floor ≤ op.precedence)
    (hexhausted : few (op.precedence + 1) later = .error .exhausted) (left : Expr) :
    operands few floor left s = .error .exhausted := by
  generalize hend : (⟨.operator op, offset⟩ :: later : List Lexeme) = last at hpasses
  induction hpasses generalizing left with
  | refl =>
    subst hend
    exact operands_cons_of_exhausted hop hexhausted
  | step hop' hright _ ih =>
    rcases h _ hright with hright | hright
    · exact operands_cons_of_exhausted hop' hright
    · exact operands_cons_of_gives hop' hright (ih _ hend)

end

/-- The budget matters only where it runs out. -/
theorem curtails_expression (few many nesting floor : Nat) :
    Curtails (expression stop few nesting floor) (expression stop many nesting floor) := by
  induction few generalizing many nesting floor with
  | zero => exact fun _ _ _ _ => .inl rfl
  | succ few ih =>
    intro s e rest h
    cases many with
    | zero => exact (Gives.not_error h).elim
    | succ many =>
      obtain ⟨left, mid, hleft, hoperands⟩ := gives_expression_iff.mp h
      rcases (ih many (nesting + 1) 0).primary hleft with hexhausted | hfew
      · rw [expression, hexhausted]
        exact .inl rfl
      · rcases Curtails.operands (ih many nesting) floor left hoperands with hexhausted | hlater
        · obtain ⟨_, hfew⟩ := hfew
          rw [expression, hfew]
          dsimp only
          rw [hexhausted]
          exact .inl rfl
        · exact .inr (gives_expression_iff.mpr ⟨left, mid, hfew, hlater⟩)

/-! ## Exhausted budgets -/

/-- A call that exhausts its budget has another one nested in it that exhausts what is left. -/
theorem exists_nests_of_exhausted (h : c.run stop (budget + 1) = .error .exhausted) :
    ∃ c', c.Nests stop c' ∧ c'.run stop budget = .error .exhausted := by
  obtain ⟨nesting, floor, s⟩ := c
  rw [Call.run, expression] at h
  dsimp only at h
  split at h
  · next hleft =>
    cases h
    obtain ⟨offset, later, rfl, hne, hexhausted⟩ := primary_eq_exhausted_iff.mp hleft
    exact ⟨_, .group hne, hexhausted⟩
  · next left mid hleft =>
    split at h
    · next hoperands =>
      cases h
      obtain ⟨op, offset, later, hpasses, hop, hexhausted⟩ := exists_passes_of_exhausted hoperands
      exact ⟨_, .operand (.of_eq hleft) hpasses hop, hexhausted⟩
    · cases h

theorem Call.Nests.run_eq_exhausted (h : c.Nests stop c')
    (hexhausted : c'.run stop budget = .error .exhausted) :
    c.run stop (budget + 1) = .error .exhausted := by
  rw [Call.run, expression]
  cases h with
  | group hne => rw [primary_eq_exhausted_iff.mpr ⟨_, _, rfl, hne, hexhausted⟩]
  | @operand many nesting floor s left mid op offset later hleft hpasses hop =>
    dsimp only
    rcases (curtails_expression budget many (nesting + 1) 0).primary hleft with hfew | ⟨_, hfew⟩
    · rw [hfew]
    · rw [hfew]
      dsimp only
      rw [hpasses.operands_eq_exhausted (curtails_expression budget many nesting) hop hexhausted]

/-- The budget of a call runs out exactly if one call more than it allows would be open at a time:
below the call itself, as many as it allows. -/
theorem run_eq_exhausted_iff : c.run stop budget = .error .exhausted ↔
    ∃ calls, (c :: calls).IsChain (Call.Nests stop) ∧ calls.length = budget := by
  induction budget generalizing c with
  | zero =>
    constructor
    · exact fun _ => ⟨[], .singleton c, rfl⟩
    · exact fun _ => rfl
  | succ budget ih =>
    constructor
    · intro h
      obtain ⟨c', hnests, hexhausted⟩ := exists_nests_of_exhausted h
      obtain ⟨calls, hcalls, rfl⟩ := ih.mp hexhausted
      exact ⟨c' :: calls, hcalls.cons_cons hnests, rfl⟩
    · rintro ⟨_ | ⟨c', calls⟩, hcalls, hlength⟩
      · cases hlength
      · obtain ⟨hnests, hcalls⟩ := List.isChain_cons_cons.mp hcalls
        exact hnests.run_eq_exhausted (ih.mpr ⟨calls, hcalls, Nat.succ.inj hlength⟩)

/-! ## How many calls are nested -/

/-- Whether a call has a floor and parentheses that the reader comes to. -/
structure Call.Fits (c : Call) : Prop where
  nesting_le : c.nesting ≤ maxNesting
  floor_le : c.floor ≤ 3

/-- The most calls that a call is nested in: three for each open parenthesis, and one for each floor
below its own. -/
def Call.depth (c : Call) : Nat := 3 * c.nesting + (c.floor - 1)

theorem precedence_bounds (op : Operator) : 0 < op.precedence ∧ op.precedence ≤ 2 := by
  cases op <;> decide

theorem Call.Nests.fits (h : c.Nests stop c') (hc : c.Fits) : c'.Fits := by
  obtain ⟨hnesting, hfloor⟩ := hc
  cases h with
  | group hne => exact ⟨Nat.lt_of_le_of_ne hnesting hne, Nat.zero_le 3⟩
  | @operand _ _ _ _ _ _ op => exact ⟨hnesting, Nat.succ_le_succ (precedence_bounds op).2⟩

theorem Call.Nests.depth_lt (h : c.Nests stop c') (hc : c.Fits) : c.depth < c'.depth := by
  have hfloor := hc.floor_le
  cases h with
  | group =>
    simp only [depth] at hfloor ⊢
    omega
  | @operand _ _ _ _ _ _ op _ _ _ _ hop =>
    have hpositive := (precedence_bounds op).1
    simp only [depth]
    omega

/-- Calls that are nested in one another are fewer than `maxCalls`, by as many as the first one may
be nested in. -/
theorem length_add_depth_lt (h : (c :: calls).IsChain (Call.Nests stop)) (hc : c.Fits) :
    calls.length + c.depth < maxCalls := by
  induction calls generalizing c with
  | nil =>
    obtain ⟨hnesting, hfloor⟩ := hc
    simp only [List.length_nil, Call.depth, maxCalls]
    omega
  | cons c' calls ih =>
    obtain ⟨hnests, hcalls⟩ := List.isChain_cons_cons.mp h
    have hlength := ih hcalls (hnests.fits hc)
    have hdepth := hnests.depth_lt hc
    rw [List.length_cons]
    omega

theorem fits_of_lexemes (s : List Lexeme) : (Call.mk 0 0 s).Fits :=
  ⟨Nat.zero_le _, Nat.zero_le _⟩

/-- No lexemes exhaust the budget of the reader. -/
theorem run_maxCalls_ne_exhausted (stop : Nat) (s : List Lexeme) :
    (Call.mk 0 0 s).run stop maxCalls ≠ .error .exhausted := by
  intro h
  obtain ⟨calls, hcalls, hlength⟩ := run_eq_exhausted_iff.mp h
  have hlt := length_add_depth_lt hcalls (fits_of_lexemes s)
  omega

/-! ## As many calls as there may be -/

/-- Lexemes with an operator of each sort, where `later` is the last operand. -/
def flight (later : List Lexeme) : List Lexeme :=
  ⟨.name "a", 0⟩ :: ⟨.operator .or, 0⟩ :: ⟨.name "b", 0⟩ :: ⟨.operator .and, 0⟩ :: later

/-- Lexemes that open a parenthesis behind an operator of each sort, `levels` times. -/
def stairs : (levels : Nat) → List Lexeme
  | 0 => flight [⟨.name "c", 0⟩]
  | levels + 1 => flight (⟨.opening, 0⟩ :: stairs levels)

theorem nests_of_name {text : String} (h : floor ≤ op.precedence) :
    (Call.mk nesting floor (⟨.name text, 0⟩ :: ⟨.operator op, 0⟩ :: later)).Nests stop
      ⟨nesting, op.precedence + 1, later⟩ := by
  have hname : Gives (primary stop nesting (expression stop 0 (nesting + 1) 0)
      (⟨.name text, 0⟩ :: ⟨.operator op, 0⟩ :: later)) (.endpoint text)
      (⟨.operator op, 0⟩ :: later) :=
    gives_primary_iff.mpr (.inl ⟨text, 0, rfl, rfl⟩)
  exact .operand hname (.refl _) h

theorem exists_isChain_flight
    (h : (Call.mk nesting 3 later :: calls).IsChain (Call.Nests stop)) :
    ∃ more, (Call.mk nesting 0 (flight later) :: more).IsChain (Call.Nests stop) ∧
      more.length = calls.length + 2 := by
  have hterm : 2 ≤ Operator.and.precedence := Nat.le_refl 2
  refine ⟨⟨nesting, 2, ⟨.name "b", 0⟩ :: ⟨.operator .and, 0⟩ :: later⟩ ::
    ⟨nesting, 3, later⟩ :: calls, ?_, rfl⟩
  exact .cons_cons (nests_of_name (Nat.zero_le _)) (.cons_cons (nests_of_name hterm) h)

/-- Each level of stairs has a call on each floor. -/
theorem exists_isChain_stairs (stop levels : Nat) (h : nesting + levels = maxNesting) :
    ∃ calls, (Call.mk nesting 0 (stairs levels) :: calls).IsChain (Call.Nests stop) ∧
      calls.length = 3 * levels + 2 := by
  induction levels generalizing nesting with
  | zero => exact exists_isChain_flight (.singleton _)
  | succ levels ih =>
    have hlevels : nesting + 1 + levels = maxNesting := by omega
    obtain ⟨calls, hcalls, hlength⟩ := ih hlevels
    have hgroup : (Call.mk nesting 3 (⟨.opening, 0⟩ :: stairs levels)).Nests stop
        ⟨nesting + 1, 0, stairs levels⟩ := .group (by omega)
    obtain ⟨more, hmore, hmoreLength⟩ := exists_isChain_flight (hcalls.cons_cons hgroup)
    refine ⟨more, hmore, ?_⟩
    rw [hmoreLength, List.length_cons, hlength]
    omega

/-- Some lexemes lead to as many nested calls as there may be. -/
theorem exists_isChain_maxCalls (stop : Nat) :
    ∃ s calls, (Call.mk 0 0 s :: calls).IsChain (Call.Nests stop) ∧
      (Call.mk 0 0 s :: calls).length = maxCalls := by
  obtain ⟨calls, hcalls, hlength⟩ := exists_isChain_stairs stop maxNesting (Nat.zero_add _)
  exact ⟨_, calls, hcalls, by rw [List.length_cons, hlength]; rfl⟩

end CloudScope.Expr
