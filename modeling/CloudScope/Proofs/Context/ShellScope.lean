import CloudScope.Proofs.Context.Guards
import CloudScope.Proofs.Scope.Text

/-!
# The shell scope over time

Whatever is done to a context, its shell scope is the first scope written to it that is not empty,
and its frames are those that pushes, pops and releases leave. The two do not get in each other's
way (`Chronicle.performAll_opened`), and only the effective scope is made of both
(`Chronicle.shellScope_performAll`).
-/

namespace CloudScope

/-! ## Single operations -/

namespace Context

variable {ctx : Context} {e : ScopeError} {s : Scope} {j : Json}

/-- A scope is written if there is none yet and it is not empty. -/
theorem setShell_eq (ctx : Context) (s : Scope) : ctx.setShell s =
    (ctx.shell.isNone && !s.isEmpty,
      { ctx with shell := ctx.shell.or (if s.isEmpty then none else some s) }) := by
  obtain ⟨shell, frames⟩ := ctx
  rw [setShell]
  cases s.isEmpty <;> cases shell <;> rfl

/-- An object of strings is written as the scope that it is. -/
theorem setShellJson_stringFields (ctx : Context) (entries : List (String × String)) :
    ctx.setShellJson (.object (Json.stringFields entries)) =
      .ok (ctx.setShell (Scope.ofList entries)) := by
  rw [setShellJson, Scope.ofJson_eq_ok_iff.mpr ⟨entries, rfl, rfl⟩]

/-- What is no object of strings is refused. -/
theorem exists_setShellJson_eq_error (ctx : Context)
    (hj : ∀ entries, j ≠ .object (Json.stringFields entries)) :
    ∃ fault, ctx.setShellJson j = .error (.invalidContextWrite (.scope fault)) := by
  rw [setShellJson]
  cases hread : Scope.ofJson j with
  | ok s =>
    obtain ⟨entries, rfl, -⟩ := Scope.ofJson_eq_ok_iff.mp hread
    exact absurd rfl (hj entries)
  | error fault => exact ⟨fault, rfl⟩

theorem shellScope_eq_ok_iff : ctx.shellScope = .ok s ↔ ctx.shell = some s := by
  rw [shellScope]
  cases ctx.shell <;> simp

theorem effectiveScope_of_shell_eq_none (hshell : ctx.shell = none) :
    ctx.effectiveScope = .error .shellScopeUnset := by
  rw [effectiveScope, shellScope, hshell]
  rfl

/-- The effective scope is the shell scope with the endpoint of the innermost frame assigned. -/
theorem exists_effectiveScope (hshell : ctx.shell = some s) :
    ∃ t, ctx.effectiveScope = .ok t ∧ match ctx.peek? with
      | some frame => s.Assigned frame.serviceType frame.endpoint t
      | none => t = s := by
  rw [effectiveScope, shellScope, hshell]
  cases ctx.peek? with
  | none => exact ⟨s, rfl, rfl⟩
  | some frame => exact ⟨_, rfl, s.assigned_insert frame.serviceType frame.endpoint⟩

theorem effectiveScope_eq_error_iff :
    ctx.effectiveScope = .error e ↔ ctx.shell = none ∧ e = .shellScopeUnset := by
  cases hshell : ctx.shell with
  | none => simp [effectiveScope_of_shell_eq_none hshell, eq_comm]
  | some s =>
    obtain ⟨t, ht, -⟩ := exists_effectiveScope hshell
    simp [ht]

end Context

namespace Chronicle

/-! ## Sequences of operations -/

/-- What is done to a context. -/
inductive Operation where
  | write (s : Scope)
  | writeJson (j : Json)
  | move (m : Move)
  /-- Looks something up. -/
  | look
deriving Repr

/-- The scope that an operation has to write. -/
def Operation.scope? : Operation → Option Scope
  | .write s => some s
  | .writeJson j => (Scope.ofJson j).toOption
  | .move _ | .look => none

def Operation.move? : Operation → Option Move
  | .move m => some m
  | .write _ | .writeJson _ | .look => none

/-- The beginning, with no frames, and a scope written if one is given. -/
def opened (given : Option Scope) : Chronicle :=
  ⟨given.elim ∅ Context.ofShell, 0, [], fun _ => none⟩

/-- Performs an operation. Moves alone take time. -/
def perform (h : Chronicle) : Operation → Chronicle
  | .write s => { h with context := (h.context.setShell s).2 }
  | .writeJson j =>
    match h.context.setShellJson j with
    | .ok (_, context) => { h with context }
    | .error _ => h
  | .move m => h.step m
  | .look => h

def performAll (h : Chronicle) (operations : List Operation) : Chronicle :=
  operations.foldl perform h

/-- The first scope, given or written, that is not empty. -/
def firstScope? (given : Option Scope) (operations : List Operation) : Option Scope :=
  (given.toList ++ operations.filterMap Operation.scope?).find? fun s => !s.isEmpty

/-- The chronicle with a shell scope in the place of its own. -/
def withShell (h : Chronicle) (shell : Option Scope) : Chronicle :=
  { h with context := { h.context with shell } }

/-- Moves neither see nor change the shell scope. -/
theorem step_withShell (h : Chronicle) (shell : Option Scope) (m : Move) :
    (h.withShell shell).step m = (h.step m).withShell shell := by
  cases m with
  | push serviceType endpoint =>
    simp only [step, withShell, Context.push]
    cases Text.isAllBlank endpoint <;> cases isAtomic endpoint <;> rfl
  | pop => rfl
  | release time =>
    simp only [step, withShell]
    cases h.held time <;> rfl

theorem perform_write (h : Chronicle) (shell : Option Scope) (s : Scope) :
    (h.withShell shell).perform (.write s) =
      h.withShell (shell.or ([s].find? fun s => !s.isEmpty)) := by
  rw [perform, Context.setShell_eq]
  cases hs : s.isEmpty <;> simp [withShell, hs]

/-- Writes neither see nor change the frames. -/
theorem perform_withShell (h : Chronicle) (shell : Option Scope) (operation : Operation) :
    (h.withShell shell).perform operation = (operation.move?.toList.foldl step h).withShell
      (shell.or (operation.scope?.toList.find? fun s => !s.isEmpty)) := by
  cases operation with
  | write s => exact perform_write h shell s
  | writeJson j =>
    cases hread : Scope.ofJson j with
    | ok s =>
      -- from here on the JSON value is the scope it was read as
      have hwrite : (h.withShell shell).perform (.writeJson j) =
          (h.withShell shell).perform (.write s) := by
        simp only [perform, Context.setShellJson, hread]
      rw [hwrite, perform_write, Operation.scope?, hread]
      rfl
    | error fault =>
      simp [perform, Context.setShellJson, hread, Operation.scope?, Operation.move?,
        Except.toOption]
  | move m =>
    rw [perform, step_withShell]
    simp [Operation.scope?, Operation.move?]
  | look => simp [perform, Operation.scope?, Operation.move?]

theorem firstScope?_append (given : Option Scope) (before after : List Operation) :
    firstScope? given (before ++ after) =
      (firstScope? given before).or (firstScope? none after) := by
  rw [firstScope?, List.filterMap_append, ← List.append_assoc, List.find?_append]
  rfl

/-- The chronicle of a context after any operations: the frames come from the moves alone, and the
shell scope from the writes alone. -/
theorem performAll_opened (given : Option Scope) (operations : List Operation) :
    (opened given).performAll operations =
      ((start none).run (operations.filterMap Operation.move?)).withShell
        (firstScope? given operations) := by
  -- from the end, so that what came before is in the form of the statement again
  induction operations using List.reverseRecOn with
  | nil =>
    cases given with
    | none => rfl
    | some s =>
      rw [firstScope?, performAll, opened, Option.elim_some, Context.ofShell, Context.setShell_eq]
      cases hs : s.isEmpty <;> simp [withShell, start, hs, Context.empty]
  | append_singleton operations operation ih =>
    have hfirst : (operation.scope?.toList.find? fun s => !s.isEmpty) =
        firstScope? none [operation] := by
      rw [firstScope?]
      cases hscope : operation.scope? <;> simp [hscope]
    have hmoves : operation.move?.toList.foldl step
          ((start none).run (operations.filterMap Operation.move?)) =
        (start none).run ((operations ++ [operation]).filterMap Operation.move?) := by
      rw [List.filterMap_append, run_append]
      cases hmove : operation.move? <;> simp [hmove]
    rw [performAll, List.foldl_concat, ← performAll, ih, perform_withShell, hmoves, hfirst,
      firstScope?_append]

/-- Whatever is done to a context, its shell scope is unset until a scope is written that is not
empty, and then it is that scope for good; the frames are those that the moves leave. A scope is
written if none that is not empty has been before and it is not empty itself. A JSON value that is
no object of strings is always refused, and changes nothing. The effective scope is unset if the
shell scope is, and otherwise the shell scope with the endpoint of the innermost frame assigned to
its service type. -/
theorem shellScope_performAll (given : Option Scope) (operations : List Operation) :
    let h := (opened given).performAll operations
    let first? := firstScope? given operations
    h.context.frames = ((start none).run (operations.filterMap Operation.move?)).context.frames ∧
    (h.context.shellScope = match first? with
      | some s => .ok s
      | none => .error .shellScopeUnset) ∧
    (∀ s later, h.context.shellScope = .ok s → (h.performAll later).context.shellScope = .ok s) ∧
    (∀ s, (h.context.setShell s).1 = (first?.isNone && !s.isEmpty)) ∧
    (∀ entries, h.context.setShellJson (.object (Json.stringFields entries)) =
      .ok (h.context.setShell (Scope.ofList entries))) ∧
    (∀ j, (∀ entries, j ≠ .object (Json.stringFields entries)) →
      (∃ fault, h.context.setShellJson j = .error (.invalidContextWrite (.scope fault))) ∧
      h.perform (.writeJson j) = h) ∧
    (∀ e, h.context.effectiveScope = .error e ↔ h.context.shellScope = .error e) ∧
    ∀ s, h.context.shellScope = .ok s → ∃ t, h.context.effectiveScope = .ok t ∧
      match h.context.frames.getLast? with
      | some frame => s.Assigned frame.serviceType frame.endpoint t
      | none => t = s := by
  intro h first?
  have hh : h = ((start none).run (operations.filterMap Operation.move?)).withShell first? :=
    performAll_opened given operations
  have hshell : h.context.shell = first? := by
    rw [hh]
    rfl
  refine ⟨by rw [hh]; rfl, ?unset, ?kept, fun s => ?written,
    Context.setShellJson_stringFields _, fun j hj => ?refused, fun e => ?effective,
    fun s hs => Context.exists_effectiveScope (Context.shellScope_eq_ok_iff.mp hs)⟩
  case unset => exact congrArg (fun shell => Context.shellScope { shell }) hshell
  case kept =>
    intro s later hs
    have hall : h.performAll later = (opened given).performAll (operations ++ later) :=
      List.foldl_append.symm
    rw [Context.shellScope_eq_ok_iff, hshell] at hs
    rw [Context.shellScope_eq_ok_iff, hall, performAll_opened, firstScope?_append]
    exact congrArg (Option.or · _) hs
  case written => rw [Context.setShell_eq, hshell]
  case refused =>
    obtain ⟨fault, hfault⟩ := h.context.exists_setShellJson_eq_error hj
    refine ⟨⟨fault, hfault⟩, ?_⟩
    simp only [perform, hfault]
  case effective =>
    rw [Context.effectiveScope_eq_error_iff, Context.shellScope]
    cases h.context.shell <;> simp [eq_comm]

/-- An empty scope and a value that is no scope do not stand in the way of a scope. It stays as it
is under a frame, and in front of a later one. -/
theorem shellScope_performAll_narrowed :
    let s := Scope.ofList [("compute", "A"), ("network", "N")]
    let h := (opened (some ∅)).performAll [.write ∅, .writeJson (.array []), .write s,
      .move (.push "compute" "B"), .write (Scope.ofList [("compute", "C")]), .look]
    h.context.shellScope = .ok s ∧ h.perform (.writeJson (.array [])) = h ∧
      ∃ t, h.context.effectiveScope = .ok t ∧ s.Assigned "compute" "B" t := by
  intro s h
  obtain ⟨hframes, hshell, -, -, -, hrefused, -, heffective⟩ := shellScope_performAll (some ∅)
    [.write ∅, .writeJson (.array []), .write s, .move (.push "compute" "B"),
      .write (Scope.ofList [("compute", "C")]), .look]
  have hs : h.context.shellScope = .ok s := hshell.trans (by decide)
  have hlast : h.context.frames.getLast? = some ⟨"compute", "B"⟩ :=
    (congrArg List.getLast? hframes).trans (by cbv)
  obtain ⟨t, ht, hassigned⟩ := heffective s hs
  rw [hlast] at hassigned
  exact ⟨hs, (hrefused _ (by simp)).2, t, ht, hassigned⟩

end Chronicle

end CloudScope
