import CloudScope.Proofs.Context.ShellScope
import CloudScope.Proofs.Http.Changes

/-!
# Injections that are refused

The effective scope is put under `X-Scope` before the token is read. So an injection that is refused
for the token leaves the scope behind, and the request is as it was only if the scope had been there
before, or if there is none (`Context.refused_inject`).
-/

namespace CloudScope

namespace Headers

variable {h : Headers} {s : Scope} {e : ScopeError}

/-- A scope is refused if the token cannot be read. -/
theorem writeScope_eq_error_iff :
    (h.writeScope s).1 = .error e ↔ h.carried? tokenHeader = .error e := by
  rw [writeScope, carried?_setScope]
  rcases h.carried? tokenHeader with e' | _ | text <;> simp

/-- A scope that is refused is under `X-Scope` all the same. -/
theorem writeScope_of_refused (hrefused : (h.writeScope s).1 = .error e) :
    (h.writeScope s).2 = h.setScope s := by
  rw [writeScope, carried?_setScope, writeScope_eq_error_iff.mp hrefused]

/-- A scope that is refused changes nothing if it was under `X-Scope` already. -/
theorem writeScope_eq_self_iff_of_refused (hrefused : (h.writeScope s).1 = .error e) :
    (h.writeScope s).2 = h ↔ h.get? scopeHeader = some s.text := by
  rw [writeScope_of_refused hrefused, setScope, insert_eq_self_iff]

theorem changesUnder_of_refused (hrefused : (h.writeScope s).1 = .error e) :
    h.ChangesUnder [scopeHeader] (h.writeScope s).2 := by
  rw [writeScope_of_refused hrefused]
  exact changesUnder_insert h scopeHeader s.text

end Headers

namespace Context

variable {ctx : Context} {r : Request} {s : Scope} {e : ScopeError}

theorem inject_of_effectiveScope (hscope : ctx.effectiveScope = .ok s) (r : Request) :
    ctx.inject r =
      ((r.headers.writeScope s).1, { r with headers := (r.headers.writeScope s).2 }) := by
  rw [inject, hscope]

theorem inject_of_shell_eq_none (hshell : ctx.shell = none) (r : Request) :
    ctx.inject r = (.error .shellScopeUnset, r) := by
  rw [inject, effectiveScope_of_shell_eq_none hshell]

theorem inject_eq_error_iff_of_effectiveScope (hscope : ctx.effectiveScope = .ok s) :
    (ctx.inject r).1 = .error e ↔ r.headers.carried? tokenHeader = .error e := by
  rw [inject_of_effectiveScope hscope, Headers.writeScope_eq_error_iff]

/-- An injection is refused for want of a shell scope, or because the token cannot be read. -/
theorem exists_inject_eq_error_iff : (∃ e, (ctx.inject r).1 = .error e) ↔
    ctx.shell = none ∨ ¬ r.headers.Decodes tokenHeader := by
  rw [← Headers.exists_carried?_iff]
  cases hshell : ctx.shell with
  | none => simp [inject_of_shell_eq_none hshell]
  | some shell =>
    obtain ⟨s, hs, -⟩ := exists_effectiveScope hshell
    simp only [inject_eq_error_iff_of_effectiveScope hs]
    cases r.headers.carried? tokenHeader <;> simp

/-- An injection that is refused keeps the method, the URL and all headers but `X-Scope`. But the
effective scope is put under `X-Scope` first: the request stays as it was only if there is no
effective scope, or if its text was there already. -/
theorem refused_inject (ctx : Context) (r : Request) :
    ((∃ e, (ctx.inject r).1 = .error e) ↔ ctx.shell = none ∨ ¬ r.headers.Decodes tokenHeader) ∧
    (∀ e, (ctx.inject r).1 = .error e →
      (ctx.inject r).2.method = r.method ∧ (ctx.inject r).2.url = r.url ∧
      r.headers.ChangesUnder [scopeHeader] (ctx.inject r).2.headers ∧
      ((ctx.inject r).2 = r ↔ ∀ s, ctx.effectiveScope = .ok s →
        r.headers.get? scopeHeader = some s.text)) ∧
    ∀ s e, (r.headers.writeScope s).1 = .error e →
      r.headers.ChangesUnder [scopeHeader] (r.headers.writeScope s).2 ∧
      ((r.headers.writeScope s).2 = r.headers ↔ r.headers.get? scopeHeader = some s.text) := by
  refine ⟨exists_inject_eq_error_iff, fun e hrefused => ?_, fun s e hrefused =>
    ⟨Headers.changesUnder_of_refused hrefused, Headers.writeScope_eq_self_iff_of_refused hrefused⟩⟩
  cases hshell : ctx.shell with
  | none =>
    rw [inject_of_shell_eq_none hshell, effectiveScope_of_shell_eq_none hshell]
    exact ⟨rfl, rfl, .refl _ _, iff_of_true rfl nofun⟩
  | some shell =>
    -- only the token can have been at fault, and the scope was under `X-Scope` by then
    obtain ⟨s, hs, -⟩ := exists_effectiveScope hshell
    rw [inject_of_effectiveScope hs] at hrefused ⊢
    have hself := Headers.writeScope_eq_self_iff_of_refused hrefused
    refine ⟨rfl, rfl, Headers.changesUnder_of_refused hrefused, ?_⟩
    rw [hs]
    constructor
    · rintro hsame t ⟨⟩
      exact hself.mp (congrArg Request.headers hsame)
    · intro hthere
      rw [hself.mpr (hthere s rfl)]

/-- An injection that repeats an earlier one is refused for the token, and changes nothing. -/
theorem refused_inject_repeated :
    let ctx : Context := ⟨some (Scope.ofList [("compute", "A")]), []⟩
    let r : Request := ⟨"GET", "http://a", ⟨[("X-Scope", "\x7b\"compute\":\"A\"\x7d"),
      ("X-Auth-Token", "tok%FF")]⟩⟩
    (ctx.inject r).1 = .error (.malformedHeader "X-Auth-Token" (.escape (.invalid 1 3))) ∧
      (ctx.inject r).2 = r := by
  intro ctx r
  have hrefused : (ctx.inject r).1 =
      .error (.malformedHeader "X-Auth-Token" (.escape (.invalid 1 3))) :=
    (inject_eq_error_iff_of_effectiveScope rfl).mpr
      (Headers.carried?_eq_error_iff.mpr ⟨"tok%FF", _, by cbv, by cbv, rfl⟩)
  obtain ⟨-, hinject, -⟩ := refused_inject ctx r
  refine ⟨hrefused, (hinject _ hrefused).2.2.2.mpr ?_⟩
  rintro s ⟨⟩
  cbv

/-- A request whose token cannot be read keeps the scope of an injection that is refused. -/
theorem inject_of_malformed_token :
    let ctx : Context := ⟨some (Scope.ofList [("compute", "A")]), []⟩
    let r : Request := ⟨"GET", "http://a", ⟨[("X-Auth-Token", "tok%FF")]⟩⟩
    (ctx.inject r).1 = .error (.malformedHeader "X-Auth-Token" (.escape (.invalid 1 3))) ∧
      (ctx.inject r).2.headers.toList =
        [("X-Auth-Token", "tok%FF"), ("X-Scope", "\x7b\"compute\":\"A\"\x7d")] ∧
      (ctx.inject r).2 ≠ r := by
  intro ctx r
  have htoken : r.headers.carried? "X-Auth-Token" =
      .error (.malformedHeader "X-Auth-Token" (.escape (.invalid 1 3))) :=
    Headers.carried?_eq_error_iff.mpr ⟨"tok%FF", _, by cbv, by cbv, rfl⟩
  have hheaders : (ctx.inject r).2.headers.toList =
      [("X-Auth-Token", "tok%FF"), ("X-Scope", "\x7b\"compute\":\"A\"\x7d")] := by
    rw [inject_of_effectiveScope rfl,
      Headers.writeScope_of_refused (Headers.writeScope_eq_error_iff.mpr htoken)]
    rfl
  refine ⟨(inject_eq_error_iff_of_effectiveScope rfl).mpr htoken, hheaders, fun hsame => ?_⟩
  rw [hsame] at hheaders
  cases hheaders

end Context

end CloudScope
