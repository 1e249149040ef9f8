import CloudScope.Proofs.Catalog.Route
import CloudScope.Text.Lossy

/-!
# Requests out of scope

A request for no cataloged service, or without a scope, is none of the catalog's business. It passes
as it is if its headers are legible, and fails otherwise (`Catalog.retarget_of_outOfScope`).
-/

namespace CloudScope

/-- Whether no channel holds a scope, legible or not: there is no `X-Scope`, and what the value
under `X-Auth-Token` stands for holds no delimiter, where bytes that are no text count as other
characters. -/
def Headers.Unscoped (h : Headers) : Prop :=
  h.get? scopeHeader = none ∧ ∀ raw, h.get? tokenHeader = some raw →
    ¬ delimiter <:+: Utf8.decodeLossy (Percent.bytes (Text.trim raw.toList))

/-- What headers without a scope present, if they can be read. -/
theorem Headers.Unscoped.presents {h : Headers} {s? : Option Scope} (hunscoped : h.Unscoped)
    (hpresents : h.Presents s?) : s? = none := by
  obtain ⟨habsent, hdelimiter⟩ := hunscoped
  cases hpresents with
  | header hheader _ =>
    obtain ⟨raw, hget, _⟩ := carried?_eq_ok_some_iff.mp hheader
    cases habsent.symm.trans hget
  | token _ htoken hsplit _ =>
    obtain ⟨raw, hget, hdecode⟩ := carried?_eq_ok_some_iff.mp htoken
    have hnone := hdelimiter raw hget
    rw [Utf8.decodeLossy_of_decode_eq_ok hdecode, ← snd_splitToken_eq_none_iff, hsplit] at hnone
    exact absurd hnone (by simp)
  | nothing => rfl

namespace Catalog

variable {c : Catalog} {r : Request}

/-- Whether a request is for no service of the catalog or has no scope, whatever its headers
hold. -/
def OutOfScope (c : Catalog) (r : Request) : Prop :=
  (∀ s ∈ c.services, ¬ s.url.toList <+: r.url.toList) ∨ r.headers.Unscoped

theorem OutOfScope.leavesAlone (h : c.OutOfScope r) {scope? : Option Scope}
    (hscope : r.headers.scope? = .ok scope?) : c.LeavesAlone r := by
  refine ⟨scope?, hscope, ?_⟩
  rcases h with hurl | hunscoped
  · exact .inl (matchUrl?_eq_none_iff.mpr hurl)
  · exact .inr (hunscoped.presents (Headers.scope?_eq_ok_iff.mp hscope))

/-- A request out of scope passes as it is if its headers are legible. If they are not, one of the
two channels is malformed, and the request stays as it is all the same. -/
theorem retarget_of_outOfScope (c : Catalog) (r : Request) (endpoint : Option String)
    (h : c.OutOfScope r) :
    (r.headers.Legible →
      c.retarget r endpoint = .ok r ∧ c.retargetInPlace r endpoint = (.ok (), r)) ∧
    (¬ r.headers.Legible → ∃ name ∈ [scopeHeader, tokenHeader], ∃ fault,
      c.retarget r endpoint = .error (.malformedHeader name fault) ∧
      c.retargetInPlace r endpoint = (.error (.malformedHeader name fault), r)) := by
  rw [← Headers.exists_scope?_iff]
  constructor
  · rintro ⟨scope?, hscope⟩
    have hpass := retarget_of_leavesAlone (h.leavesAlone hscope) endpoint
    exact ⟨hpass, by rw [retargetInPlace, hpass]⟩
  · intro hillegible
    rcases hscope : r.headers.scope? with e | scope?
    · obtain ⟨name, hname, fault, rfl⟩ := Headers.exists_malformed_of_scope? hscope
      have hfail := retarget_of_scope?_eq_error hscope c endpoint
      exact ⟨name, hname, fault, hfail, by rw [retargetInPlace, hfail]⟩
    · exact absurd ⟨scope?, hscope⟩ hillegible

/-- A request for a cataloged service with a token that is no text by itself. -/
theorem retarget_of_outOfScope_escaped :
    let c : Catalog := ⟨[⟨"compute", "A", "http://a", none⟩]⟩
    let r : Request := ⟨"GET", "http://a/servers", ⟨[("x-auth-token", " t%C3%A9!SCOPE%22 ")]⟩⟩
    c.OutOfScope r ∧ r.headers.Legible ∧
      c.retarget r (some "A&B") = .ok r ∧ c.retargetInPlace r (some "A&B") = (.ok (), r) := by
  intro c r
  have hget : r.headers.get? scopeHeader = none := by decide
  have hbytes : Utf8.decodeLossy (Percent.bytes (Text.trim " t%C3%A9!SCOPE%22 ".toList)) =
      ['t', 'é', '!', 'S', 'C', 'O', 'P', 'E', '"'] := by cbv
  have h : c.OutOfScope r := by
    refine .inr ⟨hget, fun raw hraw => ?_⟩
    cases hraw
    rw [hbytes]
    decide
  have hlegible : r.headers.Legible := Headers.exists_scope?_iff.mp ⟨none, by cbv⟩
  obtain ⟨hpass, hplace⟩ := (retarget_of_outOfScope c r (some "A&B") h).1 hlegible
  exact ⟨h, hlegible, hpass, hplace⟩

/-- A request for no cataloged service fails over an `X-Scope` of somebody else, and one without a
scope over a token that happens to hold an escape. -/
theorem retarget_of_illegible :
    let c : Catalog := ⟨[⟨"compute", "A", "http://a", none⟩]⟩
    let foreign : Request := ⟨"GET", "http://b", ⟨[("X-Scope", "openid email")]⟩⟩
    let unscoped : Request := ⟨"GET", "http://a", ⟨[("X-Auth-Token", "100%ff")]⟩⟩
    (c.OutOfScope foreign ∧ c.retarget foreign none =
      .error (.malformedHeader "X-Scope" (.scope (.json .malformed)))) ∧
    c.OutOfScope unscoped ∧ c.retarget unscoped none =
      .error (.malformedHeader "X-Auth-Token" (.escape (.invalid 1 3))) := by
  intro c foreign unscoped
  have hbytes : Utf8.decodeLossy (Percent.bytes (Text.trim "100%ff".toList)) =
      ['1', '0', '0', '\uFFFD'] := by cbv
  refine ⟨⟨.inl (by decide), by cbv⟩, .inr ⟨by decide, fun raw hraw => ?_⟩, by cbv⟩
  cases hraw
  rw [hbytes]
  decide

end Catalog

end CloudScope
