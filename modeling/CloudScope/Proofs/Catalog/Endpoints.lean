import CloudScope.Context
import CloudScope.Proofs.Catalog.Route
import CloudScope.Proofs.Expr.Parsing

/-!
# Requests for single endpoints

A dispatch sends a request to the endpoints of its scope one by one. Each endpoint in turn takes the
place of the scope value, but the identity service that the request names is always that of the
whole value (`Catalog.exists_retarget_endpoint_iff`).
-/

namespace CloudScope

/-- The endpoints of an expression are names, so each is a single cloud. -/
theorem Expr.isAtomic_of_mem_endpoints {expression name : String} {e : Expr}
    (h : parse expression = .ok e) (hname : name ∈ e.endpoints) : isAtomic name = true := by
  rw [endpoints_eq_names_of_parse h] at hname
  have hchars := List.all_eq_true.mp (all_isNameChar_of_mem_names hname)
  refine List.all_eq_true.mpr fun c hc => ?_
  have hne : ∀ operator, isNameChar operator = false → c ≠ operator := by
    rintro _ hoperator rfl
    exact absurd (hchars c hc) (by simp [hoperator])
  have hand := hne '&' (by decide)
  have hor := hne '|' (by decide)
  have hcaret := hne '^' (by decide)
  simp [operatorChars, hand, hor, hcaret]

/-- A value for a single cloud that is accepted names one endpoint. -/
theorem Expr.exists_eq_endpoint {value : String} {e : Expr} (h : parse value = .ok e)
    (hatomic : isAtomic value = true) : ∃ name, e = .endpoint name := by
  cases e with
  | endpoint name => exact ⟨name, rfl⟩
  | combine op left right =>
    have hop : op ∈ (tokens value.toList).filterMap Token.operator? := by
      rw [← operators_eq_of_parse h]
      exact List.mem_append_right _ List.mem_cons_self
    obtain ⟨token, htoken, hop⟩ := List.mem_filterMap.mp hop
    obtain rfl : token = .operator op := by
      cases token <;> cases hop
      rfl
    have hsymbol := List.all_eq_true.mp hatomic _ (symbol_mem_of_mem_tokens htoken)
    cases op <;> exact absurd hsymbol (by decide)

/-- The endpoints of an expression can stand in frames. -/
theorem Expr.push_of_mem_endpoints {expression name : String} {e : Expr}
    (h : parse expression = .ok e) (hname : name ∈ e.endpoints) (serviceType : String)
    (ctx : Context) : ctx.push serviceType name =
      .ok (⟨ctx.depth⟩, { ctx with frames := ctx.frames ++ [⟨serviceType, name⟩] }) := by
  have hatomic := isAtomic_of_mem_endpoints h hname
  rw [endpoints_eq_names_of_parse h] at hname
  obtain ⟨c, hc⟩ := List.exists_mem_of_ne_nil _ (toList_ne_nil_of_mem_names hname)
  have hblank : Text.isBlank c = false :=
    isBlank_eq_false (List.all_eq_true.mp (all_isNameChar_of_mem_names hname) c hc)
  have hsome : Text.isAllBlank name = false :=
    List.all_eq_false.mpr ⟨c, hc, Bool.eq_false_iff.mp hblank⟩
  rw [Context.push, hsome, hatomic]
  rfl

namespace Catalog

variable {c : Catalog} {r : Request} {serviceType value name : String} {e : Expr}
  {service : Service} {rest : List Char}

/-- A request with readable tokens gets to an endpoint of its scope exactly if its service is there
and, where the service is the identity service, the cloud that the whole value names has an
administrative one. -/
theorem exists_retarget_endpoint_iff
    (hgoverning : c.governing? r = .ok (some (serviceType, value)))
    (hmatch : c.matchUrl? r.url = some (service, rest))
    (hparse : Expr.parse value = .ok e) (hname : name ∈ e.endpoints)
    (htoken : r.headers.Decodes tokenHeader) (hsubject : r.headers.Decodes subjectTokenHeader) :
    (∃ r', c.retarget r (some name) = .ok r') ↔
      (∃ s ∈ c.services, (Query.siblingOf service name).Matches s) ∧
        (serviceType = identityType →
          ∃ s ∈ c.services, Query.Matches ⟨identityType, value, some adminInterface⟩ s) := by
  obtain ⟨_, _, scope, hmatch', hscope, rfl, hvalue⟩ := governing?_eq_some_iff.mp hgoverning
  cases hmatch.symm.trans hmatch'
  have hcloud : targetCloud scope service.serviceType (some name) = .ok name :=
    targetCloud_eq_ok_iff.mpr ⟨rfl, Expr.isAtomic_of_mem_endpoints hparse hname⟩
  have hidentity : service.serviceType = identityType →
      ((∃ s, c.adminIdentity scope = .ok s) ↔
        ∃ s ∈ c.services, Query.Matches ⟨identityType, value, some adminInterface⟩ s) := by
    intro htype
    rw [htype] at hvalue
    simp [exists_adminIdentity_iff, hvalue]
  rw [← exists_find?_iff]
  constructor
  · rintro ⟨r', h⟩
    obtain ⟨cloud, target, hcloud', hfind, _, _, hneeds⟩ :=
      (exists_retarget_iff hmatch hscope).mp ⟨r', h, rfl⟩
    cases hcloud.symm.trans hcloud'
    exact ⟨⟨target, hfind⟩, fun htype => (hidentity htype).mp (hneeds htype).1⟩
  · rintro ⟨⟨target, hfind⟩, hneeds⟩
    obtain ⟨r', h, _⟩ := (exists_retarget_iff hmatch hscope).mpr
      ⟨name, target, hcloud, hfind, rfl, hsubject,
        fun htype => ⟨(hidentity htype).mpr (hneeds htype), htoken⟩⟩
    exact ⟨r', h⟩

theorem exists_retarget_endpoint_iff_nested :
    let c : Catalog := ⟨[⟨"compute", "A", "http://a/v2", some "public"⟩,
      ⟨"compute", "C", "http://c/v2", some "admin"⟩,
      ⟨"compute", "C", "http://c", some "public"⟩]⟩
    let r : Request := ⟨"GET", "http://a/v2/servers", ⟨[("X-Auth-Token",
      "t!SCOPE!\x7b\"compute\":\"A & (B | C)\"\x7d")]⟩⟩
    c.governing? r = .ok (some ("compute", "A & (B | C)")) ∧
      "C" ∈ ["A", "B", "C"] ∧ ∃ r', c.retarget r (some "C") = .ok r' := by
  intro c r
  have hgoverning : c.governing? r = .ok (some ("compute", "A & (B | C)")) := by cbv
  have hmatch : c.matchUrl? r.url =
      some (⟨"compute", "A", "http://a/v2", some "public"⟩, "/servers".toList) := by cbv
  have hparse : Expr.parse "A & (B | C)" = .ok (.combine .and (.endpoint "A")
      (.combine .or (.endpoint "B") (.endpoint "C"))) := by cbv
  have hname : "C" ∈ ["A", "B", "C"] := by decide
  have htoken : r.headers.carried? tokenHeader =
      .ok (some "t!SCOPE!\x7b\"compute\":\"A & (B | C)\"\x7d".toList) := by cbv
  have hsubject : r.headers.carried? subjectTokenHeader = .ok none := by cbv
  have htarget : ∃ s ∈ c.services, (Query.mk "compute" "C" (some "public")).Matches s := by decide
  exact ⟨hgoverning, hname, (exists_retarget_endpoint_iff hgoverning hmatch hparse hname
    (Headers.exists_carried?_iff.mp ⟨_, htoken⟩) (Headers.exists_carried?_iff.mp ⟨_, hsubject⟩)).mpr
      ⟨htarget, fun htype => absurd htype (by decide)⟩⟩

/-- A scope whose identity service is in two clouds cannot be resolved for either of them, though
both have an administrative one: the value as a whole names no cloud. -/
theorem retarget_of_compound_identity :
    let c : Catalog := ⟨[⟨"identity", "A", "http://a/id", some "admin"⟩,
      ⟨"identity", "B", "http://b/id", some "admin"⟩]⟩
    let r : Request := ⟨"GET", "http://a/id/v3", ⟨[("X-Scope", "\x7b\"identity\":\"A&B\"\x7d")]⟩⟩
    c.governing? r = .ok (some ("identity", "A&B")) ∧
      Expr.parse "A&B" = .ok (.combine .and (.endpoint "A") (.endpoint "B")) ∧
      r.headers.carried? tokenHeader = .ok none ∧
      r.headers.carried? subjectTokenHeader = .ok none ∧
      ∀ name ∈ ["A", "B"],
        (∃ s ∈ c.services, (Query.mk "identity" name (some "admin")).Matches s) ∧
        c.retarget r (some name) = .error (.invalidScope (.noAdminIdentity "A&B")) := by
  intro c r
  refine ⟨by cbv, by cbv, by cbv, by cbv, fun name hname => ?_⟩
  simp only [List.mem_cons, List.not_mem_nil, or_false] at hname
  rcases hname with rfl | rfl
  · exact ⟨by decide, by cbv⟩
  · exact ⟨by decide, by cbv⟩

end Catalog

end CloudScope
