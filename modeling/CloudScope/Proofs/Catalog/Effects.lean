import CloudScope.Proofs.Catalog.Route
import CloudScope.Proofs.Http.Changes

/-!
# What retargeting changes

A request that goes to its cloud keeps all that does not have to do with that: its method, what
stands behind the address of the service, and all headers but the few that retargeting is about
(`Catalog.exists_retargets`).
-/

namespace CloudScope.Catalog

variable {c : Catalog} {r r' : Request} {endpoint : Option String} {scope : Scope}
  {service : Service} {rest : List Char} {h h' : Headers} {identity : Option Service}

/-- The names under which headers may change when a request for a service of a type is
retargeted. -/
def changedNames (serviceType : String) : List String :=
  if serviceType = identityType then
    [scopeHeader, subjectTokenHeader, tokenHeader, identityCloudHeader, identityUrlHeader]
  else [scopeHeader, subjectTokenHeader]

/-! ## Headers -/

theorem changesUnder_retargetHeaders {serviceType : String}
    (hheaders : retargetHeaders h scope identity = .ok h')
    (hidentity : identity.isSome → serviceType = identityType) :
    h.ChangesUnder (changedNames serviceType) h' := by
  obtain ⟨⟨bare, stripped⟩, hsubject, hheaders⟩ := bind_eq_ok_iff.mp hheaders
  have hbare := Headers.changesUnder_stripToken hsubject
  rcases identity with _ | identity
  · cases hheaders
    have hscope := bare.changesUnder_insert scopeHeader scope.text
    refine (hbare.mono ?_).trans (hscope.mono ?_) <;> rw [changedNames] <;> split <;> simp
  · obtain ⟨⟨bare', stripped'⟩, htoken, hheaders⟩ := bind_eq_ok_iff.mp hheaders
    cases hheaders
    have hbare' := Headers.changesUnder_stripToken htoken
    have hscope := bare'.changesUnder_insert scopeHeader scope.text
    have hcloud := (bare'.setScope scope).changesUnder_insert identityCloudHeader identity.cloud
    have hurl := ((bare'.setScope scope).insert identityCloudHeader
      identity.cloud).changesUnder_insert identityUrlHeader identity.url
    rw [changedNames, if_pos (hidentity rfl)]
    refine (hbare.mono ?_).trans <| (hbare'.mono ?_).trans <| (hscope.mono ?_).trans <|
      (hcloud.mono ?_).trans (hurl.mono ?_) <;> simp

/-- A request that names no identity service keeps its token with what stands behind it. -/
theorem get?_token_of_retargetHeaders (hheaders : retargetHeaders h scope none = .ok h') :
    h'.get? tokenHeader = h.get? tokenHeader := by
  have hsubject : ¬ SameName subjectTokenHeader tokenHeader := by decide
  have hscope : ¬ SameName scopeHeader tokenHeader := by decide
  obtain ⟨⟨bare, stripped⟩, hstrip, hheaders⟩ := bind_eq_ok_iff.mp hheaders
  cases hheaders
  rw [Headers.setScope, Headers.get?_insert_of_not_sameName hscope,
    Headers.get?_of_stripToken hstrip hsubject]

theorem get?_identity_of_retargetHeaders {identity : Service}
    (hheaders : retargetHeaders h scope (some identity) = .ok h') :
    h'.get? identityCloudHeader = some identity.cloud ∧
      h'.get? identityUrlHeader = some identity.url := by
  have hne : ¬ SameName identityUrlHeader identityCloudHeader := by decide
  obtain ⟨_, _, hheaders⟩ := bind_eq_ok_iff.mp hheaders
  obtain ⟨_, _, hheaders⟩ := bind_eq_ok_iff.mp hheaders
  cases hheaders
  rw [Headers.get?_insert_of_not_sameName hne]
  exact ⟨Headers.get?_insert_self .., Headers.get?_insert_self ..⟩

/-! ## Requests -/

/-- What becomes of a request with a scope for a service, where `rest` stands behind the address of
the service. -/
structure Retargets (c : Catalog) (r : Request) (endpoint : Option String) (scope : Scope)
    (service : Service) (rest : List Char) (r' : Request) : Prop where
  /-- The address is that of the first service of the same type and interface in the single cloud
  that the endpoint names or, without an endpoint, the scope. -/
  address : ∃ cloud target, endpoint.or (scope.get? service.serviceType) = some cloud ∧
    isAtomic cloud = true ∧ c.First (Query.siblingOf service cloud).Matches target ∧
    r'.url = target.url ++ String.ofList rest
  method : r'.method = r.method
  carries : r'.headers.get? scopeHeader = some scope.text
  token : service.serviceType ≠ identityType →
    r'.headers.get? tokenHeader = r.headers.get? tokenHeader
  /-- A request for the identity service names the first administrative one in the cloud that the
  scope has for it. -/
  identity : service.serviceType = identityType → ∃ cloud admin,
    scope.get? identityType = some cloud ∧
    c.First (Query.Matches ⟨identityType, cloud, some adminInterface⟩) admin ∧
    r'.headers.get? identityCloudHeader = some admin.cloud ∧
    r'.headers.get? identityUrlHeader = some admin.url
  headers : r.headers.ChangesUnder (changedNames service.serviceType) r'.headers

theorem Route.retargets (w : c.Route r endpoint) :
    c.Retargets r endpoint w.scope w.service w.rest w.request := by
  obtain ⟨hcloud, hatomic⟩ := targetCloud_eq_ok_iff.mp w.named
  have hwritten := w.written
  rcases identityFor_eq_ok_iff.mp w.identified with ⟨htype, hnone⟩ | ⟨htype, admin, hadmin, hsome⟩
  · rw [hnone] at hwritten
    exact {
      address := ⟨w.cloud, w.target, hcloud, hatomic, find?_eq_some_iff.mp w.found, rfl⟩
      method := rfl
      carries := get?_of_retargetHeaders hwritten
      token := fun _ => get?_token_of_retargetHeaders hwritten
      identity := fun h => absurd h htype
      headers := changesUnder_retargetHeaders hwritten (fun h => nomatch h) }
  · rw [hsome] at hwritten
    obtain ⟨cloud, hidentity, hfind⟩ := adminIdentity_eq_ok_iff.mp hadmin
    exact {
      address := ⟨w.cloud, w.target, hcloud, hatomic, find?_eq_some_iff.mp w.found, rfl⟩
      method := rfl
      carries := get?_of_retargetHeaders hwritten
      token := fun h => absurd htype h
      identity := fun _ => ⟨cloud, admin, hidentity, find?_eq_some_iff.mp hfind,
        get?_identity_of_retargetHeaders hwritten⟩
      headers := changesUnder_retargetHeaders hwritten (fun _ => htype) }

/-- A request with a scope for a cataloged service that is retargeted goes to the service of its
cloud, and changes in nothing that is not about that. -/
theorem exists_retargets (hurl : ∃ s ∈ c.services, Covers r.url s)
    (hscope : r.headers.scope? = .ok (some scope)) (h : c.retarget r endpoint = .ok r') :
    ∃ service rest, c.First (Covers r.url) service ∧ service.url ++ String.ofList rest = r.url ∧
      c.Retargets r endpoint scope service rest r' := by
  rcases retarget_eq_ok_iff.mp h with ⟨⟨scope?, hscope', halone⟩, _⟩ | ⟨w, rfl⟩
  · obtain ⟨s, hs, hcovers⟩ := hurl
    cases hscope.symm.trans hscope'
    have hnone := halone.resolve_right (Option.some_ne_none scope)
    exact absurd hcovers (matchUrl?_eq_none_iff.mp hnone s hs)
  · cases hscope.symm.trans w.presented
    obtain ⟨hfirst, hrest⟩ := matchUrl?_eq_some_iff.mp w.matched
    exact ⟨w.service, w.rest, hfirst, hrest, w.retargets⟩

/-- A request for the identity service, with scopes behind both of its tokens. -/
theorem exists_retargets_identity :
    let c : Catalog := ⟨[⟨"identity", "A", "http://a/id", some "public"⟩,
      ⟨"identity", "B", "http://b/admin", some "admin"⟩,
      ⟨"identity", "B", "http://b/id", some "public"⟩]⟩
    let scope : Scope := ⟨[("identity", "B")], List.pairwise_singleton _ _⟩
    let r : Request := ⟨"GET", "http://a/id/v3", ⟨[
      ("x-auth-token", "t!SCOPE!%7B%22identity%22:%22B%22%7D"), ("Accept", " * "),
      ("X-Subject-Token", "u!SCOPE!")]⟩⟩
    let r' : Request := ⟨"GET", "http://b/id/v3", ⟨[("x-auth-token", "t"), ("Accept", " * "),
      ("X-Subject-Token", "u"), ("X-Scope", "\x7b\"identity\":\"B\"\x7d"),
      ("X-Identity-Cloud", "B"), ("X-Identity-Url", "http://b/admin")]⟩⟩
    (∃ s ∈ c.services, Covers r.url s) ∧ r.headers.scope? = .ok (some scope) ∧
      c.retarget r none = .ok r' ∧
      ∃ service rest, c.First (Covers r.url) service ∧ service.url ++ String.ofList rest = r.url ∧
        c.Retargets r none scope service rest r' := by
  intro c scope r r'
  have hurl : ∃ s ∈ c.services, Covers r.url s := by decide
  let bare := r.headers.insert subjectTokenHeader (String.ofList ['u'])
  have hsubject : r.headers.stripToken subjectTokenHeader = .ok (bare, true) :=
    Headers.stripToken_eq_ok_iff.mpr (.inr ⟨"u!SCOPE!".toList, _, [], by cbv, rfl, rfl⟩)
  have hdecode : Percent.decode
      (Text.trim "t!SCOPE!%7B%22identity%22:%22B%22%7D".toList) =
        .ok "t!SCOPE!\x7b\"identity\":\"B\"\x7d".toList := by cbv
  have htoken : bare.stripToken tokenHeader =
      .ok (bare.insert tokenHeader (String.ofList ['t']), true) :=
    Headers.stripToken_eq_ok_iff.mpr (.inr ⟨_, _, _,
      Headers.carried?_eq_ok_some_iff.mpr ⟨_, rfl, hdecode⟩, rfl, rfl⟩)
  have hheaders : (((bare.insert tokenHeader (String.ofList ['t'])).setScope scope).insert
      identityCloudHeader "B").insert identityUrlHeader "http://b/admin" = r'.headers := by
    have htext : scope.text = "\x7b\"identity\":\"B\"\x7d" := by cbv
    rw [Headers.setScope, htext]
    decide
  let w : c.Route r none :=
    { service := ⟨"identity", "A", "http://a/id", some "public"⟩
      rest := "/v3".toList
      scope := scope
      cloud := "B"
      target := ⟨"identity", "B", "http://b/id", some "public"⟩
      identity := some ⟨"identity", "B", "http://b/admin", some "admin"⟩
      headers := r'.headers
      matched := by cbv
      presented := by cbv
      named := by cbv
      found := by cbv
      identified := by cbv
      written := bind_eq_ok_iff.mpr ⟨_, hsubject, bind_eq_ok_iff.mpr
        ⟨_, htoken, congrArg Except.ok hheaders⟩⟩ }
  have h : c.retarget r none = .ok r' := retarget_eq_ok_iff.mpr (.inr ⟨w, rfl⟩)
  exact ⟨hurl, w.presented, h, exists_retargets hurl w.presented h⟩

end CloudScope.Catalog
