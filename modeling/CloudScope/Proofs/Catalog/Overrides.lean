import CloudScope.Proofs.Catalog.Route

/-!
# Endpoints in the place of scope values

An endpoint that takes the place of a scope value says where a request goes, and nothing else. What
goes to two endpoints differs only in its address, and what fails for one of them, but not over that
one, fails for the other alike (`Catalog.retarget_siblings`). Without an endpoint, the value that
governs the request says where it goes, if it is a single cloud (`Catalog.retarget_of_governing?`).
-/

namespace CloudScope.Catalog

variable {c : Catalog} {r : Request} {scope : Scope} {service : Service} {rest : List Char}

/-! ## Two endpoints -/

/-- The headers of a request for a service of a type as it goes on, wherever that is. -/
def onwardHeaders (c : Catalog) (h : Headers) (serviceType : String) (scope : Scope) :
    Except ScopeError Headers := do
  let identity ← c.identityFor serviceType scope
  retargetHeaders h scope identity

/-- Why a request cannot go to an endpoint, if the endpoint is the reason: it is no single cloud, or
the cloud does not have the service. -/
inductive Misses (c : Catalog) (r : Request) (endpoint : String) : ScopeError → Prop where
  | compound : isAtomic endpoint = false →
    Misses c r endpoint (.invalidScope (.notAtomic endpoint))
  | absent {service : Service} : c.First (Covers r.url) service →
    (∀ s ∈ c.services, ¬ (Query.siblingOf service endpoint).Matches s) →
    Misses c r endpoint (.serviceNotFound (.query (.siblingOf service endpoint)))

/-- Whether an endpoint is a single cloud that has the service of a request. -/
structure Serves (c : Catalog) (r : Request) (endpoint : String) : Prop where
  atomic : isAtomic endpoint = true
  present : ∀ service, c.First (Covers r.url) service →
    ∃ s ∈ c.services, (Query.siblingOf service endpoint).Matches s

/-- Whether requests are what a request becomes for two endpoints, as far as they differ: they are
both as it was, or they go to what its service is in the two clouds. -/
structure Siblings (c : Catalog) (r : Request) (endpoint₁ endpoint₂ : String)
    (r₁ r₂ : Request) : Prop where
  method : r₁.method = r₂.method
  headers : r₁.headers = r₂.headers
  address : r₁ = r ∧ r₂ = r ∨ ∃ service rest target₁ target₂, c.First (Covers r.url) service ∧
    service.url ++ String.ofList rest = r.url ∧
    c.First (Query.siblingOf service endpoint₁).Matches target₁ ∧
    c.First (Query.siblingOf service endpoint₂).Matches target₂ ∧
    r₁.url = target₁.url ++ String.ofList rest ∧ r₂.url = target₂.url ++ String.ofList rest

/-- A request with a scope fails over its endpoint, or goes on from what its service is there with
headers that have nothing to do with the endpoint. -/
theorem retarget_endpoint_cases (hmatch : c.matchUrl? r.url = some (service, rest))
    (hscope : r.headers.scope? = .ok (some scope)) (endpoint : String) :
    (∃ e, c.retarget r (some endpoint) = .error e ∧ c.Misses r endpoint e ∧
      ¬ c.Serves r endpoint) ∨
    ∃ target, c.First (Query.siblingOf service endpoint).Matches target ∧
      c.retarget r (some endpoint) =
        (c.onwardHeaders r.headers service.serviceType scope).map fun headers =>
          { r with url := target.url ++ String.ofList rest, headers } := by
  have hfirst := (matchUrl?_eq_some_iff.mp hmatch).1
  rw [retarget_of_presents hmatch hscope]
  cases hatomic : isAtomic endpoint with
  | false =>
    rw [targetCloud, hatomic]
    exact .inl ⟨_, rfl, .compound hatomic, fun h => absurd h.atomic (by simp [hatomic])⟩
  | true =>
    have hcloud : targetCloud scope service.serviceType (some endpoint) = .ok endpoint :=
      targetCloud_eq_ok_iff.mpr ⟨rfl, hatomic⟩
    rw [hcloud]
    by_cases hpresent : ∃ s ∈ c.services, (Query.siblingOf service endpoint).Matches s
    · obtain ⟨target, hfind⟩ := exists_find?_iff.mpr hpresent
      refine .inr ⟨target, find?_eq_some_iff.mp hfind, ?_⟩
      change ((c.find (.siblingOf service endpoint)).mapError ScopeError.serviceNotFound >>= _) = _
      rw [mapError_find_eq_ok_iff.mpr hfind, onwardHeaders]
      rcases c.identityFor service.serviceType scope with e | identity
      · rfl
      · change (retargetHeaders r.headers scope identity >>= _) =
          (retargetHeaders r.headers scope identity).map _
        rcases retargetHeaders r.headers scope identity with e | headers <;> rfl
    · have habsent : ∀ s ∈ c.services, ¬ (Query.siblingOf service endpoint).Matches s :=
        fun s hs hmatches => hpresent ⟨s, hs, hmatches⟩
      refine .inl ⟨_, ?_, .absent hfirst habsent, fun h => hpresent (h.present service hfirst)⟩
      change ((c.find (.siblingOf service endpoint)).mapError _ >>= _) = _
      rw [find_of_not_matches habsent]
      rfl

section

variable {endpoint₁ endpoint₂ : String} {r₁ r₂ : Request} {e : ScopeError}

theorem siblings_of_retarget (h₁ : c.retarget r (some endpoint₁) = .ok r₁)
    (h₂ : c.retarget r (some endpoint₂) = .ok r₂) : c.Siblings r endpoint₁ endpoint₂ r₁ r₂ := by
  obtain ⟨e, hscope⟩ | halone | ⟨service, rest, scope, hmatch, hscope⟩ := c.presents_cases r
  · cases (retarget_of_scope?_eq_error hscope c (some endpoint₁)).symm.trans h₁
  · cases (retarget_of_leavesAlone halone (some endpoint₁)).symm.trans h₁
    cases (retarget_of_leavesAlone halone (some endpoint₂)).symm.trans h₂
    exact ⟨rfl, rfl, .inl ⟨rfl, rfl⟩⟩
  have hcases := retarget_endpoint_cases hmatch hscope
  obtain ⟨e₁, hfail₁, _⟩ | ⟨target₁, htarget₁, heq₁⟩ := hcases endpoint₁
  · cases hfail₁.symm.trans h₁
  obtain ⟨e₂, hfail₂, _⟩ | ⟨target₂, htarget₂, heq₂⟩ := hcases endpoint₂
  · cases hfail₂.symm.trans h₂
  obtain ⟨headers, hheaders, rfl⟩ := exists_of_map_eq_ok (heq₁.symm.trans h₁)
  obtain ⟨_, hheaders', rfl⟩ := exists_of_map_eq_ok (heq₂.symm.trans h₂)
  cases hheaders.symm.trans hheaders'
  obtain ⟨hfirst, hrest⟩ := matchUrl?_eq_some_iff.mp hmatch
  exact ⟨rfl, rfl, .inr ⟨service, rest, target₁, target₂, hfirst, hrest, htarget₁, htarget₂, rfl,
    rfl⟩⟩

theorem retarget_eq_error_of_serves (h : c.retarget r (some endpoint₁) = .error e)
    (hother : ¬ c.Misses r endpoint₁ e) (hserves : c.Serves r endpoint₂) :
    c.retarget r (some endpoint₂) = .error e := by
  obtain ⟨e', hscope⟩ | halone | ⟨service, rest, scope, hmatch, hscope⟩ := c.presents_cases r
  · rw [retarget_of_scope?_eq_error hscope, ← h, retarget_of_scope?_eq_error hscope]
  · cases (retarget_of_leavesAlone halone (some endpoint₁)).symm.trans h
  have hcases := retarget_endpoint_cases hmatch hscope
  obtain ⟨_, hfail, hmisses, _⟩ | ⟨target₁, _, heq₁⟩ := hcases endpoint₁
  · cases hfail.symm.trans h
    exact absurd hmisses hother
  obtain ⟨_, _, _, hnot⟩ | ⟨target₂, _, heq₂⟩ := hcases endpoint₂
  · exact absurd hserves hnot
  rw [heq₁] at h
  rw [heq₂]
  rcases hheaders : c.onwardHeaders r.headers service.serviceType scope with e' | headers <;>
    rw [hheaders] at h <;> cases h
  rfl

end

/-- What a request becomes for two endpoints differs only in its address. If it cannot go to the
first one, and not because of that one, it cannot go to the second one for the same reason. -/
theorem retarget_siblings (c : Catalog) (r : Request) (endpoint₁ endpoint₂ : String) :
    (∀ r₁ r₂, c.retarget r (some endpoint₁) = .ok r₁ → c.retarget r (some endpoint₂) = .ok r₂ →
      c.Siblings r endpoint₁ endpoint₂ r₁ r₂) ∧
    ∀ e, c.retarget r (some endpoint₁) = .error e → ¬ c.Misses r endpoint₁ e →
      c.Serves r endpoint₂ → c.retarget r (some endpoint₂) = .error e :=
  ⟨fun _ _ => siblings_of_retarget, fun _ => retarget_eq_error_of_serves⟩

/-- Two clouds of which only one has the compute service, and an identity service whose cloud cannot
be told, whatever the endpoint. -/
theorem retarget_siblings_compound :
    let c : Catalog := ⟨[⟨"compute", "A", "http://a/v2", some "public"⟩,
      ⟨"compute", "B", "http://b", some "public"⟩, ⟨"identity", "A", "http://a/id", some "admin"⟩,
      ⟨"identity", "B", "http://b/id", some "admin"⟩]⟩
    let r : Request := ⟨"GET", "http://a/v2/servers",
      ⟨[("X-Scope", "\x7b\"compute\":\"A|B\"\x7d")]⟩⟩
    let r₂ : Request := { r with url := "http://b/servers" }
    let login : Request := ⟨"POST", "http://a/id/v3",
      ⟨[("X-Scope", "\x7b\"identity\":\"A&B\"\x7d")]⟩⟩
    let e : ScopeError := .invalidScope (.noAdminIdentity "A&B")
    (c.retarget r (some "A") = .ok r ∧ c.retarget r (some "B") = .ok r₂ ∧
      c.Siblings r "A" "B" r r₂) ∧
    c.retarget login (some "A") = .error e ∧ ¬ c.Misses login "A" e ∧ c.Serves login "B" ∧
      c.retarget login (some "B") = .error e := by
  intro c r r₂ login e
  have h₁ : c.retarget r (some "A") = .ok r := by cbv
  have h₂ : c.retarget r (some "B") = .ok r₂ := by cbv
  have h : c.retarget login (some "A") = .error e := by cbv
  have hother : ¬ c.Misses login "A" (.invalidScope (.noAdminIdentity "A&B")) := by rintro ⟨⟩
  have hpresent : ∀ service ∈ c.services, Covers login.url service →
      ∃ s ∈ c.services, (Query.siblingOf service "B").Matches s := by decide
  have hserves : c.Serves login "B" :=
    ⟨by decide, fun service hfirst => hpresent service hfirst.mem.1 hfirst.mem.2⟩
  exact ⟨⟨h₁, h₂, (retarget_siblings c r "A" "B").1 r r₂ h₁ h₂⟩, h, hother, hserves,
    (retarget_siblings c login "A" "B").2 e h hother hserves⟩

/-! ## Scope values -/

/-- A request for a cataloged service is retargeted by what governs it. If that cannot be found,
retargeting fails alike; if nothing governs the request, it stays as it is, whatever the endpoint;
and a value that governs it stands for an endpoint if it is a single cloud, and sends it nowhere if
it is not. -/
theorem retarget_of_governing? (hurl : ∃ s ∈ c.services, Covers r.url s) :
    (∀ e, c.governing? r = .error e → c.retarget r none = .error e) ∧
    (c.governing? r = .ok none → ∀ endpoint, c.retarget r endpoint = .ok r) ∧
    ∀ serviceType value, c.governing? r = .ok (some (serviceType, value)) →
      (isAtomic value = true → c.retarget r none = c.retarget r (some value)) ∧
      (isAtomic value = false →
        c.retarget r none = .error (.invalidScope (.compound value serviceType))) := by
  rcases hmatch : c.matchUrl? r.url with _ | ⟨service, rest⟩
  · obtain ⟨s, hs, hcovers⟩ := hurl
    exact absurd hcovers (matchUrl?_eq_none_iff.mp hmatch s hs)
  refine ⟨fun e hgoverning => ?_, fun hgoverning endpoint => ?_, fun serviceType value hgoverning =>
    ⟨retarget_none_eq hgoverning, fun hcompound => ?_⟩⟩
  · rcases (governing?_eq_error_iff hmatch).mp hgoverning with
      hscope | ⟨scope, hscope, hvalue, rfl⟩
    · exact retarget_of_scope?_eq_error hscope c none
    · rw [retarget_of_presents hmatch hscope, targetCloud, hvalue]
      rfl
  · have hscope := (governing?_eq_none_iff hmatch).mp hgoverning
    exact retarget_of_leavesAlone ⟨none, hscope, .inr rfl⟩ endpoint
  · obtain ⟨service, rest, scope, hmatch, hscope, rfl, hvalue⟩ :=
      governing?_eq_some_iff.mp hgoverning
    have hcloud : targetCloud scope service.serviceType none =
        .error (.invalidScope (.compound value service.serviceType)) := by
      rw [targetCloud, hvalue]
      exact if_neg (Bool.eq_false_iff.mp hcompound)
    rw [retarget_of_presents hmatch hscope, hcloud]
    rfl

/-- A token with a scope for another service behind it, with none, with one that is not resolved,
and with one that is. -/
theorem retarget_of_governing?_scopes :
    let c : Catalog := ⟨[⟨"compute", "A", "http://a", none⟩, ⟨"compute", "B", "http://b", none⟩]⟩
    let carrying (token : String) : Request :=
      ⟨"GET", "http://b/servers", ⟨[("X-Auth-Token", token)]⟩⟩
    let other := carrying "t!SCOPE!\x7b\"image\":\"A\"\x7d"
    let bare := carrying "t"
    let unresolved := carrying "t!SCOPE!\x7b\"compute\":\"A|B\"\x7d"
    let single := carrying "t!SCOPE!\x7b\"compute\":\"A\"\x7d"
    let image : Scope := ⟨[("image", "A")], List.pairwise_singleton _ _⟩
    let missing : ScopeError := .invalidScope (.noEntry image "compute")
    (∀ token, ∃ s ∈ c.services, Covers (carrying token).url s) ∧
      (c.governing? other = .error missing ∧ c.retarget other none = .error missing) ∧
      (c.governing? bare = .ok none ∧ c.retarget bare (some "A") = .ok bare) ∧
      (c.governing? unresolved = .ok (some ("compute", "A|B")) ∧ isAtomic "A|B" = false ∧
        c.retarget unresolved none = .error (.invalidScope (.compound "A|B" "compute"))) ∧
      c.governing? single = .ok (some ("compute", "A")) ∧ isAtomic "A" = true ∧
        c.retarget single none = c.retarget single (some "A") := by
  intro c carrying other bare unresolved single image missing
  have hurl (token : String) : ∃ s ∈ c.services, Covers (carrying token).url s := by
    change ∃ s ∈ c.services, Covers "http://b/servers" s
    decide
  have hmatch : c.matchUrl? other.url =
      some (⟨"compute", "B", "http://b", none⟩, "/servers".toList) := by cbv
  have hscope : other.headers.scope? = .ok (some image) := by cbv
  have hother : c.governing? other = .error missing :=
    (governing?_eq_error_iff hmatch).mpr (.inr ⟨image, hscope, rfl, rfl⟩)
  have hbare : c.governing? bare = .ok none := by cbv
  have hopen : c.governing? unresolved = .ok (some ("compute", "A|B")) := by cbv
  have hcompound : isAtomic "A|B" = false := by decide
  have hsingle : c.governing? single = .ok (some ("compute", "A")) := by cbv
  have hatomic : isAtomic "A" = true := by decide
  exact ⟨hurl,
    ⟨hother, (retarget_of_governing? (hurl _)).1 missing hother⟩,
    ⟨hbare, (retarget_of_governing? (hurl _)).2.1 hbare (some "A")⟩,
    ⟨hopen, hcompound,
      ((retarget_of_governing? (hurl _)).2.2 "compute" "A|B" hopen).2 hcompound⟩,
    hsingle, hatomic, ((retarget_of_governing? (hurl _)).2.2 "compute" "A" hsingle).1 hatomic⟩

end CloudScope.Catalog
