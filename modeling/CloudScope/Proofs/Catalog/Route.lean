import CloudScope.Catalog.Retarget
import CloudScope.Proofs.Http.Channels

/-!
# Routes of requests

A request that is not left alone takes a route: the service that its address names, the cloud that
it is sent to, and the service that stands for the first one there.
-/

namespace CloudScope.Catalog

variable {c : Catalog} {r r' : Request} {endpoint : Option String} {scope : Scope}
  {service : Service} {rest : List Char} {serviceType value : String} {q : Query}

/-! ## Services of a catalog -/

/-- Whether a service is the first one of a catalog with a property. -/
def First (c : Catalog) (p : Service → Prop) (s : Service) : Prop :=
  ∃ before after, c.services = before ++ s :: after ∧ p s ∧ ∀ d ∈ before, ¬ p d

theorem First.mem {p : Service → Prop} (h : c.First p service) :
    service ∈ c.services ∧ p service := by
  obtain ⟨before, after, hservices, hp, -⟩ := h
  exact ⟨by simp [hservices], hp⟩

/-- Whether the address of a service is at the front of an address. -/
def Covers (url : String) (s : Service) : Prop :=
  s.url.toList <+: url.toList

instance (url : String) (s : Service) : Decidable (Covers url s) :=
  inferInstanceAs (Decidable (_ <+: _))

theorem isPrefixOf?_map_eq_none_iff {url : String} {s : Service} :
    ((s.url.toList.isPrefixOf? url.toList).map fun rest => (s, rest)) = none ↔ ¬ Covers url s := by
  rw [Option.map_eq_none_iff, ← Option.not_isSome_iff_eq_none,
    List.isSome_isPrefixOf?_eq_isPrefixOf, List.isPrefixOf_iff_prefix, Covers]

theorem matchUrl?_eq_none_iff {url : String} :
    c.matchUrl? url = none ↔ ∀ s ∈ c.services, ¬ s.url.toList <+: url.toList := by
  rw [matchUrl?, List.findSome?_eq_none_iff]
  exact forall₂_congr fun _ _ => isPrefixOf?_map_eq_none_iff

theorem matchUrl?_eq_some_iff {url : String} : c.matchUrl? url = some (service, rest) ↔
    c.First (Covers url) service ∧ service.url ++ String.ofList rest = url := by
  rw [matchUrl?, List.findSome?_eq_some_iff]
  simp only [isPrefixOf?_map_eq_none_iff, Option.map_eq_some_iff,
    List.isPrefixOf?_eq_some_iff_append_eq, ← String.toList_inj, String.toList_append,
    String.toList_ofList]
  constructor
  · rintro ⟨before, s, after, hservices, ⟨_, hurl, heq⟩, hbefore⟩
    cases heq
    exact ⟨⟨before, after, hservices, ⟨rest, hurl⟩, hbefore⟩, hurl⟩
  · rintro ⟨⟨before, after, hservices, _, hbefore⟩, hurl⟩
    exact ⟨before, service, after, hservices, ⟨rest, hurl, rfl⟩, hbefore⟩

theorem append_eq_of_matchUrl? {url : String} (h : c.matchUrl? url = some (service, rest)) :
    service.url ++ String.ofList rest = url :=
  (matchUrl?_eq_some_iff.mp h).2

theorem find?_eq_some_iff : c.find? q = some service ↔ c.First q.Matches service := by
  rw [find?, List.find?_eq_some_iff_append, First]
  simp only [decide_eq_true_eq, Bool.not_eq_eq_eq_not, Bool.not_true, decide_eq_false_iff_not]
  constructor
  · rintro ⟨hmatches, before, after, hservices, hbefore⟩
    exact ⟨before, after, hservices, hmatches, hbefore⟩
  · rintro ⟨before, after, hservices, hmatches, hbefore⟩
    exact ⟨hmatches, before, after, hservices, hbefore⟩

theorem exists_find?_iff : (∃ s, c.find? q = some s) ↔ ∃ s ∈ c.services, q.Matches s := by
  rw [← Option.isSome_iff_exists, find?, List.find?_isSome]
  simp

theorem find_eq_ok_iff : c.find q = .ok service ↔ c.find? q = some service := by
  rw [find]
  rcases c.find? q with _ | s <;> simp

theorem mapError_find_eq_ok_iff {f : Sought → ScopeError} :
    (c.find q).mapError f = .ok service ↔ c.find? q = some service := by
  rw [← find_eq_ok_iff]
  rcases c.find q with sought | s <;> simp [Except.mapError]

theorem find_of_not_matches (h : ∀ s ∈ c.services, ¬ q.Matches s) : c.find q = .error (.query q) := by
  have hnone : c.find? q = none := by simpa [find?] using h
  rw [find, hnone]

/-! ## Parts of a route -/

theorem targetCloud_eq_ok_iff {cloud : String} :
    targetCloud scope serviceType endpoint = .ok cloud ↔
      endpoint.or (scope.get? serviceType) = some cloud ∧ isAtomic cloud = true := by
  rcases endpoint with _ | e
  · rw [targetCloud]
    rcases scope.get? serviceType with _ | value
    · simp
    · by_cases hvalue : isAtomic value = true <;> grind
  · rw [targetCloud]
    by_cases he : isAtomic e = true <;> grind

theorem adminIdentity_eq_ok_iff : c.adminIdentity scope = .ok service ↔
    ∃ cloud, scope.get? identityType = some cloud ∧
      c.find? ⟨identityType, cloud, some adminInterface⟩ = some service := by
  rw [adminIdentity]
  rcases scope.get? identityType with _ | cloud
  · simp
  · rcases hfind : c.find? ⟨identityType, cloud, some adminInterface⟩ with _ | s <;> simp [hfind]

theorem exists_adminIdentity_iff : (∃ s, c.adminIdentity scope = .ok s) ↔
    ∃ cloud, scope.get? identityType = some cloud ∧
      ∃ s ∈ c.services, Query.Matches ⟨identityType, cloud, some adminInterface⟩ s := by
  simp only [adminIdentity_eq_ok_iff, ← exists_find?_iff]
  rw [exists_comm]
  simp only [exists_and_left]

theorem governing?_eq_some_iff : c.governing? r = .ok (some (serviceType, value)) ↔
    ∃ service rest scope, c.matchUrl? r.url = some (service, rest) ∧
      r.headers.scope? = .ok (some scope) ∧ service.serviceType = serviceType ∧
      scope.get? serviceType = some value := by
  rw [governing?]
  rcases c.matchUrl? r.url with _ | ⟨service, rest⟩
  · simp [pure, Except.pure]
  · dsimp only
    rw [bind_eq_ok_iff]
    constructor
    · rintro ⟨scope?, hscope, h⟩
      rcases scope? with _ | scope
      · cases h
      · dsimp only at h
        split at h
        · next value' hvalue =>
          cases h
          exact ⟨service, rest, scope, rfl, hscope, rfl, hvalue⟩
        · cases h
    · rintro ⟨_, _, scope, hservice, hscope, rfl, hvalue⟩
      cases hservice
      refine ⟨some scope, hscope, ?_⟩
      dsimp only
      rw [hvalue]
      rfl

section

variable (hmatch : c.matchUrl? r.url = some (service, rest))

include hmatch

theorem governing?_eq_none_iff : c.governing? r = .ok none ↔ r.headers.scope? = .ok none := by
  rw [governing?, hmatch]
  dsimp only
  rw [bind_eq_ok_iff]
  constructor
  · rintro ⟨_ | scope, hscope, h⟩
    · exact hscope
    · dsimp only at h
      split at h <;> cases h
  · intro hscope
    exact ⟨none, hscope, rfl⟩

/-- What governs a request for a cataloged service cannot be found if its scope cannot be read, or
has no value for the service. -/
theorem governing?_eq_error_iff {e : ScopeError} : c.governing? r = .error e ↔
    r.headers.scope? = .error e ∨ ∃ scope, r.headers.scope? = .ok (some scope) ∧
      scope.get? service.serviceType = none ∧
      e = .invalidScope (.noEntry scope service.serviceType) := by
  rw [governing?, hmatch]
  dsimp only
  rw [bind_eq_error_iff]
  refine or_congr_right ?_
  constructor
  · rintro ⟨_ | scope, hscope, h⟩
    · cases h
    · dsimp only at h
      split at h
      · cases h
      · next hvalue =>
        cases h
        exact ⟨scope, hscope, hvalue, rfl⟩
  · rintro ⟨scope, hscope, hvalue, rfl⟩
    refine ⟨some scope, hscope, ?_⟩
    dsimp only
    rw [hvalue]
    rfl

end

/-- Headers become those of the next request if the tokens that are to lose the scopes behind them
can be read. -/
theorem exists_retargetHeaders_iff {h : Headers} {identity : Option Service} :
    (∃ h', retargetHeaders h scope identity = .ok h') ↔
      h.Decodes subjectTokenHeader ∧ (identity.isSome → h.Decodes tokenHeader) := by
  have hne : ¬ SameName subjectTokenHeader tokenHeader := by decide
  rw [← Headers.exists_stripToken_iff]
  constructor
  · rintro ⟨h', hheaders⟩
    obtain ⟨⟨bare, stripped⟩, hsubject, hheaders⟩ := bind_eq_ok_iff.mp hheaders
    refine ⟨⟨_, hsubject⟩, fun hidentity => ?_⟩
    obtain ⟨identity, rfl⟩ := Option.isSome_iff_exists.mp hidentity
    obtain ⟨p, htoken, _⟩ := bind_eq_ok_iff.mp hheaders
    exact (Headers.Decodes.congr (Headers.get?_of_stripToken hsubject hne)).mp
      (Headers.exists_stripToken_iff.mp ⟨p, htoken⟩)
  · rintro ⟨⟨⟨bare, stripped⟩, hsubject⟩, htoken⟩
    rcases identity with _ | identity
    · exact ⟨_, bind_eq_ok_iff.mpr ⟨_, hsubject, rfl⟩⟩
    · obtain ⟨p, htoken⟩ := Headers.exists_stripToken_iff.mpr <|
        (Headers.Decodes.congr (Headers.get?_of_stripToken hsubject hne)).mpr (htoken rfl)
      exact ⟨_, bind_eq_ok_iff.mpr ⟨_, hsubject, bind_eq_ok_iff.mpr ⟨p, htoken, rfl⟩⟩⟩

/-- The next request carries the scope as it is under `X-Scope`. -/
theorem get?_of_retargetHeaders {h h' : Headers} {identity : Option Service}
    (hheaders : retargetHeaders h scope identity = .ok h') :
    h'.get? scopeHeader = some scope.text := by
  have hcloud : ¬ SameName identityCloudHeader scopeHeader := by decide
  have hurl : ¬ SameName identityUrlHeader scopeHeader := by decide
  obtain ⟨⟨bare, stripped⟩, _, hheaders⟩ := bind_eq_ok_iff.mp hheaders
  rcases identity with _ | identity
  · cases hheaders
    exact Headers.get?_insert_self ..
  · obtain ⟨p, _, hheaders⟩ := bind_eq_ok_iff.mp hheaders
    cases hheaders
    rw [Headers.get?_insert_of_not_sameName hurl, Headers.get?_insert_of_not_sameName hcloud]
    exact Headers.get?_insert_self ..

/-! ## Routes -/

/-- The identity service that a request for a service names. -/
def identityFor (c : Catalog) (serviceType : String) (scope : Scope) :
    Except ScopeError (Option Service) :=
  if serviceType = identityType then some <$> c.adminIdentity scope else pure none

theorem identityFor_eq_ok_iff {identity : Option Service} :
    c.identityFor serviceType scope = .ok identity ↔
      (serviceType ≠ identityType ∧ identity = none) ∨
        serviceType = identityType ∧ ∃ s, c.adminIdentity scope = .ok s ∧ identity = some s := by
  rw [identityFor]
  split
  · next h =>
    rcases c.adminIdentity scope with e | s
    · simp [h]
    · simp [h, eq_comm]
  · next h => simp [h, pure, Except.pure, eq_comm]

/-- How a request gets to its cloud. -/
structure Route (c : Catalog) (r : Request) (endpoint : Option String) where
  /-- The service that the address names. -/
  service : Service
  /-- What follows the address of the service in that of the request. -/
  rest : List Char
  scope : Scope
  cloud : String
  /-- What `service` is in the cloud. -/
  target : Service
  identity : Option Service
  headers : Headers
  matched : c.matchUrl? r.url = some (service, rest)
  presented : r.headers.scope? = .ok (some scope)
  named : targetCloud scope service.serviceType endpoint = .ok cloud
  found : c.find? (.siblingOf service cloud) = some target
  identified : c.identityFor service.serviceType scope = .ok identity
  written : retargetHeaders r.headers scope identity = .ok headers

/-- The request at the end of its route. -/
def Route.request (w : c.Route r endpoint) : Request :=
  { r with url := w.target.url ++ String.ofList w.rest, headers := w.headers }

/-- Whether the headers of a request can be read, and it is for no service of the catalog or
presents no scope. -/
def LeavesAlone (c : Catalog) (r : Request) : Prop :=
  ∃ scope?, r.headers.scope? = .ok scope? ∧ (c.matchUrl? r.url = none ∨ scope? = none)

theorem retarget_of_leavesAlone (h : c.LeavesAlone r) (endpoint : Option String) :
    c.retarget r endpoint = .ok r := by
  obtain ⟨scope?, hscope, h⟩ := h
  refine bind_eq_ok_iff.mpr ⟨scope?, hscope, ?_⟩
  rcases h with h | rfl
  · rw [h]
    rfl
  · rcases c.matchUrl? r.url with _ | ⟨service, rest⟩ <;> rfl

theorem retarget_of_scope?_eq_error {e : ScopeError} (h : r.headers.scope? = .error e)
    (c : Catalog) (endpoint : Option String) : c.retarget r endpoint = .error e :=
  bind_eq_error_iff.mpr (.inl h)

/-- A request cannot be read, is left alone, or presents a scope for a service. -/
theorem presents_cases (c : Catalog) (r : Request) :
    (∃ e, r.headers.scope? = .error e) ∨ c.LeavesAlone r ∨ ∃ service rest scope,
      c.matchUrl? r.url = some (service, rest) ∧ r.headers.scope? = .ok (some scope) := by
  rcases hscope : r.headers.scope? with e | scope?
  · exact .inl ⟨e, rfl⟩
  rcases hmatch : c.matchUrl? r.url with _ | ⟨service, rest⟩
  · exact .inr (.inl ⟨scope?, hscope, .inl hmatch⟩)
  rcases scope? with _ | scope
  · exact .inr (.inl ⟨none, hscope, .inr rfl⟩)
  · exact .inr (.inr ⟨service, rest, scope, rfl, rfl⟩)

/-- The steps of retargeting a request that is not left alone. -/
theorem retarget_of_presents (hmatch : c.matchUrl? r.url = some (service, rest))
    (hscope : r.headers.scope? = .ok (some scope)) : c.retarget r endpoint = do
      let cloud ← targetCloud scope service.serviceType endpoint
      let target ← (c.find (.siblingOf service cloud)).mapError .serviceNotFound
      let identity ← c.identityFor service.serviceType scope
      let headers ← retargetHeaders r.headers scope identity
      return { r with url := target.url ++ String.ofList rest, headers } := by
  have hok (next : Option Scope → Except ScopeError Request) :
      (.ok (some scope) >>= next) = next (some scope) := rfl
  rw [retarget, hscope, hmatch, hok]
  by_cases hidentity : service.serviceType = identityType
  · simp only [identityFor, if_pos hidentity]
  · simp only [identityFor, if_neg hidentity]

/-- A scope that names a single cloud for a service sends it where that cloud as an endpoint
does. -/
theorem retarget_none_eq (hgoverning : c.governing? r = .ok (some (serviceType, value)))
    (hatomic : isAtomic value = true) : c.retarget r none = c.retarget r (some value) := by
  obtain ⟨service, rest, scope, hmatch, hscope, rfl, hvalue⟩ := governing?_eq_some_iff.mp hgoverning
  have hnone : targetCloud scope service.serviceType none = .ok value :=
    targetCloud_eq_ok_iff.mpr ⟨hvalue, hatomic⟩
  have hsome : targetCloud scope service.serviceType (some value) = .ok value :=
    targetCloud_eq_ok_iff.mpr ⟨rfl, hatomic⟩
  rw [retarget_of_presents hmatch hscope, retarget_of_presents hmatch hscope, hnone, hsome]

/-- A request is left alone, or gets to the end of a route. -/
theorem retarget_eq_ok_iff : c.retarget r endpoint = .ok r' ↔
    c.LeavesAlone r ∧ r' = r ∨ ∃ w : c.Route r endpoint, r' = w.request := by
  constructor
  · intro h
    obtain ⟨e, hscope⟩ | halone | ⟨service, rest, scope, hmatch, hscope⟩ := c.presents_cases r
    · cases (retarget_of_scope?_eq_error hscope c endpoint).symm.trans h
    · cases (retarget_of_leavesAlone halone endpoint).symm.trans h
      exact .inl ⟨halone, rfl⟩
    rw [retarget_of_presents hmatch hscope] at h
    obtain ⟨cloud, hcloud, h⟩ := bind_eq_ok_iff.mp h
    obtain ⟨target, htarget, h⟩ := bind_eq_ok_iff.mp h
    obtain ⟨identity, hidentity, h⟩ := bind_eq_ok_iff.mp h
    obtain ⟨headers, hheaders, h⟩ := bind_eq_ok_iff.mp h
    cases h
    exact .inr ⟨⟨service, rest, scope, cloud, target, identity, headers, hmatch, hscope, hcloud,
      mapError_find_eq_ok_iff.mp htarget, hidentity, hheaders⟩, rfl⟩
  · rintro (⟨halone, rfl⟩ | ⟨w, rfl⟩)
    · exact retarget_of_leavesAlone halone endpoint
    · rw [retarget_of_presents w.matched w.presented]
      exact bind_eq_ok_iff.mpr ⟨_, w.named, bind_eq_ok_iff.mpr
        ⟨_, mapError_find_eq_ok_iff.mpr w.found, bind_eq_ok_iff.mpr
          ⟨_, w.identified, bind_eq_ok_iff.mpr ⟨_, w.written, rfl⟩⟩⟩⟩

/-- A request with a scope for a cataloged service gets to an address if the address has what the
service is in a cloud of one name in the place of the service, if the tokens can be read that lose
the scopes behind them, and if there is an identity service to name for a request that needs one. -/
theorem exists_retarget_iff {url : String} (hmatch : c.matchUrl? r.url = some (service, rest))
    (hscope : r.headers.scope? = .ok (some scope)) :
    (∃ r', c.retarget r endpoint = .ok r' ∧ r'.url = url) ↔
      ∃ cloud target, targetCloud scope service.serviceType endpoint = .ok cloud ∧
        c.find? (.siblingOf service cloud) = some target ∧
        target.url ++ String.ofList rest = url ∧
        r.headers.Decodes subjectTokenHeader ∧
        (service.serviceType = identityType →
          (∃ s, c.adminIdentity scope = .ok s) ∧ r.headers.Decodes tokenHeader) := by
  constructor
  · rintro ⟨r', h, hurl⟩
    rcases retarget_eq_ok_iff.mp h with ⟨⟨scope?, hscope', h⟩, _⟩ | ⟨w, rfl⟩
    · rw [hscope] at hscope'
      cases hscope'
      simp [hmatch] at h
    · obtain ⟨service', rest', scope', cloud, target, identity, headers, hmatch', hscope', hcloud,
        hfind, hidentity, hheaders⟩ := w
      cases hmatch.symm.trans hmatch'
      cases hscope.symm.trans hscope'
      obtain ⟨hsubject, htoken⟩ := exists_retargetHeaders_iff.mp ⟨headers, hheaders⟩
      refine ⟨cloud, target, hcloud, hfind, hurl, hsubject, fun htype => ?_⟩
      rcases identityFor_eq_ok_iff.mp hidentity with ⟨hne, _⟩ | ⟨_, s, hs, rfl⟩
      · exact absurd htype hne
      · exact ⟨⟨s, hs⟩, htoken rfl⟩
  · rintro ⟨cloud, target, hcloud, hfind, hurl, hsubject, htoken⟩
    obtain ⟨identity, hidentity, hread⟩ : ∃ identity,
        c.identityFor service.serviceType scope = .ok identity ∧
          (identity.isSome → r.headers.Decodes tokenHeader) := by
      by_cases htype : service.serviceType = identityType
      · obtain ⟨⟨s, hs⟩, htoken⟩ := htoken htype
        exact ⟨some s, identityFor_eq_ok_iff.mpr (.inr ⟨htype, s, hs, rfl⟩), fun _ => htoken⟩
      · exact ⟨none, identityFor_eq_ok_iff.mpr (.inl ⟨htype, rfl⟩), fun h => nomatch h⟩
    obtain ⟨headers, hheaders⟩ := exists_retargetHeaders_iff.mpr ⟨hsubject, hread⟩
    let w : c.Route r endpoint := ⟨service, rest, scope, cloud, target, identity, headers, hmatch,
      hscope, hcloud, hfind, hidentity, hheaders⟩
    exact ⟨w.request, retarget_eq_ok_iff.mpr (.inr ⟨w, rfl⟩), hurl⟩

/-! ## Failures -/

theorem exists_malformed_of_stripToken {h : Headers} {name : String} {e : ScopeError}
    (hstrip : h.stripToken name = .error e) : ∃ fault, e = .malformedHeader name fault := by
  rcases bind_eq_error_iff.mp hstrip with hcarried | ⟨text?, _, hstrip⟩
  · exact Headers.exists_malformed_of_carried? hcarried
  · rcases text? with _ | text
    · cases hstrip
    · rcases hsplit : splitToken text with ⟨token, _ | behind⟩ <;> simp only [hsplit] at hstrip <;>
        cases hstrip

theorem exists_malformed_of_retargetHeaders {h : Headers} {identity : Option Service}
    {e : ScopeError} (hheaders : retargetHeaders h scope identity = .error e) :
    ∃ name fault, e = .malformedHeader name fault := by
  rcases bind_eq_error_iff.mp hheaders with hstrip | ⟨⟨bare, _⟩, _, hheaders⟩
  · exact ⟨_, exists_malformed_of_stripToken hstrip⟩
  rcases identity with _ | identity
  · cases hheaders
  · rcases bind_eq_error_iff.mp hheaders with hstrip | ⟨_, _, hheaders⟩
    · exact ⟨_, exists_malformed_of_stripToken hstrip⟩
    · cases hheaders

theorem exists_invalidScope_of_targetCloud {e : ScopeError}
    (hcloud : targetCloud scope serviceType endpoint = .error e) :
    ∃ fault, e = .invalidScope fault := by
  unfold targetCloud at hcloud
  grind

theorem exists_invalidScope_of_identityFor {e : ScopeError}
    (hidentity : c.identityFor serviceType scope = .error e) :
    ∃ fault, e = .invalidScope fault := by
  rw [identityFor] at hidentity
  split at hidentity
  · rcases hadmin : c.adminIdentity scope with e' | s <;> rw [hadmin] at hidentity <;>
      cases hidentity
    unfold adminIdentity at hadmin
    grind
  · cases hidentity

/-- A request cannot be retargeted over a header, a scope that names no cloud, or a service that its
cloud does not have. -/
theorem cases_of_retarget_eq_error {e : ScopeError} (h : c.retarget r endpoint = .error e) :
    (∃ name fault, e = .malformedHeader name fault) ∨ (∃ fault, e = .invalidScope fault) ∨
      ∃ sought, e = .serviceNotFound sought := by
  obtain ⟨e', hscope⟩ | halone | ⟨service, rest, scope, hmatch, hscope⟩ := c.presents_cases r
  · cases (retarget_of_scope?_eq_error hscope c endpoint).symm.trans h
    obtain ⟨name, _, fault, rfl⟩ := Headers.exists_malformed_of_scope? hscope
    exact .inl ⟨name, fault, rfl⟩
  · cases (retarget_of_leavesAlone halone endpoint).symm.trans h
  rw [retarget_of_presents hmatch hscope] at h
  rcases bind_eq_error_iff.mp h with hcloud | ⟨cloud, _, h⟩
  · exact .inr (.inl (exists_invalidScope_of_targetCloud hcloud))
  rcases bind_eq_error_iff.mp h with hfind | ⟨target, _, h⟩
  · rcases hsought : c.find (.siblingOf service cloud) with sought | s <;> rw [hsought] at hfind <;>
      cases hfind
    exact .inr (.inr ⟨sought, rfl⟩)
  rcases bind_eq_error_iff.mp h with hidentity | ⟨identity, _, h⟩
  · exact .inr (.inl (exists_invalidScope_of_identityFor hidentity))
  rcases bind_eq_error_iff.mp h with hheaders | ⟨headers, _, h⟩
  · exact .inl (exists_malformed_of_retargetHeaders hheaders)
  · cases h

end CloudScope.Catalog
