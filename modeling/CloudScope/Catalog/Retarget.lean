import CloudScope.Http.ScopeHeader

/-!
# Retargeting requests

A request for a cataloged service goes to the cloud that its scope names for that service: its
address is changed to that of the sibling service there. The scope goes along unchanged, so that
the next hop can resolve it again.
-/

namespace CloudScope.Catalog

/-- The service type that a request is for, with the value its scope has for it. There is none if
the address is not cataloged or the request carries no scope. -/
def governing? (c : Catalog) (r : Request) : Except ScopeError (Option (String × String)) := do
  let some (service, _) := c.matchUrl? r.url | return none
  let some scope ← r.headers.scope? | return none
  match scope.get? service.serviceType with
  | some value => return some (service.serviceType, value)
  | none => throw (.invalidScope (.noEntry scope service.serviceType))

/-- The cloud that a request goes to: `endpoint` if one is given, else what the scope names. -/
def targetCloud (scope : Scope) (serviceType : String) (endpoint : Option String) :
    Except ScopeError String :=
  match endpoint with
  | some endpoint =>
    if isAtomic endpoint then .ok endpoint else .error (.invalidScope (.notAtomic endpoint))
  | none =>
    match scope.get? serviceType with
    | none => .error (.invalidScope (.noEntry scope serviceType))
    | some value =>
      if isAtomic value then .ok value
      else .error (.invalidScope (.compound value serviceType))

/-- The administrative identity service of the cloud that a scope names for identity. -/
def adminIdentity (c : Catalog) (scope : Scope) : Except ScopeError Service :=
  match scope.get? identityType with
  | none => .error (.invalidScope (.noIdentity scope))
  | some cloud =>
    match c.find? ⟨identityType, cloud, some adminInterface⟩ with
    | some service => .ok service
    | none => .error (.invalidScope (.noAdminIdentity cloud))

/-- The headers of a retargeted request: tokens without the scopes behind them where the service
reads them, the scope, and the identity service if there is one to name. -/
def retargetHeaders (h : Headers) (scope : Scope) (identity : Option Service) :
    Except ScopeError Headers := do
  let (h, _) ← h.stripToken subjectTokenHeader
  match identity with
  | none => return h.setScope scope
  | some identity =>
    let (h, _) ← h.stripToken tokenHeader
    return ((h.setScope scope).insert identityCloudHeader identity.cloud).insert
      identityUrlHeader identity.url

/-- The request as it goes to its cloud. It is left alone if its address is not cataloged or it
carries no scope. -/
def retarget (c : Catalog) (r : Request) (endpoint : Option String) :
    Except ScopeError Request := do
  let scope? ← r.headers.scope?
  match c.matchUrl? r.url, scope? with
  | some (service, rest), some scope =>
    let cloud ← targetCloud scope service.serviceType endpoint
    let target ← (c.find (.siblingOf service cloud)).mapError .serviceNotFound
    let identity ←
      if service.serviceType = identityType then some <$> c.adminIdentity scope else pure none
    let headers ← retargetHeaders r.headers scope identity
    return { r with url := target.url ++ String.ofList rest, headers }
  | _, _ => return r

/-- Retargets a request in its place. A request that cannot be retargeted stays as it is. -/
def retargetInPlace (c : Catalog) (r : Request) (endpoint : Option String) :
    Except ScopeError Unit × Request :=
  match c.retarget r endpoint with
  | .ok r' => (.ok (), r')
  | .error e => (.error e, r)

end CloudScope.Catalog
