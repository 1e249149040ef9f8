import CloudScope.Catalog.Retarget
import CloudScope.Dispatch.Dispatcher

/-!
# Sending requests

A request is dispatched over the value that its scope has for the service it is for: each endpoint
gets the request retargeted to it. Interceptors see the request once before that, and each exchange
after it.
-/

namespace CloudScope

def Catalog.dispatcher {σ ε τ : Type} (c : Catalog) (ofScopeError : ScopeError → ε)
    (leaf : Request → Action σ ε τ) : Dispatcher σ ε Request τ where
  ofScopeError
  leaf
  extract := some fun r => .ofExcept ((c.governing? r).mapError ofScopeError)
  transform endpoint r := .ofExcept ((c.retarget r (some endpoint)).mapError ofScopeError)

inductive SendError where
  | scope (e : ScopeError)
  | transport (r : Report)
deriving DecidableEq, Repr

/-- What is shown of a failure to send. -/
def SendError.report : SendError → Report
  | .scope e => e.report
  | .transport r => r

/-- What is done around the sending of a request. -/
structure Interceptor (σ : Type) where
  /-- Runs once before the request is dispatched, and may change or refuse it. -/
  beforeSend : Request → Action σ ScopeError Request := pure
  /-- Runs after each exchange. -/
  afterReceive : Request → Response → StateM (Session σ) Unit := fun _ _ => pure ()

/-- Puts the effective scope of the context into requests. -/
def Interceptor.injector {σ : Type} : Interceptor σ where
  beforeSend r := fun s =>
    match s.context.inject r with
    | (.error e, _) => (.error e, s)
    | (.ok (), r) => (.ok r, s)

/-- The requests that a request is retargeted to, one for each endpoint of its scope. -/
def Catalog.retargeted {σ : Type} (c : Catalog) (r : Request) :
    Action σ ScopeError (List Request) := do
  let d : Dispatcher σ ScopeError Request (List Request) :=
    { c.dispatcher id fun r => pure [r] with
      conjunction := .concatenation
      disjunction := .concatenation }
  return (← d.call r).getD []

/-- The requests that would be sent if the effective scope were put into a request. -/
def Catalog.dryRun {σ : Type} (c : Catalog) (r : Request) : Action σ ScopeError (List Request) := do
  c.retargeted (← Interceptor.injector.beforeSend r)

structure Sender (σ : Type) where
  catalog : Catalog
  /-- Exchanges a request for its response. -/
  transport : Request → Action σ Report Response
  interceptors : List (Interceptor σ) := []

namespace Sender

variable {σ : Type}

/-- Shows a request to the interceptors in their order. -/
def prepare (sender : Sender σ) (r : Request) : Action σ SendError Request :=
  sender.interceptors.foldlM (fun r i => (i.beforeSend r).adapt .scope) r

/-- Exchanges a request for its response, and shows both to the interceptors in their order. -/
def exchange (sender : Sender σ) (r : Request) : Action σ SendError Response := do
  let response ← (sender.transport r).adapt .transport
  sender.interceptors.forM fun i => i.afterReceive r response
  return response

/-- Sends a request to the endpoints of its scope, where a response counts as true if it tells of
success. There is no response if the scope comes out false. -/
def send (sender : Sender σ) (r : Request) : Action σ SendError (Option Response) := do
  let d : Dispatcher σ SendError Request Response :=
    { sender.catalog.dispatcher .scope sender.exchange with
      isTruthy := fun response => pure (response.any (·.isSuccess)) }
  d.call (← sender.prepare r)

/-- Sends a request to all endpoints of its scope, and gives their responses in order. -/
def sendAll (sender : Sender σ) (r : Request) : Action σ SendError (List Response) := do
  let d : Dispatcher σ SendError Request (List Response) :=
    { sender.catalog.dispatcher .scope fun r => return [← sender.exchange r] with
      conjunction := .concatenation
      disjunction := .concatenation }
  return (← d.call (← sender.prepare r)).getD []

end Sender

end CloudScope
