import CloudScope.Proofs.Catalog.Endpoints
import CloudScope.Proofs.Dispatch.ShortCircuit

/-!
# Sending to the endpoints of a scope

A request is prepared by the interceptors and then sent to the endpoints that evaluation of its
scope from left to right gets to. The trace of a traced sender tells all of it: what the
interceptors saw and made of the request, which requests were transmitted, and who saw the answers
(`Sender.sends_send`). What is returned is one of these answers (`Sender.answers_send`).
-/

namespace CloudScope

open Sender

variable {σ ε α τ : Type}

/-! ## What a prepared request leads to -/

/-- Whether a response has a status of success. -/
def Response.Succeeds (response : Response) : Prop :=
  200 ≤ response.status ∧ response.status ≤ 299

instance (response : Response) : Decidable response.Succeeds :=
  inferInstanceAs (Decidable (200 ≤ response.status ∧ response.status ≤ 299))

theorem Response.isSuccess_eq : Response.isSuccess = fun response => decide response.Succeeds := by
  funext response
  rw [isSuccess, ← Bool.decide_and]
  exact decide_eq_decide.mpr (Iff.rfl.and Nat.lt_succ_iff)

/-- What is noted for an endpoint of a prepared request. The request is retargeted to the endpoint,
and exchanged if that succeeds. -/
inductive Visit (c : Catalog) (interceptors : Nat) (p : Request) (endpoint : String) :
    List Event → Except SendError Response → Prop where
  | astray {e : ScopeError} : c.retarget p (some endpoint) = .error e →
    Visit c interceptors p endpoint [] (.error (.scope e))
  | exchanged {r : Request} {events : List Event} {result : Except SendError Response} :
    c.retarget p (some endpoint) = .ok r → Exchanges interceptors r events result →
    Visit c interceptors p endpoint events result

/-- What is noted for a prepared request, and what comes of it. A request without a scope is
exchanged as it is, and one with a scope is sent to the endpoints that evaluation gets to. -/
inductive Delivers (c : Catalog) (interceptors : Nat) (p : Request) :
    List Event → Except SendError (Option Response) → Prop where
  | illegible {e : ScopeError} : c.governing? p = .error e →
    Delivers c interceptors p [] (.error (.scope e))
  | unscoped {events : List Event} {result : Except SendError Response} :
    c.governing? p = .ok none → Exchanges interceptors p events result →
    Delivers c interceptors p events (some <$> result)
  | unreadable {serviceType value : String} {e : Expr.ParseError} :
    c.governing? p = .ok (some (serviceType, value)) → Expr.parse value = .error e →
    Delivers c interceptors p [] (.error (.scope (.parse e)))
  | evaluated {serviceType value : String} {e : Expr} {events : List Event}
    {result : Except SendError (Option Response)} :
    c.governing? p = .ok (some (serviceType, value)) → Expr.parse value = .ok e →
    e.ShortCircuits (fun response => decide response.Succeeds) (Visit c interceptors p) events
      result →
    Delivers c interceptors p events result

/-- What is noted when a request is sent, and what comes of it. -/
inductive Sends (c : Catalog) (interceptors : Nat) (r : Request) :
    List Event → Except SendError (Option Response) → Prop where
  | refused {events : List Event} {error : SendError} :
    Prepares interceptors 0 r events (.error error) →
    Sends c interceptors r events (.error error)
  | delivered {p : Request} {events events' : List Event}
    {result : Except SendError (Option Response)} :
    Prepares interceptors 0 r events (.ok p) → Delivers c interceptors p events' result →
    Sends c interceptors r (events ++ events') result

/-! ## What is transmitted -/

/-- What a request becomes for each of some endpoints. -/
def Catalog.targets (c : Catalog) (p : Request) (endpoints : List String) :
    List (Except ScopeError Request) :=
  endpoints.map fun endpoint => c.retarget p (some endpoint)

theorem Catalog.targets_append (c : Catalog) (p : Request) (names names' : List String) :
    c.targets p (names ++ names') = c.targets p names ++ c.targets p names' :=
  List.map_append

section

variable {c : Catalog} {interceptors : Nat} {p r : Request} {endpoint : String}
  {events : List Event} {result : Except SendError Response}

theorem Exchanges.exchanges_eq (h : Exchanges interceptors r events result) :
    ∃ answer : Except Report Response, exchanges events = [(r, answer)] ∧
      result = answer.mapError .transport := by
  cases h with
  | failed report => exact ⟨.error report, rfl, rfl⟩
  | answered response =>
    exact ⟨.ok response, congrArg (List.cons _) (exchanges_received _ r response), rfl⟩

theorem Visit.of_ok {response : Response}
    (h : Visit c interceptors p endpoint events (.ok response)) :
    c.targets p [endpoint] = (transmitted events).map .ok ∧
      (exchanges events).map Prod.snd = [.ok response] := by
  obtain _ | ⟨hretarget, hexchanges⟩ := h
  obtain ⟨_ | _, hevents, hresult⟩ := hexchanges.exchanges_eq <;> cases hresult
  rw [transmitted, hevents]
  exact ⟨congrArg (fun target => [target]) hretarget, rfl⟩

theorem Visit.of_error {error : SendError}
    (h : Visit c interceptors p endpoint events (.error error)) :
    (∃ e, c.retarget p (some endpoint) = .error e ∧ exchanges events = [] ∧ error = .scope e) ∨
      ∃ report, c.targets p [endpoint] = (transmitted events).map .ok ∧
        (exchanges events).map Prod.snd = [.error report] ∧ error = .transport report := by
  obtain ⟨hretarget⟩ | ⟨hretarget, hexchanges⟩ := h
  · exact .inl ⟨_, hretarget, rfl, rfl⟩
  obtain ⟨report | _, hevents, hresult⟩ := hexchanges.exchanges_eq <;> cases hresult
  rw [transmitted, hevents]
  exact .inr ⟨report, congrArg (fun target => [target]) hretarget, rfl, rfl⟩

/-- The endpoints that answer are sent what the request becomes for them. -/
theorem Visits.exchanges_eq {visited : List (String × Response)}
    (h : Visits (Visit c interceptors p) visited events) :
    c.targets p (visited.map Prod.fst) = (transmitted events).map .ok ∧
      (exchanges events).map Prod.snd = (visited.map Prod.snd).map .ok := by
  induction h with
  | nil => exact ⟨rfl, rfl⟩
  | cons hvisit _ ih =>
    obtain ⟨htarget, hanswer⟩ := hvisit.of_ok
    rw [transmitted_append, exchanges_append, List.map_append, List.map_append, ← htarget, ← ih.1,
      hanswer, ih.2]
    exact ⟨rfl, rfl⟩

/-- Behind endpoints that answer, one more is sent what the request becomes for it. -/
theorem Visits.targets_concat {visited : List (String × Response)} {events' : List Event}
    (h : Visits (Visit c interceptors p) visited events)
    (htarget : c.targets p [endpoint] = (transmitted events').map .ok) :
    c.targets p (visited.map Prod.fst ++ [endpoint]) =
      (transmitted (events ++ events')).map .ok := by
  rw [Catalog.targets_append, transmitted_append, List.map_append, h.exchanges_eq.1, htarget]

section

variable {serviceType value : String} {result : Except SendError (Option Response)}

theorem Delivers.of_parse_error {e : Expr.ParseError}
    (h : Delivers c interceptors p events result)
    (hgoverning : c.governing? p = .ok (some (serviceType, value)))
    (hparse : Expr.parse value = .error e) : events = [] ∧ result = .error (.scope (.parse e)) := by
  cases h with
  | illegible h | unscoped h => cases h.symm.trans hgoverning
  | unreadable h hparse' =>
    cases h.symm.trans hgoverning
    cases hparse'.symm.trans hparse
    exact ⟨rfl, rfl⟩
  | evaluated h hparse' =>
    cases h.symm.trans hgoverning
    cases hparse'.symm.trans hparse

/-- A request for a single endpoint comes to what comes of the visit of it. -/
theorem Delivers.of_parse_endpoint (h : Delivers c interceptors p events result)
    (hgoverning : c.governing? p = .ok (some (serviceType, value)))
    (hparse : Expr.parse value = .ok (.endpoint endpoint)) :
    ∃ answer, Visit c interceptors p endpoint events answer ∧
      result = answer.map (Option.guard fun response => decide response.Succeeds) := by
  cases h with
  | illegible h | unscoped h => cases h.symm.trans hgoverning
  | unreadable h hparse' =>
    cases h.symm.trans hgoverning
    cases hparse'.symm.trans hparse
  | evaluated h hparse' hevaluates =>
    cases h.symm.trans hgoverning
    cases hparse'.symm.trans hparse
    exact hevaluates.of_endpoint

end

end

/-! ## What is returned -/

/-- Where the response for a prepared request comes from, among the requests that were transmitted
and what they came to. -/
inductive Answers (c : Catalog) (p : Request) (response : Response)
    (exchanged : List (Request × Except Report Response)) : Prop where
  | unscoped : c.governing? p = .ok none → (p, .ok response) ∈ exchanged →
    Answers c p response exchanged
  | governed {serviceType value : String} {e : Expr} {endpoint : String} {target : Request} :
    c.governing? p = .ok (some (serviceType, value)) → Expr.parse value = .ok e →
    endpoint ∈ e.endpoints → c.retarget p (some endpoint) = .ok target →
    (target, .ok response) ∈ exchanged → response.Succeeds → Answers c p response exchanged

section

variable {c : Catalog} {interceptors : Nat} {p r : Request} {response : Response}
  {events : List Event} {exchanged exchanged' : List (Request × Except Report Response)}

theorem Answers.mono (h : Answers c p response exchanged) (hsubset : exchanged ⊆ exchanged') :
    Answers c p response exchanged' := by
  cases h with
  | unscoped hgoverning hmem => exact .unscoped hgoverning (hsubset hmem)
  | governed hgoverning hparse hendpoint hretarget hmem hsucceeds =>
    exact .governed hgoverning hparse hendpoint hretarget (hsubset hmem) hsucceeds

theorem Exchanges.mem_exchanges (h : Exchanges interceptors r events (.ok response)) :
    (r, .ok response) ∈ exchanges events := by
  obtain ⟨_ | _, hevents, hresult⟩ := h.exchanges_eq <;> cases hresult
  rw [hevents]
  exact List.mem_singleton_self _

theorem Delivers.answers (h : Delivers c interceptors p events (.ok (some response))) :
    Answers c p response (exchanges events) := by
  generalize hresult : (.ok (some response) : Except SendError (Option Response)) = result at h
  cases h with
  | illegible | unreadable => cases hresult
  | @unscoped _ answer hgoverning hexchanges =>
    cases answer with
    | error => cases hresult
    | ok answer =>
      cases hresult
      exact .unscoped hgoverning hexchanges.mem_exchanges
  | evaluated hgoverning hparse hevaluates =>
    subst hresult
    obtain ⟨hsucceeds, endpoint, hendpoint, noted, hnoted, hvisit⟩ := hevaluates.exists_visit
    obtain _ | ⟨hretarget, hexchanges⟩ := hvisit
    exact .governed hgoverning hparse hendpoint hretarget
      ((hnoted.filterMap _).subset hexchanges.mem_exchanges) (of_decide_eq_true hsucceeds)

end

/-! ## Dispatches of requests -/

namespace Sender

/-- How a request is dispatched to be sent. -/
def dispatcher (sender : Sender σ) : Dispatcher σ SendError Request Response :=
  { sender.catalog.dispatcher .scope sender.exchange with
    isTruthy := fun response => pure (response.any Response.isSuccess) }

theorem send_eq (sender : Sender σ) (r : Request) :
    sender.send r = sender.prepare r >>= sender.dispatcher.call := rfl

end Sender

/-- A call is told apart by what governs its request. -/
theorem Dispatcher.call_eq {d : Dispatcher σ ε Request τ} {c : Catalog}
    (h : d.extract = (c.dispatcher d.ofScopeError d.leaf).extract) (p : Request) :
    d.call p = match c.governing? p with
      | .error e => .ofExcept (.error (d.ofScopeError e))
      | .ok none => some <$> d.leaf p
      | .ok (some (serviceType, value)) => d.dispatch serviceType value p := by
  simp only [call, h, Catalog.dispatcher]
  rcases c.governing? p with e | _ | ⟨serviceType, value⟩ <;> rfl

/-- A call over an expression that was read evaluates it without memory. -/
theorem Dispatcher.dispatch_eq {d : Dispatcher σ ε α τ} (stock : Operator → Stock τ)
    (hand : d.conjunction = (stock .and).combinator) (hor : d.disjunction = (stock .or).combinator)
    {expression : String} {e : Expr} (h : Expr.parse expression = .ok e) (serviceType : String)
    (args : α) : d.dispatch serviceType expression args =
      e.decide (.judge d.isTruthy) stock (d.runLeaf serviceType args) := by
  have hstock : d.withStock stock = d := by rw [withStock, ← hand, ← hor]
  rw [← d.dispatch_withStock stock serviceType args h, hstock]

/-- There are responses to take for places that are not reached. -/
instance : Nonempty Response := ⟨⟨0, "", ∅, ""⟩⟩

namespace Sender

/-- What a sender runs for an endpoint notes the visit of it. -/
theorem notes_runLeaf (sender : Sender σ) (p : Request) {serviceType endpoint : String}
    (hpush : ∀ ctx : Context, ∃ framed, ctx.push serviceType endpoint = .ok framed) :
    (sender.traced.dispatcher.runLeaf serviceType p endpoint).Notes
      (sender.dispatcher.runLeaf serviceType p endpoint)
      (Visit sender.catalog sender.interceptors.length p endpoint) := by
  refine .inFrame ?_ _ hpush
  exact .ofExcept_bind (fun e => .astray) fun r hretarget =>
    (notes_exchange sender r).mono fun events result => .exchanged hretarget

theorem notes_call (sender : Sender σ) (p : Request) :
    (sender.traced.dispatcher.call p).Notes (sender.dispatcher.call p)
      (Delivers sender.catalog sender.interceptors.length p) := by
  rw [Dispatcher.call_eq (c := sender.catalog) rfl, Dispatcher.call_eq (c := sender.catalog) rfl]
  rcases hgoverning : sender.catalog.governing? p with e | _ | ⟨serviceType, value⟩
  · exact .ofExcept (.illegible hgoverning)
  · exact .map ((notes_exchange sender p).mono fun events result => .unscoped hgoverning)
  · cases hparse : Expr.parse value with
    | error e =>
      dsimp only
      rw [Dispatcher.dispatch, Dispatcher.dispatch, hparse]
      exact .ofExcept (.unreadable hgoverning hparse)
    | ok e =>
      dsimp only
      rw [Dispatcher.dispatch_eq Stock.choosing rfl rfl hparse,
        Dispatcher.dispatch_eq Stock.choosing rfl rfl hparse]
      refine (e.notes_decide fun name hname => ?_).mono fun events result hevaluates =>
        .evaluated hgoverning hparse (Response.isSuccess_eq ▸ hevaluates)
      exact notes_runLeaf sender p fun ctx =>
        ⟨_, Expr.push_of_mem_endpoints hparse hname serviceType ctx⟩

theorem notes_send (sender : Sender σ) (r : Request) :
    (sender.traced.send r).Notes (sender.send r)
      (Sends sender.catalog sender.interceptors.length r) := by
  rw [send_eq, send_eq]
  exact (notes_prepare sender r).bind (fun events error => .refused) fun events p hprepares =>
    (notes_call sender p).mono fun events' result => .delivered hprepares

/-- If a request is prepared, all its exchanges are noted by what follows the preparation. -/
theorem exists_of_prepare {sender : Sender σ} {r p : Request} {s s' : Session σ}
    (hprepare : sender.prepare r s = (.ok p, s'))
    (next' : Request → Action (σ × List Event) SendError τ) (next : Request → Action σ SendError τ)
    {suits : List Event → Except SendError τ → Prop} (h : (next' p).Notes (next p) suits) :
    let plain := (sender.prepare r >>= next) s
    ∃ events noted,
      (sender.traced.prepare r >>= next') (s.traced []) = (plain.1, plain.2.traced events) ∧
        exchanges events = exchanges noted ∧ suits noted plain.1 := by
  intro plain
  have hplain : plain = next p s' := Action.bind_ok hprepare
  obtain ⟨events, hprepare', hprepares⟩ := notes_prepare sender r s []
  rw [hprepare] at hprepare' hprepares
  obtain ⟨noted, hnext, hsuits⟩ := h s' events
  rw [Action.bind_ok hprepare', hplain]
  refine ⟨events ++ noted, noted, hnext, ?_, hsuits⟩
  rw [exchanges_append, hprepares.exchanges_eq, List.nil_append]

/-- A response that is returned is an answer to an exchange. If the request was prepared without a
scope, it is the answer to the prepared request. Else it is one of success, of an endpoint of the
scope value, and answers what the prepared request becomes for that endpoint. -/
theorem answers_send (sender : Sender σ) (r : Request) (s : Session σ) {response : Response}
    (h : (sender.send r s).1 = .ok (some response)) :
    let run := sender.traced.send r (s.traced [])
    ∃ events p, events <+: run.2.trace ∧ Prepares sender.interceptors.length 0 r events (.ok p) ∧
      Answers sender.catalog p response (exchanges run.2.trace) := by
  intro run
  obtain ⟨events, hrun, hsends⟩ := notes_send sender r s []
  rw [h] at hsends
  rw [show run = _ from hrun, Session.trace_traced, List.nil_append]
  obtain _ | ⟨hprepares, hdelivers⟩ := hsends
  refine ⟨_, _, List.prefix_append _ _, hprepares, hdelivers.answers.mono ?_⟩
  rw [exchanges_append]
  exact List.subset_append_right _ _

/-- A traced sender comes to what the sender comes to, and its trace accounts for that. The request
is prepared by the interceptors in turn, and nothing more happens if one refuses it. If a scope
value governs the prepared request, the request is retargeted to the endpoints that evaluation of
the value from left to right gets to, and each is exchanged and shown to all interceptors before the
next. The first that fails ends the sending; else the response is the one that the Boolean reading
chooses, if the expression holds. -/
theorem sends_send (sender : Sender σ) (r : Request) (s : Session σ) :
    let run := sender.traced.send r (s.traced [])
    (run.1, run.2.untraced) = sender.send r s ∧
      Sends sender.catalog sender.interceptors.length r run.2.trace run.1 := by
  intro run
  obtain ⟨events, hrun, hsends⟩ := notes_send sender r s []
  rw [show run = _ from hrun]
  exact ⟨rfl, hsends⟩

end Sender

end CloudScope
