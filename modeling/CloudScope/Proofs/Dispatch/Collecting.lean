import CloudScope.Proofs.Dispatch.Sending

/-!
# Sending to all endpoints of a scope

With the combinator that concatenates, every endpoint of an expression is visited, from left to
right until one fails, whatever the operators are and however the expression is grouped. So a
request that is sent to all endpoints is transmitted to each of them as often as it is named
(`Sender.sendsAll_sendAll`).
-/

namespace CloudScope

open Sender

variable {σ ε υ α β τ : Type}

/-! ## Concatenation -/

namespace Expr

section

variable {m : Type → Type} [Monad m] [LawfulMonad m] (judge : Option (List τ) → m Bool)
  (item : String → m τ)

/-- What is concatenated are the items of all endpoints. -/
theorem value_concatenation (e : Expr) :
    e.value judge (fun _ => .concatenation) (fun name => ([·]) <$> item name) =
      some <$> e.endpoints.mapM item := by
  induction e with
  | endpoint name => simp [value, endpoints]
  | combine op l r ihl ihr =>
    simp only [value, Stock.join, bothSides, ihl, ihr, endpoints, List.mapM_append]
    simp

theorem decide_concatenation (hjudge : ∀ value, judge value = pure value.isSome) (e : Expr) :
    e.decide judge (fun _ => .concatenation) (fun name => ([·]) <$> item name) =
      some <$> e.endpoints.mapM item := by
  rw [decide, value_concatenation]
  simp [hjudge]

end

end Expr

/-! ## Visits of all endpoints -/

/-- Endpoints that are visited in turn until one fails, by the events and the result of it. -/
inductive VisitsAll (visit : String → List υ → Except ε τ → Prop) (endpoints : List String) :
    List υ → Except ε (List τ) → Prop where
  | failed {visited : List (String × τ)} {name : String} {unvisited : List String}
    {events events' : List υ} {error : ε} :
    endpoints = visited.map Prod.fst ++ name :: unvisited → Visits visit visited events →
    visit name events' (.error error) →
    VisitsAll visit endpoints (events ++ events') (.error error)
  | completed {visited : List (String × τ)} {events : List υ} :
    endpoints = visited.map Prod.fst → Visits visit visited events →
    VisitsAll visit endpoints events (.ok (visited.map Prod.snd))

section

variable {visit : String → List υ → Except ε τ → Prop} {name : String} {names : List String}
  {events events' : List υ} {value : τ} {result : Except ε (List τ)}

theorem VisitsAll.of_error {error : ε} (h : visit name events (.error error)) :
    VisitsAll visit (name :: names) events (.error error) :=
  have hnames : name :: names = ([] : List (String × τ)).map Prod.fst ++ name :: names := rfl
  .failed hnames .nil h

theorem VisitsAll.cons (h : visit name events (.ok value))
    (hrest : VisitsAll visit names events' result) :
    VisitsAll visit (name :: names) (events ++ events') (List.cons value <$> result) := by
  cases hrest with
  | failed hnames hvisits hfail =>
    rw [← List.append_assoc, hnames]
    exact .failed rfl (.cons h hvisits) hfail
  | completed hnames hvisits =>
    rw [hnames]
    exact .completed rfl (.cons h hvisits)

theorem notes_mapM {item' : String → Action (σ × List υ) ε τ} {item : String → Action σ ε τ}
    (names : List String) (h : ∀ name ∈ names, (item' name).Notes (item name) (visit name)) :
    (names.mapM item').Notes (names.mapM item) (VisitsAll visit names) := by
  induction names with
  | nil => exact .pure (.completed rfl .nil)
  | cons name names ih =>
    have hname := h name List.mem_cons_self
    have hnames := ih fun name hname => h name (List.mem_cons_of_mem _ hname)
    rw [List.mapM_cons, List.mapM_cons]
    refine hname.bind (fun events error => .of_error) fun events value hvalue => ?_
    -- what is left to run puts the value in front of the others
    rw [← map_eq_pure_bind, ← map_eq_pure_bind]
    exact .map (hnames.mono fun events' result => .cons hvalue)

end

/-! ## Collecting responses -/

theorem Action.map_apply (f : α → β) (x : Action σ ε α) (s : Session σ) :
    (f <$> x) s = (f <$> (x s).1, (x s).2) := by
  rw [map_eq_pure_bind]
  rcases h : x s with ⟨e | a, t⟩
  · rw [bind_error h]
    rfl
  · rw [bind_ok h]
    rfl

theorem Action.inFrame_map (ofScopeError : ScopeError → ε) (serviceType endpoint : String)
    (f : α → β) (x : Action σ ε α) :
    inFrame ofScopeError serviceType endpoint (f <$> x) =
      f <$> inFrame ofScopeError serviceType endpoint x := by
  funext s
  simp only [map_apply, inFrame]
  cases s.context.push serviceType endpoint with
  | error e => rfl
  | ok framed => rfl

namespace Catalog

variable (c : Catalog) (ofScopeError : ScopeError → ε) (leaf : Request → Action σ ε τ)
  (serviceType : String) (p : Request)

/-- How a request is dispatched to all endpoints. -/
def collector : Dispatcher σ ε Request (List τ) :=
  { c.dispatcher ofScopeError fun r => return [← leaf r] with
    conjunction := .concatenation
    disjunction := .concatenation }

theorem collector_runLeaf :
    (c.collector ofScopeError leaf).runLeaf serviceType p = fun endpoint =>
      ([·]) <$> (c.dispatcher ofScopeError leaf).runLeaf serviceType p endpoint := by
  funext endpoint
  rw [Dispatcher.runLeaf, Dispatcher.runLeaf, ← Action.inFrame_map, map_bind]
  simp only [map_eq_pure_bind]
  rfl

theorem collector_dispatch {expression : String} {e : Expr} (h : Expr.parse expression = .ok e) :
    (c.collector ofScopeError leaf).dispatch serviceType expression p =
      some <$> e.endpoints.mapM ((c.dispatcher ofScopeError leaf).runLeaf serviceType p) := by
  rw [Dispatcher.dispatch_eq (fun _ => Stock.concatenation) rfl rfl h, collector_runLeaf]
  exact Expr.decide_concatenation _ _ (fun _ => rfl) e

/-- A call is dispatched to all endpoints one after the other. -/
theorem collector_call {value : String} {e : Expr}
    (hgoverning : c.governing? p = .ok (some (serviceType, value)))
    (hparse : Expr.parse value = .ok e) :
    (·.getD []) <$> (c.collector ofScopeError leaf).call p =
      e.endpoints.mapM ((c.dispatcher ofScopeError leaf).runLeaf serviceType p) := by
  rw [Dispatcher.call_eq (c := c) rfl, hgoverning]
  dsimp only
  rw [collector_dispatch c ofScopeError leaf serviceType p hparse, Functor.map_map]
  exact id_map _

theorem collector_call_unscoped (h : c.governing? p = .ok none) :
    (·.getD []) <$> (c.collector ofScopeError leaf).call p = ([·]) <$> leaf p := by
  rw [Dispatcher.call_eq (c := c) rfl, h]
  dsimp only
  rw [Functor.map_map, map_eq_pure_bind (x := leaf p)]
  exact id_map _

end Catalog

/-- How a request is dispatched to be sent to all endpoints. -/
def Sender.collector (sender : Sender σ) : Dispatcher σ SendError Request (List Response) :=
  sender.catalog.collector .scope sender.exchange

theorem Sender.sendAll_eq (sender : Sender σ) (r : Request) :
    sender.sendAll r = sender.prepare r >>= fun p => (·.getD []) <$> sender.collector.call p := by
  simp only [map_eq_pure_bind]
  rfl

/-! ## What is exchanged -/

/-- The exchanges of a prepared request that is sent to all of some endpoints, and what comes of
them. Up to the first endpoint that fails, each is sent the request as it is retargeted to it. -/
inductive SendsAll (c : Catalog) (p : Request) (endpoints : List String) :
    List (Request × Except Report Response) → Except SendError (List Response) → Prop where
  | completed {exchanged : List (Request × Except Report Response)} {responses : List Response} :
    c.targets p endpoints = (exchanged.map Prod.fst).map .ok →
    exchanged.map Prod.snd = responses.map .ok →
    SendsAll c p endpoints exchanged (.ok responses)
  | astray {before after : List String} {endpoint : String}
    {exchanged : List (Request × Except Report Response)} {responses : List Response}
    {e : ScopeError} :
    endpoints = before ++ endpoint :: after →
    c.targets p before = (exchanged.map Prod.fst).map .ok →
    exchanged.map Prod.snd = responses.map .ok → c.retarget p (some endpoint) = .error e →
    SendsAll c p endpoints exchanged (.error (.scope e))
  | failed {before after : List String} {endpoint : String}
    {exchanged : List (Request × Except Report Response)} {responses : List Response}
    {report : Report} :
    endpoints = before ++ endpoint :: after →
    c.targets p (before ++ [endpoint]) = (exchanged.map Prod.fst).map .ok →
    exchanged.map Prod.snd = responses.map .ok ++ [.error report] →
    SendsAll c p endpoints exchanged (.error (.transport report))

/-- Visits of all endpoints exchange the request as it is retargeted to each of them. -/
theorem VisitsAll.sendsAll {c : Catalog} {interceptors : Nat} {p : Request}
    {endpoints : List String} {events : List Event} {result : Except SendError (List Response)}
    (h : VisitsAll (Visit c interceptors p) endpoints events result) :
    SendsAll c p endpoints (exchanges events) result := by
  cases h with
  | @failed visited name unvisited events events' error hendpoints hvisits hfail =>
    obtain ⟨htargets, hanswers⟩ := hvisits.exchanges_eq
    rcases hfail.of_error with ⟨e, hastray, hnone, rfl⟩ | ⟨report, htarget, hanswer, rfl⟩
    · rw [exchanges_append, hnone, List.append_nil]
      exact .astray hendpoints htargets hanswers hastray
    · have hlast : (exchanges (events ++ events')).map Prod.snd =
          (visited.map Prod.snd).map .ok ++ [.error report] := by
        rw [exchanges_append, List.map_append, hanswers, hanswer]
      exact .failed hendpoints (hvisits.targets_concat htarget) hlast
  | completed hendpoints hvisits =>
    obtain ⟨htargets, hanswers⟩ := hvisits.exchanges_eq
    rw [hendpoints]
    exact .completed htargets hanswers

namespace Sender

section

variable {sender : Sender σ} {r p : Request} {s s' : Session σ} {serviceType value : String}
  {e : Expr}

/-- Sending a governed request to all endpoints notes the visits of them. -/
theorem notes_collect (hgoverning : sender.catalog.governing? p = .ok (some (serviceType, value)))
    (hparse : Expr.parse value = .ok e) :
    ((·.getD []) <$> sender.traced.collector.call p).Notes
      ((·.getD []) <$> sender.collector.call p)
      (VisitsAll (Visit sender.catalog sender.interceptors.length p) e.endpoints) := by
  rw [collector, collector, Catalog.collector_call sender.traced.catalog _ _ _ p hgoverning hparse,
    Catalog.collector_call sender.catalog _ _ _ p hgoverning hparse]
  exact notes_mapM e.endpoints fun name hname => notes_runLeaf sender p fun ctx =>
    ⟨_, Expr.push_of_mem_endpoints hparse hname serviceType ctx⟩

/-- A prepared request that a scope value governs is exchanged with each endpoint in the order of
the text, as often as it is named, until one cannot be reached; if all answer, their responses are
the result. Only the endpoints of the value matter, and not how it joins them. -/
theorem sendsAll_sendAll (hprepare : sender.prepare r s = (.ok p, s'))
    (hgoverning : sender.catalog.governing? p = .ok (some (serviceType, value)))
    (hparse : Expr.parse value = .ok e) :
    let run := sender.traced.sendAll r (s.traced [])
    (run.1, run.2.untraced) = sender.sendAll r s ∧
      SendsAll sender.catalog p e.endpoints (exchanges run.2.trace) run.1 ∧
      ∀ value' e', Expr.parse value' = .ok e' → e'.endpoints = e.endpoints →
        sender.sendAll r s =
          ((·.getD []) <$> sender.collector.dispatch serviceType value' p) s' := by
  intro run
  obtain ⟨events, noted, hrun, hexchanges, hvisits⟩ :=
    exists_of_prepare hprepare (fun p => (·.getD []) <$> sender.traced.collector.call p)
      (fun p => (·.getD []) <$> sender.collector.call p) (notes_collect hgoverning hparse)
  rw [← sendAll_eq, ← sendAll_eq] at hrun
  rw [← sendAll_eq] at hvisits
  rw [show run = _ from hrun, Session.trace_traced, hexchanges]
  refine ⟨rfl, hvisits.sendsAll, fun value' e' hparse' hendpoints => ?_⟩
  rw [sendAll_eq, Action.bind_ok hprepare, collector,
    Catalog.collector_call _ _ _ _ p hgoverning hparse,
    Catalog.collector_dispatch _ _ _ _ p hparse', hendpoints, Functor.map_map]
  exact (congrFun (id_map _) s').symm

end

theorem sendsAll_sendAll_reset :
    let c : Catalog := ⟨[⟨"compute", "A", "http://a", some "public"⟩,
      ⟨"compute", "B", "http://b", some "public"⟩]⟩
    let sender : Sender Nat :=
      { catalog := c
        transport := fun r s =>
          (if s.shared < 2 then .ok ⟨500, r.url, ∅, ""⟩ else .error ⟨"reset", []⟩,
            { s with shared := s.shared + 1 }) }
    let p : Request :=
      ⟨"GET", "http://a/v2", ⟨[("X-Scope", "\x7b\"compute\":\"B & (A | B)\"\x7d")]⟩⟩
    let s : Session Nat := ⟨∅, 0⟩
    let run := sender.traced.sendAll p (s.traced [])
    sender.prepare p s = (.ok p, s) ∧
      c.governing? p = .ok (some ("compute", "B & (A | B)")) ∧
      Expr.parse "B & (A | B)" = .ok (.combine .and (.endpoint "B")
        (.combine .or (.endpoint "A") (.endpoint "B"))) ∧
      (run.1, run.2.untraced) = sender.sendAll p s ∧
      SendsAll c p ["B", "A", "B"] (exchanges run.2.trace) run.1 ∧
      sender.sendAll p s =
        ((·.getD []) <$> sender.collector.dispatch "compute" "(B | A) | B" p) s := by
  intro c sender p s run
  have hprepare : sender.prepare p s = (.ok p, s) := rfl
  have hgoverning : c.governing? p = .ok (some ("compute", "B & (A | B)")) := by cbv
  have hparse : Expr.parse "B & (A | B)" = .ok (.combine .and (.endpoint "B")
      (.combine .or (.endpoint "A") (.endpoint "B"))) := by cbv
  have hparse' : Expr.parse "(B | A) | B" = .ok (.combine .or
      (.combine .or (.endpoint "B") (.endpoint "A")) (.endpoint "B")) := by cbv
  obtain ⟨hfollows, hsends, hsame⟩ := sendsAll_sendAll hprepare hgoverning hparse
  exact ⟨hprepare, hgoverning, hparse, hfollows, hsends, hsame _ _ hparse' rfl⟩

end Sender

end CloudScope
