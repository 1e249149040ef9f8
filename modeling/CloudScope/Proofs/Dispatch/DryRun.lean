import CloudScope.Proofs.Dispatch.Collecting

/-!
# Dry runs

A dry run gives the requests that a request would be sent as, and transmits nothing. If it
succeeds, sending the request can fail in the transport only. Sending it to all endpoints transmits
just these requests, and sending it to those that evaluation gets to transmits some of them, in
their order (`Catalog.transmits_of_dryRun`).
-/

namespace CloudScope

open Sender

variable {σ ε α β : Type}

/-- The requests that a prepared request is to be sent as, if it goes to all endpoints. -/
inductive Catalog.Plans (c : Catalog) (p : Request) : List Request → Prop where
  | unscoped : c.governing? p = .ok none → Plans c p [p]
  | governed {serviceType value : String} {e : Expr} {requests : List Request} :
    c.governing? p = .ok (some (serviceType, value)) → Expr.parse value = .ok e →
    c.targets p e.endpoints = requests.map .ok → Plans c p requests

/-! ## What a dry run gives -/

/-- Retargeting a request inside a frame leaves the session as it is. -/
theorem Catalog.runLeaf_pure (c : Catalog) {expression name : String} {e : Expr}
    (hparse : Expr.parse expression = .ok e) (hname : name ∈ e.endpoints) (serviceType : String)
    (p : Request) :
    (c.dispatcher id pure : Dispatcher σ ScopeError Request Request).runLeaf serviceType p name =
      .ofExcept (c.retarget p (some name)) := by
  funext s
  have hpush := Expr.push_of_mem_endpoints hparse hname serviceType s.context
  have hrelease : ({ s.context with
      frames := s.context.frames ++ [⟨serviceType, name⟩] } : Context).release ⟨s.context.depth⟩ =
        s.context := by
    simp [Context.release, Context.depth]
  rw [Dispatcher.runLeaf, Action.inFrame_of_push _ hpush]
  simp only [dispatcher]
  cases c.retarget p (some name) with
  | error e => exact congrArg (fun context => (_, Session.mk context s.shared)) hrelease
  | ok r => exact congrArg (fun context => (_, Session.mk context s.shared)) hrelease

theorem Action.mapM_ofExcept {f : α → Except ε β} {action : α → Action σ ε β} {l : List α}
    (h : ∀ a ∈ l, action a = .ofExcept (f a)) : l.mapM action = .ofExcept (l.mapM f) := by
  induction l with
  | nil => rfl
  | cons a l ih =>
    rw [List.mapM_cons, List.mapM_cons, h a List.mem_cons_self,
      ih fun b hb => h b (List.mem_cons_of_mem _ hb)]
    cases f a with
    | error e => rfl
    | ok b => cases l.mapM f <;> rfl

theorem map_eq_of_mapM_eq_ok {f : α → Except ε β} {l : List α} {results : List β}
    (h : l.mapM f = .ok results) : l.map f = results.map .ok := by
  induction l generalizing results with
  | nil => cases h; rfl
  | cons a l ih =>
    rw [List.mapM_cons] at h
    obtain ⟨b, hb, h⟩ := bind_eq_ok_iff.mp h
    obtain ⟨bs, hbs, h⟩ := bind_eq_ok_iff.mp h
    cases h
    rw [List.map_cons, List.map_cons, hb, ih hbs]

theorem Catalog.retargeted_eq (c : Catalog) (p : Request) :
    (c.retargeted p : Action σ ScopeError (List Request)) =
      (·.getD []) <$> (c.collector id pure).call p := by
  rw [map_eq_pure_bind]
  rfl

theorem Catalog.plans_of_retargeted {c : Catalog} {p : Request} {s : Session σ}
    {requests : List Request} (h : (c.retargeted p s).1 = .ok requests) : c.Plans p requests := by
  rw [retargeted_eq] at h
  rcases hgoverning : c.governing? p with e | _ | ⟨serviceType, value⟩
  · rw [Dispatcher.call_eq (c := c) rfl, hgoverning] at h
    cases h
  · rw [Dispatcher.call_eq (c := c) rfl, hgoverning] at h
    cases h
    exact .unscoped hgoverning
  · cases hparse : Expr.parse value with
    | error e =>
      rw [Dispatcher.call_eq (c := c) rfl, hgoverning] at h
      dsimp only at h
      rw [Dispatcher.dispatch, hparse] at h
      cases h
    | ok e =>
      rw [c.collector_call _ _ _ p hgoverning hparse, Action.mapM_ofExcept fun name hname =>
        c.runLeaf_pure hparse hname serviceType p] at h
      exact .governed hgoverning hparse (map_eq_of_mapM_eq_ok h)

/-! ## What is transmitted -/

namespace Catalog

variable {c : Catalog} {p : Request} {names endpoints : List String} {requests : List Request}

theorem filterMap_targets (h : c.targets p endpoints = requests.map .ok) :
    (c.targets p endpoints).filterMap Except.toOption = requests := by
  rw [h, List.filterMap_map]
  exact List.filterMap_some

theorem sublist_of_targets {transmitted : List Request}
    (h : c.targets p endpoints = requests.map .ok) (hnames : names.Sublist endpoints)
    (htransmitted : c.targets p names = transmitted.map .ok) : transmitted.Sublist requests := by
  rw [← filterMap_targets h, ← filterMap_targets htransmitted]
  exact (hnames.map _).filterMap _

theorem retarget_ne_error {endpoint : String} (h : c.targets p endpoints = requests.map .ok)
    (hendpoint : endpoint ∈ endpoints) (e : ScopeError) :
    c.retarget p (some endpoint) ≠ .error e := by
  intro hretarget
  have hmem : Except.error e ∈ c.targets p endpoints :=
    hretarget ▸ List.mem_map_of_mem hendpoint
  rw [h] at hmem
  obtain ⟨_, _, hok⟩ := List.mem_map.mp hmem
  cases hok

end Catalog

open Catalog

section

variable {c : Catalog} {interceptors : Nat} {p : Request} {endpoints : List String}
  {requests : List Request} {exchanged : List (Request × Except Report Response)}

/-- Evaluation of a plan's endpoints transmits some of its requests, and fails in the transport
only. -/
theorem Expr.ShortCircuits.transmits {e : Expr} {isTrue : Response → Bool} {events : List Event}
    {result : Except SendError (Option Response)}
    (h : c.targets p e.endpoints = requests.map .ok)
    (hrun : e.ShortCircuits isTrue (Visit c interceptors p) events result) :
    (transmitted events).Sublist requests ∧
      ∀ error, result = .error error → ∃ report, error = .transport report := by
  cases hrun with
  | @failed answer visited unvisited name response events events' error hreached hvisits hfail =>
    have hsublist : ((e.reached isTrue answer).map Prod.fst).Sublist e.endpoints :=
      e.reached_sublist answer
    rw [hreached, List.map_append, List.map_cons] at hsublist
    rcases hfail.of_error with ⟨e', hastray, -, -⟩ | ⟨report, htarget, -, herror⟩
    · have hmem := hsublist.subset (List.mem_append_right _ List.mem_cons_self)
      exact absurd hastray (retarget_ne_error h hmem e')
    · have hnames : (visited.map Prod.fst ++ [name]).Sublist e.endpoints := by
        refine .trans (.append (.refl _) ?_) hsublist
        exact .cons_cons _ (List.nil_sublist _)
      refine ⟨sublist_of_targets h hnames (hvisits.targets_concat htarget), fun error' h => ?_⟩
      cases h
      exact ⟨report, herror⟩
  | completed answer hvisits =>
    refine ⟨sublist_of_targets h (e.reached_sublist answer) hvisits.exchanges_eq.1, ?_⟩
    rintro error ⟨⟩

theorem Delivers.transmits {events : List Event} {result : Except SendError (Option Response)}
    (hplans : c.Plans p requests) (h : Delivers c interceptors p events result) :
    (transmitted events).Sublist requests ∧
      ∀ error, result = .error error → ∃ report, error = .transport report := by
  cases hplans with
  | unscoped hnone =>
    cases h with
    | illegible hgoverning | unreadable hgoverning | evaluated hgoverning =>
      cases hnone.symm.trans hgoverning
    | unscoped _ hexchanges =>
      obtain ⟨answer, hevents, rfl⟩ := hexchanges.exchanges_eq
      rw [transmitted, hevents]
      refine ⟨.refl _, fun error herror => ?_⟩
      cases answer with
      | error report => cases herror; exact ⟨report, rfl⟩
      | ok response => cases herror
  | governed hgoverning hparse htargets =>
    cases h with
    | illegible hgoverning' | unscoped hgoverning' => cases hgoverning.symm.trans hgoverning'
    | unreadable hgoverning' hparse' =>
      cases hgoverning.symm.trans hgoverning'
      cases hparse.symm.trans hparse'
    | evaluated hgoverning' hparse' hrun =>
      cases hgoverning.symm.trans hgoverning'
      cases hparse.symm.trans hparse'
      exact hrun.transmits htargets

/-- Sending to all endpoints of a plan transmits its requests, up to the first that the transport
fails at. -/
theorem SendsAll.transmits {result : Except SendError (List Response)}
    (h : c.targets p endpoints = requests.map .ok)
    (hsends : SendsAll c p endpoints exchanged result) :
    (∃ responses, result = .ok responses ∧ exchanged.map Prod.fst = requests) ∨
      ∃ report, result = .error (.transport report) ∧ exchanged.map Prod.fst <+: requests := by
  cases hsends with
  | completed htargets _ =>
    exact .inl ⟨_, rfl, (filterMap_targets htargets).symm.trans (filterMap_targets h)⟩
  | astray hendpoints _ _ hastray =>
    have hmem : _ ∈ endpoints := hendpoints ▸ List.mem_append_right _ List.mem_cons_self
    exact absurd hastray (retarget_ne_error h hmem _)
  | @failed before after endpoint _ _ report hendpoints htargets _ =>
    refine .inr ⟨report, rfl, ?_⟩
    rw [← filterMap_targets h, ← filterMap_targets htargets, hendpoints]
    refine (List.IsPrefix.map _ ?_).filterMap _
    exact ⟨after, (List.append_cons before endpoint after).symm⟩

end

/-- Sending a planned request to all endpoints notes what the plan says. -/
theorem notes_collect_of_plans {sender : Sender σ} {p : Request} {requests : List Request}
    (hplans : sender.catalog.Plans p requests) :
    ((·.getD []) <$> sender.traced.collector.call p).Notes
      ((·.getD []) <$> sender.collector.call p) fun events result =>
        (∃ responses, result = .ok responses ∧ transmitted events = requests) ∨
          ∃ report, result = .error (.transport report) ∧ transmitted events <+: requests := by
  cases hplans with
  | unscoped hnone =>
    rw [Sender.collector, Sender.collector,
      collector_call_unscoped sender.traced.catalog _ _ p hnone,
      collector_call_unscoped sender.catalog _ _ p hnone]
    refine .map ((notes_exchange sender p).mono fun events result hexchanges => ?_)
    obtain ⟨answer, hevents, rfl⟩ := hexchanges.exchanges_eq
    rw [transmitted, hevents]
    cases answer with
    | error report => exact .inr ⟨report, rfl, List.prefix_refl _⟩
    | ok response => exact .inl ⟨[response], rfl, rfl⟩
  | governed hgoverning hparse htargets =>
    exact (notes_collect hgoverning hparse).mono fun events result hvisits =>
      hvisits.sendsAll.transmits htargets

/-! ## Faithfulness -/

theorem Action.adapt_ok {φ : Type} {f : ε → φ} {x : Action σ ε α} {s s' : Session σ} {a : α}
    (h : x s = (.ok a, s')) : ExceptT.adapt f x s = (.ok a, s') := by
  change ((x s).1.mapError f, (x s).2) = _
  rw [h]
  rfl

/-- Interceptors that only watch leave a request alone. -/
theorem foldlM_observers {observers : List (Interceptor σ)}
    (h : ∀ i ∈ observers, i.beforeSend = pure) (p : Request) (s : Session σ) :
    observers.foldlM (fun r i => ExceptT.adapt SendError.scope (i.beforeSend r)) p s =
      (.ok p, s) := by
  induction observers with
  | nil => rfl
  | cons i observers ih =>
    rw [List.foldlM_cons, h i List.mem_cons_self]
    exact ih fun j hj => h j (List.mem_cons_of_mem _ hj)

/-- A sender that puts the effective scope into requests prepares what is planned by a dry run. -/
theorem exists_prepare_of_dryRun {c : Catalog} {r : Request} {s : Session σ}
    {requests : List Request} (h : (c.dryRun r s).1 = .ok requests)
    (transport : Request → Action σ Report Response) {observers : List (Interceptor σ)}
    (hobservers : ∀ i ∈ observers, i.beforeSend = pure) :
    ∃ p s', (Sender.mk c transport (.injector :: observers)).prepare r s = (.ok p, s') ∧
      c.Plans p requests := by
  rcases hinject : Interceptor.injector.beforeSend r s with ⟨e | p, s'⟩
  · rw [Catalog.dryRun, Action.bind_error hinject] at h
    cases h
  · rw [Catalog.dryRun, Action.bind_ok hinject] at h
    refine ⟨p, s', ?_, plans_of_retargeted h⟩
    rw [Sender.prepare, List.foldlM_cons, Action.bind_ok (Action.adapt_ok hinject)]
    exact foldlM_observers hobservers p s'

namespace Catalog

/-- A dry run is faithful to what a sender with the same injector does, whatever its transport is
and whoever else watches. Sending transmits some of the requests, in their order, and sending to all
endpoints transmits all of them, up to the first that the transport fails at. Nothing but the
transport fails. -/
theorem transmits_of_dryRun {c : Catalog} {r : Request} {s : Session σ} {requests : List Request}
    (hdry : (c.dryRun r s).1 = .ok requests) (transport : Request → Action σ Report Response)
    {observers : List (Interceptor σ)} (hobservers : ∀ i ∈ observers, i.beforeSend = pure) :
    let sender : Sender σ := ⟨c, transport, .injector :: observers⟩
    let sent := sender.traced.send r (s.traced [])
    let sentAll := sender.traced.sendAll r (s.traced [])
    ((sent.1, sent.2.untraced) = sender.send r s ∧
        (transmitted sent.2.trace).Sublist requests ∧
        ∀ error, sent.1 = .error error → ∃ report, error = .transport report) ∧
      (sentAll.1, sentAll.2.untraced) = sender.sendAll r s ∧
        ((∃ responses, sentAll.1 = .ok responses ∧ transmitted sentAll.2.trace = requests) ∨
          ∃ report, sentAll.1 = .error (.transport report) ∧
            transmitted sentAll.2.trace <+: requests) := by
  intro sender sent sentAll
  obtain ⟨p, s', hprepare, hplans⟩ := exists_prepare_of_dryRun hdry transport hobservers
  constructor
  · obtain ⟨events, noted, hrun, hexchanges, hdelivers⟩ :=
      exists_of_prepare hprepare sender.traced.dispatcher.call sender.dispatcher.call
        (notes_call sender p)
    rw [← send_eq, ← send_eq] at hrun
    rw [← send_eq] at hdelivers
    rw [show sent = _ from hrun, Session.trace_traced, transmitted, hexchanges]
    exact ⟨rfl, hdelivers.transmits hplans⟩
  · obtain ⟨events, noted, hrun, hexchanges, htransmits⟩ :=
      exists_of_prepare hprepare (fun p => (·.getD []) <$> sender.traced.collector.call p)
        (fun p => (·.getD []) <$> sender.collector.call p) (notes_collect_of_plans hplans)
    rw [← sendAll_eq, ← sendAll_eq] at hrun
    rw [← sendAll_eq] at htransmits
    rw [show sentAll = _ from hrun, Session.trace_traced, transmitted, hexchanges]
    exact ⟨rfl, htransmits⟩

/-! Three clouds serve a request, and the second one cannot be reached. -/

namespace Outage

def catalog : Catalog :=
  ⟨[⟨"compute", "A", "http://a", some "public"⟩, ⟨"compute", "B", "http://b", some "public"⟩,
    ⟨"compute", "C", "http://c", some "public"⟩]⟩

def transport (r : Request) : Action Nat Report Response := fun s =>
  (if r.url = "http://b/v2" then .error ⟨"reset", []⟩ else .ok ⟨200, r.url, ∅, ""⟩, s)

/-- Counts the responses. -/
def counter : Interceptor Nat where
  afterReceive _ _ s := ((), { s with shared := s.shared + 1 })

def sender : Sender Nat := ⟨catalog, transport, [.injector, counter]⟩

def request : Request := ⟨"GET", "http://a/v2", ∅⟩

def session : Session Nat := ⟨.ofShell (.ofList [("compute", "A | B | C")]), 0⟩

/-- What the request is to be sent as. -/
def planned : List Request :=
  ["http://a/v2", "http://b/v2", "http://c/v2"].map fun url =>
    ⟨"GET", url, ⟨[("X-Scope", "\x7b\"compute\":\"A | B | C\"\x7d")]⟩⟩

theorem dryRun_eq : (catalog.dryRun request session).1 = .ok planned := by cbv

/-- Sending is done with the first answer. -/
theorem sent_eq :
    let sent := sender.traced.send request (session.traced [])
    (sent.1, transmitted sent.2.trace) =
      (.ok (some ⟨200, "http://a/v2", ∅, ""⟩), planned.take 1) := by cbv

/-- Sending to all endpoints fails at the second one. -/
theorem sentAll_eq :
    let sentAll := sender.traced.sendAll request (session.traced [])
    (sentAll.1, transmitted sentAll.2.trace) =
      (.error (.transport ⟨"reset", []⟩), planned.take 2) := by cbv

end Outage

/-- Of what is planned, one request is transmitted by sending, and two by sending to all endpoints,
which fails with the second one. -/
theorem transmits_of_dryRun_reset :
    let planned := Outage.planned
    let sent := Outage.sender.traced.send Outage.request (Outage.session.traced [])
    let sentAll := Outage.sender.traced.sendAll Outage.request (Outage.session.traced [])
    (Outage.catalog.dryRun Outage.request Outage.session).1 = .ok planned ∧
      (∀ i ∈ [Outage.counter], i.beforeSend = pure) ∧
      sent.1 = .ok (some ⟨200, "http://a/v2", ∅, ""⟩) ∧
      transmitted sent.2.trace = planned.take 1 ∧ (transmitted sent.2.trace).Sublist planned ∧
      sentAll.1 = .error (.transport ⟨"reset", []⟩) ∧
      transmitted sentAll.2.trace = planned.take 2 ∧ transmitted sentAll.2.trace <+: planned := by
  intro planned sent sentAll
  have hobservers : ∀ i ∈ [Outage.counter], i.beforeSend = pure := by
    intro i hi
    rw [List.mem_singleton.mp hi]
    rfl
  obtain ⟨hresponse, hsent⟩ := Prod.mk.inj Outage.sent_eq
  obtain ⟨hfailed, hsentAll⟩ := Prod.mk.inj Outage.sentAll_eq
  obtain ⟨⟨-, hsublist, -⟩, -, hall⟩ :=
    transmits_of_dryRun Outage.dryRun_eq Outage.transport hobservers
  refine ⟨Outage.dryRun_eq, hobservers, hresponse, hsent, hsublist, hfailed, hsentAll, ?_⟩
  rcases hall with ⟨responses, hdone, -⟩ | ⟨report, -, hprefix⟩
  · cases hfailed.symm.trans hdone
  · exact hprefix

end Catalog

end CloudScope
