import CloudScope.Dispatch.Sender
import CloudScope.Proofs.Catalog.Endpoints
import CloudScope.Proofs.Dispatch.Trace

/-!
# Refusals that no dispatch comes to

Which characters stand in the names of an expression, which of them make a value compound, and which
endpoints may stand in a frame are three rules of their own. They agree on every value that is
accepted, so no dispatch comes to a frame that is refused, nor, where it retargets requests, to an
endpoint that is refused as compound. Whatever were done in such a case, the dispatch would come to
the same (`Expr.no_refusal_of_parse`).
-/

namespace CloudScope

variable {σ ε α τ : Type}

/-! ## Values for single clouds -/

namespace Expr

variable {c : Char} {s : List Char} {v : String} {e : Expr}

/-- A symbol stands among the tokens of a text. -/
theorem mem_tokens_of_symbol {token : Token} (h : symbol? c = some token) (hc : c ∈ s) :
    token ∈ tokens s := by
  obtain ⟨before, after, rfl⟩ := List.append_of_mem hc
  rw [tokens_append_of_not (symbol?_eq_some h).2.1, tokens_cons_of_symbol h]
  exact List.mem_append_right _ List.mem_cons_self

/-- The characters that make a value compound are no part of any expression, or operators. -/
theorem isLegal_or_symbol_of_operatorChars (h : c ∈ operatorChars) :
    isLegal c = false ∨ ∃ op, symbol? c = some (.operator op) := by
  simp only [operatorChars, List.mem_cons, List.not_mem_nil, or_false] at h
  rcases h with rfl | rfl | rfl
  · exact .inr ⟨.and, rfl⟩
  · exact .inr ⟨.or, rfl⟩
  · exact .inl (by decide)

/-- A value that is accepted is for a single cloud if it names one endpoint. -/
theorem isAtomic_iff_of_parse (h : parse v = .ok e) :
    isAtomic v = true ↔ ∃ name, e = .endpoint name := by
  refine ⟨exists_eq_endpoint h, ?_⟩
  rintro ⟨name, rfl⟩
  refine List.all_eq_true.mpr fun c hc => ?_
  rw [Bool.not_eq_true', List.contains_eq_mem, decide_eq_false_iff_not]
  intro hoperator
  rcases isLegal_or_symbol_of_operatorChars hoperator with hlegal | ⟨op, hsymbol⟩
  · rw [(parse_eq_ok_iff_derives.mp h).1 c hc] at hlegal
    cases hlegal
  · have hop : op ∈ (tokens v.toList).filterMap Token.operator? :=
      List.mem_filterMap.mpr ⟨_, mem_tokens_of_symbol hsymbol hc, rfl⟩
    rw [← operators_eq_of_parse h] at hop
    cases hop

theorem ne_empty_of_mem_endpoints {name : String} (h : parse v = .ok e)
    (hname : name ∈ e.endpoints) : name ≠ "" := by
  rw [endpoints_eq_names_of_parse h] at hname
  rintro rfl
  exact toList_ne_nil_of_mem_names hname rfl

end Expr

/-! ## Requests for single clouds -/

namespace Catalog

variable {c : Catalog} {r : Request} {endpoint name : String}

theorem identityFor_ne_notAtomic {serviceType : String} {scope : Scope} :
    c.identityFor serviceType scope ≠ .error (.invalidScope (.notAtomic name)) := by
  intro h
  rw [identityFor] at h
  split at h
  · rcases hadmin : c.adminIdentity scope with e | s <;> rw [hadmin] at h <;> cases h
    unfold adminIdentity at hadmin
    grind
  · cases h

/-- The only endpoint that is refused as compound is a compound one. -/
theorem eq_of_retarget_eq_notAtomic
    (h : c.retarget r (some endpoint) = .error (.invalidScope (.notAtomic name))) :
    endpoint = name ∧ isAtomic name = false := by
  obtain ⟨e, hscope⟩ | halone | ⟨service, rest, scope, hmatch, hscope⟩ := c.presents_cases r
  · obtain ⟨_, _, _, rfl⟩ := Headers.exists_malformed_of_scope? hscope
    cases (retarget_of_scope?_eq_error hscope c _).symm.trans h
  · cases (retarget_of_leavesAlone halone _).symm.trans h
  rw [retarget_of_presents hmatch hscope] at h
  rcases bind_eq_error_iff.mp h with hcloud | ⟨cloud, _, h⟩
  · rw [targetCloud] at hcloud
    split at hcloud
    · cases hcloud
    · next hcompound =>
      cases hcloud
      exact ⟨rfl, Bool.eq_false_iff.mpr hcompound⟩
  rcases bind_eq_error_iff.mp h with hfind | ⟨target, _, h⟩
  · rcases hsought : c.find (.siblingOf service cloud) with sought | s <;> rw [hsought] at hfind <;>
      cases hfind
  rcases bind_eq_error_iff.mp h with hidentity | ⟨identity, _, h⟩
  · exact (identityFor_ne_notAtomic hidentity).elim
  rcases bind_eq_error_iff.mp h with hheaders | ⟨headers, _, h⟩
  · obtain ⟨_, _, he⟩ := exists_malformed_of_retargetHeaders hheaders
    cases he
  · cases h

theorem retarget_ne_notAtomic (h : isAtomic endpoint = true) :
    c.retarget r (some endpoint) ≠ .error (.invalidScope (.notAtomic name)) := by
  intro hrefused
  obtain ⟨rfl, hcompound⟩ := eq_of_retarget_eq_notAtomic hrefused
  rw [h] at hcompound
  cases hcompound

/-- Retargets a request to an endpoint, if one that is refused as compound led to `refused`. -/
def transformOr (c : Catalog) (ofScopeError : ScopeError → ε)
    (refused : String → Action σ ε Request) (endpoint : String) (r : Request) :
    Action σ ε Request :=
  match c.retarget r (some endpoint) with
  | .error (.invalidScope (.notAtomic name)) => refused name
  | result => .ofExcept (result.mapError ofScopeError)

/-- What a dispatch of requests does: a refusal is told to the caller. -/
theorem transform_dispatcher (c : Catalog) (ofScopeError : ScopeError → ε)
    (leaf : Request → Action σ ε τ) : (c.dispatcher ofScopeError leaf).transform =
      c.transformOr ofScopeError fun name =>
        .ofExcept (.error (ofScopeError (.invalidScope (.notAtomic name)))) := by
  funext endpoint r
  simp only [dispatcher, transformOr]
  split
  · next hrefused =>
    rw [hrefused]
    rfl
  · rfl

theorem transformOr_of_isAtomic (h : isAtomic endpoint = true) (c : Catalog)
    (ofScopeError : ScopeError → ε) (refused : String → Action σ ε Request) (r : Request) :
    c.transformOr ofScopeError refused endpoint r =
      .ofExcept ((c.retarget r (some endpoint)).mapError ofScopeError) := by
  rw [transformOr]
  split
  · next hrefused => exact (retarget_ne_notAtomic h hrefused).elim
  · rfl

end Catalog

/-! ## Evaluation under other leaves -/

/-- Reading a node runs the leaves of its endpoints, and no other ones. -/
theorem Evaluator.read_congr (ev : Evaluator σ ε τ)
    {leaf : (place : List Side) → (endpoint : String) → Action σ ε τ} {e : Expr}
    (h : ∀ place, ∀ name ∈ e.endpoints, leaf place name = ev.leaf place name) :
    ∀ place, { ev with leaf }.read e place = ev.read e place := by
  induction e with
  | endpoint name =>
    intro place
    funext n s
    rcases n with ⟨_ | value⟩
    · rw [read_endpoint, read_endpoint]
      simp only [h place name List.mem_cons_self]
    · rfl
  | combine op l r ihl ihr =>
    have hl := ihl fun place name hname => h place name (List.mem_append_left _ hname)
    have hr := ihr fun place name hname => h place name (List.mem_append_right _ hname)
    intro place
    funext n s
    rcases n with _ | ⟨_ | value, left, right⟩
    · rw [read_combine, read_combine, hl, hr]
    · rfl

theorem Evaluator.evaluate_congr (ev : Evaluator σ ε τ)
    {leaf : (place : List Side) → (endpoint : String) → Action σ ε τ} {e : Expr}
    (h : ∀ place, ∀ name ∈ e.endpoints, leaf place name = ev.leaf place name) :
    { ev with leaf }.evaluate e = ev.evaluate e := by
  funext s
  rw [evaluate, evaluate, ev.read_congr h]

/-! ## Dispatches with other refusals -/

namespace Dispatcher

/-- Runs the leaf for an endpoint, if a frame that is refused led to `refused`. -/
def runLeafOr (d : Dispatcher σ ε α τ) (refused : ScopeError → Action σ ε τ)
    (serviceType : String) (args : α) (endpoint : String) : Action σ ε τ := fun s =>
  match s.context.push serviceType endpoint with
  | .error e => refused e s
  | .ok (guard, context) =>
    let (result, s) := (do d.leaf (← d.transform endpoint args)) { s with context }
    (result, { s with context := s.context.release guard })

/-- What a dispatch does: a refusal is told to the caller. -/
theorem runLeaf_eq (d : Dispatcher σ ε α τ) (serviceType : String) (args : α) (endpoint : String) :
    d.runLeaf serviceType args endpoint =
      d.runLeafOr (fun e => .ofExcept (.error (d.ofScopeError e))) serviceType args endpoint :=
  rfl

/-- The dispatch of a call, if a frame that is refused led to `refused`. -/
def dispatchOr (d : Dispatcher σ ε α τ) (refused : ScopeError → Action σ ε τ)
    (serviceType expression : String) (args : α) : Action σ ε (Option τ) :=
  match Expr.parse expression with
  | .error e => throw (d.ofScopeError (.parse e))
  | .ok e =>
    { d.evaluator serviceType args with
      leaf := fun _ => d.runLeafOr refused serviceType args }.evaluate e

variable {v : String} {e : Expr}

theorem dispatchOr_of_parse (h : Expr.parse v = .ok e) (d : Dispatcher σ ε α τ)
    (refused : ScopeError → Action σ ε τ) (serviceType : String) (args : α) :
    d.dispatchOr refused serviceType v args = d.dispatch serviceType v args := by
  rw [dispatchOr, dispatch, h]
  refine (d.evaluator serviceType args).evaluate_congr fun _ name hname => ?_
  change d.runLeafOr refused serviceType args name = d.runLeaf serviceType args name
  funext s
  rw [runLeaf_eq, runLeafOr, runLeafOr, Expr.push_of_mem_endpoints h hname]

/-- Only what the transform does for the endpoints of an expression matters to its dispatch. -/
theorem dispatch_congr (h : Expr.parse v = .ok e) (d : Dispatcher σ ε α τ)
    {transform : String → α → Action σ ε α} (serviceType : String) {args : α}
    (htransform : ∀ name ∈ e.endpoints, transform name args = d.transform name args) :
    { d with transform }.dispatch serviceType v args = d.dispatch serviceType v args := by
  rw [dispatch, dispatch, h]
  refine (d.evaluator serviceType args).evaluate_congr fun _ name hname => ?_
  change { d with transform }.runLeaf serviceType args name = d.runLeaf serviceType args name
  simp only [runLeaf, htransform name hname]

theorem dispatch_transformOr_of_parse (h : Expr.parse v = .ok e) (d : Dispatcher σ ε Request τ)
    (c : Catalog) (refused : String → Action σ ε Request) (serviceType : String) (r : Request) :
    { d with transform := c.transformOr d.ofScopeError refused }.dispatch serviceType v r =
      { d with transform := (c.dispatcher d.ofScopeError d.leaf).transform }.dispatch
        serviceType v r := by
  refine dispatch_congr h { d with transform := (c.dispatcher d.ofScopeError d.leaf).transform }
    serviceType fun name hname => ?_
  have hatomic := Expr.isAtomic_of_mem_endpoints h hname
  rw [Catalog.transform_dispatcher]
  simp only [Catalog.transformOr_of_isAtomic hatomic]

end Dispatcher

/-- A value that is accepted is for a single cloud exactly if it is one endpoint, and each endpoint
of it is a name of a single cloud, may stand in any frame, and is not refused as compound by any
request. So it makes no difference to a dispatch what is done where a frame is refused, nor to one
that retargets requests what is done where an endpoint is refused as compound. -/
theorem Expr.no_refusal_of_parse {v : String} {e : Expr} (h : parse v = .ok e) :
    (isAtomic v = true ↔ ∃ name, e = .endpoint name) ∧
    (∀ name ∈ e.endpoints, name ≠ "" ∧ isAtomic name = true ∧
      (∀ (ctx : Context) (serviceType : String), ctx.push serviceType name =
        .ok (⟨ctx.depth⟩, { ctx with frames := ctx.frames ++ [⟨serviceType, name⟩] })) ∧
      ∀ (c : Catalog) (r : Request) (name' : String),
        c.retarget r (some name) ≠ .error (.invalidScope (.notAtomic name'))) ∧
    (∀ {σ ε α τ : Type} (d : Dispatcher σ ε α τ) (refused : ScopeError → Action σ ε τ)
      (serviceType : String) (args : α),
      d.dispatchOr refused serviceType v args = d.dispatch serviceType v args) ∧
    ∀ {σ ε τ : Type} (d : Dispatcher σ ε Request τ) (c : Catalog)
      (refused : String → Action σ ε Request) (serviceType : String) (r : Request),
      { d with transform := c.transformOr d.ofScopeError refused }.dispatch serviceType v r =
        { d with transform := (c.dispatcher d.ofScopeError d.leaf).transform }.dispatch
          serviceType v r := by
  refine ⟨isAtomic_iff_of_parse h, fun name hname => ?_, Dispatcher.dispatchOr_of_parse h,
    Dispatcher.dispatch_transformOr_of_parse h⟩
  have hatomic := isAtomic_of_mem_endpoints h hname
  exact ⟨ne_empty_of_mem_endpoints h hname, hatomic,
    fun ctx serviceType => push_of_mem_endpoints h hname serviceType ctx,
    fun c r name' => Catalog.retarget_ne_notAtomic hatomic⟩

theorem Expr.no_refusal_of_parse_nested :
    parse "A&(B | a.b:1)" = .ok (.combine .and (.endpoint "A")
        (.combine .or (.endpoint "B") (.endpoint "a.b:1"))) ∧
      isAtomic "A&(B | a.b:1)" = false ∧
      (∀ name ∈ ["A", "B", "a.b:1"], isAtomic name = true ∧
        (∅ : Context).push "compute" name = .ok (⟨0⟩, ⟨none, [⟨"compute", name⟩]⟩)) ∧
      ∀ (d : Dispatcher Unit String Unit Nat) (refused : ScopeError → Action Unit String Nat),
        d.dispatchOr refused "compute" "A&(B | a.b:1)" () =
          d.dispatch "compute" "A&(B | a.b:1)" () := by
  have hparse : parse "A&(B | a.b:1)" = .ok (.combine .and (.endpoint "A")
      (.combine .or (.endpoint "B") (.endpoint "a.b:1"))) := by cbv
  obtain ⟨hatomic, hnames, hdispatch, -⟩ := no_refusal_of_parse hparse
  refine ⟨hparse, Bool.eq_false_iff.mpr fun h => ?_, fun name hname => ?_,
    fun d refused => hdispatch d refused "compute" ()⟩
  · obtain ⟨_, hendpoint⟩ := hatomic.mp h
    cases hendpoint
  · obtain ⟨-, hsingle, hpush, -⟩ := hnames name hname
    exact ⟨hsingle, hpush ∅ "compute"⟩

end CloudScope
