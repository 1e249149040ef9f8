import CloudScope.Proofs.Catalog.Forwarding
import CloudScope.Proofs.Dispatch.DryRun
import CloudScope.Proofs.Dispatch.SingleCloud

/-!
# Calls inside a leaf

A leaf runs inside a frame for its endpoint. The injector puts the shell scope, narrowed to the
endpoint, into the requests that are sent from there, so these go to no other cloud. But the scope
is written as it is and read with its escapes resolved, so this holds as long as no slot of it looks
as if it held an escape (`Sender.send_injected`).
-/

namespace CloudScope

open Sender

variable {σ : Type}

/-! ## What is injected -/

section

variable {ctx : Context} {shell : Scope} {frame : Frame} {r p : Request} {s s' : Session σ}

theorem Context.effectiveScope_of_peek? (hshell : ctx.shell = some shell)
    (hpeek : ctx.peek? = some frame) :
    ctx.effectiveScope = .ok (shell.insert frame.serviceType frame.endpoint) := by
  rw [effectiveScope, shellScope, hshell, hpeek]
  rfl

/-- The injector leaves the session alone, and writes the scope of the innermost frame. -/
theorem Interceptor.eq_of_injector (hshell : s.context.shell = some shell)
    (hpeek : s.context.peek? = some frame)
    (hinject : injector.beforeSend r s = (.ok p, s')) :
    let scope := shell.insert frame.serviceType frame.endpoint
    (r.headers.writeScope scope).1 = .ok () ∧
      p = { r with headers := (r.headers.writeScope scope).2 } ∧ s' = s := by
  intro scope
  have heffective : s.context.effectiveScope = .ok scope :=
    Context.effectiveScope_of_peek? hshell hpeek
  simp only [injector, Context.inject, heffective] at hinject
  rcases hwrite : r.headers.writeScope scope with ⟨e | ⟨⟩, headers⟩ <;> rw [hwrite] at hinject <;>
    cases hinject
  exact ⟨rfl, rfl, rfl⟩

theorem Sender.prepare_injector (c : Catalog) (transport : Request → Action σ Report Response)
    (hinject : Interceptor.injector.beforeSend r s = (.ok p, s')) :
    (Sender.mk c transport [.injector]).prepare r s = (.ok p, s') := by
  rw [prepare, List.foldlM_cons, Action.bind_ok (Action.adapt_ok hinject)]
  rfl

end

/-! ## Where it goes -/

namespace Catalog

variable {c : Catalog} {p q : Request} {service : Service} {rest : List Char} {endpoint : String}
  {scope : Scope}

/-- Whether an address is that of a service of a type in a cloud, with some text behind it. -/
def Reaches (c : Catalog) (serviceType cloud : String) (rest : List Char) (url : String) : Prop :=
  ∃ target ∈ c.services, target.serviceType = serviceType ∧ target.cloud = cloud ∧
    url = target.url ++ String.ofList rest

theorem reaches_of_retarget (hmatch : c.matchUrl? p.url = some (service, rest))
    (hscope : p.headers.scope? = .ok (some scope)) (h : c.retarget p (some endpoint) = .ok q) :
    c.Reaches service.serviceType endpoint rest q.url := by
  obtain ⟨cloud, target, hcloud, hfind, hurl, -⟩ :=
    (exists_retarget_iff hmatch hscope).mp ⟨q, h, rfl⟩
  cases (targetCloud_eq_ok_iff.mp hcloud).1
  have hmatches : (Query.siblingOf service endpoint).Matches target := by
    simpa using List.find?_some hfind
  obtain ⟨-, htype, hcloud⟩ := hmatches
  exact ⟨target, List.mem_of_find?_eq_some hfind, htype, hcloud, hurl.symm⟩

end Catalog

theorem Expr.parse_of_mem_endpoints {value name : String} {e : Expr}
    (hparse : parse value = .ok e) (hname : name ∈ e.endpoints) :
    parse name = .ok (.endpoint name) := by
  rw [endpoints_eq_names_of_parse hparse] at hname
  exact parse_of_name (String.toList_eq_nil_iff.not.mp (toList_ne_nil_of_mem_names hname))
    (all_isNameChar_of_mem_names hname)

namespace Sender

/-- In a frame for an endpoint of an expression, the injector writes the shell scope with the
endpoint in the slot of the frame, and all other slots as they are. This is what is read back just
if its text holds no escape. A request for a service of the frame's type is then transmitted once
at most, and to no service but one of that type at the endpoint. -/
theorem send_injected (c : Catalog) (transport : Request → Action σ Report Response)
    {r p : Request} {s s' : Session σ} {shell : Scope} {serviceType endpoint value : String}
    {e : Expr} (hshell : s.context.shell = some shell)
    (hframe : s.context.peek? = some ⟨serviceType, endpoint⟩)
    (hparse : Expr.parse value = .ok e) (hname : endpoint ∈ e.endpoints)
    (hinject : Interceptor.injector.beforeSend r s = (.ok p, s')) :
    let scope := shell.insert serviceType endpoint
    scope.get? serviceType = some endpoint ∧
    (∀ other, other ≠ serviceType → scope.get? other = shell.get? other) ∧
    (p.headers.scope? = .ok (some scope) ↔ ¬ Percent.HasEscape scope.text.toList) ∧
    (¬ Percent.HasEscape scope.text.toList → ∀ service rest,
      c.matchUrl? r.url = some (service, rest) → service.serviceType = serviceType →
      let sender : Sender σ := ⟨c, transport, [.injector]⟩
      let run := sender.traced.send r (s.traced [])
      (run.1, run.2.untraced) = sender.send r s ∧
        (transmitted run.2.trace).length ≤ 1 ∧
        ∀ q ∈ transmitted run.2.trace, c.Reaches serviceType endpoint rest q.url) := by
  intro scope
  obtain ⟨hwrite, hp, rfl⟩ := Interceptor.eq_of_injector hshell hframe hinject
  have hslot : scope.get? serviceType = some endpoint := shell.get?_insert_self ..
  have hread : p.headers.scope? = .ok (some scope) ↔ ¬ Percent.HasEscape scope.text.toList := by
    rw [hp]
    exact Headers.scope?_writeScope_iff r.headers scope hwrite
  refine ⟨hslot, fun other hne => shell.get?_insert_of_ne hne .., hread, ?_⟩
  rintro hescape service rest hmatch rfl sender run
  have hscope := hread.mpr hescape
  have hmatch : c.matchUrl? p.url = some (service, rest) := by rwa [hp]
  have hconveys : Conveys (c.retarget p (some endpoint)) run.2.trace run.1 :=
    conveys_of_parse_endpoint (prepare_injector c transport hinject)
      (Catalog.governing?_eq_some_iff.mpr ⟨service, rest, scope, hmatch, hscope, rfl, hslot⟩)
      (Expr.parse_of_mem_endpoints hparse hname)
  refine ⟨(sends_send sender r s').1, ?_⟩
  rw [hconveys.transmitted_eq]
  cases hretarget : c.retarget p (some endpoint) with
  | error e => simp [Except.toOption]
  | ok q => simpa [Except.toOption] using Catalog.reaches_of_retarget hmatch hscope hretarget

theorem send_injected_unset :
    let c : Catalog := ⟨[⟨"compute", "A", "http://a", none⟩, ⟨"compute", "B", "http://b", none⟩]⟩
    let transport : Request → Action Nat Report Response := fun r => pure ⟨200, r.url, ∅, ""⟩
    let sender : Sender Nat := ⟨c, transport, [.injector]⟩
    let shell : Scope := .ofList [("image", "A|B")]
    let s : Session Nat := ⟨⟨some shell, [⟨"image", "A"⟩, ⟨"compute", "B"⟩]⟩, 0⟩
    let scope := shell.insert "compute" "B"
    let r : Request := ⟨"GET", "http://a/v2", ∅⟩
    let p : Request :=
      ⟨"GET", "http://a/v2", ⟨[("X-Scope", "\x7b\"compute\":\"B\",\"image\":\"A|B\"\x7d")]⟩⟩
    let run := sender.traced.send r (s.traced [])
    s.context.shell = some shell ∧ s.context.peek? = some ⟨"compute", "B"⟩ ∧
      Expr.parse "A&B" = .ok (.combine .and (.endpoint "A") (.endpoint "B")) ∧
      "B" ∈ ["A", "B"] ∧ Interceptor.injector.beforeSend r s = (.ok p, s) ∧
      p.headers.scope? = .ok (some scope) ∧
      c.matchUrl? r.url = some (⟨"compute", "A", "http://a", none⟩, "/v2".toList) ∧
      (transmitted run.2.trace).length ≤ 1 ∧
        ∀ q ∈ transmitted run.2.trace, c.Reaches "compute" "B" "/v2".toList q.url := by
  intro c transport sender shell s scope r p run
  have hparse : Expr.parse "A&B" = .ok (.combine .and (.endpoint "A") (.endpoint "B")) := by cbv
  have hname : "B" ∈ ["A", "B"] := by decide
  have hinject : Interceptor.injector.beforeSend r s = (.ok p, s) := by cbv
  have hescape : ¬ Percent.HasEscape scope.text.toList := by
    have htext : scope.text.toList = "\x7b\"compute\":\"B\",\"image\":\"A|B\"\x7d".toList := by cbv
    exact Percent.not_hasEscape_of_notMem (by rw [htext]; decide)
  have hmatch : c.matchUrl? r.url = some (⟨"compute", "A", "http://a", none⟩, "/v2".toList) := by
    cbv
  have hshell : s.context.shell = some shell := rfl
  have hframe : s.context.peek? = some ⟨"compute", "B"⟩ := rfl
  obtain ⟨-, -, hread, hpinned⟩ := send_injected c transport hshell hframe hparse hname hinject
  exact ⟨hshell, hframe, hparse, hname, hinject, hread.mpr hescape, hmatch,
    (hpinned hescape _ _ hmatch rfl).2⟩

/-- A value in another slot that looks as if it held escapes is read as a second value for the slot
of the frame, so that the request goes to another cloud. -/
theorem send_injected_of_escape :
    let c : Catalog := ⟨[⟨"compute", "A", "http://a", none⟩, ⟨"compute", "B", "http://b", none⟩]⟩
    let transport : Request → Action Nat Report Response := fun r => pure ⟨200, r.url, ∅, ""⟩
    let sender : Sender Nat := ⟨c, transport, [.injector]⟩
    let shell : Scope := .ofList [("compute", "A&B"), ("image", "x%22,%22compute%22:%22B")]
    let s : Session Nat := ⟨⟨some shell, [⟨"compute", "A"⟩]⟩, 0⟩
    let r : Request := ⟨"GET", "http://a/v2", ∅⟩
    let p : Request := ⟨"GET", "http://a/v2", ⟨[("X-Scope",
      "\x7b\"compute\":\"A\",\"image\":\"x%22,%22compute%22:%22B\"\x7d")]⟩⟩
    let read : Scope := ⟨[("compute", "B"), ("image", "x")], by decide⟩
    let run := sender.traced.send r (s.traced [])
    Expr.parse "A&B" = .ok (.combine .and (.endpoint "A") (.endpoint "B")) ∧
      Interceptor.injector.beforeSend r s = (.ok p, s) ∧ p.headers.scope? = .ok (some read) ∧
      c.matchUrl? r.url = some (⟨"compute", "A", "http://a", none⟩, "/v2".toList) ∧
      transmitted run.2.trace =
        [⟨"GET", "http://b/v2", ⟨[("X-Scope", "\x7b\"compute\":\"B\",\"image\":\"x\"\x7d")]⟩⟩] := by
  intro c transport sender shell s r p read run
  have hparse : Expr.parse "A&B" = .ok (.combine .and (.endpoint "A") (.endpoint "B")) := by cbv
  have hinject : Interceptor.injector.beforeSend r s = (.ok p, s) := by cbv
  have hdecode : Percent.decode (Text.trim
      "\x7b\"compute\":\"A\",\"image\":\"x%22,%22compute%22:%22B\"\x7d".toList) =
        .ok "\x7b\"compute\":\"A\",\"image\":\"x\",\"compute\":\"B\"\x7d".toList := by cbv
  have hjson : Json.parse "\x7b\"compute\":\"A\",\"image\":\"x\",\"compute\":\"B\"\x7d" =
      .ok (.object [("compute", .string "B"), ("image", .string "x")]) := by cbv
  have hread : Scope.ofText (String.ofList
      "\x7b\"compute\":\"A\",\"image\":\"x\",\"compute\":\"B\"\x7d".toList) = .ok read := by
    rw [String.ofList_toList, Scope.ofText, hjson]
    rfl
  have hscope : p.headers.scope? = .ok (some read) :=
    Headers.scope?_eq_ok_iff.mpr
      (.header (Headers.carried?_eq_ok_some_iff.mpr ⟨_, rfl, hdecode⟩) hread)
  have hmatch : c.matchUrl? r.url = some (⟨"compute", "A", "http://a", none⟩, "/v2".toList) := by
    cbv
  have hgoverning : c.governing? p = .ok (some ("compute", "B")) :=
    Catalog.governing?_eq_some_iff.mpr ⟨_, _, read, hmatch, hscope, rfl, rfl⟩
  have hsingle : Expr.parse "B" = .ok (.endpoint "B") := by cbv
  let w : c.Route p (some "B") :=
    { service := ⟨"compute", "A", "http://a", none⟩
      rest := "/v2".toList
      scope := read
      cloud := "B"
      target := ⟨"compute", "B", "http://b", none⟩
      identity := none
      headers := ⟨[("X-Scope", "\x7b\"compute\":\"B\",\"image\":\"x\"\x7d")]⟩
      matched := hmatch
      presented := hscope
      named := by cbv
      found := by cbv
      identified := by cbv
      written := by rfl }
  have hurl : "http://b/v2" = "http://b" ++ String.ofList "/v2".toList := by decide
  have hretarget : c.retarget p (some "B") = .ok ⟨"GET", "http://b/v2", w.headers⟩ :=
    Catalog.retarget_eq_ok_iff.mpr (.inr ⟨w, congrArg (Request.mk "GET" · w.headers) hurl⟩)
  have hsent := conveys_of_parse_endpoint (prepare_injector c transport hinject) hgoverning hsingle
  rw [hretarget] at hsent
  exact ⟨hparse, hinject, hscope, hmatch, hsent.transmitted_eq⟩

end Sender

end CloudScope
