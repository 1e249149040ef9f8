import CloudScope.Proofs.Dispatch.Sending

/-!
# Scopes of a single cloud

A scope value without operators is a single cloud to `Catalog.retarget`, which takes it as it is. A
sender reads it as an expression first: it may stand in blanks and parentheses, and a value that is
no name cannot be read at all. Both ways come to the same for names, and they part exactly where
what is read leads elsewhere (`Sender.send_of_isAtomic`).
-/

namespace CloudScope

open Sender

variable {σ : Type}

/-- A run of sending does what a target says: it transmits the request that the target is and no
other or, if there is none, it fails over that and transmits nothing. -/
inductive Sender.Conveys : Except ScopeError Request → List Event →
    Except SendError (Option Response) → Prop where
  | sent {r : Request} {events : List Event} {result : Except SendError (Option Response)} :
    transmitted events = [r] → Conveys (.ok r) events result
  | failed {e : ScopeError} {events : List Event} : transmitted events = [] →
    Conveys (.error e) events (.error (.scope e))

section

variable {c : Catalog} {interceptors : Nat} {p : Request} {endpoint : String}
  {events : List Event} {result : Except SendError (Option Response)}
  {target target' : Except ScopeError Request}

theorem Sender.Conveys.unique (h : Conveys target events result)
    (h' : Conveys target' events result) : target = target' := by
  cases h with
  | sent hevents =>
    cases h' with
    | sent hevents' =>
      exact congrArg Except.ok (List.singleton_inj.mp (hevents.symm.trans hevents'))
    | failed hnone => cases hevents.symm.trans hnone
  | failed hnone =>
    cases h' with
    | sent hevents => cases hevents.symm.trans hnone
    | failed _ => rfl

theorem Sender.Conveys.transmitted_eq (h : Conveys target events result) :
    transmitted events = target.toOption.toList := by
  cases h with
  | sent hevents | failed hevents => exact hevents

theorem Sender.Conveys.congr {events' : List Event} (h : Conveys target events result)
    (hevents : transmitted events' = transmitted events) : Conveys target events' result := by
  cases h with
  | sent hsent => exact .sent (hevents.trans hsent)
  | failed hnone => exact .failed (hevents.trans hnone)

theorem Visit.conveys {answer : Except SendError Response}
    (h : Visit c interceptors p endpoint events answer) (isTrue : Response → Bool) :
    Conveys (c.retarget p (some endpoint)) events (answer.map (Option.guard isTrue)) := by
  cases h with
  | astray hretarget =>
    rw [hretarget]
    exact .failed rfl
  | exchanged hretarget hexchanges =>
    obtain ⟨answer, hevents, -⟩ := hexchanges.exchanges_eq
    rw [hretarget]
    exact .sent (congrArg (List.map Prod.fst) hevents)

end

namespace Sender

/-! ## Prepared requests -/

section

variable {sender : Sender σ} {r p : Request} {s s' : Session σ} {serviceType value : String}

/-- What is transmitted for a request that was prepared is what the prepared one leads to. -/
theorem conveys_of_delivers {target : Except ScopeError Request}
    (hprepare : sender.prepare r s = (.ok p, s'))
    (h : ∀ events result, Delivers sender.catalog sender.interceptors.length p events result →
      Conveys target events result) :
    let run := sender.traced.send r (s.traced [])
    Conveys target run.2.trace run.1 := by
  intro run
  obtain ⟨events, noted, hrun, hexchanges, hdelivers⟩ :=
    exists_of_prepare hprepare sender.traced.dispatcher.call sender.dispatcher.call
      (notes_call sender p)
  rw [← send_eq, ← send_eq] at hrun
  rw [← send_eq] at hdelivers
  rw [show run = _ from hrun, Session.trace_traced]
  exact (h noted _ hdelivers).congr (congrArg (List.map Prod.fst) hexchanges)

theorem conveys_of_parse_error {e : Expr.ParseError}
    (hprepare : sender.prepare r s = (.ok p, s'))
    (hgoverning : sender.catalog.governing? p = .ok (some (serviceType, value)))
    (hparse : Expr.parse value = .error e) :
    let run := sender.traced.send r (s.traced [])
    Conveys (.error (.parse e)) run.2.trace run.1 := by
  refine conveys_of_delivers hprepare fun events result hdelivers => ?_
  obtain ⟨rfl, rfl⟩ := hdelivers.of_parse_error hgoverning hparse
  exact .failed rfl

theorem conveys_of_parse_endpoint {endpoint : String}
    (hprepare : sender.prepare r s = (.ok p, s'))
    (hgoverning : sender.catalog.governing? p = .ok (some (serviceType, value)))
    (hparse : Expr.parse value = .ok (.endpoint endpoint)) :
    let run := sender.traced.send r (s.traced [])
    Conveys (sender.catalog.retarget p (some endpoint)) run.2.trace run.1 := by
  refine conveys_of_delivers hprepare fun events result hdelivers => ?_
  obtain ⟨answer, hvisit, rfl⟩ := hdelivers.of_parse_endpoint hgoverning hparse
  exact hvisit.conveys _

end

/-! ## Values without operators -/

section

variable (c : Catalog) (transport : Request → Action σ Report Response) (r : Request)
  (s : Session σ) {serviceType value : String}

/-- A value without operators that can be read names one endpoint, which need not be the value.
Sending the request without interceptors does what retargeting it to that endpoint says, or fails
over the value. This is what retargeting it by its scope says if the value is a name, and else only
if the two say the same. -/
theorem send_of_isAtomic (hgoverning : c.governing? r = .ok (some (serviceType, value)))
    (hatomic : isAtomic value = true) :
    let sender : Sender σ := { catalog := c, transport }
    let run := sender.traced.send r (s.traced [])
    (run.1, run.2.untraced) = sender.send r s ∧
    (∀ e, Expr.parse value = .error e → Conveys (.error (.parse e)) run.2.trace run.1) ∧
    (∀ e, Expr.parse value = .ok e → ∃ name, e = .endpoint name ∧
      Conveys (c.retarget r (some name)) run.2.trace run.1) ∧
    (value ≠ "" ∧ value.toList.all Expr.isNameChar = true →
      Conveys (c.retarget r none) run.2.trace run.1) ∧
    (Conveys (c.retarget r none) run.2.trace run.1 ↔
      ∃ name, Expr.parse value = .ok (.endpoint name) ∧
        c.retarget r (some name) = c.retarget r none) := by
  intro sender run
  have hprepare : sender.prepare r s = (.ok r, s) := rfl
  have herror (e : Expr.ParseError) (hparse : Expr.parse value = .error e) :
      Conveys (.error (.parse e)) run.2.trace run.1 :=
    conveys_of_parse_error hprepare hgoverning hparse
  have hname (name : String) (hparse : Expr.parse value = .ok (.endpoint name)) :
      Conveys (c.retarget r (some name)) run.2.trace run.1 :=
    conveys_of_parse_endpoint hprepare hgoverning hparse
  refine ⟨(sends_send sender r s).1, herror, fun e hparse => ?_, ?_, ?_, ?_⟩
  · obtain ⟨name, rfl⟩ := Expr.exists_eq_endpoint hparse hatomic
    exact ⟨name, rfl, hname name hparse⟩
  · rintro ⟨hne, hchars⟩
    rw [Catalog.retarget_none_eq hgoverning hatomic]
    exact hname value (Expr.parse_of_name hne hchars)
  · intro hconveys
    cases hparse : Expr.parse value with
    | error e =>
      have hretarget := hconveys.unique (herror e hparse)
      obtain ⟨_, _, h⟩ | ⟨_, h⟩ | ⟨_, h⟩ := Catalog.cases_of_retarget_eq_error hretarget <;> cases h
    | ok e =>
      obtain ⟨name, rfl⟩ := Expr.exists_eq_endpoint hparse hatomic
      exact ⟨name, rfl, (hname name hparse).unique hconveys⟩
  · rintro ⟨name, hparse, hsame⟩
    rw [← hsame]
    exact hname name hparse

end

theorem send_of_isAtomic_name :
    let c : Catalog := ⟨[⟨"compute", "A", "http://a", none⟩, ⟨"compute", "eu-1", "http://b", none⟩]⟩
    let transport : Request → Action Nat Report Response := fun r => pure ⟨503, r.url, ∅, ""⟩
    let r : Request := ⟨"GET", "http://a/v2", ⟨[("X-Scope", "\x7b\"compute\":\"eu-1\"\x7d")]⟩⟩
    let run := Sender.send (Sender.traced ⟨c, transport, []⟩) r ((⟨∅, 0⟩ : Session Nat).traced [])
    c.governing? r = .ok (some ("compute", "eu-1")) ∧ isAtomic "eu-1" = true ∧
      Conveys (.ok { r with url := "http://b/v2" }) run.2.trace run.1 := by
  intro c transport r run
  have hgoverning : c.governing? r = .ok (some ("compute", "eu-1")) := by cbv
  have hatomic : isAtomic "eu-1" = true := by decide
  have hretarget : c.retarget r none = .ok { r with url := "http://b/v2" } := by cbv
  obtain ⟨-, -, -, hname, -⟩ :=
    send_of_isAtomic c transport r (⟨∅, 0⟩ : Session Nat) hgoverning hatomic
  rw [hretarget] at hname
  exact ⟨hgoverning, hatomic, hname (by decide)⟩

/-- A cloud with a blank in its name cannot be read, so a request for it is refused though there is
one to send. A cloud in parentheses is read without these, so a request for it is sent though there
is no cloud of that name. -/
theorem send_of_not_name :
    let c : Catalog := ⟨[⟨"compute", "Cloud One", "http://a", none⟩,
      ⟨"compute", "A", "http://b", none⟩]⟩
    let transport : Request → Action Nat Report Response := fun r => pure ⟨200, r.url, ∅, ""⟩
    let spaced : Request :=
      ⟨"GET", "http://a/v2", ⟨[("X-Scope", "\x7b\"compute\":\"Cloud One\"\x7d")]⟩⟩
    let grouped : Request := ⟨"GET", "http://a/v2", ⟨[("X-Scope", "\x7b\"compute\":\"(A)\"\x7d")]⟩⟩
    let sender : Sender Nat := ⟨c, transport, []⟩
    let run (r : Request) := sender.traced.send r ((⟨∅, 0⟩ : Session Nat).traced [])
    (c.governing? spaced = .ok (some ("compute", "Cloud One")) ∧ isAtomic "Cloud One" = true ∧
      c.retarget spaced none = .ok spaced ∧ transmitted (run spaced).2.trace = []) ∧
    c.governing? grouped = .ok (some ("compute", "(A)")) ∧ isAtomic "(A)" = true ∧
      c.retarget grouped none = .error (.serviceNotFound (.query ⟨"compute", "(A)", none⟩)) ∧
      transmitted (run grouped).2.trace = [{ grouped with url := "http://b/v2" }] := by
  intro c transport spaced grouped sender run
  have hspaced : c.governing? spaced = .ok (some ("compute", "Cloud One")) := by cbv
  have hgrouped : c.governing? grouped = .ok (some ("compute", "(A)")) := by cbv
  have hparse : Expr.parse "Cloud One" = .error ⟨"Cloud One", 6, .trailing (.name "One")⟩ := by cbv
  have hparse' : Expr.parse "(A)" = .ok (.endpoint "A") := by cbv
  have hretarget : c.retarget grouped (some "A") = .ok { grouped with url := "http://b/v2" } := by
    cbv
  have hprepare (r : Request) : sender.prepare r ⟨∅, 0⟩ = (.ok r, ⟨∅, 0⟩) := rfl
  have hrefused := conveys_of_parse_error (hprepare spaced) hspaced hparse
  have hsent := conveys_of_parse_endpoint (hprepare grouped) hgrouped hparse'
  rw [hretarget] at hsent
  exact ⟨⟨hspaced, by decide, by cbv, hrefused.transmitted_eq⟩,
    hgrouped, by decide, by cbv, hsent.transmitted_eq⟩

end Sender

end CloudScope
