import CloudScope.Proofs.Catalog.Route

/-!
# Requests on their way

A request may be retargeted again by each hop that it comes to. Whether a second hop with the same
catalog changes its address is a matter of the service that the new address names
(`Catalog.retarget_retarget_iff`). Whether later hops find the scope that the first one found is a
matter of the text of the scope alone (`Request.scope?_forward_iff`).
-/

namespace CloudScope

/-! ## The address -/

namespace Catalog

variable {c : Catalog} {r r₁ : Request} {serviceType value : String} {service : Service}
  {rest : List Char}

/-- A request that was retargeted keeps its address when it is retargeted again, if its scope still
has the same value for its service, its tokens can be read, and the service that its new address
names has the same address in the cloud of that value. -/
theorem retarget_retarget_iff (h : c.retarget r none = .ok r₁)
    (hgoverning : c.governing? r = .ok (some (serviceType, value)))
    (hgoverning₁ : c.governing? r₁ = .ok (some (serviceType, value)))
    (hmatch₁ : c.matchUrl? r₁.url = some (service, rest))
    (hsubject : r₁.headers.Decodes subjectTokenHeader)
    (htoken : serviceType = identityType → r₁.headers.Decodes tokenHeader) :
    (∃ r₂, c.retarget r₁ none = .ok r₂ ∧ r₂.url = r₁.url) ↔
      ∃ target, c.find? (.siblingOf service value) = some target ∧ target.url = service.url := by
  obtain ⟨first, _, scope, hmatch, hscope, rfl, hvalue⟩ := governing?_eq_some_iff.mp hgoverning
  obtain ⟨_, _, scope₁, hmatch₁', hscope₁, htype, hvalue₁⟩ := governing?_eq_some_iff.mp hgoverning₁
  cases hmatch₁.symm.trans hmatch₁'
  obtain ⟨cloud, _, hcloud, _, _, _, hidentity⟩ :=
    (exists_retarget_iff hmatch hscope).mp ⟨r₁, h, rfl⟩
  obtain ⟨hcloud, hatomic⟩ := targetCloud_eq_ok_iff.mp hcloud
  cases hvalue.symm.trans hcloud
  have hcloud₁ : targetCloud scope₁ service.serviceType none = .ok value :=
    targetCloud_eq_ok_iff.mpr ⟨htype ▸ hvalue₁, hatomic⟩
  -- a request that needs an identity service finds it by the value that is the same both times
  have hidentity₁ : service.serviceType = identityType → ∃ s, c.adminIdentity scope₁ = .ok s := by
    intro hservice
    rw [htype] at hservice
    have hadmin := exists_adminIdentity_iff.mp (hidentity hservice).1
    rw [hservice] at hvalue hvalue₁
    rw [hvalue, ← hvalue₁] at hadmin
    exact exists_adminIdentity_iff.mpr hadmin
  have hurl : ∀ target : Service, target.url ++ String.ofList rest = r₁.url ↔
      target.url = service.url := by
    intro target
    rw [← append_eq_of_matchUrl? hmatch₁, ← String.toList_inj, ← String.toList_inj,
      String.toList_append, String.toList_append, List.append_left_inj]
  rw [exists_retarget_iff hmatch₁ hscope₁]
  constructor
  · rintro ⟨cloud₁, target, hcloud₁', hfind, haddress, _⟩
    cases hcloud₁.symm.trans hcloud₁'
    exact ⟨target, hfind, (hurl target).mp haddress⟩
  · rintro ⟨target, hfind, haddress⟩
    exact ⟨value, target, hcloud₁, hfind, (hurl target).mpr haddress, hsubject,
      fun hservice => ⟨hidentity₁ hservice, htoken (htype ▸ hservice)⟩⟩

theorem retarget_retarget_iff_identity :
    let c : Catalog := ⟨[⟨"identity", "A", "http://a/id", some "admin"⟩,
      ⟨"identity", "A", "http://a/id", some "public"⟩,
      ⟨"identity", "B", "http://b/id", some "public"⟩]⟩
    let r : Request := ⟨"GET", "http://b/id/v3", ⟨[("X-Scope", "\x7b\"identity\":\"A\"\x7d")]⟩⟩
    let r₁ : Request := ⟨"GET", "http://a/id/v3",
      ⟨[("X-Scope", "\x7b\"identity\":\"A\"\x7d"), ("X-Identity-Cloud", "A"),
        ("X-Identity-Url", "http://a/id")]⟩⟩
    c.retarget r none = .ok r₁ ∧
      c.governing? r = .ok (some ("identity", "A")) ∧
      c.governing? r₁ = .ok (some ("identity", "A")) ∧
      ∃ r₂, c.retarget r₁ none = .ok r₂ ∧ r₂.url = r₁.url := by
  intro c r r₁
  let w : c.Route r none :=
    { service := ⟨"identity", "B", "http://b/id", some "public"⟩
      rest := "/v3".toList
      scope := ⟨[("identity", "A")], List.pairwise_singleton _ _⟩
      cloud := "A"
      target := ⟨"identity", "A", "http://a/id", some "public"⟩
      identity := some ⟨"identity", "A", "http://a/id", some "admin"⟩
      headers := r₁.headers
      matched := by cbv
      presented := by cbv
      named := by cbv
      found := by cbv
      identified := by cbv
      written := by rfl }
  have h : c.retarget r none = .ok r₁ := retarget_eq_ok_iff.mpr (.inr ⟨w, by decide⟩)
  have hgoverning : c.governing? r = .ok (some ("identity", "A")) := by cbv
  have hgoverning₁ : c.governing? r₁ = .ok (some ("identity", "A")) := by cbv
  have hmatch₁ : c.matchUrl? r₁.url =
      some (⟨"identity", "A", "http://a/id", some "admin"⟩, "/v3".toList) := by cbv
  have hsubject : r₁.headers.carried? subjectTokenHeader = .ok none := by cbv
  have htoken : r₁.headers.carried? tokenHeader = .ok none := by cbv
  refine ⟨h, hgoverning, hgoverning₁, ?_⟩
  exact (retarget_retarget_iff h hgoverning hgoverning₁ hmatch₁
    (Headers.exists_carried?_iff.mp ⟨_, hsubject⟩)
    fun _ => Headers.exists_carried?_iff.mp ⟨_, htoken⟩).mpr
      ⟨⟨"identity", "A", "http://a/id", some "admin"⟩, by decide, rfl⟩

/-- The new address may begin with that of a service of another cloud that is listed further up.
The next hop then takes the request for one to that service, and sends it elsewhere in the same
cloud. -/
theorem retarget_retarget_of_overlap :
    let c : Catalog := ⟨[⟨"compute", "C", "http://b", some "admin"⟩,
      ⟨"compute", "A", "http://a/v2", some "public"⟩,
      ⟨"compute", "B", "http://b/v2", some "public"⟩,
      ⟨"compute", "B", "http://b:81", some "admin"⟩]⟩
    let scope : Headers := ⟨[("X-Scope", "\x7b\"compute\":\"B\"\x7d")]⟩
    let r : Request := ⟨"GET", "http://a/v2/servers", scope⟩
    let r₁ : Request := ⟨"GET", "http://b/v2/servers", scope⟩
    c.governing? r = .ok (some ("compute", "B")) ∧ c.retarget r none = .ok r₁ ∧
      c.governing? r₁ = .ok (some ("compute", "B")) ∧
      c.retarget r₁ none = .ok ⟨"GET", "http://b:81/v2/servers", scope⟩ := by
  intro c scope r r₁
  exact ⟨by cbv, by cbv, by cbv, by cbv⟩

end Catalog

/-! ## The scope -/

namespace Headers

variable {h : Headers} {s t : Scope}

/-- The text of a scope without escapes is read back. -/
theorem scope?_of_get?_text_of_not_hasEscape (hget : h.get? scopeHeader = some s.text)
    (hescape : ¬ Percent.HasEscape s.text.toList) : h.scope? = .ok (some s) := by
  have hdecode : Percent.decode (Text.trim s.text.toList) = .ok s.text.toList := by
    rw [s.trim_text, Percent.decode_of_not_hasEscape hescape]
  have hscope : Scope.ofText (String.ofList s.text.toList) = .ok s := by
    rw [String.ofList_toList, Scope.ofText_text]
  exact scope?_eq_ok_iff.mpr (.header (carried?_eq_ok_some_iff.mpr ⟨_, hget, hdecode⟩) hscope)

/-- A scope that is read where the text of another stands has no longer text, and a shorter one if
the text that stands there holds an escape. -/
theorem size_of_get?_text (hget : h.get? scopeHeader = some s.text)
    (hread : h.scope? = .ok (some t)) : Utf8.size t.text.toList ≤ Utf8.size s.text.toList ∧
      (Percent.HasEscape s.text.toList →
        Utf8.size t.text.toList < Utf8.size s.text.toList) := by
  cases scope?_eq_ok_iff.mp hread with
  | header hheader ht =>
    obtain ⟨raw, hraw, hdecode⟩ := carried?_eq_ok_some_iff.mp hheader
    cases hget.symm.trans hraw
    rw [s.trim_text] at hdecode
    have hleast := Scope.size_text_le ht
    rw [String.toList_ofList] at hleast
    refine ⟨hleast.trans ?_, fun hescape => ?_⟩
    · rw [Utf8.size_of_decode_eq_ok hdecode]
      exact Percent.length_bytes_le _
    · exact Nat.lt_of_le_of_lt hleast (Percent.size_lt_of_decode_eq_ok hescape hdecode)
  | token habsent => cases hget.symm.trans habsent

end Headers

/-- A request with a scope is for no service of the catalog and stays as it is, or is for one and
goes on with the text of the scope. -/
theorem Catalog.retarget_cases {c : Catalog} {r r₁ : Request} {endpoint : Option String}
    {s : Scope} (hscope : r.headers.scope? = .ok (some s)) (h : c.retarget r endpoint = .ok r₁) :
    (c.matchUrl? r.url = none ∧ r₁ = r) ∨
      c.matchUrl? r.url ≠ none ∧ r₁.headers.get? scopeHeader = some s.text := by
  rcases retarget_eq_ok_iff.mp h with ⟨⟨scope?, hscope', halone⟩, rfl⟩ | ⟨w, rfl⟩
  · cases hscope.symm.trans hscope'
    exact .inl ⟨halone.resolve_right (Option.some_ne_none s), rfl⟩
  · cases hscope.symm.trans w.presented
    exact .inr ⟨by simp [w.matched], get?_of_retargetHeaders w.written⟩

/-- A place that a request comes to, with the endpoint that is named to it there. -/
structure Hop where
  catalog : Catalog
  endpoint : Option String

/-- The request as it leaves the last of the hops. -/
def Request.forward (r : Request) : List Hop → Except ScopeError Request
  | [] => .ok r
  | hop :: hops => do (← hop.catalog.retarget r hop.endpoint).forward hops

namespace Request

variable {r r' : Request} {hops : List Hop} {s t : Scope}

theorem forward_cons_eq_ok_iff {hop : Hop} : r.forward (hop :: hops) = .ok r' ↔
    ∃ r₁, hop.catalog.retarget r hop.endpoint = .ok r₁ ∧ r₁.forward hops = .ok r' :=
  bind_eq_ok_iff

/-- Whatever the hops do to the text of a scope, it does not get longer, and it gets shorter if it
holds an escape. -/
theorem size_of_forward (hget : r.headers.get? scopeHeader = some s.text)
    (h : r.forward hops = .ok r') (hread : r'.headers.scope? = .ok (some t)) :
    Utf8.size t.text.toList ≤ Utf8.size s.text.toList ∧
      (Percent.HasEscape s.text.toList →
        Utf8.size t.text.toList < Utf8.size s.text.toList) := by
  induction hops generalizing r s with
  | nil =>
    cases h
    exact Headers.size_of_get?_text hget hread
  | cons hop hops ih =>
    obtain ⟨r₁, h₁, h₂⟩ := forward_cons_eq_ok_iff.mp h
    rcases Catalog.retarget_eq_ok_iff.mp h₁ with ⟨_, rfl⟩ | ⟨w, rfl⟩
    · exact ih hget h₂
    · -- the hop reads a scope from the text and leaves the text of that one
      obtain ⟨hle, hlt⟩ := Headers.size_of_get?_text hget w.presented
      obtain ⟨hle', _⟩ := ih (Catalog.get?_of_retargetHeaders w.written) h₂
      exact ⟨hle'.trans hle, fun hescape => hle'.trans_lt (hlt hescape)⟩

/-- Hops present a scope without escapes to each other as it is. -/
theorem scope?_forward_of_not_hasEscape (hescape : ¬ Percent.HasEscape s.text.toList)
    (hscope : r.headers.scope? = .ok (some s)) (h : r.forward hops = .ok r') :
    r'.headers.scope? = .ok (some s) := by
  induction hops generalizing r with
  | nil =>
    cases h
    exact hscope
  | cons hop hops ih =>
    obtain ⟨r₁, h₁, h₂⟩ := forward_cons_eq_ok_iff.mp h
    rcases Catalog.retarget_cases hscope h₁ with ⟨_, rfl⟩ | ⟨_, hget⟩
    · exact ih hscope h₂
    · exact ih (Headers.scope?_of_get?_text_of_not_hasEscape hget hescape) h₂

/-- A request that was forwarded presents the scope that it came with, through whichever channel it
came, if the text of the scope holds no escape or if the request is for no service of any hop, and
only then. -/
theorem scope?_forward_iff (hscope : r.headers.scope? = .ok (some s))
    (h : r.forward hops = .ok r') : r'.headers.scope? = .ok (some s) ↔
      ¬ Percent.HasEscape s.text.toList ∨ ∀ hop ∈ hops, hop.catalog.matchUrl? r.url = none := by
  induction hops with
  | nil =>
    cases h
    simp [hscope]
  | cons hop hops ih =>
    obtain ⟨r₁, h₁, h₂⟩ := forward_cons_eq_ok_iff.mp h
    rcases Catalog.retarget_cases hscope h₁ with ⟨hmatch, rfl⟩ | ⟨hmatch, hget⟩
    · rw [ih h₂, List.forall_mem_cons, and_iff_right hmatch]
    · constructor
      · intro hread
        exact .inl fun hescape => Nat.lt_irrefl _ ((size_of_forward hget h₂ hread).2 hescape)
      · rintro (hescape | hnone)
        · exact scope?_forward_of_not_hasEscape hescape
            (Headers.scope?_of_get?_text_of_not_hasEscape hget hescape) h₂
        · exact absurd (hnone hop List.mem_cons_self) hmatch

/-- A compound scope that comes with a token is presented by the second of two hops. -/
theorem scope?_forward_iff_compound :
    let c : Catalog := ⟨[⟨"compute", "A", "http://a", none⟩, ⟨"compute", "B", "http://b", none⟩]⟩
    let s : Scope := ⟨[("compute", "A|B")], List.pairwise_singleton _ _⟩
    let r : Request := ⟨"GET", "http://b/servers",
      ⟨[("X-Auth-Token", "t!SCOPE!%7B%22compute%22:%22A|B%22%7D")]⟩⟩
    let r' : Request := ⟨"GET", "http://b/servers",
      ⟨[("X-Auth-Token", "t!SCOPE!%7B%22compute%22:%22A|B%22%7D"),
        ("X-Scope", "\x7b\"compute\":\"A|B\"\x7d")]⟩⟩
    r.headers.scope? = .ok (some s) ∧ r.forward [⟨c, some "A"⟩, ⟨c, some "B"⟩] = .ok r' ∧
      r'.headers.scope? = .ok (some s) := by
  intro c s r r'
  let r₁ : Request := { r' with url := "http://a/servers" }
  have hescape : ¬ Percent.HasEscape s.text.toList := by
    have htext : s.text.toList = "\x7b\"compute\":\"A|B\"\x7d".toList := by cbv
    exact Percent.not_hasEscape_of_notMem (by rw [htext]; decide)
  let first : c.Route r (some "A") :=
    { service := ⟨"compute", "B", "http://b", none⟩
      rest := "/servers".toList
      scope := s
      cloud := "A"
      target := ⟨"compute", "A", "http://a", none⟩
      identity := none
      headers := r₁.headers
      matched := by cbv
      presented := by cbv
      named := by cbv
      found := by cbv
      identified := by cbv
      written := by rfl }
  let second : c.Route r₁ (some "B") :=
    { service := ⟨"compute", "A", "http://a", none⟩
      rest := "/servers".toList
      scope := s
      cloud := "B"
      target := ⟨"compute", "B", "http://b", none⟩
      identity := none
      headers := r'.headers
      matched := by cbv
      presented := by cbv
      named := by cbv
      found := by cbv
      identified := by cbv
      written := by rfl }
  have hfirst : c.retarget r (some "A") = .ok r₁ :=
    Catalog.retarget_eq_ok_iff.mpr (.inr ⟨first, by decide⟩)
  have hsecond : c.retarget r₁ (some "B") = .ok r' :=
    Catalog.retarget_eq_ok_iff.mpr (.inr ⟨second, by decide⟩)
  have hforward : r.forward [⟨c, some "A"⟩, ⟨c, some "B"⟩] = .ok r' :=
    forward_cons_eq_ok_iff.mpr ⟨r₁, hfirst, forward_cons_eq_ok_iff.mpr ⟨r', hsecond, rfl⟩⟩
  exact ⟨first.presented, hforward,
    (scope?_forward_iff first.presented hforward).mpr (.inl hescape)⟩

/-- A scope whose text looks as if it held an escape becomes another one at the first hop that has
the service. -/
theorem scope?_forward_of_escape :
    let hop : Hop := ⟨⟨[⟨"compute", "A", "http://a", none⟩]⟩, some "A"⟩
    let r : Request := ⟨"GET", "http://a", ⟨[("X-Scope", "\x7b\"compute\":\"%2541\"\x7d")]⟩⟩
    let r' : Request := ⟨"GET", "http://a", ⟨[("X-Scope", "\x7b\"compute\":\"%41\"\x7d")]⟩⟩
    r.forward [hop] = .ok r' ∧
      r.headers.scope? = .ok (some ⟨[("compute", "%41")], List.pairwise_singleton _ _⟩) ∧
      r'.headers.scope? = .ok (some ⟨[("compute", "A")], List.pairwise_singleton _ _⟩) := by
  intro hop r r'
  exact ⟨by cbv, by cbv, by cbv⟩

end Request

end CloudScope
