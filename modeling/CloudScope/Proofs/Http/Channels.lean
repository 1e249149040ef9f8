import CloudScope.Proofs.Http.ScopeHeader

/-!
# The channels of a scope

What the two channels of a scope hold, when they can be read, and what taking a scope off a token
does to the headers. Both channels are read if they are legible (`Headers.exists_scope?_iff`).
-/

namespace CloudScope

theorem bind_eq_ok_iff {φ β γ : Type} {x : Except φ β} {f : β → Except φ γ} {c : γ} :
    x >>= f = .ok c ↔ ∃ b, x = .ok b ∧ f b = .ok c := by
  constructor
  · intro h
    cases x with
    | error e => cases h
    | ok b => exact ⟨b, rfl, h⟩
  · rintro ⟨b, rfl, h⟩
    exact h

theorem bind_eq_error_iff {φ β γ : Type} {x : Except φ β} {f : β → Except φ γ} {e : φ} :
    x >>= f = .error e ↔ x = .error e ∨ ∃ b, x = .ok b ∧ f b = .error e := by
  constructor
  · intro h
    cases x with
    | error e' => cases h; exact .inl rfl
    | ok b => exact .inr ⟨b, rfl, h⟩
  · rintro (rfl | ⟨b, rfl, h⟩)
    · rfl
    · exact h

theorem readScope_eq_error_iff {header : String} {text : List Char} {e : ScopeError} :
    readScope header text = .error e ↔ ∃ fault, Scope.ofText (String.ofList text) = .error fault ∧
      e = .malformedHeader header (.scope fault) := by
  rw [readScope]
  rcases Scope.ofText (String.ofList text) with fault | s <;> simp [eq_comm]

theorem exists_malformed_of_readScope {header : String} {text : List Char} {e : ScopeError}
    (h : readScope header text = .error e) : ∃ fault, e = .malformedHeader header fault := by
  obtain ⟨fault, -, rfl⟩ := readScope_eq_error_iff.mp h
  exact ⟨_, rfl⟩

/-- No scope is behind a token exactly if the delimiter stands nowhere in the text. -/
theorem snd_splitToken_eq_none_iff (s : List Char) :
    (splitToken s).2 = none ↔ ¬ delimiter <:+: s := by
  fun_induction splitToken s with
  | case1 => exact iff_of_true rfl (by decide)
  | case2 c rest scope hscope =>
    have hfront : delimiter <+: c :: rest :=
      ⟨scope, List.append_eq_of_isPrefixOf?_eq_some hscope⟩
    simpa using hfront.isInfix
  | case3 c rest hscope ih =>
    have hfront : ¬ delimiter <+: c :: rest := by
      rintro ⟨scope, h⟩
      rw [List.isPrefixOf?_eq_some_iff_append_eq.mpr h] at hscope
      cases hscope
    rw [ih, List.infix_cons_iff]
    simp [hfront]

namespace Headers

variable {h h' : Headers} {name other : String} {s : Scope}

/-! ## Values of single headers -/

theorem carried?_eq_ok_none_iff : h.carried? name = .ok none ↔ h.get? name = none := by
  rw [carried?]
  rcases h.get? name with _ | raw
  · simp
  · rcases hdecode : Percent.decode (Text.trim raw.toList) with fault | text <;> simp [hdecode]

theorem carried?_eq_ok_some_iff {text : List Char} : h.carried? name = .ok (some text) ↔
    ∃ raw, h.get? name = some raw ∧ Percent.decode (Text.trim raw.toList) = .ok text := by
  rw [carried?]
  rcases h.get? name with _ | raw
  · simp
  · rcases hdecode : Percent.decode (Text.trim raw.toList) with fault | text <;> simp [hdecode]

theorem carried?_eq_error_iff {e : ScopeError} : h.carried? name = .error e ↔
    ∃ raw fault, h.get? name = some raw ∧ Percent.decode (Text.trim raw.toList) = .error fault ∧
      e = .malformedHeader name (.escape fault) := by
  rw [carried?]
  rcases h.get? name with _ | raw
  · simp
  · rcases hdecode : Percent.decode (Text.trim raw.toList) with fault | text <;>
      simp [hdecode, eq_comm]

theorem carried?_setScope (h : Headers) (s : Scope) :
    (h.setScope s).carried? tokenHeader = h.carried? tokenHeader := by
  rw [carried?, carried?, setScope, get?_insert_of_not_sameName (by decide)]

/-- Whether the escapes in the value under a name, if there is one, stand for UTF-8. -/
def Decodes (h : Headers) (name : String) : Prop :=
  ∀ raw, h.get? name = some raw → ∃ text, Percent.decode (Text.trim raw.toList) = .ok text

theorem exists_carried?_iff : (∃ text?, h.carried? name = .ok text?) ↔ h.Decodes name := by
  rw [Decodes, carried?]
  rcases h.get? name with _ | raw
  · simp
  · rcases hdecode : Percent.decode (Text.trim raw.toList) with fault | text <;> simp [hdecode]

theorem Decodes.congr (hget : h.get? name = h'.get? name) : h.Decodes name ↔ h'.Decodes name := by
  rw [Decodes, Decodes, hget]

theorem exists_malformed_of_carried? {e : ScopeError} (hread : h.carried? name = .error e) :
    ∃ fault, e = .malformedHeader name fault := by
  obtain ⟨_, fault, -, -, rfl⟩ := carried?_eq_error_iff.mp hread
  exact ⟨_, rfl⟩

/-! ## Taking scopes off tokens -/

/-- Stripping a token leaves the headers alone if nothing is behind it, and leaves the bare token
otherwise. -/
theorem stripToken_eq_ok_iff {p : Headers × Bool} : h.stripToken name = .ok p ↔
    (∃ text?, h.carried? name = .ok text? ∧ text?.bind (splitToken · |>.2) = none ∧
      p = (h, false)) ∨
    ∃ text token scope, h.carried? name = .ok (some text) ∧
      splitToken text = (token, some scope) ∧ p = (h.insert name (String.ofList token), true) := by
  rw [stripToken, bind_eq_ok_iff]
  rcases hcarried : h.carried? name with e | _ | text
  · simp
  · simp [pure, Except.pure, eq_comm]
  · rcases hsplit : splitToken text with ⟨token, _ | scope⟩
    · simp [hsplit, pure, Except.pure, eq_comm]
    · simp [hsplit, pure, Except.pure, eq_comm]

theorem exists_stripToken_iff : (∃ p, h.stripToken name = .ok p) ↔ h.Decodes name := by
  rw [← exists_carried?_iff]
  constructor
  · rintro ⟨p, hstrip⟩
    rcases stripToken_eq_ok_iff.mp hstrip with ⟨text?, hcarried, _⟩ | ⟨text, _, _, hcarried, _⟩
    · exact ⟨text?, hcarried⟩
    · exact ⟨some text, hcarried⟩
  · rintro ⟨text?, hcarried⟩
    rcases hscope : text?.bind (splitToken · |>.2) with _ | scope
    · exact ⟨_, stripToken_eq_ok_iff.mpr (.inl ⟨text?, hcarried, hscope, rfl⟩)⟩
    · obtain ⟨text, rfl, hscope⟩ := Option.bind_eq_some_iff.mp hscope
      exact ⟨_, stripToken_eq_ok_iff.mpr
        (.inr ⟨text, (splitToken text).1, scope, hcarried, Prod.ext rfl hscope, rfl⟩)⟩

theorem get?_of_stripToken {stripped : Bool} (hstrip : h.stripToken name = .ok (h', stripped))
    (hne : ¬ SameName name other) : h'.get? other = h.get? other := by
  rcases stripToken_eq_ok_iff.mp hstrip with ⟨_, _, _, hp⟩ | ⟨_, _, _, _, _, hp⟩
  · cases hp
    rfl
  · cases hp
    exact get?_insert_of_not_sameName hne h _

/-! ## Reading scopes -/

/-- What headers present: the scope under `X-Scope`, else the one behind the token, else none. -/
inductive Presents (h : Headers) : Option Scope → Prop where
  | header {text s} : h.carried? scopeHeader = .ok (some text) →
    Scope.ofText (String.ofList text) = .ok s → Presents h (some s)
  | token {text piggyback s} : h.get? scopeHeader = none →
    h.carried? tokenHeader = .ok (some text) → (splitToken text).2 = some piggyback →
    Scope.ofText (String.ofList piggyback) = .ok s → Presents h (some s)
  | nothing {text?} : h.get? scopeHeader = none → h.carried? tokenHeader = .ok text? →
    text?.bind (splitToken · |>.2) = none → Presents h none

theorem scope?_eq_ok_iff {s? : Option Scope} : h.scope? = .ok s? ↔ h.Presents s? := by
  constructor
  · intro hread
    obtain ⟨text?, hheader, hread⟩ := bind_eq_ok_iff.mp hread
    rcases text? with _ | text
    · have habsent := carried?_eq_ok_none_iff.mp hheader
      obtain ⟨text?, htoken, hread⟩ := bind_eq_ok_iff.mp hread
      rcases text? with _ | text
      · cases hread
        exact .nothing habsent htoken rfl
      · rcases hsplit : (splitToken text).2 with _ | piggyback
        · simp only [hsplit] at hread
          cases hread
          exact .nothing habsent htoken hsplit
        · simp only [hsplit] at hread
          obtain ⟨s, hs, hread⟩ := bind_eq_ok_iff.mp hread
          cases hread
          exact .token habsent htoken hsplit (readScope_eq_ok_iff.mp hs)
    · obtain ⟨s, hs, hread⟩ := bind_eq_ok_iff.mp hread
      cases hread
      exact .header hheader (readScope_eq_ok_iff.mp hs)
  · intro hpresents
    refine bind_eq_ok_iff.mpr ?_
    cases hpresents with
    | header hheader hs =>
      exact ⟨_, hheader, bind_eq_ok_iff.mpr ⟨_, readScope_eq_ok_iff.mpr hs, rfl⟩⟩
    | token habsent htoken hsplit hs =>
      refine ⟨none, carried?_eq_ok_none_iff.mpr habsent, bind_eq_ok_iff.mpr ⟨_, htoken, ?_⟩⟩
      simp only [hsplit]
      exact bind_eq_ok_iff.mpr ⟨_, readScope_eq_ok_iff.mpr hs, rfl⟩
    | @nothing text? habsent htoken hsplit =>
      refine ⟨none, carried?_eq_ok_none_iff.mpr habsent, bind_eq_ok_iff.mpr ⟨_, htoken, ?_⟩⟩
      rcases text? with _ | text
      · rfl
      · rw [Option.bind_some] at hsplit
        simp only [hsplit]
        rfl

/-- Whether what is read of headers for their scope is as it should be: the value under `X-Scope`
stands for the text of a scope, or there is none and what the value under `X-Auth-Token` stands for
has the text of a scope behind the token, if anything. -/
structure Legible (h : Headers) : Prop where
  header : ∀ raw, h.get? scopeHeader = some raw →
    ∃ text s, Percent.decode (Text.trim raw.toList) = .ok text ∧
      Scope.ofText (String.ofList text) = .ok s
  token : h.get? scopeHeader = none → ∀ raw, h.get? tokenHeader = some raw →
    ∃ text, Percent.decode (Text.trim raw.toList) = .ok text ∧
      ∀ piggyback, (splitToken text).2 = some piggyback →
        ∃ s, Scope.ofText (String.ofList piggyback) = .ok s

/-- Headers are read if they are legible, and only then. -/
theorem exists_scope?_iff : (∃ s?, h.scope? = .ok s?) ↔ h.Legible := by
  simp only [scope?_eq_ok_iff]
  constructor
  · rintro ⟨s?, hpresents⟩
    cases hpresents with
    | header hheader hs =>
      obtain ⟨raw, hget, hdecode⟩ := carried?_eq_ok_some_iff.mp hheader
      refine ⟨fun raw' hget' => ?_, fun habsent => ?_⟩
      · cases hget.symm.trans hget'
        exact ⟨_, _, hdecode, hs⟩
      · cases hget.symm.trans habsent
    | token habsent htoken hsplit hs =>
      obtain ⟨raw, hget, hdecode⟩ := carried?_eq_ok_some_iff.mp htoken
      refine ⟨fun raw' hget' => ?_, fun _ raw' hget' => ?_⟩
      · cases habsent.symm.trans hget'
      · cases hget.symm.trans hget'
        exact ⟨_, hdecode, fun _ hsplit' => Option.some.inj (hsplit.symm.trans hsplit') ▸ ⟨_, hs⟩⟩
    | nothing habsent htoken hsplit =>
      refine ⟨fun raw' hget' => ?_, fun _ raw hget => ?_⟩
      · cases habsent.symm.trans hget'
      · obtain ⟨text, hdecode⟩ := exists_carried?_iff.mp ⟨_, htoken⟩ raw hget
        cases htoken.symm.trans (carried?_eq_ok_some_iff.mpr ⟨raw, hget, hdecode⟩)
        exact ⟨text, hdecode, fun _ hsplit' => nomatch hsplit.symm.trans hsplit'⟩
  · rintro ⟨hheader, htoken⟩
    rcases hget : h.get? scopeHeader with _ | raw
    · rcases hget' : h.get? tokenHeader with _ | raw
      · exact ⟨none, .nothing hget (carried?_eq_ok_none_iff.mpr hget') rfl⟩
      · obtain ⟨text, hdecode, hs⟩ := htoken hget raw hget'
        have hcarried := carried?_eq_ok_some_iff.mpr ⟨raw, hget', hdecode⟩
        rcases hsplit : (splitToken text).2 with _ | piggyback
        · exact ⟨none, .nothing hget hcarried hsplit⟩
        · obtain ⟨s, hs⟩ := hs piggyback hsplit
          exact ⟨some s, .token hget hcarried hsplit hs⟩
    · obtain ⟨text, s, hdecode, hs⟩ := hheader raw hget
      exact ⟨some s, .header (carried?_eq_ok_some_iff.mpr ⟨raw, hget, hdecode⟩) hs⟩

/-- Headers that cannot be read are malformed in one of the two channels. -/
theorem exists_malformed_of_scope? {e : ScopeError} (hread : h.scope? = .error e) :
    ∃ name ∈ [scopeHeader, tokenHeader], ∃ fault, e = .malformedHeader name fault := by
  rcases bind_eq_error_iff.mp hread with hread | ⟨text?, _, hread⟩
  · exact ⟨scopeHeader, by simp, exists_malformed_of_carried? hread⟩
  rcases text? with _ | text
  · rcases bind_eq_error_iff.mp hread with hread | ⟨text?, _, hread⟩
    · exact ⟨tokenHeader, by simp, exists_malformed_of_carried? hread⟩
    rcases text? with _ | text
    · cases hread
    · dsimp only at hread
      split at hread
      · rcases bind_eq_error_iff.mp hread with hread | ⟨_, _, hread⟩
        · exact ⟨tokenHeader, by simp, exists_malformed_of_readScope hread⟩
        · cases hread
      · cases hread
  · rcases bind_eq_error_iff.mp hread with hread | ⟨_, _, hread⟩
    · exact ⟨scopeHeader, by simp, exists_malformed_of_readScope hread⟩
    · cases hread

end Headers

end CloudScope
