import CloudScope.Proofs.Http.Changes

/-!
# Scopes that are updated in requests

A request carries scopes in both channels, in one of them or in none. An update gives a service type
its value in each scope for itself, and touches nothing else (`Request.updated_updateScope`).
-/

namespace CloudScope

/-! ## Single channels -/

/-- A header in which a scope is carried. -/
structure Channel where
  name : String
  /-- The text of the scope in what the header stands for. -/
  part : List Char → Option (List Char)
  /-- The header that has a scope in the place of the one in what it stands for. -/
  write : List Char → Scope → String

namespace Channel

/-- The header that stands for the text of a scope. -/
def scope : Channel :=
  ⟨scopeHeader, some, fun _ s => s.text⟩

/-- The header that stands for a token, and maybe a delimiter and the text of a scope behind it. -/
def token : Channel :=
  ⟨tokenHeader, fun text => (splitToken text).2, fun text => joinToken (splitToken text).1⟩

/-- What the header stands for, with the scope in it. -/
def read? (c : Channel) (h : Headers) : Except ScopeError (Option (List Char × Scope)) := do
  match ← h.carried? c.name with
  | none => return none
  | some text =>
    match c.part text with
    | none => return none
    | some part => return some (text, ← readScope c.name part)

/-- Gives a service type a value in the scope that was read. -/
def update (c : Channel) (serviceType value : String) (h : Headers) :
    Option (List Char × Scope) → Headers
  | none => h
  | some (text, s) => h.insert c.name (c.write text (s.insert serviceType value))

/-- Why a channel cannot be read: its header has an escape that is invalid, or the text of its
scope is none. -/
inductive Flawed (c : Channel) (h : Headers) : HeaderFault → Prop where
  | escape {raw fault} : h.get? c.name = some raw →
    Percent.decode (Text.trim raw.toList) = .error fault → Flawed c h (.escape fault)
  | scope {raw text part fault} : h.get? c.name = some raw →
    Percent.decode (Text.trim raw.toList) = .ok text → c.part text = some part →
    Scope.ofText (String.ofList part) = .error fault → Flawed c h (.scope fault)

/-- What an update makes of a header. -/
inductive Renews (c : Channel) (serviceType value : String) :
    Option String → Option String → Prop where
  | absent : Renews c serviceType value none none
  /-- There is no scope in the header. -/
  | bare {raw text} : Percent.decode (Text.trim raw.toList) = .ok text → c.part text = none →
    Renews c serviceType value (some raw) (some raw)
  | scope {raw text part s t} : Percent.decode (Text.trim raw.toList) = .ok text →
    c.part text = some part → Scope.ofText (String.ofList part) = .ok s →
    s.Assigned serviceType value t → Renews c serviceType value (some raw) (some (c.write text t))

variable {c : Channel} {h h' : Headers} {found? : Option (List Char × Scope)} {e : ScopeError}
  {text : List Char} {s : Scope} {serviceType value : String}

/-- A channel can be read unless it has a flaw, and the error names its header. -/
theorem read?_eq_error_iff :
    c.read? h = .error e ↔ ∃ fault, c.Flawed h fault ∧ e = .malformedHeader c.name fault := by
  rw [read?, bind_eq_error_iff]
  constructor
  · rintro (hread | ⟨_ | text, hread, herror⟩)
    · obtain ⟨raw, fault, hraw, hdecode, rfl⟩ := Headers.carried?_eq_error_iff.mp hread
      exact ⟨_, .escape hraw hdecode, rfl⟩
    · cases herror
    · obtain ⟨raw, hraw, hdecode⟩ := Headers.carried?_eq_ok_some_iff.mp hread
      dsimp only at herror
      split at herror
      · cases herror
      · next part hpart =>
        rcases bind_eq_error_iff.mp herror with hscope | ⟨s, -, herror⟩
        · obtain ⟨fault, hfault, rfl⟩ := readScope_eq_error_iff.mp hscope
          exact ⟨_, .scope hraw hdecode hpart hfault, rfl⟩
        · cases herror
  · rintro ⟨_, hflawed, rfl⟩
    cases hflawed with
    | escape hraw hdecode =>
      exact .inl (Headers.carried?_eq_error_iff.mpr ⟨_, _, hraw, hdecode, rfl⟩)
    | scope hraw hdecode hpart hfault =>
      refine .inr ⟨_, Headers.carried?_eq_ok_some_iff.mpr ⟨_, hraw, hdecode⟩, ?_⟩
      simp only [hpart]
      exact bind_eq_error_iff.mpr (.inl (readScope_eq_error_iff.mpr ⟨_, hfault, rfl⟩))

theorem exists_read?_iff : (∃ found?, c.read? h = .ok found?) ↔ ∀ fault, ¬ c.Flawed h fault := by
  constructor
  · rintro ⟨found?, hread⟩ fault hflawed
    cases hread.symm.trans (read?_eq_error_iff.mpr ⟨fault, hflawed, rfl⟩)
  · intro hsound
    cases hread : c.read? h with
    | ok found? => exact ⟨found?, rfl⟩
    | error e =>
      obtain ⟨fault, hflawed, -⟩ := read?_eq_error_iff.mp hread
      exact absurd hflawed (hsound fault)

/-- A channel is read as empty if there is no header, or no scope in it. -/
theorem read?_eq_ok_none_iff :
    c.read? h = .ok none ↔ ∃ text?, h.carried? c.name = .ok text? ∧ text?.bind c.part = none := by
  rw [read?, bind_eq_ok_iff]
  refine exists_congr fun text? => and_congr_right fun _ => ?_
  rcases text? with _ | text
  · exact iff_of_true rfl rfl
  · rw [Option.bind_some]
    dsimp only
    cases c.part text with
    | none => exact iff_of_true rfl rfl
    | some part =>
      refine iff_of_false (fun hread => ?_) nofun
      obtain ⟨s, -, hread⟩ := bind_eq_ok_iff.mp hread
      cases hread

theorem read?_eq_ok_some_iff : c.read? h = .ok (some (text, s)) ↔
    ∃ part, h.carried? c.name = .ok (some text) ∧ c.part text = some part ∧
      Scope.ofText (String.ofList part) = .ok s := by
  rw [read?, bind_eq_ok_iff]
  constructor
  · rintro ⟨_ | text', hcarried, hread⟩
    · cases hread
    · dsimp only at hread
      split at hread
      · cases hread
      · next part hpart =>
        obtain ⟨s', hs, hread⟩ := bind_eq_ok_iff.mp hread
        cases hread
        exact ⟨part, hcarried, hpart, readScope_eq_ok_iff.mp hs⟩
  · rintro ⟨part, hcarried, hpart, hs⟩
    refine ⟨some text, hcarried, ?_⟩
    simp only [hpart]
    exact bind_eq_ok_iff.mpr ⟨s, readScope_eq_ok_iff.mpr hs, rfl⟩

/-- An update of what has been read renews the header, in these headers or in others that have
the same under its name. -/
theorem renews_update (hread : c.read? h = .ok found?) (hget : h'.get? c.name = h.get? c.name) :
    c.Renews serviceType value (h.get? c.name)
      ((c.update serviceType value h' found?).get? c.name) := by
  rcases found? with _ | ⟨text, s⟩
  · rw [update, hget]
    obtain ⟨_ | text, hcarried, hpart⟩ := read?_eq_ok_none_iff.mp hread
    · rw [Headers.carried?_eq_ok_none_iff.mp hcarried]
      exact .absent
    · obtain ⟨raw, hraw, hdecode⟩ := Headers.carried?_eq_ok_some_iff.mp hcarried
      rw [hraw]
      exact .bare hdecode hpart
  · obtain ⟨part, hcarried, hpart, hs⟩ := read?_eq_ok_some_iff.mp hread
    obtain ⟨raw, hraw, hdecode⟩ := Headers.carried?_eq_ok_some_iff.mp hcarried
    rw [update, Headers.get?_insert_self, hraw]
    exact .scope hdecode hpart hs (s.assigned_insert serviceType value)

theorem changesUnder_update (c : Channel) (serviceType value : String) (h : Headers)
    (found? : Option (List Char × Scope)) :
    h.ChangesUnder [c.name] (c.update serviceType value h found?) := by
  cases found? with
  | none => exact .refl _ h
  | some found => exact Headers.changesUnder_insert h _ _

/-- An update of what has been read brings no header that was not there. -/
theorem map_fst_update (hread : c.read? h = .ok found?) (hget : h'.get? c.name = h.get? c.name) :
    (c.update serviceType value h' found?).toList.map Prod.fst = h'.toList.map Prod.fst := by
  rcases found? with _ | ⟨text, s⟩
  · rfl
  · obtain ⟨_, hcarried, -⟩ := read?_eq_ok_some_iff.mp hread
    obtain ⟨raw, hraw, -⟩ := Headers.carried?_eq_ok_some_iff.mp hcarried
    exact Headers.map_fst_insert (by rw [hget, hraw]; rfl)

theorem get?_update_of_not_sameName {name : String} (hne : ¬ SameName c.name name) :
    (c.update serviceType value h found?).get? name = h.get? name := by
  cases found? with
  | none => rfl
  | some found => exact Headers.get?_insert_of_not_sameName hne h _

end Channel

/-! ## Requests -/

namespace Request

variable {r r' : Request} {e : ScopeError} {serviceType value : String}

/-- An update reads both channels of the request, and writes what it has read. -/
theorem updateScope_eq (r : Request) (serviceType value : String) :
    r.updateScope serviceType value = do
      let scope? ← Channel.scope.read? r.headers
      let token? ← Channel.token.read? r.headers
      let marked := Channel.scope.update serviceType value r.headers scope?
      let headers := Channel.token.update serviceType value marked token?
      return { r with headers } := by
  rw [updateScope, Channel.read?, Channel.scope, Channel.read?, Channel.token]
  rcases r.headers.carried? scopeHeader with e | _ | text
  on_goal 3 =>
    dsimp only [bind, Except.bind]
    rcases readScope scopeHeader text with e | s
  case error | ok.some.error => rfl
  -- behind the first channel both sides go on alike, whatever the headers have become
  all_goals
    dsimp only [bind, Except.bind, pure, Except.pure]
    rcases r.headers.carried? tokenHeader with e | _ | text
    · rfl
    · rfl
    · dsimp only [Option.map_some]
      rcases hsplit : splitToken text with ⟨token, _ | part⟩
      · rfl
      · obtain rfl : (splitToken text).1 = token := congrArg Prod.fst hsplit
        dsimp only
        rcases readScope tokenHeader part with e | s <;> rfl

/-- Whether a request is another one in which a service type has been given a value in the scope of
each channel. -/
structure Updated (r : Request) (serviceType value : String) (r' : Request) : Prop where
  method : r'.method = r.method
  url : r'.url = r.url
  /-- There are the same headers, in the same order and with the same spelling. -/
  names : r'.headers.toList.map Prod.fst = r.headers.toList.map Prod.fst
  /-- Values change under the names of the channels only. -/
  changes : r.headers.ChangesUnder [scopeHeader, tokenHeader] r'.headers
  scope : Channel.scope.Renews serviceType value
    (r.headers.get? scopeHeader) (r'.headers.get? scopeHeader)
  token : Channel.token.Renews serviceType value
    (r.headers.get? tokenHeader) (r'.headers.get? tokenHeader)

theorem updated_of_updateScope (hupdate : r.updateScope serviceType value = .ok r') :
    r.Updated serviceType value r' := by
  rw [updateScope_eq] at hupdate
  obtain ⟨scope?, hscope, hupdate⟩ := bind_eq_ok_iff.mp hupdate
  obtain ⟨token?, htoken, hupdate⟩ := bind_eq_ok_iff.mp hupdate
  cases hupdate
  have hget : (Channel.scope.update serviceType value r.headers scope?).get? tokenHeader =
      r.headers.get? tokenHeader := Channel.get?_update_of_not_sameName (by decide)
  have hchanges := Channel.scope.changesUnder_update serviceType value r.headers scope?
  have hchanges' := Channel.token.changesUnder_update serviceType value
    (Channel.scope.update serviceType value r.headers scope?) token?
  refine ⟨rfl, rfl, ?names, (hchanges.mono ?_).trans (hchanges'.mono ?_), ?scope, ?token⟩
  case names => exact (Channel.map_fst_update htoken hget).trans (Channel.map_fst_update hscope rfl)
  case scope =>
    rw [Channel.get?_update_of_not_sameName (by decide)]
    exact Channel.renews_update hscope rfl
  case token => exact Channel.renews_update htoken hget
  all_goals simp [Channel.scope, Channel.token]

/-- An update fails with a flaw of the first channel, and if there is none with one of the
second. -/
theorem updateScope_eq_error_iff : r.updateScope serviceType value = .error e ↔
    (∃ fault, Channel.scope.Flawed r.headers fault ∧ e = .malformedHeader scopeHeader fault) ∨
    (∀ fault, ¬ Channel.scope.Flawed r.headers fault) ∧
      ∃ fault, Channel.token.Flawed r.headers fault ∧ e = .malformedHeader tokenHeader fault := by
  rw [updateScope_eq, bind_eq_error_iff, Channel.read?_eq_error_iff, ← Channel.exists_read?_iff,
    exists_and_right.symm]
  refine or_congr Iff.rfl (exists_congr fun scope? => and_congr_right fun _ => ?_)
  rw [bind_eq_error_iff, Channel.read?_eq_error_iff]
  refine or_iff_left ?_
  rintro ⟨token?, -, hpure⟩
  cases hpure

/-- An update of a request keeps its method and URL, the order and the spelling of its headers, and
the values of all headers but those of the two channels. The scope of each channel gets the new
value, with its others as they were; a token without a scope behind it stays as it is, and no scope
is added. It fails if a channel is flawed, and only then, with `X-Scope` blamed first. -/
theorem updated_updateScope (r : Request) (serviceType value : String) :
    (∀ r', r.updateScope serviceType value = .ok r' → r.Updated serviceType value r') ∧
    ∀ e, r.updateScope serviceType value = .error e ↔
      (∃ fault, Channel.scope.Flawed r.headers fault ∧ e = .malformedHeader scopeHeader fault) ∨
      (∀ fault, ¬ Channel.scope.Flawed r.headers fault) ∧
        ∃ fault, Channel.token.Flawed r.headers fault ∧ e = .malformedHeader tokenHeader fault :=
  ⟨fun _ => updated_of_updateScope, fun _ => updateScope_eq_error_iff⟩

/-- A request with different scopes in the two channels, one of them escaped. -/
theorem updated_updateScope_both :
    let r : Request := ⟨"GET", "http://a", ⟨[("x-scope", "\x7b%22compute%22:%22A%22\x7d"),
      ("Accept", "*"), ("x-auth-token", "t!SCOPE!\x7b\"compute\":\"B\",\"network\":\"N\"\x7d")]⟩⟩
    let r' : Request := ⟨"GET", "http://a", ⟨[("x-scope", "\x7b\"compute\":\"C\"\x7d"),
      ("Accept", "*"), ("x-auth-token", "t!SCOPE!\x7b\"compute\":\"C\",\"network\":\"N\"\x7d")]⟩⟩
    r.updateScope "compute" "C" = .ok r' ∧ r.Updated "compute" "C" r' := by
  intro r r'
  have hscope : Channel.scope.read? r.headers = .ok (some
      ("\x7b\"compute\":\"A\"\x7d".toList, Scope.ofList [("compute", "A")])) :=
    Channel.read?_eq_ok_some_iff.mpr ⟨_, by cbv, rfl, by cbv⟩
  have htoken : Channel.token.read? r.headers = .ok (some
      ("t!SCOPE!\x7b\"compute\":\"B\",\"network\":\"N\"\x7d".toList,
        Scope.ofList [("compute", "B"), ("network", "N")])) :=
    Channel.read?_eq_ok_some_iff.mpr
      ⟨"\x7b\"compute\":\"B\",\"network\":\"N\"\x7d".toList, by cbv, by cbv, by cbv⟩
  have hupdate : r.updateScope "compute" "C" = .ok r' := by
    rw [updateScope_eq, hscope, htoken]
    rfl
  exact ⟨hupdate, (updated_updateScope r "compute" "C").1 r' hupdate⟩

/-- If both channels are flawed, `X-Scope` is blamed. -/
example : updateScope ⟨"GET", "http://a", ⟨[("X-Auth-Token", "%FF"), ("X-Scope", "[]")]⟩⟩
    "compute" "C" = .error (.malformedHeader "X-Scope" (.scope (.notObject .array))) := by
  cbv

end Request

end CloudScope
