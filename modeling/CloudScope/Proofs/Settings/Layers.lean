import CloudScope.Proofs.Scope.Text
import CloudScope.Settings.Shell
import Mathlib

/-!
# The layers of the shell scope

The shell scope has for each service type the value of the highest layer that has one: the option,
the settings, the variable of the service type, and the variable for all service types. It cannot be
settled if there is an option that is no JSON object of strings, and only then
(`Shell.get?_resolve`).
-/

namespace CloudScope

/-! ## Entries of layers -/

namespace Entries

variable {β : Type} {key : String} {l : List (String × β)}

theorem find?_eq_none_of_forall_lt (h : ∀ e ∈ l, key < e.1) : find? key l = none := by
  induction l with
  | nil => rfl
  | cons e l ih =>
    obtain ⟨he, hl⟩ := List.forall_mem_cons.mp h
    have hne : e.1 ≠ key := fun heq => String.lt_irrefl _ (heq ▸ he)
    rw [find?, if_neg hne, ih hl]

/-- Of entries that are made for keys, the one of a key is what is made for it. -/
theorem find?_filterMap (value? : String → Option β) (key : String) (keys : List String) :
    find? key (keys.filterMap fun k => (value? k).map (k, ·)) =
      if key ∈ keys then value? key else none := by
  induction keys with
  | nil => rfl
  | cons k keys ih =>
    by_cases hk : k = key
    · subst hk
      cases hvalue : value? k <;> simp [hvalue, ih, find?]
    · have hmem : key ∈ k :: keys ↔ key ∈ keys := by simp [Ne.symm hk]
      cases hvalue : value? k <;> simp [hvalue, ih, find?, hk, hmem]

end Entries

namespace Json

/-- The fields of an object that was read are in ascending order. -/
theorem ascending_of_parse {text : String} {fields : List (String × Json)}
    (h : parse text = .ok (.object fields)) : Entries.Ascending fields := by
  obtain ⟨_, hvalue, -⟩ := complete_eq_ok_iff.mp h
  obtain ⟨_, _, listed, -, -, -, rfl⟩ := gives_value_object_iff.mp hvalue
  exact Entries.ascending_ofList listed

end Json

namespace Scope

variable {entries : List (String × String)} {text : String}

/-- Entries that are laid over a scope win. -/
theorem get?_foldl_insert (h : Entries.Ascending entries) (s : Scope) (serviceType : String) :
    (entries.foldl (fun s e => s.insert e.1 e.2) s).get? serviceType =
      (Entries.find? serviceType entries).or (s.get? serviceType) := by
  induction entries generalizing s with
  | nil => rfl
  | cons e entries ih =>
    obtain ⟨he, hentries⟩ := List.pairwise_cons.mp h
    rw [List.foldl_cons, ih hentries, Entries.find?]
    split
    · next hsame =>
      subst hsame
      rw [Entries.find?_eq_none_of_forall_lt he, get?_insert_self]
      rfl
    · next hne => rw [get?_insert_of_ne (Ne.symm hne)]

theorem get?_merge (s t : Scope) (serviceType : String) :
    (s.merge t).get? serviceType = (t.get? serviceType).or (s.get? serviceType) :=
  get?_foldl_insert t.ascending s serviceType

theorem get?_ofList (h : Entries.Ascending entries) (serviceType : String) :
    (ofList entries).get? serviceType = Entries.find? serviceType entries := by
  rw [get?, toList_ofList, Entries.ofList_of_ascending h]

theorem ofText_eq_ok_iff {s : Scope} : ofText text = .ok s ↔
    ∃ entries, Json.parse text = .ok (.object (Json.stringFields entries)) ∧
      s = ofList entries := by
  rw [ofText]
  cases Json.parse text with
  | error fault => simp
  | ok j => simp [ofJson_eq_ok_iff]

end Scope

/-! ## The four layers -/

namespace Shell

variable {entries : List (String × String)}

/-- The service types that have a variable of their own, with the names of these. -/
def ownVariables : List (String × String) :=
  [("compute", "OS_SCOPE_COMPUTE"), ("identity", "OS_SCOPE_IDENTITY"), ("image", "OS_SCOPE_IMAGE"),
    ("network", "OS_SCOPE_NETWORK"), ("placement", "OS_SCOPE_PLACEMENT")]

theorem ownVariables_eq :
    ownVariables = serviceTypes.map fun serviceType => (serviceType, variableOf serviceType) := by
  cbv

theorem lookup_ownVariables (serviceType : String) : ownVariables.lookup serviceType =
    if serviceType ∈ serviceTypes then some (variableOf serviceType) else none := by
  rw [ownVariables_eq]
  split
  · next hmem => exact List.lookup_graph variableOf hmem
  · next hmem =>
    refine List.lookup_eq_none_iff.mpr fun e he => ?_
    obtain ⟨other, hother, rfl⟩ := List.mem_map.mp he
    have hne : serviceType ≠ other := fun heq => hmem (heq ▸ hother)
    simpa using hne

/-- The value that the variables have for a service type: that of its own variable, or else that of
the variable for all of them. -/
def ofVariables? (lookup : String → Option String) (serviceType : String) : Option String :=
  (nonempty? lookup (variableOf serviceType)).or (nonempty? lookup regionVariable)

theorem ascending_filterMap_serviceTypes (value? : String → Option String) :
    Entries.Ascending
      (serviceTypes.filterMap fun serviceType => (value? serviceType).map (serviceType, ·)) := by
  have hkeys : serviceTypes.Pairwise (· < ·) := by decide
  refine hkeys.filterMap _ fun k k' hlt e he e' he' => ?_
  obtain ⟨_, -, rfl⟩ := Option.map_eq_some_iff.mp he
  obtain ⟨_, -, rfl⟩ := Option.map_eq_some_iff.mp he'
  exact hlt

theorem get?_ofVariables (lookup : String → Option String) (serviceType : String) :
    (ofVariables lookup).get? serviceType = (ownVariables.lookup serviceType).bind fun name =>
      ((lookup name).filter (· ≠ "")).or ((lookup "OS_REGION_NAME").filter (· ≠ "")) := by
  have hlist : ofVariables lookup = Scope.ofList (serviceTypes.filterMap fun serviceType =>
      (ofVariables? lookup serviceType).map (serviceType, ·)) := by
    simp only [ofVariables, ofVariables?, Option.or_eq_orElse]
    rfl
  rw [hlist, Scope.get?_ofList (ascending_filterMap_serviceTypes _), Entries.find?_filterMap,
    lookup_ownVariables]
  split
  · rfl
  · rfl

/-- The entries that an option gives: none if it is absent, and else those of the object of strings
that its text is. -/
def Given : Option String → List (String × String) → Prop
  | none, entries => entries = []
  | some text, entries => Json.parse text = .ok (.object (Json.stringFields entries))

theorem get?_of_given {option : Option String} (h : Given option entries)
    (environment settings : Scope) :
    ∃ scope, resolve environment settings option = .ok scope ∧
      ∀ serviceType, scope.get? serviceType = (Entries.find? serviceType entries).or
        ((settings.get? serviceType).or (environment.get? serviceType)) := by
  cases option with
  | none =>
    obtain rfl : entries = [] := h
    exact ⟨_, rfl, fun serviceType => environment.get?_merge settings serviceType⟩
  | some text =>
    have hentries := Json.ascending_stringFields.mp (Json.ascending_of_parse h)
    refine ⟨(environment.merge settings).merge (Scope.ofList entries), ?_, fun serviceType => ?_⟩
    · rw [resolve, Scope.ofText_eq_ok_iff.mpr ⟨entries, h, rfl⟩]
    · rw [Scope.get?_merge, Scope.get?_merge, Scope.get?_ofList hentries]

theorem resolve_eq_error_iff {environment settings : Scope} {option : Option String}
    {e : ScopeError} : resolve environment settings option = .error e ↔
      ∃ text fault, option = some text ∧ Scope.ofText text = .error fault ∧
        e = .invalidContextWrite (.scope fault) := by
  cases option with
  | none => simp [resolve]
  | some text =>
    cases htext : Scope.ofText text with
    | ok scope => simp [resolve, htext]
    | error fault =>
      simp only [resolve, htext, Except.error.injEq, Option.some.injEq]
      exact ⟨fun h => ⟨text, fault, rfl, htext, h.symm⟩,
        fun ⟨_, _, htext', hfault, he⟩ => by
          subst htext'
          rw [htext] at hfault
          rw [he, Except.error.inj hfault]⟩

/-- A scope is laid together from the variables, the settings and the option, or the text of the
option is no object of strings and the error tells of a faulty write. The variables give a value to
a service type that has a variable of its own, and to no other one. -/
theorem get?_resolve (lookup : String → Option String) (settings : Scope)
    (option : Option String) :
    (∀ e, resolve (ofVariables lookup) settings option = .error e →
      ∃ fault, e = .invalidContextWrite (.scope fault)) ∧
    ((∃ e, resolve (ofVariables lookup) settings option = .error e) ↔
      ∃ text, option = some text ∧
        ∀ entries, Json.parse text ≠ .ok (.object (Json.stringFields entries))) ∧
    ∀ entries, Given option entries →
      ∃ scope, resolve (ofVariables lookup) settings option = .ok scope ∧
        ∀ serviceType, scope.get? serviceType = (Entries.find? serviceType entries).or
          ((settings.get? serviceType).or ((ownVariables.lookup serviceType).bind fun name =>
            ((lookup name).filter (· ≠ "")).or ((lookup "OS_REGION_NAME").filter (· ≠ "")))) := by
  refine ⟨fun e he => ?_, ⟨?_, ?_⟩, fun entries hentries => ?_⟩
  · obtain ⟨_, fault, -, -, rfl⟩ := resolve_eq_error_iff.mp he
    exact ⟨fault, rfl⟩
  · rintro ⟨e, he⟩
    obtain ⟨text, fault, rfl, hfault, -⟩ := resolve_eq_error_iff.mp he
    refine ⟨text, rfl, fun entries hparse => ?_⟩
    rw [Scope.ofText_eq_ok_iff.mpr ⟨entries, hparse, rfl⟩] at hfault
    cases hfault
  · rintro ⟨text, rfl, hparse⟩
    cases htext : Scope.ofText text with
    | error fault => exact ⟨_, resolve_eq_error_iff.mpr ⟨text, fault, rfl, htext, rfl⟩⟩
    | ok scope =>
      obtain ⟨entries, hentries, -⟩ := Scope.ofText_eq_ok_iff.mp htext
      exact (hparse entries hentries).elim
  · obtain ⟨scope, hscope, hget⟩ := get?_of_given hentries (ofVariables lookup) settings
    refine ⟨scope, hscope, fun serviceType => ?_⟩
    rw [hget, get?_ofVariables]

/-- An option, settings and variables that overlap: `network` has the value of the option, also an
empty one, `image` that of the settings, `compute` that of its own variable, and the variable of
`identity` is empty. -/
theorem get?_resolve_layers :
    let lookup := fun name => [("OS_SCOPE_COMPUTE", "RegionC"), ("OS_SCOPE_IDENTITY", ""),
      ("OS_SCOPE_IMAGE", "RegionI"), ("OS_REGION_NAME", "RegionAll")].lookup name
    let settings := Scope.ofList [("image", "RegionS"), ("network", "RegionS"), ("volume", "")]
    let option := some "\x7b \"network\": \"\" \x7d"
    Given option [("network", "")] ∧
      ∃ scope, resolve (ofVariables lookup) settings option = .ok scope ∧
        ["network", "image", "volume", "compute", "identity", "placement", "dns"].map scope.get? =
          [some "", some "RegionS", some "", some "RegionC", some "RegionAll", some "RegionAll",
            none] := by
  intro lookup settings option
  have hgiven : Given option [("network", "")] := by cbv
  obtain ⟨scope, hscope, hget⟩ := (get?_resolve lookup settings option).2.2 _ hgiven
  refine ⟨hgiven, scope, hscope, ?_⟩
  simp only [List.map_cons, List.map_nil, hget]
  decide +kernel

end Shell

end CloudScope
