import CloudScope.Proofs.Json.Values
import CloudScope.Scope.Text

/-!
# The written form of a scope

A scope is read back from its written form (`ofText_text`), and no other text of it has fewer bytes
(`size_text_le`).
-/

namespace CloudScope

/-! ## Entries in their order -/

namespace Entries

variable {β γ : Type} {key : String} {value : β} {l : List (String × β)}

theorem insert_of_forall_lt (h : ∀ e ∈ l, e.1 < key) :
    insert key value l = l ++ [(key, value)] := by
  induction l with
  | nil => rfl
  | cons e l ih =>
    obtain ⟨he, hl⟩ := List.forall_mem_cons.mp h
    have hne : key ≠ e.1 := fun heq => String.lt_irrefl _ (heq ▸ he)
    rw [insert, if_neg (String.lt_asymm he), if_neg hne, ih hl, List.cons_append]

/-- Entries that are in order stay as they are. -/
theorem ofList_of_ascending (h : Ascending l) : ofList l = l := by
  suffices hall : ∀ before, Ascending (before ++ l) →
      l.foldl (fun m e => insert e.1 e.2 m) before = before ++ l from hall [] h
  clear h
  induction l with
  | nil => exact fun before _ => (List.append_nil before).symm
  | cons e l ih =>
    intro before h
    have hbefore : ∀ a ∈ before, a.1 < e.1 := fun a ha =>
      (List.pairwise_append.mp h).2.2 a ha e List.mem_cons_self
    rw [List.foldl_cons, insert_of_forall_lt hbefore, ih _ (by simpa using h)]
    simp

theorem ascending_ofList (l : List (String × β)) : Ascending (ofList l) := by
  suffices h : ∀ before : List (String × β), Ascending before →
      Ascending (l.foldl (fun m e => insert e.1 e.2 m) before) from h [] .nil
  induction l with
  | nil => exact fun _ h => h
  | cons e l ih => exact fun before h => ih _ (h.insert e.1 e.2)

theorem find?_insert_self (key : String) (value : β) (l : List (String × β)) :
    find? key (insert key value l) = some value := by
  induction l with
  | nil => exact if_pos rfl
  | cons e l ih =>
    rw [insert]
    split
    · exact if_pos rfl
    split
    · exact if_pos rfl
    · next hne => rwa [find?, if_neg (Ne.symm hne)]

theorem find?_insert_of_ne {other : String} (hne : other ≠ key) (value : β)
    (l : List (String × β)) : find? other (insert key value l) = find? other l := by
  induction l with
  | nil => exact if_neg (Ne.symm hne)
  | cons e l ih =>
    rw [insert]
    split
    · exact if_neg (Ne.symm hne)
    split
    · next heq => rw [find?, find?, if_neg (Ne.symm hne), if_neg (heq ▸ Ne.symm hne)]
    · rw [find?, find?, ih]

theorem map_insert (f : β → γ) (key : String) (value : β) (l : List (String × β)) :
    (insert key value l).map (fun e => (e.1, f e.2)) =
      insert key (f value) (l.map fun e => (e.1, f e.2)) := by
  induction l with
  | nil => rfl
  | cons e l ih =>
    simp only [insert, List.map_cons]
    split
    · rfl
    split
    · rfl
    · rw [List.map_cons, ih]

end Entries

namespace Scope

variable {s t : Scope}

theorem get?_insert_self (s : Scope) (serviceType value : String) :
    (s.insert serviceType value).get? serviceType = some value :=
  Entries.find?_insert_self ..

theorem get?_insert_of_ne {serviceType other : String} (hne : other ≠ serviceType) (s : Scope)
    (value : String) : (s.insert serviceType value).get? other = s.get? other :=
  Entries.find?_insert_of_ne hne ..

/-- Whether a scope is another one but for the value of one service type. -/
structure Assigned (s : Scope) (serviceType value : String) (t : Scope) : Prop where
  slot : t.get? serviceType = some value
  others : ∀ other ≠ serviceType, t.get? other = s.get? other

theorem assigned_insert (s : Scope) (serviceType value : String) :
    s.Assigned serviceType value (s.insert serviceType value) where
  slot := s.get?_insert_self serviceType value
  others _ hne := s.get?_insert_of_ne hne value

theorem toList_ofList (entries : List (String × String)) :
    (ofList entries).toList = Entries.ofList entries := by
  suffices h : ∀ s : Scope, (entries.foldl (fun s e => s.insert e.1 e.2) s).toList =
      entries.foldl (fun m e => Entries.insert e.1 e.2 m) s.toList from h empty
  induction entries with
  | nil => exact fun s => rfl
  | cons e entries ih => exact fun s => ih _

theorem ofList_toList (s : Scope) : ofList s.toList = s :=
  ext ((toList_ofList s.toList).trans (Entries.ofList_of_ascending s.ascending))

/-! ## Reading the written form -/

theorem foldlM_addField (entries : List (String × String)) :
    ∀ s : Scope, (Json.stringFields entries).foldlM addField s =
      .ok (entries.foldl (fun s e => s.insert e.1 e.2) s) := by
  induction entries with
  | nil => exact fun s => rfl
  | cons e entries ih => exact fun s => ih _

theorem exists_of_foldlM_addField {fields : List (String × Json)} :
    ∀ {s : Scope}, fields.foldlM addField s = .ok t →
      ∃ entries, fields = Json.stringFields entries := by
  induction fields with
  | nil => exact fun _ => ⟨[], rfl⟩
  | cons e fields ih =>
    intro s h
    obtain ⟨serviceType, j⟩ := e
    cases j with
    | string value =>
      obtain ⟨entries, rfl⟩ := ih (s := s.insert serviceType value) h
      exact ⟨(serviceType, value) :: entries, rfl⟩
    | null | boolean | number | array | object => cases h

/-- The JSON values that are scopes are the objects of strings. -/
theorem ofJson_eq_ok_iff {j : Json} : ofJson j = .ok s ↔
    ∃ entries, j = .object (Json.stringFields entries) ∧ s = ofList entries := by
  constructor
  · intro h
    cases j with
    | object fields =>
      obtain ⟨entries, rfl⟩ := exists_of_foldlM_addField h
      exact ⟨entries, rfl, Except.ok.inj (h.symm.trans (foldlM_addField entries empty))⟩
    | null | boolean | number | string | array => cases h
  · rintro ⟨entries, rfl, rfl⟩
    exact foldlM_addField entries empty

theorem parse_text (s : Scope) :
    Json.parse s.text = .ok (.object (Json.stringFields s.toList)) := by
  have hfields : Json.ofFields (Json.stringFields s.toList) =
      .object (Json.stringFields s.toList) := by
    rw [Json.ofFields, Entries.ofList_of_ascending (Json.ascending_stringFields.mpr s.ascending)]
  rw [Json.parse, text, String.toList_ofList, ← hfields]
  exact Json.blank_nil.complete_of_gives (Json.gives_value_compact 126 s.toList)

/-- A scope is read back from its written form. -/
theorem ofText_text (s : Scope) : ofText s.text = .ok s := by
  rw [ofText, parse_text]
  exact (foldlM_addField s.toList empty).trans (congrArg Except.ok (ofList_toList s))

/-! ## The size of the written form -/

theorem fieldsSize_of_addField_eq_ok {e : String × Json} (h : s.addField e = .ok t) :
    Json.fieldsSize (Json.stringFields t.toList) ≤
      Json.fieldsSize (e :: Json.stringFields s.toList) := by
  unfold addField at h
  split at h
  · next serviceType value =>
    cases h
    rw [Json.stringFields, insert, Entries.map_insert]
    exact Json.fieldsSize_insert_le _ _ _
  · cases h

theorem fieldsSize_of_foldlM_eq_ok {fields : List (String × Json)} :
    ∀ {s : Scope}, fields.foldlM addField s = .ok t →
      Json.fieldsSize (Json.stringFields t.toList) ≤
        Json.fieldsSize fields + Json.fieldsSize (Json.stringFields s.toList) := by
  induction fields with
  | nil =>
    intro s h
    cases h
    exact Nat.le_add_left _ _
  | cons e fields ih =>
    intro s h
    rcases hadd : s.addField e with fault | s'
    · rw [List.foldlM_cons, hadd] at h
      cases h
    · rw [List.foldlM_cons, hadd] at h
      have := ih h
      have := fieldsSize_of_addField_eq_ok hadd
      rw [Json.fieldsSize_cons] at *
      omega

/-- No text of a scope has fewer bytes than its written form. -/
theorem size_text_le {j : String} (h : ofText j = .ok s) :
    Utf8.size s.text.toList ≤ Utf8.size j.toList := by
  unfold ofText at h
  split at h
  · cases h
  · next value hparse =>
    obtain ⟨rest, hgives, -⟩ := Json.complete_eq_ok_iff.mp hparse
    have hsize := Json.size_of_gives_value hgives
    unfold ofJson at h
    split at h
    · next fields =>
      have hfields := fieldsSize_of_foldlM_eq_ok h
      rw [text, String.toList_ofList, Json.size_compact, Json.writtenSize]
      rw [Json.writtenSize] at hsize
      have hempty : Json.fieldsSize (Json.stringFields empty.toList) = 0 := rfl
      omega
    · cases h

end Scope

end CloudScope
