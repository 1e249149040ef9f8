import CloudScope.Proofs.Http.Channels

/-!
# Headers that change under few names

Putting values under names leaves the other entries of headers alone: each stays in its place, as it
is spelled and with its value, and what is new stands behind all of them.
-/

namespace CloudScope.Headers

variable {h h' h'' : Headers} {names names' : List String} {name value : String}
  {e : String × String} {l : List (String × String)} {i : Nat}

/-- Whether headers come from others by changes under some names only. -/
structure ChangesUnder (names : List String) (before after : Headers) : Prop where
  /-- Every entry stays in its place and as it is spelled. Its value changes only under one of the
  names. -/
  kept : ∀ (i : Nat) (name value : String), before.toList[i]? = some (name, value) →
    ∃ value', after.toList[i]? = some (name, value') ∧
      (value' = value ∨ ∃ n ∈ names, SameName name n)
  /-- What is new stands at the end, under one of the names. -/
  added : ∀ (i : Nat) (name value : String), before.toList.length ≤ i →
    after.toList[i]? = some (name, value) → ∃ n ∈ names, SameName name n

theorem ChangesUnder.refl (names : List String) (h : Headers) : h.ChangesUnder names h where
  kept _ _ value hi := ⟨value, hi, .inl rfl⟩
  added i name value hlength hi := by
    rw [List.getElem?_eq_none hlength] at hi
    cases hi

theorem ChangesUnder.mono (hchanges : h.ChangesUnder names h') (hsub : names ⊆ names') :
    h.ChangesUnder names' h' where
  kept i name value hi := by
    obtain ⟨value', hi', hvalue⟩ := hchanges.kept i name value hi
    exact ⟨value', hi', hvalue.imp_right fun ⟨n, hn, hsame⟩ => ⟨n, hsub hn, hsame⟩⟩
  added i name value hlength hi := by
    obtain ⟨n, hn, hsame⟩ := hchanges.added i name value hlength hi
    exact ⟨n, hsub hn, hsame⟩

theorem ChangesUnder.trans (hchanges : h.ChangesUnder names h')
    (hchanges' : h'.ChangesUnder names h'') : h.ChangesUnder names h'' where
  kept i name value hi := by
    obtain ⟨value', hi', hvalue⟩ := hchanges.kept i name value hi
    obtain ⟨value'', hi'', hvalue'⟩ := hchanges'.kept i name value' hi'
    refine ⟨value'', hi'', ?_⟩
    rcases hvalue with rfl | hnamed
    · exact hvalue'
    · exact .inr hnamed
  added i name value hlength hi := by
    rcases hentry : h'.toList[i]? with _ | ⟨name', value'⟩
    · exact hchanges'.added i name value (List.getElem?_eq_none_iff.mp hentry) hi
    · -- the entry was new before, and the last change left its name as it is spelled
      obtain ⟨_, hi', _⟩ := hchanges'.kept i name' value' hentry
      cases hi.symm.trans hi'
      exact hchanges.added i name value' hlength hentry

theorem kept_insertEntry (hi : l[i]? = some e) : ∃ value',
    (insertEntry name value l)[i]? = some (e.1, value') ∧ (value' = e.2 ∨ SameName e.1 name) := by
  induction l generalizing i with
  | nil => cases hi
  | cons d l ih =>
    rw [insertEntry]
    split
    · next hname =>
      cases i with
      | zero =>
        cases hi
        exact ⟨value, rfl, .inr hname⟩
      | succ i => exact ⟨e.2, hi, .inl rfl⟩
    · cases i with
      | zero => exact ⟨e.2, hi, .inl rfl⟩
      | succ i => exact ih hi

theorem added_insertEntry (hlength : l.length ≤ i)
    (hi : (insertEntry name value l)[i]? = some e) : SameName e.1 name := by
  induction l generalizing i with
  | nil =>
    cases i with
    | zero =>
      cases hi
      rfl
    | succ i => cases hi
  | cons d l ih =>
    cases i with
    | zero => cases hlength
    | succ i =>
      rw [List.length_cons, Nat.add_le_add_iff_right] at hlength
      rw [insertEntry] at hi
      split at hi
      · rw [List.getElem?_cons_succ, List.getElem?_eq_none hlength] at hi
        cases hi
      · exact ih hlength hi

theorem changesUnder_insert (h : Headers) (name value : String) :
    h.ChangesUnder [name] (h.insert name value) where
  kept _ _ _ hi := by
    obtain ⟨value', hi', hvalue⟩ := kept_insertEntry hi
    exact ⟨value', hi', hvalue.imp_right fun hname => ⟨name, List.mem_singleton_self name, hname⟩⟩
  added _ _ _ hlength hi := by
    have hname := added_insertEntry hlength hi
    exact ⟨name, List.mem_singleton_self name, hname⟩

/-- Putting a value under a name changes nothing if it is there already, and only then. -/
theorem insert_eq_self_iff : h.insert name value = h ↔ h.get? name = some value := by
  constructor
  · intro hsame
    rw [← hsame]
    exact get?_insert_self h name value
  · obtain ⟨l⟩ := h
    simp only [get?, insert, Headers.mk.injEq]
    intro hget
    induction l with
    | nil => cases hget
    | cons e l ih =>
      rw [insertEntry]
      split
      · next hname =>
        rw [List.find?_cons_of_pos (by simpa using hname)] at hget
        cases hget
        rfl
      · next hname =>
        rw [List.find?_cons_of_neg (by simpa using hname)] at hget
        rw [ih hget]

/-- Putting a value under a name that is there brings no name and moves none. -/
theorem map_fst_insert (hget : (h.get? name).isSome) :
    (h.insert name value).toList.map Prod.fst = h.toList.map Prod.fst := by
  obtain ⟨l⟩ := h
  simp only [get?, insert] at *
  induction l with
  | nil => cases hget
  | cons e l ih =>
    rw [insertEntry]
    split
    · rfl
    · next hname =>
      rw [List.find?_cons_of_neg (by simpa using hname)] at hget
      rw [List.map_cons, List.map_cons, ih hget]

theorem changesUnder_stripToken {stripped : Bool}
    (hstrip : h.stripToken name = .ok (h', stripped)) : h.ChangesUnder [name] h' := by
  rcases stripToken_eq_ok_iff.mp hstrip with ⟨_, _, _, hp⟩ | ⟨_, _, _, _, _, hp⟩
  · cases hp
    exact .refl _ h
  · cases hp
    exact changesUnder_insert h name _

end CloudScope.Headers
