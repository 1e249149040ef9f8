import CloudScope.Http.ScopeHeader
import CloudScope.Proofs.Scope.Text
import CloudScope.Proofs.Text.Percent
import Mathlib

/-!
# Scopes written into headers and read back

A scope is written as it is, but read with its escapes resolved. So it comes back if its text holds
no escape, and only then (`Headers.scope?_writeScope_iff`).
-/

namespace CloudScope

/-- Blanks in front of a text go, and none behind it if its last character is no blank. -/
theorem Text.trim_append {a b : Char} (ha : isBlank a = false) (hb : isBlank b = false)
    (front s : List Char) :
    trim (front ++ a :: (s ++ [b])) = front.dropWhile isBlank ++ a :: (s ++ [b]) := by
  have hfront : (front ++ a :: (s ++ [b])).dropWhile isBlank =
      front.dropWhile isBlank ++ a :: (s ++ [b]) := by
    induction front with
    | nil => exact List.dropWhile_cons_of_neg (by simp [ha])
    | cons c front ih =>
      by_cases hc : isBlank c = true
      · rw [List.cons_append, List.dropWhile_cons_of_pos hc, ih, List.dropWhile_cons_of_pos hc]
      · rw [List.cons_append, List.dropWhile_cons_of_neg hc, List.dropWhile_cons_of_neg hc,
          List.cons_append]
  have hback : (front.dropWhile isBlank ++ a :: (s ++ [b])).reverse =
      b :: (front.dropWhile isBlank ++ a :: s).reverse := by simp
  rw [trim, hfront, hback, List.dropWhile_cons_of_neg (by simp [hb]), ← hback, List.reverse_reverse]

theorem Scope.exists_toList_text (s : Scope) :
    ∃ inner, s.text.toList = '{' :: (inner ++ ['}']) := by
  rw [text, String.toList_ofList]
  exact ⟨_, rfl⟩

theorem Scope.trim_text (s : Scope) : Text.trim s.text.toList = s.text.toList := by
  obtain ⟨inner, htext⟩ := s.exists_toList_text
  rw [htext]
  exact Text.trim_append (by decide) (by decide) [] inner

theorem readScope_eq_ok_iff {header : String} {chars : List Char} {s : Scope} :
    readScope header chars = .ok s ↔ Scope.ofText (String.ofList chars) = .ok s := by
  rw [readScope]
  rcases Scope.ofText (String.ofList chars) with fault | t
  · simp
  · simp

namespace Headers

variable {h : Headers} {name other value : String} {s : Scope}

/-! ## Values under names -/

theorem get?_insert_self (h : Headers) (name value : String) :
    (h.insert name value).get? name = some value := by
  obtain ⟨l⟩ := h
  simp only [get?, insert]
  induction l with
  | nil => simp [insertEntry, SameName]
  | cons e l ih =>
    rw [insertEntry]
    split
    · next he => simp [List.find?_cons_of_pos, he]
    · next he => rwa [List.find?_cons_of_neg (by simpa using he)]

theorem get?_insert_of_not_sameName (hne : ¬ SameName name other) (h : Headers) (value : String) :
    (h.insert name value).get? other = h.get? other := by
  obtain ⟨l⟩ := h
  simp only [get?, insert]
  induction l with
  | nil => simp [insertEntry, hne]
  | cons e l ih =>
    rw [insertEntry]
    split
    · next he =>
      have hother : ¬ SameName e.1 other := fun heq => hne (he.symm.trans heq)
      rw [List.find?_cons_of_neg (by simpa using hother),
        List.find?_cons_of_neg (by simpa using hother)]
    · by_cases hother : SameName e.1 other
      · rw [List.find?_cons_of_pos (by simpa using hother),
          List.find?_cons_of_pos (by simpa using hother)]
      · rwa [List.find?_cons_of_neg (by simpa using hother),
          List.find?_cons_of_neg (by simpa using hother)]

/-! ## Writing a scope -/

/-- A scope that was written stands as it is under `X-Scope`. -/
theorem get?_writeScope (hw : (h.writeScope s).1 = .ok ()) :
    (h.writeScope s).2.get? scopeHeader = some s.text := by
  have hne : ¬ SameName tokenHeader scopeHeader := by decide
  unfold writeScope at hw ⊢
  dsimp only at hw ⊢
  split at hw
  · cases hw
  · exact get?_insert_self h scopeHeader s.text
  · rw [get?_insert_of_not_sameName hne]
    exact get?_insert_self h scopeHeader s.text

theorem scope?_of_get?_text (hget : h.get? scopeHeader = some s.text) :
    h.scope? = match Percent.decode s.text.toList with
      | .ok text => (readScope scopeHeader text).map some
      | .error fault => .error (.malformedHeader scopeHeader (.escape fault)) := by
  unfold scope? carried?
  rw [hget]
  dsimp only
  rw [s.trim_text]
  rcases Percent.decode s.text.toList with fault | text
  · rfl
  · change (readScope scopeHeader text >>= fun s => pure (some s)) =
      (readScope scopeHeader text).map some
    rcases readScope scopeHeader text with e | t <;> rfl

/-- A scope that was written is read back if its text holds no escape, and only then: its text with
the escapes resolved is shorter than any text of it. -/
theorem scope?_writeScope_iff (h : Headers) (s : Scope) (hw : (h.writeScope s).1 = .ok ()) :
    (h.writeScope s).2.scope? = .ok (some s) ↔ ¬ Percent.HasEscape s.text.toList := by
  rw [scope?_of_get?_text (get?_writeScope hw)]
  constructor
  · intro hread hescape
    rcases hdecode : Percent.decode s.text.toList with fault | text
    · rw [hdecode] at hread
      cases hread
    · rw [hdecode] at hread
      obtain ⟨t, ht, hts⟩ := exists_of_map_eq_ok hread
      cases hts
      have hshorter := Percent.size_lt_of_decode_eq_ok hescape hdecode
      have hleast := Scope.size_text_le (readScope_eq_ok_iff.mp ht)
      rw [String.toList_ofList] at hleast
      omega
  · intro hescape
    have htext : readScope scopeHeader s.text.toList = .ok s := by
      rw [readScope_eq_ok_iff, String.ofList_toList, Scope.ofText_text]
    rw [Percent.decode_of_not_hasEscape hescape]
    dsimp only
    rw [htext]
    rfl

/-- A scope beside a token, whose text looks as if it held an escape. -/
theorem scope?_writeScope_iff_percent :
    let h : Headers := ⟨[("X-Auth-Token", "t")]⟩
    let s : Scope := ⟨[("compute", "%41")], List.pairwise_singleton _ _⟩
    (h.writeScope s).1 = .ok () ∧
      ((h.writeScope s).2.scope? = .ok (some s) ↔ ¬ Percent.HasEscape s.text.toList) := by
  intro h s
  have htoken : (h.setScope s).carried? tokenHeader = .ok (some ['t']) := by
    have hget : (h.setScope s).get? tokenHeader = some "t" := rfl
    have htrim : Text.trim ['t'] = ['t'] := by decide
    have hdecode : Percent.decode ['t'] = .ok ['t'] := by cbv
    simp [carried?, hget, htrim, hdecode]
  have hw : (h.writeScope s).1 = .ok () := by simp [writeScope, htoken]
  exact ⟨hw, scope?_writeScope_iff h s hw⟩

end Headers

end CloudScope
