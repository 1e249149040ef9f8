import CloudScope.Proofs.Http.Tokens

/-!
# Spellings of scopes in headers

Other programs may escape what they put into a header, and leave blanks around it. Whatever they
escape, a scope is understood, under `X-Scope` as well as behind a token
(`Headers.scope?_of_surrounds`).
-/

namespace CloudScope

open Percent (Spells)

variable {text spelling front back : List Char} {c : Char}

/-! ## Blanks around a text -/

/-- Whether a value is a spelling of a text, with any blanks around it. -/
def Surrounds (value text : List Char) : Prop :=
  ∃ front spelling back, value = front ++ (spelling ++ back) ∧
    (∀ c ∈ front, Text.isBlank c = true) ∧ (∀ c ∈ back, Text.isBlank c = true) ∧
    Spells text spelling

/-- Blanks around a text go, and so do those at its front, if its last character is no blank. -/
theorem Text.trim_surrounded (hfront : ∀ c ∈ front, isBlank c = true)
    (hback : ∀ c ∈ back, isBlank c = true) (hc : isBlank c = false) :
    trim (front ++ (text ++ [c] ++ back)) = (text ++ [c]).dropWhile isBlank := by
  obtain ⟨rest, hrest⟩ : ∃ rest, (text ++ [c]).dropWhile isBlank = rest ++ [c] := by
    rcases List.eq_nil_or_concat' ((text ++ [c]).dropWhile isBlank) with hnil | ⟨rest, d, hd⟩
    · rw [List.dropWhile_eq_nil_iff] at hnil
      simp [hnil c (by simp)] at hc
    · have hsuffix := List.dropWhile_suffix isBlank (l := text ++ [c])
      rw [hd] at hsuffix ⊢
      have hlast := List.IsSuffix.getLast hsuffix (by simp)
      exact ⟨rest, by simpa using hlast⟩
  have hdrop : (front ++ (text ++ [c] ++ back)).dropWhile isBlank = rest ++ [c] ++ back := by
    rw [List.dropWhile_append_of_pos hfront, List.dropWhile_append, hrest]
    simp
  have hend : (rest ++ [c] ++ back).reverse = back.reverse ++ c :: rest.reverse := by simp
  have hblank : ∀ d ∈ back.reverse, isBlank d = true := fun d hd => hback d (List.mem_reverse.mp hd)
  rw [trim, hdrop, hend, List.dropWhile_append_of_pos hblank,
    List.dropWhile_cons_of_neg (by simp [hc]), hrest, List.reverse_cons, List.reverse_reverse]

theorem isBlank_of_isDigit {value : Nat} (h : Percent.IsDigit value c) :
    Text.isBlank c = false := by
  have hdigits : ∀ digits ∈ ["0123456789abcdef".toList, "0123456789ABCDEF".toList],
      digits.all (fun c => !Text.isBlank c) = true := by decide
  have hof : ∀ digits ∈ ["0123456789abcdef".toList, "0123456789ABCDEF".toList],
      digits[value]? = some c → Text.isBlank c = false := fun digits hmem hc => by
    simpa using List.all_eq_true.mp (hdigits digits hmem) c (List.mem_of_getElem? hc)
  rcases h with h | h
  · exact hof _ List.mem_cons_self h
  · exact hof _ (List.mem_cons_of_mem _ List.mem_cons_self) h

/-- The escapes of some bytes begin with a percent sign and end in a digit. -/
theorem exists_of_escapes {written : List UInt8} {escapes : List (List Char)}
    (h : List.Forall₂ Percent.IsEscape written escapes) (hne : written ≠ []) :
    ∃ inner d, escapes.flatten = '%' :: (inner ++ [d]) ∧ Text.isBlank d = false := by
  induction h with
  | nil => exact absurd rfl hne
  | @cons byte escape written escapes hescape hrest ih =>
    obtain ⟨a, b, -, hb, rfl⟩ := hescape
    rcases hrest with _ | ⟨_, _⟩
    · exact ⟨[a], b, rfl, isBlank_of_isDigit hb⟩
    · obtain ⟨inner, d, hd, hblank⟩ := ih (List.cons_ne_nil _ _)
      exact ⟨a :: b :: '%' :: inner, d, by rw [List.flatten_cons, hd]; rfl, hblank⟩

theorem Utf8.encodeChar_ne_nil (c : Char) : encodeChar c ≠ [] :=
  List.ne_nil_of_length_pos (by
    rw [length_encodeChar]
    exact c.utf8Size_pos)

/-- What is left of a spelling without the blanks at its front spells the text without some of the
blanks at its front. -/
theorem Percent.Spells.dropWhile_isBlank (h : Spells text spelling) :
    ∃ front rest, text = front ++ rest ∧ (∀ c ∈ front, Text.isBlank c = true) ∧
      Spells rest (spelling.dropWhile Text.isBlank) := by
  induction h with
  | nil => exact ⟨[], [], rfl, by simp, .nil⟩
  | @plain c text spelling hc hspells ih =>
    by_cases hblank : Text.isBlank c = true
    · obtain ⟨front, rest, rfl, hfront, hrest⟩ := ih
      rw [List.dropWhile_cons_of_pos hblank]
      exact ⟨c :: front, rest, rfl, List.forall_mem_cons.mpr ⟨hblank, hfront⟩, hrest⟩
    · rw [List.dropWhile_cons_of_neg hblank]
      exact ⟨[], c :: text, rfl, by simp, .plain hc hspells⟩
  | @escaped c escapes text spelling hescapes hspells ih =>
    obtain ⟨inner, d, hflatten, -⟩ := exists_of_escapes hescapes (Utf8.encodeChar_ne_nil c)
    have hpercent : Text.isBlank '%' = false := by decide
    refine ⟨[], c :: text, rfl, by simp, ?_⟩
    rw [hflatten, List.cons_append, List.dropWhile_cons_of_neg (by simp [hpercent]),
      ← List.cons_append, ← hflatten]
    exact .escaped hescapes hspells

/-- A spelling of a text that does not end in a blank does not either. -/
theorem Percent.Spells.exists_last (h : Spells (text ++ [c]) spelling)
    (hc : Text.isBlank c = false) :
    ∃ most d, spelling = most ++ [d] ∧ Text.isBlank d = false := by
  generalize htext : text ++ [c] = whole at h
  induction h generalizing text with
  | nil => simp at htext
  | @plain first _ _ _ hspells ih =>
    rcases text with _ | ⟨_, text⟩
    · cases htext
      cases hspells
      exact ⟨[], c, rfl, hc⟩
    · cases htext
      obtain ⟨most, d, rfl, hd⟩ := ih rfl
      exact ⟨first :: most, d, rfl, hd⟩
  | @escaped _ escapes _ _ hescapes hspells ih =>
    rcases text with _ | ⟨a, text⟩
    · cases htext
      cases hspells
      obtain ⟨inner, d, hflatten, hd⟩ := exists_of_escapes hescapes (Utf8.encodeChar_ne_nil c)
      exact ⟨'%' :: inner, d, by rw [hflatten, List.append_nil]; rfl, hd⟩
    · cases htext
      obtain ⟨most, d, rfl, hd⟩ := ih rfl
      exact ⟨escapes.flatten ++ most, d, (List.append_assoc ..).symm, hd⟩

/-- A value that surrounds a text is read as the text, without some of the blanks at its front. -/
theorem exists_decode_of_surrounds {value : List Char} (h : Surrounds value (text ++ [c]))
    (hc : Text.isBlank c = false) : ∃ front rest, text ++ [c] = front ++ rest ∧
      (∀ c ∈ front, Text.isBlank c = true) ∧ Percent.decode (Text.trim value) = .ok rest := by
  obtain ⟨front, spelling, back, rfl, hfront, hback, hspells⟩ := h
  obtain ⟨most, d, rfl, hd⟩ := hspells.exists_last hc
  obtain ⟨blanks, rest, htext, hblanks, hrest⟩ := hspells.dropWhile_isBlank
  rw [Text.trim_surrounded hfront hback hd]
  exact ⟨blanks, rest, htext, hblanks, hrest.decode_eq⟩

/-! ## The first delimiter -/

/-- A token is parted from what is behind it if no delimiter begins in it. -/
theorem splitToken_of_leftmost (token : List Char) {rest : List Char}
    (h : ∀ before after, token ++ (delimiter ++ rest) = before ++ (delimiter ++ after) →
      token.length ≤ before.length) :
    splitToken (token ++ (delimiter ++ rest)) = (token, some rest) := by
  induction token with
  | nil => exact splitToken_delimiter_append rest
  | cons c token ih =>
    have hnone : delimiter.isPrefixOf? (c :: token ++ (delimiter ++ rest)) = none := by
      rw [← Option.not_isSome_iff_eq_none, List.isSome_isPrefixOf?_eq_isPrefixOf,
        List.isPrefixOf_iff_prefix]
      rintro ⟨after, hafter⟩
      exact absurd (h [] after hafter.symm) (by simp)
    have hrest := ih fun before after heq =>
      Nat.le_of_succ_le_succ (h (c :: before) after (congrArg (c :: ·) heq))
    rw [List.cons_append, splitToken, ← List.cons_append, hnone, hrest]

/-- A token without some of the blanks at its front is parted just as well. -/
theorem exists_of_blank_front {token rest chars : List Char}
    (hfront : ∀ c ∈ front, Text.isBlank c = true)
    (h : token ++ (delimiter ++ rest) = front ++ chars) :
    ∃ bare, token = front ++ bare ∧ chars = bare ++ (delimiter ++ rest) := by
  rcases List.append_eq_append_iff.mp h with ⟨_ | ⟨c, blanks⟩, rfl, hchars⟩ | ⟨bare, rfl, hchars⟩
  · exact ⟨[], by simp, hchars.symm⟩
  · -- the delimiter does not begin with a blank
    have hmark : c = '!' := (List.cons.inj hchars).1.symm
    have hblank := hfront c (by simp)
    rw [hmark] at hblank
    exact absurd hblank (by decide)
  · exact ⟨bare, rfl, hchars⟩

namespace Headers

/-- Whatever is escaped in the text of a scope, it is understood under `X-Scope`, and behind a token
if there is no such header and no delimiter begins in the token. -/
theorem scope?_of_surrounds (h : Headers) (s : Scope) :
    (∀ value, h.get? scopeHeader = some value → Surrounds value.toList s.text.toList →
      h.scope? = .ok (some s)) ∧
    ∀ token value, h.get? scopeHeader = none → h.get? tokenHeader = some value →
      (∀ before after, token ++ (delimiter ++ s.text.toList) = before ++ (delimiter ++ after) →
        token.length ≤ before.length) →
      Surrounds value.toList (token ++ (delimiter ++ s.text.toList)) →
      h.scope? = .ok (some s) := by
  have hread : Scope.ofText (String.ofList s.text.toList) = .ok s := by
    rw [String.ofList_toList, Scope.ofText_text]
  obtain ⟨inner, htext⟩ := s.exists_toList_text
  have hclosing : Text.isBlank '}' = false := by decide
  refine ⟨fun value hget hvalue => ?_, fun token value habsent hget hleftmost hvalue => ?_⟩
  · rw [htext, ← List.cons_append] at hvalue
    obtain ⟨front, rest, hsplit, hfront, hdecode⟩ := exists_decode_of_surrounds hvalue hclosing
    rw [List.cons_append, ← htext] at hsplit
    rcases front with _ | ⟨c, front⟩
    · cases hsplit
      exact scope?_eq_ok_iff.mpr
        (.header (carried?_eq_ok_some_iff.mpr ⟨value, hget, hdecode⟩) hread)
    · -- the text does not begin with a blank
      rw [htext] at hsplit
      have hopening : c = '{' := (List.cons.inj hsplit).1.symm
      have hblank := hfront c List.mem_cons_self
      rw [hopening] at hblank
      exact absurd hblank (by decide)
  · have hwhole : token ++ (delimiter ++ s.text.toList) =
        token ++ (delimiter ++ '{' :: inner) ++ ['}'] := by
      rw [htext, List.append_assoc, List.append_assoc, List.cons_append]
    rw [hwhole] at hvalue
    obtain ⟨front, rest, hsplit, hfront, hdecode⟩ := exists_decode_of_surrounds hvalue hclosing
    rw [← hwhole] at hsplit
    obtain ⟨bare, rfl, rfl⟩ := exists_of_blank_front hfront hsplit
    have hparted := splitToken_of_leftmost bare fun before after heq => by
      have hle := hleftmost (front ++ before) after (by
        rw [List.append_assoc, heq, List.append_assoc])
      simpa using hle
    exact scope?_eq_ok_iff.mpr (.token habsent
      (carried?_eq_ok_some_iff.mpr ⟨value, hget, hdecode⟩) (congrArg Prod.snd hparted) hread)

/-- A scope with a percent sign and a letter beyond ASCII, with some of its characters escaped. -/
theorem scope?_of_surrounds_escaped :
    let s : Scope := ⟨[("a", "é%")], List.pairwise_singleton _ _⟩
    let spelling := "%7b\"a\":%22%C3%a9%25\"\x7d"
    let h : Headers := ⟨[("x-scope", "\u00a0" ++ spelling ++ " \t")]⟩
    let h' : Headers := ⟨[("Accept", "*"), ("X-Auth-Token", " !S%21SCOPE!" ++ spelling)]⟩
    h.scope? = .ok (some s) ∧ h'.scope? = .ok (some s) := by
  intro s spelling h h'
  have hopening : List.Forall₂ Percent.IsEscape (Utf8.encodeChar '{') [['%', '7', 'b']] :=
    .cons ⟨'7', 'b', .inl (by decide), .inl (by decide), rfl⟩ .nil
  have hquote : List.Forall₂ Percent.IsEscape (Utf8.encodeChar '"') [['%', '2', '2']] :=
    .cons ⟨'2', '2', .inl (by decide), .inl (by decide), rfl⟩ .nil
  have hletter : List.Forall₂ Percent.IsEscape (Utf8.encodeChar 'é')
      [['%', 'C', '3'], ['%', 'a', '9']] :=
    .cons ⟨'C', '3', .inr (by decide), .inl (by decide), rfl⟩
      (.cons ⟨'a', '9', .inl (by decide), .inl (by decide), rfl⟩ .nil)
  have hpercent : List.Forall₂ Percent.IsEscape (Utf8.encodeChar '%') [['%', '2', '5']] :=
    .cons ⟨'2', '5', .inl (by decide), .inl (by decide), rfl⟩ .nil
  have hmark : List.Forall₂ Percent.IsEscape (Utf8.encodeChar '!') [['%', '2', '1']] :=
    .cons ⟨'2', '1', .inl (by decide), .inl (by decide), rfl⟩ .nil
  have htext : s.text.toList = ['{', '"', 'a', '"', ':', '"', 'é', '%', '"', '}'] := by
    decide
  have hscope : Spells s.text.toList spelling.toList := by
    have hspelling : spelling.toList = ['%', '7', 'b', '"', 'a', '"', ':', '%', '2', '2', '%', 'C',
        '3', '%', 'a', '9', '%', '2', '5', '"', '}'] := by decide
    rw [htext, hspelling]
    refine .escaped hopening (.plain ?_ (.plain ?_ (.plain ?_ (.plain ?_ (.escaped hquote
      (.escaped hletter (.escaped hpercent (.plain ?_ (.plain ?_ .nil)))))))))
    all_goals decide
  have hall : Spells ([' ', '!', 'S'] ++ (delimiter ++ s.text.toList))
      (" !S%21SCOPE!" ++ spelling).toList := by
    rw [String.toList_append]
    have hmarked : " !S%21SCOPE!".toList =
        [' ', '!', 'S', '%', '2', '1', 'S', 'C', 'O', 'P', 'E', '!'] := by decide
    rw [hmarked]
    refine .plain ?_ (.plain ?_ (.plain ?_ (.escaped hmark (.plain ?_ (.plain ?_ (.plain ?_
      (.plain ?_ (.plain ?_ (.plain ?_ hscope)))))))))
    all_goals decide
  refine ⟨(scope?_of_surrounds h s).1 ("\u00a0" ++ spelling ++ " \t") (by decide)
    ⟨['\u00a0'], spelling.toList, [' ', '\t'], ?_, ?_, ?_, hscope⟩,
    (scope?_of_surrounds h' s).2 [' ', '!', 'S'] _ (by decide) (by decide) ?_
    ⟨[], _, [], (List.append_nil _).symm, by simp, by simp, hall⟩⟩
  · rw [String.toList_append, String.toList_append, List.append_assoc]
    rfl
  · exact List.forall_mem_singleton.mpr (by decide)
  · exact List.forall_mem_cons.mpr ⟨by decide, List.forall_mem_singleton.mpr (by decide)⟩
  · -- what stands at the first three places is no delimiter, though `!S` begins one
    intro before after heq
    match before, heq with
    | [], heq => exact absurd (List.cons.inj heq).1 (by decide)
    | [_], heq =>
      have hthird := (List.cons.inj (List.cons.inj (List.cons.inj heq).2).2).2
      exact absurd (List.cons.inj hthird).1 (by decide)
    | [_, _], heq =>
      exact absurd (List.cons.inj (List.cons.inj (List.cons.inj heq).2).2).1 (by decide)
    | _ :: _ :: _ :: _, _ => simp

end Headers

end CloudScope
