import CloudScope.Json.Reader
import CloudScope.Proofs.Json.Grammar
import CloudScope.Proofs.Text.Readings
import CloudScope.Proofs.Text.Utf8

/-!
# JSON strings back and forth

Every text of a string is read as that string, and none has fewer bytes than the written one.
-/

namespace CloudScope.Json

variable {c d : Char} {n : Nat} {s rest : List Char}

/-! ## The forms of a character -/

/-- A character is written by a letter, by its number, or as it is. -/
theorem escape_cases (c : Char) :
    (∃ d, escape c = ['\\', d] ∧ d ≠ 'u' ∧ shortEscape? d = some c) ∨
    (escape c = ['\\', 'u', '0', '0', hexDigit (c.toNat / 16), hexDigit (c.toNat % 16)] ∧
      c.toNat < 0x20) ∨
    (escape c = [c] ∧ c ≠ '"' ∧ c ≠ '\\' ∧ ¬ c.toNat < 0x20) := by
  unfold escape
  split_ifs with hquote hslash hb hf hn hr ht hlow
  all_goals try subst c
  · exact .inl ⟨'"', rfl, by decide⟩
  · exact .inl ⟨'\\', rfl, by decide⟩
  · exact .inl ⟨'b', rfl, by decide⟩
  · exact .inl ⟨'f', rfl, by decide⟩
  · exact .inl ⟨'n', rfl, by decide⟩
  · exact .inl ⟨'r', rfl, by decide⟩
  · exact .inl ⟨'t', rfl, by decide⟩
  · exact .inr (.inl ⟨rfl, hlow⟩)
  · exact .inr (.inr ⟨rfl, hquote, hslash, hlow⟩)

theorem escape_of_plain (hquote : c ≠ '"') (hslash : c ≠ '\\') (hlow : ¬ c.toNat < 0x20) :
    escape c = [c] := by
  unfold escape
  split_ifs
  all_goals first | rfl | contradiction | exact absurd (by subst c; decide) hlow

/-! ## Reading the texts of a string -/

theorem hexDigit?_hexDigit : ∀ n, n < 16 → Text.hexDigit? (hexDigit n) = some n := by
  decide

theorem hexDigit?_of_isHexDigit (h : IsHexDigit n c) (hn : n < 16) : Text.hexDigit? c = some n := by
  have hupper : ∀ n < 16, Text.hexDigit? (hexDigit n).toUpper = some n := by decide
  rcases h with rfl | rfl
  · exact hexDigit?_hexDigit n hn
  · exact hupper n hn

theorem IsCodeUnit.gives_codeUnit (h : IsCodeUnit n s) (rest : List Char) :
    Gives (codeUnit (s ++ rest)) n rest := by
  obtain ⟨hn, _, _, _, _, rfl, ha, hb, hc, hd⟩ := h
  simp only [List.cons_append, List.nil_append, codeUnit, hexDigit?_of_isHexDigit ha (by omega),
    hexDigit?_of_isHexDigit hb (by omega), hexDigit?_of_isHexDigit hc (by omega),
    hexDigit?_of_isHexDigit hd (by omega)]
  exact Gives.ok_iff.mpr ⟨by omega, rfl⟩

/-- Whether a reader reads the texts of a character behind a backslash and the letter `u`. -/
def ReadsNumbers (unicode : TextReader Char) (numbers : List Char → Char → Prop) : Prop :=
  ∀ {s c}, numbers s c → ∀ rest, Gives (unicode (s ++ rest)) c rest

theorem readsNumbers_unicodeEscape : ReadsNumbers unicodeEscape Numbers := by
  intro s c h rest
  have hvalid : c.toNat < 0xD800 ∨ 0xDFFF < c.toNat ∧ c.toNat < 0x110000 := c.valid
  cases h with
  | unit h =>
    have hlow : isLowSurrogate c.toNat = false := by simp [isLowSurrogate]; omega
    have hhigh : isHighSurrogate c.toNat = false := by simp [isHighSurrogate]; omega
    obtain ⟨_, hunit⟩ := h.gives_codeUnit rest
    rw [unicodeEscape, hunit]
    simp [hlow, hhigh, Gives.ok_iff]
  | @pair high low _ hlarge h h' =>
    generalize hm : 0xD800 + (c.toNat - 0x10000) / 0x400 = m at h
    generalize hm' : 0xDC00 + (c.toNat - 0x10000) % 0x400 = m' at h'
    have hlow : isLowSurrogate m = false := by simp [isLowSurrogate]; omega
    have hhigh : isHighSurrogate m = true := by simp [isHighSurrogate]; omega
    have hlow' : isLowSurrogate m' = true := by simp [isLowSurrogate]; omega
    have hvalue : 0x10000 + (m - 0xD800) * 0x400 + (m' - 0xDC00) = c.toNat := by omega
    obtain ⟨_, hunit⟩ := h.gives_codeUnit ('\\' :: 'u' :: (low ++ rest))
    obtain ⟨_, hunit'⟩ := h'.gives_codeUnit rest
    rw [List.append_assoc, List.cons_append, List.cons_append, unicodeEscape, hunit]
    simp [hlow, hhigh, lowSurrogate, hunit', hlow', hvalue, Gives.ok_iff, Rest.trans, Rest.behind]

theorem readsNumbers_slight : ReadsNumbers slight.unicode NumbersAny := by
  rintro s _ ⟨rfl, n, h⟩ rest
  exact (h.gives_codeUnit rest).map fun _ => ⟨rfl, rfl⟩

section

variable {unicode : TextReader Char} {cs : List Char} {mid : List Char}

theorem gives_stringTail_nil (h : Gives (stringChar unicode s) none rest) :
    Gives (stringTail unicode s) [] rest := by
  obtain ⟨_, h⟩ := h
  rw [stringTail, h]
  exact .of_eq rfl

theorem gives_stringTail_cons (hc : Gives (stringChar unicode s) (some c) mid)
    (h : Gives (stringTail unicode mid) cs rest) :
    Gives (stringTail unicode s) (c :: cs) rest := by
  obtain ⟨_, hc⟩ := hc
  obtain ⟨_, h⟩ := h
  rw [stringTail, hc]
  dsimp only
  rw [h]
  exact .of_eq rfl

/-- The texts of a string are read up to the quote that ends them. -/
theorem Spells.gives_stringTail {numbers : List Char → Char → Prop} (h : Spells numbers s cs)
    (hunicode : ReadsNumbers unicode numbers) (rest : List Char) :
    Gives (stringTail unicode (s ++ '"' :: rest)) cs rest := by
  induction h with
  | nil => exact gives_stringTail_nil (.of_eq rfl)
  | plain hquote hslash hlow _ ih =>
    refine gives_stringTail_cons ?_ ih
    rw [List.cons_append, stringChar, if_neg hlow]
    · exact .of_eq rfl
    · exact hquote
    · exact fun h _ => hslash h
    · exact fun _ h _ => hslash h
    · exact fun _ _ h _ => hslash h
  | short hmem _ ih =>
    have hshort : ∀ e ∈ shortEscapes, e.1 ≠ 'u' ∧ shortEscape? e.1 = some e.2 := by decide
    obtain ⟨hne, heq⟩ := hshort _ hmem
    refine gives_stringTail_cons ?_ ih
    rw [List.cons_append, List.cons_append, stringChar, heq]
    · exact .of_eq rfl
    · exact hne
  | @number digits _ s _ hnumber _ ih =>
    refine gives_stringTail_cons ?_ ih
    rw [List.cons_append, List.cons_append, List.append_assoc]
    exact (hunicode hnumber (s ++ '"' :: rest)).map fun _ => ⟨rfl, rfl⟩

end

/-! ## Reading what is written -/

theorem mem_shortEscapes {d : Char} (h : shortEscape? d = some c) : (d, c) ∈ shortEscapes := by
  unfold shortEscape? at h
  split at h <;> cases h <;> decide

/-- The written form of a string is a text of it. -/
theorem spells_escape (cs : List Char) : Spells Numbers (cs.flatMap escape) cs := by
  induction cs with
  | nil => exact .nil
  | cons c cs ih =>
    rw [List.flatMap_cons]
    rcases escape_cases c with ⟨d, hc, -, hshort⟩ | ⟨hc, hlow⟩ | ⟨hc, hquote, hslash, hlow⟩
    all_goals rw [hc]
    · exact .short (mem_shortEscapes hshort) ih
    · refine .number (.unit ⟨by omega, _, _, _, _, rfl, .inl ?_, .inl ?_, .inl ?_, .inl ?_⟩) ih
      · rw [Nat.div_eq_of_lt (by omega)]
        rfl
      · rw [Nat.div_eq_of_lt (by omega)]
        rfl
      · rw [Nat.mod_eq_of_lt (by omega)]
      · rfl
    · exact .plain hquote hslash hlow ih

theorem quotes_quoted (text : String) : Quotes Numbers text (quoted text) :=
  .mk (spells_escape text.toList)

/-- The written form of a string is read up to the quote that ends it. -/
theorem gives_stringTail_escape (cs rest : List Char) :
    Gives (stringTail unicodeEscape (cs.flatMap escape ++ '"' :: rest)) cs rest :=
  (spells_escape cs).gives_stringTail readsNumbers_unicodeEscape rest

/-! ## Sizes -/

theorem size_escape_le (c : Char) : Utf8.size (escape c) ≤ 6 := by
  have hdigit : ∀ n, n < 16 → (hexDigit n).utf8Size = 1 := by decide
  have hc := c.utf8Size_le_four
  rcases escape_cases c with ⟨d, hc, -, -⟩ | ⟨hc, hlow⟩ | ⟨hc, -, -, -⟩
  all_goals rw [hc]; simp only [Utf8.size]
  · have := d.utf8Size_le_four
    have : '\\'.utf8Size = 1 := rfl
    omega
  · rw [hdigit _ (by omega), hdigit _ (by omega)]
    decide
  · omega

theorem size_of_gives_codeUnit (h : Gives (codeUnit s) n rest) :
    Utf8.size rest + 4 ≤ Utf8.size s := by
  unfold codeUnit at h
  split at h
  · next a b c d last =>
    have := a.utf8Size_pos
    have := b.utf8Size_pos
    have := c.utf8Size_pos
    have := d.utf8Size_pos
    split at h
    · obtain ⟨-, rfl⟩ := Gives.ok_iff.mp h
      simp only [Utf8.size, Rest.behind, Rest.tail]
      omega
    · exact (Gives.not_error h).elim
  · exact (Gives.not_error h).elim

theorem size_of_gives_lowSurrogate (h : Gives (lowSurrogate s) n rest) :
    Utf8.size rest ≤ Utf8.size s := by
  unfold lowSurrogate at h
  split at h
  · next last =>
    split at h
    · exact (Gives.not_error h).elim
    · next m after hunit =>
      have := size_of_gives_codeUnit (.of_eq hunit)
      split at h
      · obtain ⟨-, rfl⟩ := Gives.ok_iff.mp h
        simp only [Utf8.size, Rest.behind]
        omega
      · exact (Gives.not_error h).elim
  all_goals exact (Gives.not_error h).elim

theorem size_of_gives_unicodeEscape (h : Gives (unicodeEscape s) c rest) :
    Utf8.size rest + 4 ≤ Utf8.size s := by
  unfold unicodeEscape at h
  split at h
  · exact (Gives.not_error h).elim
  · next m after hunit =>
    have := size_of_gives_codeUnit (.of_eq hunit)
    split at h
    · exact (Gives.not_error h).elim
    split at h
    · split at h
      · exact (Gives.not_error h).elim
      · next low last hlow =>
        have := size_of_gives_lowSurrogate (.of_eq hlow)
        obtain ⟨-, rfl⟩ := Gives.ok_iff.mp h
        simp only [Rest.trans]
        omega
    · obtain ⟨-, rfl⟩ := Gives.ok_iff.mp h
      omega

theorem shortEscape?_eq_some (h : shortEscape? d = some c) : Utf8.size (escape c) ≤ 2 := by
  unfold shortEscape? at h
  split at h <;> cases h <;> decide

/-- No text of a character inside a string has fewer bytes than the written one. -/
theorem size_of_gives_stringChar (h : Gives (stringChar unicodeEscape s) (some c) rest) :
    Utf8.size (escape c) + Utf8.size rest ≤ Utf8.size s := by
  have hslash : '\\'.utf8Size = 1 := rfl
  have hu : 'u'.utf8Size = 1 := rfl
  unfold stringChar at h
  split at h
  · exact (Gives.not_error h).elim
  · cases (Gives.ok_iff.mp h).1
  · exact (Gives.not_error h).elim
  · next last =>
    obtain ⟨d, hd, hcd⟩ := (Gives.map_iff (g := some) fun _ _ => ⟨rfl, rfl⟩).mp h
    cases hcd
    have := size_of_gives_unicodeEscape hd
    have := size_escape_le c
    rw [Utf8.size, Utf8.size, hslash, hu]
    omega
  · next d last _ =>
    split at h
    · next hshort =>
      obtain ⟨hc, rfl⟩ := Gives.ok_iff.mp h
      cases hc
      have := shortEscape?_eq_some hshort
      have := d.utf8Size_pos
      rw [Utf8.size, Utf8.size, hslash]
      simp only [Rest.behind, Rest.tail]
      omega
    · exact (Gives.not_error h).elim
  · next d last hquote hend _ hmore =>
    split at h
    · exact (Gives.not_error h).elim
    · next hlow =>
      obtain ⟨hc, rfl⟩ := Gives.ok_iff.mp h
      cases hc
      have hne : c ≠ '\\' := by
        intro hc
        cases last with
        | nil => exact hend hc rfl
        | cons d last => exact hmore d last hc rfl
      rw [escape_of_plain hquote hne hlow]
      exact Nat.le_refl _

theorem size_of_gives_stringChar_none (h : Gives (stringChar unicodeEscape s) none rest) :
    1 + Utf8.size rest ≤ Utf8.size s := by
  unfold stringChar at h
  split at h
  · exact (Gives.not_error h).elim
  · obtain ⟨-, rfl⟩ := Gives.ok_iff.mp h
    exact Nat.le_refl _
  · exact (Gives.not_error h).elim
  · obtain ⟨_, _, hnone⟩ := (Gives.map_iff (g := some) fun _ _ => ⟨rfl, rfl⟩).mp h
    cases hnone
  all_goals
    split at h
    all_goals first | exact (Gives.not_error h).elim | cases (Gives.ok_iff.mp h).1

/-- No text of a string, up to the quote that ends it, has fewer bytes than the written one. -/
theorem size_of_gives_stringTail {cs : List Char}
    (h : Gives (stringTail unicodeEscape s) cs rest) :
    Utf8.size (cs.flatMap escape) + 1 + Utf8.size rest ≤ Utf8.size s := by
  fun_induction stringTail unicodeEscape s generalizing cs with
  | case1 => exact (Gives.not_error h).elim
  | case2 s r hend =>
    obtain ⟨rfl, rfl⟩ := Gives.ok_iff.mp h
    exact size_of_gives_stringChar_none (.of_eq hend)
  | case3 => exact (Gives.not_error h).elim
  | case4 s c r hc cs' last hlast ih =>
    obtain ⟨rfl, rfl⟩ := Gives.ok_iff.mp h
    have := size_of_gives_stringChar (.of_eq hc)
    have := ih (.of_eq hlast)
    rw [List.flatMap_cons, Utf8.size_append]
    simp only [Rest.trans] at *
    omega

end CloudScope.Json
