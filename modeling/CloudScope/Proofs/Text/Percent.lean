import CloudScope.Proofs.Text.Utf8
import CloudScope.Text.Percent
import Mathlib.Data.List.Forall2

/-!
# Percent escapes in texts

A text without escapes stands for itself (`decode_of_not_hasEscape`), and one with escapes for a
shorter text (`size_lt_of_decode_eq_ok`). Where plain ASCII stands between two texts, each of them
stands for what it stands for alone (`decode_append_eq_ok_iff`). Whatever characters of a text are
escaped, the percent signs among them, it stands for that text (`Spells.decode_eq`).
-/

namespace CloudScope.Percent

/-- Whether a text holds a percent sign with two hexadecimal digits behind it. -/
def HasEscape (s : List Char) : Prop :=
  ∃ before a b after, s = before ++ '%' :: a :: b :: after ∧
    (Text.hexDigit? a).isSome = true ∧ (Text.hexDigit? b).isSome = true

variable {a b c : Char} {byte : UInt8} {s rest : List Char}

theorem isSome_escape? :
    (escape? a b).isSome =
      ((Text.hexDigit? a).isSome && (Text.hexDigit? b).isSome) := by
  unfold escape?
  cases Text.hexDigit? a <;> cases Text.hexDigit? b <;> rfl

theorem not_hasEscape_nil : ¬ HasEscape [] := by
  rintro ⟨before, a, b, after, h, _⟩
  cases before <;> cases h

theorem not_hasEscape_of_notMem (h : '%' ∉ s) : ¬ HasEscape s := by
  rintro ⟨before, a, b, after, rfl, _⟩
  simp at h

/-- An escape is in front, or further on. -/
theorem hasEscape_cons_iff : HasEscape (c :: rest) ↔
    (∃ a b after, c = '%' ∧ rest = a :: b :: after ∧ (escape? a b).isSome = true) ∨
      HasEscape rest := by
  simp only [isSome_escape?, Bool.and_eq_true]
  constructor
  · rintro ⟨_ | ⟨d, before⟩, a, b, after, h, ha, hb⟩
    · cases h
      exact .inl ⟨a, b, after, rfl, rfl, ha, hb⟩
    · cases h
      exact .inr ⟨before, a, b, after, rfl, ha, hb⟩
  · rintro (⟨a, b, after, rfl, rfl, ha, hb⟩ | ⟨before, a, b, after, rfl, ha, hb⟩)
    · exact ⟨[], a, b, after, rfl, ha, hb⟩
    · exact ⟨c :: before, a, b, after, rfl, ha, hb⟩

/-- A text without escapes stands for its own bytes. -/
theorem bytes_of_not_hasEscape (h : ¬ HasEscape s) : bytes s = Utf8.encode s := by
  fun_induction bytes s with
  | case1 => rfl
  | case2 a b rest byte hbyte ih =>
    exact absurd (hasEscape_cons_iff.mpr (.inl ⟨a, b, rest, rfl, rfl, by simp [hbyte]⟩)) h
  | case3 a b rest hbyte ih =>
    rw [ih fun hrest => h (hasEscape_cons_iff.mpr (.inr hrest))]
    rfl
  | case4 c rest _ ih =>
    rw [ih fun hrest => h (hasEscape_cons_iff.mpr (.inr hrest))]
    rfl

/-- No text stands for more bytes than it has. -/
theorem length_bytes_le (s : List Char) : (bytes s).length ≤ Utf8.size s := by
  fun_induction bytes s with
  | case1 => exact Nat.le_refl 0
  | case2 a b rest byte hbyte ih =>
    simp only [List.length_cons, Utf8.size]
    have := '%'.utf8Size_pos
    omega
  | case3 a b rest hbyte ih =>
    rw [List.length_append, Utf8.length_encodeChar, Utf8.size]
    omega
  | case4 c rest _ ih =>
    rw [List.length_append, Utf8.length_encodeChar, Utf8.size]
    omega

/-- A text with escapes stands for fewer bytes than it has. -/
theorem length_bytes_lt (h : HasEscape s) : (bytes s).length < Utf8.size s := by
  fun_induction bytes s with
  | case1 => exact absurd h not_hasEscape_nil
  | case2 a b rest byte hbyte ih =>
    have hrest := length_bytes_le rest
    have ha := a.utf8Size_pos
    simp only [List.length_cons, Utf8.size]
    have := '%'.utf8Size_pos
    omega
  | case3 a b rest hbyte ih =>
    rcases hasEscape_cons_iff.mp h with ⟨a', b', _, _, hab, hsome⟩ | h
    · cases hab
      simp [hbyte] at hsome
    · rw [List.length_append, Utf8.length_encodeChar, Utf8.size]
      have := ih h
      omega
  | case4 c rest hnot ih =>
    rcases hasEscape_cons_iff.mp h with ⟨a, b, after, hc, hrest, _⟩ | h
    · exact (hnot a b after hc hrest).elim
    · rw [List.length_append, Utf8.length_encodeChar, Utf8.size]
      have := ih h
      omega

/-- A text without escapes stands for itself. -/
theorem decode_of_not_hasEscape (h : ¬ HasEscape s) : decode s = .ok s := by
  rw [decode, bytes_of_not_hasEscape h, Utf8.decode_encode]

/-- A text with escapes stands for a shorter text, if for any. -/
theorem size_lt_of_decode_eq_ok {text : List Char} (h : HasEscape s)
    (hdecode : decode s = .ok text) :
    Utf8.size text < Utf8.size s := by
  rw [Utf8.size_of_decode_eq_ok hdecode]
  exact length_bytes_lt h

/-! ## Texts beside each other -/

theorem bytes_cons (h : ∀ a b after, c = '%' → rest = a :: b :: after → escape? a b = none) :
    bytes (c :: rest) = Utf8.encodeChar c ++ bytes rest := by
  rw [bytes.eq_def]
  split
  · next heq => cases heq
  · next a b after heq =>
    cases heq
    rw [h a b after rfl rfl]
  · next heq =>
    cases heq
    rfl

theorem escape?_eq_none (h : Text.hexDigit? a = none ∨ Text.hexDigit? b = none) :
    escape? a b = none := by
  rw [← Option.not_isSome_iff_eq_none, isSome_escape?]
  rcases h with h | h <;> simp [h]

/-- No escape goes across a character that is no digit. -/
theorem bytes_append_cons (s : List Char) (hc : Text.hexDigit? c = none) (rest : List Char) :
    bytes (s ++ c :: rest) = bytes s ++ bytes (c :: rest) := by
  fun_induction bytes s with
  | case1 => rfl
  | case2 a b s byte hbyte ih => simp only [List.cons_append, bytes, hbyte, ih]
  | case3 a b s hbyte ih =>
    rw [List.append_assoc, ← ih]
    exact bytes_cons fun _ _ _ _ heq => by cases heq; exact hbyte
  | case4 d s hnot ih =>
    rw [List.append_assoc, ← ih]
    refine bytes_cons fun a b after hd heq => escape?_eq_none ?_
    rcases s with _ | ⟨x, _ | ⟨y, s⟩⟩
    · cases heq
      exact .inl hc
    · cases heq
      exact .inr hc
    · exact (hnot x y s hd rfl).elim

theorem bytes_append_of_notMem {plain : List Char} (h : '%' ∉ plain) (rest : List Char) :
    bytes (plain ++ rest) = Utf8.encode plain ++ bytes rest := by
  induction plain with
  | nil => rfl
  | cons c plain ih =>
    rw [List.mem_cons, not_or] at h
    rw [List.cons_append, bytes_cons fun _ _ _ hc _ => absurd hc.symm h.1, ih h.2, Utf8.encode_cons,
      List.append_assoc]

/-- Two texts with plain ASCII between them, which does not begin with a digit, stand for what each
of them stands for, with the ASCII between. -/
theorem decode_append_eq_ok_iff {plain text : List Char} (hascii : c.toNat < 0x80)
    (hdigit : Text.hexDigit? c = none) (hplain : '%' ∉ c :: plain) :
    decode (s ++ (c :: plain ++ rest)) = .ok text ↔
      ∃ front back, decode s = .ok front ∧ decode rest = .ok back ∧
        text = front ++ (c :: plain ++ back) := by
  have hbytes : bytes (s ++ (c :: plain ++ rest)) =
      bytes s ++ (Utf8.encode (c :: plain) ++ bytes rest) := by
    rw [List.cons_append, bytes_append_cons s hdigit, ← List.cons_append,
      bytes_append_of_notMem hplain]
  simp only [decode, Utf8.decode_eq_ok_iff]
  rw [hbytes]
  constructor
  · intro h
    have hfirst : Utf8.encode (c :: plain) = .ofNat c.toNat :: Utf8.encode plain := by
      rw [Utf8.encode_cons, Utf8.encodeChar_of_lt hascii]
      rfl
    rw [hfirst, List.cons_append] at h
    obtain ⟨front, others, rfl, hfront, hothers⟩ := Utf8.exists_of_encode_eq_append
      (by rwa [Utf8.toNat_byte (by omega)]) h.symm
    rw [← List.cons_append, ← hfirst, Utf8.encode_append_eq_encode_iff] at hothers
    obtain ⟨back, hback, rfl⟩ := hothers
    exact ⟨front, back, hfront, hback, rfl⟩
  · rintro ⟨front, back, hfront, hback, rfl⟩
    rw [hfront, hback, Utf8.encode_append, Utf8.encode_append]

/-! ## Spellings of a text -/

/-- Whether a character is the hexadecimal digit of a value, in either case. -/
def IsDigit (value : Nat) (c : Char) : Prop :=
  "0123456789abcdef".toList[value]? = some c ∨ "0123456789ABCDEF".toList[value]? = some c

/-- Whether a text is an escape of a byte: a percent sign and the two digits of the byte. -/
def IsEscape (byte : UInt8) (s : List Char) : Prop :=
  ∃ a b, IsDigit (byte.toNat / 16) a ∧ IsDigit (byte.toNat % 16) b ∧ s = ['%', a, b]

/-- The spellings of a text: each character may be replaced by escapes of its bytes, and percent
signs have to be. -/
inductive Spells : (text spelling : List Char) → Prop where
  | nil : Spells [] []
  | plain {c : Char} {text spelling : List Char} :
    c ≠ '%' → Spells text spelling → Spells (c :: text) (c :: spelling)
  | escaped {c : Char} {escapes : List (List Char)} {text spelling : List Char} :
    List.Forall₂ IsEscape (Utf8.encodeChar c) escapes → Spells text spelling →
    Spells (c :: text) (escapes.flatten ++ spelling)

theorem hexDigit?_of_isDigit {value : Nat} (h : IsDigit value c) :
    Text.hexDigit? c = some value := by
  have hdigits : ∀ digits ∈ ["0123456789abcdef".toList, "0123456789ABCDEF".toList],
      digits.length = 16 ∧ ∀ value < 16, digits[value]?.bind Text.hexDigit? = some value := by
    decide
  have hof : ∀ digits ∈ ["0123456789abcdef".toList, "0123456789ABCDEF".toList],
      digits[value]? = some c → Text.hexDigit? c = some value := fun digits hmem hc => by
    obtain ⟨hlength, hall⟩ := hdigits digits hmem
    obtain ⟨hlt, -⟩ := List.getElem?_eq_some_iff.mp hc
    simpa [hc] using hall value (hlength ▸ hlt)
  rcases h with h | h
  · exact hof _ List.mem_cons_self h
  · exact hof _ (List.mem_cons_of_mem _ List.mem_cons_self) h

theorem bytes_of_isEscape (h : IsEscape byte s) (rest : List Char) :
    bytes (s ++ rest) = byte :: bytes rest := by
  obtain ⟨a, b, ha, hb, rfl⟩ := h
  have hescape : escape? a b = some byte := by
    rw [escape?, hexDigit?_of_isDigit ha, hexDigit?_of_isDigit hb]
    exact congrArg some (Utf8.ofNat_eq byte (by omega))
  simp only [List.cons_append, List.nil_append, bytes, hescape]

theorem bytes_of_escapes {written : List UInt8} {escapes : List (List Char)}
    (h : List.Forall₂ IsEscape written escapes) (rest : List Char) :
    bytes (escapes.flatten ++ rest) = written ++ bytes rest := by
  induction h with
  | nil => rfl
  | cons hescape _ ih =>
    rw [List.flatten_cons, List.append_assoc, bytes_of_isEscape hescape, ih, List.cons_append]

section

variable {text spelling : List Char}

theorem Spells.bytes_eq (h : Spells text spelling) : bytes spelling = Utf8.encode text := by
  induction h with
  | nil => rfl
  | plain hc _ ih => rw [bytes_cons fun _ _ _ hc' _ => absurd hc' hc, ih, Utf8.encode_cons]
  | escaped hescapes _ ih => rw [bytes_of_escapes hescapes, ih, Utf8.encode_cons]

/-- A spelling of a text stands for the text. -/
theorem Spells.decode_eq (h : Spells text spelling) : decode spelling = .ok text := by
  rw [decode, h.bytes_eq, Utf8.decode_encode]

end

end CloudScope.Percent
