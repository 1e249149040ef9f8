import CloudScope.Proofs.Json.Grammar
import CloudScope.Proofs.Json.Items

/-!
# Reading by the grammar

Numbers, sequences and values are read to their end from any text that the grammar has of
them. A value can be passed over, however deep it is (`gives_skipValue`).
-/

namespace CloudScope.Json

variable {β γ : Type} {c close : Char} {n : Nat} {w w' p s rest : List Char}

/-! ## Spaces -/

/-- The characters that may follow a value: white space, commas and closing marks. -/
def stops : List Char := [' ', '\t', '\n', '\r', ',', ']', '\x7d']

/-- Whether a text starts with one of some characters. -/
def StartsIn (cs s : List Char) : Prop := ∃ c t, s = c :: t ∧ c ∈ cs

/-- Whether a text starts with a character that may follow no value. -/
def Opens (s : List Char) : Prop := ∃ c t, s = c :: t ∧ c ∉ stops

theorem isSpace_of_not_mem_stops (h : c ∉ stops) : isSpace c = false := by
  simp only [stops, List.mem_cons, List.not_mem_nil, or_false, not_or] at h
  simp [isSpace, h]

theorem Blank.startsIn_append_cons (h : Blank w) (hc : c ∈ stops) (s : List Char) :
    StartsIn stops (w ++ c :: s) := by
  cases w with
  | nil => exact ⟨c, s, rfl, hc⟩
  | cons d w =>
    have hspace : ∀ c ∈ [' ', '\t', '\n', '\r'], c ∈ stops := by simp [stops]
    exact ⟨d, w ++ c :: s, rfl, hspace d (h d List.mem_cons_self)⟩

/-! ## Numbers -/

section

variable {cs ds whole fraction exponent : List Char} (cut : Fault)

theorem IsDigits.gives_digits (h : IsDigits ds) (hrest : StartsIn cs rest)
    (hcs : ∀ c ∈ cs, c.isDigit = false) : Gives (digits cut (ds ++ rest)) ds rest := by
  obtain ⟨hne, hall⟩ := h
  obtain ⟨c, t, rfl, hc⟩ := hrest
  cases ds with
  | nil => contradiction
  | cons d ds =>
    obtain ⟨hd, hall⟩ := List.forall_mem_cons.mp hall
    have htake : (ds ++ c :: t).takeWhile Char.isDigit = ds := by
      rw [List.takeWhile_append_of_pos hall, List.takeWhile_cons_of_neg (by simp [hcs c hc]),
        List.append_nil]
    have hdrop : (ds ++ c :: t).dropWhile Char.isDigit = c :: t := by
      rw [List.dropWhile_append_of_pos hall, List.dropWhile_cons_of_neg (by simp [hcs c hc])]
    rw [List.cons_append, digits, if_pos hd]
    exact Gives.ok_iff.mpr ⟨by rw [htake], hdrop⟩

theorem IsWhole.gives_wholeDigits (h : IsWhole whole) (hrest : StartsIn cs rest)
    (hcs : ∀ c ∈ cs, c.isDigit = false) :
    Gives (wholeDigits cut (whole ++ rest)) whole rest := by
  obtain ⟨hdigits, rfl | hzero⟩ := h
  · obtain ⟨c, t, rfl, hc⟩ := hrest
    rw [List.cons_append, List.nil_append, wholeDigits, if_neg (by simp [hcs c hc])]
    exact .of_eq rfl
  · have hread := hdigits.gives_digits cut hrest hcs
    cases whole with
    | nil => exact (hdigits.1 rfl).elim
    | cons d ds =>
      rw [wholeDigits]
      · exact hread
      · rintro _ _ heq
        obtain ⟨rfl, -⟩ := List.cons.inj heq
        exact (hzero rfl).elim

theorem IsFraction.exists_gives_fractionPart (h : IsFraction fraction) (hrest : StartsIn cs rest)
    (hcs : ∀ c ∈ cs, c.isDigit = false ∧ c ≠ '.') :
    ∃ ds, Gives (fractionPart cut (fraction ++ rest)) ds rest := by
  rcases h with rfl | ⟨ds, hds, rfl⟩
  · obtain ⟨c, t, rfl, hc⟩ := hrest
    refine ⟨[], ?_⟩
    rw [List.nil_append, fractionPart]
    · exact .of_eq rfl
    · rintro _ heq
      exact (hcs c hc).2 (List.cons.inj heq).1
  · exact ⟨ds, (hds.gives_digits cut hrest fun c hc => (hcs c hc).1).map fun _ => ⟨rfl, rfl⟩⟩

theorem exists_gives_exponentDigits {sign : List Char} (hsign : sign ∈ [[], ['+'], ['-']])
    (h : IsDigits ds) (hrest : StartsIn cs rest) (hcs : ∀ c ∈ cs, c.isDigit = false) :
    ∃ n, Gives (exponentDigits cut (sign ++ ds ++ rest)) n rest := by
  have hread := h.gives_digits cut hrest hcs
  simp only [List.mem_cons, List.not_mem_nil, or_false] at hsign
  rcases hsign with rfl | rfl | rfl
  · obtain ⟨hne, hall⟩ := h
    cases ds with
    | nil => contradiction
    | cons d ds =>
      have hd := hall d List.mem_cons_self
      refine ⟨(Text.valueOf 10 (d :: ds) : Int), ?_⟩
      rw [List.nil_append, exponentDigits]
      · exact hread.map fun _ => ⟨rfl, rfl⟩
      · rintro _ heq
        obtain ⟨rfl, -⟩ := List.cons.inj heq
        cases hd
      · rintro _ heq
        obtain ⟨rfl, -⟩ := List.cons.inj heq
        cases hd
  · exact ⟨(Text.valueOf 10 ds : Int), hread.map fun _ => ⟨rfl, rfl⟩⟩
  · exact ⟨(-Text.valueOf 10 ds : Int), hread.map fun _ => ⟨rfl, rfl⟩⟩

theorem IsExponent.exists_gives_exponentPart (h : IsExponent exponent) (hrest : StartsIn cs rest)
    (hcs : ∀ c ∈ cs, c.isDigit = false ∧ c ≠ 'e' ∧ c ≠ 'E') :
    ∃ n, Gives (exponentPart cut (exponent ++ rest)) n rest := by
  rcases h with rfl | ⟨e, he, sign, hsign, ds, hds, rfl⟩
  · obtain ⟨c, t, rfl, hc⟩ := hrest
    obtain ⟨-, he, hE⟩ := hcs c hc
    refine ⟨0, ?_⟩
    rw [List.nil_append, exponentPart, if_neg (by simp [he, hE])]
    exact .of_eq rfl
  · have he : e = 'e' ∨ e = 'E' := by simpa using he
    obtain ⟨n, hn⟩ := exists_gives_exponentDigits cut hsign hds hrest
      fun c hc => (hcs c hc).1
    refine ⟨n, ?_⟩
    rw [List.cons_append, exponentPart, if_pos he]
    exact hn.map fun _ => ⟨rfl, rfl⟩

theorem exists_gives_unsigned (hwhole : IsWhole whole) (hfraction : IsFraction fraction)
    (hexponent : IsExponent exponent) (hrest : StartsIn stops rest) :
    ∃ m, Gives (unsigned cut (whole ++ (fraction ++ (exponent ++ rest)))) m rest := by
  have hpower : StartsIn ('e' :: 'E' :: stops) (exponent ++ rest) := by
    rcases hexponent with rfl | ⟨e, he, _, _, _, _, rfl⟩
    · obtain ⟨c, t, rfl, hc⟩ := hrest
      exact ⟨c, t, rfl, by simp [hc]⟩
    · exact ⟨e, _, rfl, List.mem_append_left stops he⟩
  have hpoint : StartsIn ('.' :: 'e' :: 'E' :: stops) (fraction ++ (exponent ++ rest)) := by
    rcases hfraction with rfl | ⟨_, _, rfl⟩
    · obtain ⟨c, t, heq, hc⟩ := hpower
      exact ⟨c, t, heq, List.mem_cons_of_mem _ hc⟩
    · exact ⟨'.', _, rfl, List.mem_cons_self⟩
  obtain ⟨_, hwhole⟩ := hwhole.gives_wholeDigits cut hpoint (by simp [stops])
  obtain ⟨ds, _, hfraction⟩ := hfraction.exists_gives_fractionPart cut hpower (by simp [stops])
  obtain ⟨n, _, hexponent⟩ := hexponent.exists_gives_exponentPart cut hrest (by simp [stops])
  refine ⟨.ofDigits whole ds n, ?_⟩
  rw [unsigned, hwhole]
  dsimp only
  rw [hfraction]
  dsimp only
  rw [hexponent]
  exact .of_eq rfl

theorem IsNumber.exists_gives_numeral (h : IsNumber s) (hrest : StartsIn stops rest) :
    ∃ m, Gives (numeral cut (s ++ rest)) m rest := by
  obtain @⟨sign, whole, fraction, exponent, hsign, hwhole, hfraction, hexponent⟩ := h
  obtain ⟨m, hm⟩ := exists_gives_unsigned cut hwhole hfraction hexponent hrest
  refine ⟨m, ?_⟩
  simp only [List.mem_cons, List.not_mem_nil, or_false] at hsign
  rw [List.append_assoc, List.append_assoc, List.append_assoc]
  rcases hsign with rfl | rfl
  · obtain ⟨⟨hne, hall⟩, -⟩ := hwhole
    cases whole with
    | nil => contradiction
    | cons d ds =>
      have hd := hall d List.mem_cons_self
      rw [List.nil_append, numeral]
      · exact hm
      · rintro _ heq
        obtain ⟨rfl, -⟩ := List.cons.inj heq
        cases hd
  · exact hm.map fun _ => ⟨rfl, rfl⟩

theorem IsNumber.gives_slight_number (h : IsNumber s) (hrest : StartsIn stops rest) :
    Gives (slight.number (s ++ rest)) (String.ofList s) rest := by
  obtain ⟨m, hlt, hm⟩ := h.exists_gives_numeral .malformed hrest
  have htaken : taken (s ++ rest) ⟨rest, hlt⟩ = String.ofList s := by
    simp [taken, List.length_append]
  simp only [slight, hm]
  exact Gives.ok_iff.mpr ⟨htaken, rfl⟩

end

/-! ## Sequences -/

theorem next_blank_close (hw : Blank w) (hclose : isSpace close = false) (first : Bool)
    (rest : List Char) : ∃ r : Rest (w ++ [close] ++ rest),
      next close first (w ++ [close] ++ rest) = .ok (.closed r) ∧ r.val = rest := by
  refine next_closed ?_
  rw [List.append_assoc]
  exact hw.skipSpace_append_cons hclose rest

theorem next_blank_item (hw : Blank w) (hp : Opens p) (hclose : close ∈ stops)
    (s rest : List Char) : ∃ front : Within (w ++ (p ++ s) ++ rest),
      next close true (w ++ (p ++ s) ++ rest) = .ok (.item front) ∧
        front.val = p ++ (s ++ rest) := by
  obtain ⟨c, t, rfl, hc⟩ := hp
  refine next_first ?_ fun heq => hc (heq ▸ hclose)
  rw [List.append_assoc, List.append_assoc]
  exact hw.skipSpace_append_cons (isSpace_of_not_mem_stops hc) _

theorem next_blank_comma (hw : Blank w) (hw' : Blank w') (hp : Opens p) (hclose : close ∈ stops)
    (hcomma : ',' ≠ close) (s rest : List Char) :
    ∃ front : Within (w ++ ',' :: (w' ++ (p ++ s)) ++ rest),
      next close false (w ++ ',' :: (w' ++ (p ++ s)) ++ rest) = .ok (.item front) ∧
        front.val = p ++ (s ++ rest) := by
  obtain ⟨c, t, rfl, hc⟩ := hp
  refine next_comma ?_ hcomma (?_ : skipSpace (w' ++ (c :: t ++ s) ++ rest) = _)
    fun heq => hc (heq ▸ hclose)
  · rw [List.append_assoc]
    exact hw.skipSpace_append_cons (by decide) _
  · rw [List.append_assoc, List.append_assoc]
    exact hw'.skipSpace_append_cons (isSpace_of_not_mem_stops hc) _

section

variable {part : β → List Char → Prop} {bs : List β}

theorem Further.startsIn (h : Further part close bs s) (hclose : close ∈ stops)
    (rest : List Char) : StartsIn stops (s ++ rest) := by
  cases h with
  | close hw =>
    rw [List.append_assoc]
    exact hw.startsIn_append_cons hclose rest
  | comma hw _ _ _ =>
    rw [List.append_assoc]
    exact hw.startsIn_append_cons (by decide) _

/-- Whether a reader reads the texts of items up to a length to their end, and no item is taken for
a mark. -/
def ReadsUpTo (bound : Nat) (item : TextReader β) (part : β → List Char → Prop) : Prop :=
  ∀ {b p}, part b p → p.length ≤ bound →
    Opens p ∧ ∀ {rest}, StartsIn stops rest → Gives (item (p ++ rest)) b rest

variable {bound : Nat} {item : TextReader β} (hread : ReadsUpTo bound item part)
  (hclose : close = ']' ∨ close = '\x7d')

include hread hclose

theorem gives_items_of_further (h : Further part close bs s) (hs : s.length ≤ bound)
    (rest : List Char) : Gives (items close item false (s ++ rest)) bs rest := by
  have hmark : close ∈ stops ∧ isSpace close = false ∧ ',' ≠ close := by
    rcases hclose with rfl | rfl <;> decide
  obtain ⟨hstops, hspace, hcomma⟩ := hmark
  induction h with
  | close hw => exact gives_items_nil (next_blank_close hw hspace false rest)
  | @comma w w' p s b bs hw hw' hp hlater ih =>
    simp only [List.length_append, List.length_cons] at hs
    obtain ⟨hopens, hitem⟩ := hread hp (by omega)
    exact gives_items_cons (next_blank_comma hw hw' hopens hstops hcomma s rest)
      (hitem (hlater.startsIn hstops rest)) (ih (by omega))

/-- The items of a sequence are read in their order. -/
theorem gives_items_of_sequence (h : Sequence part close bs s) (hs : s.length ≤ bound)
    (rest : List Char) : Gives (items close item true (s ++ rest)) bs rest := by
  have hmark : close ∈ stops ∧ isSpace close = false := by
    rcases hclose with rfl | rfl <;> decide
  obtain ⟨hstops, hspace⟩ := hmark
  cases h with
  | empty hw => exact gives_items_nil (next_blank_close hw hspace true rest)
  | @items w p s b bs hw hp hlater =>
    simp only [List.length_append] at hs
    obtain ⟨hopens, hitem⟩ := hread hp (by omega)
    exact gives_items_cons (next_blank_item hw hopens hstops s rest)
      (hitem (hlater.startsIn hstops rest))
      (gives_items_of_further hread hclose hlater (by omega) rest)

end

/-! ## Sequences that are folded -/

theorem gives_fold_nil {item : γ → TextReader γ} {first : Bool} {g : γ}
    (h : ∃ r : Rest s, next close first s = .ok (.closed r) ∧ r.val = rest) :
    Gives (fold close item first g s) g rest := by
  obtain ⟨r, h, rfl⟩ := h
  rw [fold, h]
  exact .of_eq rfl

theorem gives_fold_cons {item : γ → TextReader γ} {first : Bool} {g g' g'' : γ}
    {t after : List Char}
    (h : ∃ front : Within s, next close first s = .ok (.item front) ∧ front.val = t)
    (hg : Gives (item g t) g' after) (hlast : Gives (fold close item false g' after) g'' rest) :
    Gives (fold close item first g s) g'' rest := by
  obtain ⟨front, h, rfl⟩ := h
  obtain ⟨_, hg⟩ := hg
  obtain ⟨_, hlast⟩ := hlast
  rw [fold, h]
  dsimp only
  rw [hg]
  dsimp only
  rw [hlast]
  exact .of_eq rfl

section

variable {part : β → List Char → Prop} {bs : List β} {item : γ → TextReader γ}
  {step : γ → β → γ} {inv : γ → List β → Prop}
  (hread : ∀ {g b bs p}, inv g (b :: bs) → part b p → inv (step g b) bs ∧ Opens p ∧
    ∀ {rest}, StartsIn stops rest → Gives (item g (p ++ rest)) (step g b) rest)
  (hclose : close = ']' ∨ close = '\x7d')

include hread hclose

theorem gives_fold_of_further (h : Further part close bs s) {g : γ} (hinv : inv g bs)
    (rest : List Char) : Gives (fold close item false g (s ++ rest)) (bs.foldl step g) rest := by
  have hmark : close ∈ stops ∧ isSpace close = false ∧ ',' ≠ close := by
    rcases hclose with rfl | rfl <;> decide
  obtain ⟨hstops, hspace, hcomma⟩ := hmark
  induction h generalizing g with
  | close hw => exact gives_fold_nil (next_blank_close hw hspace false rest)
  | @comma w w' p s b bs hw hw' hp hlater ih =>
    obtain ⟨hinv, hopens, hitem⟩ := hread hinv hp
    exact gives_fold_cons (next_blank_comma hw hw' hopens hstops hcomma s rest)
      (hitem (hlater.startsIn hstops rest)) (ih hinv)

/-- The items of a sequence are folded in their order, if what is said of the items ahead is kept by
each step. -/
theorem gives_fold_of_sequence (h : Sequence part close bs s) {g : γ} (hinv : inv g bs)
    (rest : List Char) : Gives (fold close item true g (s ++ rest)) (bs.foldl step g) rest := by
  have hmark : close ∈ stops ∧ isSpace close = false := by
    rcases hclose with rfl | rfl <;> decide
  obtain ⟨hstops, hspace⟩ := hmark
  cases h with
  | empty hw => exact gives_fold_nil (next_blank_close hw hspace true rest)
  | @items w p s b bs hw hp hlater =>
    obtain ⟨hinv, hopens, hitem⟩ := hread hinv hp
    exact gives_fold_cons (next_blank_item hw hopens hstops s rest)
      (hitem (hlater.startsIn hstops rest))
      (gives_fold_of_further hread hclose hlater hinv rest)

end

/-! ## Fields -/

theorem Blank.gives_afterColon {item : TextReader β} {b : β} (hw : Blank w)
    (h : Gives (item s) b rest) : Gives (afterColon item (w ++ ':' :: s)) b rest :=
  gives_andThen_iff.mpr ⟨(), s, hw.gives_spaced_iff.mpr (gives_colon s), h⟩

theorem Quotes.opens {numbers : List Char → Char → Prop} {text : String}
    (h : Quotes numbers text s) (t : List Char) : Opens (s ++ t) := by
  obtain ⟨_⟩ := h
  exact ⟨'"', _, rfl, by decide⟩

/-- A field is read if its value is read behind white space. -/
theorem Field.gives_field {numbers : List Char → Char → Prop} {unicode : TextReader Char}
    (hunicode : ReadsNumbers unicode numbers) {item : TextReader β}
    {part : β → List Char → Prop} {e : String × β} (h : Field (Quotes numbers) part e s)
    (hread : ∀ {w v}, Blank w → part e.2 v → v.length ≤ s.length →
      Gives (item (w ++ (v ++ rest))) e.2 rest) :
    Gives (field unicode item (s ++ rest)) e rest := by
  obtain @⟨n, b, k, w, w', v, hk, hw, hw', hv⟩ := h
  obtain ⟨_, hname⟩ := hk.gives_fieldName hunicode (w ++ ':' :: (w' ++ (v ++ rest)))
  have hvalue : Gives (item (w' ++ (v ++ rest))) b rest := hread hw' hv (by simp; omega)
  rw [List.append_assoc, List.append_assoc, List.cons_append, List.append_assoc, field, hname]
  exact (hw.gives_afterColon hvalue).map fun _ => ⟨rfl, rfl⟩

/-! ## Values -/

theorem exists_word_append (letters rest : List Char) :
    ∃ r : Within (letters ++ rest), word letters (letters ++ rest) = .ok r ∧ r.val = rest := by
  induction letters with
  | nil => exact ⟨.whole rest, by unfold word; rfl, rfl⟩
  | cons l letters ih =>
    obtain ⟨r, hr, hval⟩ := ih
    refine ⟨(r.behind l).within, ?_, hval⟩
    change word (l :: letters) (l :: (letters ++ rest)) = _
    rw [word, if_pos rfl, hr]
    rfl

/-- A word is read for what it stands for. -/
theorem gives_word (letters rest : List Char) (c : Char) (b : β) :
    Gives ((word letters (letters ++ rest)).map fun r => (b, r.behind c)) b rest := by
  obtain ⟨r, hr, hval⟩ := exists_word_append letters rest
  rw [hr]
  exact Gives.ok_iff.mpr ⟨rfl, hval⟩

theorem not_mem_stops_of_isDigit (h : c.isDigit = true) : c ∉ stops := by
  have hdigit : ∀ c ∈ stops, c.isDigit = false := by simp [stops]
  intro hc
  rw [hdigit c hc] at h
  cases h

theorem IsNumber.eq_cons (h : IsNumber s) :
    ∃ c t, s = c :: t ∧ (c = '-' ∨ c.isDigit = true) := by
  obtain @⟨sign, whole, fraction, exponent, hsign, ⟨⟨hne, hall⟩, -⟩, -, -⟩ := h
  simp only [List.mem_cons, List.not_mem_nil, or_false] at hsign
  rcases hsign with rfl | rfl
  · cases whole with
    | nil => contradiction
    | cons d ds => exact ⟨d, _, rfl, .inr (hall d List.mem_cons_self)⟩
  · exact ⟨'-', _, rfl, .inl rfl⟩

theorem Renders.opens {j : Json} {v : List Char} (h : Renders j v) : Opens v := by
  cases h with
  | null => exact ⟨'n', _, rfl, by decide⟩
  | true => exact ⟨'t', _, rfl, by decide⟩
  | false => exact ⟨'f', _, rfl, by decide⟩
  | number h =>
    obtain ⟨c, t, rfl, hc⟩ := h.eq_cons
    refine ⟨c, t, rfl, ?_⟩
    rcases hc with rfl | hc
    · decide
    · exact not_mem_stops_of_isDigit hc
  | string h =>
    obtain ⟨t, rfl⟩ := h.eq_cons
    exact ⟨'"', t, rfl, by decide⟩
  | array => exact ⟨'[', _, rfl, by decide⟩
  | object => exact ⟨'\x7b', _, rfl, by decide⟩

theorem Blank.gives_value_iff {care : Care} {j : Json} (h : Blank w) :
    Gives (value care n (w ++ s)) j rest ↔ Gives (value care n s) j rest := by
  rw [value.eq_def]
  exact h.gives_spaced_iff

theorem gives_value_of_number (h : IsNumber s) (hrest : StartsIn stops rest) :
    Gives (value slight n (s ++ rest)) (.number (String.ofList s)) rest := by
  have hread := h.gives_slight_number hrest
  obtain ⟨c, t, rfl, hc⟩ := h.eq_cons
  have hspace : isSpace c = false := by
    rcases hc with rfl | hc
    · decide
    · exact isSpace_of_not_mem_stops (not_mem_stops_of_isDigit hc)
  have hne : ∀ d ∈ ['n', 't', 'f', '"', '[', '\x7b'], c ≠ d := by
    have hother : ∀ d ∈ ['n', 't', 'f', '"', '[', '\x7b'], ¬ (d = '-' ∨ d.isDigit = true) := by
      simp
    rintro d hd rfl
    exact hother c hd hc
  simp only [List.forall_mem_cons, List.not_mem_nil, false_imp_iff, implies_true, and_true] at hne
  obtain ⟨hn, ht, hf, hquote, hbracket, hbrace⟩ := hne
  rw [value.eq_def, gives_spaced_iff, List.cons_append, skipSpace_cons hspace]
  generalize hu : c :: (t ++ rest) = u
  split
  · cases hu
  · exact (hn (List.cons.inj hu).1).elim
  · exact (ht (List.cons.inj hu).1).elim
  · exact (hf (List.cons.inj hu).1).elim
  · exact (hquote (List.cons.inj hu).1).elim
  · exact (hbracket (List.cons.inj hu).1).elim
  · exact (hbrace (List.cons.inj hu).1).elim
  · obtain ⟨rfl, rfl⟩ := List.cons.inj hu
    rw [if_pos hc]
    exact hread.map fun _ => ⟨rfl, rfl⟩

/-- A value is read to its end, however deep it is: each array or object in it takes a character. -/
theorem readsUpTo_renders (bound : Nat) : ReadsUpTo bound (value slight bound) Renders := by
  induction bound using Nat.strongRecOn with
  | ind bound ih =>
    intro j v h hv
    refine ⟨h.opens, fun {rest} hrest => ?_⟩
    cases h with
    | null | true | false =>
      rw [value.eq_def, gives_spaced_iff]
      exact gives_word _ rest _ _
    | number h => exact gives_value_of_number h hrest
    | string h =>
      obtain ⟨h⟩ := h
      rw [value.eq_def, gives_spaced_iff, List.cons_append, List.append_assoc, skipSpace_cons rfl]
      exact (h.gives_stringTail readsNumbers_slight rest).map fun _ =>
        ⟨congrArg Json.string String.ofList_toList, rfl⟩
    | @array js s h =>
      obtain ⟨n, rfl⟩ : ∃ n, bound = n + 1 :=
        Nat.exists_eq_add_one_of_ne_zero (by simp at hv; omega)
      have hitems := gives_items_of_sequence (ih n (Nat.lt_succ_self n)) (.inl rfl) h
        (Nat.le_of_succ_le_succ hv) rest
      rw [value.eq_def, gives_spaced_iff, List.cons_append, skipSpace_cons rfl]
      exact hitems.map fun _ => ⟨rfl, rfl⟩
    | @object fields s h =>
      obtain ⟨n, rfl⟩ : ∃ n, bound = n + 1 :=
        Nat.exists_eq_add_one_of_ne_zero (by simp at hv; omega)
      have hread : ReadsUpTo n (field slight.unicode (value slight n))
          (Field (Quotes NumbersAny) Renders) := by
        intro e p he hp
        refine ⟨?_, fun {rest} hrest => he.gives_field readsNumbers_slight fun hw hj hle =>
          hw.gives_value_iff.mpr ((ih n (Nat.lt_succ_self n) hj (by omega)).2 hrest)⟩
        obtain ⟨hname, -, -, -⟩ := he
        exact hname.opens _
      have hitems := gives_items_of_sequence hread (.inr rfl) h (Nat.le_of_succ_le_succ hv) rest
      rw [value.eq_def, gives_spaced_iff, List.cons_append, skipSpace_cons rfl]
      exact hitems.map fun _ => ⟨rfl, rfl⟩

/-- A value of any depth is passed over. -/
theorem Renders.gives_skipValue {j : Json} {v : List Char} (h : Renders j v) (hw : Blank w)
    (hrest : StartsIn stops rest) : Gives (skipValue (w ++ (v ++ rest))) () rest := by
  have hlength : v.length ≤ (w ++ (v ++ rest)).length := by
    simp only [List.length_append]
    omega
  exact (hw.gives_value_iff.mpr ((readsUpTo_renders _ h hlength).2 hrest)).map fun _ => ⟨rfl, rfl⟩

end CloudScope.Json
