import CloudScope.Proofs.Expr.Walks
import CloudScope.Proofs.Text.Utf8

/-!
# Faults in scope expressions

A text is rejected at its first word that cannot be read: one with an illegal character, or one name
too many. If it has none, it is rejected at the first token such that no expression begins with the
tokens up to it, or at its end, where it is only the beginning of an expression
(`parse_error_iff`).
-/

namespace CloudScope.Expr

/-! ## Words that cannot be read -/

/-- The words that are names. -/
def nameWords (ws : List (List Char)) : List (List Char) :=
  ws.filter fun word => word.all isNameChar

/-- Whether a word cannot be read behind earlier ones: it has an illegal character, or there are 256
names before it and it is one more. -/
def Unreadable (earlier : List (List Char)) (word : List Char) : Prop :=
  (∃ c ∈ word, isLegal c = false) ∨
    word.all isNameChar = true ∧ (nameWords earlier).length = 256

/-- Whether each word can be read behind those before it. -/
def Readable (ws : List (List Char)) : Prop :=
  ∀ earlier word later, ws = earlier ++ word :: later → ¬ Unreadable earlier word

variable {s : List Char} {c : Char} {word : List Char} {earlier later : List (List Char)}

theorem readable_nil : Readable [] :=
  fun earlier word later h => absurd h (by simp)

theorem Readable.of_append (h : Readable (earlier ++ later)) : Readable earlier := by
  intro before word after hsplit
  exact h before word (after ++ later) (by rw [hsplit, List.append_assoc, List.cons_append])

theorem readable_concat_iff :
    Readable (earlier ++ [word]) ↔ Readable earlier ∧ ¬ Unreadable earlier word := by
  constructor
  · exact fun h => ⟨h.of_append, h earlier word [] rfl⟩
  · rintro ⟨hearlier, hword⟩ before w after hsplit
    rcases List.eq_nil_or_concat' after with rfl | ⟨after, last, rfl⟩
    · obtain ⟨rfl, hlast⟩ := List.append_inj' hsplit rfl
      cases hlast
      exact hword
    · rw [← List.cons_append, ← List.append_assoc] at hsplit
      obtain ⟨hsplit, -⟩ := List.append_inj' hsplit rfl
      exact hearlier before w after hsplit

theorem not_unreadable_singleton (hlegal : isLegal c = true) (hname : isNameChar c = false) :
    ¬ Unreadable earlier [c] := by
  simp [Unreadable, hlegal, hname]

/-! ## Lexemes at their places -/

/-- The tokens of words behind earlier ones, at the offsets of their words. -/
def placed (earlier : List (List Char)) : List (List Char) → List Lexeme
  | [] => []
  | word :: later =>
    ((token? word).map (Lexeme.mk · (Utf8.size earlier.flatten))).toList ++
      placed (earlier ++ [word]) later

theorem placed_cons_some {t : Token} (h : token? word = some t) :
    placed earlier (word :: later) =
      ⟨t, Utf8.size earlier.flatten⟩ :: placed (earlier ++ [word]) later := by
  rw [placed, h]
  rfl

theorem placed_cons_none (h : token? word = none) :
    placed earlier (word :: later) = placed (earlier ++ [word]) later := by
  rw [placed, h]
  rfl

/-- What is read of words behind earlier ones: their lexemes, or a fault at the first word that
cannot be read. -/
inductive ReadAs (earlier later : List (List Char)) : Except Misreading (List Lexeme) → Prop
  | lexemes : Readable (earlier ++ later) → ReadAs earlier later (.ok (placed earlier later))
  | fault {before word after m} : earlier ++ later = before ++ word :: after → Readable before →
    Unreadable before word → m.offset = Utf8.size before.flatten → ReadAs earlier later (.error m)

theorem ReadAs.cons_some {t : Token} {offset : Nat} {read : Except Misreading (List Lexeme)}
    (h : ReadAs (earlier ++ [word]) later read) (ht : token? word = some t)
    (hoffset : offset = Utf8.size earlier.flatten) :
    ReadAs earlier (word :: later) (read.map (⟨t, offset⟩ :: ·)) := by
  cases h with
  | lexemes hreadable =>
    rw [Except.map, hoffset, ← placed_cons_some ht]
    exact .lexemes (by rwa [List.append_assoc] at hreadable)
  | fault hsplit hbefore hword hoffset =>
    exact .fault (by rwa [List.append_assoc] at hsplit) hbefore hword hoffset

theorem ReadAs.cons_none {read : Except Misreading (List Lexeme)}
    (h : ReadAs (earlier ++ [word]) later read) (ht : token? word = none) :
    ReadAs earlier (word :: later) read := by
  cases h with
  | lexemes hreadable =>
    rw [← placed_cons_none ht]
    exact .lexemes (by rwa [List.append_assoc] at hreadable)
  | fault hsplit hbefore hword hoffset =>
    exact .fault (by rwa [List.append_assoc] at hsplit) hbefore hword hoffset

theorem size_flatten_concat :
    Utf8.size (earlier ++ [word]).flatten = Utf8.size earlier.flatten + Utf8.size word := by
  rw [List.flatten_append, List.flatten_singleton, Utf8.size_append]

theorem size_of_lt (h : c.toNat < 0x80) : Utf8.size [c] = 1 := by
  rw [Utf8.size, Utf8.size, Utf8.utf8Size_eq, if_pos h]

theorem size_of_symbol {t : Token} (h : symbol? c = some t) : Utf8.size [c] = 1 := by
  have hmem := (symbol?_eq_some h).1
  simp only [List.contains_iff_mem, List.mem_cons, List.not_mem_nil, or_false] at hmem
  rcases hmem with rfl | rfl | rfl | rfl <;> rfl

/-- Each character of a name is a single byte. -/
theorem size_of_all_isNameChar (h : word.all isNameChar = true) : Utf8.size word = word.length := by
  induction word with
  | nil => rfl
  | cons c word ih =>
    obtain ⟨hc, hword⟩ : isNameChar c = true ∧ word.all isNameChar = true := by simpa using h
    have hbyte : Utf8.size [c] = 1 := size_of_lt (by have := isNameChar_lt hc; omega)
    rw [← List.singleton_append, Utf8.size_append, ih hword, hbyte, List.length_append]
    rfl

theorem nameWords_concat_of_not (h : isNameChar c = false) :
    nameWords (earlier ++ [[c]]) = nameWords earlier := by
  simp [nameWords, List.filter_append, h]

theorem length_nameWords_concat (h : word.all isNameChar = true) :
    (nameWords (earlier ++ [word])).length = (nameWords earlier).length + 1 := by
  simp [nameWords, List.filter_append, h]

theorem readAs_lexFrom {offset named : Nat} (hearlier : Readable earlier)
    (hoffset : offset = Utf8.size earlier.flatten) (hnamed : named = (nameWords earlier).length) :
    ReadAs earlier (words s) (lexFrom offset named s) := by
  -- the words before the text count as read
  fun_induction lexFrom offset named s generalizing earlier with
  | case1 => exact .lexemes (by rwa [words, List.splitBy_nil, List.append_nil])
  | case2 offset named c rest hblank ih =>
    have hc := isNameChar_of_isBlank hblank
    rw [words_cons_of_not hc]
    refine (ih ?_ ?_ ?_).cons_none (token?_of_blank hblank)
    · exact readable_concat_iff.mpr
        ⟨hearlier, not_unreadable_singleton (by simp [isLegal, hblank]) hc⟩
    · rw [size_flatten_concat, hoffset]
      rfl
    · rw [nameWords_concat_of_not hc, hnamed]
  | case3 offset named c rest _ token hsymbol ih =>
    have hc := (symbol?_eq_some hsymbol).2.1
    rw [words_cons_of_not hc]
    refine (ih ?_ ?_ ?_).cons_some (token?_of_symbol hsymbol) hoffset
    · exact readable_concat_iff.mpr
        ⟨hearlier, not_unreadable_singleton (isLegal_of_symbol hsymbol) hc⟩
    · rw [size_flatten_concat, hoffset, size_of_symbol hsymbol]
    · rw [nameWords_concat_of_not hc, hnamed]
  | case4 offset c rest _ _ hc =>
    rw [words_cons_of_name hc]
    exact .fault rfl hearlier (.inr ⟨by simp [hc], hnamed.symm⟩) hoffset
  | case5 offset named c rest _ _ hc hfew name =>
    -- the name counts before the rest is read
    rename_i ih
    have hname : name.all isNameChar = true := by simp [name, hc]
    have hlegal : ∀ a ∈ name, isLegal a = true := fun a ha => by
      simp [isLegal, List.all_eq_true.mp hname a ha]
    rw [words_cons_of_name hc]
    refine (ih ?_ ?_ ?_).cons_some (token?_of_name hc) hoffset
    · refine readable_concat_iff.mpr ⟨hearlier, ?_⟩
      rintro (⟨a, ha, hillegal⟩ | ⟨-, hmany⟩)
      · rw [hlegal a ha] at hillegal
        cases hillegal
      · exact hfew (hnamed.trans hmany)
    · rw [size_flatten_concat, size_of_all_isNameChar hname, hoffset]
    · rw [length_nameWords_concat hname, hnamed]
  | case6 offset named c rest hblank hsymbol hc =>
    rw [words_cons_of_not (by simpa using hc)]
    refine .fault rfl hearlier (.inl ⟨c, List.mem_cons_self, ?_⟩) hoffset
    simp only [isLegal, hblank, symbol?_eq_none hsymbol, hc, Bool.or_self]

theorem readAs_lex (s : List Char) : ReadAs [] (words s) (lex s) :=
  readAs_lexFrom readable_nil rfl rfl

/-! ## Where lexemes are blocked -/

/-- If lexemes are blocked, it is at the first of them that leads nowhere, or at the end. -/
theorem cases_of_blocked {stop offset : Nat} {st : Stand}
    (hearlier : walk? maxNesting (.before 0) (earlier.filterMap token?) = some st)
    (h : Blocked stop st (placed earlier later) offset) :
    (∃ before word after found st', earlier ++ later = before ++ word :: after ∧
      token? word = some found ∧ walk? maxNesting (.before 0) (before.filterMap token?) = some st' ∧
      st'.step? maxNesting found = none ∧ offset = Utf8.size before.flatten) ∨
    ∃ st', walk? maxNesting (.before 0) ((earlier ++ later).filterMap token?) = some st' ∧
      st' ≠ .behind 0 ∧ offset = stop := by
  induction later generalizing earlier st with
  | nil =>
    cases h with
    | ended hst => exact .inr ⟨st, by rwa [List.append_nil], hst, rfl⟩
  | cons word later ih =>
    have hsplit : earlier ++ word :: later = earlier ++ [word] ++ later := by
      rw [List.append_assoc, List.singleton_append]
    rcases htoken : token? word with _ | found
    · rw [placed_cons_none htoken] at h
      rw [hsplit]
      refine ih ?_ h
      rwa [List.filterMap_append, List.filterMap_cons_none htoken, List.filterMap_nil,
        List.append_nil]
    · rw [placed_cons_some htoken] at h
      cases h with
      | here hnone =>
        exact .inl ⟨earlier, word, later, found, st, rfl, htoken, hearlier, hnone, rfl⟩
      | later hstep hblocked =>
        rw [hsplit]
        refine ih ?_ hblocked
        rw [List.filterMap_append, List.filterMap_cons_some htoken, List.filterMap_nil]
        exact (walk?_append_of_walk hearlier).trans ((walk?_cons_of_step hstep).trans walk?_nil)

/-! ## Faults -/

/-- The place at which a text is rejected. -/
inductive FaultAt (s : List Char) : Nat → Prop
  /-- The first word that cannot be read. -/
  | unreadable {earlier later : List (List Char)} {word} : words s = earlier ++ word :: later →
    Readable earlier → Unreadable earlier word → FaultAt s (Utf8.size earlier.flatten)
  /-- The first token such that no expression begins with the tokens up to it. -/
  | token {earlier later : List (List Char)} {word found} : Readable (words s) →
    words s = earlier ++ word :: later → token? word = some found →
    Viable (earlier.filterMap token?) → ¬ Viable (earlier.filterMap token? ++ [found]) →
    FaultAt s (Utf8.size earlier.flatten)
  /-- The end of a text that only begins an expression. -/
  | incomplete : Readable (words s) → Viable (tokens s) →
    (¬ ∃ e, Derives .expression 64 (tokens s) e) → FaultAt s (Utf8.size s)

theorem not_viable_concat {ts : List Token} {t : Token} {st : Stand}
    (h : walk? maxNesting (.before 0) ts = some st) (ht : st.step? maxNesting t = none) :
    ¬ Viable (ts ++ [t]) := by
  intro hviable
  obtain ⟨st', hst'⟩ := viable_iff_walk?.mp hviable
  rw [walk?_append_of_walk h, walk?_cons, ht] at hst'
  cases hst'

theorem Viable.of_append {ts us : List Token} (h : Viable (ts ++ us)) : Viable ts := by
  obtain ⟨vs, e, hderives⟩ := h
  exact ⟨us ++ vs, e, by rwa [← List.append_assoc]⟩

/-- A text is rejected where it has a fault. -/
theorem faultAt_of_parse {s : String} {fault : ParseError} (h : parse s = .error fault) :
    fault.expression = s ∧ FaultAt s.toList fault.offset := by
  have hread := readAs_lex s.toList
  simp only [parse] at h
  rcases hlex : lex s.toList with m | lexemes
  · rw [hlex] at h hread
    cases h
    cases hread with
    | fault hsplit hreadable hunreadable hoffset =>
      exact ⟨rfl, hoffset ▸ .unreadable hsplit hreadable hunreadable⟩
  · rw [hlex] at h hread
    cases hread with
    | lexemes hreadable =>
      rw [List.nil_append] at hreadable
      dsimp only at h
      rcases hexpr : ofLexemes (Utf8.size s.toList) (placed [] (words s.toList)) with stop | e
      · obtain ⟨m, rfl, hblocked⟩ := exists_misread_of_ofLexemes hexpr
        rw [hexpr] at h
        cases h
        refine ⟨rfl, ?_⟩
        rcases cases_of_blocked walk?_nil hblocked with
          ⟨before, word, after, found, st, hsplit, hfound, hwalk, hnone, hoffset⟩ |
          ⟨st, hwalk, hst, hoffset⟩
        · exact hoffset ▸ .token hreadable hsplit hfound (viable_iff_walk?.mpr ⟨st, hwalk⟩)
            (not_viable_concat hwalk hnone)
        · refine hoffset ▸ .incomplete hreadable (viable_iff_walk?.mpr ⟨st, hwalk⟩) ?_
          intro hderives
          have hend := derives_iff_walk?.mp hderives
          exact hst (Option.some.inj (hwalk.symm.trans hend))
      · rw [hexpr] at h
        cases h

/-- All words of a text can be read if its characters are legal and its names are few. -/
theorem readable_words_iff : Readable (words s) ↔
    (∀ c ∈ s, isLegal c = true) ∧ (names s).length ≤ maxEndpoints := by
  have hread := readAs_lex s
  constructor
  · intro hreadable
    rcases hlex : lex s with m | lexemes
    · rw [hlex] at hread
      cases hread with
      | fault hsplit _ hunreadable _ => exact absurd hunreadable (hreadable _ _ _ hsplit)
    · obtain ⟨hlegal, hcount, -⟩ := lex_eq_ok_iff.mp ⟨lexemes, hlex, rfl⟩
      exact ⟨hlegal, hcount⟩
  · rintro ⟨hlegal, hcount⟩
    obtain ⟨lexemes, hlex, -⟩ := lex_eq_ok_iff.mpr ⟨hlegal, hcount, rfl⟩
    rw [hlex] at hread
    cases hread with
    | lexemes hreadable => exact hreadable

/-- A text that is accepted has no fault. -/
theorem not_faultAt_of_parse {s : String} {e : Expr} {offset : Nat} (h : parse s = .ok e) :
    ¬ FaultAt s.toList offset := by
  obtain ⟨hlegal, hcount, hderives⟩ := parse_eq_ok_iff_derives.mp h
  intro hfault
  cases hfault with
  | unreadable hsplit _ hunreadable =>
    exact readable_words_iff.mpr ⟨hlegal, hcount⟩ _ _ _ hsplit hunreadable
  | @token _ later _ _ _ hsplit hfound _ hnot =>
    rw [tokens, hsplit, List.filterMap_append, List.filterMap_cons_some hfound] at hderives
    exact hnot ⟨later.filterMap token?, e, by rwa [List.append_assoc]⟩
  | incomplete _ _ hnot => exact hnot ⟨e, hderives⟩

/-- There is only one first place of a kind in a list. -/
theorem eq_of_first {P : List (List Char) → List Char → Prop} {earlier' later' : List (List Char)}
    {word' : List Char} (h : earlier ++ word :: later = earlier' ++ word' :: later')
    (hword : P earlier word) (hword' : P earlier' word')
    (hfirst : ∀ before w after, earlier = before ++ w :: after → ¬ P before w)
    (hfirst' : ∀ before w after, earlier' = before ++ w :: after → ¬ P before w) :
    earlier = earlier' := by
  rcases List.append_eq_append_iff.mp h with
    ⟨_ | ⟨w, between⟩, rfl, heq⟩ | ⟨_ | ⟨w, between⟩, rfl, heq⟩
  · rw [List.append_nil]
  · cases heq
    exact absurd hword (hfirst' _ _ _ rfl)
  · rw [List.append_nil]
  · cases heq
    exact absurd hword' (hfirst _ _ _ rfl)

theorem FaultAt.unique {offset offset' : Nat} (h : FaultAt s offset) (h' : FaultAt s offset') :
    offset = offset' := by
  -- what is behind a token that leads nowhere does not make it viable
  have hlast : ∀ {earlier later word found}, words s = earlier ++ word :: later →
      token? word = some found → ¬ Viable (earlier.filterMap token? ++ [found]) →
      ¬ Viable (tokens s) := by
    intro earlier later word found hsplit hfound hnot hviable
    rw [tokens, hsplit, List.filterMap_append, List.filterMap_cons_some hfound,
      ← List.singleton_append, ← List.append_assoc] at hviable
    exact hnot hviable.of_append
  cases h with
  | unreadable hsplit hreadable hunreadable =>
    cases h' with
    | unreadable hsplit' hreadable' hunreadable' =>
      rw [eq_of_first (hsplit.symm.trans hsplit') hunreadable hunreadable' hreadable hreadable']
    | token hall _ _ _ _ | incomplete hall _ _ => exact absurd hunreadable (hall _ _ _ hsplit)
  | token hall hsplit hfound hviable hnot =>
    cases h' with
    | unreadable hsplit' _ hunreadable' => exact absurd hunreadable' (hall _ _ _ hsplit')
    | token _ hsplit' hfound' hviable' hnot' =>
      have hfirst : ∀ {ws : List (List Char)}, Viable (ws.filterMap token?) →
          ∀ before w after, ws = before ++ w :: after →
            ¬ ¬ Viable ((before ++ [w]).filterMap token?) := by
        intro ws hws before w after hcut
        rw [hcut, List.append_cons, List.filterMap_append] at hws
        exact not_not_intro hws.of_append
      rw [eq_of_first (P := fun before w => ¬ Viable ((before ++ [w]).filterMap token?))
        (hsplit.symm.trans hsplit') (by simpa [hfound] using hnot) (by simpa [hfound'] using hnot')
        (hfirst hviable) (hfirst hviable')]
    | incomplete _ hviable' _ => exact absurd hviable' (hlast hsplit hfound hnot)
  | incomplete hall hviable hnot =>
    cases h' with
    | unreadable hsplit' _ hunreadable' => exact absurd hunreadable' (hall _ _ _ hsplit')
    | token _ hsplit' hfound' _ hnot' => exact absurd hviable (hlast hsplit' hfound' hnot')
    | incomplete _ _ _ => rfl

theorem exists_error_of_faultAt {s : String} {offset : Nat} (h : FaultAt s.toList offset) :
    ∃ fault, parse s = .error fault ∧ fault.offset = offset := by
  rcases hparse : parse s with fault | e
  · exact ⟨fault, rfl, (faultAt_of_parse hparse).2.unique h⟩
  · exact absurd h (not_faultAt_of_parse hparse)

/-- A fault is at a boundary of characters. -/
theorem FaultAt.exists_append {offset : Nat} (h : FaultAt s offset) :
    ∃ before after, s = before ++ after ∧ offset = Utf8.size before := by
  have hcut : ∀ {earlier later : List (List Char)}, words s = earlier ++ later →
      s = earlier.flatten ++ later.flatten := by
    intro earlier later hsplit
    rw [← List.flatten_append, ← hsplit, words, List.flatten_splitBy]
  cases h with
  | unreadable hsplit | token _ hsplit => exact ⟨_, _, hcut hsplit, rfl⟩
  | incomplete => exact ⟨s, [], (List.append_nil s).symm, rfl⟩

/-- A text is rejected exactly if it has a fault, and the error names the text and the place of the
fault, which is a boundary of characters. -/
theorem parse_error_iff (s : String) :
    (∀ fault, parse s = .error fault → fault.expression = s ∧
      ∃ before after, s.toList = before ++ after ∧ fault.offset = Utf8.size before) ∧
    ∀ offset, (∃ fault, parse s = .error fault ∧ fault.offset = offset) ↔
      FaultAt s.toList offset := by
  refine ⟨fun fault h => ?_, fun offset => ⟨?_, exists_error_of_faultAt⟩⟩
  · obtain ⟨hexpression, hfault⟩ := faultAt_of_parse h
    exact ⟨hexpression, hfault.exists_append⟩
  · rintro ⟨fault, h, rfl⟩
    exact (faultAt_of_parse h).2

example : parse "a\u2003& (b|) %" = .error ⟨"a\u2003& (b|) %", 11, .unexpectedCharacter '%'⟩ := by
  cbv

example : parse "a\u2003& (b|)" = .error ⟨"a\u2003& (b|)", 9, .notAnEndpoint .closing⟩ := by cbv

end CloudScope.Expr
