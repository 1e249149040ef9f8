import CloudScope.Expr.Lexeme
import CloudScope.Proofs.Text.Readings
import Mathlib

/-!
# Words of scope expressions

A text falls into words: names, each as long as it can be, and single characters. The lexemes of a
text are the tokens of its words, if all characters are legal and there are not too many names
(`lex_eq_ok_iff`).
-/

namespace CloudScope.Expr

/-- Whether two neighbours in a text belong to one name. -/
def inOneName (a b : Char) : Bool :=
  isNameChar a && isNameChar b

/-- The words of a text: the longest runs of characters of names, and single characters. -/
def words (s : List Char) : List (List Char) :=
  s.splitBy inOneName

/-- The token of a word; a blank has none. -/
def token? (word : List Char) : Option Token :=
  if word.all isNameChar then some (.name (String.ofList word)) else word.head?.bind symbol?

def tokens (s : List Char) : List Token :=
  (words s).filterMap token?

def names (s : List Char) : List String :=
  ((words s).filter fun word => word.all isNameChar).map String.ofList

def Token.name? : Token → Option String
  | .name text => some text
  | .operator _ | .opening | .closing => none

def Token.operator? : Token → Option Operator
  | .operator op => some op
  | .name _ | .opening | .closing => none

/-- Whether a character may stand in an expression. -/
def isLegal (c : Char) : Bool :=
  Text.isBlank c || ['&', '|', '(', ')'].contains c || isNameChar c

variable {c : Char} {rest : List Char}

/-! ## Kinds of characters -/

theorem isNameChar_lt (h : isNameChar c = true) : 0x2D ≤ c.toNat ∧ c.toNat < 0x7B := by
  simp only [isNameChar, Char.isAlphanum, Char.isAlpha, Char.isUpper, Char.isLower, Char.isDigit,
    Bool.or_eq_true, Bool.and_eq_true, decide_eq_true_eq, beq_iff_eq, UInt32.le_iff_toNat_le] at h
  have hc : c.toNat = c.val.toNat := rfl
  rcases h with (((((h | h) | h) | rfl) | rfl) | rfl) | rfl
  all_goals first | decide | (simp at h; omega)

theorem isBlank_eq_false (h : isNameChar c = true) : Text.isBlank c = false := by
  have hc := isNameChar_lt h
  simp [Text.isBlank, Text.blankRanges]
  omega

theorem isNameChar_of_isBlank (h : Text.isBlank c = true) : isNameChar c = false := by
  by_contra hc
  simp [isBlank_eq_false (by simpa using hc)] at h

theorem symbol?_eq_some {token : Token} (h : symbol? c = some token) :
    ['&', '|', '(', ')'].contains c = true ∧ isNameChar c = false ∧ Text.isBlank c = false := by
  unfold symbol? at h
  split at h
  · decide
  · decide
  · decide
  · decide
  · cases h

theorem symbol?_eq_none (h : symbol? c = none) : ['&', '|', '(', ')'].contains c = false := by
  unfold symbol? at h
  split at h
  · cases h
  · cases h
  · cases h
  · cases h
  · next hand hor hopening hclosing =>
    simpa using ⟨hand, hor, hopening, hclosing⟩

/-! ## The front of a text -/

theorem words_cons_of_name (h : isNameChar c = true) : words (c :: rest) =
    (c :: rest.takeWhile isNameChar) :: words (rest.dropWhile isNameChar) := by
  have hname : ∀ a ∈ c :: rest.takeWhile isNameChar, isNameChar a = true := by
    intro a ha
    rcases List.mem_cons.mp ha with rfl | ha
    · exact h
    · exact List.all_eq_true.mp List.all_takeWhile a ha
  have hrun : words (c :: rest.takeWhile isNameChar) = [c :: rest.takeWhile isNameChar] := by
    refine List.splitBy_of_isChain (by simp) (List.Pairwise.isChain ?_)
    refine List.pairwise_of_forall_mem_list fun a ha b hb => ?_
    simp only [inOneName, hname a ha, hname b hb, Bool.and_self]
  have hcut : ∀ a ∈ (c :: rest.takeWhile isNameChar).getLast?,
      ∀ b ∈ (rest.dropWhile isNameChar).head?, inOneName a b = false := by
    intro a _ b hb
    have hb := List.head?_dropWhile_not isNameChar rest
    simp_all [inOneName]
  calc words (c :: rest)
      = words (c :: rest.takeWhile isNameChar ++ rest.dropWhile isNameChar) := by simp
    _ = words (c :: rest.takeWhile isNameChar) ++ words (rest.dropWhile isNameChar) :=
      List.splitBy_append hcut
    _ = _ := by rw [hrun]; rfl

theorem words_cons_of_not (h : isNameChar c = false) : words (c :: rest) = [c] :: words rest :=
  List.splitBy_append (l := [c]) (by simp [inOneName, h])

theorem token?_of_name (h : isNameChar c = true) : token? (c :: rest.takeWhile isNameChar) =
    some (.name (String.ofList (c :: rest.takeWhile isNameChar))) := by
  simp [token?, h]

theorem token?_of_symbol {token : Token} (h : symbol? c = some token) :
    token? [c] = some token := by
  simp [token?, (symbol?_eq_some h).2.1, h]

theorem token?_of_blank (h : Text.isBlank c = true) : token? [c] = none := by
  have hsymbol : symbol? c = none := by
    by_contra hsymbol
    obtain ⟨token, htoken⟩ := Option.ne_none_iff_exists'.mp hsymbol
    simp [(symbol?_eq_some htoken).2.2] at h
  simp [token?, isNameChar_of_isBlank h, hsymbol]

theorem tokens_cons_of_name (h : isNameChar c = true) : tokens (c :: rest) =
    .name (String.ofList (c :: rest.takeWhile isNameChar)) ::
      tokens (rest.dropWhile isNameChar) := by
  rw [tokens, words_cons_of_name h, List.filterMap_cons_some (token?_of_name h), ← tokens]

theorem tokens_cons_of_symbol {token : Token} (h : symbol? c = some token) :
    tokens (c :: rest) = token :: tokens rest := by
  rw [tokens, words_cons_of_not (symbol?_eq_some h).2.1,
    List.filterMap_cons_some (token?_of_symbol h), ← tokens]

theorem tokens_cons_of_blank (h : Text.isBlank c = true) : tokens (c :: rest) = tokens rest := by
  rw [tokens, words_cons_of_not (isNameChar_of_isBlank h),
    List.filterMap_cons_none (token?_of_blank h), ← tokens]

/-- A character that stands in no name parts the text. -/
theorem words_append_of_not (h : isNameChar c = false) (s : List Char) :
    words (s ++ c :: rest) = words s ++ [c] :: words rest := by
  rw [← words_cons_of_not h]
  exact List.splitBy_append (by simp [inOneName, h])

theorem tokens_append_of_not (h : isNameChar c = false) (s : List Char) :
    tokens (s ++ c :: rest) = tokens s ++ tokens (c :: rest) := by
  rw [tokens, words_append_of_not h, List.filterMap_append, ← words_cons_of_not h, ← tokens,
    ← tokens]

/-- Words at the front of a text are the words of what they join to. -/
theorem words_flatten {s : List Char} {earlier later : List (List Char)}
    (h : words s = earlier ++ later) : words earlier.flatten = earlier := by
  obtain ⟨-, hne, hruns, hcuts⟩ := List.splitBy_eq_iff.mp h
  exact List.splitBy_flatten (fun hmem => hne (List.mem_append_left _ hmem))
    (fun word hword => hruns word (List.mem_append_left _ hword)) hcuts.left_of_append

theorem tokens_of_name {name : String} (hne : name ≠ "")
    (hname : name.toList.all isNameChar = true) : tokens name.toList = [.name name] := by
  obtain ⟨c, rest, hs⟩ := List.exists_cons_of_ne_nil (String.toList_eq_nil_iff.not.mpr hne)
  obtain ⟨hc, hrest⟩ : isNameChar c = true ∧ rest.all isNameChar = true := by
    simpa [hs] using hname
  have htake : rest.takeWhile isNameChar = rest :=
    List.takeWhile_eq_self_iff.mpr (List.all_eq_true.mp hrest)
  have hdrop : rest.dropWhile isNameChar = [] :=
    List.dropWhile_eq_nil_iff.mpr (List.all_eq_true.mp hrest)
  rw [hs, tokens_cons_of_name hc, htake, hdrop, ← hs, String.ofList_toList]
  rfl

/-- The names in a text are the tokens that are names. -/
theorem filterMap_name?_tokens (s : List Char) : (tokens s).filterMap Token.name? = names s := by
  have hsymbol : ∀ c, (symbol? c).bind Token.name? = none := by
    intro c
    unfold symbol?
    split <;> rfl
  rw [tokens, names, List.filterMap_filterMap, ← List.filterMap_eq_map, List.filterMap_filter]
  refine List.filterMap_congr fun word _ => ?_
  simp only [token?]
  split
  · rfl
  · rw [Option.bind_assoc]
    simp [hsymbol]

theorem names_cons_of_name (h : isNameChar c = true) : names (c :: rest) =
    String.ofList (c :: rest.takeWhile isNameChar) :: names (rest.dropWhile isNameChar) := by
  rw [names, words_cons_of_name h, List.filter_cons_of_pos (by simp [h]), List.map_cons, ← names]

theorem names_cons_of_not (h : isNameChar c = false) : names (c :: rest) = names rest := by
  rw [names, words_cons_of_not h, List.filter_cons_of_neg (by simp [h]), ← names]

theorem all_isNameChar_of_mem_names {name : String} {s : List Char} (h : name ∈ names s) :
    name.toList.all isNameChar = true := by
  obtain ⟨word, hword, rfl⟩ := List.mem_map.mp h
  rw [String.toList_ofList]
  exact (List.mem_filter.mp hword).2

theorem toList_ne_nil_of_mem_names {name : String} {s : List Char} (h : name ∈ names s) :
    name.toList ≠ [] := by
  obtain ⟨word, hword, rfl⟩ := List.mem_map.mp h
  rw [String.toList_ofList]
  exact List.ne_nil_of_mem_splitBy (List.mem_filter.mp hword).1

theorem eq_symbol_of_symbol? {op : Operator} (h : symbol? c = some (.operator op)) :
    c = op.symbol := by
  unfold symbol? at h
  split at h
  · cases h
    rfl
  · cases h
    rfl
  · cases h
  · cases h
  · cases h

/-- The operators among the tokens of a text stand in it as symbols. -/
theorem symbol_mem_of_mem_tokens {op : Operator} {s : List Char}
    (h : .operator op ∈ tokens s) : op.symbol ∈ s := by
  obtain ⟨word, hword, htoken⟩ := List.mem_filterMap.mp h
  rw [token?] at htoken
  split at htoken
  · cases htoken
  · obtain ⟨c, hc, hsymbol⟩ := Option.bind_eq_some_iff.mp htoken
    rw [← eq_symbol_of_symbol? hsymbol, ← List.flatten_splitBy inOneName s]
    exact List.mem_flatten.mpr ⟨word, hword, List.mem_of_head? hc⟩

theorem isLegal_of_symbol {token : Token} (h : symbol? c = some token) : isLegal c = true := by
  simp only [isLegal, (symbol?_eq_some h).1, Bool.or_true, Bool.true_or]

theorem forall_mem_cons_isLegal (hc : isNameChar c = true)
    (h : ∀ a ∈ rest.dropWhile isNameChar, isLegal a = true) :
    ∀ a ∈ c :: rest, isLegal a = true := by
  have hname : ∀ a, isNameChar a = true → isLegal a = true := fun a ha => by simp [isLegal, ha]
  intro a ha
  rw [← List.takeWhile_append_dropWhile (p := isNameChar) (l := rest), List.mem_cons,
    List.mem_append] at ha
  rcases ha with rfl | ha | ha
  · exact hname _ hc
  · exact hname a (List.all_eq_true.mp List.all_takeWhile a ha)
  · exact h a ha

/-! ## Lexemes of a text -/

/-- What is read is the tokens of a text whose characters are legal and whose names are few. -/
theorem of_lexFrom_eq_ok {offset named : Nat} {s : List Char} {lexemes : List Lexeme}
    (hnamed : named ≤ maxEndpoints) (h : lexFrom offset named s = .ok lexemes) :
    (∀ c ∈ s, isLegal c = true) ∧ named + (names s).length ≤ maxEndpoints ∧
      lexemes.map (·.token) = tokens s := by
  fun_induction lexFrom offset named s generalizing lexemes with
  | case1 => cases h; exact ⟨by simp, hnamed, rfl⟩
  | case2 offset named c rest hblank ih =>
    obtain ⟨hlegal, hcount, htokens⟩ := ih hnamed h
    refine ⟨List.forall_mem_cons.mpr ⟨by simp [isLegal, hblank], hlegal⟩, ?_, ?_⟩
    · rwa [names_cons_of_not (isNameChar_of_isBlank hblank)]
    · rwa [tokens_cons_of_blank hblank]
  | case3 offset named c rest _ token hsymbol ih =>
    obtain ⟨later, hlater, rfl⟩ := exists_of_map_eq_ok h
    obtain ⟨hlegal, hcount, htokens⟩ := ih hnamed hlater
    refine ⟨List.forall_mem_cons.mpr ⟨isLegal_of_symbol hsymbol, hlegal⟩, ?_, ?_⟩
    · rwa [names_cons_of_not (symbol?_eq_some hsymbol).2.1]
    · rw [tokens_cons_of_symbol hsymbol, List.map_cons, htokens]
  | case4 => cases h
  | case5 offset named c rest _ _ hc hfew name =>
    -- the name counts before the rest is read
    rename_i ih
    obtain ⟨later, hlater, rfl⟩ := exists_of_map_eq_ok h
    obtain ⟨hlegal, hcount, htokens⟩ := ih (by omega) hlater
    refine ⟨forall_mem_cons_isLegal hc hlegal, ?_, ?_⟩
    · rw [names_cons_of_name hc, List.length_cons]
      omega
    · rw [tokens_cons_of_name hc, List.map_cons, htokens]
  | case6 => cases h

/-- A text whose characters are legal and whose names are few is read. -/
theorem exists_lexFrom_eq_ok {offset named : Nat} {s : List Char}
    (hlegal : ∀ c ∈ s, isLegal c = true) (hcount : named + (names s).length ≤ maxEndpoints) :
    ∃ lexemes, lexFrom offset named s = .ok lexemes := by
  fun_induction lexFrom offset named s with
  | case1 => exact ⟨_, rfl⟩
  | case2 offset named c rest hblank ih =>
    rw [names_cons_of_not (isNameChar_of_isBlank hblank)] at hcount
    exact ih (List.forall_mem_cons.mp hlegal).2 hcount
  | case3 offset named c rest _ token hsymbol ih =>
    rw [names_cons_of_not (symbol?_eq_some hsymbol).2.1] at hcount
    obtain ⟨later, hlater⟩ := ih (List.forall_mem_cons.mp hlegal).2 hcount
    exact ⟨_, by rw [hlater]; rfl⟩
  | case4 offset c rest _ _ hc =>
    rw [names_cons_of_name hc, List.length_cons] at hcount
    omega
  | case5 offset named c rest _ _ hc hfew name ih =>
    rw [names_cons_of_name hc, List.length_cons] at hcount
    have hrest : ∀ a ∈ rest.dropWhile isNameChar, isLegal a = true := fun a ha =>
      hlegal a (List.mem_cons_of_mem c ((List.dropWhile_sublist _).mem ha))
    obtain ⟨later, hlater⟩ := ih hrest (by omega)
    exact ⟨_, by rw [hlater]; rfl⟩
  | case6 offset named c rest hblank hsymbol hc =>
    have hc' := hlegal c List.mem_cons_self
    simp only [isLegal, hblank, symbol?_eq_none hsymbol, hc, Bool.or_self] at hc'
    cases hc'

/-- A text has lexemes if its characters are legal and its names are few, and these are its
tokens. -/
theorem lex_eq_ok_iff {s : List Char} {read : List Token} :
    (∃ lexemes, lex s = .ok lexemes ∧ lexemes.map (·.token) = read) ↔
      (∀ c ∈ s, isLegal c = true) ∧ (names s).length ≤ maxEndpoints ∧ tokens s = read := by
  constructor
  · rintro ⟨lexemes, hlex, rfl⟩
    obtain ⟨hlegal, hcount, htokens⟩ := of_lexFrom_eq_ok (Nat.zero_le _) hlex
    exact ⟨hlegal, by omega, htokens.symm⟩
  · rintro ⟨hlegal, hcount, rfl⟩
    obtain ⟨lexemes, hlex⟩ : ∃ lexemes, lexFrom 0 0 s = .ok lexemes :=
      exists_lexFrom_eq_ok hlegal (by omega)
    exact ⟨lexemes, hlex, (of_lexFrom_eq_ok (Nat.zero_le _) hlex).2.2⟩

end CloudScope.Expr
