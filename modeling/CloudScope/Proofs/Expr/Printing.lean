import CloudScope.Proofs.Expr.Faults

/-!
# Printed expressions

The text of an expression has parentheses around every operator, so it opens as many at a time as
the tree is high. It is read back to the expression as long as that many may be open; beyond that it
is rejected where one too many is opened (`parse_text_of_parse`).
-/

namespace CloudScope.Expr

/-- Whether a text is the name of an endpoint. -/
def IsName (name : String) : Prop :=
  name ≠ "" ∧ name.toList.all isNameChar = true

variable {e left : Expr} {s : List Char} {n limit opened : Nat} {op : Operator} {name : String}
  {names : List String} {ts : List Token}

theorem isName_of_mem_names (h : name ∈ Expr.names s) : IsName name :=
  ⟨String.toList_eq_nil_iff.not.mp (toList_ne_nil_of_mem_names h), all_isNameChar_of_mem_names h⟩

theorem IsName.isLegal (h : IsName name) {c : Char} (hc : c ∈ name.toList) :
    isLegal c = true := by
  simp [Expr.isLegal, List.all_eq_true.mp h.2 c hc]

theorem isLegal_symbol (op : Operator) : isLegal op.symbol = true := by
  cases op <;> decide

theorem symbol?_symbol (op : Operator) : symbol? op.symbol = some (.operator op) := by
  cases op <;> rfl

theorem isNameChar_symbol (op : Operator) : isNameChar op.symbol = false :=
  (symbol?_eq_some (symbol?_symbol op)).2.1

/-- A text is accepted if its characters are legal and its tokens are an expression, with few
endpoints. -/
theorem parse_ofList (hlegal : ∀ c ∈ s, isLegal c = true)
    (hderives : Derives .expression maxNesting (tokens s) e)
    (hcount : e.endpoints.length ≤ maxEndpoints) : parse (String.ofList s) = .ok e := by
  rw [parse_eq_ok_iff_derives, String.toList_ofList]
  refine ⟨hlegal, ?_, hderives⟩
  rw [← filterMap_name?_tokens]
  rwa [hderives.endpoints_eq] at hcount

theorem Derives.of_primary (h : Derives .primary n ts e) : Derives .expression n ts e := by
  have hderives : Derives .expression n (ts ++ [] ++ []) e :=
    .expression (.term h .noPrimary) .noTerm
  rwa [List.append_nil, List.append_nil] at hderives

/-! ## Chains without parentheses -/

/-- Names with an operator between each two. -/
def chainChars (op : Operator) (name : String) : List String → List Char
  | [] => name.toList
  | next :: names => name.toList ++ op.symbol :: chainChars op next names

/-- What a chain of names is read as behind an expression. -/
def joined (op : Operator) (left : Expr) (names : List String) : Expr :=
  names.foldl (fun left name => .combine op left (.endpoint name)) left

theorem endpoints_joined (op : Operator) (left : Expr) (names : List String) :
    (joined op left names).endpoints = left.endpoints ++ names := by
  induction names generalizing left with
  | nil => exact (List.append_nil _).symm
  | cons name names ih => exact (ih _).trans (List.append_assoc _ _ _)

theorem height_joined (op : Operator) (left : Expr) (names : List String) :
    (joined op left names).height = left.height + names.length := by
  induction names generalizing left with
  | nil => rfl
  | cons name names ih =>
    refine (ih _).trans ?_
    rw [height, height, Nat.max_zero, List.length_cons, Nat.add_right_comm, Nat.add_assoc]

theorem tokens_chainChars (hname : IsName name) (hnames : ∀ name ∈ names, IsName name) :
    tokens (chainChars op name names) =
      .name name :: names.flatMap fun name => [.operator op, .name name] := by
  induction names generalizing name with
  | nil => exact tokens_of_name hname.1 hname.2
  | cons next names ih =>
    obtain ⟨hnext, hnames⟩ := List.forall_mem_cons.mp hnames
    rw [chainChars, tokens_append_of_not (isNameChar_symbol op), tokens_of_name hname.1 hname.2,
      tokens_cons_of_symbol (symbol?_symbol op), ih hnext hnames]
    rfl

theorem isLegal_of_mem_chainChars (hname : IsName name) (hnames : ∀ name ∈ names, IsName name)
    {c : Char} (hc : c ∈ chainChars op name names) : isLegal c = true := by
  induction names generalizing name with
  | nil => exact hname.isLegal hc
  | cons next names ih =>
    obtain ⟨hnext, hnames⟩ := List.forall_mem_cons.mp hnames
    rcases List.mem_append.mp hc with hc | hc
    · exact hname.isLegal hc
    · rcases List.mem_cons.mp hc with rfl | hc
      · exact isLegal_symbol op
      · exact ih hnext hnames hc

theorem derives_terms_joined (n : Nat) (left : Expr) (names : List String) :
    Derives (.terms left) n (names.flatMap fun name => [.operator .or, .name name])
      (joined .or left names) := by
  induction names generalizing left with
  | nil => exact .noTerm
  | cons name names ih => exact .moreTerms (.term .name .noPrimary) (ih _)

theorem derives_primaries_joined (n : Nat) (left : Expr) (names : List String) :
    Derives (.primaries left) n (names.flatMap fun name => [.operator .and, .name name])
      (joined .and left names) := by
  induction names generalizing left with
  | nil => exact .noPrimary
  | cons name names ih => exact .morePrimaries .name (ih _)

theorem derives_joined (op : Operator) (n : Nat) (name : String) (names : List String) :
    Derives .expression n (.name name :: names.flatMap fun name => [.operator op, .name name])
      (joined op (.endpoint name) names) := by
  cases op with
  | or => exact .expression (.term .name .noPrimary) (derives_terms_joined n _ names)
  | and =>
    have hterm : Derives .term n _ _ :=
      .term .name (derives_primaries_joined n (.endpoint name) names)
    have hderives := Derives.expression hterm .noTerm
    rwa [List.append_nil] at hderives

/-- A chain of names is accepted, and gives a tree as high as there are operators. -/
theorem parse_chain (hname : IsName name) (hnames : ∀ name ∈ names, IsName name)
    (hcount : names.length < maxEndpoints) :
    parse (String.ofList (chainChars op name names)) = .ok (joined op (.endpoint name) names) := by
  refine parse_ofList (fun c hc => isLegal_of_mem_chainChars hname hnames hc) ?_ ?_
  · rw [tokens_chainChars hname hnames]
    exact derives_joined op maxNesting name names
  · rw [endpoints_joined, endpoints, List.length_append, List.length_singleton]
    omega

/-! ## The tokens of a printed expression -/

/-- The tokens of the text of an expression. -/
def printed : Expr → List Token
  | endpoint name => [.name name]
  | combine op left right =>
    .opening :: (left.printed ++ .operator op :: (right.printed ++ [.closing]))

theorem forall_mem_endpoints_combine {right : Expr} {p : String → Prop} :
    (∀ name ∈ (combine op left right).endpoints, p name) ↔
      (∀ name ∈ left.endpoints, p name) ∧ ∀ name ∈ right.endpoints, p name :=
  List.forall_mem_append

theorem tokens_chars (h : ∀ name ∈ e.endpoints, IsName name) : tokens e.chars = e.printed := by
  induction e with
  | endpoint name =>
    have hname := h name List.mem_cons_self
    exact tokens_of_name hname.1 hname.2
  | combine op left right ihl ihr =>
    obtain ⟨hleft, hright⟩ := forall_mem_endpoints_combine.mp h
    have hblank : ∀ rest, tokens (' ' :: rest) = tokens rest := fun _ => tokens_cons_of_blank rfl
    have hopening : symbol? '(' = some .opening := rfl
    have hclosing : symbol? ')' = some .closing := rfl
    rw [chars, List.append_assoc, List.cons_append, tokens_cons_of_symbol hopening,
      List.cons_append, List.cons_append, List.cons_append, tokens_append_of_not rfl, hblank,
      tokens_cons_of_symbol (symbol?_symbol op), hblank, tokens_append_of_not rfl,
      tokens_cons_of_symbol hclosing, ihl hleft, ihr hright]
    rfl

theorem isLegal_of_mem_chars (h : ∀ name ∈ e.endpoints, IsName name) {c : Char}
    (hc : c ∈ e.chars) : isLegal c = true := by
  induction e with
  | endpoint name => exact (h name List.mem_cons_self).isLegal hc
  | combine op left right ihl ihr =>
    obtain ⟨hleft, hright⟩ := forall_mem_endpoints_combine.mp h
    simp only [chars, List.cons_append, List.mem_cons, List.mem_append, List.not_mem_nil,
      or_false] at hc
    rcases hc with rfl | (hc | rfl | rfl | rfl | hc) | rfl
    · decide
    · exact ihl hleft hc
    · decide
    · exact isLegal_symbol op
    · decide
    · exact ihr hright hc
    · decide

/-- A printed expression is a primary that opens as many parentheses as the tree is high. -/
theorem derives_printed (h : e.height ≤ n) : Derives .primary n e.printed e := by
  induction e generalizing n with
  | endpoint name => exact .name
  | combine op left right ihl ihr =>
    obtain ⟨n, rfl⟩ : ∃ m, n = m + 1 := ⟨n - 1, by rw [height] at h; omega⟩
    have hheight := Nat.le_of_succ_le_succ h
    have hleft := ihl (Nat.le_trans (Nat.le_max_left _ _) hheight)
    have hright := ihr (Nat.le_trans (Nat.le_max_right _ _) hheight)
    have hinner : Derives .expression n (left.printed ++ .operator op :: right.printed)
        (.combine op left right) := by
      cases op with
      | or =>
        have hderives : Derives .expression n _ _ :=
          .expression (.term hleft .noPrimary) (.moreTerms (.term hright .noPrimary) .noTerm)
        simpa only [List.append_nil] using hderives
      | and =>
        have hderives : Derives .expression n _ _ :=
          .expression (.term hleft (.morePrimaries hright .noPrimary)) .noTerm
        simpa only [List.append_nil] using hderives
    have hgroup := Derives.group hinner
    rwa [List.cons_append, List.append_assoc, List.cons_append] at hgroup

theorem walk?_printed (h : opened + e.height ≤ limit) :
    walk? limit (.before opened) e.printed = some (.behind opened) :=
  (derives_printed (Nat.le_refl _)).walk? h

/-- A printed expression leads nowhere if the tree is too high. -/
theorem height_le_of_walk? {st : Stand} (h : walk? limit (.before opened) e.printed = some st)
    (hopened : opened ≤ limit) : opened + e.height ≤ limit := by
  induction e generalizing opened st with
  | endpoint name => exact hopened
  | combine op left right ihl ihr =>
    obtain ⟨mid, hstep, hrest⟩ := Option.bind_eq_some_iff.mp h
    rcases step?_cases hstep with ⟨hne, -⟩ | ⟨_, heq, -, hlt, rfl⟩ | ⟨_, -, heq, -⟩
    · exact absurd rfl hne
    · cases heq
      change Expr.walk? limit _ (left.printed ++ _) = _ at hrest
      rw [walk?_append] at hrest
      obtain ⟨_, hleft, hrest⟩ := Option.bind_eq_some_iff.mp hrest
      have hlow := ihl hleft hlt
      rw [walk?_printed hlow] at hleft
      cases hleft
      rw [walk?_cons_of_step rfl, walk?_append] at hrest
      obtain ⟨_, hright, -⟩ := Option.bind_eq_some_iff.mp hrest
      have hhigh := ihr hright hlt
      rw [height]
      omega
    · cases heq

/-! ## Where a printed expression is rejected -/

theorem count_name_eq_zero {c : Char} (hc : isNameChar c = false) (h : s.all isNameChar = true) :
    s.count c = 0 := by
  rw [List.count_eq_zero]
  intro hmem
  rw [List.all_eq_true.mp h c hmem] at hc
  cases hc

theorem symbol?_ne_name {c : Char} (text : String) : symbol? c ≠ some (.name text) := by
  intro h
  unfold symbol? at h
  split at h <;> cases h

/-- A character that is a token by itself stands in a text as often as the token. -/
theorem count_tokens {c : Char} {t : Token} (h : ∀ a, symbol? a = some t ↔ a = c) (s : List Char) :
    (tokens s).count t = s.count c := by
  have hsymbol : symbol? c = some t := (h c).mpr rfl
  have hc := (symbol?_eq_some hsymbol).2.1
  -- a name is taken off the front as a whole
  induction hlength : s.length using Nat.strong_induction_on generalizing s with
  | h k ih =>
    rcases s with _ | ⟨a, rest⟩
    · rfl
    · rw [List.length_cons] at hlength
      cases ha : isNameChar a with
      | true =>
        have hne : ∀ text, Token.name text ≠ t := fun text heq =>
          symbol?_ne_name text (hsymbol.trans (congrArg some heq.symm))
        have hshorter := (List.dropWhile_sublist (l := rest) isNameChar).length_le
        have hzero : (a :: rest.takeWhile isNameChar).count c = 0 :=
          count_name_eq_zero hc (by simp [ha])
        rw [tokens_cons_of_name ha, List.count_cons_of_ne (hne _), ih _ (by omega) _ rfl]
        conv_rhs => rw [← List.takeWhile_append_dropWhile (p := isNameChar) (l := rest)]
        rw [← List.cons_append, List.count_append, hzero, Nat.zero_add]
      | false =>
        have hrest := ih rest.length (by omega) rest rfl
        rw [tokens, words_cons_of_not ha]
        cases htoken : symbol? a with
        | some found =>
          rw [List.filterMap_cons_some (token?_of_symbol htoken), ← tokens, List.count_cons,
            List.count_cons, hrest]
          have hiff : found = t ↔ a = c := by rw [← h a, htoken, Option.some.injEq]
          simp only [beq_iff_eq, hiff]
        | none =>
          have hne : a ≠ c := fun heq => by
            rw [(h a).mpr heq] at htoken
            cases htoken
          have hnone : token? [a] = none := by simp [token?, ha, htoken]
          rw [List.filterMap_cons_none hnone, ← tokens, List.count_cons_of_ne hne, hrest]

theorem symbol?_eq_opening_iff (a : Char) : symbol? a = some .opening ↔ a = '(' := by
  constructor
  · intro h
    unfold symbol? at h
    split at h
    · cases h
    · cases h
    · rfl
    · cases h
    · cases h
  · rintro rfl
    rfl

theorem symbol?_eq_closing_iff (a : Char) : symbol? a = some .closing ↔ a = ')' := by
  constructor
  · intro h
    unfold symbol? at h
    split at h
    · cases h
    · cases h
    · cases h
    · rfl
    · cases h
  · rintro rfl
    rfl

/-- Where the tokens of a text lead, as many parentheses are open as the text opens without closing
them. -/
theorem count_of_walk? {st : Stand} (h : walk? limit (.before 0) (tokens s) = some st) :
    s.count '(' = s.count ')' + st.opened := by
  have hcount := opened_of_walk? h
  rw [count_tokens symbol?_eq_opening_iff, count_tokens symbol?_eq_closing_iff] at hcount
  simp only [Stand.opened] at hcount ⊢
  omega

theorem opened_lt_of_step?_opening {st st' : Stand} (h : st.step? limit .opening = some st') :
    st.opened < limit := by
  rcases step?_cases h with ⟨hne, -⟩ | ⟨_, rfl, -, hlt, -⟩ | ⟨_, -, heq, -⟩
  · exact absurd rfl hne
  · exact hlt
  · cases heq

theorem exists_cons_of_token?_opening {word : List Char} (h : token? word = some .opening) :
    ∃ more, word = '(' :: more := by
  rw [token?] at h
  split at h
  · cases h
  · rcases word with _ | ⟨c, more⟩
    · cases h
    · rw [List.head?_cons, Option.bind_some, symbol?_eq_opening_iff] at h
      exact ⟨more, by rw [h]⟩

/-- Behind `before`, a text opens the first parenthesis with 64 open ones before it. -/
structure OneTooMany (s before : List Char) : Prop where
  exists_append : ∃ after, s = before ++ '(' :: after
  count_eq : before.count '(' = before.count ')' + 64
  first : ∀ x y, before = x ++ '(' :: y → x.count '(' ≠ x.count ')' + 64

/-- Before a place where the tokens lead, no parenthesis is one too many. -/
theorem count_ne_of_walk? {st : Stand} {x y : List Char}
    (h : walk? maxNesting (.before 0) (tokens (x ++ '(' :: y)) = some st) :
    x.count '(' ≠ x.count ')' + maxNesting := by
  rw [tokens_append_of_not rfl, tokens_cons_of_symbol ((symbol?_eq_opening_iff _).mpr rfl),
    walk?_append] at h
  obtain ⟨mid, hx, hrest⟩ := Option.bind_eq_some_iff.mp h
  obtain ⟨_, hstep, -⟩ := Option.bind_eq_some_iff.mp hrest
  rw [count_of_walk? hx]
  have hlt := opened_lt_of_step?_opening hstep
  omega

/-- If only the limit keeps the tokens of a text from leading anywhere, its fault is at the first
parenthesis that is one too many. -/
theorem FaultAt.exists_oneTooMany {offset high : Nat} {st : Stand} (h : FaultAt s offset)
    (hreadable : Readable (words s)) (hnot : ¬ Viable (tokens s)) (hle : maxNesting ≤ high)
    (hhigh : walk? high (.before 0) (tokens s) = some st) :
    ∃ before, OneTooMany s before ∧ offset = Utf8.size before := by
  cases h with
  | unreadable hsplit _ hunreadable => exact absurd hunreadable (hreadable _ _ _ hsplit)
  | incomplete _ hviable _ => exact absurd hviable hnot
  | @token earlier later word found _ hsplit hfound hviable hnone =>
    obtain ⟨mid, hmid⟩ := viable_iff_walk?.mp hviable
    have htokens : tokens s = earlier.filterMap token? ++ found :: later.filterMap token? := by
      rw [tokens, hsplit, List.filterMap_append, List.filterMap_cons_some hfound]
    rw [htokens, walk?_append_of_walk (walk?_mono hmid hle)] at hhigh
    obtain ⟨_, hstep, -⟩ := Option.bind_eq_some_iff.mp hhigh
    have hblocked : mid.step? maxNesting found = none := by
      rw [← Option.not_isSome_iff_eq_none, Option.isSome_iff_exists]
      rintro ⟨st', hst'⟩
      exact hnone (viable_iff_walk?.mpr
        ⟨st', (walk?_append_of_walk hmid).trans (walk?_cons_of_step hst')⟩)
    obtain ⟨rfl, hge⟩ := eq_of_step?_eq_none hblocked hstep
    have hopened : mid.opened = maxNesting :=
      Nat.le_antisymm (opened_le_of_walk? hmid (Nat.zero_le _)) hge
    obtain ⟨more, rfl⟩ := exists_cons_of_token?_opening hfound
    have hbefore : walk? maxNesting (.before 0) (tokens earlier.flatten) = some mid := by
      rwa [tokens, words_flatten hsplit]
    refine ⟨earlier.flatten, ⟨⟨more ++ later.flatten, ?_⟩, ?_, fun x y hxy => ?_⟩, rfl⟩
    · rw [← List.flatten_splitBy inOneName s, ← words, hsplit, List.flatten_append,
        List.flatten_cons, List.cons_append]
    · exact (count_of_walk? hbefore).trans (congrArg (earlier.flatten.count ')' + ·) hopened)
    · exact count_ne_of_walk? (hxy ▸ hbefore)

/-! ## The text of an expression -/

section

variable (hnames : ∀ name ∈ e.endpoints, IsName name)

include hnames

theorem tokens_text : tokens e.text.toList = e.printed := by
  rw [text, String.toList_ofList, tokens_chars hnames]

theorem isLegal_of_mem_text : ∀ c ∈ e.text.toList, isLegal c = true := by
  rw [text, String.toList_ofList]
  exact fun c hc => isLegal_of_mem_chars hnames hc

/-- The tokens of a text begin an expression only if the tree is not too high. -/
theorem height_le_of_viable (h : Viable (tokens e.text.toList)) : e.height ≤ maxNesting := by
  obtain ⟨st, hst⟩ := viable_iff_walk?.mp h
  rw [tokens_text hnames] at hst
  have hle := height_le_of_walk? hst (Nat.zero_le _)
  rwa [Nat.zero_add] at hle

variable (hcount : e.endpoints.length ≤ maxEndpoints)

include hcount

theorem parse_text_iff : parse e.text = .ok e ↔ e.height ≤ maxNesting := by
  constructor
  · intro h
    refine height_le_of_viable hnames ⟨[], e, ?_⟩
    rw [List.append_nil]
    exact (parse_eq_ok_iff_derives.mp h).2.2
  · intro h
    refine parse_ofList (fun c hc => isLegal_of_mem_chars hnames hc) ?_ hcount
    rw [tokens_chars hnames]
    exact (derives_printed h).of_primary

/-- The text of an expression that is too high is rejected at a parenthesis. -/
theorem exists_oneTooMany_of_height_lt (h : maxNesting < e.height) :
    ∃ before fault, OneTooMany e.text.toList before ∧
      parse e.text = .error ⟨e.text, Utf8.size before, fault⟩ := by
  have hnot : ¬ Viable (tokens e.text.toList) := fun hviable =>
    Nat.not_le_of_lt h (height_le_of_viable hnames hviable)
  have hreadable : Readable (words e.text.toList) := by
    rw [(derives_printed (Nat.le_refl _)).endpoints_eq] at hcount
    refine readable_words_iff.mpr ⟨isLegal_of_mem_text hnames, ?_⟩
    rwa [← filterMap_name?_tokens, tokens_text hnames]
  have hhigh : walk? e.height (.before 0) (tokens e.text.toList) = some (.behind 0) := by
    rw [tokens_text hnames]
    exact walk?_printed (Nat.zero_add _).le
  rcases hparse : parse e.text with ⟨expression, offset, fault⟩ | e'
  · obtain ⟨rfl, hfault⟩ := faultAt_of_parse hparse
    obtain ⟨before, hbefore, rfl⟩ := hfault.exists_oneTooMany hreadable hnot h.le hhigh
    exact ⟨before, fault, hbefore, rfl⟩
  · refine absurd ⟨[], e', ?_⟩ hnot
    rw [List.append_nil]
    exact (parse_eq_ok_iff_derives.mp hparse).2.2

end

/-- The text of an expression that was accepted is accepted again, and gives the same expression, if
the tree is at most 64 high. That of a higher one is rejected at the first parenthesis with 64 open
ones before it. Chains of up to 256 names are accepted and give trees as high as they have
operators. -/
theorem parse_text_of_parse :
    (∀ s e, parse s = .ok e → (parse e.text = .ok e ↔ e.height ≤ 64) ∧
      (64 < e.height → ∃ before fault, OneTooMany e.text.toList before ∧
        parse e.text = .error ⟨e.text, Utf8.size before, fault⟩)) ∧
    ∀ op name names, IsName name → (∀ name ∈ names, IsName name) → names.length < 256 →
      ∃ e, parse (String.ofList (chainChars op name names)) = .ok e ∧ e.height = names.length := by
  refine ⟨fun s e h => ?_, fun op name names hname hnames hcount => ?_⟩
  · have hendpoints := endpoints_eq_names_of_parse h
    have hnames : ∀ name ∈ e.endpoints, IsName name := fun name hmem =>
      isName_of_mem_names (hendpoints ▸ hmem)
    have hcount : e.endpoints.length ≤ maxEndpoints := by
      rw [hendpoints]
      exact (parse_eq_ok_iff_derives.mp h).2.1
    exact ⟨parse_text_iff hnames hcount, exists_oneTooMany_of_height_lt hnames hcount⟩
  · refine ⟨_, parse_chain hname hnames hcount, ?_⟩
    rw [height_joined, height, Nat.zero_add]

/-- A chain of 66 endpoints is accepted, but its text is not. -/
theorem parse_text_of_parse_chain :
    ∃ e, parse (String.ofList (chainChars .or "a" (List.replicate 65 "b"))) = .ok e ∧
      parse e.text ≠ .ok e ∧ ∃ before fault, OneTooMany e.text.toList before ∧
        parse e.text = .error ⟨e.text, Utf8.size before, fault⟩ := by
  have hnames : ∀ name ∈ List.replicate 65 "b", IsName name := by
    intro name hname
    rw [List.eq_of_mem_replicate hname]
    exact ⟨by decide, by decide⟩
  obtain ⟨e, he, hheight⟩ := parse_text_of_parse.2 .or "a" (List.replicate 65 "b")
    ⟨by decide, by decide⟩ hnames (by decide)
  rw [List.length_replicate] at hheight
  obtain ⟨hagain, hrejected⟩ := parse_text_of_parse.1 _ e he
  exact ⟨e, he, fun htext => absurd (hagain.mp htext) (by omega), hrejected (by omega)⟩

end CloudScope.Expr
