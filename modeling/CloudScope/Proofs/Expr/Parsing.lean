import CloudScope.Expr.Parser
import CloudScope.Proofs.Expr.Grammar
import CloudScope.Proofs.Expr.Words

/-!
# Parsing of scope expressions

The reader of expressions takes off the front of the lexemes what the grammar derives, as far as it
goes, and never runs out of its budget. So a text is accepted if its tokens are an expression, and
gives the tree of that expression (`parse_eq_ok_iff`).
-/

namespace CloudScope.Expr

/-! ## What the readers give -/

/-- No operator of at least the given precedence is in front. -/
def Stops (floor : Nat) (s : List Lexeme) : Prop :=
  ∀ op offset later, s = ⟨.operator op, offset⟩ :: later → op.precedence < floor

variable {stop nesting budget floor : Nat} {s rest : List Lexeme} {left e : Expr}

theorem stops_or (floor : Nat) (s : List Lexeme) :
    Stops floor s ∨
      ∃ op offset later, s = ⟨.operator op, offset⟩ :: later ∧ floor ≤ op.precedence := by
  by_cases h : Stops floor s
  · exact .inl h
  · simp only [Stops, not_forall, not_lt] at h
    obtain ⟨op, offset, later, hs, hop⟩ := h
    exact .inr ⟨op, offset, later, hs, hop⟩

theorem stops_three (s : List Lexeme) : Stops 3 s := by
  intro op _ _ _
  cases op <;> decide

section

variable {operand : Nat → ExprReader}

theorem gives_operands_of_stops (h : Stops floor s) :
    Gives (operands operand floor left s) e rest ↔ left = e ∧ s = rest := by
  rw [operands.eq_def]
  split
  · next op offset later =>
    rw [if_pos (h op offset later rfl), Gives.ok_iff]
    rfl
  · rw [Gives.ok_iff]
    rfl

theorem gives_operands_cons {op : Operator} {offset : Nat} {later : List Lexeme}
    (h : floor ≤ op.precedence) :
    Gives (operands operand floor left (⟨.operator op, offset⟩ :: later)) e rest ↔
      ∃ right after, Gives (operand (op.precedence + 1) later) right after ∧
        Gives (operands operand floor (.combine op left right) after) e rest := by
  rw [operands]
  dsimp only
  rw [if_neg (Nat.not_lt.mpr h)]
  rcases operand (op.precedence + 1) later with stop | ⟨right, after⟩
  · rw [Gives.exists_error_iff, Gives.error_iff]
  · rw [Gives.exists_ok_iff]
    exact (Gives.map_iff (g := id) fun _ _ => ⟨rfl, rfl⟩).trans (by simp)

end

theorem gives_closing_iff {u : Unit} :
    Gives (closing stop s) u rest ↔ ∃ offset, s = ⟨.closing, offset⟩ :: rest := by
  rcases s with _ | ⟨⟨_ | _ | _ | _, offset⟩, later⟩
  case cons.closing => simp [closing, Gives.ok_iff, Rest.tail]
  all_goals simp [closing, Gives.error_iff]

theorem gives_group_iff {inner : ExprReader} {opened : Nat} {later : List Lexeme}
    (h : nesting ≠ maxNesting) :
    Gives (primary stop nesting inner (⟨.opening, opened⟩ :: later)) e rest ↔
      ∃ closed, Gives (inner later) e (⟨.closing, closed⟩ :: rest) := by
  rw [primary, if_neg h]
  rcases inner later with stop' | ⟨e', after⟩
  · simp only [Gives.error_iff, exists_false]
  · refine (Gives.map_iff (g := fun _ => e') fun _ _ => ⟨rfl, rfl⟩).trans ?_
    simp only [gives_closing_iff, Gives.ok_iff]
    constructor
    · rintro ⟨_, ⟨closed, hclosed⟩, rfl⟩
      exact ⟨closed, rfl, hclosed⟩
    · rintro ⟨closed, rfl, hclosed⟩
      exact ⟨(), ⟨closed, hclosed⟩, rfl⟩

theorem gives_primary_iff {inner : ExprReader} :
    Gives (primary stop nesting inner s) e rest ↔
      (∃ text offset, s = ⟨.name text, offset⟩ :: rest ∧ .endpoint text = e) ∨
      ∃ opened later closed, s = ⟨.opening, opened⟩ :: later ∧ nesting ≠ maxNesting ∧
        Gives (inner later) e (⟨.closing, closed⟩ :: rest) := by
  rcases s with _ | ⟨⟨text | op | _ | _, offset⟩, later⟩
  case cons.name => simp [primary, Gives.ok_iff, Rest.tail, and_comm]
  case cons.opening =>
    by_cases h : nesting = maxNesting
    · simp [primary, Gives.error_iff, h]
    · simp [gives_group_iff h, h]
  all_goals simp [primary, Gives.error_iff]

theorem gives_expression_iff :
    Gives (expression stop (budget + 1) nesting floor s) e rest ↔
      ∃ left mid, Gives (primary stop nesting (expression stop budget (nesting + 1) 0) s) left mid ∧
        Gives (operands (expression stop budget nesting) floor left mid) e rest := by
  rw [expression]
  rcases primary stop nesting (expression stop budget (nesting + 1) 0) s with stop' | ⟨left, mid⟩
  · rw [Gives.exists_error_iff, Gives.error_iff]
  · rw [Gives.exists_ok_iff]
    dsimp only
    rcases operands (expression stop budget nesting) floor left mid.val with stop' | ⟨e', last⟩
    · simp only [Gives.error_iff]
    · simp only [Gives.ok_iff, Rest.extend]

/-! ## What is read is derived -/

/-- The way of `operands` from a left side to what it gives, one operator at a time. -/
inductive Climbs (operand : Nat → ExprReader) (floor : Nat) (e : Expr) (rest : List Lexeme) :
    Expr → List Lexeme → Prop where
  | stop : Stops floor rest → Climbs operand floor e rest e rest
  | step {op offset later left right after} :
    floor ≤ op.precedence → Gives (operand (op.precedence + 1) later) right after →
    Climbs operand floor e rest (.combine op left right) after →
    Climbs operand floor e rest left (⟨.operator op, offset⟩ :: later)

theorem climbs_of_gives {operand : Nat → ExprReader}
    (h : Gives (operands operand floor left s) e rest) :
    Climbs operand floor e rest left s := by
  -- an operand takes at least one lexeme, so what is behind it is shorter
  induction hlength : s.length using Nat.strong_induction_on generalizing left s with
  | h k ih =>
    rcases stops_or floor s with hstops | ⟨op, offset, later, rfl, hop⟩
    · obtain ⟨rfl, rfl⟩ := (gives_operands_of_stops hstops).mp h
      exact .stop hstops
    · obtain ⟨right, after, hright, hlater⟩ := (gives_operands_cons hop).mp h
      obtain ⟨hshorter, _⟩ := id hright
      rw [List.length_cons] at hlength
      exact .step hop hright (ih after.length (by omega) hlater rfl)

theorem Climbs.stops {operand : Nat → ExprReader} (h : Climbs operand floor e rest left s) :
    Stops floor rest := by
  induction h with
  | stop hstops => exact hstops
  | step _ _ _ ih => exact ih

theorem stops_of_gives_expression (h : Gives (expression stop budget nesting floor s) e rest) :
    Stops floor rest := by
  cases budget with
  | zero => exact (Gives.not_error h).elim
  | succ budget =>
    obtain ⟨_, _, _, hoperands⟩ := gives_expression_iff.mp h
    exact (climbs_of_gives hoperands).stops

/-- What is taken off the front of `s` before `rest` is derived as a part. -/
def Taken (part : Part) (n : Nat) (e : Expr) (s rest : List Lexeme) : Prop :=
  ∃ ts, s.map (·.token) = ts ++ rest.map (·.token) ∧ Derives part n ts e

section

variable {operand : Nat → ExprReader} {n : Nat}

theorem Climbs.taken_primaries
    (hprimary : ∀ {s e rest}, Gives (operand 3 s) e rest → Taken .primary n e s rest)
    (h : Climbs operand 2 e rest left s) : Taken (.primaries left) n e s rest := by
  induction h with
  | stop => exact ⟨[], rfl, .noPrimary⟩
  | @step op offset later left right after hop hright _ ih =>
    cases op with
    | or => exact absurd hop (by decide)
    | and =>
      obtain ⟨ts, hts, hderives⟩ := hprimary hright
      obtain ⟨us, hus, hmore⟩ := ih
      refine ⟨.operator .and :: (ts ++ us), ?_, .morePrimaries hderives hmore⟩
      rw [List.map_cons, hts, hus, List.cons_append, List.append_assoc]

theorem Climbs.taken_terms
    (hterm : ∀ {s e rest}, Gives (operand 2 s) e rest → Taken .term n e s rest ∧ Stops 2 rest)
    (h : Climbs operand 0 e rest left s) (hs : Stops 2 s) : Taken (.terms left) n e s rest := by
  induction h with
  | stop => exact ⟨[], rfl, .noTerm⟩
  | @step op offset later left right after _ hright _ ih =>
    cases op with
    | and => exact absurd (hs _ _ _ rfl) (Nat.lt_irrefl _)
    | or =>
      obtain ⟨⟨ts, hts, hderives⟩, hstops⟩ := hterm hright
      obtain ⟨us, hus, hmore⟩ := ih hstops
      refine ⟨.operator .or :: (ts ++ us), ?_, .moreTerms hderives hmore⟩
      rw [List.map_cons, hts, hus, List.cons_append, List.append_assoc]

/-- On the lowest floor, first come the primaries of the term to the left, and then more terms. -/
theorem Climbs.taken_primaries_terms
    (hprimary : ∀ {s e rest}, Gives (operand 3 s) e rest → Taken .primary n e s rest)
    (hterm : ∀ {s e rest}, Gives (operand 2 s) e rest → Taken .term n e s rest ∧ Stops 2 rest)
    (h : Climbs operand 0 e rest left s) :
    ∃ middle mid, Taken (.primaries left) n middle s mid ∧ Taken (.terms middle) n e mid rest := by
  induction h with
  | stop => exact ⟨e, rest, ⟨[], rfl, .noPrimary⟩, ⟨[], rfl, .noTerm⟩⟩
  | @step op offset later left right after hop hright hlater ih =>
    cases op with
    | or =>
      refine ⟨left, _, ⟨[], rfl, .noPrimary⟩, taken_terms hterm (.step hop hright hlater) ?_⟩
      intro op offset later h
      cases h
      decide
    | and =>
      obtain ⟨ts, hts, hderives⟩ := hprimary hright
      obtain ⟨middle, mid, ⟨us, hus, hmore⟩, hterms⟩ := ih
      refine ⟨middle, mid, ⟨.operator .and :: (ts ++ us), ?_, .morePrimaries hderives hmore⟩,
        hterms⟩
      rw [List.map_cons, hts, hus, List.cons_append, List.append_assoc]

end

theorem taken_of_gives_primary {inner : ExprReader} {n : Nat} (hn : nesting + n = maxNesting)
    (hinner : ∀ {m s e rest}, nesting + 1 + m = maxNesting → Gives (inner s) e rest →
      Taken .expression m e s rest)
    (h : Gives (primary stop nesting inner s) e rest) : Taken .primary n e s rest := by
  rcases gives_primary_iff.mp h with ⟨text, offset, rfl, rfl⟩ | ⟨_, later, _, rfl, hdeep, hgroup⟩
  · exact ⟨[.name text], rfl, .name⟩
  · cases n with
    | zero => exact absurd hn hdeep
    | succ m =>
      obtain ⟨ts, hts, hderives⟩ := hinner (m := m) (by omega) hgroup
      refine ⟨.opening :: ts ++ [.closing], ?_, .group hderives⟩
      simp only [List.map_cons, hts, List.cons_append, List.append_assoc, List.nil_append]

/-- What the reader takes on each of its floors is derived, where `n` more parentheses may be
opened. -/
theorem taken_of_gives_expression :
    ∀ {budget nesting n : Nat}, nesting + n = maxNesting → ∀ {s rest : List Lexeme} {e : Expr},
      (Gives (expression stop budget nesting 3 s) e rest → Taken .primary n e s rest) ∧
      (Gives (expression stop budget nesting 2 s) e rest → Taken .term n e s rest) ∧
      (Gives (expression stop budget nesting 0 s) e rest → Taken .expression n e s rest) := by
  intro budget
  -- all three floors at once: an operand climbs to a higher floor, a group goes back to the lowest
  induction budget with
  | zero => exact fun _ => ⟨(Gives.not_error · |>.elim), (Gives.not_error · |>.elim),
      (Gives.not_error · |>.elim)⟩
  | succ budget ih =>
    intro nesting n hn s rest e
    have hprimary : ∀ {s e rest}, Gives (expression stop budget nesting 3 s) e rest →
        Taken .primary n e s rest := (ih hn).1
    have hterm : ∀ {s e rest}, Gives (expression stop budget nesting 2 s) e rest →
        Taken .term n e s rest ∧ Stops 2 rest :=
      fun h => ⟨(ih hn).2.1 h, stops_of_gives_expression h⟩
    refine ⟨fun h => ?_, fun h => ?_, fun h => ?_⟩
    all_goals
      obtain ⟨left, mid, hleft, hoperands⟩ := gives_expression_iff.mp h
      obtain ⟨ts, hts, hderives⟩ := taken_of_gives_primary hn (fun hm => (ih hm).2.2) hleft
    · obtain ⟨rfl, rfl⟩ := (gives_operands_of_stops (stops_three mid)).mp hoperands
      exact ⟨ts, hts, hderives⟩
    · obtain ⟨us, hus, hmore⟩ := (climbs_of_gives hoperands).taken_primaries hprimary
      exact ⟨ts ++ us, by rw [hts, hus, List.append_assoc], .term hderives hmore⟩
    · obtain ⟨_, _, ⟨us, hus, hmore⟩, vs, hvs, hterms⟩ :=
        (climbs_of_gives hoperands).taken_primaries_terms hprimary hterm
      refine ⟨ts ++ us ++ vs, ?_, .expression (.term hderives hmore) hterms⟩
      rw [hts, hus, hvs, List.append_assoc, List.append_assoc]

/-! ## What is derived is read -/

/-- The reader gives what is derived as a part, with what may come behind it. Terms and primaries
are read on whatever floor is going on, so they hand over to the operators behind them; only a whole
expression and its terms need to know that none follows. The budget is what each part uses up. -/
def Read (stop : Nat) : Part → Nat → List Token → Expr → Prop
  | .expression, n, ts, e => ∀ {nesting budget us rest}, nesting + n = maxNesting →
    3 * n + 2 ≤ budget → us.map Lexeme.token = ts → Stops 0 rest →
    Gives (expression stop (budget + 1) nesting 0 (us ++ rest)) e rest
  | .term, n, ts, e => ∀ {nesting budget us rest floor e' last}, nesting + n = maxNesting →
    3 * n + 1 ≤ budget → us.map Lexeme.token = ts → floor ≤ 2 →
    Gives (operands (expression stop budget nesting) floor e rest) e' last →
    Gives (expression stop (budget + 1) nesting floor (us ++ rest)) e' last
  | .primary, n, ts, e => ∀ {nesting budget us rest}, nesting + n = maxNesting →
    3 * n ≤ budget → us.map Lexeme.token = ts →
    Gives (primary stop nesting (expression stop budget (nesting + 1) 0) (us ++ rest)) e rest
  | .terms left, n, ts, e => ∀ {nesting budget us rest}, nesting + n = maxNesting →
    3 * n + 2 ≤ budget → us.map Lexeme.token = ts → Stops 0 rest →
    Gives (operands (expression stop budget nesting) 0 left (us ++ rest)) e rest
  | .primaries left, n, ts, e => ∀ {nesting budget us rest floor e' last},
    nesting + n = maxNesting → 3 * n + 1 ≤ budget → us.map Lexeme.token = ts → floor ≤ 2 →
    Gives (operands (expression stop budget nesting) floor e rest) e' last →
    Gives (operands (expression stop budget nesting) floor left (us ++ rest)) e' last

theorem Stops.mono {low high : Nat} (h : Stops low s) (hle : low ≤ high) : Stops high s :=
  fun op offset later hs => Nat.lt_of_lt_of_le (h op offset later hs) hle

/-- No `&` is in front of terms. -/
theorem Derives.stops_two {n : Nat} {ts : List Token} {us : List Lexeme}
    (h : Derives (.terms left) n ts e) (hus : us.map (·.token) = ts) (hrest : Stops 0 rest) :
    Stops 2 (us ++ rest) := by
  cases h with
  | noTerm =>
    rw [List.map_eq_nil_iff.mp hus]
    exact hrest.mono (by decide)
  | moreTerms =>
    obtain ⟨⟨_, offset⟩, us, rfl, rfl, _⟩ := List.map_eq_cons_iff.mp hus
    intro op offset' later hor
    cases hor
    decide

theorem Derives.read {part : Part} {n : Nat} {ts : List Token} (h : Derives part n ts e) :
    Read stop part n ts e := by
  induction h with
  | expression _ hterms iht ihu =>
    intro nesting budget us rest hn hbudget hus hrest
    obtain ⟨vs, ws, rfl, rfl, rfl⟩ := List.map_eq_append_iff.mp hus
    rw [List.append_assoc]
    exact iht hn (by omega) rfl (by decide) (ihu hn hbudget rfl hrest)
  | noTerm =>
    intro nesting budget us rest hn hbudget hus hrest
    rw [List.map_eq_nil_iff.mp hus]
    exact (gives_operands_of_stops hrest).mpr ⟨rfl, rfl⟩
  | moreTerms _ hterms iht ihu =>
    intro nesting budget us rest hn hbudget hus hrest
    obtain ⟨⟨_, offset⟩, us, rfl, rfl, htail⟩ := List.map_eq_cons_iff.mp hus
    obtain ⟨vs, ws, rfl, rfl, rfl⟩ := List.map_eq_append_iff.mp htail
    obtain ⟨budget, rfl⟩ : ∃ b, budget = b + 1 := ⟨budget - 1, by omega⟩
    rw [List.cons_append, List.append_assoc]
    refine (gives_operands_cons (Nat.zero_le _)).mpr ⟨_, ws ++ rest, ?_, ihu hn hbudget rfl hrest⟩
    refine iht hn (by omega) rfl (by decide) ?_
    exact (gives_operands_of_stops (hterms.stops_two rfl hrest)).mpr ⟨rfl, rfl⟩
  | term _ _ iht ihu =>
    intro nesting budget us rest floor e' last hn hbudget hus hfloor hlast
    obtain ⟨vs, ws, rfl, rfl, rfl⟩ := List.map_eq_append_iff.mp hus
    rw [List.append_assoc]
    exact gives_expression_iff.mpr
      ⟨_, _, iht hn (by omega) rfl, ihu hn hbudget rfl hfloor hlast⟩
  | noPrimary =>
    intro nesting budget us rest floor e' last hn hbudget hus hfloor hlast
    rw [List.map_eq_nil_iff.mp hus]
    exact hlast
  | morePrimaries _ _ iht ihu =>
    intro nesting budget us rest floor e' last hn hbudget hus hfloor hlast
    obtain ⟨⟨_, offset⟩, us, rfl, rfl, htail⟩ := List.map_eq_cons_iff.mp hus
    obtain ⟨vs, ws, rfl, rfl, rfl⟩ := List.map_eq_append_iff.mp htail
    obtain ⟨budget, rfl⟩ : ∃ b, budget = b + 1 := ⟨budget - 1, by omega⟩
    rw [List.cons_append, List.append_assoc]
    refine (gives_operands_cons hfloor).mpr
      ⟨_, ws ++ rest, ?_, ihu hn hbudget rfl hfloor hlast⟩
    exact gives_expression_iff.mpr ⟨_, _, iht hn (by omega) rfl,
      (gives_operands_of_stops (stops_three _)).mpr ⟨rfl, rfl⟩⟩
  | name =>
    intro nesting budget us rest hn hbudget hus
    obtain ⟨⟨_, offset⟩, us, rfl, rfl, htail⟩ := List.map_eq_cons_iff.mp hus
    rw [List.map_eq_nil_iff.mp htail]
    exact gives_primary_iff.mpr (.inl ⟨_, offset, rfl, rfl⟩)
  | group _ ih =>
    intro nesting budget us rest hn hbudget hus
    rw [List.cons_append] at hus
    obtain ⟨⟨_, opened⟩, us, rfl, rfl, htail⟩ := List.map_eq_cons_iff.mp hus
    obtain ⟨vs, ws, rfl, rfl, hws⟩ := List.map_eq_append_iff.mp htail
    obtain ⟨⟨_, closed⟩, ws, rfl, rfl, hlast⟩ := List.map_eq_cons_iff.mp hws
    rw [List.map_eq_nil_iff.mp hlast]
    obtain ⟨budget, rfl⟩ : ∃ b, budget = b + 1 := ⟨budget - 1, by omega⟩
    rw [List.cons_append, List.append_assoc]
    refine (gives_group_iff (by omega)).mpr ⟨closed, ih (by omega) (by omega) rfl ?_⟩
    intro op offset later h
    cases h

theorem ofLexemes_eq_ok_iff :
    ofLexemes stop s = .ok e ↔ Derives .expression maxNesting (s.map (·.token)) e := by
  have hgives : ofLexemes stop s = .ok e ↔ Gives (expression stop maxCalls 0 0 s) e [] := by
    rw [ofLexemes]
    rcases expression stop maxCalls 0 0 s with stop' | ⟨e', _ | ⟨_, _⟩, _⟩
    · simp [Gives.error_iff]
    · simp [Gives.ok_iff]
    · simp [Gives.ok_iff]
  rw [hgives]
  constructor
  · intro h
    obtain ⟨ts, hts, hderives⟩ := (taken_of_gives_expression (Nat.zero_add _)).2.2 h
    rwa [hts, List.map_nil, List.append_nil]
  · intro h
    -- 195 calls are three for each of 65 levels, which is exactly what an expression needs
    have hread : Gives (expression stop (194 + 1) 0 0 (s ++ [])) e [] :=
      h.read (Nat.zero_add _) (by decide) rfl fun _ _ _ h => by cases h
    rwa [List.append_nil] at hread

theorem parse_eq_ok_iff_derives {s : String} :
    parse s = .ok e ↔ (∀ c ∈ s.toList, isLegal c = true) ∧
      (names s.toList).length ≤ maxEndpoints ∧
      Derives .expression maxNesting (tokens s.toList) e := by
  have hlex : parse s = .ok e ↔ ∃ lexemes, lex s.toList = .ok lexemes ∧
      ofLexemes (Utf8.size s.toList) lexemes = .ok e := by
    simp only [parse]
    rcases lex s.toList with m | lexemes
    · simp
    · rcases h : ofLexemes (Utf8.size s.toList) lexemes with ⟨m | _⟩ | e' <;> simp [h]
  rw [hlex]
  constructor
  · rintro ⟨lexemes, hread, he⟩
    obtain ⟨hlegal, hcount, htokens⟩ := lex_eq_ok_iff.mp ⟨lexemes, hread, rfl⟩
    exact ⟨hlegal, hcount, htokens ▸ ofLexemes_eq_ok_iff.mp he⟩
  · rintro ⟨hlegal, hcount, hderives⟩
    obtain ⟨lexemes, hread, htokens⟩ := lex_eq_ok_iff.mpr ⟨hlegal, hcount, rfl⟩
    exact ⟨lexemes, hread, ofLexemes_eq_ok_iff.mpr (htokens ▸ hderives)⟩

theorem endpoints_eq_names_of_parse {s : String} (h : parse s = .ok e) :
    e.endpoints = names s.toList := by
  obtain ⟨_, _, hderives⟩ := parse_eq_ok_iff_derives.mp h
  exact hderives.endpoints_eq.trans (filterMap_name?_tokens s.toList)

theorem operators_eq_of_parse {s : String} (h : parse s = .ok e) :
    e.operators = (tokens s.toList).filterMap Token.operator? := by
  obtain ⟨_, _, hderives⟩ := parse_eq_ok_iff_derives.mp h
  exact hderives.operators_eq

/-- A text that is a name is accepted, and names one endpoint. -/
theorem parse_of_name {s : String} (hne : s ≠ "") (hname : s.toList.all isNameChar = true) :
    parse s = .ok (.endpoint s) := by
  have htokens : tokens s.toList = [.name s] := tokens_of_name hne hname
  have hnames : names s.toList = [s] := by
    rw [← filterMap_name?_tokens, htokens]
    rfl
  refine parse_eq_ok_iff_derives.mpr ⟨fun a ha => ?_, ?_, ?_⟩
  · simp [isLegal, List.all_eq_true.mp hname a ha]
  · simp [hnames, maxEndpoints]
  · rw [htokens]
    exact .expression (.term .name .noPrimary) .noTerm

/-- What is accepted is a text of legal characters with at most 256 names, whose tokens are an
expression with at most 64 parentheses open at a time. It gives the one tree of that expression,
whose endpoints are the names. -/
theorem parse_eq_ok_iff (s : String) (e : Expr) :
    (parse s = .ok e ↔ (∀ c ∈ s.toList, isLegal c = true) ∧ (names s.toList).length ≤ 256 ∧
      Derives .expression 64 (tokens s.toList) e) ∧
    (parse s = .ok e → e.endpoints = names s.toList ∧
      ∀ e', Derives .expression 64 (tokens s.toList) e' → e' = e) := by
  refine ⟨parse_eq_ok_iff_derives, fun h => ?_⟩
  obtain ⟨hlegal, hcount, hderives⟩ := parse_eq_ok_iff_derives.mp h
  refine ⟨?_, fun e' he' => ?_⟩
  · rw [hderives.endpoints_eq, filterMap_name?_tokens]
    rfl
  · have h' : parse s = .ok e' := parse_eq_ok_iff_derives.mpr ⟨hlegal, hcount, he'⟩
    exact Except.ok.inj (h'.symm.trans h)

example : parse "a|b & (c|d)|a" = .ok (.combine .or (.combine .or (.endpoint "a")
    (.combine .and (.endpoint "b") (.combine .or (.endpoint "c") (.endpoint "d"))))
    (.endpoint "a")) := by cbv

end CloudScope.Expr
