import CloudScope.Proofs.Expr.Parsing

/-!
# Walks through scope expressions

Read from left to right, tokens lead from one stand to the next: what matters about those before is
only whether an operand or an operator has to come, and how many parentheses are open. Tokens are an
expression if they lead back to the outside (`derives_iff_walk?`), and can be continued to one if
they lead anywhere (`viable_iff_walk?`). The reader of expressions complains about the first token
that leads nowhere (`exists_misread_of_ofLexemes`).
-/

namespace CloudScope.Expr

/-- Where one stands between two tokens, with the number of open parentheses. -/
inductive Stand where
  /-- Before an operand. -/
  | before (opened : Nat)
  /-- Behind an operand. -/
  | behind (opened : Nat)
deriving DecidableEq

/-- The number of open parentheses. -/
def Stand.opened : Stand → Nat
  | before opened | behind opened => opened

/-- Where a token leads, if at most `limit` parentheses may be open at a time. -/
def Stand.step? (limit : Nat) : Stand → Token → Option Stand
  | before opened, .name _ => some (behind opened)
  | before opened, .opening => if opened < limit then some (before (opened + 1)) else none
  | behind opened, .operator _ => some (before opened)
  | behind (opened + 1), .closing => some (behind opened)
  | _, _ => none

/-- Where tokens lead. -/
def walk? (limit : Nat) (st : Stand) (ts : List Token) : Option Stand :=
  ts.foldlM (Stand.step? limit) st

variable {limit opened n : Nat} {st st' : Stand} {t : Token} {ts us : List Token} {e left : Expr}

@[simp] theorem walk?_nil : walk? limit st [] = some st := rfl

theorem walk?_cons : walk? limit st (t :: ts) = (st.step? limit t).bind (walk? limit · ts) := rfl

theorem walk?_cons_of_step (h : st.step? limit t = some st') :
    walk? limit st (t :: ts) = walk? limit st' ts := by
  rw [walk?_cons, h, Option.bind_some]

theorem walk?_append :
    walk? limit st (ts ++ us) = (walk? limit st ts).bind (walk? limit · us) :=
  List.foldlM_append

theorem walk?_append_of_walk (h : walk? limit st ts = some st') :
    walk? limit st (ts ++ us) = walk? limit st' us := by
  rw [walk?_append, h, Option.bind_some]

theorem step?_opening (h : opened < limit) :
    (Stand.before opened).step? limit .opening = some (.before (opened + 1)) :=
  if_pos h

/-! ## Limits -/

/-- A token leads on by itself, unless it is a parenthesis: that closes an open one, or opens one
while there are fewer than the limit. -/
theorem step?_cases (h : st.step? limit t = some st') :
    t ≠ .opening ∧ t ≠ .closing ∧ st'.opened = st.opened ∧ (∀ high, st.step? high t = some st') ∨
    (∃ opened, st = .before opened ∧ t = .opening ∧ opened < limit ∧ st' = .before (opened + 1)) ∨
    ∃ opened, st = .behind (opened + 1) ∧ t = .closing ∧ st' = .behind opened := by
  cases st with
  | before opened =>
    cases t with
    | name =>
      cases h
      exact .inl ⟨nofun, nofun, rfl, fun _ => rfl⟩
    | opening =>
      rw [Stand.step?] at h
      split at h
      · next hlt =>
        cases h
        exact .inr (.inl ⟨opened, rfl, rfl, hlt, rfl⟩)
      · cases h
    | operator | closing => cases h
  | behind opened =>
    cases t with
    | operator =>
      cases h
      exact .inl ⟨nofun, nofun, rfl, fun _ => rfl⟩
    | closing =>
      cases opened with
      | zero => cases h
      | succ opened =>
        cases h
        exact .inr (.inr ⟨opened, rfl, rfl, rfl⟩)
    | name | opening => cases h

theorem step?_mono {high : Nat} (h : st.step? limit t = some st') (hle : limit ≤ high) :
    st.step? high t = some st' := by
  rcases step?_cases h with ⟨-, -, -, hany⟩ | ⟨_, rfl, rfl, hlt, rfl⟩ | ⟨_, rfl, rfl, rfl⟩
  · exact hany high
  · exact step?_opening (Nat.lt_of_lt_of_le hlt hle)
  · rfl

/-- What leads on only under a higher limit is an opening parenthesis where the lower limit is
reached. -/
theorem eq_of_step?_eq_none {high : Nat} (hlow : st.step? limit t = none)
    (hhigh : st.step? high t = some st') : t = .opening ∧ limit ≤ st.opened := by
  rcases step?_cases hhigh with ⟨-, -, -, hany⟩ | ⟨opened, rfl, rfl, -, -⟩ | ⟨_, rfl, rfl, rfl⟩
  · rw [hany] at hlow
    cases hlow
  · refine ⟨rfl, Nat.le_of_not_lt fun hlt => ?_⟩
    cases hlow.symm.trans (step?_opening hlt)
  · cases hlow

theorem walk?_mono {high : Nat} (h : walk? limit st ts = some st') (hle : limit ≤ high) :
    walk? high st ts = some st' := by
  induction ts generalizing st with
  | nil => exact h
  | cons t ts ih =>
    obtain ⟨mid, hstep, hrest⟩ := Option.bind_eq_some_iff.mp h
    exact (walk?_cons_of_step (step?_mono hstep hle)).trans (ih hrest)

theorem opened_le_of_walk? (h : walk? limit st ts = some st') (hst : st.opened ≤ limit) :
    st'.opened ≤ limit := by
  induction ts generalizing st with
  | nil =>
    cases h
    exact hst
  | cons t ts ih =>
    obtain ⟨mid, hstep, hrest⟩ := Option.bind_eq_some_iff.mp h
    refine ih hrest ?_
    rcases step?_cases hstep with ⟨-, -, heq, -⟩ | ⟨_, rfl, -, hlt, rfl⟩ | ⟨_, rfl, -, rfl⟩
    · rwa [heq]
    · exact hlt
    · exact Nat.le_of_succ_le hst

/-- On the way each parenthesis is opened or closed. -/
theorem opened_of_walk? (h : walk? limit st ts = some st') :
    st.opened + ts.count .opening = st'.opened + ts.count .closing := by
  have hne : Token.opening ≠ .closing := nofun
  induction ts generalizing st with
  | nil =>
    cases h
    rfl
  | cons t ts ih =>
    obtain ⟨mid, hstep, hrest⟩ := Option.bind_eq_some_iff.mp h
    have hcount := ih hrest
    rcases step?_cases hstep with
      ⟨hopening, hclosing, heq, -⟩ | ⟨_, rfl, rfl, -, rfl⟩ | ⟨_, rfl, rfl, rfl⟩
    · rwa [List.count_cons_of_ne hopening, List.count_cons_of_ne hclosing, ← heq]
    · rw [List.count_cons_self, List.count_cons_of_ne hne]
      simp only [Stand.opened] at hcount ⊢
      omega
    · rw [List.count_cons_self, List.count_cons_of_ne hne.symm]
      simp only [Stand.opened] at hcount ⊢
      omega

/-! ## Derived tokens -/

/-- Where a part begins. -/
def Part.start (opened : Nat) : Part → Stand
  | .expression | .term | .primary => .before opened
  | .terms _ | .primaries _ => .behind opened

/-- A part leads behind an operand, and leaves as many parentheses open as there were. -/
theorem Derives.walk? {part : Part} (h : Derives part n ts e) (hlimit : opened + n ≤ limit) :
    Expr.walk? limit (part.start opened) ts = some (.behind opened) := by
  induction h generalizing opened with
  | expression _ _ iht ihu | term _ _ iht ihu =>
    exact (walk?_append_of_walk (iht hlimit)).trans (ihu hlimit)
  | moreTerms _ _ iht ihu | morePrimaries _ _ iht ihu =>
    refine (walk?_cons_of_step rfl).trans ?_
    exact (walk?_append_of_walk (iht hlimit)).trans (ihu hlimit)
  | noTerm | noPrimary => rfl
  | name => rfl
  | group _ ih =>
    rw [List.cons_append]
    refine (walk?_cons_of_step (step?_opening (by omega))).trans ?_
    exact (walk?_append_of_walk (ih (by omega))).trans rfl

/-! ## Where the reader stops -/

/-- From a stand, lexemes do not lead back to the outside. The offset is that of the first one that
leads nowhere; if all lead somewhere, it is that of the end. -/
inductive Blocked (stop : Nat) : Stand → List Lexeme → Nat → Prop
  | ended {st : Stand} : st ≠ .behind 0 → Blocked stop st [] stop
  | here {st : Stand} {lexeme later} :
    st.step? maxNesting lexeme.token = none → Blocked stop st (lexeme :: later) lexeme.offset
  | later {st st' : Stand} {lexeme later offset} :
    st.step? maxNesting lexeme.token = some st' → Blocked stop st' later offset →
    Blocked stop st (lexeme :: later) offset

variable {stop nesting budget floor : Nat}

/-- A reader goes from before an operand to behind it, and faults where lexemes lead nowhere. -/
structure Tracks (stop nesting : Nat) (read : ExprReader) : Prop where
  /-- What is behind the operand is blocked from the front, too. -/
  gives {s rest : List Lexeme} {e : Expr} {offset : Nat} : Gives (read s) e rest →
    Blocked stop (.behind nesting) rest offset → Blocked stop (.before nesting) s offset
  fails {s : List Lexeme} {fault : Stop} : read s = .error fault →
    ∃ m, fault = .misread m ∧ Blocked stop (.before nesting) s m.offset

theorem fails_closing (nesting : Nat) {s : List Lexeme} {fault : Stop}
    (h : closing stop s = .error fault)
    (hnext : ∀ op offset later, s ≠ ⟨.operator op, offset⟩ :: later) :
    ∃ m, fault = .misread m ∧ Blocked stop (.behind (nesting + 1)) s m.offset := by
  rcases s with _ | ⟨⟨_ | op | _ | _, offset⟩, later⟩
  case cons.operator => exact absurd rfl (hnext op offset later)
  case cons.closing => cases h
  case nil =>
    cases h
    exact ⟨_, rfl, .ended nofun⟩
  all_goals
    cases h
    exact ⟨_, rfl, .here rfl⟩

theorem tracks_primary {inner : ExprReader} (hnesting : nesting ≤ maxNesting)
    (hinner : nesting < maxNesting → Tracks stop (nesting + 1) inner)
    (hstops : ∀ {s e rest}, Gives (inner s) e rest → Stops 0 rest) :
    Tracks stop nesting (primary stop nesting inner) where
  gives h hrest := by
    rcases gives_primary_iff.mp h with ⟨text, offset, rfl, rfl⟩ | ⟨_, later, closed, rfl, hne, h⟩
    · exact .later rfl hrest
    · have hdeeper : nesting < maxNesting := Nat.lt_of_le_of_ne hnesting hne
      exact .later (step?_opening hdeeper) ((hinner hdeeper).gives h (.later rfl hrest))
  fails {s fault} h := by
    rcases s with _ | ⟨⟨text | op | _ | _, offset⟩, later⟩
    case nil =>
      cases h
      exact ⟨_, rfl, .ended nofun⟩
    case cons.name => cases h
    case cons.opening =>
      rw [primary] at h
      split at h
      · next hdeep =>
        cases h
        exact ⟨_, rfl, .here (if_neg (by omega))⟩
      · next hne =>
        have hdeeper : nesting < maxNesting := Nat.lt_of_le_of_ne hnesting hne
        rcases hread : inner later with fault' | ⟨e, after⟩
        · rw [hread] at h
          cases h
          obtain ⟨m, rfl, hm⟩ := (hinner hdeeper).fails hread
          exact ⟨m, rfl, .later (step?_opening hdeeper) hm⟩
        · rw [hread] at h
          obtain ⟨m, rfl, hm⟩ := fails_closing nesting (eq_error_of_map_eq_error h)
            fun op offset later hs => absurd (hstops (.of_eq hread) op offset later hs) (by simp)
          exact ⟨m, rfl, .later (step?_opening hdeeper)
            ((hinner hdeeper).gives (.of_eq hread) hm)⟩
    all_goals
      cases h
      exact ⟨_, rfl, .here rfl⟩

section

variable {operand : Nat → ExprReader}

theorem Climbs.blocked {s rest : List Lexeme} {offset : Nat}
    (hoperand : ∀ op : Operator, floor ≤ op.precedence →
      Tracks stop nesting (operand (op.precedence + 1)))
    (h : Climbs operand floor e rest left s) (hrest : Blocked stop (.behind nesting) rest offset) :
    Blocked stop (.behind nesting) s offset := by
  induction h with
  | stop => exact hrest
  | @step op _ _ _ _ _ hop hright _ ih => exact .later rfl ((hoperand op hop).gives hright ih)

theorem fails_operands
    (hoperand : ∀ op : Operator, floor ≤ op.precedence →
      Tracks stop nesting (operand (op.precedence + 1)))
    {s : List Lexeme} {fault : Stop} (h : operands operand floor left s = .error fault) :
    ∃ m, fault = .misread m ∧ Blocked stop (.behind nesting) s m.offset := by
  -- an operand takes at least one lexeme, so what is behind it is shorter
  induction hlength : s.length using Nat.strong_induction_on generalizing left s with
  | h k ih =>
    rcases s with _ | ⟨⟨_ | op | _ | _, offset⟩, later⟩
    case cons.operator =>
      rw [operands] at h
      dsimp only at h
      split at h
      · cases h
      · next hop =>
        have hright := hoperand op (Nat.le_of_not_lt hop)
        rcases hread : operand (op.precedence + 1) later with fault' | ⟨right, after⟩
        · rw [hread] at h
          cases h
          obtain ⟨m, rfl, hm⟩ := hright.fails hread
          exact ⟨m, rfl, .later rfl hm⟩
        · rw [hread] at h
          have hshorter := after.property
          rw [List.length_cons] at hlength
          obtain ⟨m, rfl, hm⟩ := ih _ (by omega) (eq_error_of_map_eq_error h) rfl
          exact ⟨m, rfl, .later rfl (hright.gives (.of_eq hread) hm)⟩
    all_goals
      rw [operands.eq_def] at h
      cases h

end

/-- The reader follows the tokens on each of its floors, and the budget is enough for as many
parentheses as may be opened. -/
theorem tracks_expression (hn : nesting + n = maxNesting)
    (hbudget : 3 * n + 3 ≤ budget + (floor - 1)) (hfloor : floor ≤ 3) :
    Tracks stop nesting (expression stop budget nesting floor) := by
  induction budget generalizing nesting n floor with
  | zero => omega
  | succ budget ih =>
    have hprimary : Tracks stop nesting
        (primary stop nesting (expression stop budget (nesting + 1) 0)) := tracks_primary (by omega)
        (fun hlt => ih (n := n - 1) (by omega) (by omega) (by omega)) stops_of_gives_expression
    have hoperand : ∀ op : Operator, floor ≤ op.precedence →
        Tracks stop nesting (expression stop budget nesting (op.precedence + 1)) := by
      intro op hop
      have hlow : 1 ≤ op.precedence ∧ op.precedence ≤ 2 := by cases op <;> decide
      exact ih hn (by omega) (by omega)
    constructor
    · intro s rest e offset h hrest
      obtain ⟨left, mid, hleft, hoperands⟩ := gives_expression_iff.mp h
      exact hprimary.gives hleft ((climbs_of_gives hoperands).blocked hoperand hrest)
    · intro s fault h
      rw [expression] at h
      rcases hread : primary stop nesting (expression stop budget (nesting + 1) 0) s
        with fault' | ⟨left, mid⟩
      · rw [hread] at h
        cases h
        exact hprimary.fails hread
      · rw [hread] at h
        dsimp only at h
        split at h
        · next hlater =>
          cases h
          obtain ⟨m, rfl, hm⟩ := fails_operands hoperand hlater
          exact ⟨m, rfl, hprimary.gives (.of_eq hread) hm⟩
        · cases h

/-- Lexemes that are not an expression are misread where they lead nowhere. -/
theorem exists_misread_of_ofLexemes {s : List Lexeme} {fault : Stop}
    (h : ofLexemes stop s = .error fault) :
    ∃ m, fault = .misread m ∧ Blocked stop (.before 0) s m.offset := by
  have htracks : Tracks stop 0 (expression stop maxCalls 0 0) :=
    tracks_expression (Nat.zero_add _) (by decide) (by decide)
  rw [ofLexemes] at h
  split at h
  · next hread =>
    cases h
    exact htracks.fails hread
  · cases h
  · next hread =>
    rename_i e found offset later hlt
    cases h
    refine ⟨_, rfl, htracks.gives (.of_eq hread) ?_⟩
    -- no operator is left, and nothing else leads on
    have hstops := stops_of_gives_expression (.of_eq hread)
    have hnone : (Stand.behind 0).step? maxNesting found = none := by
      cases found with
      | operator op => exact absurd (hstops op offset later rfl) (by simp)
      | name | opening | closing => rfl
    exact .here hnone

/-! ## Expressions and their beginnings -/

theorem Blocked.walk?_ne {s : List Lexeme} {offset : Nat} (h : Blocked stop st s offset) :
    walk? maxNesting st (s.map (·.token)) ≠ some (.behind 0) := by
  induction h with
  | ended hne => exact fun heq => hne (Option.some.inj heq)
  | here hnone =>
    rw [List.map_cons, walk?_cons, hnone]
    exact nofun
  | later hstep _ ih =>
    rwa [List.map_cons, walk?_cons_of_step hstep]

/-- Tokens are an expression if they lead from the outside back to it. -/
theorem derives_iff_walk? : (∃ e, Derives .expression maxNesting ts e) ↔
    walk? maxNesting (.before 0) ts = some (.behind 0) := by
  constructor
  · rintro ⟨e, h⟩
    exact h.walk? (Nat.zero_add _).le
  · intro h
    have hmap : (ts.map (Lexeme.mk · 0)).map (·.token) = ts := by
      rw [List.map_map]
      exact List.map_id ts
    rcases hread : ofLexemes 0 (ts.map (Lexeme.mk · 0)) with fault | e
    · obtain ⟨m, -, hm⟩ := exists_misread_of_ofLexemes hread
      rw [← hmap] at h
      exact absurd h hm.walk?_ne
    · exact ⟨e, hmap ▸ ofLexemes_eq_ok_iff.mp hread⟩

/-- Whether some expression with at most 64 parentheses open at a time begins with the tokens. -/
def Viable (ts : List Token) : Prop :=
  ∃ us e, Derives .expression 64 (ts ++ us) e

/-- As many closing parentheses as are open lead back to the outside. -/
theorem walk?_closings (opened : Nat) :
    walk? limit (.behind opened) (List.replicate opened .closing) = some (.behind 0) := by
  induction opened with
  | zero => rfl
  | succ opened ih => exact (walk?_cons_of_step rfl).trans ih

/-- From anywhere, some tokens lead back to the outside. -/
theorem exists_walk?_eq (limit : Nat) (st : Stand) :
    ∃ us, walk? limit st us = some (.behind 0) := by
  cases st with
  | before opened =>
    exact ⟨.name "" :: List.replicate opened .closing,
      (walk?_cons_of_step rfl).trans (walk?_closings opened)⟩
  | behind opened => exact ⟨_, walk?_closings opened⟩

/-- Tokens are the beginning of an expression if they lead anywhere. -/
theorem viable_iff_walk? : Viable ts ↔ ∃ st, walk? maxNesting (.before 0) ts = some st := by
  constructor
  · rintro ⟨us, hderives⟩
    have hwalk := derives_iff_walk?.mp hderives
    rw [walk?_append] at hwalk
    obtain ⟨st, hst, -⟩ := Option.bind_eq_some_iff.mp hwalk
    exact ⟨st, hst⟩
  · rintro ⟨st, hst⟩
    obtain ⟨us, hus⟩ := exists_walk?_eq maxNesting st
    exact ⟨us, derives_iff_walk?.mpr ((walk?_append_of_walk hst).trans hus)⟩

end CloudScope.Expr
