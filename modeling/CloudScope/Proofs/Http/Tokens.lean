import CloudScope.Proofs.Http.Channels
import CloudScope.Proofs.Http.Distinct

/-!
# Tokens with scopes behind them

A scope is put behind a token as it is, and so is the token in front of it; both are read with their
escapes resolved, without the blanks in front, and up to the first delimiter. So not every token
comes back (`Headers.keepsToken_writeScope_iff`).
-/

namespace CloudScope

/-! ## Parting tokens from scopes -/

section

variable {t rest : List Char}

theorem splitToken_delimiter_append (rest : List Char) :
    splitToken (delimiter ++ rest) = ([], some rest) := by
  rfl

theorem fst_splitToken_prefix_self (s : List Char) : (splitToken s).1 <+: s := by
  fun_induction splitToken s with
  | case1 => exact List.prefix_rfl
  | case2 => exact List.nil_prefix
  | case3 c rest _ ih => exact (List.prefix_cons_inj c).mpr ih

/-- No delimiter is left in a token. -/
theorem not_delimiter_infix_fst_splitToken (s : List Char) : ¬ delimiter <:+: (splitToken s).1 := by
  fun_induction splitToken s with
  | case1 | case2 => exact fun h => absurd (List.infix_nil.mp h) (by decide)
  | case3 c rest hnone ih =>
    rw [List.infix_cons_iff, not_or]
    refine ⟨fun hfront => ?_, ih⟩
    have hshort := (List.prefix_cons_inj c).mpr (fst_splitToken_prefix_self rest)
    obtain ⟨scope, hscope⟩ := hfront.trans hshort
    rw [List.isPrefixOf?_eq_some_iff_append_eq.mpr hscope] at hnone
    cases hnone

/-- The first delimiter is no further on than any other. -/
theorem fst_splitToken_append_prefix (t rest : List Char) :
    (splitToken (t ++ (delimiter ++ rest))).1 <+: t := by
  induction t with
  | nil => exact List.prefix_rfl
  | cons c t ih =>
    rw [List.cons_append, splitToken]
    split
    · exact List.nil_prefix
    · exact (List.prefix_cons_inj c).mpr ih

/-- A delimiter that begins in a token and ends behind it begins with all but one of its characters
there: nothing shorter both ends and begins the delimiter. -/
theorem not_delimiter_prefix_append (hne : t ≠ []) (hfront : ¬ delimiter <+: t)
    (htail : ¬ delimiter.dropLast <:+ t) : ¬ delimiter <+: t ++ (delimiter ++ rest) := by
  intro h
  rcases List.prefix_or_prefix_of_prefix h (List.prefix_append t _) with h' | ⟨u, hu⟩
  · exact hfront h'
  have hends : ∀ t ∈ delimiter.inits, t ≠ [] → ¬ delimiter <+: t → ¬ delimiter.dropLast <:+ t →
      ¬ delimiter.drop t.length <+: delimiter := by decide
  refine hends t ((List.mem_inits t delimiter).mpr ⟨u, hu⟩) hne hfront htail ?_
  rw [show delimiter.drop t.length = u by rw [← hu, List.drop_left]]
  have hlength : u.length ≤ delimiter.length := by
    rw [← hu, List.length_append]
    exact Nat.le_add_left _ _
  rw [← hu, List.prefix_append_right_inj, hu] at h
  exact List.prefix_of_prefix_length_le h (List.prefix_append _ _) hlength

/-- A token is parted from the scope behind it if it neither holds a delimiter nor ends in one that
lacks only its last character. -/
theorem splitToken_append (htoken : ¬ delimiter <:+: t) (htail : ¬ delimiter.dropLast <:+ t) :
    splitToken (t ++ (delimiter ++ rest)) = (t, some rest) := by
  induction t with
  | nil => exact splitToken_delimiter_append rest
  | cons c t ih =>
    have hnone : delimiter.isPrefixOf? (c :: t ++ (delimiter ++ rest)) = none := by
      rw [← Option.not_isSome_iff_eq_none, List.isSome_isPrefixOf?_eq_isPrefixOf,
        List.isPrefixOf_iff_prefix]
      exact not_delimiter_prefix_append (List.cons_ne_nil c t)
        (fun h => htoken h.isInfix) htail
    rw [List.infix_cons_iff, not_or] at htoken
    rw [List.suffix_cons_iff, not_or] at htail
    rw [List.cons_append, splitToken, ← List.cons_append, hnone, ih htoken.2 htail.2]

end

theorem Text.trim_infix (s : List Char) : trim s <:+: s := by
  have hback : trim s <+: s.dropWhile isBlank := by
    rw [trim, ← List.reverse_suffix, List.reverse_reverse]
    exact List.dropWhile_suffix isBlank
  exact hback.isInfix.trans (List.dropWhile_suffix isBlank).isInfix

theorem Percent.HasEscape.of_infix {s t : List Char} (h : HasEscape s) (hpart : s <:+: t) :
    HasEscape t := by
  obtain ⟨before, a, b, after, rfl, ha, hb⟩ := h
  obtain ⟨front, back, rfl⟩ := hpart
  exact ⟨front ++ before, a, b, after ++ back, by simp, ha, hb⟩

theorem Utf8.eq_of_suffix {s t : List Char} (h : s <:+ t) (hsize : size t ≤ size s) : s = t := by
  obtain ⟨before, rfl⟩ := h
  rcases before with _ | ⟨c, before⟩
  · rfl
  · rw [size_append, size] at hsize
    have := c.utf8Size_pos
    omega

/-- Whether a token is read as it is where it stands in front of a delimiter: it does not begin with
a blank, holds no escape, and does not end in a delimiter that lacks only its last character. -/
structure IsPlainToken (t : List Char) : Prop where
  front : t.dropWhile Text.isBlank = t
  escape : ¬ Percent.HasEscape t
  tail : ¬ delimiter.dropLast <:+ t

/-- Whether the text of a scope, with its escapes resolved, is the text of a scope. -/
def Scope.IsReadable (s : Scope) : Prop :=
  ∃ text t, Percent.decode s.text.toList = .ok text ∧ Scope.ofText (String.ofList text) = .ok t

namespace Headers

variable {h written : Headers} {s : Scope} {t text scope : List Char}

/-- The token under `X-Auth-Token`, without a scope behind it. -/
def bareToken? (h : Headers) : Except ScopeError (Option (List Char)) :=
  (h.carried? tokenHeader).map (·.map fun text => (splitToken text).1)

theorem bareToken?_eq_some_iff : h.bareToken? = .ok (some t) ↔
    ∃ text, h.carried? tokenHeader = .ok (some text) ∧ (splitToken text).1 = t := by
  rw [bareToken?]
  rcases h.carried? tokenHeader with e | _ | text
  · simp [Except.map]
  · simp [Except.map]
  · simp [Except.map]

/-- Whether headers hold a token that can be got back: it is read in front of a scope, the scope is
the same for who reads only `X-Auth-Token`, and taking the scope away leaves the token. -/
structure KeepsToken (h : Headers) (t : List Char) : Prop where
  token : h.bareToken? = .ok (some t)
  scope : (h.erase scopeHeader).scope? = h.scope?
  strip : ∀ g ∈ [h, h.erase scopeHeader], ∃ bare, g.stripToken tokenHeader = .ok (bare, true) ∧
    bare.get? tokenHeader = some (String.ofList t) ∧ bare.stripToken tokenHeader = .ok (bare, false)

/-- A scope goes behind the bare token, and both go into the header as they are. -/
theorem writeScope_of_bareToken? (ht : h.bareToken? = .ok (some t)) (s : Scope) :
    h.writeScope s = (.ok (), (h.setScope s).insert tokenHeader (joinToken t s)) := by
  obtain ⟨text, hcarried, rfl⟩ := bareToken?_eq_some_iff.mp ht
  rw [writeScope, carried?_setScope, hcarried]

theorem trim_joinToken (t : List Char) (s : Scope) : Text.trim (joinToken t s).toList =
    t.dropWhile Text.isBlank ++ (delimiter ++ s.text.toList) := by
  obtain ⟨inner, htext⟩ := s.exists_toList_text
  rw [joinToken, String.toList_append, String.toList_ofList, htext, List.append_assoc]
  exact Text.trim_append (by decide) (by decide) t ("SCOPE!".toList ++ '{' :: inner)

/-- What is read where a scope was put behind a token: the token without the blanks in front, the
delimiter and the scope, where the token and the scope have their escapes resolved. -/
theorem carried?_of_joinToken (hget : written.get? tokenHeader = some (joinToken t s)) :
    written.carried? tokenHeader = .ok (some text) ↔ ∃ token scope,
      Percent.decode (t.dropWhile Text.isBlank) = .ok token ∧
      Percent.decode s.text.toList = .ok scope ∧ text = token ++ (delimiter ++ scope) := by
  rw [carried?_eq_ok_some_iff, hget]
  simp only [Option.some.injEq, exists_eq_left', trim_joinToken]
  exact Percent.decode_append_eq_ok_iff (by decide) (by decide) (by decide)

/-- A token is read again in front of a scope if it is plain, and only then: resolving escapes and
cutting blanks would make it shorter, and so would a delimiter that begins in it. -/
theorem bareToken?_of_joinToken (hget : written.get? tokenHeader = some (joinToken t s))
    (htoken : ¬ delimiter <:+: t) : written.bareToken? = .ok (some t) ↔
      IsPlainToken t ∧ ∃ scope, Percent.decode s.text.toList = .ok scope := by
  simp only [bareToken?_eq_some_iff, carried?_of_joinToken hget]
  constructor
  · rintro ⟨_, ⟨token, scope, hdecode, hscope, rfl⟩, ht⟩
    have hsuffix := List.dropWhile_suffix Text.isBlank (l := t)
    have hprefix : t <+: token := ht ▸ fst_splitToken_append_prefix token scope
    have hle : Utf8.size t ≤ Utf8.size token := by
      obtain ⟨rest, rfl⟩ := hprefix
      rw [Utf8.size_append]
      exact Nat.le_add_right _ _
    have hread : Utf8.size token ≤ Utf8.size (t.dropWhile Text.isBlank) := by
      rw [Utf8.size_of_decode_eq_ok hdecode]
      exact Percent.length_bytes_le _
    have hfront : t.dropWhile Text.isBlank = t := Utf8.eq_of_suffix hsuffix (hle.trans hread)
    rw [hfront] at hdecode hread
    have hescape : ¬ Percent.HasEscape t := fun hescape =>
      absurd (Percent.size_lt_of_decode_eq_ok hescape hdecode) (Nat.not_lt.mpr hle)
    rw [Percent.decode_of_not_hasEscape hescape] at hdecode
    cases hdecode
    refine ⟨⟨hfront, hescape, ?_⟩, scope, hscope⟩
    rintro ⟨u, rfl⟩
    -- the delimiter that `t` ends in is completed by the first character of the next one
    have hsplit : u ++ delimiter.dropLast ++ (delimiter ++ scope) =
        u ++ (delimiter ++ ("SCOPE!".toList ++ scope)) := by
      rw [List.append_assoc]
      rfl
    rw [hsplit] at ht
    have hlength := (ht ▸ fst_splitToken_append_prefix u _ : _ <+: u).length_le
    have hpositive : 0 < delimiter.dropLast.length := by decide
    rw [List.length_append] at hlength
    omega
  · rintro ⟨⟨hfront, hescape, htail⟩, scope, hscope⟩
    refine ⟨_, ⟨t, scope, ?_, hscope, rfl⟩, ?_⟩
    · rw [hfront, Percent.decode_of_not_hasEscape hescape]
    · rw [splitToken_append htoken htail]

theorem scope?_of_token (habsent : h.get? scopeHeader = none)
    (htoken : h.carried? tokenHeader = .ok (some text))
    (hsplit : (splitToken text).2 = some scope) :
    h.scope? = (readScope tokenHeader scope).map some := by
  simp only [scope?, carried?_eq_ok_none_iff.mpr habsent, htoken, bind, Except.bind, hsplit]
  rcases readScope tokenHeader scope with e | s <;> rfl

/-- The two channels are read alike exactly if what they hold is the text of a scope: if it is not,
each blames its own header. -/
theorem map_readScope_eq_iff : (readScope tokenHeader scope).map some =
      (readScope scopeHeader scope).map some ↔ ∃ s, Scope.ofText (String.ofList scope) = .ok s := by
  rw [readScope, readScope]
  rcases Scope.ofText (String.ofList scope) with fault | s
  · simp [Except.map, show tokenHeader ≠ scopeHeader by decide]
  · simp

/-- Taking the scope away from behind a plain token leaves the token, and there is nothing to take
away then. -/
theorem exists_stripToken_of_joinToken (hget : h.get? tokenHeader = some (joinToken t s))
    (htoken : ¬ delimiter <:+: t) (hplain : IsPlainToken t)
    (hscope : Percent.decode s.text.toList = .ok scope) :
    ∃ bare, h.stripToken tokenHeader = .ok (bare, true) ∧
      bare.get? tokenHeader = some (String.ofList t) ∧
      bare.stripToken tokenHeader = .ok (bare, false) := by
  have hdecode : Percent.decode (t.dropWhile Text.isBlank) = .ok t := by
    rw [hplain.front, Percent.decode_of_not_hasEscape hplain.escape]
  have hcarried := (carried?_of_joinToken hget).mpr ⟨t, scope, hdecode, hscope, rfl⟩
  let bare := h.insert tokenHeader (String.ofList t)
  have hbare : bare.get? tokenHeader = some (String.ofList t) := get?_insert_self ..
  refine ⟨bare, ?_, hbare, ?_⟩
  · exact stripToken_eq_ok_iff.mpr
      (.inr ⟨_, t, scope, hcarried, splitToken_append htoken hplain.tail, rfl⟩)
  · have hpart := Text.trim_infix t
    have hread : bare.carried? tokenHeader = .ok (some (Text.trim t)) :=
      carried?_eq_ok_some_iff.mpr ⟨_, hbare, by
        rw [String.toList_ofList, Percent.decode_of_not_hasEscape fun h =>
          hplain.escape (h.of_infix hpart)]⟩
    exact stripToken_eq_ok_iff.mpr (.inl ⟨_, hread,
      (snd_splitToken_eq_none_iff _).mpr fun h => htoken (h.trans hpart), rfl⟩)

/-- Putting a scope behind a token keeps the token if the token is plain and the text of the scope
is that of a scope with its escapes resolved, and only then. -/
theorem keepsToken_writeScope_iff (h : Headers) (s : Scope) (hdistinct : h.Distinct)
    (ht : h.bareToken? = .ok (some t)) : (h.writeScope s).1 = .ok () ∧
      ((h.writeScope s).2.KeepsToken t ↔ IsPlainToken t ∧ s.IsReadable) := by
  have htoken : ¬ delimiter <:+: t := by
    obtain ⟨text, _, rfl⟩ := bareToken?_eq_some_iff.mp ht
    exact not_delimiter_infix_fst_splitToken text
  have hwritten := writeScope_of_bareToken? ht s
  have hscope := get?_writeScope (h := h) (s := s) (by rw [hwritten])
  rw [hwritten] at hscope ⊢
  refine ⟨rfl, ?_⟩
  dsimp only at hscope ⊢
  generalize hw : (h.setScope s).insert tokenHeader (joinToken t s) = written at hscope
  have hget : written.get? tokenHeader = some (joinToken t s) := hw ▸ get?_insert_self ..
  have hgone : (written.erase scopeHeader).get? scopeHeader = none :=
    get?_erase_self (hw ▸ (hdistinct.insert _ _).insert _ _) scopeHeader
  have hleft : (written.erase scopeHeader).get? tokenHeader = some (joinToken t s) := by
    rw [get?_erase_of_not_sameName (by decide), hget]
  have hread : ∀ {scope}, IsPlainToken t → Percent.decode s.text.toList = .ok scope →
      ((written.erase scopeHeader).scope? = written.scope? ↔
        ∃ s, Scope.ofText (String.ofList scope) = .ok s) := by
    intro scope hplain hdecode
    have hcarried := (carried?_of_joinToken hleft).mpr ⟨t, scope, by
      rw [hplain.front, Percent.decode_of_not_hasEscape hplain.escape], hdecode, rfl⟩
    rw [scope?_of_token hgone hcarried (congrArg Prod.snd (splitToken_append htoken hplain.tail)),
      scope?_of_get?_text hscope, hdecode, ← map_readScope_eq_iff]
  constructor
  · rintro ⟨hbare, hsame, _⟩
    obtain ⟨hplain, scope, hdecode⟩ := (bareToken?_of_joinToken hget htoken).mp hbare
    obtain ⟨s', hs'⟩ := (hread hplain hdecode).mp hsame
    exact ⟨hplain, scope, s', hdecode, hs'⟩
  · rintro ⟨hplain, scope, s', hdecode, hs'⟩
    refine ⟨(bareToken?_of_joinToken hget htoken).mpr ⟨hplain, scope, hdecode⟩,
      (hread hplain hdecode).mpr ⟨s', hs'⟩, fun g hg => ?_⟩
    simp only [List.mem_cons, List.not_mem_nil, or_false] at hg
    rcases hg with rfl | rfl
    · exact exists_stripToken_of_joinToken hget htoken hplain hdecode
    · exact exists_stripToken_of_joinToken hleft htoken hplain hdecode

/-- A token that comes escaped, with an escaped delimiter and something else behind it, in headers
made of entries of which two have one name. -/
theorem keepsToken_writeScope_iff_escaped :
    let h := ofList [("x-auth-token", "old"), ("Accept", "*"),
      ("X-Auth-Token", " to%20k!SCOPE%21old ")]
    let s : Scope := ⟨[("compute", "A|B")], List.pairwise_singleton _ _⟩
    h.Distinct ∧ h.bareToken? = .ok (some "to k".toList) ∧
      (h.writeScope s).1 = .ok () ∧ (h.writeScope s).2.KeepsToken "to k".toList := by
  intro h s
  have hdistinct : h.Distinct := distinct_ofList _
  have hlist : h = ⟨[("x-auth-token", " to%20k!SCOPE%21old "), ("Accept", "*")]⟩ := by decide
  have ht : h.bareToken? = .ok (some "to k".toList) := by
    rw [hlist]
    cbv
  have hplain : IsPlainToken "to k".toList :=
    ⟨by decide, Percent.not_hasEscape_of_notMem (by decide), by decide⟩
  have hreadable : s.IsReadable := ⟨s.text.toList, s, by cbv, by cbv⟩
  obtain ⟨hw, hkeeps⟩ := keepsToken_writeScope_iff h s hdistinct ht
  exact ⟨hdistinct, ht, hw, hkeeps.mpr ⟨hplain, hreadable⟩⟩

/-- A token that ends in a delimiter without its last character is cut there, and the scope behind
it is lost. Blanks in front of a token are lost, and escapes in it are resolved once more. -/
theorem writeScope_of_unfit_token :
    let s : Scope := ⟨[("compute", "A")], List.pairwise_singleton _ _⟩
    let written (token : String) : Headers :=
      ⟨[("X-Auth-Token", token ++ "!SCOPE!\x7b\"compute\":\"A\"\x7d"),
        ("X-Scope", "\x7b\"compute\":\"A\"\x7d")]⟩
    (∀ x ∈ [("x!SCOPE", "x!SCOPE", "x"), ("%20t", " t", "t"), ("a%2541", "a%41", "aA")],
      let h : Headers := ⟨[("X-Auth-Token", x.1)]⟩
      h.bareToken? = .ok (some x.2.1.toList) ∧ h.writeScope s = (.ok (), written x.2.1) ∧
        (written x.2.1).bareToken? = .ok (some x.2.2.toList)) ∧
    (written "x!SCOPE").scope? = .ok (some s) ∧
    ((written "x!SCOPE").erase "X-Scope").scope? =
      .error (.malformedHeader "X-Auth-Token" (.scope (.json .malformed))) ∧
    ((written "x!SCOPE").stripToken "X-Auth-Token").map (·.1.get? "X-Auth-Token") =
      .ok (some "x") := by
  intro s written
  refine ⟨fun x hx => ?_, by cbv, by cbv, by cbv⟩
  simp only [List.mem_cons, List.not_mem_nil, or_false] at hx
  rcases hx with rfl | rfl | rfl
  · have hbare : bareToken? ⟨[("X-Auth-Token", "x!SCOPE")]⟩ = .ok (some "x!SCOPE".toList) := by cbv
    exact ⟨hbare, writeScope_of_bareToken? hbare s, by cbv⟩
  · have hbare : bareToken? ⟨[("X-Auth-Token", "%20t")]⟩ = .ok (some " t".toList) := by cbv
    exact ⟨hbare, writeScope_of_bareToken? hbare s, by cbv⟩
  · have hbare : bareToken? ⟨[("X-Auth-Token", "a%2541")]⟩ = .ok (some "a%41".toList) := by cbv
    exact ⟨hbare, writeScope_of_bareToken? hbare s, by cbv⟩

end Headers

end CloudScope
