import CloudScope.Proofs.Json.Acceptance
import CloudScope.Proofs.Settings.Layers

/-!
# The texts of a scope

A scope has many texts: its entries stand in any order, a service type may be repeated, and white
space and the spelling of strings are free. All of them are read as that scope, where the last entry
of a service type wins. The written form is one of them, none has fewer bytes, and it stays as it is
when it is read and written again (`Scope.canonical_text`).
-/

namespace CloudScope

/-! ## Entries that are repeated -/

namespace Entries

variable {β γ : Type} {key : String}

theorem find?_append (l l' : List (String × β)) :
    find? key (l ++ l') = (find? key l).or (find? key l') := by
  induction l with
  | nil => rfl
  | cons e l ih =>
    rw [List.cons_append, find?, find?, ih]
    split
    · rfl
    · rfl

/-- Of the entries of a key the last one counts. -/
theorem find?_ofList (l : List (String × β)) : find? key (ofList l) = find? key l.reverse := by
  suffices h : ∀ before : List (String × β),
      find? key (l.foldl (fun m e => insert e.1 e.2 m) before) =
        (find? key l.reverse).or (find? key before) by
    rw [ofList, h, find?, Option.or_none]
  induction l with
  | nil => exact fun before => rfl
  | cons e l ih =>
    intro before
    rw [List.foldl_cons, ih, List.reverse_cons, find?_append, Option.or_assoc]
    congr 1
    by_cases hkey : e.1 = key
    · rw [find?, if_pos hkey, ← hkey, find?_insert_self]
      rfl
    · rw [find?, if_neg hkey, find?_insert_of_ne (Ne.symm hkey)]
      rfl

theorem find?_map (f : β → γ) (key : String) (l : List (String × β)) :
    find? key (l.map fun e => (e.1, f e.2)) = (find? key l).map f := by
  induction l with
  | nil => rfl
  | cons e l ih =>
    rw [List.map_cons, find?, find?, ih]
    split
    · rfl
    · rfl

theorem not_lt_of_find?_eq {e : String × β} {l : List (String × β)} (hl : Ascending (e :: l))
    {value : β} (h : find? key (e :: l) = some value) : ¬ key < e.1 := by
  intro hlt
  have hnone : find? key (e :: l) = none := by
    refine find?_eq_none_of_forall_lt (List.forall_mem_cons.mpr ⟨hlt, fun e' he' => ?_⟩)
    exact String.lt_trans hlt ((List.pairwise_cons.mp hl).1 e' he')
  cases hnone.symm.trans h

/-- Entries in ascending order are the same if the same is found under each key. -/
theorem eq_of_find?_eq {l l' : List (String × β)} (hl : Ascending l) (hl' : Ascending l')
    (h : ∀ key, find? key l = find? key l') : l = l' := by
  have hself : ∀ (e : String × β) l, find? e.1 (e :: l) = some e.2 := fun _ _ => if_pos rfl
  induction l generalizing l' with
  | nil =>
    cases l' with
    | nil => rfl
    | cons e' l' => cases (h e'.1).trans (hself e' l')
  | cons e l ih =>
    cases l' with
    | nil => cases (h e.1).symm.trans (hself e l)
    | cons e' l' =>
      have hfound := (h e.1).symm.trans (hself e l)
      have hkey : e.1 = e'.1 := by
        by_contra hne
        have hnot := not_lt_of_find?_eq hl ((h e'.1).trans (hself e' l'))
        exact not_lt_of_find?_eq hl' hfound (lt_of_not_lt_of_ne hnot (Ne.symm hne))
      have hvalue : e.2 = e'.2 := by
        rw [hkey, hself] at hfound
        exact (Option.some.inj hfound).symm
      obtain ⟨he, hl⟩ := List.pairwise_cons.mp hl
      obtain ⟨he', hl'⟩ := List.pairwise_cons.mp hl'
      have hlater : ∀ key, find? key l = find? key l' := by
        intro key
        by_cases hk : e.1 = key
        · subst hk
          rw [find?_eq_none_of_forall_lt he, find?_eq_none_of_forall_lt (hkey ▸ he')]
        · have hfound := h key
          rwa [find?, if_neg hk, find?, if_neg (hkey ▸ hk)] at hfound
      rw [Prod.ext hkey hvalue, ih hl hl' hlater]

end Entries

/-! ## Bytes -/

/-- The bytes of a text are those of its characters. -/
theorem Utf8.utf8ByteSize_eq (text : String) : text.utf8ByteSize = Utf8.size text.toList := by
  suffices h : ∀ s : List Char, (String.ofList s).utf8ByteSize = Utf8.size s by
    rw [← h, String.ofList_toList]
  intro s
  induction s with
  | nil => rfl
  | cons c s ih =>
    rw [String.ofList_cons, String.utf8ByteSize_append, String.utf8ByteSize_singleton, ih,
      Utf8.size]

/-! ## Texts of objects -/

namespace Json

variable {fields fields' : List (String × Json)} {s rest : List Char}

/-- Whether a text is an object that lists the given fields, in their order and each as often as it
is given. -/
def Lists (fields : List (String × Json)) (s : List Char) : Prop :=
  ∃ body rest, skipSpace s = '{' :: body ∧
    Gives (items '}' (field unicodeEscape (value full 126)) true body) fields rest ∧ Blank rest

/-- What is read of an object is the last field of each name that its text lists. -/
theorem parse_eq_object_iff {text : String} : parse text = .ok (.object fields') ↔
    ∃ fields, Lists fields text.toList ∧ Entries.ofList fields = fields' := by
  rw [parse, complete_eq_ok_iff]
  simp only [gives_value_object_iff, Lists]
  constructor
  · rintro ⟨rest, ⟨n, body, fields, hn, hbody, hfields, hlast⟩, hrest⟩
    cases hn
    exact ⟨fields, ⟨body, rest, hbody, hfields, hrest⟩, hlast⟩
  · rintro ⟨fields, ⟨body, rest, hbody, hfields, hrest⟩, hlast⟩
    exact ⟨rest, ⟨126, body, fields, rfl, hbody, hfields, hlast⟩, hrest⟩

/-! ## Texts of entries -/

variable {entries : List (String × String)} {p : List Char} {j : Json}

/-- The texts of a value that is a string. -/
inductive StringText : Json → List Char → Prop where
  | mk {text : String} {s : List Char} : Quotes Numbers text s → StringText (.string text) s

/-- The texts of an object with the given entries, in their order and each as often as it is
given. -/
inductive EntriesText : List (String × String) → List Char → Prop where
  | mk {entries : List (String × String)} {w body w' : List Char} : Blank w → Blank w' →
    Sequence (Field (Quotes Numbers) StringText) '}' (stringFields entries) body →
    EntriesText entries (w ++ '{' :: (body ++ w'))

theorem StringText.gives_value (h : StringText j p) (n : Nat) (rest : List Char) :
    Gives (value full n (p ++ rest)) j rest := by
  obtain ⟨⟨h⟩⟩ := h
  rw [value.eq_def, gives_spaced_iff, List.cons_append, List.append_assoc, skipSpace_cons rfl]
  exact (h.gives_stringTail readsNumbers_unicodeEscape rest).map fun _ =>
    ⟨congrArg Json.string String.ofList_toList, rfl⟩

theorem readsUpTo_stringField (bound n : Nat) :
    ReadsUpTo bound (field unicodeEscape (value full n)) (Field (Quotes Numbers) StringText) := by
  intro e p he _
  constructor
  · obtain ⟨hname, -, -, -⟩ := he
    exact hname.opens _
  · intro rest _
    apply he.gives_field readsNumbers_unicodeEscape
    intro w v hw hv _
    exact hw.gives_value_iff.mpr (hv.gives_value n rest)

/-- The texts of entries list them as fields. -/
theorem EntriesText.lists (h : EntriesText entries s) : Lists (stringFields entries) s := by
  obtain @⟨w, body, w', hw, hw', hbody⟩ := h
  refine ⟨body ++ w', w', hw.skipSpace_append_cons rfl _, ?_, hw'⟩
  exact gives_items_of_sequence (readsUpTo_stringField body.length 126) (.inr rfl) hbody
    (Nat.le_refl _) w'

/-! ## The written form as a text -/

theorem field_quotedField (e : String × String) :
    Field (Quotes Numbers) StringText (e.1, .string e.2) (quotedField e) := by
  have hfield : Field (Quotes Numbers) StringText (e.1, .string e.2)
      (quoted e.1 ++ ([] ++ ':' :: ([] ++ quoted e.2))) :=
    .mk (quotes_quoted e.1) blank_nil blank_nil (.mk (quotes_quoted e.2))
  exact hfield

theorem further_furtherFields (entries : List (String × String)) :
    Further (Field (Quotes Numbers) StringText) '}' (stringFields entries)
      (furtherFields entries ++ ['}']) := by
  induction entries with
  | nil =>
    have hclose : Further (Field (Quotes Numbers) StringText) '}' [] ([] ++ ['}']) :=
      .close blank_nil
    exact hclose
  | cons e entries ih =>
    have hcomma : Further (Field (Quotes Numbers) StringText) '}' (stringFields (e :: entries))
        ([] ++ ',' :: ([] ++ (quotedField e ++ (furtherFields entries ++ ['}'])))) :=
      .comma blank_nil blank_nil (field_quotedField e) ih
    rwa [List.nil_append, List.nil_append, ← List.append_assoc] at hcomma

theorem sequence_quotedField (entries : List (String × String)) :
    ∃ body, compact entries = '{' :: body ∧
      Sequence (Field (Quotes Numbers) StringText) '}' (stringFields entries) body := by
  cases entries with
  | nil =>
    have hempty : Sequence (Field (Quotes Numbers) StringText) '}' [] ([] ++ ['}']) :=
      .empty blank_nil
    exact ⟨['}'], rfl, hempty⟩
  | cons e entries =>
    have hitems : Sequence (Field (Quotes Numbers) StringText) '}' (stringFields (e :: entries))
        ([] ++ (quotedField e ++ (furtherFields entries ++ ['}']))) :=
      .items blank_nil (field_quotedField e) (further_furtherFields entries)
    refine ⟨_, ?_, hitems⟩
    rw [compact_cons, List.nil_append, List.append_assoc]

theorem entriesText_compact (entries : List (String × String)) :
    EntriesText entries (compact entries) := by
  obtain ⟨body, hcompact, hbody⟩ := sequence_quotedField entries
  have htext : EntriesText entries ([] ++ '{' :: (body ++ [])) := .mk blank_nil blank_nil hbody
  rwa [List.append_nil, List.nil_append, ← hcompact] at htext

end Json

namespace Scope

variable {entries : List (String × String)} {s : Scope} {j : String}

theorem get?_string (s : Scope) (serviceType : String) :
    (s.get? serviceType).map Json.string =
      Entries.find? serviceType (Json.stringFields s.toList) :=
  (Entries.find?_map Json.string serviceType s.toList).symm

theorem ofText_eq_ok_iff_parse :
    ofText j = .ok s ↔ Json.parse j = .ok (.object (Json.stringFields s.toList)) := by
  rw [ofText_eq_ok_iff]
  constructor
  · rintro ⟨entries, hparse, rfl⟩
    have hentries := Json.ascending_stringFields.mp (Json.ascending_of_parse hparse)
    rw [toList_ofList, Entries.ofList_of_ascending hentries, hparse]
  · exact fun hparse => ⟨s.toList, hparse, s.ofList_toList.symm⟩

/-- What is read of a scope is the last entry of each service type that its text lists. The value of
one that is overridden may be anything. -/
theorem ofText_eq_ok_iff_lists : ofText j = .ok s ↔ ∃ fields, Json.Lists fields j.toList ∧
    ∀ serviceType, (s.get? serviceType).map Json.string =
      Entries.find? serviceType fields.reverse := by
  rw [ofText_eq_ok_iff_parse, Json.parse_eq_object_iff]
  simp only [get?_string, ← Entries.find?_ofList]
  constructor
  · rintro ⟨fields, hlists, hlast⟩
    exact ⟨fields, hlists, fun serviceType => by rw [hlast]⟩
  · rintro ⟨fields, hlists, hget⟩
    have hstrings := Json.ascending_stringFields.mpr s.ascending
    have hlast := Entries.eq_of_find?_eq hstrings (Entries.ascending_ofList fields) hget
    exact ⟨fields, hlists, hlast.symm⟩

theorem get?_ofList_eq (entries : List (String × String)) (serviceType : String) :
    (ofList entries).get? serviceType = Entries.find? serviceType entries.reverse := by
  rw [get?, toList_ofList, Entries.find?_ofList]

theorem ofText_of_entriesText (h : Json.EntriesText entries j.toList) :
    ofText j = .ok (ofList entries) := by
  refine ofText_eq_ok_iff_lists.mpr ⟨_, h.lists, fun serviceType => ?_⟩
  rw [get?_ofList_eq, Json.stringFields, ← List.map_reverse]
  exact (Entries.find?_map Json.string serviceType entries.reverse).symm

theorem entriesText_text (s : Scope) : Json.EntriesText s.toList s.text.toList := by
  rw [text, String.toList_ofList]
  exact Json.entriesText_compact s.toList

theorem text_injective : Function.Injective text := by
  intro s t h
  have hs : ofText s.text = .ok t := h ▸ ofText_text t
  exact Except.ok.inj ((ofText_text s).symm.trans hs)

theorem utf8ByteSize_text_le (h : ofText j = .ok s) : s.text.utf8ByteSize ≤ j.utf8ByteSize := by
  rw [Utf8.utf8ByteSize_eq, Utf8.utf8ByteSize_eq]
  exact size_text_le h

/-- The written form of a scope is a text of it, from which it is read back, so that no two scopes
have one written form. Every text of entries is read, and the last entry of a service type wins.
What a scope was read from lists its entries, the last one of each service type, and has no fewer
bytes than the written form, which stays the same when it is read and written again. -/
theorem canonical_text :
    (∀ s : Scope, Json.EntriesText s.toList s.text.toList ∧ ofText s.text = .ok s) ∧
    Function.Injective text ∧
    (∀ entries j, Json.EntriesText entries j.toList → ∃ s, ofText j = .ok s ∧
      ∀ serviceType, s.get? serviceType = Entries.find? serviceType entries.reverse) ∧
    ∀ j s, ofText j = .ok s →
      (∃ fields, Json.Lists fields j.toList ∧ ∀ serviceType,
        (s.get? serviceType).map Json.string = Entries.find? serviceType fields.reverse) ∧
      s.text.utf8ByteSize ≤ j.utf8ByteSize ∧ (ofText s.text).map text = .ok s.text := by
  refine ⟨fun s => ⟨s.entriesText_text, ofText_text s⟩, text_injective, fun entries j h => ?_,
    fun j s h => ⟨ofText_eq_ok_iff_lists.mp h, utf8ByteSize_text_le h, ?_⟩⟩
  · exact ⟨ofList entries, ofText_of_entriesText h, get?_ofList_eq entries⟩
  · rw [ofText_text]
    rfl

/-- A text with white space, a surrogate pair, an escaped slash and a letter that is spelled by its
number, where a service type is repeated. -/
theorem canonical_text_mixed :
    let entries := [("image", "A"), ("compute", "/😀"), ("image", "B\n")]
    let j := " \x7b\"image\" :\"A\",\n\"compute\":\"\\/\\uD83d\\ude00\"," ++
      " \"im\\u0061ge\":\"B\\n\"\x7d\t"
    Json.EntriesText entries j.toList ∧
      ∃ s, ofText j = .ok s ∧
        ["compute", "image", "volume"].map s.get? = [some "/😀", some "B\n", none] ∧
        s.text.utf8ByteSize ≤ j.utf8ByteSize := by
  intro entries j
  have hspace : Json.Blank [' '] := by decide
  have hline : Json.Blank ['\n'] := by decide
  have htab : Json.Blank ['\t'] := by decide
  have hletter : Json.Numbers "0061".toList 'a' :=
    .unit ⟨by decide, _, _, _, _, rfl, .inl rfl, .inl rfl, .inl rfl, .inl rfl⟩
  have hhigh : Json.IsCodeUnit 0xD83D "D83d".toList :=
    ⟨by decide, _, _, _, _, rfl, .inr rfl, .inl rfl, .inl rfl, .inl rfl⟩
  have hlow : Json.IsCodeUnit 0xDE00 "de00".toList :=
    ⟨by decide, _, _, _, _, rfl, .inl rfl, .inl rfl, .inl rfl, .inl rfl⟩
  have hpair : Json.Numbers ("D83d".toList ++ '\\' :: 'u' :: "de00".toList) '😀' :=
    .pair (by decide) hhigh hlow
  have hfirst : Json.Field (Json.Quotes Json.Numbers) Json.StringText ("image", .string "A") _ :=
    .mk (Json.quotes_quoted "image") hspace Json.blank_nil (.mk (Json.quotes_quoted "A"))
  have hslash : ('/', '/') ∈ Json.shortEscapes := by decide
  have hcompute : Json.Quotes Json.Numbers "/😀" _ :=
    .mk (.short hslash (.number hpair .nil))
  have hsecond : Json.Field (Json.Quotes Json.Numbers) Json.StringText
      ("compute", .string "/😀") _ :=
    .mk (Json.quotes_quoted "compute") Json.blank_nil Json.blank_nil (.mk hcompute)
  have himage : Json.Quotes Json.Numbers "image" _ :=
    .mk (.plain (by decide) (by decide) (by decide) (.plain (by decide) (by decide) (by decide)
      (.number hletter (.plain (by decide) (by decide) (by decide)
        (.plain (by decide) (by decide) (by decide) .nil)))))
  have hlast : Json.Field (Json.Quotes Json.Numbers) Json.StringText ("image", .string "B\n") _ :=
    .mk himage Json.blank_nil Json.blank_nil (.mk (Json.quotes_quoted "B\n"))
  obtain ⟨t, hentries, ht⟩ : ∃ t, Json.EntriesText entries t ∧ t = j.toList :=
    ⟨_, .mk hspace htab (.items Json.blank_nil hfirst (.comma Json.blank_nil hline hsecond
      (.comma Json.blank_nil hspace hlast (.close Json.blank_nil)))), by decide +kernel⟩
  rw [ht] at hentries
  obtain ⟨s, hs, hget⟩ := canonical_text.2.2.1 entries j hentries
  refine ⟨hentries, s, hs, ?_, (canonical_text.2.2.2 j s hs).2.1⟩
  simp only [List.map_cons, List.map_nil, hget]
  decide

end Scope

end CloudScope
