import CloudScope.Proofs.Json.Items

/-!
# JSON values back and forth

The written form of an object of strings is read as that object, and no other text of it has fewer
bytes.
-/

namespace CloudScope.Json

variable {c : Char} {s rest : List Char} {cut : Fault}

/-! ## Sizes of numbers and words -/

theorem size_of_gives_digits {ds : List Char} (h : Gives (digits cut s) ds rest) :
    Utf8.size rest ≤ Utf8.size s := by
  unfold digits at h
  split at h
  · exact (Gives.not_error h).elim
  · next c later =>
    split at h
    · obtain ⟨-, rfl⟩ := Gives.ok_iff.mp h
      have : Utf8.size (later.dropWhile Char.isDigit) ≤ Utf8.size later :=
        Utf8.size_le_of_suffix (List.dropWhile_suffix _)
      rw [Utf8.size]
      exact Nat.le_trans this (Nat.le_add_left _ _)
    · exact (Gives.not_error h).elim

theorem size_of_gives_wholeDigits {ds : List Char} (h : Gives (wholeDigits cut s) ds rest) :
    Utf8.size rest ≤ Utf8.size s := by
  unfold wholeDigits at h
  split at h
  · split at h
    · exact (Gives.not_error h).elim
    · obtain ⟨-, rfl⟩ := Gives.ok_iff.mp h
      exact Nat.le_add_left _ _
  · exact size_of_gives_digits h

theorem size_of_gives_exponentDigits {n : Int} (h : Gives (exponentDigits cut s) n rest) :
    Utf8.size rest ≤ Utf8.size s := by
  unfold exponentDigits at h
  split at h
  all_goals obtain ⟨ds, hds⟩ := Gives.exists_of_map (fun _ _ => rfl) h
  · exact Nat.le_trans (size_of_gives_digits hds) (Nat.le_add_left _ _)
  · exact Nat.le_trans (size_of_gives_digits hds) (Nat.le_add_left _ _)
  · exact size_of_gives_digits hds

theorem size_of_gives_exponentPart {n : Int} (h : Gives (exponentPart cut s) n rest) :
    Utf8.size rest ≤ Utf8.size s := by
  unfold exponentPart at h
  split at h
  · split at h
    · obtain ⟨n, hn⟩ := Gives.exists_of_map (fun _ _ => rfl) h
      exact Nat.le_trans (size_of_gives_exponentDigits hn) (Nat.le_add_left _ _)
    · obtain ⟨-, rfl⟩ := Gives.ok_iff.mp h
      exact Nat.le_refl _
  · obtain ⟨-, rfl⟩ := Gives.ok_iff.mp h
    exact Nat.le_refl _

theorem size_of_gives_fractionPart {ds : List Char} (h : Gives (fractionPart cut s) ds rest) :
    Utf8.size rest ≤ Utf8.size s := by
  unfold fractionPart at h
  split at h
  · obtain ⟨ds, hds⟩ := Gives.exists_of_map (fun _ _ => rfl) h
    exact Nat.le_trans (size_of_gives_digits hds) (Nat.le_add_left _ _)
  · obtain ⟨-, rfl⟩ := Gives.ok_iff.mp h
    exact Nat.le_refl _

theorem size_of_gives_unsigned {m : Magnitude} (h : Gives (unsigned cut s) m rest) :
    Utf8.size rest ≤ Utf8.size s := by
  unfold unsigned at h
  split at h
  · exact (Gives.not_error h).elim
  split at h
  · exact (Gives.not_error h).elim
  split at h
  · exact (Gives.not_error h).elim
  · next _ whole hwhole _ _ more hmore _ _ last hlast =>
    obtain ⟨-, rfl⟩ := Gives.ok_iff.mp h
    calc Utf8.size last.val
        ≤ Utf8.size more.val := size_of_gives_exponentPart (.of_eq hlast)
      _ ≤ Utf8.size whole.val := size_of_gives_fractionPart (.of_eq hmore)
      _ ≤ Utf8.size s := size_of_gives_wholeDigits (.of_eq hwhole)

theorem size_of_gives_numeral {m : Magnitude} (h : Gives (numeral cut s) m rest) :
    Utf8.size rest ≤ Utf8.size s := by
  unfold numeral at h
  split at h
  · obtain ⟨m, hm⟩ := Gives.exists_of_map (fun _ _ => rfl) h
    exact Nat.le_trans (size_of_gives_unsigned hm) (Nat.le_add_left _ _)
  · exact size_of_gives_unsigned h

theorem size_of_gives_number {literal : String} (h : Gives (full.number s) literal rest) :
    Utf8.size rest ≤ Utf8.size s := by
  simp only [full] at h
  split at h
  · exact (Gives.not_error h).elim
  · next hm =>
    split at h
    · exact (Gives.not_error h).elim
    · obtain ⟨-, rfl⟩ := Gives.ok_iff.mp h
      exact size_of_gives_numeral (.of_eq hm)

theorem size_of_word_eq_ok {letters : List Char} {r : Within s} (h : word letters s = .ok r) :
    Utf8.size r.val ≤ Utf8.size s := by
  fun_induction word letters s with
  | case1 => cases h; exact Nat.le_refl _
  | case2 => cases h
  | case3 letters c later ih =>
    obtain ⟨r, hr, rfl⟩ := exists_of_map_eq_ok h
    exact Nat.le_trans (ih hr) (Nat.le_add_left _ _)
  | case4 => cases h

/-! ## Sizes of values -/

/-- The bytes of the written form of a string; other values count nothing. -/
def stringSize : Json → Nat
  | .string text => Utf8.size (quoted text)
  | _ => 0

/-- The bytes of the written form of fields that hold strings, with a comma for each. -/
def fieldsSize (fields : List (String × Json)) : Nat :=
  itemsSize (fun e => Utf8.size (quoted e.1) + 1 + stringSize e.2) fields

/-- The bytes of the written form of a string, or of an object of strings. -/
def writtenSize : Json → Nat
  | .string text => Utf8.size (quoted text)
  | .object fields => 1 + max 1 (fieldsSize fields)
  | _ => 0

theorem stringSize_le (j : Json) : stringSize j ≤ writtenSize j := by
  cases j with
  | string => exact Nat.le_refl _
  | _ => exact Nat.zero_le _

theorem fieldsSize_cons (e : String × Json) (fields : List (String × Json)) :
    fieldsSize (e :: fields) =
      Utf8.size (quoted e.1) + 1 + stringSize e.2 + 1 + fieldsSize fields :=
  rfl

theorem fieldsSize_insert_le (name : String) (j : Json) (fields : List (String × Json)) :
    fieldsSize (Entries.insert name j fields) ≤ fieldsSize ((name, j) :: fields) := by
  induction fields with
  | nil => exact Nat.le_refl _
  | cons e fields ih =>
    simp only [Entries.insert]
    split
    · exact Nat.le_refl _
    split
    · simp only [fieldsSize_cons]
      omega
    · simp only [fieldsSize_cons] at ih ⊢
      omega

/-- Of fields with one name only the last counts. -/
theorem fieldsSize_ofList_le (fields : List (String × Json)) :
    fieldsSize (Entries.ofList fields) ≤ fieldsSize fields := by
  suffices h : ∀ before,
      fieldsSize (fields.foldl (fun m e => Entries.insert e.1 e.2 m) before) ≤
        fieldsSize before + fieldsSize fields from
    Nat.le_trans (h []) (Nat.le_of_eq (Nat.zero_add _))
  induction fields with
  | nil => exact fun _ => Nat.le_refl _
  | cons e fields ih =>
    intro before
    have hinsert := fieldsSize_insert_le e.1 e.2 before
    have hfields := ih (Entries.insert e.1 e.2 before)
    simp only [List.foldl_cons, fieldsSize_cons] at *
    omega

theorem size_of_gives_word {letters : List Char} {j k : Json} (hk : writtenSize k = 0)
    (h : Gives ((word letters s).map fun r => (k, r.behind c)) j rest) :
    writtenSize j + Utf8.size rest ≤ Utf8.size (c :: s) := by
  obtain ⟨_, h⟩ := h
  obtain ⟨r, hr, heq⟩ := exists_of_map_eq_ok h
  cases heq
  rw [hk, Nat.zero_add]
  exact Nat.le_trans (size_of_word_eq_ok hr) (Nat.le_add_left _ _)

/-- No text of a string or of an object of strings has fewer bytes than the written one. -/
theorem size_of_gives_value {nesting : Nat} {j : Json} (h : Gives (value full nesting s) j rest) :
    writtenSize j + Utf8.size rest ≤ Utf8.size s := by
  -- only arrays and objects go down a level, so the levels carry the induction
  induction nesting using Nat.strongRecOn generalizing s j rest with
  | ind nesting ih =>
    have hs := size_skipSpace_le s
    rw [value.eq_def, gives_spaced_iff] at h
    generalize skipSpace s = t at h hs
    refine Nat.le_trans ?_ hs
    split at h
    · exact (Gives.not_error h).elim
    · exact size_of_gives_word rfl h
    · exact size_of_gives_word rfl h
    · exact size_of_gives_word rfl h
    · next later =>
      obtain ⟨cs, hcs, rfl⟩ :=
        (Gives.map_iff (g := fun cs => .string (String.ofList cs)) fun _ _ => ⟨rfl, rfl⟩).mp h
      exact size_of_gives_quoted hcs
    · next later =>
      split at h
      · exact (Gives.not_error h).elim
      · obtain ⟨bs, hbs, rfl⟩ := (Gives.map_iff (g := .array) fun _ _ => ⟨rfl, rfl⟩).mp h
        have hitem : ∀ {s j rest}, Gives (value full _ s) j rest →
            writtenSize j + Utf8.size rest ≤ Utf8.size s := ih _ (Nat.lt_succ_self _)
        have hsize := size_of_gives_items hitem hbs
        simp only [writtenSize, Utf8.size]
        omega
    · next later =>
      split at h
      · exact (Gives.not_error h).elim
      · next nesting =>
        obtain ⟨bs, hbs, rfl⟩ := (Gives.map_iff (g := ofFields) fun _ _ => ⟨rfl, rfl⟩).mp h
        have hitem : ∀ {s e rest}, Gives (field unicodeEscape (value full nesting) s) e rest →
            Utf8.size (quoted e.1) + 1 + stringSize e.2 + Utf8.size rest ≤ Utf8.size s := by
          intro s e rest he
          refine size_of_gives_field (fun {s j rest} hj => ?_) he
          have := ih nesting (Nat.lt_succ_self _) hj
          have := stringSize_le j
          omega
        have hsize := size_of_gives_items hitem hbs
        have hlast := fieldsSize_ofList_le bs
        have hbrace : '\x7b'.utf8Size = 1 := rfl
        rw [if_pos rfl, ← fieldsSize] at hsize
        simp only [ofFields, writtenSize, Utf8.size, hbrace]
        omega
    · split at h
      · obtain ⟨literal, hnumber, rfl⟩ :=
          (Gives.map_iff (g := .number) fun _ _ => ⟨rfl, rfl⟩).mp h
        simp only [writtenSize, Nat.zero_add]
        exact size_of_gives_number hnumber
      · exact (Gives.not_error h).elim

/-! ## Objects -/

/-- An object is read from what starts with a brace, field by field. -/
theorem gives_value_object_iff {care : Care} {nesting : Nat} {last : List (String × Json)} :
    Gives (value care nesting s) (.object last) rest ↔ ∃ n body fields, nesting = n + 1 ∧
      skipSpace s = '{' :: body ∧
      Gives (items '}' (field care.unicode (value care n)) true body) fields rest ∧
      Entries.ofList fields = last := by
  rw [value.eq_def, gives_spaced_iff]
  generalize skipSpace s = t
  constructor
  · intro h
    split at h
    · exact (Gives.not_error h).elim
    · obtain ⟨_, ⟨⟩⟩ := Gives.exists_eq_of_map h
    · obtain ⟨_, ⟨⟩⟩ := Gives.exists_eq_of_map h
    · obtain ⟨_, ⟨⟩⟩ := Gives.exists_eq_of_map h
    · obtain ⟨_, ⟨⟩⟩ := Gives.exists_eq_of_map h
    · split at h
      · exact (Gives.not_error h).elim
      · obtain ⟨_, ⟨⟩⟩ := Gives.exists_eq_of_map h
    · next body =>
      split at h
      · exact (Gives.not_error h).elim
      · next n =>
        obtain ⟨fields, hfields, heq⟩ := (Gives.map_iff (g := ofFields) fun _ _ => ⟨rfl, rfl⟩).mp h
        exact ⟨n, body, fields, rfl, rfl, hfields, Json.object.inj heq⟩
    · split at h
      · obtain ⟨_, ⟨⟩⟩ := Gives.exists_eq_of_map h
      · exact (Gives.not_error h).elim
  · rintro ⟨n, body, fields, rfl, rfl, hfields, rfl⟩
    exact hfields.map fun _ => ⟨rfl, rfl⟩

/-! ## Reading what is written -/

/-- The fields of an object of strings. -/
def stringFields (fields : List (String × String)) : List (String × Json) :=
  fields.map fun e => (e.1, .string e.2)

theorem ascending_stringFields {fields : List (String × String)} :
    Entries.Ascending (stringFields fields) ↔ Entries.Ascending fields :=
  List.pairwise_map

theorem stringFields_cons (e : String × String) (fields : List (String × String)) :
    stringFields (e :: fields) = (e.1, .string e.2) :: stringFields fields := rfl

/-- The written form of fields behind another one. -/
def furtherFields (fields : List (String × String)) : List Char :=
  fields.flatMap fun e => ',' :: quotedField e

theorem compact_cons (e : String × String) (fields : List (String × String)) :
    compact (e :: fields) = '{' :: (quotedField e ++ furtherFields fields ++ ['}']) := by
  have h : ∀ part : List Char, [','].intercalate (part :: fields.map quotedField) =
      part ++ furtherFields fields := by
    induction fields with
    | nil => intro part; simp [furtherFields, List.intercalate]
    | cons e fields ih =>
      intro part
      rw [List.map_cons, List.intercalate_cons_cons, ih]
      simp [furtherFields]
  rw [compact, List.map_cons, h]
  simp

theorem quotedField_append (e : String × String) (rest : List Char) :
    ∃ t, quotedField e ++ rest = '"' :: t := by
  rw [quotedField, List.append_assoc, quoted_append]
  exact ⟨_, rfl⟩

theorem gives_value_quoted (nesting : Nat) (text : String) (rest : List Char) :
    Gives (value full nesting (quoted text ++ rest)) (.string text) rest := by
  rw [value.eq_def, gives_spaced_iff, quoted_append, skipSpace_cons rfl]
  exact (gives_stringTail_escape _ _).map fun _ => ⟨congrArg Json.string String.ofList_toList, rfl⟩

theorem gives_quotedField (nesting : Nat) (e : String × String) (rest : List Char) :
    Gives (field unicodeEscape (value full nesting) (quotedField e ++ rest)) (e.1, .string e.2)
      rest := by
  rw [quotedField, List.append_assoc]
  exact gives_field (gives_value_quoted nesting e.2 rest)

theorem gives_furtherFields (nesting : Nat) (fields : List (String × String)) (rest : List Char) :
    Gives (items '}' (field unicodeEscape (value full nesting)) false
      (furtherFields fields ++ '}' :: rest)) (stringFields fields) rest := by
  induction fields with
  | nil => exact gives_items_nil (next_closed (skipSpace_cons rfl))
  | cons e fields ih =>
    have hfield := gives_quotedField nesting e (furtherFields fields ++ '}' :: rest)
    obtain ⟨t, ht⟩ := quotedField_append e (furtherFields fields ++ '}' :: rest)
    rw [ht] at hfield
    rw [furtherFields, List.flatMap_cons, ← furtherFields, List.cons_append, List.cons_append,
      List.append_assoc, ht]
    exact gives_items_cons
      (next_comma (skipSpace_cons rfl) (by decide) (skipSpace_cons rfl) (by decide)) hfield ih

/-- The written form of an object of strings is read. -/
theorem gives_value_compact (nesting : Nat) (fields : List (String × String)) :
    Gives (value full (nesting + 1) (compact fields)) (ofFields (stringFields fields)) [] := by
  cases fields with
  | nil =>
    rw [value, gives_spaced_iff]
    exact (gives_items_nil (next_closed (skipSpace_cons rfl))).map fun _ => ⟨rfl, rfl⟩
  | cons e fields =>
    rw [compact_cons, value, gives_spaced_iff, skipSpace_cons rfl]
    refine .map ?_ fun _ => ⟨rfl, rfl⟩
    have hfield := gives_quotedField nesting e (furtherFields fields ++ '}' :: [])
    obtain ⟨t, ht⟩ := quotedField_append e (furtherFields fields ++ '}' :: [])
    rw [ht] at hfield
    rw [List.append_assoc, ht]
    exact gives_items_cons (next_first (skipSpace_cons rfl) (by decide)) hfield
      (gives_furtherFields nesting fields [])

/-! ## The size of what is written -/

theorem size_quotedField (e : String × String) :
    Utf8.size (quotedField e) = Utf8.size (quoted e.1) + 1 + Utf8.size (quoted e.2) := by
  rw [quotedField, Utf8.size_append, Utf8.size, Nat.add_assoc]
  rfl

theorem size_furtherFields (fields : List (String × String)) :
    Utf8.size (furtherFields fields) = fieldsSize (stringFields fields) := by
  have hcomma : ','.utf8Size = 1 := rfl
  induction fields with
  | nil => rfl
  | cons e fields ih =>
    rw [furtherFields, List.flatMap_cons, Utf8.size_append, ← furtherFields, ih, Utf8.size,
      size_quotedField, stringFields_cons, fieldsSize_cons, hcomma]
    simp only [stringSize]
    omega

theorem size_compact (fields : List (String × String)) :
    Utf8.size (compact fields) = writtenSize (.object (stringFields fields)) := by
  have hopen : '\x7b'.utf8Size = 1 := rfl
  have hclose : '\x7d'.utf8Size = 1 := rfl
  cases fields with
  | nil => rfl
  | cons e fields =>
    have hfields := size_furtherFields fields
    rw [compact_cons, writtenSize, stringFields_cons, fieldsSize_cons]
    simp only [Utf8.size, Utf8.size_append, size_quotedField, stringSize, hopen, hclose]
    omega

end CloudScope.Json
