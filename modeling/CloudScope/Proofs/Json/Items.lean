import CloudScope.Proofs.Json.Strings
import Mathlib.Data.List.TakeWhile

/-!
# Items and fields of JSON texts

How white space, the items of sequences and the fields of objects are read, and how many bytes every
text of them has at least.
-/

namespace CloudScope.Json

variable {β : Type} {c d close : Char} {first : Bool} {s t w rest : List Char}

/-! ## Spaces -/

theorem skipSpace_cons (h : isSpace c = false) : skipSpace (c :: rest) = c :: rest :=
  List.dropWhile_cons_of_neg (by simp [h])

theorem size_skipSpace_le (s : List Char) : Utf8.size (skipSpace s) ≤ Utf8.size s :=
  Utf8.size_le_of_suffix (List.dropWhile_suffix _)

theorem gives_spaced_iff {read : TextReader β} {b : β} :
    Gives (spaced read s) b rest ↔ Gives (read (skipSpace s)) b rest :=
  (Gives.map_iff (g := id) fun _ _ => ⟨rfl, rfl⟩).trans (by simp)

theorem blank_nil : Blank [] :=
  List.forall_mem_nil _

theorem Blank.skipSpace_append (h : Blank w) (s : List Char) :
    skipSpace (w ++ s) = skipSpace s := by
  refine List.dropWhile_append_of_pos fun c hc => ?_
  have hspace : ∀ c ∈ [' ', '\t', '\n', '\r'], isSpace c = true := by simp [isSpace]
  exact hspace c (h c hc)

theorem Blank.skipSpace_append_cons (h : Blank w) (hc : isSpace c = false) (s : List Char) :
    skipSpace (w ++ c :: s) = c :: s := by
  rw [h.skipSpace_append, skipSpace_cons hc]

theorem Blank.gives_spaced_iff {read : TextReader β} {b : β} (h : Blank w) :
    Gives (spaced read (w ++ s)) b rest ↔ Gives (spaced read s) b rest := by
  rw [Json.gives_spaced_iff, Json.gives_spaced_iff, h.skipSpace_append]

/-- A reader that leaves white space has read the whole text. -/
theorem Blank.complete_of_gives {read : TextReader β} {b : β} (hw : Blank w)
    (h : Gives (read s) b w) : complete read s = .ok b := by
  obtain ⟨_, h⟩ := h
  have hskip : skipSpace w = [] := by
    rw [← List.append_nil w, hw.skipSpace_append]
    rfl
  rw [complete, h]
  simp only [hskip, List.isEmpty_nil, if_true]

theorem complete_eq_ok_iff {read : TextReader β} {b : β} :
    complete read s = .ok b ↔ ∃ rest, Gives (read s) b rest ∧ Blank rest := by
  constructor
  · intro h
    unfold complete at h
    split at h
    · cases h
    · next b' rest hread =>
      split at h
      · next hempty =>
        cases h
        refine ⟨_, .of_eq hread, fun c hc => ?_⟩
        have hspace := List.dropWhile_eq_nil_iff.mp (List.isEmpty_iff.mp hempty) c hc
        simpa [isSpace, or_assoc] using hspace
      · cases h
  · rintro ⟨rest, hread, hrest⟩
    exact hrest.complete_of_gives hread

theorem gives_colon (rest : List Char) : Gives (colon (':' :: rest)) () rest :=
  gives_spaced_iff.mpr (.of_eq rfl)

/-! ## Items -/

theorem next_closed (h : skipSpace s = close :: rest) :
    ∃ r : Rest s, next close first s = .ok (.closed r) ∧ r.val = rest := by
  unfold next
  split
  · next heq => simp [heq] at h
  · next heq =>
    obtain ⟨rfl, rfl⟩ := List.cons.inj (heq.symm.trans h)
    rw [if_pos rfl]
    exact ⟨_, rfl, rfl⟩

theorem next_first (h : skipSpace s = c :: rest) (hc : c ≠ close) :
    ∃ front : Within s, next close true s = .ok (.item front) ∧ front.val = c :: rest := by
  unfold next
  split
  · next heq => simp [heq] at h
  · next heq =>
    obtain ⟨rfl, rfl⟩ := List.cons.inj (heq.symm.trans h)
    rw [if_neg hc]
    exact ⟨_, rfl, rfl⟩

theorem next_comma (h : skipSpace s = ',' :: t) (hcomma : ',' ≠ close)
    (ht : skipSpace t = c :: rest) (hc : c ≠ close) :
    ∃ front : Within s, next close false s = .ok (.item front) ∧ front.val = c :: rest := by
  unfold next
  split
  · next heq => simp [heq] at h
  · next heq =>
    obtain ⟨rfl, rfl⟩ := List.cons.inj (heq.symm.trans h)
    rw [if_neg hcomma, if_neg Bool.false_ne_true, if_pos rfl]
    split
    · next hmore => simp [hmore] at ht
    · next hmore =>
      obtain ⟨rfl, rfl⟩ := List.cons.inj (hmore.symm.trans ht)
      rw [if_neg hc]
      exact ⟨_, rfl, rfl⟩

theorem size_of_next_closed {r : Rest s} (h : next close first s = .ok (.closed r)) :
    1 + Utf8.size r.val ≤ Utf8.size s := by
  have hs := size_skipSpace_le s
  unfold next at h
  split at h
  · cases h
  · next d rest heq =>
    rw [heq, Utf8.size] at hs
    have := d.utf8Size_pos
    split at h
    · cases h
      change 1 + Utf8.size rest ≤ Utf8.size s
      omega
    split at h
    · cases h
    split at h
    · split at h
      · cases h
      · split at h <;> cases h
    · cases h

theorem size_of_next_item {front : Within s} (h : next close first s = .ok (.item front)) :
    Utf8.size front.val + (if first then 0 else 1) ≤ Utf8.size s := by
  have hs := size_skipSpace_le s
  unfold next at h
  split at h
  · cases h
  · next d rest heq =>
    rw [heq] at hs
    split at h
    · cases h
    split at h
    · next hfirst =>
      cases h
      rwa [if_pos hfirst]
    split at h
    · split at h
      · cases h
      · next hfirst _ c more hmore =>
        split at h
        · cases h
        · cases h
          have ht := size_skipSpace_le rest
          have := d.utf8Size_pos
          rw [hmore] at ht
          rw [Utf8.size] at hs
          rw [if_neg hfirst]
          change Utf8.size (c :: more) + 1 ≤ Utf8.size s
          omega
    · cases h

section

variable {item : TextReader β} {b : β} {bs : List β}

theorem gives_items_nil
    (h : ∃ r : Rest s, next close first s = .ok (.closed r) ∧ r.val = rest) :
    Gives (items close item first s) [] rest := by
  obtain ⟨r, h, rfl⟩ := h
  rw [items, h]
  exact .of_eq rfl

theorem gives_items_cons {after : List Char}
    (h : ∃ front : Within s, next close first s = .ok (.item front) ∧ front.val = t)
    (hb : Gives (item t) b after) (hbs : Gives (items close item false after) bs rest) :
    Gives (items close item first s) (b :: bs) rest := by
  obtain ⟨front, h, rfl⟩ := h
  obtain ⟨_, hb⟩ := hb
  obtain ⟨_, hbs⟩ := hbs
  rw [items, h]
  dsimp only
  rw [hb]
  dsimp only
  rw [hbs]
  exact .of_eq rfl

/-- The size of items of sizes `weight`, with a comma for each. -/
def itemsSize (weight : β → Nat) : List β → Nat
  | [] => 0
  | b :: bs => weight b + 1 + itemsSize weight bs

/-- No text of items of sizes `weight` has fewer bytes than they have with the commas between them
and the mark that closes them. -/
theorem size_of_gives_items {weight : β → Nat}
    (hitem : ∀ {s b rest}, Gives (item s) b rest → weight b + Utf8.size rest ≤ Utf8.size s)
    (h : Gives (items close item first s) bs rest) :
    (if first then max 1 (itemsSize weight bs) else itemsSize weight bs + 1) + Utf8.size rest ≤
      Utf8.size s := by
  fun_induction items close item first s generalizing bs with
  | case1 => exact (Gives.not_error h).elim
  | case2 first s r hr =>
    obtain ⟨rfl, rfl⟩ := Gives.ok_iff.mp h
    have := size_of_next_closed hr
    simpa [itemsSize] using this
  | case3 => exact (Gives.not_error h).elim
  | case4 => exact (Gives.not_error h).elim
  | case5 first s front hfront b after hb bs' last hlast ih =>
    obtain ⟨rfl, rfl⟩ := Gives.ok_iff.mp h
    have hfirst := size_of_next_item hfront
    have hb := hitem (.of_eq hb)
    have hbs := ih (.of_eq hlast)
    simp only [itemsSize, Within.trans, Rest.trans, Bool.false_eq_true, if_false] at *
    cases first <;> simp only [Bool.false_eq_true, if_false, if_true] at hfirst ⊢ <;> omega

/-! ## Fields -/

theorem quoted_append (name : String) (rest : List Char) :
    quoted name ++ rest = '"' :: (name.toList.flatMap escape ++ '"' :: rest) := by
  simp [quoted]

theorem Quotes.gives_fieldName {numbers : List Char → Char → Prop} {unicode : TextReader Char}
    {name : String} (h : Quotes numbers name s) (hunicode : ReadsNumbers unicode numbers)
    (rest : List Char) : Gives (fieldName unicode (s ++ rest)) name rest := by
  obtain ⟨h⟩ := h
  rw [List.cons_append, List.append_assoc]
  exact (h.gives_stringTail hunicode rest).map fun _ => ⟨String.ofList_toList, rfl⟩

theorem Quotes.eq_cons {numbers : List Char → Char → Prop} {text : String}
    (h : Quotes numbers text s) : ∃ t, s = '"' :: t := by
  obtain ⟨_⟩ := h
  exact ⟨_, rfl⟩

theorem gives_fieldName (name : String) (rest : List Char) :
    Gives (fieldName unicodeEscape (quoted name ++ rest)) name rest :=
  (quotes_quoted name).gives_fieldName readsNumbers_unicodeEscape rest

theorem gives_field {name : String} (h : Gives (item s) b rest) :
    Gives (field unicodeEscape item (quoted name ++ ':' :: s)) (name, b) rest := by
  obtain ⟨_, hname⟩ := gives_fieldName name (':' :: s)
  rw [field, hname]
  exact (gives_andThen_iff.mpr ⟨(), s, gives_colon s, h⟩).map fun _ => ⟨rfl, rfl⟩

theorem size_quoted (name : String) :
    Utf8.size (quoted name) = Utf8.size (name.toList.flatMap escape) + 2 := by
  have hquote : '"'.utf8Size = 1 := rfl
  simp only [quoted, List.cons_append, Utf8.size, Utf8.size_append, hquote]
  omega

theorem size_of_gives_quoted {cs : List Char} (h : Gives (stringTail unicodeEscape s) cs rest) :
    Utf8.size (quoted (String.ofList cs)) + Utf8.size rest ≤ Utf8.size ('"' :: s) := by
  have hquote : '"'.utf8Size = 1 := rfl
  have := size_of_gives_stringTail h
  rw [size_quoted, String.toList_ofList, Utf8.size, hquote]
  omega

theorem size_of_gives_fieldName {name : String} (h : Gives (fieldName unicodeEscape s) name rest) :
    Utf8.size (quoted name) + Utf8.size rest ≤ Utf8.size s := by
  unfold fieldName at h
  split at h
  · exact (Gives.not_error h).elim
  · obtain ⟨cs, hcs, rfl⟩ :=
      (Gives.map_iff (g := String.ofList) fun _ _ => ⟨rfl, rfl⟩).mp h
    exact size_of_gives_quoted hcs
  · exact (Gives.not_error h).elim

theorem size_of_gives_colon {u : Unit} (h : Gives (colon s) u rest) :
    1 + Utf8.size rest ≤ Utf8.size s := by
  have h := gives_spaced_iff.mp h
  have hs := size_skipSpace_le s
  generalize skipSpace s = t at h hs
  unfold mark at h
  split at h
  · exact (Gives.not_error h).elim
  · next d later =>
    split at h
    · obtain ⟨-, rfl⟩ := Gives.ok_iff.mp h
      have := d.utf8Size_pos
      rw [Utf8.size] at hs
      simp only [Rest.tail]
      omega
    · exact (Gives.not_error h).elim

theorem size_of_gives_field {weight : β → Nat} {name : String}
    (hitem : ∀ {s b rest}, Gives (item s) b rest → weight b + Utf8.size rest ≤ Utf8.size s)
    (h : Gives (field unicodeEscape item s) (name, b) rest) :
    Utf8.size (quoted name) + 1 + weight b + Utf8.size rest ≤ Utf8.size s := by
  unfold field at h
  split at h
  · exact (Gives.not_error h).elim
  · next name' mid hname =>
    obtain ⟨b', hb, heq⟩ := (Gives.map_iff (g := (name', ·)) fun _ _ => ⟨rfl, rfl⟩).mp h
    cases heq
    obtain ⟨_, _, hcolon, hb⟩ := gives_andThen_iff.mp hb
    have := size_of_gives_fieldName (.of_eq hname)
    have := size_of_gives_colon hcolon
    have := hitem hb
    omega

end

end CloudScope.Json
