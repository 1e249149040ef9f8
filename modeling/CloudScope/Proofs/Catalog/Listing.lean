import CloudScope.Catalog.Listing
import CloudScope.Proofs.Json.Acceptance
import Mathlib.Data.List.Nodup

/-!
# Texts of listings

A list of services has many texts: the fields of a record stand in any order and among fields of
other names, a record may be an array, and white space and the spelling of strings are free. All of
them are read as that list (`Catalog.ofText_eq_ok_of_listingText`).
-/

namespace CloudScope.Catalog

open Json

/-! ## The texts of a listing -/

/-- The name of the field that fills a column. -/
def Column.name : Column → String
  | .serviceType => "Service Type"
  | .region => "Region"
  | .url => "URL"
  | .interface => "Interface"

/-- The cells of a service. -/
def serviceCells (s : Service) : Cells :=
  [(.serviceType, some s.serviceType), (.region, some s.cloud), (.url, some s.url),
    (.interface, s.interface)]

/-- The texts of a cell. -/
inductive CellText : Option String → List Char → Prop where
  | present {text : String} {k : List Char} : Quotes Numbers text k → CellText (some text) k
  | absent : CellText none "null".toList

/-- The texts of a field of a record: one that fills a cell, or one of another name, with any
value. -/
inductive FieldText : Option (Column × Option String) → List Char → Prop where
  | known {column : Column} {cell : Option String} {k : List Char} :
    Field (Quotes Numbers) CellText (column.name, cell) k → FieldText (some (column, cell)) k
  | unknown {name : String} {j : Json} {k : List Char} : (∀ column, name ≠ Column.name column) →
    Field (Quotes Numbers) Renders (name, j) k → FieldText none k

/-- Whether the fields of a record, in any order and among others, fill the cells of a service. The
interface may be left out if there is none. -/
def Fills (s : Service) (fields : List (Option (Column × Option String))) : Prop :=
  (fields.filterMap id).Perm (serviceCells s) ∨
    s.interface = none ∧ (fields.filterMap id).Perm ((serviceCells s).take 3)

/-- The texts of a record: an object of its fields, or an array of its cells, the last of which may
be left out if there is none. -/
inductive RecordText : Service → List Char → Prop where
  | object {s : Service} {fields : List (Option (Column × Option String))} {body : List Char} :
    Fills s fields → Sequence FieldText '}' fields body → RecordText s ('{' :: body)
  | array {s : Service} {body : List Char} :
    Sequence CellText ']' ((serviceCells s).map Prod.snd) body → RecordText s ('[' :: body)
  | shortArray {s : Service} {body : List Char} : s.interface = none →
    Sequence CellText ']' (((serviceCells s).take 3).map Prod.snd) body → RecordText s ('[' :: body)

/-- The texts of a list of services. -/
inductive ListingText : List Service → List Char → Prop where
  | mk {services : List Service} {w body w' : List Char} : Blank w → Blank w' →
    Sequence RecordText ']' services body → ListingText services (w ++ '[' :: (body ++ w'))

/-! ## Cells -/

variable {w p k s rest : List Char} {cell : Option String} {text : String} {cells : Cells}
  {column : Column} {service : Service} {fields : List (Option (Column × Option String))}

theorem gives_stringCell (hw : Blank w) (h : Quotes Numbers text k) (rest : List Char) :
    Gives (stringCell (w ++ (k ++ rest))) text rest := by
  obtain ⟨h⟩ := h
  rw [stringCell, hw.gives_spaced_iff, gives_spaced_iff, List.cons_append, List.append_assoc,
    skipSpace_cons rfl]
  exact (h.gives_stringTail readsNumbers_unicodeEscape rest).map fun _ =>
    ⟨String.ofList_toList, rfl⟩

theorem gives_optionalCell (hw : Blank w) (h : CellText cell k) (rest : List Char) :
    Gives (optionalCell (w ++ (k ++ rest))) cell rest := by
  rw [optionalCell, hw.gives_spaced_iff, gives_spaced_iff]
  cases h with
  | absent => exact gives_word ['u', 'l', 'l'] rest 'n' none
  | present h =>
    have hcell := gives_stringCell blank_nil h rest
    obtain ⟨t, rfl⟩ := h.eq_cons
    rw [List.cons_append, skipSpace_cons rfl]
    exact hcell.map fun _ => ⟨rfl, rfl⟩

theorem CellText.opens (h : CellText cell k) : Opens k := by
  cases h with
  | absent => exact ⟨'n', _, rfl, by decide⟩
  | present h =>
    obtain ⟨t, rfl⟩ := h.eq_cons
    exact ⟨'"', t, rfl, by decide⟩

/-! ## Records that are objects -/

theorem Column.ofName?_name (column : Column) : Column.ofName? column.name = some column := by
  cases column <;> rfl

theorem Column.ofName?_eq_none {name : String} (h : ∀ column, name ≠ Column.name column) :
    Column.ofName? name = none := by
  have htype := h .serviceType
  have hregion := h .region
  have hurl := h .url
  have hinterface := h .interface
  simp only [Column.name] at htype hregion hurl hinterface
  simp only [Column.ofName?]

theorem gives_recordField_known (h : Field (Quotes Numbers) CellText (column.name, cell) k)
    (hcell : cell = none → column = .interface) (hfree : cells.lookup column = none) :
    Gives (recordField cells (k ++ rest)) ((column, cell) :: cells) rest := by
  generalize hname : column.name = name at h
  obtain @⟨_, _, k, w, w', v, hk, hw, hw', hv⟩ := h
  subst hname
  obtain ⟨_, hread⟩ := hk.gives_fieldName readsNumbers_unicodeEscape
    (w ++ ':' :: (w' ++ (v ++ rest)))
  rw [List.append_assoc, List.append_assoc, List.cons_append, List.append_assoc, recordField, hread]
  simp only [Column.ofName?_name, hfree, Option.isSome_none, Bool.false_eq_true, if_false]
  refine (hw.gives_afterColon ?_).map fun _ => ⟨rfl, rfl⟩
  have hstring : column ≠ .interface →
      Gives ((stringCell (w' ++ (v ++ rest))).map fun (cell, r) => (some cell, r)) cell rest := by
    intro hcolumn
    cases hv with
    | absent => exact (hcolumn (hcell rfl)).elim
    | present hv =>
      exact (gives_stringCell hw' hv rest).map fun _ => ⟨rfl, rfl⟩
  cases column with
  | interface => exact gives_optionalCell hw' hv rest
  | serviceType | region | url => exact hstring (by decide)

theorem gives_recordField_unknown {name : String} {j : Json}
    (hname : ∀ column, name ≠ Column.name column) (h : Field (Quotes Numbers) Renders (name, j) k)
    (hrest : StartsIn stops rest) (cells : Cells) :
    Gives (recordField cells (k ++ rest)) cells rest := by
  obtain @⟨_, _, k, w, w', v, hk, hw, hw', hv⟩ := h
  obtain ⟨_, hread⟩ := hk.gives_fieldName readsNumbers_unicodeEscape
    (w ++ ':' :: (w' ++ (v ++ rest)))
  rw [List.append_assoc, List.append_assoc, List.cons_append, List.append_assoc, recordField, hread]
  simp only [Column.ofName?_eq_none hname]
  exact (hw.gives_afterColon (hv.gives_skipValue hw' hrest)).map fun _ => ⟨rfl, rfl⟩

theorem FieldText.opens {field : Option (Column × Option String)} (h : FieldText field k) :
    Opens k := by
  cases h with
  | known h | unknown _ h =>
    obtain ⟨hk, -, -, -⟩ := h
    exact hk.opens _

/-- Whether fields can be read behind cells that are filled: they fill no cell again, and only the
one of the interface may be empty. -/
structure Ahead (cells : Cells) (fields : List (Option (Column × Option String))) : Prop where
  nodup : ((fields.filterMap id ++ cells).map Prod.fst).Nodup
  filled : ∀ e ∈ fields.filterMap id, e.2 = none → e.1 = .interface

/-- One field is read into its cell, or passed over, and leaves the ones behind it readable. -/
theorem Ahead.gives_recordField {field : Option (Column × Option String)}
    (h : Ahead cells (field :: fields)) (hk : FieldText field k) :
    Ahead (field.toList ++ cells) fields ∧ Opens k ∧ ∀ {rest}, StartsIn stops rest →
      Gives (recordField cells (k ++ rest)) (field.toList ++ cells) rest := by
  obtain ⟨hnodup, hfilled⟩ := h
  have hopens := hk.opens
  cases hk with
  | unknown hname hk =>
    exact ⟨⟨hnodup, hfilled⟩, hopens, fun hrest => gives_recordField_unknown hname hk hrest cells⟩
  | @known column cell _ hk =>
    have hcons : (some (column, cell) :: fields).filterMap id =
        (column, cell) :: fields.filterMap id := rfl
    rw [hcons] at hnodup hfilled
    obtain ⟨hcell, hfilled⟩ := List.forall_mem_cons.mp hfilled
    have hperm : (fields.filterMap id ++ ([(column, cell)] ++ cells)).Perm
        ((column, cell) :: fields.filterMap id ++ cells) := List.perm_middle
    have hfree : cells.lookup column = none := by
      rw [List.lookup_eq_none_iff]
      intro e he
      rw [bne_iff_ne]
      intro heq
      exact (List.nodup_cons.mp hnodup).1
        (List.mem_map.mpr ⟨e, List.mem_append_right _ he, heq.symm⟩)
    exact ⟨⟨(hperm.map Prod.fst).nodup_iff.mpr hnodup, hfilled⟩, hopens,
      fun _ => gives_recordField_known hk hcell hfree⟩

/-- The cells that fields are read into, the last one first. -/
theorem foldl_toList_append : fields.foldl (fun cells field => field.toList ++ cells) cells =
    (fields.filterMap id).reverse ++ cells := by
  induction fields generalizing cells with
  | nil => rfl
  | cons field fields ih =>
    rw [List.foldl_cons, ih]
    cases field <;> simp

/-- The order of cells does not matter if none is filled twice. -/
theorem lookup_eq_of_perm {cells' : Cells} (h : cells.Perm cells')
    (hnodup : (cells.map Prod.fst).Nodup) (column : Column) :
    cells.lookup column = cells'.lookup column := by
  induction h with
  | nil => rfl
  | cons e _ ih => rw [List.lookup_cons, List.lookup_cons, ih (List.nodup_cons.mp hnodup).2]
  | swap e e' l =>
    obtain ⟨a, b⟩ := e
    obtain ⟨a', b'⟩ := e'
    have hne : a' ≠ a := fun heq => (List.nodup_cons.mp hnodup).1 (by simp [heq])
    simp only [List.lookup_cons]
    by_cases ha : column = a
    · subst ha
      simp only [beq_false_of_ne (Ne.symm hne), beq_self_eq_true]
    · simp only [beq_false_of_ne ha]
  | trans h _ ih ih' => exact (ih hnodup).trans (ih' ((h.map Prod.fst).nodup_iff.mp hnodup))

theorem Fills.exists_perm (h : Fills service fields) :
    ∃ l : Cells, (fields.filterMap id).Perm l ∧ l.Sublist (serviceCells service) ∧
      ∀ column, (l.lookup column).join = ((serviceCells service).lookup column).join := by
  rcases h with hperm | ⟨hnone, hperm⟩
  · exact ⟨_, hperm, .refl _, fun _ => rfl⟩
  · refine ⟨_, hperm, List.take_sublist _ _, fun column => ?_⟩
    cases column with
    | interface =>
      rw [serviceCells, hnone]
      rfl
    | serviceType | region | url => rfl

theorem Fills.ahead (h : Fills service fields) : Ahead [] fields := by
  obtain ⟨l, hperm, hsub, -⟩ := h.exists_perm
  have hnodup : ((serviceCells service).map Prod.fst).Nodup := by
    change [Column.serviceType, .region, .url, .interface].Nodup
    decide
  have hfilled : ∀ e ∈ serviceCells service, e.2 = none → e.1 = .interface := by
    simp [serviceCells]
  refine ⟨?_, fun e he => hfilled e (hsub.subset (hperm.subset he))⟩
  rw [List.append_nil, (hperm.map Prod.fst).nodup_iff]
  exact hnodup.sublist (hsub.map Prod.fst)

theorem Fills.ofCells?_eq (h : Fills service fields) (hperm : cells.Perm (fields.filterMap id)) :
    ofCells? cells = some service := by
  have hnodup := h.ahead.nodup
  rw [List.append_nil, ← (hperm.map Prod.fst).nodup_iff] at hnodup
  obtain ⟨l, hl, -, hlookup⟩ := h.exists_perm
  have hcell (column) :
      (cells.lookup column).join = ((serviceCells service).lookup column).join := by
    rw [lookup_eq_of_perm (hperm.trans hl) hnodup, hlookup]
  simp only [ofCells?, hcell]
  rfl

theorem gives_objectRecord {body : List Char} (h : Fills service fields)
    (hbody : Sequence FieldText '}' fields body) (rest : List Char) :
    Gives (objectRecord (body ++ rest)) service rest := by
  obtain ⟨_, hfold⟩ := gives_fold_of_sequence (fun hahead hk => hahead.gives_recordField hk)
    (.inr rfl) hbody h.ahead rest
  have hperm : (fields.foldl (fun cells field => field.toList ++ cells) []).Perm
      (fields.filterMap id) := by
    rw [foldl_toList_append, List.append_nil]
    exact List.reverse_perm _
  rw [objectRecord, hfold]
  simp only [h.ofCells?_eq hperm]
  exact .of_eq rfl

/-! ## Records that are arrays -/

theorem gives_arrayCell {first : Bool} {t : List Char}
    (h : ∃ front : Within s, next ']' first s = .ok (.item front) ∧ front.val = k ++ t)
    (hk : CellText (some text) k) : Gives (arrayCell first s) text t := by
  obtain ⟨front, hfront, hval⟩ := h
  cases hk with
  | present hk =>
    have hcell := gives_stringCell blank_nil hk t
    rw [List.nil_append, ← hval] at hcell
    rw [arrayCell, hfront]
    exact hcell.map fun _ => ⟨rfl, rfl⟩

theorem gives_lastCell_none
    (h : ∃ r : Rest s, next ']' false s = .ok (.closed r) ∧ r.val = rest) :
    Gives (lastCell s) none rest := by
  obtain ⟨r, hr, rfl⟩ := h
  rw [lastCell, hr]
  exact .of_eq rfl

theorem gives_lastCell (hw : Blank w)
    (h : ∃ front : Within s, next ']' false s = .ok (.item front) ∧
      front.val = k ++ (w ++ [']'] ++ rest)) (hk : CellText cell k) :
    Gives (lastCell s) cell rest := by
  obtain ⟨front, hfront, hval⟩ := h
  have hcell := gives_optionalCell blank_nil hk (w ++ [']'] ++ rest)
  rw [List.nil_append, ← hval] at hcell
  obtain ⟨_, hcell⟩ := hcell
  have hbracket : Gives (closingBracket (w ++ [']'] ++ rest)) () rest := by
    rw [List.append_assoc]
    exact hw.gives_spaced_iff.mpr (.of_eq rfl)
  rw [lastCell, hfront]
  simp only [hcell]
  exact hbracket.map fun _ => ⟨rfl, rfl⟩

/-- An array of cells is read as the record of these cells, if its end is read as the last one. -/
theorem gives_arrayRecord {type cloud url : String} {interface : Option String}
    {last : List (Option String)} {body : List Char}
    (hlast : ∀ {s}, Further CellText ']' last s → ∀ rest,
      Gives (lastCell (s ++ rest)) interface rest)
    (h : Sequence CellText ']' (some type :: some cloud :: some url :: last) body)
    (rest : List Char) : Gives (arrayRecord (body ++ rest)) ⟨type, cloud, url, interface⟩ rest := by
  have hstop : ']' ∈ stops := by decide
  have hcomma : ',' ≠ ']' := by decide
  obtain _ | @⟨w, p, s, _, _, hw, hp, hs⟩ := h
  obtain ⟨_, htype⟩ := gives_arrayCell (next_blank_item hw hp.opens hstop s rest) hp
  obtain _ | @⟨w, w', p, s, _, _, hw, hw', hp, hs⟩ := hs
  obtain ⟨_, hcloud⟩ := gives_arrayCell (next_blank_comma hw hw' hp.opens hstop hcomma s rest) hp
  obtain _ | @⟨w, w', p, s, _, _, hw, hw', hp, hs⟩ := hs
  obtain ⟨_, hurl⟩ := gives_arrayCell (next_blank_comma hw hw' hp.opens hstop hcomma s rest) hp
  rw [arrayRecord, htype]
  simp only [hcloud, hurl]
  exact (hlast hs rest).map fun _ => ⟨rfl, rfl⟩

theorem gives_lastCell_of_nil (h : Further CellText ']' [] s) (rest : List Char) :
    Gives (lastCell (s ++ rest)) none rest := by
  obtain ⟨hw⟩ := h
  exact gives_lastCell_none (next_blank_close hw (by decide) false rest)

theorem gives_lastCell_of_singleton (h : Further CellText ']' [cell] s) (rest : List Char) :
    Gives (lastCell (s ++ rest)) cell rest := by
  obtain _ | @⟨_, _, _, _, _, _, hw, hw', hp, hs⟩ := h
  obtain ⟨hlast⟩ := hs
  exact gives_lastCell hlast
    (next_blank_comma hw hw' hp.opens (by decide) (by decide) _ rest) hp

/-! ## Listings -/

theorem RecordText.opens (h : RecordText service k) : Opens k := by
  cases h with
  | object => exact ⟨'\x7b', _, rfl, by decide⟩
  | array | shortArray => exact ⟨'[', _, rfl, by decide⟩

theorem RecordText.gives_record (h : RecordText service k) (rest : List Char) :
    Gives (record (k ++ rest)) service rest := by
  have hobject {body : List Char} (h : Gives (objectRecord (body ++ rest)) service rest) :
      Gives (record ('{' :: body ++ rest)) service rest := by
    rw [record, gives_spaced_iff, List.cons_append, skipSpace_cons rfl]
    exact h.map fun _ => ⟨rfl, rfl⟩
  have harray {body : List Char} (h : Gives (arrayRecord (body ++ rest)) service rest) :
      Gives (record ('[' :: body ++ rest)) service rest := by
    rw [record, gives_spaced_iff, List.cons_append, skipSpace_cons rfl]
    exact h.map fun _ => ⟨rfl, rfl⟩
  cases h with
  | object hfills hbody => exact hobject (gives_objectRecord hfills hbody rest)
  | array hbody => exact harray (gives_arrayRecord gives_lastCell_of_singleton hbody rest)
  | shortArray hnone hbody =>
    have hrecord := gives_arrayRecord gives_lastCell_of_nil hbody rest
    rw [← hnone] at hrecord
    exact harray hrecord

theorem ListingText.complete_listing {services : List Service} (h : ListingText services s) :
    complete listing s = .ok services := by
  obtain @⟨w, body, w', hw, hw', hbody⟩ := h
  have hread : ReadsUpTo body.length record RecordText := fun hk _ =>
    ⟨hk.opens, fun {rest} _ => hk.gives_record rest⟩
  have hitems := gives_items_of_sequence hread (.inl rfl) hbody (Nat.le_refl _) w'
  refine hw'.complete_of_gives ?_
  rw [listing, hw.gives_spaced_iff, gives_spaced_iff, skipSpace_cons rfl]
  exact hitems.map fun _ => ⟨rfl, rfl⟩

/-- Every text of a list of services is read as that list. -/
theorem ofText_eq_ok_of_listingText {services : List Service} {text : String}
    (h : ListingText services text.toList) : ofText text = .ok ⟨services⟩ := by
  rw [ofText, h.complete_listing]
  rfl

/-- A record with its fields in another order, one of them under a spelled out name, and one that
is passed over with a number beyond floating point and half a surrogate pair in it; and a record
that is an array. -/
theorem ofText_eq_ok_of_listingText_mixed :
    let services : List Service :=
      [⟨"compute", "A", "http://a", none⟩, ⟨"image", "B", "http://b", none⟩]
    let text := "[\x7b\"Region\":\"A\", \"x\":[\x7b\"k\" :1e999\x7d,\"\\ud800\"]," ++
      "\"\\u0055RL\":\"http://a\",\"Service Type\":\"compute\"\x7d,\n" ++
      "[\"image\",\"B\",\"http://b\",null ] ]\t"
    ListingText services text.toList ∧ ofText text = .ok ⟨services⟩ := by
  intro services text
  have hspace : Blank [' '] := by decide
  have hline : Blank ['\n'] := by decide
  have htab : Blank ['\t'] := by decide
  have hone : IsWhole ['1'] := ⟨⟨by simp, by simp⟩, .inr (by simp)⟩
  have hexponent : IsExponent "e999".toList :=
    .inr ⟨'e', by decide, [], by decide, "999".toList, ⟨by simp, by simp⟩, rfl⟩
  have hunsigned : [] ∈ [[], ['-']] := by decide
  have hnumber : Renders (.number "1e999") ([] ++ (['1'] ++ ([] ++ "e999".toList))) :=
    .number (.mk hunsigned hone (.inl rfl) hexponent)
  have hhalf : NumbersAny "d800".toList '\ufffd' := ⟨rfl, 0xD800, by decide, _, _, _, _, rfl,
    .inl rfl, .inl rfl, .inl rfl, .inl rfl⟩
  have hsurrogate : Renders (.string "\ufffd") ('"' :: ("\\ud800".toList ++ ['"'])) :=
    .string (.mk (.number hhalf .nil))
  have hkey : Quotes NumbersAny "k" ('"' :: (['k'] ++ ['"'])) :=
    .mk (.plain (by decide) (by decide) (by decide) .nil)
  have hletter : Numbers "0055".toList 'U' := .unit ⟨by decide, _, _, _, _, rfl, .inl rfl, .inl rfl,
    .inl rfl, .inl rfl⟩
  have hurl : Quotes Numbers "URL" ('"' :: ("\\u0055RL".toList ++ ['"'])) :=
    .mk (.number hletter (.plain (by decide) (by decide) (by decide)
      (.plain (by decide) (by decide) (by decide) .nil)))
  have hother : ∀ column, "x" ≠ Column.name column := fun column => by cases column <;> decide
  have hunknown : FieldText none _ :=
    .unknown hother (.mk (quotes_quoted "x") blank_nil blank_nil
      (.array (.items blank_nil (.object (.items blank_nil (.mk hkey hspace blank_nil hnumber)
        (.close blank_nil))) (.comma blank_nil blank_nil hsurrogate (.close blank_nil)))))
  have hregion : FieldText (some (.region, some "A")) _ :=
    .known (.mk (quotes_quoted "Region") blank_nil blank_nil (.present (quotes_quoted "A")))
  have haddress : FieldText (some (.url, some "http://a")) _ :=
    .known (.mk hurl blank_nil blank_nil (.present (quotes_quoted "http://a")))
  have htype : FieldText (some (.serviceType, some "compute")) _ :=
    .known (.mk (quotes_quoted "Service Type") blank_nil blank_nil
      (.present (quotes_quoted "compute")))
  have hfills : Fills ⟨"compute", "A", "http://a", none⟩ [some (.region, some "A"), none,
      some (.url, some "http://a"), some (.serviceType, some "compute")] :=
    .inr ⟨rfl, by decide⟩
  have hobject : RecordText ⟨"compute", "A", "http://a", none⟩ _ :=
    .object hfills (.items blank_nil hregion (.comma blank_nil hspace hunknown
      (.comma blank_nil blank_nil haddress (.comma blank_nil blank_nil htype (.close blank_nil)))))
  have harray : RecordText ⟨"image", "B", "http://b", none⟩ _ :=
    .array (.items blank_nil (.present (quotes_quoted "image"))
      (.comma blank_nil blank_nil (.present (quotes_quoted "B"))
      (.comma blank_nil blank_nil (.present (quotes_quoted "http://b"))
      (.comma blank_nil blank_nil .absent (.close hspace)))))
  obtain ⟨s, hlisting, hs⟩ : ∃ s, ListingText services s ∧ s = text.toList :=
    ⟨_, .mk blank_nil htab (.items blank_nil hobject
      (.comma blank_nil hline harray (.close hspace))), by decide +kernel⟩
  rw [hs] at hlisting
  exact ⟨hlisting, ofText_eq_ok_of_listingText hlisting⟩

end CloudScope.Catalog
