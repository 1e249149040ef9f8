import CloudScope.Http.Message
import CloudScope.Proofs.Http.Distinct
import CloudScope.Proofs.Http.ScopeHeader
import Mathlib

/-!
# Headers over time

Whatever is put into headers and taken out of them, they are a map from folded names to values. The
entry of a name stands where the name came in since it was last taken out, and keeps the spelling
of that time (`Headers.entries_run`).
-/

namespace CloudScope.Headers

/-! ## Changes -/

/-- What is done to headers. -/
inductive Change where
  | insert (name value : String)
  | remove (name : String)
deriving DecidableEq, Repr

def apply (h : Headers) : Change → Headers
  | .insert name value => h.insert name value
  | .remove name => (h.remove name).2

/-- Makes changes one after the other. -/
def run (h : Headers) (changes : List Change) : Headers :=
  changes.foldl apply h

/-- The changes that put entries in one after the other. -/
def insertions (entries : List (String × String)) : List Change :=
  entries.map fun e => .insert e.1 e.2

/-- A map from folded names to values. -/
abbrev Table := String → Option String

def Table.apply (m : Table) : Change → Table
  | .insert name value => Function.update m (foldName name) (some value)
  | .remove name => Function.update m (foldName name) none

/-- The map that changes make from the one that holds nothing. -/
def table (changes : List Change) : Table :=
  changes.foldl Table.apply fun _ => none

variable {h : Headers} {m : Table} {changes : List Change} {change : Change}
  {name other value : String} {time t : Nat} {e : String × String} {l : List (String × String)}

/-! ## Entries of distinct names -/

/-- A value that is put under a name that is there replaces what is there, and nothing else. -/
theorem insertEntry_of_mem (hl : l.Pairwise fun a b => ¬ SameName a.1 b.1)
    (hmem : ∃ e ∈ l, SameName e.1 name) : insertEntry name value l =
      l.map fun e => if SameName e.1 name then (e.1, value) else e := by
  induction l with
  | nil => simp at hmem
  | cons e l ih =>
    obtain ⟨he, hl⟩ := List.pairwise_cons.mp hl
    rw [insertEntry, List.map_cons]
    split
    · next hname =>
      have hrest : ∀ d ∈ l, ¬ SameName d.1 name := fun d hd hsame =>
        he d hd (hname.trans hsame.symm)
      rw [List.map_congr_left fun d hd => if_neg (hrest d hd), List.map_id']
    · next hname =>
      obtain ⟨d, hd, hsame⟩ := hmem
      rcases List.mem_cons.mp hd with rfl | hd
      · exact absurd hsame hname
      · rw [ih hl ⟨d, hd, hsame⟩]

theorem insertEntry_of_forall_not (hl : ∀ e ∈ l, ¬ SameName e.1 name) :
    insertEntry name value l = l ++ [(name, value)] := by
  induction l with
  | nil => rfl
  | cons e l ih =>
    obtain ⟨he, hl⟩ := List.forall_mem_cons.mp hl
    rw [insertEntry, if_neg he, ih hl, List.cons_append]

theorem toList_erase (hdistinct : h.Distinct) (name : String) :
    (h.erase name).toList = h.toList.filter fun e => ¬ SameName e.1 name := by
  obtain ⟨l⟩ := h
  simp only [Distinct, erase] at *
  induction l with
  | nil => rfl
  | cons e l ih =>
    obtain ⟨he, hl⟩ := List.pairwise_cons.mp hdistinct
    by_cases hname : SameName e.1 name
    · have hrest : ∀ d ∈ l, ¬ SameName d.1 name := fun d hd hsame =>
        he d hd (hname.trans hsame.symm)
      rw [List.eraseP_cons_of_pos (by simpa using hname),
        List.filter_cons_of_neg (by simpa using hname),
        List.filter_eq_self.mpr fun d hd => by simpa using hrest d hd]
    · rw [List.eraseP_cons_of_neg (by simpa using hname),
        List.filter_cons_of_pos (by simpa using hname), ih hl]

theorem remove_eq (h : Headers) (name : String) : h.remove name = (h.get? name, h.erase name) := by
  obtain ⟨l⟩ := h
  rw [remove, get?, erase, List.eraseP_eq_eraseIdx, List.find?_eq_bind_findIdx?_getElem?]
  cases l.findIdx? fun e => SameName e.1 name <;> rfl

theorem run_concat (h : Headers) (changes : List Change) (change : Change) :
    h.run (changes ++ [change]) = (h.run changes).apply change :=
  List.foldl_concat ..

theorem table_concat (changes : List Change) (change : Change) :
    table (changes ++ [change]) = (table changes).apply change :=
  List.foldl_concat ..

theorem run_append (h : Headers) (before after : List Change) :
    h.run (before ++ after) = (h.run before).run after :=
  List.foldl_append

theorem run_insertions (h : Headers) (entries : List (String × String)) :
    h.run (insertions entries) = h.insertAll entries :=
  List.foldl_map

/-! ## Values -/

/-- Whether headers hold the values of a map, each under one name. -/
structure Holds (h : Headers) (m : Table) : Prop where
  distinct : h.Distinct
  get?_eq : ∀ name, h.get? name = m (foldName name)

theorem holds_empty : Holds ∅ fun _ => none where
  distinct := distinct_empty
  get?_eq _ := rfl

theorem get?_congr (hsame : SameName name other) (h : Headers) : h.get? name = h.get? other := by
  have hnames : (fun e : String × String => decide (SameName e.1 name)) =
      fun e => decide (SameName e.1 other) :=
    funext fun e => decide_eq_decide.mpr
      ⟨fun he => he.trans hsame, fun he => he.trans hsame.symm⟩
  rw [get?, get?, hnames]

theorem get?_eq_none_iff : h.get? name = none ↔ ∀ e ∈ h.toList, ¬ SameName e.1 name := by
  simp [get?]

theorem Holds.apply (hholds : h.Holds m) (change : Change) :
    (h.apply change).Holds (m.apply change) := by
  cases change with
  | insert name value =>
    refine ⟨hholds.distinct.insert name value, fun other => ?_⟩
    rw [Headers.apply, Table.apply]
    by_cases hsame : SameName name other
    · rw [← get?_congr hsame, get?_insert_self, ← hsame, Function.update_self]
    · rw [get?_insert_of_not_sameName hsame, hholds.get?_eq, Function.update_of_ne (Ne.symm hsame)]
  | remove name =>
    rw [Headers.apply, Table.apply, remove_eq]
    refine ⟨hholds.distinct.erase name, fun other => ?_⟩
    by_cases hsame : SameName name other
    · rw [← get?_congr hsame, get?_erase_self hholds.distinct, ← hsame, Function.update_self]
    · rw [get?_erase_of_not_sameName hsame, hholds.get?_eq, Function.update_of_ne (Ne.symm hsame)]

theorem holds_run (changes : List Change) : Holds (run ∅ changes) (table changes) := by
  induction changes using List.reverseRecOn with
  | nil => exact holds_empty
  | append_singleton changes change ih =>
    rw [run_concat, table_concat]
    exact ih.apply change

/-! ## Times -/

/-- Whether all that was put in under a name has been taken out again. -/
def IsOut (changes : List Change) (name : String) : Prop :=
  ∀ (t : Nat) other value, changes[t]? = some (.insert other value) → SameName other name →
    ∃ u other', t < u ∧ changes[u]? = some (.remove other') ∧ SameName other' name

/-- Whether a name came in at a time, as it was spelled then, and is still there. -/
structure EntersAt (changes : List Change) (time : Nat) (name : String) : Prop where
  enters : ∃ value, changes[time]? = some (.insert name value)
  /-- It was the first insertion since the last removal. -/
  first : IsOut (changes.take time) name
  stays : ∀ t other, time < t → changes[t]? = some (.remove other) → ¬ SameName other name

theorem getElem?_concat_eq_some_iff {x : Change} :
    (changes ++ [change])[t]? = some x ↔ changes[t]? = some x ∨ t = changes.length ∧ x = change := by
  grind

theorem isOut_concat_insert :
    IsOut (changes ++ [.insert other value]) name ↔ ¬ SameName other name ∧ IsOut changes name := by
  constructor
  · intro hout
    refine ⟨fun hsame => ?_, fun t other' value' ht hsame => ?_⟩
    · -- nothing comes after the last change
      obtain ⟨u, _, hu, hremove, _⟩ := hout changes.length other value (by simp) hsame
      have hlast := (List.getElem?_eq_some_iff.mp hremove).1
      simp only [List.length_append, List.length_singleton] at hlast
      omega
    · obtain ⟨u, name', hu, hremove, hname'⟩ :=
        hout t other' value' (getElem?_concat_eq_some_iff.mpr (.inl ht)) hsame
      rcases getElem?_concat_eq_some_iff.mp hremove with hremove | ⟨_, hinsert⟩
      · exact ⟨u, name', hu, hremove, hname'⟩
      · cases hinsert
  · rintro ⟨hother, hout⟩ t other' value' ht hsame
    rcases getElem?_concat_eq_some_iff.mp ht with ht | ⟨_, hinsert⟩
    · obtain ⟨u, name', hu, hremove, hname'⟩ := hout t other' value' ht hsame
      exact ⟨u, name', hu, getElem?_concat_eq_some_iff.mpr (.inl hremove), hname'⟩
    · cases hinsert
      exact absurd hsame hother

theorem isOut_concat_remove :
    IsOut (changes ++ [.remove other]) name ↔ SameName other name ∨ IsOut changes name := by
  constructor
  · intro hout
    refine or_iff_not_imp_left.mpr fun hother t other' value' ht hsame => ?_
    obtain ⟨u, name', hu, hremove, hname'⟩ :=
      hout t other' value' (getElem?_concat_eq_some_iff.mpr (.inl ht)) hsame
    rcases getElem?_concat_eq_some_iff.mp hremove with hremove | ⟨_, hlast⟩
    · exact ⟨u, name', hu, hremove, hname'⟩
    · cases hlast
      exact absurd hname' hother
  · rintro hout t other' value' ht hsame
    rcases getElem?_concat_eq_some_iff.mp ht with ht | ⟨_, hinsert⟩
    · rcases hout with hother | hout
      · exact ⟨changes.length, other, (List.getElem?_eq_some_iff.mp ht).1, by simp, hother⟩
      · obtain ⟨u, name', hu, hremove, hname'⟩ := hout t other' value' ht hsame
        exact ⟨u, name', hu, getElem?_concat_eq_some_iff.mpr (.inl hremove), hname'⟩
    · cases hinsert

theorem table_concat_insert (changes : List Change) (other value name : String) :
    table (changes ++ [.insert other value]) (foldName name) =
      if SameName other name then some value else table changes (foldName name) := by
  rw [table_concat]
  exact (Function.update_apply ..).trans (if_congr eq_comm rfl rfl)

theorem table_concat_remove (changes : List Change) (other name : String) :
    table (changes ++ [.remove other]) (foldName name) =
      if SameName other name then none else table changes (foldName name) := by
  rw [table_concat]
  exact (Function.update_apply ..).trans (if_congr eq_comm rfl rfl)

theorem table_eq_none_iff : table changes (foldName name) = none ↔ IsOut changes name := by
  induction changes using List.reverseRecOn with
  | nil => simp [table, IsOut]
  | append_singleton changes change ih =>
    cases change with
    | insert other value =>
      rw [table_concat_insert, isOut_concat_insert, ← ih]
      by_cases hsame : SameName other name <;> simp [hsame]
    | remove other =>
      rw [table_concat_remove, isOut_concat_remove, ← ih]
      by_cases hsame : SameName other name <;> simp [hsame]

theorem EntersAt.lt (h : EntersAt changes time name) : time < changes.length := by
  obtain ⟨_, h⟩ := h.enters
  exact (List.getElem?_eq_some_iff.mp h).1

theorem IsOut.congr (hout : IsOut changes name) (hsame : SameName name other) :
    IsOut changes other := by
  intro t other' value' ht hother'
  obtain ⟨u, name', hu, hremove, hname'⟩ := hout t other' value' ht (hother'.trans hsame.symm)
  exact ⟨u, name', hu, hremove, hname'.trans hsame⟩

theorem EntersAt.not_isOut (h : EntersAt changes time name) : ¬ IsOut changes name := by
  intro hout
  obtain ⟨value, henters⟩ := h.enters
  obtain ⟨u, other, hu, hremove, hother⟩ := hout time name value henters rfl
  exact h.stays u other hu hremove hother

theorem entersAt_concat_insert : EntersAt (changes ++ [.insert other value]) time name ↔
    EntersAt changes time name ∨ time = changes.length ∧ name = other ∧ IsOut changes other := by
  constructor
  · rintro ⟨⟨value', henters⟩, hfirst, hstays⟩
    rcases getElem?_concat_eq_some_iff.mp henters with henters | ⟨rfl, hinsert⟩
    · have htime := (List.getElem?_eq_some_iff.mp henters).1
      rw [List.take_append_of_le_length htime.le] at hfirst
      exact .inl ⟨⟨value', henters⟩, hfirst, fun t other' ht hremove =>
        hstays t other' ht (getElem?_concat_eq_some_iff.mpr (.inl hremove))⟩
    · cases hinsert
      rw [List.take_left] at hfirst
      exact .inr ⟨rfl, rfl, hfirst⟩
  · rintro (h | ⟨rfl, rfl, hout⟩)
    · refine ⟨?_, ?_, fun t other' ht hremove => ?_⟩
      · obtain ⟨value', henters⟩ := h.enters
        exact ⟨value', getElem?_concat_eq_some_iff.mpr (.inl henters)⟩
      · rw [List.take_append_of_le_length h.lt.le]
        exact h.first
      · rcases getElem?_concat_eq_some_iff.mp hremove with hremove | ⟨_, hinsert⟩
        · exact h.stays t other' ht hremove
        · cases hinsert
    · refine ⟨⟨value, by simp⟩, by rwa [List.take_left], fun t other' ht hremove => ?_⟩
      have hlast := (List.getElem?_eq_some_iff.mp hremove).1
      simp only [List.length_append, List.length_singleton] at hlast
      omega

theorem entersAt_concat_remove : EntersAt (changes ++ [.remove other]) time name ↔
    EntersAt changes time name ∧ ¬ SameName other name := by
  constructor
  · rintro ⟨⟨value', henters⟩, hfirst, hstays⟩
    rcases getElem?_concat_eq_some_iff.mp henters with henters | ⟨_, hinsert⟩
    · have htime := (List.getElem?_eq_some_iff.mp henters).1
      rw [List.take_append_of_le_length htime.le] at hfirst
      exact ⟨⟨⟨value', henters⟩, hfirst, fun t other' ht hremove =>
          hstays t other' ht (getElem?_concat_eq_some_iff.mpr (.inl hremove))⟩,
        hstays changes.length other htime (by simp)⟩
    · cases hinsert
  · rintro ⟨h, hother⟩
    refine ⟨?_, ?_, fun t other' ht hremove => ?_⟩
    · obtain ⟨value', henters⟩ := h.enters
      exact ⟨value', getElem?_concat_eq_some_iff.mpr (.inl henters)⟩
    · rw [List.take_append_of_le_length h.lt.le]
      exact h.first
    · rcases getElem?_concat_eq_some_iff.mp hremove with hremove | ⟨_, hlast⟩
      · exact h.stays t other' ht hremove
      · cases hlast
        exact hother

/-! ## Entries with their times -/

/-- Whether entries stand in the order in which their names came in, as they were spelled then, and
with the values of the map. -/
structure Dates (changes : List Change) (dated : List (Nat × String × String)) : Prop where
  ascending : dated.Pairwise fun a b => a.1 < b.1
  mem_iff : ∀ time name value, (time, name, value) ∈ dated ↔
    EntersAt changes time name ∧ table changes (foldName name) = some value

variable {dated : List (Nat × String × String)}

theorem dates_nil : Dates [] [] where
  ascending := .nil
  mem_iff time name value := by
    refine iff_of_false List.not_mem_nil ?_
    rintro ⟨h, -⟩
    exact absurd h.lt (Nat.not_lt_zero time)

/-- A name that is out comes in at the end. -/
theorem Dates.insert_of_isOut (hdates : Dates changes dated) (hout : IsOut changes name)
    (value : String) : Dates (changes ++ [.insert name value])
      (dated ++ [(changes.length, name, value)]) where
  ascending := by
    refine List.pairwise_append.mpr ⟨hdates.ascending, List.pairwise_singleton .., ?_⟩
    rintro ⟨time, other, value'⟩ hmem d hd
    rw [List.mem_singleton.mp hd]
    exact ((hdates.mem_iff time other value').mp hmem).1.lt
  mem_iff time other value' := by
    rw [List.mem_append, List.mem_singleton, hdates.mem_iff, entersAt_concat_insert,
      table_concat_insert]
    by_cases hsame : SameName name other
    · have hbefore : ¬ EntersAt changes time other := fun h => h.not_isOut (hout.congr hsame)
      rw [if_pos hsame]
      grind
    · have hne : other ≠ name := fun heq => hsame (congrArg foldName heq.symm)
      rw [if_neg hsame]
      grind

/-- A name that is there gets the new value, and nothing moves. -/
theorem Dates.insert_of_not_isOut (hdates : Dates changes dated) (hin : ¬ IsOut changes name)
    (value : String) : Dates (changes ++ [.insert name value])
      (dated.map fun d => if SameName d.2.1 name then (d.1, d.2.1, value) else d) where
  ascending := by
    refine List.pairwise_map.mpr (hdates.ascending.imp fun {a b} hlt => ?_)
    split <;> split <;> exact hlt
  mem_iff time other value' := by
    have henters : EntersAt (changes ++ [.insert name value]) time other ↔
        EntersAt changes time other := by
      rw [entersAt_concat_insert]
      exact or_iff_left fun h => hin h.2.2
    rw [List.mem_map, henters, table_concat_insert]
    by_cases hsame : SameName name other
    · have hthere : table changes (foldName other) ≠ none := fun hnone =>
        hin ((table_eq_none_iff.mp hnone).congr hsame.symm)
      obtain ⟨old, hold⟩ := Option.ne_none_iff_exists'.mp hthere
      rw [if_pos hsame]
      constructor
      · rintro ⟨⟨time', other', old'⟩, hmem, hd⟩
        split at hd
        · cases hd
          exact ⟨((hdates.mem_iff ..).mp hmem).1, rfl⟩
        · next hother =>
          cases hd
          exact absurd hsame.symm hother
      · rintro ⟨h, hvalue⟩
        cases hvalue
        exact ⟨(time, other, old), (hdates.mem_iff ..).mpr ⟨h, hold⟩, if_pos hsame.symm⟩
    · rw [if_neg hsame, ← hdates.mem_iff]
      constructor
      · rintro ⟨⟨time', other', old'⟩, hmem, hd⟩
        split at hd
        · next hother =>
          cases hd
          exact absurd hother.symm hsame
        · cases hd
          exact hmem
      · exact fun hmem => ⟨(time, other, value'), hmem, if_neg fun h => hsame h.symm⟩

/-- A name that is taken out takes nothing else along. -/
theorem Dates.remove (hdates : Dates changes dated) (name : String) :
    Dates (changes ++ [.remove name]) (dated.filter fun d => ¬ SameName d.2.1 name) where
  ascending := hdates.ascending.filter _
  mem_iff time other value := by
    have hcomm : SameName other name ↔ SameName name other := eq_comm
    rw [List.mem_filter, hdates.mem_iff, entersAt_concat_remove, table_concat_remove]
    by_cases hsame : SameName name other <;> simp [hsame, hcomm]

theorem isOut_iff_forall_not :
    IsOut changes name ↔ ∀ e ∈ (run ∅ changes).toList, ¬ SameName e.1 name := by
  rw [← table_eq_none_iff, ← (holds_run changes).get?_eq, get?_eq_none_iff]

/-- The entries of headers, with the times at which their names came in. -/
theorem exists_dates (changes : List Change) :
    ∃ dated, Dates changes dated ∧ dated.map Prod.snd = (run ∅ changes).toList := by
  induction changes using List.reverseRecOn with
  | nil => exact ⟨[], dates_nil, rfl⟩
  | append_singleton changes change ih =>
    obtain ⟨dated, hdates, hlist⟩ := ih
    have hholds := holds_run changes
    rw [run_concat]
    cases change with
    | insert name value =>
      rw [Headers.apply, Headers.insert]
      by_cases hout : IsOut changes name
      · refine ⟨_, hdates.insert_of_isOut hout value, ?_⟩
        rw [insertEntry_of_forall_not (isOut_iff_forall_not.mp hout), List.map_append, hlist]
        rfl
      · refine ⟨_, hdates.insert_of_not_isOut hout value, ?_⟩
        have hthere : ∃ e ∈ (run ∅ changes).toList, SameName e.1 name := by
          simpa using isOut_iff_forall_not.not.mp hout
        rw [insertEntry_of_mem hholds.distinct hthere, ← hlist, List.map_map, List.map_map]
        refine List.map_congr_left fun d _ => ?_
        rw [Function.comp_apply, Function.comp_apply]
        split <;> rfl
    | remove name =>
      refine ⟨_, hdates.remove name, ?_⟩
      rw [Headers.apply, remove_eq, toList_erase hholds.distinct, ← hlist, List.filter_map]
      rfl

/-- After any changes the entries of headers have distinct names, and the values under names, also
those that are taken out, are the ones of the map from folded names on which the same is done. The
entries stand in the order in which their names came in since they were last taken out, as they were
spelled then. Making headers from entries, and putting headers into a request, is putting entries
in one after the other. -/
theorem entries_run (changes : List Change) :
    let h := run ∅ changes
    (h.toList.Pairwise fun a b => ¬ SameName a.1 b.1) ∧
    (∀ name, h.get? name = table changes (foldName name) ∧
      h.contains name = (table changes (foldName name)).isSome ∧
      (h.remove name).1 = table changes (foldName name)) ∧
    (∃ dated : List (Nat × String × String), dated.map Prod.snd = h.toList ∧
      (dated.Pairwise fun a b => a.1 < b.1) ∧
      ∀ time name value, (time, name, value) ∈ dated ↔
        EntersAt changes time name ∧ table changes (foldName name) = some value) ∧
    (∀ entries, ofList entries = run ∅ (insertions entries)) ∧
    ∀ method url added, ((Request.mk method url h).withHeaders added).headers =
      run ∅ (changes ++ insertions added.toList) := by
  intro h
  have hholds : h.Holds (table changes) := holds_run changes
  obtain ⟨dated, hdates, hlist⟩ := exists_dates changes
  refine ⟨hholds.distinct, fun name => ⟨hholds.get?_eq name, ?_, ?_⟩,
    ⟨dated, hlist, hdates.ascending, hdates.mem_iff⟩, fun entries => ?_, fun method url added => ?_⟩
  · rw [contains, hholds.get?_eq]
  · rw [remove_eq, hholds.get?_eq]
  · exact (run_insertions ∅ entries).symm
  · rw [run_append, run_insertions]
    rfl

/-- A name that comes back is spelled anew and stands at the end. -/
example : (run ∅ [.insert "A" "1", .insert "B" "2", .insert "a" "3", .remove "b", .insert "b" "4",
    .remove "A", .insert "a" "5"]).toList = [("b", "4"), ("a", "5")] := by
  decide

end CloudScope.Headers
