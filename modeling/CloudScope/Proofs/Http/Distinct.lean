import CloudScope.Http.Headers

/-!
# Headers with one value for each name

No two entries of headers have one name, whatever is put into headers and taken out of them. So a
name that is taken out has no value any more (`Headers.get?_erase_self`).
-/

namespace CloudScope.Headers

variable {h : Headers} {name other value : String} {e : String × String}
  {l : List (String × String)}

/-- Whether the names of all entries differ by more than the case of their letters. -/
def Distinct (h : Headers) : Prop :=
  h.toList.Pairwise fun a b => ¬ SameName a.1 b.1

instance (h : Headers) : Decidable h.Distinct :=
  inferInstanceAs (Decidable (h.toList.Pairwise fun a b => ¬ SameName a.1 b.1))

theorem distinct_empty : Distinct ∅ :=
  .nil

/-- The entries after an insertion have the names that there were, and the new one. -/
theorem name_of_mem_insertEntry (h : e ∈ insertEntry name value l) :
    e.1 = name ∨ ∃ d ∈ l, d.1 = e.1 := by
  induction l with
  | nil => exact .inl (by rw [List.mem_singleton.mp h])
  | cons d l ih =>
    rw [insertEntry] at h
    split at h
    · rcases List.mem_cons.mp h with rfl | h
      · exact .inr ⟨d, List.mem_cons_self, rfl⟩
      · exact .inr ⟨e, List.mem_cons_of_mem d h, rfl⟩
    · rcases List.mem_cons.mp h with rfl | h
      · exact .inr ⟨e, List.mem_cons_self, rfl⟩
      · rcases ih h with h | ⟨d', hd', h⟩
        · exact .inl h
        · exact .inr ⟨d', List.mem_cons_of_mem d hd', h⟩

theorem Distinct.insert (hdistinct : h.Distinct) (name value : String) :
    (h.insert name value).Distinct := by
  obtain ⟨l⟩ := h
  simp only [Distinct, Headers.insert] at *
  induction l with
  | nil => exact List.pairwise_singleton _ _
  | cons e l ih =>
    obtain ⟨he, hl⟩ := List.pairwise_cons.mp hdistinct
    rw [insertEntry]
    split
    · exact List.pairwise_cons.mpr ⟨he, hl⟩
    · next hname =>
      refine List.pairwise_cons.mpr ⟨fun d hd => ?_, ih hl⟩
      rcases name_of_mem_insertEntry hd with hd | ⟨d', hd', hd⟩
      · exact hd ▸ hname
      · exact hd ▸ he d' hd'

theorem Distinct.erase (hdistinct : h.Distinct) (name : String) : (h.erase name).Distinct :=
  List.Pairwise.sublist List.eraseP_sublist hdistinct

theorem Distinct.insertAll (hdistinct : h.Distinct) (entries : List (String × String)) :
    (h.insertAll entries).Distinct := by
  induction entries generalizing h with
  | nil => exact hdistinct
  | cons e entries ih => exact ih (hdistinct.insert e.1 e.2)

theorem distinct_ofList (entries : List (String × String)) : (ofList entries).Distinct :=
  distinct_empty.insertAll entries

theorem get?_erase_self (hdistinct : h.Distinct) (name : String) :
    (h.erase name).get? name = none := by
  obtain ⟨l⟩ := h
  simp only [Distinct, get?, Headers.erase, Option.map_eq_none_iff, List.find?_eq_none] at *
  induction l with
  | nil => simp
  | cons e l ih =>
    obtain ⟨he, hl⟩ := List.pairwise_cons.mp hdistinct
    by_cases hname : SameName e.1 name
    · rw [List.eraseP_cons_of_pos (by simpa using hname)]
      intro d hd hsame
      exact he d hd (hname.trans (of_decide_eq_true hsame).symm)
    · rw [List.eraseP_cons_of_neg (by simpa using hname)]
      intro d hd
      rcases List.mem_cons.mp hd with rfl | hd
      · simpa using hname
      · exact ih hl d hd

theorem get?_erase_of_not_sameName (hne : ¬ SameName name other) (h : Headers) :
    (h.erase name).get? other = h.get? other := by
  obtain ⟨l⟩ := h
  simp only [get?, Headers.erase]
  induction l with
  | nil => rfl
  | cons e l ih =>
    by_cases hname : SameName e.1 name
    · have hother : ¬ SameName e.1 other := fun hsame => hne (hname.symm.trans hsame)
      rw [List.eraseP_cons_of_pos (by simpa using hname),
        List.find?_cons_of_neg (by simpa using hother)]
    · rw [List.eraseP_cons_of_neg (by simpa using hname)]
      by_cases hother : SameName e.1 other
      · rw [List.find?_cons_of_pos (by simpa using hother),
          List.find?_cons_of_pos (by simpa using hother)]
      · rwa [List.find?_cons_of_neg (by simpa using hother),
          List.find?_cons_of_neg (by simpa using hother)]

end CloudScope.Headers
