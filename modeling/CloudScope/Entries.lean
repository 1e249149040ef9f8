/-!
# Entries in ascending order of their keys

Lists of keyed values that hold each key at most once, the least key first. Keys are ordered by
code point, which is also the order of their UTF-8 bytes.
-/

namespace CloudScope.Entries

variable {β : Type} {k key : String} {v value : β} {l : List (String × β)}

/-- Each key lies below every later one. -/
abbrev Ascending (l : List (String × β)) : Prop := l.Pairwise (·.1 < ·.1)

/-- Puts a value under a key, in place of the value that is there. -/
def insert (key : String) (value : β) : List (String × β) → List (String × β)
  | [] => [(key, value)]
  | (k, v) :: l =>
    if key < k then (key, value) :: (k, v) :: l
    else if key = k then (key, value) :: l
    else (k, v) :: insert key value l

/-- Takes out what is under a key. -/
def erase (key : String) (l : List (String × β)) : List (String × β) :=
  l.filter (·.1 ≠ key)

def find? (key : String) : List (String × β) → Option β
  | [] => none
  | (k, v) :: l => if k = key then some v else find? key l

/-- The entries of a list, the last one of each key. -/
def ofList (l : List (String × β)) : List (String × β) :=
  l.foldl (fun m e => insert e.1 e.2 m) []

theorem eq_or_mem_of_mem_insert {e : String × β} (h : e ∈ insert key value l) :
    e = (key, value) ∨ e ∈ l := by
  induction l with
  | nil => simpa [insert] using h
  | cons a l ih =>
    simp only [insert] at h
    split at h
    · simpa using h
    · split at h
      · rcases List.mem_cons.1 h with h | h
        · exact .inl h
        · exact .inr (List.mem_cons_of_mem _ h)
      · rcases List.mem_cons.1 h with h | h
        · exact .inr (by simp [h])
        · rcases ih h with h | h
          · exact .inl h
          · exact .inr (List.mem_cons_of_mem _ h)

theorem lt_of_not_lt_of_ne {a b : String} (h : ¬a < b) (hne : a ≠ b) : b < a := by
  have := String.not_lt.1 h
  grind

theorem Ascending.insert (h : Ascending l) (key : String) (value : β) :
    Ascending (insert key value l) := by
  induction l with
  | nil => simp [Entries.insert]
  | cons a l ih =>
    obtain ⟨ha, hl⟩ := List.pairwise_cons.1 h
    simp only [Entries.insert]
    split
    · next hk =>
      refine List.pairwise_cons.2 ⟨fun e he => ?_, h⟩
      rcases List.mem_cons.1 he with rfl | he
      · exact hk
      · exact String.lt_trans hk (ha e he)
    · split
      · next heq => exact List.pairwise_cons.2 ⟨fun e he => heq ▸ ha e he, hl⟩
      · next hk hne =>
        refine List.pairwise_cons.2 ⟨fun e he => ?_, ih hl⟩
        rcases eq_or_mem_of_mem_insert he with rfl | he
        · exact lt_of_not_lt_of_ne hk hne
        · exact ha e he

theorem Ascending.erase (h : Ascending l) (key : String) : Ascending (erase key l) :=
  h.filter _

end CloudScope.Entries
