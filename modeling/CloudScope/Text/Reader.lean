/-!
# Readers

A reader takes a value off the front of a sequence of symbols. What it leaves carries the proof
that something was taken, so a loop over a reader ends with the sequence.
-/

namespace CloudScope

/-- What is left of `s` when at least one symbol is taken off its front. -/
abbrev Rest {α : Type} (s : List α) := { r : List α // r.length < s.length }

/-- What is left of `s` when any number of symbols is taken off its front. -/
abbrev Within {α : Type} (s : List α) := { r : List α // r.length ≤ s.length }

/-- Takes a `β` off the front of a sequence, or finds a fault there. -/
abbrev Reader (α φ β : Type) := (s : List α) → Except φ (β × Rest s)

namespace Rest

variable {α : Type} {s : List α}

/-- What is left when one symbol is taken. -/
def tail (a : α) (r : List α) : Rest (a :: r) :=
  ⟨r, Nat.lt_succ_self _⟩

/-- What is left of what is left. -/
def trans (r : Rest s) (t : Rest r.val) : Rest s :=
  ⟨t.val, Nat.lt_trans t.property r.property⟩

/-- What is left of `s` is left of `s` with a symbol in front. -/
def behind (a : α) (r : Rest s) : Rest (a :: s) :=
  ⟨r.val, Nat.lt_succ_of_lt r.property⟩

/-- What is left of `s` is left of any longer sequence. -/
def widen {t : List α} (r : Rest s) (h : s.length ≤ t.length) : Rest t :=
  ⟨r.val, Nat.lt_of_lt_of_le r.property h⟩

/-- What is left of what is left. -/
def extend (r : Rest s) (t : Within r.val) : Rest s :=
  ⟨t.val, Nat.lt_of_le_of_lt t.property r.property⟩

/-- At least one symbol is any number of symbols. -/
def within (r : Rest s) : Within s :=
  ⟨r.val, Nat.le_of_lt r.property⟩

end Rest

namespace Within

variable {α : Type} {s : List α}

/-- What is left when nothing is taken. -/
def whole (s : List α) : Within s :=
  ⟨s, Nat.le_refl _⟩

/-- What is left of `s` is left of `s` with a symbol in front. -/
def behind (a : α) (r : Within s) : Rest (a :: s) :=
  ⟨r.val, Nat.lt_succ_of_le r.property⟩

/-- What is left of what is left. -/
def trans (r : Within s) (t : Rest r.val) : Rest s :=
  ⟨t.val, Nat.lt_of_lt_of_le t.property r.property⟩

/-- What is left of a sequence without some symbols at its front. -/
def dropWhile (p : α → Bool) (s : List α) : Within s :=
  ⟨s.dropWhile p, (List.dropWhile_sublist _).length_le⟩

end Within

namespace Reader

variable {α φ β γ : Type}

def map (f : β → γ) (read : Reader α φ β) : Reader α φ γ := fun s =>
  (read s).map fun (b, rest) => (f b, rest)

/-- Reads one thing, and then another that may depend on it. -/
def andThen (first : Reader α φ β) (next : β → Reader α φ γ) : Reader α φ γ := fun s =>
  match first s with
  | .error f => .error f
  | .ok (b, rest) => (next b rest.val).map fun (c, last) => (c, rest.trans last)

/-- Reads one thing, and another behind it if it is there. -/
def andPerhaps (first : Reader α φ β) (next : Reader α φ γ) : Reader α φ (β × Option γ) := fun s =>
  match first s with
  | .error f => .error f
  | .ok (b, rest) =>
    match next rest.val with
    | .ok (c, last) => .ok ((b, some c), rest.trans last)
    | .error _ => .ok ((b, none), rest)

end Reader

end CloudScope
