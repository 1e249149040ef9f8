import CloudScope.Text.Reader

/-!
# Readings

What a reader gives on a text, without the proof that the rest is shorter.
-/

namespace CloudScope

variable {α β γ φ : Type}

theorem exists_of_map_eq_ok {x : Except φ β} {f : β → γ} {c : γ} (h : x.map f = .ok c) :
    ∃ b, x = .ok b ∧ f b = c := by
  cases x with
  | error e => cases h
  | ok b => exact ⟨b, rfl, Except.ok.inj h⟩

theorem eq_error_of_map_eq_error {x : Except φ β} {f : β → γ} {e : φ} (h : x.map f = .error e) :
    x = .error e := by
  cases x with
  | error _ => exact congrArg Except.error (Except.error.inj h)
  | ok b => cases h

/-- An outcome is that `b` was read and `rest` is left. -/
def Gives {p : List α → Prop} (x : Except φ (β × Subtype p)) (b : β) (rest : List α) : Prop :=
  ∃ h : p rest, x = .ok (b, ⟨rest, h⟩)

namespace Gives

variable {p q : List α → Prop} {x : Except φ (β × Subtype p)} {b : β} {rest : List α}

theorem of_eq {r : Subtype p} (h : x = .ok (b, r)) : Gives x b r.val :=
  ⟨r.property, h⟩

theorem ok_iff {c : β} {r : Subtype p} :
    Gives (φ := φ) (.ok (c, r)) b rest ↔ c = b ∧ r.val = rest := by
  constructor
  · rintro ⟨_, h⟩
    cases h
    exact ⟨rfl, rfl⟩
  · rintro ⟨rfl, rfl⟩
    exact .of_eq rfl

theorem not_error {e : φ} : ¬ Gives (α := α) (p := p) (.error e) b rest := by
  rintro ⟨_, h⟩
  cases h

theorem error_iff {e : φ} : Gives (α := α) (p := p) (.error e) b rest ↔ False :=
  ⟨not_error, False.elim⟩

theorem map_iff {f : β × Subtype p → γ × Subtype q} {g : β → γ} {c : γ}
    (hf : ∀ b r, (f (b, r)).1 = g b ∧ (f (b, r)).2.val = r.val) :
    Gives (x.map f) c rest ↔ ∃ b, Gives x b rest ∧ g b = c := by
  cases x with
  | error e => exact ⟨fun h => (not_error h).elim, fun ⟨_, h, _⟩ => (not_error h).elim⟩
  | ok br =>
    obtain ⟨b, r⟩ := br
    obtain ⟨hvalue, hrest⟩ := hf b r
    constructor
    · intro h
      obtain ⟨rfl, rfl⟩ := ok_iff.mp h
      exact ⟨b, ok_iff.mpr ⟨rfl, hrest.symm⟩, hvalue.symm⟩
    · rintro ⟨_, h, rfl⟩
      obtain ⟨rfl, rfl⟩ := ok_iff.mp h
      exact ok_iff.mpr ⟨hvalue, hrest⟩

theorem map {f : β × Subtype p → γ × Subtype q} {c : γ} (h : Gives x b rest)
    (hf : ∀ r, (f (b, r)).1 = c ∧ (f (b, r)).2.val = r.val) : Gives (x.map f) c rest := by
  obtain ⟨_, rfl⟩ := h
  exact ok_iff.mpr (hf _)

theorem exists_of_map {f : β × Subtype p → γ × Subtype q} {c : γ}
    (hf : ∀ b r, (f (b, r)).2.val = r.val) (h : Gives (x.map f) c rest) : ∃ b, Gives x b rest := by
  rcases x with e | ⟨b, r⟩
  · exact (not_error h).elim
  · exact ⟨b, ok_iff.mpr ⟨rfl, (hf b r).symm.trans (ok_iff.mp h).2⟩⟩

theorem exists_eq_of_map {δ : Type} {y : Except φ δ} {f : δ → β × Subtype p}
    (h : Gives (y.map f) b rest) : ∃ d, (f d).1 = b := by
  obtain ⟨_, h⟩ := h
  obtain ⟨d, -, hd⟩ := exists_of_map_eq_ok h
  exact ⟨d, congrArg Prod.fst hd⟩

/-! What is read behind what an outcome leaves. -/

theorem exists_ok_iff {r : Subtype p} {Q : β → List α → Prop} :
    (∃ c mid, Gives (φ := φ) (.ok (b, r)) c mid ∧ Q c mid) ↔ Q b r.val := by
  constructor
  · rintro ⟨c, mid, h, hQ⟩
    obtain ⟨rfl, rfl⟩ := ok_iff.mp h
    exact hQ
  · exact fun hQ => ⟨b, r.val, of_eq rfl, hQ⟩

theorem exists_error_iff {e : φ} {Q : β → List α → Prop} :
    (∃ c mid, Gives (p := p) (.error e) c mid ∧ Q c mid) ↔ False :=
  ⟨fun ⟨_, _, h, _⟩ => not_error h, False.elim⟩

end Gives

theorem gives_andThen_iff {first : Reader α φ β} {next : β → Reader α φ γ} {s rest : List α}
    {c : γ} : Gives (first.andThen next s) c rest ↔
      ∃ b mid, Gives (first s) b mid ∧ Gives (next b mid) c rest := by
  rw [Reader.andThen]
  rcases first s with e | ⟨b, mid⟩
  · rw [Gives.exists_error_iff, Gives.error_iff]
  · rw [Gives.exists_ok_iff]
    exact (Gives.map_iff (g := id) fun _ _ => ⟨rfl, rfl⟩).trans (by simp)

end CloudScope
