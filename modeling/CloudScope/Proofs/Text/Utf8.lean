import CloudScope.Proofs.Text.Readings
import CloudScope.Text.Utf8
import Mathlib.Tactic.SplitIfs

/-!
# UTF-8 back and forth

Bytes are read as a text exactly if they are the bytes of that text (`decode_eq_ok_iff`).
-/

namespace CloudScope.Utf8

/-! ## Sizes -/

theorem size_append (s t : List Char) : size (s ++ t) = size s + size t := by
  induction s with
  | nil => simp [size]
  | cons c s ih => simp only [List.cons_append, size, ih, Nat.add_assoc]

theorem size_le_of_suffix {s t : List Char} (h : s <:+ t) : size s ≤ size t := by
  obtain ⟨before, rfl⟩ := h
  rw [size_append]
  exact Nat.le_add_left _ _

theorem utf8Size_eq (c : Char) : c.utf8Size =
    if c.toNat < 0x80 then 1 else if c.toNat < 0x800 then 2
    else if c.toNat < 0x10000 then 3 else 4 := by
  have hle : ∀ n : UInt32, c.val ≤ n ↔ c.toNat < n.toNat + 1 := fun n => by
    rw [UInt32.le_iff_toNat_le]
    exact Nat.lt_succ_iff.symm
  simp only [Char.utf8Size, hle]
  rfl

theorem length_encodeChar (c : Char) : (encodeChar c).length = c.utf8Size := by
  rw [utf8Size_eq]
  simp only [encodeChar]
  split
  · rfl
  split
  · rfl
  split
  · rfl
  · rfl

/-! ## One character at the front -/

variable {a b c d : UInt8} {rest : List UInt8} {index low high : Nat}

theorem decodeFrom_one (h : a.toNat < 0x80) :
    decodeFrom index (a :: rest) =
      (decodeFrom (index + 1) rest).map (Char.ofNat a.toNat :: ·) := by
  rw [decodeFrom]
  simp only [h, if_true]

theorem decodeFrom_two (ha : ¬ a.toNat < 0x80) (hopen : opening? a.toNat = some (2, low, high))
    (hb : low ≤ b.toNat ∧ b.toNat ≤ high) :
    decodeFrom index (a :: b :: rest) = (decodeFrom (index + 2) rest).map
      (Char.ofNat (a.toNat % 32 * 64 + b.toNat % 64) :: ·) := by
  have hb' : (decide (b.toNat < low) || decide (high < b.toNat)) = false := by simp; omega
  rw [decodeFrom]
  simp only [if_neg ha, hopen, hb']
  rfl

theorem decodeFrom_three (ha : ¬ a.toNat < 0x80)
    (hopen : opening? a.toNat = some (3, low, high)) (hb : low ≤ b.toNat ∧ b.toNat ≤ high)
    (hc : isContinuation c.toNat = true) :
    decodeFrom index (a :: b :: c :: rest) = (decodeFrom (index + 3) rest).map
      (Char.ofNat (a.toNat % 16 * 4096 + b.toNat % 64 * 64 + c.toNat % 64) :: ·) := by
  have hb' : (decide (b.toNat < low) || decide (high < b.toNat)) = false := by simp; omega
  rw [decodeFrom]
  simp only [if_neg ha, hopen, hb', hc]
  rfl

theorem decodeFrom_four (ha : ¬ a.toNat < 0x80)
    (hopen : opening? a.toNat = some (4, low, high)) (hb : low ≤ b.toNat ∧ b.toNat ≤ high)
    (hc : isContinuation c.toNat = true) (hd : isContinuation d.toNat = true) :
    decodeFrom index (a :: b :: c :: d :: rest) = (decodeFrom (index + 4) rest).map
      (Char.ofNat (a.toNat % 8 * 262144 + b.toNat % 64 * 4096 + c.toNat % 64 * 64 +
        d.toNat % 64) :: ·) := by
  have hb' : (decide (b.toNat < low) || decide (high < b.toNat)) = false := by simp; omega
  rw [decodeFrom]
  simp only [if_neg ha, hopen, hb', hc, hd]
  rfl

/-! ## Reading what is written -/

theorem toNat_byte {n : Nat} (h : n < 0x100) : (UInt8.ofNat n).toNat = n :=
  UInt8.toNat_ofNat_of_lt h

theorem opening?_two {n : Nat} (h : 0xC2 ≤ n ∧ n ≤ 0xDF) :
    opening? n = some (2, 0x80, 0xBF) := by
  rw [opening?, if_pos h]

/-- The bounds of the second byte leave surrogates and overlong forms out, where `x` is the code
point without its last six bits. -/
theorem exists_opening?_three {x : Nat} (hlow : 0x20 ≤ x) (hhigh : x < 0x400)
    (hgap : ¬ (0x360 ≤ x ∧ x < 0x380)) : ∃ low high,
    opening? (0xE0 + x / 64) = some (3, low, high) ∧
      low ≤ 0x80 + x % 64 ∧ 0x80 + x % 64 ≤ high := by
  unfold opening?
  split_ifs
  all_goals first | omega | exact ⟨_, _, rfl, by omega, by omega⟩

/-- The bounds of the second byte leave numbers past the last code point and overlong forms out,
where `x` is the code point without its last twelve bits. -/
theorem exists_opening?_four {x : Nat} (hlow : 0x10 ≤ x) (hhigh : x < 0x110) : ∃ low high,
    opening? (0xF0 + x / 64) = some (4, low, high) ∧
      low ≤ 0x80 + x % 64 ∧ 0x80 + x % 64 ≤ high := by
  unfold opening?
  split_ifs
  all_goals first | omega | exact ⟨_, _, rfl, by omega, by omega⟩

theorem isContinuation_byte (n : Nat) :
    isContinuation (UInt8.ofNat (0x80 + n % 64)).toNat = true := by
  rw [toNat_byte (by omega), isContinuation]
  simp
  omega

theorem decodeFrom_encodeChar (c : Char) (rest : List UInt8) (index : Nat) :
    decodeFrom index (encodeChar c ++ rest) =
      (decodeFrom (index + (encodeChar c).length) rest).map (c :: ·) := by
  have hvalid : c.toNat < 0xD800 ∨ (0xDFFF < c.toNat ∧ c.toNat < 0x110000) := c.valid
  have hof : ∀ {n : Nat}, n = c.toNat → Char.ofNat n = c := by
    rintro _ rfl
    exact Char.ofNat_toNat c
  -- one case for each width; the bytes come back by division, so `omega` finds the code point again
  rw [encodeChar]
  split
  · next h =>
    have ha := toNat_byte (n := c.toNat) (by omega)
    refine (decodeFrom_one (by omega)).trans ?_
    rw [hof ha]
    rfl
  split
  · next h =>
    have ha := toNat_byte (n := 0xC0 + c.toNat / 64) (by omega)
    have hb := toNat_byte (n := 0x80 + c.toNat % 64) (by omega)
    refine (decodeFrom_two (by omega) (opening?_two (by omega)) (by omega)).trans ?_
    rw [hof (by omega)]
    rfl
  split
  · next h =>
    have ha := toNat_byte (n := 0xE0 + c.toNat / 4096) (by omega)
    have hb := toNat_byte (n := 0x80 + c.toNat / 64 % 64) (by omega)
    have hc := toNat_byte (n := 0x80 + c.toNat % 64) (by omega)
    obtain ⟨low, high, hopen, hrange⟩ : ∃ low high, opening? (0xE0 + c.toNat / 64 / 64) = _ ∧ _ :=
      exists_opening?_three (x := c.toNat / 64) (by omega) (by omega) (by omega)
    rw [Nat.div_div_eq_div_mul, ← ha] at hopen
    rw [← hb] at hrange
    refine (decodeFrom_three (by omega) hopen hrange (isContinuation_byte _)).trans ?_
    rw [hof (by omega)]
    rfl
  · next h =>
    have ha := toNat_byte (n := 0xF0 + c.toNat / 262144) (by omega)
    have hb := toNat_byte (n := 0x80 + c.toNat / 4096 % 64) (by omega)
    have hc := toNat_byte (n := 0x80 + c.toNat / 64 % 64) (by omega)
    have hd := toNat_byte (n := 0x80 + c.toNat % 64) (by omega)
    obtain ⟨low, high, hopen, hrange⟩ : ∃ low high, opening? (0xF0 + c.toNat / 4096 / 64) = _ ∧ _ :=
      exists_opening?_four (x := c.toNat / 4096) (by omega) (by omega)
    rw [Nat.div_div_eq_div_mul, ← ha] at hopen
    rw [← hb] at hrange
    refine (decodeFrom_four (by omega) hopen hrange (isContinuation_byte _)
      (isContinuation_byte _)).trans ?_
    rw [hof (by omega)]
    rfl

theorem encode_cons (c : Char) (s : List Char) : encode (c :: s) = encodeChar c ++ encode s :=
  List.flatMap_cons

theorem encode_append (s t : List Char) : encode (s ++ t) = encode s ++ encode t :=
  List.flatMap_append

/-- The bytes of a text are read as that text, whatever is behind them. -/
theorem decodeFrom_encode_append (s : List Char) (rest : List UInt8) : ∀ index,
    decodeFrom index (encode s ++ rest) =
      (decodeFrom (index + (encode s).length) rest).map (s ++ ·) := by
  induction s with
  | nil =>
    intro index
    change decodeFrom index rest = (decodeFrom index rest).map id
    cases decodeFrom index rest <;> rfl
  | cons c s ih =>
    intro index
    rw [encode_cons, List.append_assoc, decodeFrom_encodeChar, ih, List.length_append,
      Nat.add_assoc]
    cases decodeFrom _ rest <;> rfl

theorem decode_encode (s : List Char) : decode (encode s) = .ok s := by
  have h := decodeFrom_encode_append s [] 0
  rw [List.append_nil] at h
  exact h.trans (congrArg Except.ok (List.append_nil s))

/-! ## What can be read -/

theorem toNat_ofNat {n : Nat} (h : n.isValidChar) : (Char.ofNat n).toNat = n := by
  rw [Char.ofNat, dif_pos h]
  rfl

theorem ofNat_eq (byte : UInt8) {n : Nat} (h : n = byte.toNat) : UInt8.ofNat n = byte := by
  rw [h, UInt8.ofNat_toNat]

/-- What the first byte of a sequence of several bytes says about its length and second byte. -/
theorem opening?_eq_some {n length : Nat} (h : opening? n = some (length, low, high)) :
    0x80 ≤ low ∧ high ≤ 0xBF ∧
      (length = 2 ∧ 0xC2 ≤ n ∧ n ≤ 0xDF ∨
      length = 3 ∧ 0xE0 ≤ n ∧ n ≤ 0xEF ∧ (n = 0xE0 → 0xA0 ≤ low) ∧ (n = 0xED → high ≤ 0x9F) ∨
      length = 4 ∧ 0xF0 ≤ n ∧ n ≤ 0xF4 ∧ (n = 0xF0 → 0x90 ≤ low) ∧ (n = 0xF4 → high ≤ 0x8F)) := by
  unfold opening? at h
  split_ifs at h <;> cases h <;> omega

theorem isContinuation_iff {n : Nat} : isContinuation n = true ↔ 0x80 ≤ n ∧ n ≤ 0xBF := by
  simp [isContinuation]

/-- Bytes that are read are those of the text. -/
theorem encode_of_decodeFrom_eq_ok {index : Nat} {bytes : List UInt8} {s : List Char}
    (h : decodeFrom index bytes = .ok s) : encode s = bytes := by
  fun_induction decodeFrom index bytes generalizing s with
  | case1 => cases h; rfl
  | case2 _ first _ a ha =>
    rename_i ih
    obtain ⟨s, hs, rfl⟩ := exists_of_map_eq_ok h
    have hn : (Char.ofNat a).toNat = a := toNat_ofNat (.inl (by omega))
    rw [encode_cons, ih hs, encodeChar, hn, if_pos ha,
      ofNat_eq first rfl]
    rfl
  | case6 _ first a _ low high second _ b hb hopen =>
    rename_i ih
    obtain ⟨s, hs, rfl⟩ := exists_of_map_eq_ok h
    have hrange := opening?_eq_some hopen
    simp only [Bool.or_eq_true, decide_eq_true_eq] at hb
    have hn : (Char.ofNat (a % 32 * 64 + b % 64)).toNat = a % 32 * 64 + b % 64 :=
      toNat_ofNat (.inl (by omega))
    rw [encode_cons, ih hs, encodeChar, hn, if_neg (by omega),
      if_pos (by omega), ofNat_eq first (by omega), ofNat_eq second (by omega)]
    rfl
  | case9 _ first a _ low high second b hb third _ c hc hopen =>
    rename_i ih
    obtain ⟨s, hs, rfl⟩ := exists_of_map_eq_ok h
    have hrange := opening?_eq_some hopen
    simp only [Bool.or_eq_true, decide_eq_true_eq, Bool.not_eq_true', Bool.not_eq_false,
      isContinuation_iff] at hb hc
    have hn : (Char.ofNat (a % 16 * 4096 + b % 64 * 64 + c % 64)).toNat =
        a % 16 * 4096 + b % 64 * 64 + c % 64 := toNat_ofNat (by unfold Nat.isValidChar; omega)
    rw [encode_cons, ih hs, encodeChar, hn, if_neg (by omega),
      if_neg (by omega), if_pos (by omega), ofNat_eq first (by omega),
      ofNat_eq second (by omega), ofNat_eq third (by omega)]
    rfl
  | case12 _ first a _ length low high hopen second b hb htwo third c hc hthree fourth _ d hd =>
    rename_i ih
    obtain ⟨s, hs, rfl⟩ := exists_of_map_eq_ok h
    have hrange := opening?_eq_some hopen
    simp only [Bool.or_eq_true, decide_eq_true_eq, Bool.not_eq_true', Bool.not_eq_false,
      isContinuation_iff] at hb hc hd
    have hn : (Char.ofNat (a % 8 * 262144 + b % 64 * 4096 + c % 64 * 64 + d % 64)).toNat =
        a % 8 * 262144 + b % 64 * 4096 + c % 64 * 64 + d % 64 :=
      toNat_ofNat (by unfold Nat.isValidChar; omega)
    rw [encode_cons, ih hs, encodeChar, hn, if_neg (by omega),
      if_neg (by omega), if_neg (by omega), ofNat_eq first (by omega),
      ofNat_eq second (by omega), ofNat_eq third (by omega),
      ofNat_eq fourth (by omega)]
    rfl
  | _ => cases h

/-- Bytes are read as a text exactly if they are those of the text. -/
theorem decode_eq_ok_iff {bytes : List UInt8} {s : List Char} :
    decode bytes = .ok s ↔ bytes = encode s := by
  constructor
  · exact fun h => (encode_of_decodeFrom_eq_ok h).symm
  · rintro rfl
    exact decode_encode s

theorem length_encode (s : List Char) : (encode s).length = size s := by
  induction s with
  | nil => rfl
  | cons c s ih =>
    rw [encode_cons, List.length_append, length_encodeChar, ih, size]

/-- A text that is read has as many bytes as were read. -/
theorem size_of_decode_eq_ok {bytes : List UInt8} {s : List Char} (h : decode bytes = .ok s) :
    size s = bytes.length := by
  rw [decode_eq_ok_iff.mp h, length_encode]

/-! ## Texts beside each other -/

theorem encodeChar_of_lt {c : Char} (hc : c.toNat < 0x80) : encodeChar c = [.ofNat c.toNat] := by
  rw [encodeChar, if_pos hc]

/-- All bytes of a character past the first 128 are past them, too. -/
theorem le_toNat_of_mem_encodeChar {c : Char} {byte : UInt8} (hc : 0x80 ≤ c.toNat)
    (hmem : byte ∈ encodeChar c) : 0x80 ≤ byte.toNat := by
  have hvalid : c.toNat < 0xD800 ∨ (0xDFFF < c.toNat ∧ c.toNat < 0x110000) := c.valid
  obtain ⟨n, rfl, hlow, hhigh⟩ : ∃ n, byte = UInt8.ofNat n ∧ 0x80 ≤ n ∧ n < 0x100 := by
    rw [encodeChar] at hmem
    split_ifs at hmem
    · omega
    all_goals simp only [List.mem_cons, List.not_mem_nil, or_false] at hmem
    · rcases hmem with h | h
      all_goals exact ⟨_, h, by omega, by omega⟩
    · rcases hmem with h | h | h
      all_goals exact ⟨_, h, by omega, by omega⟩
    · rcases hmem with h | h | h | h
      all_goals exact ⟨_, h, by omega, by omega⟩
  rwa [toNat_byte hhigh]

theorem encode_append_eq_encode_iff {s t : List Char} {rest : List UInt8} :
    encode s ++ rest = encode t ↔ ∃ u, rest = encode u ∧ t = s ++ u := by
  constructor
  · intro h
    have hread := decode_encode t
    rw [← h, decode, decodeFrom_encode_append] at hread
    obtain ⟨u, hu, rfl⟩ := exists_of_map_eq_ok hread
    exact ⟨u, (encode_of_decodeFrom_eq_ok hu).symm, rfl⟩
  · rintro ⟨u, rfl, rfl⟩
    exact (encode_append s u).symm

/-- A byte below 0x80 parts the bytes of a text into those of two texts. -/
theorem exists_of_encode_eq_append {text : List Char} {front back : List UInt8} {byte : UInt8}
    (hbyte : byte.toNat < 0x80) (h : encode text = front ++ byte :: back) :
    ∃ s t, text = s ++ t ∧ front = encode s ∧ byte :: back = encode t := by
  induction text generalizing front with
  | nil => exact absurd h (by simp [encode])
  | cons c text ih =>
    rw [encode_cons] at h
    rcases List.append_eq_append_iff.mp h with ⟨front, rfl, h'⟩ | ⟨bytes, hc, h'⟩
    · obtain ⟨s, t, rfl, hs, ht⟩ := ih h'
      exact ⟨c :: s, t, rfl, by rw [encode_cons, hs], ht⟩
    · rcases bytes with _ | ⟨first, others⟩
      · exact ⟨[c], text, rfl, by simpa [encode] using hc.symm, h'⟩
      · -- the byte is one of those of `c`, so it is all of `c`
        cases h'
        have hmem : byte ∈ encodeChar c := hc ▸ List.mem_append_right front List.mem_cons_self
        have hlow : c.toNat < 0x80 := Nat.lt_of_not_le fun hle =>
          Nat.not_lt.mpr (le_toNat_of_mem_encodeChar hle hmem) hbyte
        rw [encodeChar_of_lt hlow, eq_comm, List.append_eq_singleton_iff] at hc
        rcases hc with ⟨rfl, _⟩ | ⟨_, hc⟩
        · exact ⟨[], c :: text, rfl, rfl, h.symm.trans (encode_cons c text).symm⟩
        · cases hc

end CloudScope.Utf8
