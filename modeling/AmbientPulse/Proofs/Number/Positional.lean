import Mathlib.Data.List.TakeWhile
import AmbientPulse.Proofs.Number.Shortest
import AmbientPulse.Proofs.Subtype.Grammar

namespace AmbientPulse.Number

/-- Digits as they are read: alone, or on both sides of a point. -/
def decimal? (cs : List Char) : Option ℚ :=
  match cs.dropWhile (· ≠ '.') with
  | [] => (natural? cs).map fun n : ℕ => (n : ℚ)
  | _ :: places =>
    (natural? (cs.takeWhile (· ≠ '.'))).bind fun n =>
      (natural? places).map fun p : ℕ => (n : ℚ) + p / 10 ^ places.length

def signedDecimal? : List Char → Option (Bool × ℚ)
  | '-' :: cs => (decimal? cs).map (true, ·)
  | cs => (decimal? cs).map (false, ·)

section Digits

variable {cs ps : List Char}

theorem natural?_of_digits (hn : cs ≠ []) (hd : ∀ c ∈ cs, c.isDigit = true) :
    natural? cs = some (Nat.ofDigitChars 10 cs 0) :=
  natural?_eq_some_iff.mpr (numeral_of_digits hn hd)

theorem ne_point_of_digits (hd : ∀ c ∈ cs, c.isDigit = true) :
    ∀ c ∈ cs, decide (c ≠ '.') = true := fun c hc => by
  have h := hd c hc
  refine decide_eq_true ?_
  rintro rfl
  cases h

theorem decimal?_whole (hn : cs ≠ []) (hd : ∀ c ∈ cs, c.isDigit = true) :
    decimal? cs = some ((Nat.ofDigitChars 10 cs 0 : ℕ) : ℚ) := by
  have hp : cs.dropWhile (· ≠ '.') = [] := List.dropWhile_eq_nil_iff.mpr (ne_point_of_digits hd)
  rw [decimal?, hp]
  exact congrArg (Option.map _) (natural?_of_digits hn hd)

theorem decimal?_point (hn : cs ≠ []) (hd : ∀ c ∈ cs, c.isDigit = true) (hn' : ps ≠ [])
    (hd' : ∀ c ∈ ps, c.isDigit = true) :
    decimal? (cs ++ '.' :: ps) =
      some (((Nat.ofDigitChars 10 (cs ++ ps) 0 : ℕ) : ℚ) / 10 ^ ps.length) := by
  have hp := ne_point_of_digits hd
  have hv : Nat.ofDigitChars 10 ps (Nat.ofDigitChars 10 cs 0) =
      10 ^ ps.length * Nat.ofDigitChars 10 cs 0 + Nat.ofDigitChars 10 ps 0 :=
    Nat.ofDigitChars_eq_ofDigitChars_zero
  rw [decimal?, List.dropWhile_append_of_pos hp, List.takeWhile_append_of_pos hp,
    List.dropWhile_cons_of_neg (by simp), List.takeWhile_cons_of_neg (by simp), List.append_nil]
  dsimp only
  rw [natural?_of_digits hn hd, natural?_of_digits hn' hd', Nat.ofDigitChars_append, hv,
    Option.bind_some, Option.map_some, Option.some_inj]
  push_cast
  field_simp

/-- A point inside the digits. -/
theorem decimal?_cut (hd : ∀ c ∈ cs, c.isDigit = true) {k : ℕ} (hk : 0 < k) (hl : k < cs.length) :
    decimal? (cs.take (cs.length - k) ++ '.' :: cs.drop (cs.length - k)) =
      some (((Nat.ofDigitChars 10 cs 0 : ℕ) : ℚ) / 10 ^ k) := by
  have ht : cs.take (cs.length - k) ≠ [] := fun h => by
    rcases List.take_eq_nil_iff.mp h with h | rfl
    · omega
    · simp at hl
  have hr : cs.drop (cs.length - k) ≠ [] := fun h => by
    have := List.drop_eq_nil_iff.mp h
    omega
  rw [decimal?_point ht (fun c hc => hd c (List.mem_of_mem_take hc)) hr
    (fun c hc => hd c (List.mem_of_mem_drop hc)), List.take_append_drop, List.length_drop,
    Nat.sub_sub_self hl.le]

theorem digits_zeros (n : ℕ) : ∀ c ∈ List.replicate n '0', c.isDigit = true := fun c hc => by
  rw [List.eq_of_mem_replicate hc]
  rfl

/-- Zeros between the point and the digits. -/
theorem decimal?_padded (hn : cs ≠ []) (hd : ∀ c ∈ cs, c.isDigit = true) {k : ℕ}
    (hl : cs.length ≤ k) :
    decimal? ('0' :: '.' :: (List.replicate (k - cs.length) '0' ++ cs)) =
      some (((Nat.ofDigitChars 10 cs 0 : ℕ) : ℚ) / 10 ^ k) := by
  have h₀ : ∀ c ∈ ['0'], c.isDigit = true := List.forall_mem_singleton.mpr rfl
  have hv : Nat.ofDigitChars 10 ['0'] 0 = 0 := rfl
  have hk : (List.replicate (k - cs.length) '0' ++ cs).length = k := by
    rw [List.length_append, List.length_replicate, Nat.sub_add_cancel hl]
  have h := decimal?_point (List.cons_ne_nil _ _) h₀ (by simp [hn])
    (List.forall_mem_append.mpr ⟨digits_zeros (k - cs.length), hd⟩)
  rw [Nat.ofDigitChars_append, Nat.ofDigitChars_append, Nat.ofDigitChars_replicate_zero, hv,
    Nat.mul_zero, hk] at h
  exact h

end Digits

namespace Decimal

theorem value_eq_div (d : Decimal) :
    d.value = (d.coefficient * 10 ^ d.exponent.toNat : ℕ) / 10 ^ (-d.exponent).toNat := by
  rw [value, zpow_eq_div, mul_div_assoc']
  push_cast
  rfl

theorem digits_coefficient (d : Decimal) :
    ∀ c ∈ Nat.toDigits 10 d.coefficient, c.isDigit = true :=
  fun _ hc => Nat.isDigit_of_mem_toDigits (by decide) (by decide) hc

/-- A number is read as it is written. -/
theorem decimal?_positional (d : Decimal) : decimal? d.positional = some d.value := by
  have hd := d.digits_coefficient
  have hn : Nat.toDigits 10 d.coefficient ≠ [] := Nat.toDigits_ne_nil
  have hc : Nat.ofDigitChars 10 (Nat.toDigits 10 d.coefficient) 0 = d.coefficient :=
    Nat.ofDigitChars_ten_toDigits
  rw [positional, value_eq_div]
  split
  · next hp =>
    rw [decimal?_whole (by simp) (List.forall_mem_append.mpr ⟨hd, digits_zeros _⟩),
      Nat.ofDigitChars_append, hc, Nat.ofDigitChars_replicate_zero, hp, pow_zero, div_one, mul_comm]
  · next hp =>
    have he : d.exponent.toNat = 0 := by omega
    rw [he, pow_zero, mul_one]
    split
    · next hl => rw [decimal?_cut hd (Nat.pos_of_ne_zero hp) hl, hc]
    · next hl => rw [decimal?_padded hn hd (not_lt.mp hl), hc]

theorem mem_positional (d : Decimal) {c : Char} (h : c ∈ d.positional) :
    c.isDigit = true ∨ c = '.' := by
  have hd := d.digits_coefficient c
  rw [positional] at h
  split at h
  · rcases List.mem_append.mp h with h | h
    · exact .inl (hd h)
    · exact .inl (digits_zeros _ c h)
  · split at h
    · rcases List.mem_append.mp h with h | h
      · exact .inl (hd (List.mem_of_mem_take h))
      · exact (List.mem_cons.mp h).elim .inr fun h => .inl (hd (List.mem_of_mem_drop h))
    · rcases List.mem_cons.mp h with rfl | h
      · exact .inl rfl
      · refine (List.mem_cons.mp h).elim .inr fun h => .inl ?_
        exact (List.mem_append.mp h).elim (digits_zeros _ c) hd

end Decimal

theorem signedDecimal?_positional (negative : Bool) (d : Decimal) :
    signedDecimal? (Single.signText negative ++ d.positional) = some (negative, d.value) := by
  have hr := d.decimal?_positional
  cases negative
  · rw [Single.signText, if_neg Bool.false_ne_true, List.nil_append]
    have hs : ∀ cs, d.positional ≠ '-' :: cs := fun cs h => by
      have hm : '-' ∈ d.positional := h ▸ List.mem_cons_self
      exact (d.mem_positional hm).elim (by decide) (by decide)
    unfold signedDecimal?
    split
    · next cs h => exact absurd h (hs cs)
    · rw [hr, Option.map_some]
  · exact congrArg (Option.map _) hr

theorem within_shortest (n : ℕ) : Within n (Format.single.shortest .up (rung n)).value := by
  obtain rfl | hn := n.eq_zero_or_pos
  · have hv : (Format.single.shortest .up (rung 0)).value = 0 := by
      simp [rung, Format.shortest, Decimal.value]
    rw [hv]
    refine ⟨fun k hk => by omega, ?_, by omega⟩
    linarith [height_nonneg 0, height_nonneg (0 + 1)]
  · exact (covers_iff_within hn _).mp (Format.single.covers_shortest .up (significand_pos hn))

theorem digits_shortest_le {n : ℕ} {d : Decimal} (h : Within n d.value) :
    (Nat.toDigits 10 (Format.single.shortest .up (rung n)).coefficient).length ≤
      (Nat.toDigits 10 d.coefficient).length := by
  obtain rfl | hn := n.eq_zero_or_pos
  · have hc : (Format.single.shortest .up (rung 0)).coefficient = 0 := by
      simp [rung, Format.shortest]
    rw [hc, Nat.toDigits_zero]
    exact Nat.length_toDigits_pos
  · exact Format.single.shortest_least .up (significand_pos hn) ((covers_iff_within hn _).mpr h)

namespace Single

/-- What a text has to be to show a single. The decimal of a finite one is rounded to it and to no
other, and none with fewer digits is. -/
inductive Shows (x : Single) (item : List Char) : Prop
  | nan (hx : x.isNaN = true) (hi : item = ['N', 'a', 'N'])
  | infinite (hx : x.isNaN = false) (hf : x.isFinite = false)
      (hi : item = signText x.negative ++ ['i', 'n', 'f'])
  | finite (hf : x.isFinite = true) (d : Decimal) (hi : item = signText x.negative ++ d.positional)
      (read : signedDecimal? item = some (x.negative, d.value))
      (nearest : ∀ y : Single, IsNearest x.negative d.value y ↔ y = x)
      (least : ∀ d' : Decimal, IsNearest x.negative d'.value x →
        (Nat.toDigits 10 d.coefficient).length ≤ (Nat.toDigits 10 d'.coefficient).length)

/-- The same single, or two NaNs. -/
def Alike (x y : Single) : Prop :=
  x = y ∨ x.isNaN = true ∧ y.isNaN = true

section Text

variable {x y : Single} {item : List Char}

theorem toList_text (x : Single) :
    x.text.toList =
      if x.isNaN then ['N', 'a', 'N']
      else if x.isFinite then
        signText x.negative ++ (Format.single.shortest .up (rung x.rank)).positional
      else signText x.negative ++ ['i', 'n', 'f'] := by
  rw [text, String.toList_ofList, datum_eq, magnitude_eq_rung]
  cases x.isNaN <;> cases x.isFinite <;> rfl

theorem shows_text (x : Single) : x.Shows x.text.toList := by
  rw [toList_text]
  cases hn : x.isNaN with
  | true => exact .nan hn rfl
  | false =>
    cases hf : x.isFinite with
    | false => exact .infinite hn hf rfl
    | true =>
      have hr : 0 ≤ (Format.single.shortest .up (rung x.rank)).value := by
        unfold Decimal.value
        positivity
      have hx := isNearest_of_within hf hr (within_shortest x.rank)
      refine .finite hf _ rfl (signedDecimal?_positional _ _)
        (fun y => ⟨fun hy => hy.unique hx, ?_⟩) fun d' hd' => digits_shortest_le (hd'.within hf)
      rintro rfl
      exact hx

theorem ext_infinite (hx : x.isNaN = false) (hy : y.isNaN = false) (hx' : x.isFinite = false)
    (hy' : y.isFinite = false) (hs : x.negative = y.negative) : x = y := by
  simp only [isNaN, isFinite, ne_eq, decide_eq_false_iff_not, not_and, not_not] at hx hy hx' hy'
  exact ext_fields hs (hx'.trans hy'.symm) ((hx hx').trans (hy hy').symm)

/-- What two singles show as tells them apart, as far as they are numbers. -/
theorem Shows.alike (hx : x.Shows item) (hy : y.Shows item) : Alike x y := by
  have hnan : signedDecimal? ['N', 'a', 'N'] = none := rfl
  have hinf : ∀ b, signedDecimal? (signText b ++ ['i', 'n', 'f']) = none := by decide
  have hne : ∀ b, signText b ++ ['i', 'n', 'f'] ≠ ['N', 'a', 'N'] := by decide
  have hsign : ∀ a b, signText a ++ ['i', 'n', 'f'] = signText b ++ ['i', 'n', 'f'] → a = b := by
    decide
  cases hx with
  | nan hx hi =>
    cases hy with
    | nan hy _ => exact .inr ⟨hx, hy⟩
    | infinite _ _ hi' => exact absurd (hi'.symm.trans hi) (hne _)
    | finite _ d _ read => simp [hi, hnan] at read
  | infinite hx hf hi =>
    cases hy with
    | nan _ hi' => exact absurd (hi.symm.trans hi') (hne _)
    | infinite hy hf' hi' => exact .inl (ext_infinite hx hy hf hf' (hsign _ _ (hi.symm.trans hi')))
    | finite _ d _ read => simp [hi, hinf] at read
  | finite _ d _ read nearest =>
    cases hy with
    | nan _ hi' => simp [hi', hnan] at read
    | infinite _ _ hi' => simp [hi', hinf] at read
    | finite _ d' _ read' nearest' =>
      obtain ⟨hs, hv⟩ := Prod.mk.inj (Option.some.inj (read.symm.trans read'))
      rw [hs, hv] at nearest
      exact .inl ((nearest' x).mp ((nearest x).mpr rfl))

theorem text_eq_iff : x.text = y.text ↔ Alike x y := by
  constructor
  · intro h
    have hy := y.shows_text
    rw [← h] at hy
    exact x.shows_text.alike hy
  · rintro (rfl | ⟨hx, hy⟩)
    · rfl
    · rw [← String.toList_inj, toList_text, toList_text, hx, hy]
      rfl

theorem not_mem_text {x : Single} : ',' ∉ x.text.toList := by
  have hs : ∀ b, ',' ∉ signText b := by decide
  rw [toList_text]
  split
  · decide
  · split
    · refine fun h => (List.mem_append.mp h).elim (hs _) fun h => ?_
      exact (Decimal.mem_positional _ h).elim (by decide) (by decide)
    · exact fun h => (List.mem_append.mp h).elim (hs _) (by decide)

end Text

end Single

end AmbientPulse.Number
