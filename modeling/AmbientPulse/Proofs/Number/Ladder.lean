import Mathlib.Order.Monotone.Basic
import Mathlib.Tactic.Linarith
import AmbientPulse.Proofs.Number.Value

namespace AmbientPulse.Number

/-- The magnitudes of the singles of one sign, from zero on, each followed by the next. -/
def rung (n : ℕ) : Magnitude :=
  if n / 8388608 = 0 then ⟨n % 8388608, -149⟩
  else ⟨n % 8388608 + 8388608, (n / 8388608 : ℕ) - 150⟩

def height (n : ℕ) : ℚ :=
  (rung n).value

theorem height_zero : height 0 = 0 := by
  norm_num [height, rung, Magnitude.value]

/-- From one rung to the next it is one unit in the last place. -/
theorem height_succ (n : ℕ) : height (n + 1) = height n + 2 ^ (rung n).exponent := by
  unfold height rung
  by_cases hm : n % 8388608 + 1 < 8388608
  · have hd : (n + 1) / 8388608 = n / 8388608 := by omega
    have hr : (n + 1) % 8388608 = n % 8388608 + 1 := by omega
    rw [hd, hr]
    split <;> simp only [Magnitude.value] <;> push_cast <;> ring
  · have hd : (n + 1) / 8388608 = n / 8388608 + 1 := by omega
    have hr : (n + 1) % 8388608 = 0 := by omega
    have hn : n % 8388608 = 8388607 := by omega
    rw [hd, hr, hn, if_neg (by omega)]
    split
    · next h =>
      rw [h]
      norm_num [Magnitude.value]
    · have he : ((n / 8388608 + 1 : ℕ) : ℤ) - 150 = ((n / 8388608 : ℕ) : ℤ) - 150 + 1 := by omega
      simp only [Magnitude.value]
      rw [he, zpow_add_one₀ two_ne_zero]
      push_cast
      ring

theorem height_strictMono : StrictMono height :=
  strictMono_nat_of_lt_succ fun n => by
    rw [height_succ]
    have h : (0 : ℚ) < 2 ^ (rung n).exponent := by positivity
    linarith

theorem height_nonneg (n : ℕ) : 0 ≤ height n := by
  rw [← height_zero]
  exact height_strictMono.monotone (Nat.zero_le n)

/-- The numbers between the midpoints to the neighbours of a rung. The midpoints belong to the even
ones. -/
def Within (n : ℕ) (r : ℚ) : Prop :=
  (∀ k, n = k + 1 → height k + height n ≤ 2 * r ∧ (n % 2 = 1 → height k + height n < 2 * r)) ∧
    2 * r ≤ height n + height (n + 1) ∧ (n % 2 = 1 → 2 * r < height n + height (n + 1))

section Midpoint

variable {a b : ℚ} (r : ℚ) (h : a < b)
include h

theorem nearer_below : |a - r| ≤ |b - r| ↔ 2 * r ≤ a + b := by
  have hd : (b - r) ^ 2 - (a - r) ^ 2 = (b - a) * (a + b - 2 * r) := by ring
  rw [← sq_le_sq, ← sub_nonneg, hd, mul_nonneg_iff_of_pos_left (sub_pos.mpr h), sub_nonneg]

theorem nearer_above : |b - r| ≤ |a - r| ↔ a + b ≤ 2 * r := by
  have hd : (a - r) ^ 2 - (b - r) ^ 2 = (b - a) * (2 * r - (a + b)) := by ring
  rw [← sq_le_sq, ← sub_nonneg, hd, mul_nonneg_iff_of_pos_left (sub_pos.mpr h), sub_nonneg]

theorem equally_near : |a - r| = |b - r| ↔ 2 * r = a + b := by
  rw [le_antisymm_iff, nearer_below r h, nearer_above r h, ← le_antisymm_iff]

end Midpoint

theorem Within.near {n : ℕ} {r : ℚ} (h : Within n r) (k : ℕ) :
    |height n - r| ≤ |height k - r| ∧
      (|height n - r| = |height k - r| → k ≠ n → n % 2 = 0) := by
  obtain ⟨hl, hu, hu'⟩ := h
  obtain hk | rfl | hk := lt_trichotomy k n
  · obtain ⟨j, rfl⟩ : ∃ j, n = j + 1 := ⟨n - 1, by omega⟩
    obtain ⟨hl, hl'⟩ := hl j rfl
    have hj : height k ≤ height j := height_strictMono.monotone (by omega)
    have hn := height_strictMono hk
    rw [nearer_above r hn, eq_comm, equally_near r hn]
    refine ⟨by linarith, fun he _ => ?_⟩
    by_contra ho
    linarith [hl' (by omega)]
  · exact ⟨le_rfl, fun _ h => absurd rfl h⟩
  · have hj : height (n + 1) ≤ height k := height_strictMono.monotone hk
    have hn := height_strictMono hk
    rw [nearer_below r hn, equally_near r hn]
    refine ⟨by linarith, fun he _ => ?_⟩
    by_contra ho
    linarith [hu' (by omega)]

namespace Single

def rank (x : Single) : ℕ :=
  x.exponentField * 8388608 + x.fractionField

def ofRank (negative : Bool) (n : ℕ) : Single :=
  ⟨UInt32.ofNat (negative.toNat * 2147483648 + n)⟩

theorem magnitude_eq_rung (x : Single) : x.magnitude = rung x.rank := by
  have hf := x.fractionField_lt
  have hd : x.rank / 8388608 = x.exponentField := by
    unfold rank
    omega
  have hr : x.rank % 8388608 = x.fractionField := by
    unfold rank
    omega
  rw [magnitude, rung, hd, hr]

theorem size_eq_height (x : Single) : x.size = height x.rank := by
  rw [← value_magnitude, height, magnitude_eq_rung]

theorem ext_rank {x y : Single} (hs : x.negative = y.negative) (hr : x.rank = y.rank) : x = y := by
  have hx := x.fractionField_lt
  have hy := y.fractionField_lt
  unfold rank at hr
  exact ext_fields hs (by omega) (by omega)

theorem isNaN_iff_rank (x : Single) : x.isNaN = false ↔ x.rank ≤ 2139095040 := by
  have he := x.exponentField_lt
  have hf := x.fractionField_lt
  simp only [isNaN, rank, decide_eq_false_iff_not]
  omega

theorem isFinite_iff_rank (x : Single) : x.isFinite = true ↔ x.rank < 2139095040 := by
  have he := x.exponentField_lt
  have hf := x.fractionField_lt
  simp only [isFinite, rank, decide_eq_true_eq]
  omega

theorem rank_ofRank (negative : Bool) {n : ℕ} (hn : n < 2147483648) :
    (ofRank negative n).rank = n ∧ (ofRank negative n).negative = negative := by
  have hb : (ofRank negative n).bits.toNat = negative.toNat * 2147483648 + n := by
    refine UInt32.toNat_ofNat_of_lt' ?_
    cases negative <;> simp [UInt32.size] <;> omega
  unfold rank Single.negative exponentField fractionField
  rw [hb]
  cases negative
  · simp
    omega
  · simp
    omega

/-- The single nearest to a number that has a sign even if it is zero. Of two that are equally near
it is the even one. -/
structure IsNearest (negative : Bool) (r : ℚ) (x : Single) : Prop where
  sign : x.negative = negative
  isNaN : x.isNaN = false
  near : ∀ y : Single, y.isNaN = false →
    |x.value - signed negative r| ≤ |y.value - signed negative r|
  even : ∀ y : Single, y.isNaN = false → y.value ≠ x.value →
    |x.value - signed negative r| = |y.value - signed negative r| → x.fractionField % 2 = 0

section Nearest

variable {x y : Single} {negative : Bool} {r : ℚ}

theorem rank_mod_two (x : Single) : x.rank % 2 = x.fractionField % 2 := by
  have h : x.rank = 2 * (x.exponentField * 4194304) + x.fractionField := by
    unfold rank
    ring
  rw [h, Nat.mul_add_mod]

/-- How far a single is from a number of the same sign, and from one of the other. -/
theorem abs_sub_signed (x : Single) (negative : Bool) (hr : 0 ≤ r) :
    |x.value - signed negative r| =
      if x.negative = negative then |height x.rank - r| else height x.rank + r := by
  have h := height_nonneg x.rank
  have hs : |height x.rank + r| = height x.rank + r := abs_of_nonneg (by linarith)
  rw [value, size_eq_height]
  cases x.negative <;> cases negative <;> simp only [signed, if_true, if_false, Bool.false_eq_true,
    Bool.true_eq_false]
  · rw [sub_neg_eq_add, hs]
  · rw [← neg_add', abs_neg, hs]
  · rw [neg_sub_neg, abs_sub_comm]

theorem isNearest_of_within (hx : x.isFinite = true) (hr : 0 ≤ r) (h : Within x.rank r) :
    IsNearest x.negative r x where
  sign := rfl
  isNaN := x.isNaN_iff_rank.mpr (x.isFinite_iff_rank.mp hx).le
  near y _ := by
    rw [abs_sub_signed x _ hr, abs_sub_signed y _ hr, if_pos rfl]
    split
    · exact (h.near y.rank).1
    · -- A number of the other sign is not nearer than zero is.
      have h₀ := (h.near 0).1
      rw [height_zero, zero_sub, abs_neg, abs_of_nonneg hr] at h₀
      linarith [height_nonneg y.rank]
  even y _ hy he := by
    rw [abs_sub_signed x _ hr, abs_sub_signed y _ hr, if_pos rfl] at he
    rw [← rank_mod_two]
    split at he
    · next hs =>
      exact (h.near y.rank).2 he fun hk => hy (congrArg value (ext_rank hs hk))
    · by_cases hn : x.rank = 0
      · rw [hn]
      · obtain ⟨h₀, h₀'⟩ := h.near 0
        rw [height_zero, zero_sub, abs_neg, abs_of_nonneg hr] at h₀ h₀'
        exact h₀' (by linarith [height_nonneg y.rank]) (Ne.symm hn)

theorem abs_signed_sub (negative : Bool) (a b : ℚ) :
    |signed negative a - signed negative b| = |a - b| := by
  cases negative
  · rfl
  · exact (congrArg abs (neg_sub_neg a b)).trans (abs_sub_comm b a)

theorem abs_sub_of_sign (hx : x.negative = negative) :
    |x.value - signed negative r| = |height x.rank - r| := by
  rw [value, hx, abs_signed_sub, size_eq_height]

theorem rank_eq_of_value (hs : x.negative = y.negative) (h : x.value = y.value) :
    x.rank = y.rank := by
  rw [value, value, hs, size_eq_height, size_eq_height] at h
  refine height_strictMono.injective ?_
  unfold signed at h
  split at h
  · exact neg_inj.mp h
  · exact h

theorem IsNearest.rank_le (hx : IsNearest negative r x) (hy : IsNearest negative r y) :
    y.rank ≤ x.rank := by
  by_contra hlt
  have hlt : x.rank < y.rank := not_le.mp hlt
  have hne : height x.rank < height y.rank := height_strictMono hlt
  have hv : x.value ≠ y.value := fun h =>
    hlt.ne (rank_eq_of_value (hx.sign.trans hy.sign.symm) h)
  have hd := le_antisymm (hx.near y hy.isNaN) (hy.near x hx.isNaN)
  have hxe := hx.even y hy.isNaN hv.symm hd
  have hye := hy.even x hx.isNaN hv hd.symm
  rw [← rank_mod_two] at hxe hye
  -- Both are even, so there is a rank between the two, and that one is nearer.
  have hyn := y.isNaN_iff_rank.mp hy.isNaN
  obtain ⟨hr, hs⟩ := rank_ofRank negative (n := x.rank + 1) (by omega)
  have hz := hx.near _ ((isNaN_iff_rank _).mpr (by rw [hr]; omega))
  rw [abs_sub_of_sign hx.sign, abs_sub_of_sign hs, hr] at hz
  rw [abs_sub_of_sign hx.sign, abs_sub_of_sign hy.sign] at hd
  have h₁ := height_strictMono (Nat.lt_succ_self x.rank)
  have h₂ : height (x.rank + 1) < height y.rank := height_strictMono (by omega)
  rw [equally_near r hne] at hd
  rw [nearer_below r h₁] at hz
  linarith

theorem IsNearest.unique (hx : IsNearest negative r x) (hy : IsNearest negative r y) : x = y :=
  ext_rank (hx.sign.trans hy.sign.symm) (le_antisymm (hy.rank_le hx) (hx.rank_le hy))

/-- What the other ranks have to say. -/
theorem IsNearest.near_rank (h : IsNearest negative r x) {k : ℕ} (hk : k ≤ 2139095040)
    (hn : k ≠ x.rank) :
    |height x.rank - r| ≤ |height k - r| ∧
      (x.rank % 2 = 1 → |height x.rank - r| ≠ |height k - r|) := by
  obtain ⟨hr, hs⟩ := rank_ofRank negative (n := k) (by omega)
  have hz : (ofRank negative k).isNaN = false := (isNaN_iff_rank _).mpr (by rw [hr]; exact hk)
  have hd := abs_sub_of_sign (r := r) hs
  rw [hr] at hd
  rw [← abs_sub_of_sign h.sign, ← hd]
  refine ⟨h.near _ hz, fun ho he => ?_⟩
  have hv : (ofRank negative k).value ≠ x.value := fun hv =>
    hn (hr.symm.trans (rank_eq_of_value (hs.trans h.sign.symm) hv))
  have hev := h.even _ hz hv he
  rw [← rank_mod_two] at hev
  omega

theorem IsNearest.within (h : IsNearest negative r x) (hx : x.isFinite = true) :
    Within x.rank r := by
  have hn := x.isFinite_iff_rank.mp hx
  refine ⟨fun k hk => ?_, ?_⟩
  · obtain ⟨hd, ho⟩ := h.near_rank (k := k) (by omega) (by omega)
    have hlt : height k < height x.rank := height_strictMono (by omega)
    rw [nearer_above r hlt] at hd
    exact ⟨hd, fun h₁ => hd.lt_of_ne fun he =>
      ho h₁ (((equally_near r hlt).mpr he.symm).symm)⟩
  · obtain ⟨hd, ho⟩ := h.near_rank (k := x.rank + 1) (by omega) (by omega)
    have hlt := height_strictMono (Nat.lt_succ_self x.rank)
    rw [nearer_below r hlt] at hd
    exact ⟨hd, fun h₁ => hd.lt_of_ne fun he => ho h₁ ((equally_near r hlt).mpr he)⟩

end Nearest

end Single

end AmbientPulse.Number
