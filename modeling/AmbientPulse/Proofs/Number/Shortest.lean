import AmbientPulse.Proofs.Number.Ladder

namespace AmbientPulse.Number

def Decimal.value (d : Decimal) : ℚ :=
  d.coefficient * 10 ^ d.exponent

/-- A span takes in a number that is measured, as the span is, in quarters of a quantum. -/
def Span.Covers (s : Span) (t : ℚ) : Prop :=
  (s.low ≤ t ∧ t ≤ s.high) ∧ (s.closed = false → s.low < t ∧ t < s.high)

def quarters (e : ℤ) (r : ℚ) : ℚ :=
  r / 2 ^ (e - 2)

section Covers

variable {s : Span}

/-- A span takes in what lies between two numbers that it takes in. -/
theorem Span.Covers.between {a b t : ℚ} (ha : s.Covers a) (hb : s.Covers b) (hat : a ≤ t)
    (htb : t ≤ b) : s.Covers t :=
  ⟨⟨ha.1.1.trans hat, htb.trans hb.1.2⟩, fun hc =>
    ⟨(ha.2 hc).1.trans_le hat, htb.trans_lt (hb.2 hc).2⟩⟩

theorem Span.covers_middle (hl : s.low < s.middle) (hh : s.middle < s.high) :
    s.Covers s.middle := by
  have hl : (s.low : ℚ) < s.middle := by exact_mod_cast hl
  have hh : (s.middle : ℚ) < s.high := by exact_mod_cast hh
  exact ⟨⟨hl.le, hh.le⟩, fun _ => ⟨hl, hh⟩⟩

end Covers

section Grids

variable (s : Span) (k e : ℤ)

theorem Grid.step_pos : 0 < (Grid.ofExponents k e).step :=
  Nat.mul_pos (Nat.pow_pos (by decide)) (Nat.pow_pos (by decide))

theorem Grid.scale_pos : 0 < (Grid.ofExponents k e).scale :=
  Nat.mul_pos (Nat.pow_pos (by decide)) (Nat.pow_pos (by decide))

theorem Grid.quarters_eq (c : ℕ) :
    quarters e (c * 10 ^ k) =
      (c * (Grid.ofExponents k e).step : ℕ) / (Grid.ofExponents k e).scale := by
  have he : (-(e - 2)).toNat = (2 - e).toNat := by omega
  rw [quarters, zpow_eq_div 10, zpow_eq_div 2, he, Grid.ofExponents]
  simp only [Nat.pow_eq]
  push_cast
  field_simp

theorem Grid.contains_iff (c : ℕ) :
    (Grid.ofExponents k e).contains s c = true ↔ s.Covers (quarters e (c * 10 ^ k)) := by
  have hs : (0 : ℚ) < (Grid.ofExponents k e).scale := by exact_mod_cast Grid.scale_pos k e
  rw [Grid.quarters_eq, Span.Covers, le_div_iff₀ hs, div_le_iff₀ hs, lt_div_iff₀ hs, div_lt_iff₀ hs]
  norm_cast
  cases hc : s.closed <;> simp [Grid.contains, hc]
  exact fun h h' => ⟨h.le, h'.le⟩

/-- What is picked lies in the span, and is the floor or the point after it. -/
theorem Grid.of_pick?_eq_some {g : Grid} {tie : Tie} {c : ℕ} (h : g.pick? s tie = some c) :
    g.contains s c = true ∧ c ≤ g.floor s + 1 := by
  unfold Grid.pick? at h
  split at h <;> grind

theorem Grid.of_pick?_eq_none {g : Grid} {tie : Tie} (h : g.pick? s tie = none) :
    g.contains s (g.floor s) = false ∧ g.contains s (g.floor s + 1) = false := by
  unfold Grid.pick? at h
  split at h <;> grind

/-- A grid whose step divides the middle of a span has that for one of its points. -/
theorem Grid.quarters_floor
    (h : (Grid.ofExponents k e).step ∣ s.middle * (Grid.ofExponents k e).scale) :
    quarters e ((Grid.ofExponents k e).floor s * 10 ^ k) = s.middle := by
  have hs : ((Grid.ofExponents k e).scale : ℚ) ≠ 0 := by exact_mod_cast (Grid.scale_pos k e).ne'
  rw [Grid.quarters_eq, Grid.floor, Nat.div_mul_cancel h, Nat.cast_mul, mul_div_cancel_right₀ _ hs]

/-- The last grid that is tried holds the magnitude itself. -/
theorem Grid.step_dvd (m : ℕ) :
    (Grid.ofExponents (min e 0) e).step ∣ 4 * m * (Grid.ofExponents (min e 0) e).scale := by
  simp only [Grid.ofExponents, Nat.pow_eq]
  obtain he | he := le_total 0 e
  · have h : 2 ^ (2 - e).toNat ∣ 2 ^ 2 := Nat.pow_dvd_pow 2 (by omega)
    rw [min_eq_right he]
    simpa [mul_assoc] using h.mul_right _
  · have h : (2 - e).toNat = 2 + (-e).toNat := by omega
    have h' : (e - 2).toNat = 0 := by omega
    have h'' : e.toNat = 0 := by omega
    rw [min_eq_left he, h, h', h'', pow_add]
    simpa [mul_assoc] using
      mul_dvd_mul_left 4 ((pow_dvd_pow_of_dvd (by decide : 2 ∣ 10) (-e).toNat).mul_left m)

end Grids

theorem covers_shortestFrom {s : Span} {e : ℤ} (tie : Tie) (hl : s.low < s.middle)
    (hh : s.middle < s.high)
    (hd : (Grid.ofExponents (min e 0) e).step ∣ s.middle * (Grid.ofExponents (min e 0) e).scale)
    {n : ℕ} {k : ℤ} (hk : k - n = min e 0) :
    s.Covers (quarters e (shortestFrom s e tie n k).value) := by
  induction n generalizing k with
  | zero =>
    obtain rfl : k = min e 0 := by simpa using hk
    rw [shortestFrom, Decimal.value, Grid.quarters_floor s _ _ hd]
    exact Span.covers_middle hl hh
  | succ n ih =>
    rw [shortestFrom]
    cases hp : (Grid.ofExponents k e).pick? s tie with
    | some c => exact (Grid.contains_iff s k e c).mp (Grid.of_pick?_eq_some s hp).1
    | none => exact ih (by push_cast at hk; omega)

theorem Magnitude.le_decimalTop (m : Magnitude) : min m.exponent 0 ≤ m.decimalTop := by
  unfold Magnitude.decimalTop
  dsimp only
  split <;> omega

theorem Format.low_lt_middle (f : Format) {m : Magnitude} (hm : 0 < m.significand) :
    (f.span m).low < (f.span m).middle := by
  simp only [Format.span]
  split <;> omega

theorem Format.middle_lt_high (f : Format) (m : Magnitude) :
    (f.span m).middle < (f.span m).high := by
  simp only [Format.span]
  omega

/-- The shortest decimal of a magnitude lies in its span. -/
theorem Format.covers_shortest (f : Format) (tie : Tie) {m : Magnitude} (hm : 0 < m.significand) :
    (f.span m).Covers (quarters m.exponent (f.shortest tie m).value) := by
  have ht := m.le_decimalTop
  rw [Format.shortest, if_neg hm.ne']
  refine covers_shortestFrom tie (f.low_lt_middle hm) (f.middle_lt_high m)
    (Grid.step_dvd m.exponent m.significand) ?_
  omega

section Spans

theorem significand_rung (n : ℕ) :
    (rung n).significand = n % 8388608 + if n / 8388608 = 0 then 0 else 8388608 := by
  unfold rung
  split <;> rfl

theorem exponent_rung (n : ℕ) : (rung n).exponent = max ((n / 8388608 : ℕ) : ℤ) 1 - 150 := by
  unfold rung
  split <;> dsimp only <;> omega

theorem significand_rung_mod_two (n : ℕ) : (rung n).significand % 2 = n % 2 := by
  have h : n % 8388608 % 2 = n % 2 := Nat.mod_mod_of_dvd n (by decide)
  rw [significand_rung]
  split
  · exact h
  · rw [← h]
    exact Nat.add_mul_mod_self_left _ 2 4194304

theorem significand_pos {n : ℕ} (hn : 0 < n) : 0 < (rung n).significand := by
  rw [significand_rung]
  split <;> omega

/-- The unit in the last place is halved below a power of two, but for the least one. -/
theorem exponent_before (k : ℕ) :
    (rung k).exponent =
      if (rung (k + 1)).significand = 8388608 ∧ -149 < (rung (k + 1)).exponent
      then (rung (k + 1)).exponent - 1 else (rung (k + 1)).exponent := by
  rw [exponent_rung, exponent_rung, significand_rung]
  split <;> split at * <;> omega

theorem span_high (n : ℕ) :
    2 * ((Format.single.span (rung n)).high * 2 ^ ((rung n).exponent - 2)) =
      height n + height (n + 1) := by
  rw [height_succ, height, Magnitude.value, zpow_sub₀ two_ne_zero]
  simp only [Format.span]
  push_cast
  ring

theorem low_single (m : Magnitude) :
    (Format.single.span m).low =
      if m.significand = 8388608 ∧ -149 < m.exponent then 4 * m.significand - 1
      else 4 * m.significand - 2 := rfl

theorem span_low (k : ℕ) :
    2 * ((Format.single.span (rung (k + 1))).low * 2 ^ ((rung (k + 1)).exponent - 2)) =
      height k + height (k + 1) := by
  have hs : 0 < (rung (k + 1)).significand := significand_pos (Nat.succ_pos k)
  have hk : height k = height (k + 1) - 2 ^ (rung k).exponent :=
    eq_sub_of_add_eq (height_succ k).symm
  rw [hk, exponent_before k, low_single, height, Magnitude.value, zpow_sub₀ two_ne_zero]
  by_cases h : (rung (k + 1)).significand = 8388608 ∧ -149 < (rung (k + 1)).exponent
  · rw [if_pos h, if_pos h, zpow_sub_one₀ two_ne_zero]
    push_cast [show 1 ≤ 4 * (rung (k + 1)).significand by omega]
    ring
  · rw [if_neg h, if_neg h]
    push_cast [show 2 ≤ 4 * (rung (k + 1)).significand by omega]
    ring

/-- The span of a single is made of the numbers that are nearest to it. -/
theorem covers_iff_within {n : ℕ} (hn : 0 < n) (r : ℚ) :
    (Format.single.span (rung n)).Covers (quarters (rung n).exponent r) ↔ Within n r := by
  obtain ⟨k, rfl⟩ : ∃ k, n = k + 1 := ⟨n - 1, by omega⟩
  have hp : (0 : ℚ) < 2 ^ ((rung (k + 1)).exponent - 2) := by positivity
  have hc : (Format.single.span (rung (k + 1))).closed = false ↔ (k + 1) % 2 = 1 := by
    rw [← significand_rung_mod_two]
    simp [Format.span]
  have hl := span_low k
  have hh := span_high (k + 1)
  rw [Span.Covers, quarters, le_div_iff₀ hp, div_le_iff₀ hp, lt_div_iff₀ hp, div_lt_iff₀ hp, hc,
    Within, ← hh]
  constructor
  · rintro ⟨⟨h₁, h₂⟩, h⟩
    refine ⟨fun j hj => ?_, by linarith, fun ho => by linarith [(h ho).2]⟩
    obtain rfl : k = j := by omega
    rw [← hl]
    exact ⟨by linarith, fun ho => by linarith [(h ho).1]⟩
  · rintro ⟨h, h₂, h₂'⟩
    obtain ⟨h₁, h₁'⟩ := h k rfl
    rw [← hl] at h₁ h₁'
    exact ⟨⟨by linarith, by linarith⟩, fun ho => ⟨by linarith [h₁' ho], by linarith [h₂' ho]⟩⟩

end Spans

section Least

variable {s : Span} {e : ℤ}

theorem quarters_mono (e : ℤ) : Monotone (quarters e) := fun a b h => by
  unfold quarters
  gcongr

theorem Grid.floor_le_middle (s : Span) (k e : ℤ) :
    quarters e ((Grid.ofExponents k e).floor s * 10 ^ k) ≤ s.middle ∧
      (s.middle : ℚ) ≤ quarters e (((Grid.ofExponents k e).floor s + 1 : ℕ) * 10 ^ k) := by
  have hs : (0 : ℚ) < (Grid.ofExponents k e).scale := by exact_mod_cast Grid.scale_pos k e
  have hp := Grid.step_pos k e
  rw [Grid.quarters_eq, Grid.quarters_eq, div_le_iff₀ hs, le_div_iff₀ hs]
  constructor
  · exact_mod_cast Nat.div_mul_le_self _ _
  · exact_mod_cast (Nat.lt_mul_of_div_lt (Nat.lt_succ_self _) hp).le

/-- Where neither neighbour of the middle is in the span no point of the grid is. -/
theorem Grid.not_covers_of_pick? (hl : s.low < s.middle) (hh : s.middle < s.high) {k : ℤ}
    {tie : Tie} (h : (Grid.ofExponents k e).pick? s tie = none) (c : ℕ) :
    ¬ s.Covers (quarters e (c * 10 ^ k)) := by
  intro hc
  have hm := Span.covers_middle hl hh
  obtain ⟨hf, hf'⟩ := Grid.floor_le_middle s k e
  have hn := Grid.of_pick?_eq_none s h
  rw [← Bool.not_eq_true, ← Bool.not_eq_true, Grid.contains_iff, Grid.contains_iff] at hn
  obtain hle | hlt := le_or_gt c ((Grid.ofExponents k e).floor s)
  · refine hn.1 (hc.between hm (quarters_mono e ?_) hf)
    gcongr
  · refine hn.2 (hm.between hc hf' (quarters_mono e ?_))
    gcongr
    exact hlt

/-- The decimal that is found is a point of the first grid, or else there is none on the grid before
its own. -/
theorem shortestFrom_coarsest (tie : Tie) (hl : s.low < s.middle) (hh : s.middle < s.high) (n : ℕ)
    (k : ℤ) :
    let d := shortestFrom s e tie n k
    (d.exponent = k ∧ d.coefficient ≤ (Grid.ofExponents k e).floor s + 1) ∨
      ∀ c : ℕ, ¬ s.Covers (quarters e (c * 10 ^ (d.exponent + 1))) := by
  induction n generalizing k with
  | zero => exact .inl ⟨rfl, Nat.le_succ _⟩
  | succ n ih =>
    rw [shortestFrom]
    cases hp : (Grid.ofExponents k e).pick? s tie with
    | some c => exact .inl ⟨rfl, (Grid.of_pick?_eq_some s hp).2⟩
    | none =>
      refine .inr ?_
      obtain ⟨he, -⟩ | h := ih (k - 1)
      · dsimp only
        rw [he, sub_add_cancel]
        exact Grid.not_covers_of_pick? hl hh hp
      · exact h

theorem two_pow_le (n : ℕ) : 2 ^ n ≤ 10 ^ (n * 31 / 100 + 1) := by
  refine le_of_pow_le_pow_left₀ (n := 100) (by decide) (Nat.zero_le _) ?_
  calc (2 ^ n) ^ 100 = (2 ^ 100) ^ n := pow_right_comm 2 n 100
    _ ≤ (10 ^ 31) ^ n := Nat.pow_le_pow_left (by norm_num) n
    _ = 10 ^ (31 * n) := (pow_mul 10 31 n).symm
    _ ≤ 10 ^ ((n * 31 / 100 + 1) * 100) := Nat.pow_le_pow_right (by decide) (by omega)
    _ = (10 ^ (n * 31 / 100 + 1)) ^ 100 := pow_mul ..

theorem ten_pow_le (n : ℕ) : 10 ^ (n * 3 / 10) ≤ 2 ^ n := by
  refine le_of_pow_le_pow_left₀ (n := 10) (by decide) (Nat.zero_le _) ?_
  calc (10 ^ (n * 3 / 10)) ^ 10 = 10 ^ (n * 3 / 10 * 10) := (pow_mul ..).symm
    _ ≤ 10 ^ (3 * n) := Nat.pow_le_pow_right (by decide) (by omega)
    _ = (10 ^ 3) ^ n := pow_mul ..
    _ ≤ (2 ^ 10) ^ n := Nat.pow_le_pow_left (by norm_num) n
    _ = (2 ^ n) ^ 10 := pow_right_comm 2 10 n

theorem Magnitude.value_lt (m : Magnitude) : m.value < 10 ^ m.decimalTop := by
  have hs : (m.significand : ℚ) < 2 ^ ((m.significand.log2 : ℤ) + 1) := by
    exact_mod_cast Nat.lt_log2_self
  have hv : m.value < 2 ^ ((m.significand.log2 : ℤ) + 1 + m.exponent) := by
    rw [value, zpow_add₀ two_ne_zero (_ + 1)]
    gcongr
  refine hv.trans_le ?_
  rw [decimalTop]
  generalize (m.significand.log2 : ℤ) + 1 + m.exponent = z
  obtain ⟨n, rfl | rfl⟩ := z.eq_nat_or_neg
  · rw [if_pos (Int.natCast_nonneg n)]
    exact_mod_cast two_pow_le n
  · by_cases hn : n = 0
    · subst hn
      norm_num
    · have hj : -(-(n : ℤ)) * 3 / 10 = (n * 3 / 10 : ℕ) := by omega
      rw [if_neg (by omega), hj, zpow_neg, zpow_neg]
      refine inv_anti₀ (by positivity) ?_
      exact_mod_cast ten_pow_le n

theorem Format.middle_eq (f : Format) (m : Magnitude) :
    ((f.span m).middle : ℚ) = quarters m.exponent m.value := by
  rw [quarters, Magnitude.value, zpow_sub₀ two_ne_zero, Format.span]
  push_cast
  field_simp

theorem ten_pow_pred_le {c n : ℕ} (hn : 0 < n) (h : n < (Nat.toDigits 10 c).length) :
    10 ^ n ≤ c := by
  rw [← not_lt, ← Nat.length_toDigits_le_iff (by decide) hn]
  omega

theorem Format.shortest_coarsest (f : Format) (tie : Tie) {m : Magnitude}
    (hm : 0 < m.significand) :
    (f.shortest tie m).coefficient ≤ 1 ∨
      ∀ c : ℕ, ¬ (f.span m).Covers
        (quarters m.exponent (c * 10 ^ ((f.shortest tie m).exponent + 1))) := by
  rw [Format.shortest, if_neg hm.ne']
  dsimp only
  refine (shortestFrom_coarsest tie (f.low_lt_middle hm) (f.middle_lt_high m) _ _).imp_left ?_
  rintro ⟨-, hc⟩
  -- On the first grid the magnitude comes before the first point after zero.
  have hf := (Grid.floor_le_middle (f.span m) m.decimalTop m.exponent).1
  rw [f.middle_eq, quarters, quarters, div_le_div_iff_of_pos_right (by positivity)] at hf
  have hlt := hf.trans_lt m.value_lt
  rw [mul_lt_iff_lt_one_left (by positivity)] at hlt
  have h₀ : (Grid.ofExponents m.decimalTop m.exponent).floor (f.span m) < 1 := by
    exact_mod_cast hlt
  omega

/-- No decimal with fewer digits lies in the span of a magnitude. -/
theorem Format.shortest_least (f : Format) (tie : Tie) {m : Magnitude} (hm : 0 < m.significand)
    {d : Decimal} (hd : (f.span m).Covers (quarters m.exponent d.value)) :
    (Nat.toDigits 10 (f.shortest tie m).coefficient).length ≤
      (Nat.toDigits 10 d.coefficient).length := by
  have hcov := f.covers_shortest tie hm
  have hpos : 0 < (Nat.toDigits 10 d.coefficient).length := Nat.length_toDigits_pos
  obtain h₁ | hn := f.shortest_coarsest tie hm
  · exact ((Nat.length_toDigits_le_iff (by decide) one_pos).mpr (by omega)).trans hpos
  · generalize f.shortest tie m = b at hcov hn ⊢
    by_contra hlt
    obtain hj | hj := lt_or_ge b.exponent d.exponent
    · -- A point of a coarser grid is one of all finer grids.
      refine hn (d.coefficient * 10 ^ (d.exponent - (b.exponent + 1)).toNat) ?_
      have he : d.exponent = ((d.exponent - (b.exponent + 1)).toNat : ℤ) + (b.exponent + 1) := by
        omega
      rw [Decimal.value, he, zpow_add₀ (by norm_num), zpow_natCast] at hd
      push_cast
      rwa [mul_assoc]
    · -- Between the two lies a power of ten, a point of the next grid.
      obtain ⟨n, hn'⟩ : ∃ n, (Nat.toDigits 10 d.coefficient).length = n + 1 :=
        ⟨_, (Nat.succ_pred hpos.ne').symm⟩
      have hb := ten_pow_pred_le hpos (not_le.mp hlt)
      have hdlt := (Nat.length_toDigits_le_iff (by decide) hpos).mp le_rfl
      rw [hn'] at hb hdlt
      have hp : ((10 ^ n : ℕ) : ℚ) * 10 ^ (b.exponent + 1) = 10 ^ (n + 1) * 10 ^ b.exponent := by
        rw [zpow_add_one₀ (by norm_num)]
        push_cast
        ring
      refine hn (10 ^ n) (hd.between hcov (quarters_mono _ ?_) (quarters_mono _ ?_))
      · rw [hp, Decimal.value]
        have hc : (d.coefficient : ℚ) ≤ 10 ^ (n + 1) := by exact_mod_cast hdlt.le
        have he : (10 : ℚ) ^ d.exponent ≤ 10 ^ b.exponent := zpow_le_zpow_right₀ (by norm_num) hj
        gcongr
      · rw [hp, Decimal.value]
        have hc : (10 : ℚ) ^ (n + 1) ≤ b.coefficient := by exact_mod_cast hb
        gcongr

end Least

end AmbientPulse.Number
