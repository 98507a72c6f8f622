import Mathlib.Data.Rat.Floor
import AmbientPulse.Event
import AmbientPulse.Proofs.Number.Value

namespace AmbientPulse

namespace Number

def towardZero (q : ℚ) : ℤ :=
  if 0 ≤ q then ⌊q⌋ else ⌈q⌉

def clampInt32 (n : ℤ) : ℤ :=
  max (-2 ^ 31) (min (2 ^ 31 - 1) n)

/-- The integer that a point of the extended line is cut down to. -/
def cutDown : WithBot (WithTop ℚ) → ℤ
  | ⊥ => -2 ^ 31
  | ((⊤ : WithTop ℚ) : WithBot (WithTop ℚ)) => 2 ^ 31 - 1
  | (((q : ℚ) : WithTop ℚ) : WithBot (WithTop ℚ)) => clampInt32 (towardZero q)

theorem towardZero_neg (q : ℚ) : towardZero (-q) = -towardZero q := by
  obtain h | rfl | h := lt_trichotomy q 0
  · rw [towardZero, towardZero, if_pos (by linarith), if_neg (by linarith), Int.floor_neg]
  · simp [towardZero]
  · rw [towardZero, towardZero, if_neg (by linarith), if_pos h.le, Int.ceil_neg]

theorem towardZero_natCast_div (n d : ℕ) : towardZero ((n : ℚ) / d) = n / d := by
  rw [towardZero, if_pos (by positivity)]
  exact Rat.floor_natCast_div_natCast n d

theorem towardZero_mono {p q : ℚ} (h : p ≤ q) : towardZero p ≤ towardZero q := by
  unfold towardZero
  split <;> split
  · exact Int.floor_mono h
  · linarith
  · next hp hq =>
    exact (Int.ceil_le.mpr (by simpa using (not_le.mp hp).le)).trans (Int.floor_nonneg.mpr hq)
  · exact Int.ceil_mono h

theorem towardZero_intCast (n : ℤ) : towardZero n = n := by
  unfold towardZero
  split <;> simp

theorem towardZero_of_abs_lt_one {q : ℚ} (h : |q| < 1) : towardZero q = 0 := by
  obtain ⟨hl, hu⟩ := abs_lt.mp h
  unfold towardZero
  split
  · next hq => exact Int.floor_eq_zero_iff.mpr ⟨hq, hu⟩
  · next hq => exact Int.ceil_eq_zero_iff.mpr ⟨hl, (not_le.mp hq).le⟩

theorem clampInt32_mono {m n : ℤ} (h : m ≤ n) : clampInt32 m ≤ clampInt32 n :=
  max_le_max le_rfl (min_le_min le_rfl h)

theorem clampInt32_mem (n : ℤ) : -2 ^ 31 ≤ clampInt32 n ∧ clampInt32 n ≤ 2 ^ 31 - 1 := by
  unfold clampInt32
  omega

theorem clampInt32_of_mem {n : ℤ} (hl : -2 ^ 31 ≤ n) (hu : n < 2 ^ 31) : clampInt32 n = n := by
  unfold clampInt32
  omega

theorem cutDown_mem (a : WithBot (WithTop ℚ)) : -2 ^ 31 ≤ cutDown a ∧ cutDown a ≤ 2 ^ 31 - 1 := by
  induction a using WithBot.recBotCoe with
  | bot => simp [cutDown]
  | coe a =>
    induction a using WithTop.recTopCoe with
    | top => simp [cutDown]
    | coe q => exact clampInt32_mem _

theorem cutDown_mono {a b : WithBot (WithTop ℚ)} (h : a ≤ b) : cutDown a ≤ cutDown b := by
  induction a using WithBot.recBotCoe with
  | bot => exact (cutDown_mem b).1
  | coe a =>
    induction b using WithBot.recBotCoe with
    | bot => exact absurd h (WithBot.not_coe_le_bot a)
    | coe b =>
      induction b using WithTop.recTopCoe with
      | top => exact (cutDown_mem _).2
      | coe q =>
        obtain ⟨p, rfl, hp⟩ := WithTop.le_coe_iff.mp (WithBot.coe_le_coe.mp h)
        exact clampInt32_mono (towardZero_mono hp)

namespace Single

theorem towardZero_value (x : Single) :
    towardZero x.value =
      if x.negative then -((x.magnitude.num : ℤ) / x.magnitude.den)
      else (x.magnitude.num : ℤ) / x.magnitude.den := by
  have h : towardZero x.size = x.magnitude.num / x.magnitude.den := by
    rw [← x.value_magnitude, ← x.magnitude.num_div_den, towardZero_natCast_div]
  rw [value, signed]
  split
  · rw [towardZero_neg, h]
  · exact h

theorem truncate_of_isNaN {x : Single} (h : x.isNaN = true) : x.truncate = 0 := by
  rw [truncate, datum_eq, if_pos h]

theorem toInt_truncate {x : Single} {a : WithBot (WithTop ℚ)} (h : x.point? = some a) :
    x.truncate.toInt = cutDown a := by
  rw [point?] at h
  rw [truncate, datum_eq]
  split at h
  · cases h
  · next hn =>
    rw [if_neg hn]
    split at h
    · next hf =>
      cases h
      obtain ⟨hl, hu⟩ := clampInt32_mem (towardZero x.value)
      rw [if_pos hf]
      dsimp only
      rw [← towardZero_value]
      exact Int32.toInt_ofInt_of_le hl (by omega)
    · next hf =>
      cases h
      rw [if_neg hf]
      cases x.negative <;> rfl

/-- A zero or a subnormal number. -/
theorem abs_value_lt_one {x : Single} (h : x.exponentField = 0) : |x.value| < 1 := by
  have hf : (x.fractionField : ℚ) < 2 ^ 23 := by exact_mod_cast x.fractionField_lt
  have hs : x.size < 1 := by
    rw [size, if_pos h]
    have hd : (x.fractionField : ℚ) / 2 ^ 23 ≤ 1 := (div_le_one (by positivity)).mpr hf.le
    calc (2 : ℚ) ^ (-126 : ℤ) * (x.fractionField / 2 ^ 23)
        ≤ 2 ^ (-126 : ℤ) * 1 := by gcongr
      _ < 1 := by norm_num
  have h₀ : 0 ≤ x.size := by
    rw [size, if_pos h]
    positivity
  rw [value, signed]
  split <;> simpa [abs_of_nonneg h₀] using hs

end Single

end Number

namespace Event

open Number

theorem subtype_eq (e : Event) : e.subtype = (e.values.head?.map Single.truncate).getD 0 := by
  rw [subtype]
  cases e.values <;> rfl

/-- The subtype of an event is the number that its first value stands for, cut down to an integer of
32 bits, and zero where there is none. -/
theorem subtype_cut_down (e : Event) :
    (∀ e' : Event, e'.values.head? = e.values.head? → e'.subtype = e.subtype) ∧
    (e.values.head? = none → e.subtype = 0) ∧
    ∀ x, e.values.head? = some x →
      (x.isNaN = true → e.subtype = 0) ∧
      (x.isNaN = false → x.isFinite = false →
        e.subtype = if x.negative then Int32.minValue else Int32.maxValue) ∧
      (x.isFinite = true → e.subtype.toInt = clampInt32 (towardZero x.value)) ∧
      (∀ (e' : Event) y a b, e'.values.head? = some y → x.point? = some a → y.point? = some b →
        a ≤ b → e.subtype.toInt ≤ e'.subtype.toInt) ∧
      (x.exponentField = 0 → e.subtype = 0) ∧
      ∀ n : ℤ, x.isFinite = true → x.value = n → -2 ^ 31 ≤ n → n < 2 ^ 31 →
        e.subtype.toInt = n := by
  refine ⟨fun e' h => by rw [subtype_eq, subtype_eq, h], fun h => by rw [subtype_eq, h]; rfl,
    fun x hx => ?_⟩
  have he : ∀ {e' : Event} {y : Single}, e'.values.head? = some y → e'.subtype = y.truncate :=
    fun {e' y} hy => by rw [subtype_eq, hy, Option.map_some, Option.getD_some]
  have hf : x.isFinite = true → x.truncate.toInt = clampInt32 (towardZero x.value) := fun hf =>
    Single.toInt_truncate (Single.point?_of_isFinite hf)
  rw [he hx]
  refine ⟨Single.truncate_of_isNaN, fun hn hf => ?_, hf, fun e' y a b hy ha hb hab => ?_,
    fun h₀ => ?_, fun n hn hv hl hu => ?_⟩
  · rw [Single.truncate, Single.datum_eq, hn, hf]
    rfl
  · rw [he hy, Single.toInt_truncate ha, Single.toInt_truncate hb]
    exact cutDown_mono hab
  · have hn : x.isFinite = true := by simp [Single.isFinite, h₀]
    rw [← Int32.toInt_inj, hf hn, towardZero_of_abs_lt_one (Single.abs_value_lt_one h₀)]
    rfl
  · rw [hf hn, hv, towardZero_intCast, clampInt32_of_mem hl hu]

/-- The greatest single below `2 ^ 31`, that bound itself, an infinity, a subnormal number, and no
number. -/
theorem subtype_cut_down_bounds :
    let s : Sensor := ⟨1, "", .significantMotion, ""⟩
    let below : Single := ⟨0x4effffff⟩
    let bound : Single := ⟨0x4f000000⟩
    let infinite : Single := ⟨0xff800000⟩
    let e : Event := ⟨s, 0, [below, ⟨0⟩]⟩
    let e' : Event := ⟨s, 0, [bound]⟩
    (below.isFinite = true ∧ below.value = (2147483520 : ℤ) ∧ e.subtype.toInt = 2147483520) ∧
      (bound.isFinite = true ∧ e'.subtype.toInt = clampInt32 (towardZero bound.value)) ∧
      (below.value ≤ bound.value ∧ e.subtype.toInt ≤ e'.subtype.toInt) ∧
      (infinite.isFinite = false ∧ (⟨s, 0, [infinite]⟩ : Event).subtype = Int32.minValue) ∧
      (⟨s, 0, [⟨0x80000001⟩]⟩ : Event).subtype = 0 ∧
      (⟨s, 0, [⟨0xffc00001⟩]⟩ : Event).subtype = 0 ∧ (⟨s, 0, []⟩ : Event).subtype = 0 := by
  intro s below bound infinite e e'
  have hf : below.isFinite = true := by decide
  have hf' : bound.isFinite = true := by decide
  have hi : infinite.isFinite = false := by decide
  have hv : below.value = (2147483520 : ℤ) := by decide +kernel
  have hle : below.value ≤ bound.value := by decide +kernel
  obtain ⟨-, -, h⟩ := subtype_cut_down e
  obtain ⟨-, -, -, hm, -, hn⟩ := h below rfl
  obtain ⟨-, -, h'⟩ := subtype_cut_down e'
  obtain ⟨-, -, hc, -⟩ := h' bound rfl
  obtain ⟨-, -, hinf⟩ := subtype_cut_down ⟨s, 0, [infinite]⟩
  obtain ⟨-, -, hsub⟩ := subtype_cut_down ⟨s, 0, [⟨0x80000001⟩]⟩
  obtain ⟨-, -, hnan⟩ := subtype_cut_down ⟨s, 0, [⟨0xffc00001⟩]⟩
  obtain ⟨-, hnone, -⟩ := subtype_cut_down ⟨s, 0, []⟩
  refine ⟨⟨hf, hv, hn 2147483520 hf hv (by norm_num) (by norm_num)⟩, ⟨hf', hc hf'⟩,
    ⟨hle, ?_⟩, ⟨hi, ?_⟩, ?_, (hnan _ rfl).1 (by decide), hnone rfl⟩
  · exact hm e' bound _ _ rfl (Single.point?_of_isFinite hf) (Single.point?_of_isFinite hf')
      (WithBot.coe_le_coe.mpr (WithTop.coe_le_coe.mpr hle))
  · obtain ⟨-, hb, -⟩ := hinf infinite rfl
    exact (hb (by decide) hi).trans (if_pos (by decide))
  · obtain ⟨-, -, -, -, hz, -⟩ := hsub _ rfl
    exact hz (by decide)

end Event

end AmbientPulse
