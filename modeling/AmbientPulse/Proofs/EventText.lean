import AmbientPulse.Event
import AmbientPulse.Proofs.Json.Object
import AmbientPulse.Proofs.Number.Positional

namespace AmbientPulse.Event

open Number

/-- One comma and one item for each value. -/
def items (vs : List Single) : List Char :=
  vs.flatMap fun v => ',' :: v.text.toList

theorem toList_text (e : Event) :
    e.text.toList =
      "TriggerEvent[".toList ++ (Nat.toDigits 10 e.timestamp.toNat ++
        ',' :: (e.sensor.name.toList ++ (items e.values ++ [']']))) := by
  have ht : e.text = "TriggerEvent[" ++ toString e.timestamp.toNat ++ "," ++ e.sensor.name ++
      String.join (e.values.map fun v => "," ++ v.text) ++ "]" := rfl
  have h : (String.join (e.values.map fun v => "," ++ v.text)).toList = items e.values := by
    simp [items, List.flatMap_map]
  simp [ht, h]

/-- What comes before the first comma, and what after it, is determined by the whole. -/
theorem append_comma_inj {l l' r r' : List Char} (hl : ',' ∉ l) (hl' : ',' ∉ l')
    (h : l ++ ',' :: r = l' ++ ',' :: r') : l = l' ∧ r = r' := by
  have hs : ∀ {l r : List Char}, ',' ∉ l → (l ++ ',' :: r).takeWhile (· ≠ ',') = l := fun hl => by
    rw [List.takeWhile_append_of_pos fun b hb => decide_eq_true (ne_of_mem_of_not_mem hb hl),
      List.takeWhile_cons_of_neg (by simp), List.append_nil]
  obtain rfl : l = l' := by rw [← hs hl, h, hs hl']
  exact ⟨rfl, List.tail_eq_of_cons_eq (List.append_cancel_left h)⟩

theorem splitOn_items (vs : List Single) :
    (items vs).splitOn ',' = [] :: vs.map fun v => v.text.toList := by
  have hj : items vs = List.intercalate [','] ([] :: vs.map fun v => v.text.toList) := by
    rw [Json.intercalate_cons, List.flatMap_map]
    rfl
  rw [hj, List.splitOn_intercalate ',' ?_ (List.cons_ne_nil _ _)]
  intro l hl
  obtain rfl | hl := List.mem_cons.mp hl
  · exact List.not_mem_nil
  · obtain ⟨v, -, rfl⟩ := List.mem_map.mp hl
    exact Single.not_mem_text

theorem items_eq_iff {vs ws : List Single} :
    items vs = items ws ↔ List.Forall₂ Single.Alike vs ws := by
  have hm : items vs = items ws ↔ vs.map Single.text = ws.map Single.text := by
    constructor
    · intro h
      have hs := congrArg (List.splitOn ',') h
      rw [splitOn_items, splitOn_items] at hs
      have ht := congrArg (List.map String.ofList) (List.tail_eq_of_cons_eq hs)
      simpa [Function.comp_def] using ht
    · intro h
      have hi : ∀ us, items us = (us.map Single.text).flatMap fun t => ',' :: t.toList :=
        fun us => by
        rw [List.flatMap_map]
        rfl
      rw [hi, hi, h]
  rw [hm, ← List.forall₂_eq_eq_eq, List.forall₂_map_left_iff, List.forall₂_map_right_iff]
  simp only [Single.text_eq_iff]

theorem toDigits_inj {m n : ℕ} : Nat.toDigits 10 m = Nat.toDigits 10 n ↔ m = n := by
  refine ⟨fun h => ?_, congrArg _⟩
  rw [← Nat.ofDigitChars_ten_toDigits (n := m), h, Nat.ofDigitChars_ten_toDigits]

theorem comma_not_mem_toDigits (n : ℕ) : ',' ∉ Nat.toDigits 10 n := fun h => by
  have hd := Nat.isDigit_of_mem_toDigits (by decide) (by decide) h
  revert hd
  decide

theorem text_eq_iff {e e' : Event} (hn : e.sensor.name = e'.sensor.name) :
    e.text = e'.text ↔
      e.timestamp = e'.timestamp ∧ List.Forall₂ Single.Alike e.values e'.values := by
  rw [← String.toList_inj, toList_text, toList_text, List.append_right_inj, hn, ← items_eq_iff,
    ← UInt64.toNat_inj, ← toDigits_inj]
  constructor
  · intro h
    obtain ⟨ht, hr⟩ := append_comma_inj (comma_not_mem_toDigits _) (comma_not_mem_toDigits _) h
    exact ⟨ht, List.append_cancel_right (List.append_cancel_left hr)⟩
  · rintro ⟨ht, hi⟩
    rw [ht, hi]

/-- Nothing is lost in an event's text, except for which of the NaNs a value was. After the
timestamp and the sensor's name comes one item for each value, and it is read as that value only. -/
theorem text_shows (e : Event) :
    e.text.toList =
        "TriggerEvent[".toList ++ (Nat.toDigits 10 e.timestamp.toNat ++
          ',' :: (e.sensor.name.toList ++
            ((e.values.flatMap fun v => ',' :: v.text.toList) ++ [']']))) ∧
      (∀ v ∈ e.values, ',' ∉ v.text.toList ∧ v.Shows v.text.toList) ∧
      ∀ e' : Event, e.sensor.name = e'.sensor.name →
        (e.text = e'.text ↔
          e.timestamp = e'.timestamp ∧ List.Forall₂ Single.Alike e.values e'.values) :=
  ⟨e.toList_text, fun v _ => ⟨Single.not_mem_text, v.shows_text⟩, fun _ => text_eq_iff⟩

/-- A zero with a sign, the least number above zero, an infinity, and two NaNs. -/
theorem text_shows_nan :
    let s : Sensor := ⟨1, "a,b", .vendor, "t"⟩
    let e : Event := ⟨s, 7, [⟨2147483648⟩, ⟨1⟩, ⟨4286578688⟩, ⟨2143289344⟩]⟩
    let e' : Event := ⟨s, 7, [⟨2147483648⟩, ⟨1⟩, ⟨4286578688⟩, ⟨4290772993⟩]⟩
    e.text = "TriggerEvent[7,a,b,-0,0.000000000000000000000000000000000000000000001,-inf,NaN]" ∧
      (⟨1⟩ ∈ e.values ∧ (⟨1⟩ : Single).Shows (⟨1⟩ : Single).text.toList) ∧
      e.sensor.name = e'.sensor.name ∧ e.text = e'.text ∧
      e.timestamp = e'.timestamp ∧ List.Forall₂ Single.Alike e.values e'.values := by
  intro s e e'
  have hm : ⟨1⟩ ∈ e.values := by decide
  have ht : e.text = e'.text := by decide +kernel
  exact ⟨by decide +kernel, ⟨hm, ((text_shows e).2.1 _ hm).2⟩, rfl, ht,
    ((text_shows e).2.2 e' rfl).mp ht⟩

end AmbientPulse.Event
