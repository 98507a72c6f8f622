import Mathlib.Data.List.Forall2
import Mathlib.Data.List.Induction
import AmbientPulse.Subtype.Spec

namespace AmbientPulse

namespace Number

/-- Digits from left to right: one more makes ten times the number and that digit. -/
inductive Numeral : List Char → Nat → Prop
  | digit {c : Char} (hc : c.isDigit = true) : Numeral [c] (c.toNat - '0'.toNat)
  | next {cs : List Char} {n : Nat} {c : Char} (h : Numeral cs n) (hc : c.isDigit = true) :
      Numeral (cs ++ [c]) (10 * n + (c.toNat - '0'.toNat))

/-- Integers in decimal. Zeros may lead, and a plus sign is as good as none. -/
inductive Spells : List Char → Int → Prop
  | bare {cs : List Char} {n : Nat} (h : Numeral cs n) : Spells cs n
  | plus {cs : List Char} {n : Nat} (h : Numeral cs n) : Spells ('+' :: cs) n
  | minus {cs : List Char} {n : Nat} (h : Numeral cs n) : Spells ('-' :: cs) (-n)

theorem Numeral.digits {cs : List Char} {n : Nat} (h : Numeral cs n) :
    cs ≠ [] ∧ ∀ c ∈ cs, c.isDigit = true := by
  induction h with
  | digit hc => simp [hc]
  | next h hc ih =>
    refine ⟨by simp, fun c hm => ?_⟩
    obtain hm | hm := List.mem_append.mp hm
    · exact ih.2 c hm
    · rwa [List.mem_singleton.mp hm]

theorem Numeral.eq_ofDigitChars {cs : List Char} {n : Nat} (h : Numeral cs n) :
    n = Nat.ofDigitChars 10 cs 0 := by
  induction h with
  | digit hc => simp [Nat.ofDigitChars]
  | next h hc ih => rw [Nat.ofDigitChars_append, ← ih]; simp [Nat.ofDigitChars]

theorem numeral_of_digits {cs : List Char} (hn : cs ≠ []) (hd : ∀ c ∈ cs, c.isDigit = true) :
    Numeral cs (Nat.ofDigitChars 10 cs 0) := by
  induction cs using List.reverseRecOn with
  | nil => exact absurd rfl hn
  | append_singleton cs c ih =>
    have hc : c.isDigit = true := hd c (by simp)
    rw [Nat.ofDigitChars_append, Nat.ofDigitChars_cons]
    by_cases hs : cs = []
    · subst hs
      simpa using Numeral.digit hc
    · simpa using (ih hs fun d hm => hd d (by simp [hm])).next hc

theorem natural?_eq_some_iff {cs : List Char} {n : Nat} :
    natural? cs = some n ↔ Numeral cs n := by
  unfold natural?
  constructor
  · intro h
    split at h
    · cases h
    · next hd =>
      obtain rfl := Option.some.inj h
      rw [Bool.or_eq_true, not_or, List.isEmpty_iff, Bool.not_eq_true', Bool.not_eq_false,
        List.all_eq_true] at hd
      exact numeral_of_digits hd.1 hd.2
  · intro h
    have hd := h.digits
    rw [if_neg (by simpa using hd), ← h.eq_ofDigitChars]

theorem Numeral.unsigned {cs : List Char} {n : Nat} (h : Numeral cs n) (ds : List Char) :
    cs ≠ '-' :: ds ∧ cs ≠ '+' :: ds := by
  constructor <;> rintro rfl <;> cases h.digits.2 _ (List.mem_cons_self ..)

theorem signed?_eq_some_iff {cs : List Char} {z : Int} : signed? cs = some z ↔ Spells cs z := by
  constructor
  · intro h
    unfold signed? unsigned? at h
    split at h
    · obtain ⟨m, hm, rfl⟩ := Option.map_eq_some_iff.mp h
      obtain ⟨n, hn, hc⟩ := Option.bind_eq_some_iff.mp hm
      obtain rfl := Option.some.inj hc
      exact .minus (natural?_eq_some_iff.mp hn)
    · split at h
      · obtain ⟨n, hn, rfl⟩ := Option.map_eq_some_iff.mp h
        exact .plus (natural?_eq_some_iff.mp hn)
      · obtain ⟨n, hn, rfl⟩ := Option.map_eq_some_iff.mp h
        exact .bare (natural?_eq_some_iff.mp hn)
  · intro h
    cases h with
    | bare h =>
      unfold signed? unsigned?
      split
      · exact absurd rfl (h.unsigned _).1
      · split
        · exact absurd rfl (h.unsigned _).2
        · rw [natural?_eq_some_iff.mpr h]
          rfl
    | plus h => simp [signed?, unsigned?, natural?_eq_some_iff.mpr h]
    | minus h => simp [signed?, natural?_eq_some_iff.mpr h]

theorem fitsInt32_toInt (v : Int32) : fitsInt32 v.toInt = true := by
  have hl := v.le_toInt
  have hg := v.toInt_lt
  simp only [fitsInt32, Bool.and_eq_true, decide_eq_true_eq]
  omega

theorem toInt_ofInt_of_fits {z : Int} (h : fitsInt32 z = true) : (Int32.ofInt z).toInt = z := by
  simp only [fitsInt32, Bool.and_eq_true, decide_eq_true_eq] at h
  exact Int32.toInt_ofInt_of_le (by omega) (by omega)

theorem int32?_eq_some_iff {cs : List Char} {v : Int32} :
    int32? cs = some v ↔ Spells cs v.toInt := by
  rw [← signed?_eq_some_iff, int32?, Option.map_eq_some_iff]
  constructor
  · rintro ⟨z, hz, rfl⟩
    obtain ⟨hs, hf⟩ := Option.filter_eq_some_iff.mp hz
    rw [hs, toInt_ofInt_of_fits hf]
  · intro h
    exact ⟨v.toInt, Option.filter_eq_some_iff.mpr ⟨h, fitsInt32_toInt v⟩, v.ofInt_toInt⟩

theorem Spells.mem {cs : List Char} {z : Int} (h : Spells cs z) :
    cs ≠ [] ∧ ∀ c ∈ cs, c.isDigit = true ∨ c = '+' ∨ c = '-' := by
  cases h with
  | bare h => exact ⟨h.digits.1, fun c hc => .inl (h.digits.2 c hc)⟩
  | plus h | minus h =>
    refine ⟨by simp, fun c hc => ?_⟩
    obtain rfl | hc := List.mem_cons.mp hc
    · simp
    · exact .inl (h.digits.2 c hc)

theorem spells_toString (z : Int) : Spells (toString z).toList z := by
  have hd : ∀ n, Numeral (Nat.repr n).toList n := fun n => by
    have h : Numeral (Nat.toDigits 10 n) _ := numeral_of_digits (by simp) fun _ hc =>
      Nat.isDigit_of_mem_toDigits (by decide) (by decide) hc
    rwa [Nat.ofDigitChars_ten_toDigits, ← Nat.toList_repr] at h
  cases z with
  | ofNat n => exact .bare (hd n)
  | negSucc n =>
    have h := Spells.minus (hd (n + 1))
    have ht : (toString (Int.negSucc n)).toList = '-' :: (Nat.repr (n + 1)).toList :=
      String.toList_append
    rwa [ht]

end Number

namespace Subtype

/-- What a piece of a spec says, white space around it aside. -/
inductive Denotes : List Char → Piece → Prop
  | all : Denotes ['*'] (.fallback true)
  | nothing : Denotes ['!', '*'] (.fallback false)
  | listed {cs : List Char} {v : Int32} (h : Number.Spells cs v.toInt) : Denotes cs (.entry v true)
  | barred {cs : List Char} {v : Int32} (h : Number.Spells cs v.toInt) :
      Denotes ('!' :: cs) (.entry v false)

theorem Denotes.mem {text : List Char} {p : Piece} (h : Denotes text p) :
    ∀ c ∈ text, c.isDigit = true ∨ c ∈ ['+', '-', '*', '!'] := by
  have hs : ∀ {cs : List Char} {z : Int}, Number.Spells cs z →
      ∀ c ∈ cs, c.isDigit = true ∨ c ∈ ['+', '-', '*', '!'] := fun h c hc => by
    obtain hd | rfl | rfl := h.mem.2 c hc
    · exact .inl hd
    · simp
    · simp
  cases h with
  | all | nothing => simp
  | listed h => exact hs h
  | barred h => simpa using hs h

/-- Neither white space nor a comma is part of what a piece says. -/
theorem Denotes.plain {text : List Char} {p : Piece} (h : Denotes text p) {c : Char}
    (hc : c ∈ text) : Text.isBlank c = false ∧ c ≠ ',' := by
  obtain hd | hs := h.mem c hc
  · have hn : 48 ≤ c.toNat ∧ c.toNat ≤ 57 := by
      simpa [Char.isDigit, UInt32.le_iff_toNat_le] using hd
    refine ⟨by simp [Text.isBlank]; omega, ?_⟩
    rintro rfl
    simp at hd
  · simp only [List.mem_cons, List.not_mem_nil, or_false] at hs
    obtain rfl | rfl | rfl | rfl := hs <;> decide

theorem spells_head {cs : List Char} {z : Int} (h : Number.Spells cs z) :
    cs ≠ ['*'] ∧ ∀ ds, cs ≠ '!' :: ds := by
  constructor
  · rintro rfl
    have := h.mem.2 '*' (by simp)
    simp at this
  · rintro ds rfl
    have := h.mem.2 '!' (by simp)
    simp at this

namespace Piece

theorem readBody?_eq_some_iff {admitted : Bool} {body : List Char} {p : Piece} :
    readBody? admitted body = some p ↔
      (body = ['*'] ∧ p = .fallback admitted) ∨
        ∃ v : Int32, Number.Spells body v.toInt ∧ p = .entry v admitted := by
  unfold readBody?
  split
  · next hb =>
    subst hb
    have hn : ∀ z, ¬ Number.Spells ['*'] z := fun z h => (spells_head h).1 rfl
    simp [hn, eq_comm]
  · next hb => simp [hb, Option.map_eq_some_iff, Number.int32?_eq_some_iff, @eq_comm _ p]

theorem read?_eq_some_iff {text : List Char} {p : Piece} :
    read? text = some p ↔ Denotes text p := by
  constructor
  · intro h
    unfold read? at h
    split at h
    · obtain ⟨rfl, rfl⟩ | ⟨v, hv, rfl⟩ := readBody?_eq_some_iff.mp h
      · exact .nothing
      · exact .barred hv
    · obtain ⟨rfl, rfl⟩ | ⟨v, hv, rfl⟩ := readBody?_eq_some_iff.mp h
      · exact .all
      · exact .listed hv
  · intro h
    cases h with
    | all | nothing => rfl
    | listed h =>
      unfold read?
      split
      · exact absurd rfl ((spells_head h).2 _)
      · exact readBody?_eq_some_iff.mpr (.inr ⟨_, h, rfl⟩)
    | barred h => exact readBody?_eq_some_iff.mpr (.inr ⟨_, h, rfl⟩)

/-- What a piece settles: one subtype, or all that no other piece settles. -/
def key : Piece → Option Int32
  | fallback _ => none
  | entry v _ => some v

def admitted : Piece → Bool
  | fallback b => b
  | entry _ b => b

theorem ext {p q : Piece} (hk : p.key = q.key) (ha : p.admitted = q.admitted) : p = q := by
  cases p <;> cases q <;> simp_all [key, admitted]

/-- The shortest text of a piece. -/
def text : Piece → List Char
  | fallback true => ['*']
  | fallback false => ['!', '*']
  | entry v true => (toString v.toInt).toList
  | entry v false => '!' :: (toString v.toInt).toList

theorem denotes_text : ∀ p : Piece, Denotes p.text p
  | fallback true => .all
  | fallback false => .nothing
  | entry v true => .listed (Number.spells_toString v.toInt)
  | entry v false => .barred (Number.spells_toString v.toInt)

end Piece

instance (text : List Char) (p : Piece) : Decidable (Denotes text p) :=
  decidable_of_iff _ Piece.read?_eq_some_iff

theorem Denotes.unique {text : List Char} {p q : Piece} (hp : Denotes text p) (hq : Denotes text q) :
    p = q :=
  Option.some.inj ((Piece.read?_eq_some_iff.mpr hp).symm.trans (Piece.read?_eq_some_iff.mpr hq))

end Subtype

end AmbientPulse
