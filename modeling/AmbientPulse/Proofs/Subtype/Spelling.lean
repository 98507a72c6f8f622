import Mathlib.Data.List.Perm.Basic
import AmbientPulse.Proofs.Subtype.Reading

namespace AmbientPulse.Subtype

/-- Two texts say the same. The second one may spell its number in another way, and other white
space may stand around it. -/
def Respells (x y : List Char) : Prop :=
  ∃ l body r p, Text.Blank l ∧ Text.Blank r ∧ y = l ++ body ++ r ∧
    Denotes (Text.trim x) p ∧ Denotes body p

theorem Denotes.trim_eq {text : List Char} {p : Piece} (h : Denotes text p) :
    Text.trim text = text :=
  Text.trim_of_unblank fun _ hc => (h.plain hc).1

theorem Denotes.comma {text : List Char} {p : Piece} (h : Denotes text p) : ',' ∉ text :=
  fun hc => (h.plain hc).2 rfl

theorem Respells.denotes {x y : List Char} (h : Respells x y) {p : Piece}
    (hp : Denotes (Text.trim x) p) : Denotes (Text.trim y) p := by
  obtain ⟨l, body, r, q, hl, hr, rfl, hx, hb⟩ := h
  rw [Text.trim_padded hl hr, hb.trim_eq, hp.unique hx]
  exact hb

theorem Respells.comma {x y : List Char} (h : Respells x y) : ',' ∉ y := by
  obtain ⟨l, body, r, q, hl, hr, rfl, -, hb⟩ := h
  have blank : ∀ {cs : List Char}, Text.Blank cs → ',' ∉ cs := fun h hc =>
    absurd (h ',' hc) (by decide)
  simp only [List.mem_append, not_or]
  exact ⟨⟨blank hl, hb.comma⟩, blank hr⟩

/-- The spec that has some texts between its commas. -/
def joined (texts : List (List Char)) : String :=
  String.ofList ([','].intercalate texts)

theorem written_joined {texts : List (List Char)} (hn : texts ≠ []) (hc : ∀ t ∈ texts, ',' ∉ t) :
    written (joined texts) = texts.map Text.trim := by
  rw [written, joined, String.toList_ofList, List.splitOn_intercalate ',' hc hn]

/-- What a matcher does, one piece after another. -/
def Matcher.pieces (m : Matcher) : List Piece :=
  .fallback m.fallback :: m.entries.toList.map fun e => .entry e.1 e.2

theorem Matcher.mem_pieces {m : Matcher} {p : Piece} : p ∈ m.pieces ↔ m.Heeds p := by
  cases p with
  | fallback b => simp [pieces, Heeds, eq_comm]
  | entry v b =>
    rw [Heeds, ← Std.ExtTreeMap.mem_toList_iff_getElem?_eq_some]
    simp [pieces, - Std.ExtTreeMap.mem_toList_iff_getKey?_eq_some_and_getElem?_eq_some]

theorem Matcher.nodup_pieces (m : Matcher) : (m.pieces.map Piece.key).Nodup := by
  have hk : m.entries.toList.Pairwise fun a b => a.1 ≠ b.1 :=
    m.entries.distinct_keys_toList.imp Std.ReflCmp.ne_of_cmp_ne_eq
  have hs : (m.entries.toList.map fun e => some e.1).Nodup :=
    List.pairwise_map.mpr (hk.imp fun h he => h (Option.some.inj he))
  simpa [pieces, Function.comp_def, Piece.key] using hs

/-- The order in which the texts of a spec stand does not matter. -/
theorem ofSpec_joined {texts : List (List Char)} {m : Matcher} {ps qs : List Piece}
    (hd : List.Forall₂ Denotes (texts.map Text.trim) ps) (hc : ∀ t ∈ texts, ',' ∉ t)
    (hp : ps.Perm qs) (hk : (qs.map Piece.key).Nodup) (hm : ∀ p, p ∈ qs ↔ m.Heeds p) :
    Matcher.ofSpec (joined texts) = .ok m := by
  have hn : texts ≠ [] := by
    rintro rfl
    cases hd
    have hf : .fallback m.fallback ∈ qs := (hm _).mpr rfl
    rw [← hp.nil_eq] at hf
    cases hf
  rw [ofSpec_eq_ok_iff, written_joined hn hc]
  exact ⟨ps, ⟨hd, (hp.map Piece.key).nodup_iff.mpr hk⟩, fun p => hp.mem_iff.trans (hm p)⟩

theorem denotes_respelled {xs ys : List (List Char)} (h : List.Forall₂ Respells xs ys)
    {ps : List Piece} (hp : List.Forall₂ Denotes (xs.map Text.trim) ps) :
    List.Forall₂ Denotes (ys.map Text.trim) ps ∧ ∀ y ∈ ys, ',' ∉ y := by
  induction h generalizing ps with
  | nil => exact ⟨hp, by simp⟩
  | cons hr _ ih =>
    cases hp with
    | cons hd hs =>
      obtain ⟨hs, hc⟩ := ih hs
      exact ⟨.cons (hr.denotes hd) hs, List.forall_mem_cons.mpr ⟨hr.comma, hc⟩⟩

theorem ofSpec_respelled {spec : String} {m : Matcher} (h : Matcher.ofSpec spec = .ok m)
    {xs ys : List (List Char)} (hx : (spec.toList.splitOn ',').Perm xs)
    (hy : List.Forall₂ Respells xs ys) : Matcher.ofSpec (joined ys) = .ok m := by
  obtain ⟨ps, hp, hm⟩ := ofSpec_eq_ok_iff.mp h
  obtain ⟨qs, hq, hqp⟩ := List.perm_comp_forall₂ (hx.map Text.trim).symm hp.denotes
  obtain ⟨hd, hc⟩ := denotes_respelled hy hq
  exact ofSpec_joined hd hc hqp hp.nodup hm

theorem ofSpec_text (m : Matcher) {ps : List Piece} (h : ps.Perm m.pieces) :
    Matcher.ofSpec (joined (ps.map Piece.text)) = .ok m := by
  refine ofSpec_joined ?_ ?_ h m.nodup_pieces fun p => Matcher.mem_pieces
  · rw [List.map_map, List.forall₂_map_left_iff, List.forall₂_same]
    intro p _
    rw [Function.comp, p.denotes_text.trim_eq]
    exact p.denotes_text
  · intro t ht
    obtain ⟨p, -, rfl⟩ := List.mem_map.mp ht
    exact p.denotes_text.comma

/-- Matchers are equal if their specs say the same. The order of the pieces, the white space around
them and the spelling of the numbers are not part of that, and every matcher has a spec. -/
theorem spec_meaning :
    (∀ a b ma mb, Matcher.ofSpec a = .ok ma → Matcher.ofSpec b = .ok mb →
      (ma = mb ↔ (∀ admitted, Says a (.fallback admitted) ↔ Says b (.fallback admitted)) ∧
        ∀ v admitted, Says a (.entry v admitted) ↔ Says b (.entry v admitted))) ∧
    (∀ a m, Matcher.ofSpec a = .ok m → ∀ xs ys, (a.toList.splitOn ',').Perm xs →
      List.Forall₂ Respells xs ys → Matcher.ofSpec (joined ys) = .ok m) ∧
    ∀ (m : Matcher) (ps : List Piece), ps.Perm m.pieces →
      Matcher.ofSpec (joined (ps.map Piece.text)) = .ok m := by
  refine ⟨fun a b ma mb ha hb => ?_, fun a m h xs ys => ofSpec_respelled h,
    fun m ps => ofSpec_text m⟩
  simp only [← heeds_iff_says ha, ← heeds_iff_says hb]
  constructor
  · rintro rfl
    simp
  · rintro ⟨hf, he⟩
    apply Matcher.ext_heeds
    intro p
    cases p with
    | fallback admitted => exact hf admitted
    | entry v admitted => exact he v admitted

/-- Two matchers can admit the same subtypes and still differ in what they list. -/
theorem spec_meaning_zeros :
    (∃ m, Matcher.ofSpec "7,!0,*" = .ok m ∧ Matcher.ofSpec "* ,!-0, +007" = .ok m) ∧
    Matcher.ofSpec "-2147483648,!*" =
      .ok ⟨(∅ : Std.ExtTreeMap Int32 Bool).insert Int32.minValue true, false⟩ ∧
    ∀ m n, Matcher.ofSpec "*" = .ok m → Matcher.ofSpec "1,*" = .ok n → m ≠ n := by
  obtain ⟨heq, hspell, htext⟩ := spec_meaning
  refine ⟨?_, ?_, fun m n hm hn => ?_⟩
  · have ha : Matcher.ofSpec "7,!0,*" = .ok
        ⟨((∅ : Std.ExtTreeMap Int32 Bool).insert 7 true).insert 0 false, true⟩ := by decide +kernel
    refine ⟨_, ha, hspell _ _ ha [['*'], ['!', '0'], ['7']]
      [['*', ' '], ['!', '-', '0'], [' ', '+', '0', '0', '7']] (by decide) (.cons ?_ (.cons ?_ (.cons ?_ .nil)))⟩
    · exact ⟨[], ['*'], [' '], .fallback true, by decide⟩
    · exact ⟨[], ['!', '-', '0'], [], .entry 0 false, by decide⟩
    · exact ⟨[' '], ['+', '0', '0', '7'], [], .entry 7 true, by decide⟩
  · exact htext _ [.entry Int32.minValue true, .fallback false] (by decide +kernel)
  · have hl : ¬ (Says "*" (.entry 1 true) ↔ Says "1,*" (.entry 1 true)) := by decide
    exact fun he => hl (((heq _ _ m n hm hn).mp he).2 1 true)

end AmbientPulse.Subtype
