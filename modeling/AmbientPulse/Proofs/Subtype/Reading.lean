import Mathlib.Data.List.Nodup
import AmbientPulse.Proofs.Subtype.Grammar
import AmbientPulse.Proofs.Text

namespace AmbientPulse

namespace Subtype

/-- What stands between the commas of a spec, without the white space around it. -/
def written (spec : String) : List (List Char) :=
  (spec.toList.splitOn ',').map Text.trim

/-- Every text says what the piece in its place is, and no two pieces settle the same: there is one
fallback at most, and no subtype is listed twice. -/
structure Consistent (texts : List (List Char)) (ps : List Piece) : Prop where
  denotes : List.Forall₂ Denotes texts ps
  nodup : (ps.map Piece.key).Nodup

/-- What is wrong with a text that comes after the pieces `ps`. -/
inductive Offends (ps : List Piece) (text : List Char) : SpecFault → Prop
  | malformed (h : ∀ p, ¬ Denotes text p) : Offends ps text (.badPiece (String.ofList text))
  | secondFallback {b b' : Bool} (h : Denotes text (.fallback b)) (he : .fallback b' ∈ ps) :
      Offends ps text .secondFallback
  | repeated {v : Int32} {b b' : Bool} (h : Denotes text (.entry v b)) (he : .entry v b' ∈ ps) :
      Offends ps text (.repeatedSubtype v)

/-- What is wrong with the texts of a spec: the leftmost one that offends is, or else there is no
fallback among them. -/
inductive Fails (texts : List (List Char)) : SpecFault → Prop
  | offended {before after : List (List Char)} {text : List Char} {ps : List Piece} {f : SpecFault}
      (ht : texts = before ++ text :: after) (hb : Consistent before ps) (h : Offends ps text f) :
      Fails texts f
  | noFallback {ps : List Piece} (hp : Consistent texts ps) (hn : ∀ b, .fallback b ∉ ps) :
      Fails texts .noFallback

theorem specPieces_eq (spec : String) : specPieces spec = written spec := by
  rw [specPieces, Text.pieces_eq_splitOn, written]

namespace Draft

/-- What has been laid down for a subtype, or for all that are not listed. -/
def verdict? (d : Draft) : Option Int32 → Option Bool
  | none => d.fallback
  | some v => d.entries[v]?

def put (d : Draft) : Piece → Draft
  | .fallback b => { d with fallback := some b }
  | .entry v b => { d with entries := d.entries.insert v b }

def repetition : Option Int32 → SpecFault
  | none => .secondFallback
  | some v => .repeatedSubtype v

theorem verdict?_put (d : Draft) (p : Piece) (k : Option Int32) :
    (d.put p).verdict? k = if p.key = k then some p.admitted else d.verdict? k := by
  cases p <;> cases k <;> simp [put, verdict?, Piece.key, Piece.admitted,
    Std.ExtTreeMap.getElem?_insert]

theorem add_of_denotes {text : List Char} {p : Piece} (h : Denotes text p) (d : Draft) :
    d.add text =
      if (d.verdict? p.key).isSome then .error (repetition p.key) else .ok (d.put p) := by
  rw [add, Piece.read?_eq_some_iff.mpr h]
  cases p with
  | fallback b => rfl
  | entry v b => simp [verdict?, Piece.key, repetition, put]

theorem add_of_malformed {text : List Char} (h : ∀ p, ¬ Denotes text p) (d : Draft) :
    d.add text = .error (.badPiece (String.ofList text)) := by
  have hn : Piece.read? text = none :=
    Option.eq_none_iff_forall_ne_some.mpr fun p hp => h p (Piece.read?_eq_some_iff.mp hp)
  rw [add, hn]

/-- What some pieces lay down if nothing is settled twice. -/
def laid (ps : List Piece) : Draft :=
  ps.foldl put {}

theorem unsettled_put {q : Piece} {qs : List Piece} (hk : ((q :: qs).map Piece.key).Nodup)
    {d : Draft} (hd : ∀ p ∈ q :: qs, d.verdict? p.key = none) :
    ∀ p ∈ qs, (d.put q).verdict? p.key = none := by
  intro p hp
  rw [List.map_cons, List.nodup_cons] at hk
  rw [verdict?_put, if_neg fun h => hk.1 (List.mem_map.mpr ⟨p, hp, h.symm⟩)]
  exact hd p (List.mem_cons_of_mem q hp)

theorem verdict?_foldl_put {ps : List Piece} (hk : (ps.map Piece.key).Nodup) {d : Draft}
    (hd : ∀ p ∈ ps, d.verdict? p.key = none) (p : Piece) :
    (ps.foldl put d).verdict? p.key = some p.admitted ↔
      p ∈ ps ∨ d.verdict? p.key = some p.admitted := by
  induction ps generalizing d with
  | nil => simp
  | cons q qs ih =>
    rw [List.foldl_cons, ih (List.nodup_cons.mp hk).2 (unsettled_put hk hd), verdict?_put,
      List.mem_cons]
    by_cases hp : q.key = p.key
    · have hn : d.verdict? p.key = none := hp ▸ hd q (List.mem_cons_self ..)
      have he : some q.admitted = some p.admitted ↔ p = q :=
        ⟨fun h => (Piece.ext hp (Option.some.inj h)).symm, fun h => by rw [h]⟩
      rw [if_pos hp, hn, he]
      tauto
    · have hn : p ≠ q := fun h => hp (by rw [h])
      rw [if_neg hp]
      tauto

theorem unsettled_empty (k : Option Int32) : verdict? {} k = none := by
  cases k <;> simp [verdict?]

theorem verdict?_laid {ps : List Piece} (hk : (ps.map Piece.key).Nodup) (p : Piece) :
    (laid ps).verdict? p.key = some p.admitted ↔ p ∈ ps := by
  rw [laid, verdict?_foldl_put hk fun p _ => unsettled_empty p.key, unsettled_empty]
  simp

theorem foldlM_add {texts : List (List Char)} {ps : List Piece}
    (h : List.Forall₂ Denotes texts ps) (hk : (ps.map Piece.key).Nodup) {d : Draft}
    (hd : ∀ p ∈ ps, d.verdict? p.key = none) : texts.foldlM add d = .ok (ps.foldl put d) := by
  induction h generalizing d with
  | nil => rfl
  | @cons text p texts ps hp hs ih =>
    have ha : d.add text = .ok (d.put p) := by
      rw [add_of_denotes hp, hd p (List.mem_cons_self ..)]
      rfl
    rw [List.foldlM_cons, ha]
    exact ih (List.nodup_cons.mp hk).2 (unsettled_put hk hd)

theorem foldlM_add_of_consistent {texts : List (List Char)} {ps : List Piece}
    (h : Consistent texts ps) : texts.foldlM add {} = .ok (laid ps) :=
  foldlM_add h.denotes h.nodup fun p _ => unsettled_empty p.key

theorem add_of_offends {ps : List Piece} (hk : (ps.map Piece.key).Nodup) {text : List Char}
    {f : SpecFault} (h : Offends ps text f) : (laid ps).add text = .error f := by
  have settled : ∀ p ∈ ps, ((laid ps).verdict? p.key).isSome = true := fun p hp => by
    rw [(verdict?_laid hk p).mpr hp]
    rfl
  cases h with
  | malformed h => exact add_of_malformed h _
  | secondFallback h he =>
    rw [add_of_denotes h]
    exact if_pos (settled _ he)
  | repeated h he =>
    rw [add_of_denotes h]
    exact if_pos (settled _ he)

/-- Nothing that comes after a text that offends is looked at. -/
theorem foldlM_add_of_offends {before : List (List Char)} {ps : List Piece}
    (hb : Consistent before ps) {text : List Char} {f : SpecFault} (h : Offends ps text f)
    (after : List (List Char)) : (before ++ text :: after).foldlM add {} = .error f := by
  rw [List.foldlM_append, foldlM_add_of_consistent hb]
  show (text :: after).foldlM add (laid ps) = .error f
  rw [List.foldlM_cons, add_of_offends hb.nodup h]
  rfl

end Draft

theorem Consistent.concat {texts : List (List Char)} {ps : List Piece} (h : Consistent texts ps)
    {text : List Char} {p : Piece} (ht : Denotes text p) (hk : p.key ∉ ps.map Piece.key) :
    Consistent (texts ++ [text]) (ps ++ [p]) := by
  refine ⟨List.rel_append h.denotes (.cons ht .nil), ?_⟩
  rw [List.map_append, List.map_singleton, ← List.concat_eq_append]
  exact List.Nodup.concat hk h.nodup

theorem offends_of_key {ps : List Piece} {text : List Char} {p : Piece} (ht : Denotes text p)
    (hk : p.key ∈ ps.map Piece.key) : ∃ f, Offends ps text f := by
  obtain ⟨q, hq, he⟩ := List.mem_map.mp hk
  cases p with
  | fallback b =>
    cases q with
    | fallback b' => exact ⟨_, .secondFallback ht hq⟩
    | entry v b' => cases he
  | entry v b =>
    cases q with
    | fallback b' => cases he
    | entry v' b' =>
      obtain rfl : v' = v := Option.some.inj he
      exact ⟨_, .repeated ht hq⟩

/-- The texts fit together unless one of them offends. -/
theorem consistent_or_offended (texts : List (List Char)) :
    (∃ ps, Consistent texts ps) ∨ ∃ before text after ps f,
      texts = before ++ text :: after ∧ Consistent before ps ∧ Offends ps text f := by
  induction texts using List.reverseRecOn with
  | nil => exact .inl ⟨[], .nil, .nil⟩
  | append_singleton texts text ih =>
    obtain ⟨ps, hp⟩ | ⟨before, t, after, ps, f, rfl, hb, h⟩ := ih
    · by_cases ht : ∃ p, Denotes text p
      · obtain ⟨p, ht⟩ := ht
        by_cases hk : p.key ∈ ps.map Piece.key
        · obtain ⟨f, hf⟩ := offends_of_key ht hk
          exact .inr ⟨texts, text, [], ps, f, rfl, hp, hf⟩
        · exact .inl ⟨ps ++ [p], hp.concat ht hk⟩
      · exact .inr ⟨texts, text, [], ps, _, rfl, hp, .malformed (not_exists.mp ht)⟩
    · exact .inr ⟨before, t, after ++ [text], ps, f, by simp, hb, h⟩

namespace Matcher

/-- A matcher does with subtypes what a piece says. -/
def Heeds (m : Matcher) : Piece → Prop
  | .fallback b => m.fallback = b
  | .entry v b => m.entries[v]? = some b

theorem ext_heeds {m m' : Matcher} (h : ∀ p, m.Heeds p ↔ m'.Heeds p) : m = m' := by
  have hf : m.fallback = m'.fallback := ((h (.fallback m.fallback)).mp rfl).symm
  have he : m.entries = m'.entries := by
    apply Std.ExtTreeMap.ext_getElem?
    intro v
    apply Option.ext
    intro b
    exact h (.entry v b)
  cases m
  cases m'
  simp_all

theorem admits_eq_true_iff {m : Matcher} {v : Int32} :
    m.admits v = true ↔
      m.Heeds (.entry v true) ∨ (∀ b, ¬ m.Heeds (.entry v b)) ∧ m.Heeds (.fallback true) := by
  simp only [admits, Heeds]
  cases m.entries[v]? <;> simp

end Matcher

theorem Draft.finish_laid {ps : List Piece} (hk : (ps.map Piece.key).Nodup) {m : Matcher} :
    (laid ps).finish = .ok m ↔ ∀ p, p ∈ ps ↔ m.Heeds p := by
  constructor
  · intro h p
    unfold finish at h
    split at h
    · cases h
    · next b hb =>
      obtain rfl := Except.ok.inj h
      rw [← verdict?_laid hk]
      cases p with
      | fallback b' => simp [verdict?, Piece.key, Piece.admitted, Matcher.Heeds, hb]
      | entry v b' => rfl
  · intro h
    have hf : (laid ps).fallback = some m.fallback :=
      (verdict?_laid hk (.fallback m.fallback)).mpr ((h _).mpr rfl)
    have he : (laid ps).entries = m.entries := by
      apply Std.ExtTreeMap.ext_getElem?
      intro v
      apply Option.ext
      intro b
      exact (verdict?_laid hk (.entry v b)).trans (h _)
    rw [finish, hf, he]

theorem Draft.finish_laid_fails {ps : List Piece} (hk : (ps.map Piece.key).Nodup) {f : SpecFault} :
    (laid ps).finish = .error f ↔ f = .noFallback ∧ ∀ b, .fallback b ∉ ps := by
  have hb : ∀ b, (laid ps).fallback = some b ↔ .fallback b ∈ ps := fun b =>
    verdict?_laid hk (.fallback b)
  simp only [← hb, finish]
  cases (laid ps).fallback <;> simp [eq_comm]

theorem written_blank {spec : String} (h : Text.trim spec.toList = []) : written spec = [[]] := by
  have hc : ',' ∉ spec.toList := fun hc =>
    absurd (Text.trim_eq_nil_iff.mp h ',' hc) (by decide)
  rw [written, List.splitOn_eq_singleton hc, List.map_singleton, h]

theorem Denotes.ne_nil {text : List Char} {p : Piece} (h : Denotes text p) : text ≠ [] := by
  cases h with
  | listed h => exact h.mem.1
  | all | nothing | barred => simp

theorem Consistent.unblank {spec : String} {ps : List Piece} (h : Consistent (written spec) ps) :
    Text.trim spec.toList ≠ [] := by
  intro hn
  have hd := h.denotes
  rw [written_blank hn] at hd
  cases hd with
  | cons hp _ => exact hp.ne_nil rfl

theorem readSpec_of_consistent {spec : String} {ps : List Piece}
    (h : Consistent (written spec) ps) : readSpec spec = (Draft.laid ps).finish := by
  rw [readSpec, if_neg h.unblank, specPieces_eq, Draft.foldlM_add_of_consistent h]
  rfl

theorem readSpec_of_offends {spec : String} (hn : Text.trim spec.toList ≠ [])
    {before after : List (List Char)} {text : List Char} {ps : List Piece} {f : SpecFault}
    (ht : written spec = before ++ text :: after) (hb : Consistent before ps)
    (h : Offends ps text f) : readSpec spec = .error f := by
  rw [readSpec, if_neg hn, specPieces_eq, ht, Draft.foldlM_add_of_offends hb h]
  rfl

theorem readSpec_eq_ok_iff {spec : String} {m : Matcher} :
    readSpec spec = .ok m ↔ ∃ ps, Consistent (written spec) ps ∧ ∀ p, p ∈ ps ↔ m.Heeds p := by
  constructor
  · intro h
    have hn : Text.trim spec.toList ≠ [] := fun hn => by simp [readSpec, hn] at h
    obtain ⟨ps, hp⟩ | ⟨before, text, after, ps, f, ht, hb, hf⟩ :=
      consistent_or_offended (written spec)
    · rw [readSpec_of_consistent hp] at h
      exact ⟨ps, hp, (Draft.finish_laid hp.nodup).mp h⟩
    · rw [readSpec_of_offends hn ht hb hf] at h
      cases h
  · rintro ⟨ps, hp, hm⟩
    rw [readSpec_of_consistent hp]
    exact (Draft.finish_laid hp.nodup).mpr hm

theorem readSpec_eq_error_iff {spec : String} {f : SpecFault} :
    readSpec spec = .error f ↔
      if Text.trim spec.toList = [] then f = .blank else Fails (written spec) f := by
  split
  · next hn =>
    rw [readSpec, if_pos hn]
    simp [eq_comm]
  · next hn =>
    constructor
    · intro h
      obtain ⟨ps, hp⟩ | ⟨before, text, after, ps, f', ht, hb, hf⟩ :=
        consistent_or_offended (written spec)
      · rw [readSpec_of_consistent hp, Draft.finish_laid_fails hp.nodup] at h
        obtain ⟨rfl, hd⟩ := h
        exact .noFallback hp hd
      · rw [readSpec_of_offends hn ht hb hf] at h
        obtain rfl := Except.error.inj h
        exact .offended ht hb hf
    · intro h
      cases h with
      | offended ht hb hf => exact readSpec_of_offends hn ht hb hf
      | noFallback hp hd =>
        rw [readSpec_of_consistent hp]
        exact (Draft.finish_laid_fails hp.nodup).mpr ⟨rfl, hd⟩

theorem ofSpec_eq_ok_iff {spec : String} {m : Matcher} :
    Matcher.ofSpec spec = .ok m ↔
      ∃ ps, Consistent (written spec) ps ∧ ∀ p, p ∈ ps ↔ m.Heeds p := by
  rw [← readSpec_eq_ok_iff, Matcher.ofSpec]
  cases readSpec spec <;> simp [Except.mapError]

theorem ofSpec_eq_error_iff {spec : String} {e : SpecError} :
    Matcher.ofSpec spec = .error e ↔ e.spec = spec ∧
      if Text.trim spec.toList = [] then e.fault = .blank else Fails (written spec) e.fault := by
  rw [← readSpec_eq_error_iff, Matcher.ofSpec]
  cases readSpec spec with
  | ok m => simp [Except.mapError]
  | error f =>
    obtain ⟨s, f'⟩ := e
    simp [Except.mapError, eq_comm]

/-- Some piece of a spec says so. -/
def Says (spec : String) (p : Piece) : Prop :=
  ∃ text ∈ written spec, Denotes text p

theorem mem_iff_of_denotes {texts : List (List Char)} {ps : List Piece}
    (h : List.Forall₂ Denotes texts ps) (p : Piece) :
    p ∈ ps ↔ ∃ text ∈ texts, Denotes text p := by
  induction h with
  | nil => simp
  | @cons text q texts ps hq hs ih =>
    have he : p = q ↔ Denotes text p := ⟨fun h => h ▸ hq, fun h => h.unique hq⟩
    simp [he, ih]

theorem heeds_iff_says {spec : String} {m : Matcher} (h : Matcher.ofSpec spec = .ok m)
    (p : Piece) : m.Heeds p ↔ Says spec p := by
  obtain ⟨ps, hp, hm⟩ := ofSpec_eq_ok_iff.mp h
  rw [← hm, mem_iff_of_denotes hp.denotes, Says]

theorem exists_ofSpec_eq_ok_iff {spec : String} :
    (∃ m, Matcher.ofSpec spec = .ok m) ↔
      ∃ ps, Consistent (written spec) ps ∧ ∃ b, .fallback b ∈ ps := by
  constructor
  · rintro ⟨m, hm⟩
    obtain ⟨ps, hp, hh⟩ := ofSpec_eq_ok_iff.mp hm
    exact ⟨ps, hp, m.fallback, (hh _).mpr rfl⟩
  · rintro ⟨ps, hp, b, hb⟩
    have hf := (Draft.verdict?_laid hp.nodup (.fallback b)).mpr hb
    refine ⟨⟨(Draft.laid ps).entries, b⟩, ofSpec_eq_ok_iff.mpr ⟨ps, hp, ?_⟩⟩
    rw [← Draft.finish_laid hp.nodup, Draft.finish]
    simp_all [Draft.verdict?, Piece.key, Piece.admitted]

instance (spec : String) (p : Piece) : Decidable (Says spec p) :=
  inferInstanceAs (Decidable (∃ text ∈ written spec, Denotes text p))

/-- A spec is accepted exactly if its pieces fit together and one of them is a fallback. A subtype is
then admitted as its own piece says, or as the fallback says if it has none. Otherwise the leftmost
piece that does not fit is at fault, and the missing fallback only if all of them fit. -/
theorem spec_read (spec : String) :
    ((∃ m, Matcher.ofSpec spec = .ok m) ↔
      ∃ ps, Consistent (written spec) ps ∧ ∃ b, .fallback b ∈ ps) ∧
    (∀ m, Matcher.ofSpec spec = .ok m → ∀ v : Int32, m.admits v = true ↔
      Says spec (.entry v true) ∨
        (∀ b, ¬ Says spec (.entry v b)) ∧ Says spec (.fallback true)) ∧
    ∀ e, Matcher.ofSpec spec = .error e ↔ e.spec = spec ∧
      if Text.Blank spec.toList then e.fault = .blank else Fails (written spec) e.fault := by
  refine ⟨exists_ofSpec_eq_ok_iff, fun m hm v => ?_, fun e => ?_⟩
  · simp only [Matcher.admits_eq_true_iff, heeds_iff_says hm]
  · simp only [ofSpec_eq_error_iff, Text.trim_eq_nil_iff]

/-- The second piece lists zero, and the last one lists seven once more. -/
theorem spec_read_zeros :
    (∃ m, Matcher.ofSpec " 007,!-0 ,*" = .ok m ∧ m.admits 7 = true ∧ m.admits 0 = false ∧
      m.admits 3 = true) ∧
    Matcher.ofSpec "007,!-0,*,!+7" = .error ⟨"007,!-0,*,!+7", .repeatedSubtype 7⟩ := by
  obtain ⟨hok, hm, -⟩ := spec_read " 007,!-0 ,*"
  obtain ⟨-, -, he⟩ := spec_read "007,!-0,*,!+7"
  have hw : written " 007,!-0 ,*" = [['0', '0', '7'], ['!', '-', '0'], ['*']] := by decide
  have hw' : written "007,!-0,*,!+7" =
      [['0', '0', '7'], ['!', '-', '0'], ['*']] ++ ['!', '+', '7'] :: [] := by decide
  have hp : Consistent [['0', '0', '7'], ['!', '-', '0'], ['*']]
      [.entry 7 true, .entry 0 false, .fallback true] :=
    ⟨.cons (by decide) (.cons (by decide) (.cons (by decide) .nil)), by decide⟩
  obtain ⟨m, hm'⟩ := hok.mpr ⟨_, hw ▸ hp, true, by decide⟩
  have ha := hm m hm'
  have hz : ¬ m.admits 0 = true := (not_congr (ha 0)).mpr (by decide)
  have h7 : Denotes ['!', '+', '7'] (.entry 7 false) := by decide
  have h7' : Piece.entry 7 true ∈ [.entry 7 true, .entry 0 false, .fallback true] := by decide
  refine ⟨⟨m, hm', (ha 7).mpr (by decide), Bool.eq_false_iff.mpr hz, (ha 3).mpr (by decide)⟩, ?_⟩
  refine (he _).mpr ⟨rfl, ?_⟩
  rw [if_neg (by decide)]
  exact .offended hw' hp (.repeated h7 h7')

end Subtype

end AmbientPulse
