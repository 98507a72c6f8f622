import AmbientPulse.Json.Skim
import AmbientPulse.Proofs.Json.Scalar

namespace AmbientPulse.Json

/-- Reading goes on after a value: behind it, or in the innermost container that is open. -/
def resume : List Frame → List Char → Except Fault (List Char)
  | [], rest => .ok rest
  | frame :: frames, rest => skim .done (frame :: frames) rest

section Steps

variable {mode : Mode} {frames : List Frame} {c : Char} {cs : List Char}

theorem skim_go {m : Mode} {fs : List Frame} (h : move mode frames c cs = .go m fs) :
    skim mode frames (c :: cs) = skim m fs cs := by
  rw [skim, h]

theorem skim_close {fs : List Frame} (h : move mode frames c cs = .close fs) :
    skim mode frames (c :: cs) = resume fs cs := by
  cases fs <;> rw [skim, h] <;> rfl

/-- Where white space may stand. -/
def Mode.between : Mode → Bool
  | .value | .item | .member | .key | .colon | .done => true
  | .word _ | .string _ _ | .number _ => false

theorem skim_blank {b : List Char} (hb : Blank b) (hm : mode.between = true)
    (hf : mode = .done → frames ≠ []) (rest : List Char) :
    skim mode frames (b ++ rest) = skim mode frames rest := by
  induction b with
  | nil => rfl
  | cons c b ih =>
    have hc : isSpace c = true := isSpace_of_mem (hb c (by simp))
    have h : move mode frames c (b ++ rest) = .go mode frames := by
      cases mode with
      | done =>
        cases frames with
        | nil => exact absurd rfl (hf rfl)
        | cons frame frames => cases frame <;> simp [move, afterValue, hc]
      | value | item | member | key | colon => simp [move, hc]
      | word | string | number => cases hm
    rw [List.cons_append, skim_go h]
    exact ih fun c' hc' => hb c' (by simp [hc'])

end Steps

section Strings

variable {frames : List Frame}

theorem skim_closeString (key : Bool) (rest : List Char) :
    skim (.string .plain key) frames ('"' :: rest) =
      if key then skim .colon frames rest else resume frames rest := by
  cases key with
  | true => exact skim_go rfl
  | false => exact skim_close rfl

theorem four_le_utf8ByteSize (a b c d : Char) (cs : List Char) :
    4 ≤ (String.ofList (a :: b :: c :: d :: cs)).utf8ByteSize := by
  have h (c : Char) : 1 ≤ c.utf8Size := c.utf8Size_pos
  have ha := h a
  have hb := h b
  have hc := h c
  have hd := h d
  simp only [String.ofList_cons, String.utf8ByteSize_append, String.utf8ByteSize_singleton]
  omega

theorem skim_unit {a b c d : Char} {u : Nat} (hu : hexUnit? a b c d = some u) (key : Bool)
    (rest : List Char) :
    skim (.string .plain key) frames ('\\' :: 'u' :: a :: b :: c :: d :: rest) =
      skim (.string .plain key) frames rest := by
  have hs : shortUnit (a :: b :: c :: d :: rest) = .malformed := by
    rw [shortUnit, if_neg (Nat.not_lt.mpr (four_le_utf8ByteSize a b c d rest))]
  have hx : (hexDigit? a).isSome = true ∧ (hexDigit? b).isSome = true ∧
      (hexDigit? c).isSome = true ∧ (hexDigit? d).isSome = true := by
    unfold hexUnit? at hu
    split at hu
    · next ha hb hc hd => simp [ha, hb, hc, hd]
    · cases hu
  obtain ⟨ha, hb, hc, hd⟩ := hx
  have digit {x : Char} (hx : (hexDigit? x).isSome = true) (n : Nat) (cs : List Char) :
      skim (.string (.digits n) key) frames (x :: cs) =
        skim (.string (if n ≤ 1 then .plain else .digits (n - 1)) key) frames cs :=
    skim_go (by rw [move, stringMove, if_pos hx])
  calc skim (.string .plain key) frames ('\\' :: 'u' :: a :: b :: c :: d :: rest)
      = skim (.string .escape key) frames ('u' :: a :: b :: c :: d :: rest) := skim_go rfl
    _ = skim (.string (.digits 4) key) frames (a :: b :: c :: d :: rest) :=
        skim_go (by rw [move, stringMove, if_pos rfl, hs, if_neg (by simp)])
    _ = skim (.string (.digits 3) key) frames (b :: c :: d :: rest) := digit ha 4 _
    _ = skim (.string (.digits 2) key) frames (c :: d :: rest) := digit hb 3 _
    _ = skim (.string (.digits 1) key) frames (d :: rest) := digit hc 2 _
    _ = skim (.string .plain key) frames rest := digit hd 1 _

/-- A string is passed over to its closing quote. -/
theorem skim_literal {cs : List Char} (h : Literal cs) (key : Bool) (rest : List Char) :
    skim (.string .plain key) frames (cs ++ '"' :: rest) =
      if key then skim .colon frames rest else resume frames rest := by
  induction h with
  | nil => exact skim_closeString key rest
  | bare hq hb hc _ ih =>
    refine .trans (skim_go ?_) ih
    simp [move, stringMove, hq, hb, hc]
  | @escape e c cs he _ ih =>
    have hs : isSimpleEscape e = true := by rw [isSimpleEscape, he]; rfl
    refine .trans (skim_go (m := .string .escape key) (by rfl)) (.trans (skim_go ?_) ih)
    rw [move, stringMove, if_neg (ne_u_of_simple he), if_pos hs]
  | unit hu _ ih => exact (skim_unit hu key _).trans ih

end Strings

section Numbers

variable {frames : List Frame} {rest : List Char}

theorem skim_number_ends {part : NumberPart} (hp : part.mayEnd = true) (hr : Ends rest) :
    skim (.number part) frames rest = resume frames rest := by
  cases rest with
  | nil => cases frames <;> simp [skim, atEnd, hp, resume]
  | cons c cs =>
    obtain ⟨hd, hpt, he, hE⟩ := hr c rfl
    have hn : part.next? c = none := by
      cases part <;> simp_all [NumberPart.next?, NumberPart.mayEnd]
    have hm : move (.number part) frames c cs = afterValue c frames := by
      simp [move, hn, hp, hd]
    cases frames with
    | nil => rw [skim, hm]; rfl
    | cons frame frames => rw [skim, hm, resume, skim]; rfl

theorem skim_digits {part : NumberPart} (hp : part ∈ [.integer, .fraction, .exponent])
    {ds : List Char} (hd : Digits ds) :
    skim (.number part) frames (ds ++ rest) = skim (.number part) frames rest := by
  induction ds with
  | nil => rfl
  | cons d ds ih =>
    have hn : part.next? d = some part := by
      have h : d.isDigit = true := hd d (by simp)
      simp only [List.mem_cons, List.not_mem_nil, or_false] at hp
      obtain rfl | rfl | rfl := hp <;> simp [NumberPart.next?, h]
    refine .trans (skim_go ?_) (ih fun c hc => hd c (by simp [hc]))
    simp only [move, hn]

theorem skim_exponent {cs : List Char} (h : Exponent cs) {part : NumberPart}
    (hp : part ∈ [.zero, .integer, .fraction]) (hr : Ends rest) :
    skim (.number part) frames (cs ++ rest) = resume frames rest := by
  simp only [List.mem_cons, List.not_mem_nil, or_false] at hp
  cases h with
  | none =>
    refine skim_number_ends ?_ hr
    obtain rfl | rfl | rfl := hp <;> rfl
  | @power e d sign ds he hs hd =>
    have hdd : d.isDigit = true := hd d (by simp)
    have hm : part.next? e = some .exponentMark := by
      simp only [List.mem_cons, List.not_mem_nil, or_false] at he
      obtain rfl | rfl | rfl := hp <;> obtain rfl | rfl := he <;> rfl
    have hmark : skim (.number .exponentMark) frames (sign ++ d :: ds ++ rest) =
        skim (.number .exponent) frames (ds ++ rest) := by
      have hn : d ≠ '+' ∧ d ≠ '-' := by
        constructor <;> rintro rfl <;> cases hdd
      simp only [List.mem_cons, List.not_mem_nil, or_false] at hs
      obtain rfl | rfl | rfl := hs
      · refine skim_go ?_
        simp [move, NumberPart.next?, hdd, hn]
      · refine .trans (skim_go (m := .number .exponentSign) rfl) (skim_go ?_)
        simp [move, NumberPart.next?, hdd]
      · refine .trans (skim_go (m := .number .exponentSign) rfl) (skim_go ?_)
        simp [move, NumberPart.next?, hdd]
    calc skim (.number part) frames (e :: (sign ++ d :: ds) ++ rest)
        = skim (.number .exponentMark) frames (sign ++ d :: ds ++ rest) :=
          skim_go (by simp only [move, hm])
      _ = skim (.number .exponent) frames (ds ++ rest) := hmark
      _ = skim (.number .exponent) frames rest :=
          skim_digits (by simp) fun c hc => hd c (by simp [hc])
      _ = resume frames rest := skim_number_ends rfl hr

theorem skim_fraction {cs exponent : List Char} (h : Fraction cs) (he : Exponent exponent)
    {part : NumberPart} (hp : part ∈ [.zero, .integer]) (hr : Ends rest) :
    skim (.number part) frames (cs ++ (exponent ++ rest)) = resume frames rest := by
  simp only [List.mem_cons, List.not_mem_nil, or_false] at hp
  cases h with
  | none =>
    refine skim_exponent he ?_ hr
    obtain rfl | rfl := hp <;> simp
  | @places d ds hd =>
    have hdd : d.isDigit = true := hd d (by simp)
    have hpoint : part.next? '.' = some .point := by
      obtain rfl | rfl := hp <;> rfl
    calc skim (.number part) frames ('.' :: d :: ds ++ (exponent ++ rest))
        = skim (.number .point) frames (d :: (ds ++ (exponent ++ rest))) :=
          skim_go (by simp only [move, hpoint])
      _ = skim (.number .fraction) frames (ds ++ (exponent ++ rest)) :=
          skim_go (by simp [move, NumberPart.next?, hdd])
      _ = skim (.number .fraction) frames (exponent ++ rest) :=
          skim_digits (by simp) fun c hc => hd c (by simp [hc])
      _ = resume frames rest := skim_exponent he (by simp) hr

theorem startValue_digit {d : Char} (hd : d.isDigit = true) (hz : d ≠ '0') :
    startValue d frames = .go (.number .integer) frames := by
  have h : d ≠ '"' ∧ d ≠ '[' ∧ d ≠ '\x7b' ∧ d ≠ 't' ∧ d ≠ 'f' ∧ d ≠ 'n' ∧ d ≠ '-' := by
    refine ⟨?_, ?_, ?_, ?_, ?_, ?_, ?_⟩ <;> rintro rfl <;> cases hd
  simp [startValue, hd, hz, h]

theorem skim_number {cs : List Char} (h : IsNumber cs) (hr : Ends rest) :
    skim .value frames (cs ++ rest) = resume frames rest := by
  obtain ⟨hs, hw, hf, he⟩ := h
  rename_i sign whole fraction exponent
  -- From the sign on, or without one, the digits before the point lead to the same places.
  have hwhole : ∀ mode ∈ [Mode.value, .number .sign],
      skim mode frames (whole ++ (fraction ++ (exponent ++ rest))) = resume frames rest := by
    intro mode hm
    simp only [List.mem_cons, List.not_mem_nil, or_false] at hm
    cases hw with
    | zero =>
      have hz : skim mode frames ('0' :: (fraction ++ (exponent ++ rest))) =
          skim (.number .zero) frames (fraction ++ (exponent ++ rest)) := by
        refine skim_go ?_
        obtain rfl | rfl := hm <;> rfl
      exact hz.trans (skim_fraction hf he (by simp) hr)
    | @digits d ds hz hd =>
      have hdd : d.isDigit = true := hd d (by simp)
      have hi : skim mode frames (d :: ds ++ (fraction ++ (exponent ++ rest))) =
          skim (.number .integer) frames (ds ++ (fraction ++ (exponent ++ rest))) := by
        refine skim_go ?_
        obtain rfl | rfl := hm
        · simp only [move, isSpace_of_isDigit hdd, startValue_digit hdd hz]
          rfl
        · simp [move, NumberPart.next?, hz, hdd]
      rw [hi, skim_digits (by simp) fun c hc => hd c (by simp [hc])]
      exact skim_fraction hf he (by simp) hr
  rw [List.append_assoc, List.append_assoc, List.append_assoc]
  simp only [List.mem_cons, List.not_mem_nil, or_false] at hs
  obtain rfl | rfl := hs
  · exact hwhole .value (by simp)
  · refine .trans (skim_go rfl) (hwhole (.number .sign) (by simp))

end Numbers

section Values

/-- What a value can begin with: no white space, and no bracket that closes a container. -/
def Opening (c : Char) : Prop :=
  isSpace c = false ∧ c ≠ ']' ∧ c ≠ '\x7d'

theorem opening_of_isDigit {c : Char} (h : c.isDigit = true) : Opening c := by
  refine ⟨isSpace_of_isDigit h, ?_, ?_⟩ <;> rintro rfl <;> cases h

theorem IsNumber.head {cs : List Char} (h : IsNumber cs) :
    ∃ c rest, cs = c :: rest ∧ (c = '-' ∨ c.isDigit = true) := by
  obtain ⟨hs, hw, -, -⟩ := h
  simp only [List.mem_cons, List.not_mem_nil, or_false] at hs
  obtain rfl | rfl := hs
  · cases hw with
    | zero => exact ⟨_, _, rfl, .inr rfl⟩
    | digits _ hd => exact ⟨_, _, rfl, .inr (hd _ (by simp))⟩
  · exact ⟨_, _, rfl, .inl rfl⟩

theorem WellFormed.head {cs : List Char} (h : WellFormed .value cs) :
    ∃ c rest, cs = c :: rest ∧ Opening c := by
  cases h with
  | word hw =>
    simp only [words, List.mem_cons, List.not_mem_nil, or_false] at hw
    obtain rfl | rfl | rfl := hw <;> exact ⟨_, _, rfl, rfl, by decide, by decide⟩
  | number hn =>
    obtain ⟨c, rest, rfl, rfl | hd⟩ := hn.head
    · exact ⟨_, _, rfl, rfl, by decide, by decide⟩
    · exact ⟨_, _, rfl, opening_of_isDigit hd⟩
  | string => exact ⟨_, _, rfl, rfl, by decide, by decide⟩
  | emptyArray | array | emptyObject | object => exact ⟨_, _, rfl, rfl, by decide, by decide⟩

/-- A text that begins so, after white space perhaps. -/
def Opens (text : List Char) : Prop :=
  ∃ b c rest, Blank b ∧ Opening c ∧ text = b ++ c :: rest

theorem Padded.opens {core text : List Char} (hp : Padded core text)
    (hc : ∃ c rest, core = c :: rest ∧ Opening c) : Opens text := by
  obtain ⟨b, d, hb, -, rfl⟩ := hp
  obtain ⟨c, rest, rfl, ho⟩ := hc
  exact ⟨b, c, rest ++ d, hb, ho, rfl⟩

theorem Opens.append {text : List Char} (h : Opens text) (more : List Char) :
    Opens (text ++ more) := by
  obtain ⟨b, c, rest, hb, ho, rfl⟩ := h
  exact ⟨b, c, rest ++ more, hb, ho, by simp⟩

theorem WellFormed.opens {phrase : Phrase} {cs : List Char} (h : WellFormed phrase cs) :
    Opens cs := by
  induction h with
  | word h => exact (padded_refl _).opens (word h).head
  | number h => exact (padded_refl _).opens (number h).head
  | string h => exact (padded_refl _).opens (string h).head
  | emptyArray h => exact (padded_refl _).opens (emptyArray h).head
  | array h => exact (padded_refl _).opens (array h).head
  | emptyObject h => exact (padded_refl _).opens (emptyObject h).head
  | object h => exact (padded_refl _).opens (object h).head
  | item hv hp => exact hp.opens hv.head
  | lastItem _ ih => exact ih
  | items _ _ ih _ => exact ih.append _
  | member _ hp _ _ => exact (hp.opens ⟨_, _, rfl, rfl, by decide, by decide⟩).append _
  | lastMember _ ih => exact ih
  | members _ _ ih _ => exact ih.append _

theorem skim_word {w : List Char} (hw : w ∈ words) (frames : List Frame) (rest : List Char) :
    skim .value frames (w ++ rest) = resume frames rest := by
  simp only [words, List.mem_cons, List.not_mem_nil, or_false] at hw
  obtain rfl | rfl | rfl := hw
  · exact .trans (skim_go rfl) (.trans (skim_go rfl) (.trans (skim_go rfl) (skim_close rfl)))
  · exact .trans (skim_go rfl) (.trans (skim_go rfl) (.trans (skim_go rfl) (skim_close rfl)))
  · exact .trans (skim_go rfl) (.trans (skim_go rfl) (.trans (skim_go rfl) (.trans (skim_go rfl)
      (skim_close rfl))))

/-- An array that is not closed at once begins with an item. -/
theorem skim_item {text : List Char} (h : Opens text) {frames : List Frame} :
    skim .item frames text = skim .value frames text := by
  obtain ⟨b, c, rest, hb, ⟨hs, hc, -⟩, rfl⟩ := h
  rw [skim_blank hb rfl (by simp), skim_blank hb rfl (by simp), skim, skim]
  simp [move, hs, hc]

theorem skim_member {text : List Char} (h : Opens text) {frames : List Frame} :
    skim .member frames text = skim .key frames text := by
  obtain ⟨b, c, rest, hb, ⟨hs, -, hc⟩, rfl⟩ := h
  rw [skim_blank hb rfl (by simp), skim_blank hb rfl (by simp), skim, skim]
  simp [move, hs, hc]

/-- How a phrase is passed over. -/
def Phrase.Skims : Phrase → List Char → Prop
  | .value, cs => ∀ frames rest, Ends rest → skim .value frames (cs ++ rest) = resume frames rest
  | .item, cs => ∀ frame frames rest, Ends rest →
      skim .value (frame :: frames) (cs ++ rest) = skim .done (frame :: frames) rest
  | .items, cs => ∀ frames rest,
      skim .value (.array :: frames) (cs ++ ']' :: rest) = resume frames rest
  | .member, cs => ∀ frame frames rest, Ends rest →
      skim .key (frame :: frames) (cs ++ rest) = skim .done (frame :: frames) rest
  | .members, cs => ∀ frames rest,
      skim .key (.object :: frames) (cs ++ '\x7d' :: rest) = resume frames rest

theorem WellFormed.skims {phrase : Phrase} {cs : List Char} (h : WellFormed phrase cs) :
    phrase.Skims cs := by
  induction h with
  | word hw => exact fun frames rest _ => skim_word hw frames rest
  | number hn => exact fun frames rest hr => skim_number hn hr
  | @string cs hl =>
    intro frames rest _
    calc skim .value frames (inQuotes cs ++ rest)
        = skim (.string .plain false) frames (cs ++ '"' :: rest) := by
          rw [inQuotes, List.cons_append, List.append_assoc]
          exact skim_go rfl
      _ = resume frames rest := skim_literal hl false rest
  | @emptyArray b hb =>
    intro frames rest _
    calc skim .value frames ('[' :: (b ++ [']']) ++ rest)
        = skim .item (.array :: frames) (b ++ ']' :: rest) := by
          rw [List.cons_append, List.append_assoc]
          exact skim_go rfl
      _ = skim .item (.array :: frames) (']' :: rest) := skim_blank hb rfl (by simp) _
      _ = resume frames rest := skim_close rfl
  | @array cs hc ih =>
    intro frames rest _
    calc skim .value frames ('[' :: (cs ++ [']']) ++ rest)
        = skim .item (.array :: frames) (cs ++ ']' :: rest) := by
          rw [List.cons_append, List.append_assoc]
          exact skim_go rfl
      _ = skim .value (.array :: frames) (cs ++ ']' :: rest) := skim_item (hc.opens.append _)
      _ = resume frames rest := ih frames rest
  | @emptyObject b hb =>
    intro frames rest _
    calc skim .value frames ('\x7b' :: (b ++ ['\x7d']) ++ rest)
        = skim .member (.object :: frames) (b ++ '\x7d' :: rest) := by
          rw [List.cons_append, List.append_assoc]
          exact skim_go rfl
      _ = skim .member (.object :: frames) ('\x7d' :: rest) := skim_blank hb rfl (by simp) _
      _ = resume frames rest := skim_close rfl
  | @object cs hc ih =>
    intro frames rest _
    calc skim .value frames ('\x7b' :: (cs ++ ['\x7d']) ++ rest)
        = skim .member (.object :: frames) (cs ++ '\x7d' :: rest) := by
          rw [List.cons_append, List.append_assoc]
          exact skim_go rfl
      _ = skim .key (.object :: frames) (cs ++ '\x7d' :: rest) := skim_member (hc.opens.append _)
      _ = resume frames rest := ih frames rest
  | item hv hp ih =>
    intro frame frames rest hr
    obtain ⟨b, d, hb, hd, rfl⟩ := hp
    rw [List.append_assoc, List.append_assoc, skim_blank hb rfl (by simp),
      ih (frame :: frames) (d ++ rest) (hr.blank hd)]
    exact skim_blank hd rfl (by simp) rest
  | lastItem _ ih =>
    intro frames rest
    rw [ih .array frames _ (ends_of (by simp) rest)]
    exact skim_close rfl
  | items _ _ ih ih' =>
    intro frames rest
    rw [List.append_assoc, List.cons_append, ih .array frames _ (ends_of (by simp) _)]
    exact .trans (skim_go rfl) (ih' frames rest)
  | @member cs key value hl hp hv ih =>
    intro frame frames rest hr
    obtain ⟨b, d, hb, hd, rfl⟩ := hp
    calc skim .key (frame :: frames) (b ++ (inQuotes cs ++ d) ++ ':' :: value ++ rest)
        = skim .key (frame :: frames) ('"' :: (cs ++ '"' :: (d ++ ':' :: (value ++ rest)))) := by
          simp only [inQuotes, List.append_assoc, List.cons_append, List.nil_append]
          exact skim_blank hb rfl (by simp) _
      _ = skim (.string .plain true) (frame :: frames)
            (cs ++ '"' :: (d ++ ':' :: (value ++ rest))) := skim_go rfl
      _ = skim .colon (frame :: frames) (d ++ ':' :: (value ++ rest)) := skim_literal hl true _
      _ = skim .colon (frame :: frames) (':' :: (value ++ rest)) := skim_blank hd rfl (by simp) _
      _ = skim .value (frame :: frames) (value ++ rest) := skim_go rfl
      _ = skim .done (frame :: frames) rest := ih frame frames rest hr
  | lastMember _ ih =>
    intro frames rest
    rw [ih .object frames _ (ends_of (by simp) rest)]
    exact skim_close rfl
  | members _ _ ih ih' =>
    intro frames rest
    rw [List.append_assoc, List.cons_append, ih .object frames _ (ends_of (by simp) _)]
    exact .trans (skim_go rfl) (ih' frames rest)

/-- A value is passed over whole, however deep it goes, and nothing behind it is touched. -/
theorem skimValue_wellFormed {v : List Char} (hv : WellFormed .value v) {b rest : List Char}
    (hb : Blank b) (hr : Ends rest) : skimValue (b ++ (v ++ rest)) = .ok rest := by
  rw [skimValue, skim_blank hb rfl (by simp)]
  exact hv.skims [] rest hr

end Values

end AmbientPulse.Json
