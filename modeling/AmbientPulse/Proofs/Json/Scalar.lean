import AmbientPulse.Json.Reader
import AmbientPulse.Json.Writer
import AmbientPulse.Proofs.Json.Grammar

namespace AmbientPulse.Json

/-- Nothing that a number could go on with. -/
def Ends (cs : List Char) : Prop :=
  ∀ c ∈ cs.head?, c.isDigit = false ∧ c ≠ '.' ∧ c ≠ 'e' ∧ c ≠ 'E'

theorem ends_of {c : Char} (h : c ∈ [' ', '\t', '\n', '\r', ',', ']', '\x7d', ':', '"'])
    (cs : List Char) : Ends (c :: cs) := by
  rintro _ ⟨⟩
  simp only [List.mem_cons, List.not_mem_nil, or_false] at h
  obtain rfl | rfl | rfl | rfl | rfl | rfl | rfl | rfl | rfl := h <;> decide

theorem Ends.blank {b rest : List Char} (hb : Blank b) (hr : Ends rest) : Ends (b ++ rest) := by
  cases b with
  | nil => exact hr
  | cons c b =>
    refine ends_of ?_ _
    have hc := hb c (by simp)
    simp only [List.mem_cons, List.not_mem_nil, or_false] at hc ⊢
    grind

/-- Whatever follows it, the text is read as the value, and to its end. -/
def Reads {α : Type} (r : Reader α) (text : List Char) (v : α) : Prop :=
  ∀ rest, Ends rest → r (text ++ rest) = .ok (v, rest)

theorem Reads.map {α β : Type} {r : Reader α} {text : List Char} {v : α} (h : Reads r text v)
    (f : α → β) : Reads (fun cs => (r cs).map fun x => (f x.1, x.2)) text (f v) := by
  intro rest hr
  simp only [h rest hr, Except.map]

/-- White space in front of a value makes no difference. -/
def Lenient {α : Type} (r : Reader α) : Prop :=
  ∀ b cs, Blank b → r (b ++ cs) = r cs

theorem Lenient.map {α β : Type} {r : Reader α} (h : Lenient r) (f : α → β) :
    Lenient fun cs => (r cs).map fun x => (f x.1, x.2) := by
  intro b cs hb
  simp only [h b cs hb]

theorem Reads.blank {α : Type} {r : Reader α} {text b : List Char} {v : α} (h : Reads r text v)
    (hl : Lenient r) (hb : Blank b) : Reads r (b ++ text) v := by
  intro rest hr
  rw [List.append_assoc, hl _ _ hb]
  exact h rest hr

theorem skipSpace_cons {c : Char} (hc : isSpace c = false) (cs : List Char) :
    skipSpace (c :: cs) = c :: cs := by
  simp [skipSpace, hc]

theorem isSpace_of_mem {c : Char} (h : c ∈ [' ', '\t', '\n', '\r']) : isSpace c = true := by
  simp only [List.mem_cons, List.not_mem_nil, or_false] at h
  obtain rfl | rfl | rfl | rfl := h <;> rfl

theorem skipSpace_blank {b : List Char} (hb : Blank b) (cs : List Char) :
    skipSpace (b ++ cs) = skipSpace cs :=
  List.dropWhile_append_of_pos fun c hc => isSpace_of_mem (hb c hc)

theorem isSpace_of_isDigit {c : Char} (hc : c.isDigit = true) : isSpace c = false := by
  refine Bool.eq_false_iff.mpr fun hs => ?_
  simp only [isSpace, Bool.or_eq_true, beq_iff_eq] at hs
  obtain ((rfl | rfl) | rfl) | rfl := hs <;> cases hc

section Strings

theorem hexUnit_digitChar : ∀ n < 32,
    hexUnit? '0' '0' (Nat.digitChar (n / 16)) (Nat.digitChar (n % 16)) = some n := by
  decide

/-- What stands for a character when it is written is a spelling of it. -/
theorem spells_escape (c : Char) {text cs : List Char} (h : Spells text cs) :
    Spells (escape c ++ text) (c :: cs) := by
  unfold escape
  split_ifs with h1 h2 h3 h4 h5 h6 h7
  · obtain rfl | rfl := h1 <;> exact .escape rfl h
  · exact .escape (by rw [h2]; rfl) h
  · exact .escape (by rw [h3]; rfl) h
  · exact .escape (by rw [h4]; rfl) h
  · exact .escape (by rw [h5]; rfl) h
  · exact .escape (by rw [h6]; rfl) h
  · have hl : isLowSurrogate c.toNat = false := by simp [isLowSurrogate]; omega
    have hh : isHighSurrogate c.toNat = false := by simp [isHighSurrogate]; omega
    simpa using Spells.unit (hexUnit_digitChar c.toNat h7) hl hh h
  · rw [not_or] at h1
    exact .bare h1.1 h1.2 (by simp [isControl]; omega) h

theorem spells_escaped (cs : List Char) : Spells (cs.flatMap escape) cs := by
  induction cs with
  | nil => exact .nil
  | cons c cs ih => exact spells_escape c ih

theorem readChars_bare {c : Char} (hq : c ≠ '"') (hb : c ≠ '\\') (hc : isControl c = false)
    (cs : List Char) : readChars (c :: cs) = prepend c (readChars cs) := by
  rw [readChars.eq_def]
  split <;> simp_all

theorem readChars_simple {e c : Char} (he : simpleEscape? e = some c) (cs : List Char) :
    readChars ('\\' :: e :: cs) = prepend c (readChars cs) := by
  simp [readChars, ne_u_of_simple he, he]

theorem readChars_spells {text cs : List Char} (h : Spells text cs) (rest : List Char) :
    readChars (text ++ '"' :: rest) = .ok (cs, rest) := by
  induction h with
  | nil => rfl
  | bare hq hb hc _ ih => rw [List.cons_append, readChars_bare hq hb hc, ih]; rfl
  | escape he _ ih => rw [List.cons_append, List.cons_append, readChars_simple he, ih]; rfl
  | unit hu hl hh _ ih =>
    simp only [List.cons_append, readChars, hu, hl, hh, ih]
    rfl
  | @pair _ _ _ _ _ _ _ _ u _ _ _ hu hh hv hl _ ih =>
    have hn : isLowSurrogate u = false := by
      simp only [isHighSurrogate, isLowSurrogate, Bool.and_eq_true, decide_eq_true_eq] at hh ⊢
      grind
    simp only [List.cons_append, readChars, hu, hn, hh, hv, hl, ih]
    rfl

/-- From after its opening quote, a string is read to the closing one. -/
theorem readText_spells {text : List Char} {s : String} (h : Spells text s.toList)
    (rest : List Char) : readText (text ++ '"' :: rest) = .ok (s, rest) := by
  rw [readText, readChars_spells h, Except.map, String.ofList_toList]

theorem inQuotes_append (cs rest : List Char) :
    inQuotes cs ++ rest = '"' :: (cs ++ '"' :: rest) := by
  simp [inQuotes]

theorem reads_quoted {text : List Char} {s : String} (h : Spells text s.toList) :
    Reads readString (inQuotes text) s := by
  intro rest _
  rw [inQuotes_append]
  exact readText_spells h rest

theorem reads_string (s : String) : Reads readString (writeString s) s :=
  reads_quoted (spells_escaped s.toList)

theorem reads_named {α : Type} (naming : Naming α) {a : α}
    (ha : naming.find (naming.name a) = .ok a) :
    Reads (readNamed naming) (writeString (naming.name a)) a := by
  intro rest _
  have h : readNamed naming (writeString (naming.name a) ++ rest) =
      readName naming ((naming.name a).toList.flatMap escape ++ '"' :: rest) := by
    rw [writeString, List.cons_append, List.append_assoc]
    rfl
  rw [h, readName, readText_spells (spells_escaped _), Except.bind, ha]
  rfl

end Strings

section Outcomes

theorem bind_eq_ok {α β : Type} {x : Except Fault α} {f : α → Except Fault β} {b : β} :
    x.bind f = .ok b ↔ ∃ a, x = .ok a ∧ f a = .ok b := by
  cases x <;> simp [Except.bind]

theorem map_eq_ok {α β : Type} {x : Except Fault α} {f : α → β} {b : β} :
    x.map f = .ok b ↔ ∃ a, x = .ok a ∧ f a = b := by
  cases x <;> simp [Except.map]

theorem bind_mismatch {α β : Type} (x : Except Fault α) (m : α → Mismatch) (v : β) :
    (x.bind fun a => mismatch (m a)) ≠ .ok v := by
  rw [Ne, bind_eq_ok]
  rintro ⟨a, -, ⟨⟩⟩

theorem wrongKind_ne_ok {α : Type} (expected : String) (cs : List Char) (v : α) :
    wrongKind expected cs ≠ .ok v := by
  unfold wrongKind
  split
  · rintro ⟨⟩
  · rintro ⟨⟩
  · rintro ⟨⟩
  · exact bind_mismatch _ _ v
  · exact bind_mismatch _ _ v
  · exact bind_mismatch _ _ v
  · exact bind_mismatch _ _ v
  · split
    · exact bind_mismatch _ _ v
    · rintro ⟨⟩

end Outcomes

theorem reads_bool (b : Bool) : Reads readBool (writeBool b) b := by
  intro rest _
  cases b <;> rfl

theorem lenient_bool : Lenient readBool := by
  intro b cs hb
  rw [readBool, readBool, skipSpace_blank hb]

theorem lenient_string : Lenient readString := by
  intro b cs hb
  rw [readString, readString, skipSpace_blank hb]

section Integers

theorem le_ofDigitChars (cs : List Char) (n : Nat) : n ≤ Nat.ofDigitChars 10 cs n := by
  induction cs generalizing n with
  | nil => simp
  | cons c cs ih =>
    rw [Nat.ofDigitChars_cons]
    exact Nat.le_trans (by omega) (ih _)

/-- As long as the number fits, no digit is left. -/
theorem takeDigits_fits {cs : List Char} {n : Nat}
    (h : Nat.ofDigitChars 10 cs n < 18446744073709551616) :
    takeDigits n cs = (Nat.ofDigitChars 10 cs n, []) := by
  induction cs generalizing n with
  | nil => simp [takeDigits]
  | cons c cs ih =>
    rw [Nat.ofDigitChars_cons, Nat.mul_comm] at h ⊢
    have hs : n * 10 + digitValue c < 18446744073709551616 :=
      Nat.lt_of_le_of_lt (le_ofDigitChars cs _) h
    rw [takeDigits, if_pos hs]
    exact ih h

theorem digits_toDigits (n : Nat) : ∀ c ∈ Nat.toDigits 10 n, c.isDigit = true :=
  fun _ hc => Nat.isDigit_of_mem_toDigits (by decide) (by decide) hc

/-- No number but zero is written with a zero in front. -/
theorem head_toDigits (n : Nat) :
    ∃ c cs, Nat.toDigits 10 n = c :: cs ∧ c.isDigit = true ∧ (0 < n → c ≠ '0') := by
  induction n using Nat.strongRecOn with
  | _ n ih =>
    rw [Nat.toDigits_eq_if (by decide)]
    split
    · next h =>
      refine ⟨_, _, rfl, by rw [Nat.isDigit_digitChar, decide_eq_true h], fun hn hz => ?_⟩
      rw [Nat.digitChar_eq_zero] at hz
      omega
    · next h =>
      obtain ⟨c, cs, he, hd, hc⟩ := ih (n / 10) (by omega)
      exact ⟨c, cs ++ [Nat.digitChar (n % 10)], by rw [he]; rfl, hd, fun _ => hc (by omega)⟩

theorem Ends.span {ds rest : List Char} (hr : Ends rest) (hd : ∀ c ∈ ds, c.isDigit = true) :
    (ds ++ rest).takeWhile Char.isDigit = ds ∧ (ds ++ rest).dropWhile Char.isDigit = rest := by
  rw [List.takeWhile_append_of_pos hd, List.dropWhile_append_of_pos hd]
  cases rest with
  | nil => simp
  | cons c cs =>
    obtain ⟨hc, -⟩ := hr c rfl
    simp [hc]

theorem readTail_ends (negative : Bool) (n : Nat) {rest : List Char} (hr : Ends rest) :
    readTail negative n 0 rest = wholeNumber negative n rest := by
  unfold readTail
  split
  · exact absurd rfl (hr _ rfl).2.1
  · exact absurd rfl (hr _ rfl).2.2.1
  · exact absurd rfl (hr _ rfl).2.2.2
  · rfl

theorem readUnsigned_toDigits (negative : Bool) {n : Nat} (hn : n < 18446744073709551616)
    {rest : List Char} (hr : Ends rest) :
    readUnsigned negative (Nat.toDigits 10 n ++ rest) = wholeNumber negative n rest := by
  obtain rfl | hp := Nat.eq_zero_or_pos n
  · rw [Nat.toDigits_zero, List.singleton_append]
    cases rest with
    | nil => exact readTail_ends negative 0 hr
    | cons c cs =>
      have h : readUnsigned negative ('0' :: c :: cs) =
          if c.isDigit then .error .malformed else readTail negative 0 0 (c :: cs) := rfl
      rw [h, (hr c rfl).1]
      exact readTail_ends negative 0 hr
  · obtain ⟨c, cs, he, hd, hc⟩ := head_toDigits n
    have hz : c ≠ '0' := hc hp
    obtain ⟨ht, hs⟩ := hr.span (digits_toDigits n)
    have hv : takeDigits 0 (Nat.toDigits 10 n) = (n, []) := by
      rw [takeDigits_fits (by rwa [Nat.ofDigitChars_ten_toDigits]), Nat.ofDigitChars_ten_toDigits]
    rw [he, List.cons_append] at ht hs ⊢
    rw [readUnsigned.eq_def]
    simp only [hd, ht, hs, if_true, ← he, hv]
    exact readTail_ends negative n hr

/-- A written integer begins with a minus sign or a digit. -/
theorem head_written (n : Int) :
    ∃ c cs, writeInteger n = c :: cs ∧ (c = '-' ∨ c.isDigit = true) := by
  unfold writeInteger
  split
  · exact ⟨_, _, rfl, .inl rfl⟩
  · obtain ⟨c, cs, he, hd, -⟩ := head_toDigits n.natAbs
    exact ⟨c, cs, he, .inr hd⟩

theorem readNumeral_unsigned {cs : List Char} (hc : ∀ c ∈ cs.head?, c ≠ '-') :
    readNumeral cs = readUnsigned false cs := by
  unfold readNumeral
  split
  · exact absurd rfl (hc _ rfl)
  · rfl

theorem readNumeral_written {n : Int} (hl : -9223372036854775808 ≤ n)
    (hg : n ≤ 18446744073709551615) {rest : List Char} (hr : Ends rest) :
    readNumeral (writeInteger n ++ rest) = .ok (.integer n, rest) := by
  unfold writeInteger
  split
  · next hn =>
    have h : readNumeral ('-' :: Nat.toDigits 10 n.natAbs ++ rest) =
        readUnsigned true (Nat.toDigits 10 n.natAbs ++ rest) := rfl
    have hi : -(n.natAbs : Int) = n := by omega
    rw [h, readUnsigned_toDigits true (by omega) hr, wholeNumber, if_pos rfl, if_pos (by omega), hi]
  · next hn =>
    have hm : ∀ c ∈ (Nat.toDigits 10 n.natAbs ++ rest).head?, c ≠ '-' := by
      obtain ⟨c, cs, he, hd, -⟩ := head_toDigits n.natAbs
      rw [he]
      rintro _ ⟨⟩ rfl
      cases hd
    have hi : (n.natAbs : Int) = n := by omega
    rw [readNumeral_unsigned hm, readUnsigned_toDigits false (by omega) hr, wholeNumber,
      if_neg (by simp), hi]

/-- Integers of 64 bits are read back, signed or not, if they are in the range that is read. -/
theorem reads_integer (range : Range) {n : Int} (hl : -9223372036854775808 ≤ n)
    (hg : n ≤ 18446744073709551615) (hr : range.least ≤ n ∧ n ≤ range.greatest) :
    Reads (readInteger range) (writeInteger n) n := by
  intro rest he
  obtain ⟨c, cs, hw, hc⟩ := head_written n
  have hn := readNumeral_written hl hg he
  have hs : isSpace c = false := by
    obtain rfl | hd := hc
    · rfl
    · exact isSpace_of_isDigit hd
  rw [hw, List.cons_append] at hn ⊢
  simp only [readInteger, skipSpace_cons hs, if_pos hc, hn, Except.bind, Range.accept, if_pos hr,
    Except.map]

end Integers

end AmbientPulse.Json
