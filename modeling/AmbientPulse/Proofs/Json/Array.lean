import AmbientPulse.Proofs.Json.Object

namespace AmbientPulse.Json

/-- Of a text that begins with a value, the reader takes that value and no more, if it takes any. -/
def Exact {α : Type} (r : Reader α) : Prop :=
  ∀ v rest x, WellFormed .value v → Ends rest → r (v ++ rest) = .ok x → x.2 = rest

section Exact

theorem Exact.map {α β : Type} {r : Reader α} (h : Exact r) (f : α → β) :
    Exact fun cs => (r cs).map fun x => (f x.1, x.2) := by
  intro v rest x hv hr hx
  obtain ⟨y, hy, rfl⟩ := map_eq_ok.mp hx
  exact h v rest y hv hr hy

theorem prepend_eq_ok {c : Char} {x : Except Fault (List Char × List Char)}
    {y : List Char × List Char} (h : prepend c x = .ok y) : ∃ z, x = .ok z ∧ z.2 = y.2 := by
  cases x with
  | error f => cases h
  | ok z =>
    cases h
    exact ⟨z, rfl, rfl⟩

/-- A literal that is read at all is read to its closing quote. The induction is on the length, for
a pair of units is read at once. -/
theorem readChars_literal {cs : List Char} (h : Literal cs) {rest : List Char}
    {x : List Char × List Char} (hx : readChars (cs ++ '"' :: rest) = .ok x) : x.2 = rest := by
  induction hn : cs.length using Nat.strongRecOn generalizing cs x with
  | ind n ih =>
    cases h with
    | nil =>
      cases hx
      rfl
    | bare hq hb hc hl =>
      rw [List.cons_append, readChars_bare hq hb hc] at hx
      obtain ⟨z, hz, he⟩ := prepend_eq_ok hx
      rw [← he]
      exact ih _ (by simp [← hn]) hl hz rfl
    | escape hs hl =>
      rw [List.cons_append, List.cons_append, readChars_simple hs] at hx
      obtain ⟨z, hz, he⟩ := prepend_eq_ok hx
      rw [← he]
      exact ih _ (by simp only [← hn, List.length_cons]; omega) hl hz rfl
    | @unit a b c d u text hu hl =>
      simp only [List.cons_append, readChars, hu] at hx
      split_ifs at hx with hlow hhigh
      · cases hl with
        | nil => cases hx
        | @bare c text hq hb hc hl =>
          simp [hb] at hx
        | escape hs hl => simp [ne_u_of_simple hs] at hx
        | unit hv hl =>
          simp only [List.cons_append, hv] at hx
          split_ifs at hx
          obtain ⟨z, hz, he⟩ := prepend_eq_ok hx
          rw [← he]
          exact ih _ (by simp only [← hn, List.length_cons]; omega) hl hz rfl
      · obtain ⟨z, hz, he⟩ := prepend_eq_ok hx
        rw [← he]
        exact ih _ (by simp only [← hn, List.length_cons]; omega) hl hz rfl

theorem WellFormed.string_of_head {cs : List Char} (h : WellFormed .value ('"' :: cs)) :
    ∃ text, Literal text ∧ '"' :: cs = inQuotes text := by
  generalize hw : '"' :: cs = w at h
  cases h with
  | string hl => exact ⟨_, hl, rfl⟩
  | word hw' =>
    subst hw
    simp [words] at hw'
  | number hn =>
    obtain ⟨c, rest, rfl, hc⟩ := hn.head
    cases hw
    obtain hc | hc := hc <;> cases hc
  | emptyArray | array | emptyObject | object => cases hw

theorem WellFormed.word_of_head {c : Char} {cs : List Char} (h : WellFormed .value (c :: cs))
    (hc : c = 't' ∨ c = 'f' ∨ c = 'n') : c :: cs ∈ words := by
  generalize hw : c :: cs = w at h
  cases h with
  | word h => exact h
  | number hn =>
    obtain ⟨d, rest, rfl, hd⟩ := hn.head
    cases hw
    obtain rfl | rfl | rfl := hc <;> obtain hd | hd := hd <;> cases hd
  | string | emptyArray | array | emptyObject | object =>
    cases hw
    simp at hc

theorem exact_bool : Exact readBool := by
  intro v rest x hv hr hx
  obtain ⟨c, cs, rfl, hs, -, -⟩ := hv.head
  rw [List.cons_append, readBool, skipSpace_cons hs] at hx
  split at hx
  · next h =>
    cases h
    have hw : cs = ['r', 'u', 'e'] := by simpa [words] using hv.word_of_head (.inl rfl)
    subst hw
    cases hx
    rfl
  · next h =>
    cases h
    have hw : cs = ['a', 'l', 's', 'e'] := by simpa [words] using hv.word_of_head (.inr (.inl rfl))
    subst hw
    cases hx
    rfl
  · exact absurd hx (wrongKind_ne_ok _ _ _)

theorem exact_string : Exact readString := by
  intro v rest x hv hr hx
  obtain ⟨c, cs, rfl, hs, -, -⟩ := hv.head
  by_cases hc : c = '"'
  · subst hc
    obtain ⟨text, hl, he⟩ := hv.string_of_head
    have hx' : readText (text ++ '"' :: rest) = .ok x := by
      rw [he, inQuotes_append] at hx
      exact hx
    obtain ⟨y, hy, rfl⟩ := map_eq_ok.mp hx'
    exact readChars_literal hl hy
  · rw [List.cons_append, readString, skipSpace_cons hs] at hx
    split at hx
    · next h =>
      cases h
      exact absurd rfl hc
    · exact absurd hx (wrongKind_ne_ok _ _ _)

end Exact

/-- An item as it stands in a document, and what reading it makes of a record. -/
structure Item (ρ : Type) where
  text : List Char
  put : ρ → ρ

/-- An item that a field reads, with white space around it. -/
def Item.Fills {ρ : Type} (f : Field ρ) (i : Item ρ) : Prop :=
  ∃ v, WellFormed .value v ∧ Padded v i.text ∧ ∀ record, Reads (f.read record) v (i.put record)

namespace Shape

variable {ρ : Type} {s : Shape ρ}

/-- What stands in front of an item. -/
def lead (n : Nat) : List Char :=
  if n = 0 then [] else [',']

theorem endArray_blank {b : List Char} (hb : Blank b) (rest : List Char) :
    endArray (b ++ rest) = endArray rest := by
  rw [endArray, endArray, skipSpace_blank hb]

theorem readItems_blank {b : List Char} (hb : Blank b) (n : Nat) (fs : List (Field ρ))
    (record : ρ) (rest : List Char) :
    s.readItems n fs record (b ++ rest) = s.readItems n fs record rest := by
  cases fs with
  | nil => rw [readItems, readItems, endArray_blank hb]
  | cons f fs => rw [readItems, readItems, skipSpace_blank hb]

/-- A field reads its item from the first character of the value on. -/
theorem readItems_cons {v b : List Char} (hv : WellFormed .value v) (hb : Blank b) (n : Nat)
    (f : Field ρ) (fs : List (Field ρ)) (record : ρ) (rest : List Char) :
    s.readItems n (f :: fs) record (lead n ++ (b ++ (v ++ rest))) =
      (f.read record (v ++ rest)).bind fun r => s.readItems (n + 1) fs r.1 r.2 := by
  obtain ⟨c, cs, rfl, hs, hc, -⟩ := hv.head
  have hskip : skipSpace (b ++ c :: (cs ++ rest)) = c :: (cs ++ rest) := by
    rw [skipSpace_blank hb, skipSpace_cons hs]
  rw [List.cons_append]
  by_cases hn : n = 0
  · subst hn
    rw [lead, if_pos rfl, List.nil_append, readItems, hskip]
    simp [bind]
  · rw [lead, if_neg hn, List.singleton_append, readItems, skipSpace_cons rfl]
    simp [hskip, hn, hc, bind]

theorem readItems_item {f : Field ρ} {i : Item ρ} (hi : i.Fills f) (n : Nat)
    (fs : List (Field ρ)) (record : ρ) {rest : List Char} (hr : Ends rest) :
    s.readItems n (f :: fs) record (lead n ++ (i.text ++ rest)) =
      s.readItems (n + 1) fs (i.put record) rest := by
  obtain ⟨v, hv, ⟨before, after, hb, ha, he⟩, hread⟩ := hi
  rw [he, List.append_assoc, List.append_assoc, readItems_cons hv hb,
    hread record _ (hr.blank ha)]
  exact readItems_blank ha (n + 1) fs (i.put record) rest

/-- Items are read in the order of the fields, from field number `n` on. -/
theorem readItems_items {fs : List (Field ρ)} {is : List (Item ρ)}
    (hi : List.Forall₂ (fun f i => i.Fills f) fs is) (n : Nat) (left : List (Field ρ))
    (record : ρ) {rest : List Char} (hr : Ends rest) :
    s.readItems (n + 1) (fs ++ left) record ((is.map (·.text)).flatMap ([','] ++ ·) ++ rest) =
      s.readItems (n + 1 + fs.length) left (is.foldl (fun record i => i.put record) record)
        rest := by
  induction hi generalizing n record with
  | nil => rfl
  | @cons f i fs is hf _ ih =>
    have he : Ends ((is.map (·.text)).flatMap ([','] ++ ·) ++ rest) := ends_separated id _ hr
    have hstep := readItems_item (s := s) hf (n + 1) (fs ++ left) record he
    rw [lead, if_neg (Nat.succ_ne_zero n)] at hstep
    rw [List.map_cons, List.flatMap_cons, List.append_assoc, List.append_assoc, List.cons_append,
      hstep, ih, List.foldl_cons, List.length_cons, Nat.add_assoc (n + 1), Nat.add_comm 1]

/-- What is left of an array after its first items. -/
theorem read_items {fs left : List (Field ρ)} (hs : s.fields = fs ++ left) {is : List (Item ρ)}
    (hi : List.Forall₂ (fun f i => i.Fills f) fs is) {a b : List Char} (ha : Blank a)
    (hb : Blank b) {rest : List Char} (hr : Ends rest) :
    s.read (a ++ '[' :: (b ++ ([','].intercalate (is.map (·.text)) ++ rest))) =
      s.readItems fs.length left (is.foldl (fun record i => i.put record) s.blank) rest := by
  rw [read, skipSpace_blank ha, skipSpace_cons rfl]
  simp only [readItems_blank hb, hs]
  cases hi with
  | nil => rfl
  | @cons f i fs is hf hi =>
    have he : Ends ((is.map (·.text)).flatMap ([','] ++ ·) ++ rest) := ends_separated id _ hr
    have hstep := readItems_item (s := s) hf 0 (fs ++ left) s.blank he
    rw [lead, if_pos rfl, List.nil_append] at hstep
    rw [List.map_cons, intercalate_cons, List.append_assoc, List.cons_append, hstep,
      readItems_items hi 0 left _ hr]
    simp [Nat.add_comm]

/-- An array may end early, unless all fields are required. -/
theorem read_array (hreq : s.required = false) {fs left : List (Field ρ)}
    (hs : s.fields = fs ++ left) {is : List (Item ρ)}
    (hi : List.Forall₂ (fun f i => i.Fills f) fs is) {a b : List Char} (ha : Blank a)
    (hb : Blank b) (rest : List Char) :
    s.read (a ++ '[' :: (b ++ ([','].intercalate (is.map (·.text)) ++ ']' :: rest))) =
      .ok (is.foldl (fun record i => i.put record) s.blank, rest) := by
  rw [read_items hs hi ha hb (ends_of (by simp) rest)]
  cases left with
  | nil =>
    rw [readItems, endArray, skipSpace_cons rfl]
    rfl
  | cons f left =>
    rw [readItems, skipSpace_cons rfl]
    simp [endEarly, hreq]

/-- After an item for every field there may be no other, whatever it is. -/
theorem read_surplus {is : List (Item ρ)} (hi : List.Forall₂ (fun f i => i.Fills f) s.fields is)
    {a b : List Char} (ha : Blank a) (hb : Blank b) (rest : List Char) :
    s.read (a ++ '[' :: (b ++ ([','].intercalate (is.map (·.text)) ++ ',' :: rest))) =
      .error .malformed := by
  rw [read_items (List.append_nil _).symm hi ha hb (ends_of (by simp) rest), readItems, endArray,
    skipSpace_cons rfl]
  rfl

section Surplus

/-- An item that is read at all is read to its end. -/
theorem readItems_exact {f : Field ρ} {record : ρ} (hf : Exact (f.read record)) {t : List Char}
    (ht : WellFormed .item t) {n : Nat} {fs : List (Field ρ)} {rest : List Char} (hr : Ends rest)
    {x : ρ × List Char} (hx : s.readItems n (f :: fs) record (lead n ++ (t ++ rest)) = .ok x) :
    ∃ record', s.readItems (n + 1) fs record' rest = .ok x := by
  cases ht with
  | item hv hp =>
    obtain ⟨before, after, hb, ha, rfl⟩ := hp
    rw [List.append_assoc, List.append_assoc, readItems_cons hv hb] at hx
    obtain ⟨y, hy, hx⟩ := bind_eq_ok.mp hx
    rw [hf _ _ y hv (hr.blank ha) hy, readItems_blank ha] at hx
    exact ⟨y.1, hx⟩

theorem readItems_surplus {fs : List (Field ρ)} (hf : ∀ f ∈ fs, ∀ record, Exact (f.read record))
    {ts : List (List Char)} (ht : ∀ t ∈ ts, WellFormed .item t) (hl : fs.length < ts.length)
    {rest : List Char} (hr : Ends rest) (n : Nat) (record : ρ) (x : ρ × List Char) :
    s.readItems (n + 1) fs record (ts.flatMap ([','] ++ ·) ++ rest) ≠ .ok x := by
  induction fs generalizing ts n record with
  | nil =>
    cases ts with
    | nil => cases hl
    | cons t ts =>
      rw [readItems, endArray, List.flatMap_cons, List.append_assoc, List.append_assoc,
        List.singleton_append, skipSpace_cons rfl]
      rintro ⟨⟩
  | cons f fs ih =>
    cases ts with
    | nil => cases hl
    | cons t ts =>
      intro hx
      rw [List.flatMap_cons, List.append_assoc, List.append_assoc] at hx
      obtain ⟨record', hx'⟩ := readItems_exact (hf f (by simp) record) (ht t (by simp))
        (ends_separated id ts hr) hx
      exact ih (fun g hg => hf g (by simp [hg])) (fun u hu => ht u (by simp [hu]))
        (Nat.lt_of_succ_lt_succ hl) (n + 1) record' hx'

/-- An array of more items than there are fields is not read, whatever the items are. -/
theorem read_surplus_ne_ok (hf : ∀ f ∈ s.fields, ∀ record, Exact (f.read record))
    (hs : s.fields ≠ []) {ts : List (List Char)} (ht : ∀ t ∈ ts, WellFormed .item t)
    (hl : s.fields.length < ts.length) {a b : List Char} (ha : Blank a) (hb : Blank b)
    (rest : List Char) (x : ρ × List Char) :
    s.read (a ++ '[' :: (b ++ ([','].intercalate ts ++ ']' :: rest))) ≠ .ok x := by
  rw [read, skipSpace_blank ha, skipSpace_cons rfl]
  simp only [readItems_blank hb]
  have he : Ends (']' :: rest) := ends_of (by simp) rest
  cases hfs : s.fields with
  | nil => exact absurd hfs hs
  | cons f fs =>
    rw [hfs] at hf hl
    cases ts with
    | nil => cases hl
    | cons t ts =>
      intro hx
      rw [intercalate_cons, List.append_assoc] at hx
      obtain ⟨record', hx'⟩ := readItems_exact (n := 0) (hf f (by simp) s.blank) (ht t (by simp))
        (ends_separated id ts he) hx
      exact readItems_surplus (fun g hg => hf g (by simp [hg])) (fun u hu => ht u (by simp [hu]))
        (Nat.lt_of_succ_lt_succ hl) he 0 record' x hx'

end Surplus

end Shape

end AmbientPulse.Json
