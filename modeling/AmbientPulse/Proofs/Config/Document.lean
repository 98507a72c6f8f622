import AmbientPulse.Proofs.Config.Slot
import AmbientPulse.Proofs.Json.Array
import AmbientPulse.Proofs.Json.RoundTrip

namespace AmbientPulse

namespace Json

/-- The text of an object with some members, white space around it included. -/
def IsObject (ms : List (List Char)) (text : List Char) : Prop :=
  ∃ a b z, Blank a ∧ Blank b ∧ Blank z ∧
    text = a ++ '\x7b' :: (b ++ ([','].intercalate ms ++ '\x7d' :: z))

/-- The text of an array with some items. -/
def IsArray (ts : List (List Char)) (text : List Char) : Prop :=
  ∃ a b z, Blank a ∧ Blank b ∧ Blank z ∧
    text = a ++ '[' :: (b ++ ([','].intercalate ts ++ ']' :: z))

/-- A value of some kind with white space around it. -/
def IsItem (kind : List Char → Prop) (text : List Char) : Prop :=
  ∃ value, kind value ∧ Padded value text

/-- A member with a name and a value of some kind, and white space wherever it may stand. -/
def IsMember (name : String) (kind : List Char → Prop) (text : List Char) : Prop :=
  ∃ key item, IsKey name key ∧ IsItem kind item ∧ text = key ++ ':' :: item

theorem readDocument_blank {α : Type} {r : Reader α} {text z : List Char} {v : α}
    (h : r text = .ok (v, z)) (hz : Blank z) : readDocument r (String.ofList text) = .ok v := by
  have hs : skipSpace z = [] := by
    have := skipSpace_blank hz []
    rwa [List.append_nil] at this
  rw [readDocument, String.toList_ofList, h]
  simp [bind, Except.bind, hs, pure, Except.pure]

theorem readDocument_error {α : Type} {r : Reader α} {text : List Char} {f : Fault}
    (h : r text = .error f) : readDocument r (String.ofList text) = .error f := by
  rw [readDocument, String.toList_ofList, h]
  rfl

end Json

open Json

namespace Config

/-- How a field's value may be written. -/
inductive Datum.Spelled : Datum → List Char → Prop where
  | flag (b : Bool) : Spelled (.flag b) (writeBool b)
  | text {s : String} {cs : List Char} : Spells cs s.toList → Spelled (.text s) (inQuotes cs)

theorem Datum.Spelled.wellFormed {d : Datum} {v : List Char} (h : d.Spelled v) :
    WellFormed .value v := by
  cases h with
  | flag b => exact .word (by cases b <;> decide)
  | text h => exact .string h.literal

/-- Members with the values of some fields of a configuration, in that order, and members of other
names anywhere among them. -/
inductive Members (c : Config) : List Slot → List (List Char) → Prop where
  | nil : Members c [] []
  | field {slot : Slot} {slots : List Slot} {m : List Char} {ms : List (List Char)} :
      IsMember slot.name (slot.datum c).Spelled m → Members c slots ms →
      Members c (slot :: slots) (m :: ms)
  | other {name : String} {slots : List Slot} {m : List Char} {ms : List (List Char)} :
      (∀ slot : Slot, name ≠ slot.name) → IsMember name (WellFormed .value) m →
      Members c slots ms → Members c slots (m :: ms)

/-- The configuration that keeps its values in some fields and has the default in all others. -/
def only (c : Config) (slots : List Slot) : Config :=
  let d : Config := {}
  { pulseOnSignificantMotion :=
      if .pulseOnSignificantMotion ∈ slots then c.pulseOnSignificantMotion
      else d.pulseOnSignificantMotion
    pickUpSupported := if .pickUpSupported ∈ slots then c.pickUpSupported else d.pickUpSupported
    ambientDisplayAvailable :=
      if .ambientDisplayAvailable ∈ slots then c.ambientDisplayAvailable
      else d.ambientDisplayAvailable
    doubleTapType := if .doubleTapType ∈ slots then c.doubleTapType else d.doubleTapType
    proximitySpec := if .proximitySpec ∈ slots then c.proximitySpec else d.proximitySpec }

theorem datum_only (c : Config) (slots : List Slot) (slot : Slot) :
    slot.datum (c.only slots) = if slot ∈ slots then slot.datum c else slot.datum {} := by
  cases slot <;> exact apply_ite _ _ _ _

theorem only_congr (c : Config) {slots slots' : List Slot}
    (h : ∀ slot, slot ∈ slots ↔ slot ∈ slots') : c.only slots = c.only slots' := by
  apply ext_datum
  intro slot
  rw [datum_only, datum_only]
  simp only [h]

theorem datum_foldl_copy (c : Config) (slots : List Slot) (d : Config) (slot : Slot) :
    slot.datum (slots.foldl (fun record slot => slot.copy c record) d) =
      if slot ∈ slots then slot.datum c else slot.datum d := by
  induction slots generalizing d with
  | nil => simp
  | cons s slots ih =>
    rw [List.foldl_cons, ih, Slot.datum_copy]
    by_cases h : slot ∈ slots
    · simp [h]
    · by_cases hs : s = slot
      · simp [hs]
      · simp [h, hs, Ne.symm hs]

theorem foldl_copy (c : Config) (slots : List Slot) :
    slots.foldl (fun record slot => slot.copy c record) {} = c.only slots := by
  apply ext_datum
  intro slot
  rw [datum_only]
  exact datum_foldl_copy c slots {} slot

/-- The field of the documents' shape that is for a slot. -/
structure Slot.IsField (slot : Slot) (f : Json.Field Config) : Prop where
  name : f.name = slot.name
  lenient : ∀ record, Lenient (f.read record)
  exact : ∀ record, Exact (f.read record)
  reads : ∀ c v record, (slot.datum c).Spelled v → Reads (f.read record) v (slot.copy c record)

theorem Slot.isField_flag {slot : Slot} {get : Config → Bool} {set : Config → Bool → Config}
    (hd : ∀ c, slot.datum c = .flag (get c)) (hc : ∀ c d, slot.copy c d = set d (get c)) :
    slot.IsField (.of slot.name readBool set) where
  name := rfl
  lenient record := lenient_bool.map (set record)
  exact record := exact_bool.map (set record)
  reads c v record hv := by
    rw [hd] at hv
    cases hv
    rw [hc]
    exact (reads_bool (get c)).map (set record)

theorem Slot.isField_text {slot : Slot} {get : Config → String} {set : Config → String → Config}
    (hd : ∀ c, slot.datum c = .text (get c)) (hc : ∀ c d, slot.copy c d = set d (get c)) :
    slot.IsField (.of slot.name readString set) where
  name := rfl
  lenient record := lenient_string.map (set record)
  exact record := exact_string.map (set record)
  reads c v record hv := by
    rw [hd] at hv
    cases hv with
    | text hs =>
      rw [hc]
      exact (reads_quoted hs).map (set record)

theorem fields_shape : List.Forall₂ Slot.IsField Slot.all shape.fields :=
  .cons (Slot.isField_flag (fun _ => rfl) fun _ _ => rfl) <|
  .cons (Slot.isField_flag (fun _ => rfl) fun _ _ => rfl) <|
  .cons (Slot.isField_flag (fun _ => rfl) fun _ _ => rfl) <|
  .cons (Slot.isField_text (fun _ => rfl) fun _ _ => rfl) <|
  .cons (Slot.isField_text (fun _ => rfl) fun _ _ => rfl) .nil

theorem exists_isField (slot : Slot) : ∃ f, shape.field? f.name = some f ∧ slot.IsField f := by
  have hn : (shape.fields.map Json.Field.name).Nodup := by decide
  obtain ⟨n, hn', he⟩ := List.mem_iff_getElem.mp slot.mem_all
  have hl : n < shape.fields.length := hn'
  refine ⟨shape.fields[n], Shape.field?_of_mem hn (List.getElem_mem hl), ?_⟩
  rw [← he]
  exact fields_shape.get hn' hl

theorem exists_slot {f : Json.Field Config} (hf : f ∈ shape.fields) :
    ∃ slot : Slot, slot.IsField f := by
  obtain ⟨n, hn, rfl⟩ := List.mem_iff_getElem.mp hf
  have hl : n < Slot.all.length := hn
  exact ⟨Slot.all[n], fields_shape.get hl hn⟩

theorem field?_of_other {name : String} (h : ∀ slot : Slot, name ≠ slot.name) :
    shape.field? name = none := by
  refine List.find?_eq_none.mpr fun f hf => ?_
  obtain ⟨slot, hslot⟩ := exists_slot hf
  simpa [hslot.name] using (h slot).symm

/-- Members of a configuration as clauses of its shape. Reading them copies its fields one by one. -/
theorem Members.clauses {c : Config} {slots : List Slot} {ms : List (List Char)}
    (h : Members c slots ms) :
    ∃ cs : List (Clause Config), cs.map (·.text) = ms ∧ (∀ k ∈ cs, k.Holds shape) ∧
      cs.flatMap (·.field?.toList) = slots.map Slot.name ∧
      ∀ d, cs.foldl (fun record k => k.put record) d =
        slots.foldl (fun record slot => slot.copy c record) d := by
  induction h with
  | nil => exact ⟨[], rfl, by simp, rfl, fun _ => rfl⟩
  | @field slot slots m ms hm _ ih =>
    obtain ⟨cs, htext, hc, hnames, hput⟩ := ih
    obtain ⟨key, item, hk, ⟨v, hv, a, b, ha, hb, rfl⟩, rfl⟩ := hm
    obtain ⟨f, hf, hslot⟩ := exists_isField slot
    have hread : ∀ record, Reads (f.read record) (a ++ v) (slot.copy c record) := fun record =>
      (hslot.reads c v record hv).blank (hslot.lenient record) ha
    refine ⟨⟨key ++ ':' :: (a ++ v ++ b), some f.name, (slot.copy c ·)⟩ :: cs, ?_, ?_, ?_, ?_⟩
    · simp [htext]
    · exact List.forall_mem_cons.mpr ⟨.known hf (hslot.name ▸ hk) hread hb, hc⟩
    · simp [hnames, hslot.name]
    · exact fun d => hput _
  | @other name slots m ms hne hm _ ih =>
    obtain ⟨cs, htext, hc, hnames, hput⟩ := ih
    obtain ⟨key, item, hk, ⟨v, hv, a, b, ha, hb, rfl⟩, rfl⟩ := hm
    have hskim : ∀ rest, Ends rest → skimValue (a ++ v ++ rest) = .ok rest := fun rest hr => by
      rw [List.append_assoc]
      exact skimValue_wellFormed hv ha hr
    refine ⟨⟨key ++ ':' :: (a ++ v ++ b), none, id⟩ :: cs, ?_, ?_, ?_, ?_⟩
    · simp [htext]
    · exact List.forall_mem_cons.mpr ⟨.foreign (field?_of_other hne) hk hskim hb, hc⟩
    · simpa using hnames
    · exact fun d => hput d

theorem ofText_members {c : Config} {slots : List Slot} {ms : List (List Char)}
    (h : Members c slots ms) (hn : slots.Nodup) {text : List Char} (ht : IsObject ms text) :
    ofText (String.ofList text) = .ok (c.only slots) := by
  obtain ⟨cs, rfl, hc, hnames, hput⟩ := h.clauses
  obtain ⟨a, b, z, ha, hb, hz, rfl⟩ := ht
  have hnodup : (cs.flatMap (·.field?.toList)).Nodup := by
    rw [hnames]
    exact hn.map fun _ _ => Slot.name_injective
  refine readDocument_blank (z := z) ?_ hz
  rw [readJson, Shape.read_clauses hc hnodup ha hb z, hput, ← foldl_copy]
  rfl

/-- The second time that a field is named, the object is refused, whatever follows. -/
theorem ofText_repeated {c : Config} {slots : List Slot} {ms : List (List Char)}
    (h : Members c slots ms) (hn : slots.Nodup) {slot : Slot} (hs : slot ∈ slots)
    {a b key : List Char} (ha : Blank a) (hb : Blank b) (hk : IsKey slot.name key)
    (rest : List Char) :
    ofText (String.ofList
        (a ++ '\x7b' :: (b ++ ([','].intercalate ms ++ ',' :: (key ++ rest))))) =
      .error (.mismatch (.repeatedField slot.name)) := by
  obtain ⟨cs, rfl, hc, hnames, -⟩ := h.clauses
  obtain ⟨f, hf, hslot⟩ := exists_isField slot
  have hnodup : (cs.flatMap (·.field?.toList)).Nodup := by
    rw [hnames]
    exact hn.map fun _ _ => Slot.name_injective
  have hmem : f.name ∈ cs.flatMap (·.field?.toList) := by
    rw [hnames, hslot.name]
    exact List.mem_map_of_mem hs
  refine readDocument_error ?_
  rw [← hslot.name] at hk ⊢
  exact Shape.read_repeated hc hnodup hf hmem ha hb hk rest

/-- Items with the values of the first fields. -/
theorem exists_items {c : Config} {slots : List Slot} {fs : List (Json.Field Config)}
    (hf : List.Forall₂ Slot.IsField slots fs) {ts : List (List Char)}
    (ht : List.Forall₂ (fun slot t => IsItem (slot.datum c).Spelled t) slots ts) :
    ∃ is : List (Item Config), is.map (·.text) = ts ∧
      List.Forall₂ (fun f i => i.Fills f) fs is ∧
      ∀ d, is.foldl (fun record i => i.put record) d =
        slots.foldl (fun record slot => slot.copy c record) d := by
  induction ht generalizing fs with
  | nil =>
    cases hf
    exact ⟨[], rfl, .nil, fun _ => rfl⟩
  | @cons slot t slots ts hi _ ih =>
    cases hf with
    | @cons _ f _ fs hslot hf =>
      obtain ⟨is, htext, hfill, hput⟩ := ih hf
      obtain ⟨v, hv, hp⟩ := hi
      refine ⟨⟨t, (slot.copy c ·)⟩ :: is, by simp [htext], .cons ?_ hfill, fun d => hput _⟩
      exact ⟨v, hv.wellFormed, hp, fun record => hslot.reads c v record hv⟩

theorem ofText_items {c : Config} (k : Nat) {ts : List (List Char)}
    (hi : List.Forall₂ (fun slot t => IsItem (slot.datum c).Spelled t) (Slot.all.take k) ts)
    {text : List Char} (ht : IsArray ts text) :
    ofText (String.ofList text) = .ok (c.only (Slot.all.take k)) := by
  obtain ⟨is, rfl, hfill, hput⟩ := exists_items (List.forall₂_take k fields_shape) hi
  obtain ⟨a, b, z, ha, hb, hz, rfl⟩ := ht
  refine readDocument_blank (z := z) ?_ hz
  rw [readJson, Shape.read_array rfl (List.take_append_drop k _).symm hfill ha hb z, hput,
    ← foldl_copy]
  rfl

theorem ofText_surplus {ts : List (List Char)} (hi : ∀ t ∈ ts, WellFormed .item t)
    (hl : Slot.all.length < ts.length) {text : List Char} (ht : IsArray ts text) :
    ∃ f, ofText (String.ofList text) = .error f := by
  have hexact : ∀ f ∈ shape.fields, ∀ record, Exact (f.read record) := by
    intro f hf
    obtain ⟨slot, hslot⟩ := exists_slot hf
    exact hslot.exact
  obtain ⟨a, b, z, ha, hb, -, rfl⟩ := ht
  have hne := Shape.read_surplus_ne_ok hexact (by decide) hi hl ha hb z
  cases hr : readJson (a ++ '[' :: (b ++ ([','].intercalate ts ++ ']' :: z))) with
  | error f => exact ⟨f, readDocument_error hr⟩
  | ok x => exact absurd hr (hne x)

theorem ofText_surplus_items {c : Config} {ts : List (List Char)}
    (hi : List.Forall₂ (fun slot t => IsItem (slot.datum c).Spelled t) Slot.all ts)
    {a b : List Char} (ha : Blank a) (hb : Blank b) (rest : List Char) :
    ofText (String.ofList (a ++ '[' :: (b ++ ([','].intercalate ts ++ ',' :: rest)))) =
      .error .malformed := by
  obtain ⟨is, rfl, hfill, -⟩ := exists_items fields_shape hi
  exact readDocument_error (Shape.read_surplus hfill ha hb rest)

/-- A document may name any of the fields, in any order, with any other members among them, and the
fields that it leaves out have their defaults. Naming a field twice is a fault. An array stands for
the object of as many fields as it has items, and may not have more items than there are fields. -/
theorem partial_documents_read (c : Config) :
    (∀ slots ms text, Members c slots ms → slots.Nodup → IsObject ms text →
      ofText (String.ofList text) = .ok (c.only slots)) ∧
    (∀ slots slots' ms ms' text text', slots.Perm slots' → slots.Nodup →
      Members c slots ms → Members c slots' ms' → IsObject ms text → IsObject ms' text' →
      ofText (String.ofList text) = ofText (String.ofList text')) ∧
    (∀ slots ms slot a b key rest, Members c slots ms → slots.Nodup → slot ∈ slots →
      Blank a → Blank b → IsKey slot.name key →
      ofText (String.ofList
          (a ++ '\x7b' :: (b ++ ([','].intercalate ms ++ ',' :: (key ++ rest))))) =
        .error (.mismatch (.repeatedField slot.name))) ∧
    (∀ k ≤ 5, ∀ ts text,
      List.Forall₂ (fun slot t => IsItem (slot.datum c).Spelled t) (Slot.all.take k) ts →
      IsArray ts text → ofText (String.ofList text) = .ok (c.only (Slot.all.take k)) ∧
        ∀ ms text', Members c (Slot.all.take k) ms → IsObject ms text' →
          ofText (String.ofList text') = ofText (String.ofList text)) ∧
    (∀ ts text, (∀ t ∈ ts, WellFormed .item t) → 5 < ts.length → IsArray ts text →
      ∃ f, ofText (String.ofList text) = .error f) ∧
    (∀ ts a b rest, List.Forall₂ (fun slot t => IsItem (slot.datum c).Spelled t) Slot.all ts →
      Blank a → Blank b →
      ofText (String.ofList (a ++ '[' :: (b ++ ([','].intercalate ts ++ ',' :: rest)))) =
        .error .malformed) ∧
    ∀ text : String, ofFile (.content text.toUTF8) = (ofText text).mapError .document := by
  refine ⟨fun slots ms text hm hn ht => ofText_members hm hn ht, ?_, ?_, ?_, ?_, ?_, ofFile_content⟩
  · intro slots slots' ms ms' text text' hp hn hm hm' ht ht'
    rw [ofText_members hm hn ht, ofText_members hm' (hp.nodup_iff.mp hn) ht',
      only_congr c fun slot => hp.mem_iff]
  · intro slots ms slot a b key rest hm hn hs ha hb hk
    exact ofText_repeated hm hn hs ha hb hk rest
  · intro k _ ts text hi ht
    have hread := ofText_items k hi ht
    refine ⟨hread, fun ms text' hm ht' => ?_⟩
    have hn : (Slot.all.take k).Nodup := (List.take_sublist k _).nodup (by decide)
    rw [hread, ofText_members hm hn ht']
  · intro ts text hi hl ht
    exact ofText_surplus hi hl ht
  · intro ts a b rest hi ha hb
    exact ofText_surplus_items hi ha hb rest

theorem partial_documents_read_foreign :
    let c : Config := { doubleTapType := "a/b" }
    let ms := ["\"later\":[null,\x7b\"x\":[ ]\x7d] ".toList,
      " \"d\\u006fuble_tap_sensor_type\" : \"a\\/b\"".toList]
    let text := " \x7b".toList ++ ([','].intercalate ms ++ "\x7d\n".toList)
    Members c [.doubleTapType] ms ∧ IsObject ms text ∧ ofText (String.ofList text) = .ok c := by
  intro c ms text
  have hblank : Blank [' '] := by simp [Blank]
  have hx : WellFormed .member "\"x\":[ ]".toList :=
    .member (spells_escaped "x".toList).literal (padded_refl _)
      (.item (.emptyArray hblank) (padded_refl _))
  have hnull : WellFormed .value "null".toList := .word (by decide)
  have hv : WellFormed .value "[null,\x7b\"x\":[ ]\x7d]".toList :=
    .array (.items (.item hnull (padded_refl _))
      (.lastItem (.item (.object (.lastMember hx)) (padded_refl _))))
  have hlater : IsMember "later" (WellFormed .value) "\"later\":[null,\x7b\"x\":[ ]\x7d] ".toList :=
    ⟨_, _, ⟨_, spells_escaped _, padded_refl _⟩, ⟨_, hv, [], [' '], blank_nil, hblank, rfl⟩, rfl⟩
  -- The name is spelled with an escape in place of its second letter.
  have hk : Spells ('d' :: '\\' :: 'u' :: '0' :: '0' :: '6' :: 'f' :: "uble_tap_sensor_type".toList)
      Slot.doubleTapType.name.toList := by
    have hname : Slot.doubleTapType.name.toList =
        'd' :: Char.ofNat 111 :: "uble_tap_sensor_type".toList := by decide
    have hrest := spells_escaped "uble_tap_sensor_type".toList
    have hplain : "uble_tap_sensor_type".toList.flatMap escape = "uble_tap_sensor_type".toList := by
      decide
    rw [hplain] at hrest
    rw [hname]
    exact .bare (by decide) (by decide) rfl (.unit rfl rfl rfl hrest)
  have hs : Spells ['a', '\\', '/', 'b'] "a/b".toList := by
    have hab : "a/b".toList = ['a', '/', 'b'] := by decide
    rw [hab]
    exact .bare (by decide) (by decide) rfl
      (.escape rfl (.bare (by decide) (by decide) rfl .nil))
  have htype : IsMember Slot.doubleTapType.name (Slot.doubleTapType.datum c).Spelled
      " \"d\\u006fuble_tap_sensor_type\" : \"a\\/b\"".toList :=
    ⟨_, _, ⟨_, hk, [' '], [' '], hblank, hblank, rfl⟩,
      ⟨_, .text hs, [' '], [], hblank, blank_nil, rfl⟩, rfl⟩
  have hother : ∀ slot : Slot, "later" ≠ slot.name := fun slot => by cases slot <;> decide
  have hm : Members c [.doubleTapType] ms := .other hother hlater (.field htype .nil)
  have ht : IsObject ms text := ⟨[' '], [], ['\n'], hblank, blank_nil, by simp [Blank], rfl⟩
  exact ⟨hm, ht, (partial_documents_read c).1 _ _ _ hm (by decide) ht⟩

end Config

end AmbientPulse
