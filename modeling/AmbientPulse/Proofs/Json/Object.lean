import Mathlib.Data.List.Nodup
import AmbientPulse.Json.Record
import AmbientPulse.Proofs.Json.Skimming

namespace AmbientPulse.Json

theorem intercalate_cons {α : Type} (sep x : List α) (xs : List (List α)) :
    List.intercalate sep (x :: xs) = x ++ xs.flatMap (sep ++ ·) := by
  induction xs generalizing x with
  | nil => simp [List.intercalate]
  | cons y ys ih =>
    have h : List.intercalate sep (x :: y :: ys) = x ++ sep ++ List.intercalate sep (y :: ys) := by
      simp [List.intercalate]
    rw [h, ih, List.flatMap_cons, List.append_assoc, List.append_assoc]

/-- Members and items after the first one begin with a comma. -/
theorem ends_separated {α : Type} (f : α → List Char) (xs : List α) {rest : List Char}
    (hr : Ends rest) : Ends (xs.flatMap (fun x => ',' :: f x) ++ rest) := by
  cases xs with
  | nil => exact hr
  | cons x xs => exact ends_of (by simp) _

/-- A key with a name, and white space around it. -/
def IsKey (name : String) (key : List Char) : Prop :=
  ∃ cs, Spells cs name.toList ∧ Padded (inQuotes cs) key

theorem IsKey.exists_eq {name : String} {key : List Char} (h : IsKey name key) :
    ∃ a cs b, Blank a ∧ Spells cs name.toList ∧ Blank b ∧
      ∀ rest, key ++ rest = a ++ '"' :: (cs ++ '"' :: (b ++ rest)) := by
  obtain ⟨cs, hs, a, b, ha, hb, rfl⟩ := h
  exact ⟨a, cs, b, ha, hs, hb, fun rest => by simp [inQuotes]⟩

/-- A member as it stands in a document, the field it is for, if any, and what reading it makes of
a record. -/
structure Clause (ρ : Type) where
  text : List Char
  field? : Option String
  put : ρ → ρ

/-- A clause of a shape's fields is for one of them, and its value is read, or it has another name,
and its value is passed over. -/
inductive Clause.Holds {ρ : Type} (s : Shape ρ) : Clause ρ → Prop where
  | known {f : Field ρ} {key value after : List Char} {put : ρ → ρ} : s.field? f.name = some f →
      IsKey f.name key → (∀ record, Reads (f.read record) value (put record)) → Blank after →
      Holds s ⟨key ++ ':' :: (value ++ after), some f.name, put⟩
  | foreign {name : String} {key value after : List Char} : s.field? name = none →
      IsKey name key → (∀ rest, Ends rest → skimValue (value ++ rest) = .ok rest) → Blank after →
      Holds s ⟨key ++ ':' :: (value ++ after), none, id⟩

namespace Shape

variable {ρ : Type} {s : Shape ρ}

/-- The draft after some clauses. -/
def Draft.after (d : Draft ρ) (cs : List (Clause ρ)) : Draft ρ :=
  ⟨cs.foldl (fun record c => c.put record) d.record, d.seen ++ cs.flatMap (·.field?.toList)⟩

theorem readColon_blank {b : List Char} (hb : Blank b) (cs : List Char) :
    readColon (b ++ ':' :: cs) = .ok cs := by
  rw [readColon, skipSpace_blank hb, skipSpace_cons rfl]
  rfl

/-- A member is read from after its opening quote to the white space behind it. -/
theorem readMember_clause {c : Clause ρ} (hc : c.Holds s) {d : Draft ρ}
    (hd : ∀ name ∈ c.field?, name ∉ d.seen) {rest : List Char} (hr : Ends rest) :
    ∃ before body after, Blank before ∧ Blank after ∧ c.text ++ rest = before ++ '"' :: body ∧
      rest.length ≤ body.length ∧ s.readMember d body = .ok (d.after [c], after ++ rest) := by
  cases hc with
  | @known f key value after put hf hk hv ha =>
    obtain ⟨a, cs, b, hba, hs, hbb, he⟩ := hk.exists_eq
    refine ⟨a, cs ++ '"' :: (b ++ ':' :: (value ++ (after ++ rest))), after, hba, ha, ?_, ?_, ?_⟩
    · simp [he]
    · simp; omega
    · have hseen : d.seen.contains f.name = false := by simpa using hd f.name rfl
      simp only [readMember, readText_spells hs, bind, Except.bind, hf, hseen, readColon_blank hbb,
        hv d.record _ (hr.blank ha)]
      simp [Draft.after, pure, Except.pure]
  | @foreign name key value after hf hk hv ha =>
    obtain ⟨a, cs, b, hba, hs, hbb, he⟩ := hk.exists_eq
    refine ⟨a, cs ++ '"' :: (b ++ ':' :: (value ++ (after ++ rest))), after, hba, ha, ?_, ?_, ?_⟩
    · simp [he]
    · simp; omega
    · simp only [readMember, readText_spells hs, bind, Except.bind, hf, readColon_blank hbb,
        hv _ (hr.blank ha)]
      simp [Draft.after, pure, Except.pure]

theorem readMembers_blank {b : List Char} (hb : Blank b) (fuel : Nat) (d : Draft ρ)
    (rest : List Char) : s.readMembers fuel d (b ++ rest) = s.readMembers fuel d rest := by
  cases fuel with
  | zero => rfl
  | succ fuel => rw [readMembers, readMembers, skipSpace_blank hb]

theorem readMembers_clause {c : Clause ρ} (hc : c.Holds s) {d : Draft ρ}
    (hd : ∀ name ∈ c.field?, name ∉ d.seen) (fuel : Nat) {rest : List Char} (hr : Ends rest) :
    s.readMembers (fuel + 1) d (',' :: (c.text ++ rest)) =
      s.readMembers fuel (d.after [c]) rest := by
  obtain ⟨before, body, after, hb, ha, he, -, hm⟩ := readMember_clause hc hd hr
  rw [readMembers, skipSpace_cons rfl]
  simp only [he, skipSpace_blank hb, skipSpace_cons (c := '"') rfl, hm, bind, Except.bind]
  exact readMembers_blank ha fuel _ rest

/-- The clauses after the first one are read one by one. No field is for two of them, which the
names that have been seen carry along. -/
theorem readMembers_clauses {cs : List (Clause ρ)} (hc : ∀ c ∈ cs, c.Holds s) {d : Draft ρ}
    (hn : (d.seen ++ cs.flatMap (·.field?.toList)).Nodup) (fuel : Nat) {rest : List Char}
    (hr : Ends rest) :
    s.readMembers (fuel + cs.length) d (cs.flatMap (fun c => ',' :: c.text) ++ rest) =
      s.readMembers fuel (d.after cs) rest := by
  induction cs generalizing d with
  | nil => simp [Draft.after]
  | cons c cs ih =>
    have hd : ∀ name ∈ c.field?, name ∉ d.seen := by
      intro name hname hseen
      refine List.disjoint_of_nodup_append hn hseen ?_
      simp [Option.mem_def.mp hname]
    have hn' : ((d.after [c]).seen ++ cs.flatMap (·.field?.toList)).Nodup := by
      simpa [Draft.after] using hn
    have hstep := readMembers_clause (hc c (by simp)) hd (fuel + cs.length) (ends_separated (·.text) cs hr)
    rw [List.flatMap_cons, List.cons_append, List.cons_append, List.append_assoc, List.length_cons,
      ← Nat.add_assoc, hstep, ih (fun c' h => hc c' (by simp [h])) hn']
    simp [Draft.after]

theorem length_le_clauses (cs : List (Clause ρ)) :
    cs.length ≤ (cs.flatMap fun c => ',' :: c.text).length := by
  induction cs with
  | nil => simp
  | cons c cs ih =>
    simp only [List.flatMap_cons, List.length_append, List.length_cons]
    omega

/-- After all clauses of an object that has any, reading goes on with what they leave. -/
theorem readObject_clauses {cs : List (Clause ρ)} (hc : ∀ c ∈ cs, c.Holds s)
    (hn : (cs.flatMap (·.field?.toList)).Nodup) (hne : cs ≠ []) {b rest : List Char}
    (hb : Blank b) (hr : Ends rest) :
    ∃ fuel, s.readObject (b ++ ([','].intercalate (cs.map (·.text)) ++ rest)) =
      s.readMembers (fuel + 1) ((⟨s.blank, []⟩ : Draft ρ).after cs) rest := by
  cases cs with
  | nil => exact absurd rfl hne
  | cons c cs =>
    obtain ⟨before, body, after, hbefore, hafter, he, hl, hm⟩ :=
      readMember_clause (hc c (by simp)) (d := ⟨s.blank, []⟩) (by simp) (ends_separated (·.text) cs hr)
    have htext : b ++ ([','].intercalate ((c :: cs).map (·.text)) ++ rest) =
        b ++ (before ++ '"' :: body) := by
      rw [← he, List.map_cons, intercalate_cons, List.flatMap_map, List.append_assoc]
      rfl
    have hlen : cs.length ≤ body.length := by
      have := length_le_clauses cs
      rw [List.length_append] at hl
      omega
    have hn' : ((Draft.after (⟨s.blank, []⟩ : Draft ρ) [c]).seen ++
        cs.flatMap (·.field?.toList)).Nodup := by
      simpa [Draft.after] using hn
    refine ⟨body.length - cs.length, ?_⟩
    have hfuel : body.length + 1 = body.length - cs.length + 1 + cs.length := by omega
    rw [htext, readObject, skipSpace_blank hb, skipSpace_blank hbefore, skipSpace_cons rfl]
    simp only [hm, bind, Except.bind]
    rw [readMembers_blank hafter, hfuel,
      readMembers_clauses (fun c' h => hc c' (by simp [h])) hn' _ hr]
    simp [Draft.after]

/-- An object of clauses is read into a record, which is then finished. -/
theorem read_clauses {cs : List (Clause ρ)} (hc : ∀ c ∈ cs, c.Holds s)
    (hn : (cs.flatMap (·.field?.toList)).Nodup) {a b : List Char} (ha : Blank a) (hb : Blank b)
    (rest : List Char) :
    s.read (a ++ '\x7b' :: (b ++ ([','].intercalate (cs.map (·.text)) ++ '\x7d' :: rest))) =
      (s.finish (cs.flatMap (·.field?.toList))
        (cs.foldl (fun record c => c.put record) s.blank)).map fun record => (record, rest) := by
  rw [read, skipSpace_blank ha, skipSpace_cons rfl]
  by_cases hne : cs = []
  · subst hne
    simp [List.intercalate, readObject, skipSpace_blank hb, skipSpace_cons (c := '\x7d') rfl]
  · obtain ⟨fuel, h⟩ := readObject_clauses hc hn hne hb (ends_of (c := '\x7d') (by simp) rest)
    simp only [h, readMembers, skipSpace_cons (c := '\x7d') rfl]
    rfl

/-- A field that a clause has been for already is refused at its key, whatever follows. -/
theorem read_repeated {cs : List (Clause ρ)} (hc : ∀ c ∈ cs, c.Holds s)
    (hn : (cs.flatMap (·.field?.toList)).Nodup) {f : Field ρ} (hf : s.field? f.name = some f)
    (hs : f.name ∈ cs.flatMap (·.field?.toList)) {a b key : List Char} (ha : Blank a)
    (hb : Blank b) (hk : IsKey f.name key) (rest : List Char) :
    s.read (a ++ '\x7b' :: (b ++ ([','].intercalate (cs.map (·.text)) ++ ',' :: (key ++ rest)))) =
      .error (.mismatch (.repeatedField f.name)) := by
  have hne : cs ≠ [] := by
    rintro rfl
    simp at hs
  obtain ⟨before, k, after, hbefore, hspell, -, he⟩ := hk.exists_eq
  obtain ⟨fuel, h⟩ := readObject_clauses hc hn hne hb (ends_of (c := ',') (by simp) (key ++ rest))
  have hseen : ((⟨s.blank, []⟩ : Draft ρ).after cs).seen.contains f.name = true := by
    simpa [Draft.after] using hs
  have hm : s.readMember ((⟨s.blank, []⟩ : Draft ρ).after cs) (k ++ '"' :: (after ++ rest)) =
      .error (.mismatch (.repeatedField f.name)) := by
    simp only [readMember, readText_spells hspell, bind, Except.bind, hf, hseen, if_true, mismatch]
  rw [read, skipSpace_blank ha, skipSpace_cons rfl]
  simp only [h]
  rw [readMembers, skipSpace_cons rfl]
  simp only [he, skipSpace_blank hbefore, skipSpace_cons (c := '"') rfl, hm, bind, Except.bind]

theorem finish_complete {seen : List String} (h : ∀ f ∈ s.fields, f.name ∈ seen) (record : ρ) :
    s.finish seen record = .ok record := by
  have hm : s.missing? seen = none := by
    unfold missing?
    split
    · simpa using h
    · rfl
  rw [finish, hm]

theorem field?_of_mem (hn : (s.fields.map Field.name).Nodup) {f : Field ρ} (hf : f ∈ s.fields) :
    s.field? f.name = some f := by
  obtain ⟨before, after, he⟩ := List.append_of_mem hf
  rw [he, List.map_append, List.nodup_append] at hn
  refine List.find?_eq_some_iff_append.mpr ⟨by simp, before, after, he, fun g hg => ?_⟩
  have hne : g.name ≠ f.name := hn.2.2 _ (List.mem_map_of_mem hg) _ (by simp)
  simpa using hne

end Shape

/-- A member as it is written, and what reading it makes of a record. -/
structure Entry (ρ : Type) where
  field : Field ρ
  text : List Char
  put : ρ → ρ

namespace Entry

variable {ρ : Type}

def of {α : Type} (name : String) (r : Reader α) (set : ρ → α → ρ) (text : List Char) (v : α) :
    Entry ρ :=
  ⟨.of name r set, text, (set · v)⟩

def name (e : Entry ρ) : String :=
  e.field.name

def member (e : Entry ρ) : String × List Char :=
  (e.name, e.text)

def Faithful (e : Entry ρ) : Prop :=
  ∀ record, Reads (e.field.read record) e.text (e.put record)

theorem faithful_of {α : Type} {name : String} {r : Reader α} {set : ρ → α → ρ}
    {text : List Char} {v : α} (h : Reads r text v) : (of name r set text v).Faithful :=
  fun record => h.map (set record)

def clause (e : Entry ρ) : Clause ρ :=
  ⟨writeMember e.member, some e.name, e.put⟩

theorem holds_clause {s : Shape ρ} {e : Entry ρ} (hf : s.field? e.name = some e.field)
    (he : e.Faithful) : e.clause.Holds s := by
  have hk : IsKey e.name (writeString e.name) := ⟨_, spells_escaped _, padded_refl _⟩
  have h := Clause.Holds.known (f := e.field) hf hk he blank_nil
  rwa [List.append_nil] at h

end Entry

/-- A record is read back if its members are its fields, each written faithfully. -/
theorem Shape.reads_object {ρ : Type} {s : Shape ρ} (es : List (Entry ρ))
    (hs : es.map Entry.field = s.fields) (hn : (s.fields.map Field.name).Nodup)
    (he : ∀ e ∈ es, e.Faithful) :
    Reads s.read (writeObject (es.map Entry.member))
      (es.foldl (fun record e => e.put record) s.blank) := by
  have hnames : (es.map Entry.clause).flatMap (·.field?.toList) = s.fields.map Field.name := by
    rw [← hs, List.flatMap_map, List.map_map, List.map_eq_flatMap]
    rfl
  have hc : ∀ c ∈ es.map Entry.clause, c.Holds s := by
    intro c hc
    obtain ⟨e, h, rfl⟩ := List.mem_map.mp hc
    exact Entry.holds_clause (field?_of_mem hn (hs ▸ List.mem_map_of_mem h)) (he e h)
  have htext : (es.map Entry.clause).map (·.text) = (es.map Entry.member).map writeMember := by
    rw [List.map_map, List.map_map]
    rfl
  intro rest _
  calc s.read (writeObject (es.map Entry.member) ++ rest)
      = s.read ('\x7b' :: ([','].intercalate ((es.map Entry.clause).map (·.text)) ++
          '\x7d' :: rest)) := by
        rw [htext, writeObject, List.cons_append, List.append_assoc, List.singleton_append]
    _ = (s.finish (s.fields.map Field.name)
          ((es.map Entry.clause).foldl (fun record c => c.put record) s.blank)).map
          fun record => (record, rest) := by
        rw [← hnames]
        exact read_clauses hc (hnames ▸ hn) blank_nil blank_nil rest
    _ = .ok (es.foldl (fun record e => e.put record) s.blank, rest) := by
        rw [finish_complete fun f hf => List.mem_map_of_mem hf, List.foldl_map]
        rfl

end AmbientPulse.Json
