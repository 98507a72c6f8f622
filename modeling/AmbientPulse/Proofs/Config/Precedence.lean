import AmbientPulse.Config.File
import AmbientPulse.Proofs.Config.Slot
import AmbientPulse.Proofs.Text

namespace AmbientPulse

namespace Environment

def words : Bool → List String
  | true => ["1", "true", "yes", "on"]
  | false => ["0", "false", "no", "off"]

/-- A text that is a word for a truth value, in letters of either case, with white space around. -/
def Says (s : String) (b : Bool) : Prop :=
  ∃ l word r, Text.Blank l ∧ Text.Blank r ∧ s.toList = l ++ word ++ r ∧
    String.ofList (Text.lowerAscii word) ∈ words b

theorem toLower_of_isBlank {c : Char} (h : Text.isBlank c = true) : c.toLower = c := by
  have hn : ¬(c.val ≥ 'A'.val ∧ c.val ≤ 'Z'.val) := by
    rintro ⟨hl, hg⟩
    have hl' : 65 ≤ c.toNat := hl
    have hg' : c.toNat ≤ 90 := hg
    simp [Text.isBlank] at h
    omega
  exact dif_neg hn

theorem unblank_words : ∀ b, ∀ w ∈ words b, (w.toList.all (!Text.isBlank ·)) = true := by
  decide

theorem unblank_of_mem_words {word : List Char} {b : Bool}
    (h : String.ofList (Text.lowerAscii word) ∈ words b) {c : Char} (hc : c ∈ word) :
    Text.isBlank c = false := by
  refine Bool.eq_false_iff.mpr fun hb => ?_
  have hm : c ∈ Text.lowerAscii word := by
    rw [← toLower_of_isBlank hb]
    exact List.mem_map_of_mem hc
  have hn := List.all_eq_true.mp (unblank_words b _ h) c (by rwa [String.toList_ofList])
  rw [hb] at hn
  cases hn

theorem truthValue?_eq (s : String) :
    truthValue? s =
      if String.ofList (Text.lowerAscii (Text.trim s.toList)) ∈ words true then some true
      else if String.ofList (Text.lowerAscii (Text.trim s.toList)) ∈ words false then some false
      else none := by
  simp [truthValue?, truthWords, falsityWords, words]

theorem says_iff {s : String} {b : Bool} :
    Says s b ↔ String.ofList (Text.lowerAscii (Text.trim s.toList)) ∈ words b := by
  constructor
  · rintro ⟨l, word, r, hl, hr, he, hw⟩
    rwa [he, Text.trim_padded hl hr, Text.trim_of_unblank fun c hc => unblank_of_mem_words hw hc]
  · intro h
    obtain ⟨l, r, hl, hr, he⟩ := Text.exists_padded s.toList
    exact ⟨l, _, r, hl, hr, he, h⟩

theorem disjoint_words : ∀ w ∈ words true, w ∉ words false := by
  decide

theorem truthValue?_eq_some_iff {s : String} {b : Bool} : truthValue? s = some b ↔ Says s b := by
  rw [says_iff, truthValue?_eq]
  split_ifs with ht hf
  · cases b with
    | true => simp [ht]
    | false => simp [disjoint_words _ ht]
  · cases b with
    | true => simp [ht]
    | false => simp [hf]
  · cases b with
    | true => simp [ht]
    | false => simp [hf]

/-- A variable has a text if its bytes are the text's encoding. -/
theorem text?_eq_some_iff {env : Environment} {name s : String} :
    env.text? name = some s ↔ env name = some s.toUTF8 := by
  simp only [text?, Option.bind_eq_some_iff, Text.fromUTF8?_eq_some_iff]
  exact ⟨fun ⟨_, h, he⟩ => he ▸ h, fun h => ⟨_, h, rfl⟩⟩

theorem flag?_eq_some_iff {env : Environment} {name : String} {b : Bool} :
    env.flag? name = some b ↔ ∃ s : String, env name = some s.toUTF8 ∧ Says s b := by
  simp only [flag?, Option.bind_eq_some_iff, text?_eq_some_iff, truthValue?_eq_some_iff]

end Environment

open Environment

namespace Config

/-- The variable that can take the place of a field. -/
def Slot.variable : Slot → String
  | pulseOnSignificantMotion => "DOZE_PULSE_ON_SIG_MOTION"
  | pickUpSupported => "DOZE_PICKUP_SUPPORTED"
  | ambientDisplayAvailable => "DOZE_AMBIENT_AVAILABLE"
  | doubleTapType => "DOZE_DOUBLE_TAP_TYPE"
  | proximitySpec => "DOZE_PICKUP_PROX_SUBTYPES"

def Slot.isFlag : Slot → Bool
  | pulseOnSignificantMotion | pickUpSupported | ambientDisplayAvailable => true
  | doubleTapType | proximitySpec => false

/-- What a text stands for as the value of a field. -/
inductive Slot.Takes (slot : Slot) (s : String) : Datum → Prop where
  | flag {b : Bool} : slot.isFlag = true → Says s b → Takes slot s (.flag b)
  | text : slot.isFlag = false → Takes slot s (.text s)

/-- The environment has a value for a field. -/
def Overrides (env : Environment) (slot : Slot) (d : Datum) : Prop :=
  ∃ s : String, env slot.variable = some s.toUTF8 ∧ slot.Takes s d

def Slot.override? (env : Environment) (slot : Slot) : Option Datum :=
  if slot.isFlag then (env.flag? slot.variable).map .flag else (env.text? slot.variable).map .text

theorem override?_eq_some_iff {env : Environment} {slot : Slot} {d : Datum} :
    slot.override? env = some d ↔ Overrides env slot d := by
  unfold Slot.override? Overrides
  by_cases hf : slot.isFlag = true
  · simp only [if_pos hf, Option.map_eq_some_iff, flag?_eq_some_iff]
    constructor
    · rintro ⟨b, ⟨s, hs, hb⟩, rfl⟩
      exact ⟨s, hs, .flag hf hb⟩
    · rintro ⟨s, hs, ⟨_, hb⟩ | hn⟩
      · exact ⟨_, ⟨s, hs, hb⟩, rfl⟩
      · rw [hf] at hn
        cases hn
  · simp only [if_neg hf, Option.map_eq_some_iff, text?_eq_some_iff]
    constructor
    · rintro ⟨s, hs, rfl⟩
      exact ⟨s, hs, .text (Bool.eq_false_iff.mpr hf)⟩
    · rintro ⟨s, hs, ⟨ht, _⟩ | _⟩
      · exact absurd ht hf
      · exact ⟨s, hs, rfl⟩

theorem datum_override (env : Environment) (c : Config) (slot : Slot) :
    slot.datum (override env c) = (slot.override? env).getD (slot.datum c) := by
  cases slot <;>
    simp [Slot.datum, override, Slot.override?, Slot.isFlag, Slot.variable, Option.getD_map]

/-- Field by field, what the environment has comes first. -/
def Layers (env : Environment) (base c : Config) : Prop :=
  ∀ slot : Slot, (∀ d, Overrides env slot d → slot.datum c = d) ∧
    ((∀ d, ¬ Overrides env slot d) → slot.datum c = slot.datum base)

theorem layers_iff {env : Environment} {base c : Config} :
    Layers env base c ↔ override env base = c := by
  constructor
  · intro h
    apply ext_datum
    intro slot
    rw [datum_override]
    cases ho : slot.override? env with
    | none =>
      refine ((h slot).2 fun d hd => ?_).symm
      rw [← override?_eq_some_iff, ho] at hd
      cases hd
    | some d => exact ((h slot).1 d (override?_eq_some_iff.mp ho)).symm
  · rintro rfl slot
    rw [datum_override]
    refine ⟨fun d hd => ?_, fun hn => ?_⟩
    · rw [override?_eq_some_iff.mpr hd, Option.getD_some]
    · rw [Option.eq_none_iff_forall_ne_some.mpr fun d hd => hn d (override?_eq_some_iff.mp hd),
        Option.getD_none]

/-- What a configuration is before the environment is heeded. -/
inductive Base : FileState → Config → Prop where
  | default : Base .absent {}
  | file {file : FileState} {c : Config} : file ≠ .absent → ofFile file = .ok c → Base file c

theorem Base.unique {file : FileState} {c c' : Config} (h : Base file c) (h' : Base file c') :
    c = c' := by
  cases h with
  | default =>
    cases h' with
    | default => rfl
    | file hn => exact absurd rfl hn
  | file hn hc =>
    cases h' with
    | default => exact absurd rfl hn
    | file _ hc' =>
      rw [hc] at hc'
      cases hc'
      rfl

theorem load_of_present {file : FileState} (h : file ≠ .absent) (env : Environment) :
    load file env = (ofFile file).map (override env) := by
  cases file with
  | absent => exact absurd rfl h
  | directory | content => rfl

theorem load_eq_error_iff {file : FileState} {env : Environment} {e : LoadError} :
    load file env = .error e ↔ file ≠ .absent ∧ ofFile file = .error e := by
  by_cases h : file = .absent
  · subst h
    simp [load]
  · rw [load_of_present h]
    cases ofFile file with
    | error e' => simp [h, Except.map]
    | ok c => simp [Except.map]

theorem load_eq_ok_iff {file : FileState} {env : Environment} {c : Config} :
    load file env = .ok c ↔ ∃ base, Base file base ∧ override env base = c := by
  by_cases h : file = .absent
  · subst h
    constructor
    · rintro ⟨⟩
      exact ⟨{}, .default, rfl⟩
    · rintro ⟨base, _ | ⟨hn, _⟩, rfl⟩
      · rfl
      · exact absurd rfl hn
  · rw [load_of_present h]
    cases hf : ofFile file with
    | error e =>
      simp only [Except.map, reduceCtorEq, false_iff]
      rintro ⟨base, _ | ⟨-, hb⟩, -⟩
      · exact h rfl
      · rw [hf] at hb
        cases hb
    | ok b =>
      simp only [Except.map, Except.ok.injEq]
      constructor
      · intro hc
        exact ⟨b, .file h hf, hc⟩
      · rintro ⟨base, _ | ⟨-, hb⟩, hc⟩
        · exact absurd rfl h
        · rw [hf] at hb
          cases hb
          exact hc

theorem override_of_unset {env : Environment} (h : ∀ slot : Slot, env slot.variable = none)
    (c : Config) : override env c = c := by
  refine layers_iff.mp fun slot => ⟨?_, fun _ => rfl⟩
  rintro d ⟨s, hs, -⟩
  rw [h slot] at hs
  cases hs

theorem override_override (env : Environment) (c : Config) :
    override env (override env c) = override env c := by
  apply ext_datum
  intro slot
  rw [datum_override, datum_override]
  cases slot.override? env <;> rfl

/-- A field heeds its own variable only. -/
theorem override?_congr {env env' : Environment} {slot : Slot}
    (h : env slot.variable = env' slot.variable) : slot.override? env = slot.override? env' := by
  rw [Slot.override?, Slot.override?, flag?, flag?, text?, text?, h]

/-- A file that is there must be read, whatever the environment holds. Then the environment's values
come first, field by field, the file's next, and the defaults where there is no file. -/
theorem load_precedence (file : FileState) (env : Environment) :
    (∀ e, load file env = .error e ↔ file ≠ .absent ∧ ofFile file = .error e) ∧
    (∀ c, load file env = .ok c ↔ ∃ base, Base file base ∧ Layers env base c) ∧
    (∀ (env' : Environment) (slot : Slot) (c c' : Config),
      env slot.variable = env' slot.variable →
      load file env = .ok c → load file env' = .ok c' → slot.datum c = slot.datum c') ∧
    load .absent env = .ok (ofEnvironment env) ∧
    (file ≠ .absent → (∀ slot : Slot, env slot.variable = none) →
      load file env = ofFile file) ∧
    ∀ c, override env (override env c) = override env c := by
  refine ⟨fun e => load_eq_error_iff, fun c => ?_, ?_, rfl, ?_, override_override env⟩
  · simp only [load_eq_ok_iff, layers_iff]
  · intro env' slot c c' he hc hc'
    obtain ⟨base, hb, rfl⟩ := load_eq_ok_iff.mp hc
    obtain ⟨base', hb', rfl⟩ := load_eq_ok_iff.mp hc'
    rw [datum_override, datum_override, override?_congr he, hb.unique hb']
  · intro hf hn
    have ho : override env = id := funext (override_of_unset hn)
    rw [load_of_present hf, ho]
    cases ofFile file <;> rfl

theorem load_precedence_empty_text :
    let file := FileState.content
      "\x7b\"pickup_gesture_supported\":false,\"double_tap_sensor_type\":\"a\"\x7d".toUTF8
    let env := Environment.ofList [("DOZE_PICKUP_SUPPORTED", " YES\n".toUTF8),
      ("DOZE_PULSE_ON_SIG_MOTION", "maybe".toUTF8), ("DOZE_DOUBLE_TAP_TYPE", "".toUTF8)]
    let base : Config := { pickUpSupported := false, doubleTapType := "a" }
    Base file base ∧ Layers env base { pickUpSupported := true, doubleTapType := "" } ∧
      load file env = .ok { pickUpSupported := true, doubleTapType := "" } := by
  intro file env base
  have hf : ofFile file = .ok base := by decide +kernel
  have hb : Base file base := .file (by simp [file]) hf
  have hl : Layers env base { pickUpSupported := true, doubleTapType := "" } :=
    layers_iff.mpr (by decide +kernel)
  exact ⟨hb, hl, ((load_precedence file env).2.1 _).mpr ⟨base, hb, hl⟩⟩

end Config

end AmbientPulse
