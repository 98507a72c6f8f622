import AmbientPulse.Config.File
import AmbientPulse.Proofs.Json.Object
import AmbientPulse.Proofs.Text

namespace AmbientPulse

namespace Json

/-- What is written of a value is read as that value, and what is read, in whichever spelling, is a
valid value that survives being written and read again, with the same text the second time. -/
structure RoundTrips {α : Type} (r : Reader α) (w : α → List Char) (valid : α → Prop) : Prop where
  written : ∀ v, valid v → readDocument r (String.ofList (w v)) = .ok v
  rewritten : ∀ t v, readDocument r t = .ok v →
    valid v ∧ readDocument r (String.ofList (w v)) = .ok v ∧
      (readDocument r (String.ofList (w v))).map w = .ok (w v)

theorem readDocument_of_reads {α : Type} {r : Reader α} {text : List Char} {v : α}
    (h : Reads r text v) : readDocument r (String.ofList text) = .ok v := by
  have ht : r text = .ok (v, []) := by simpa using h [] (by simp [Ends])
  rw [readDocument, String.toList_ofList, ht]
  rfl

theorem read_of_readDocument {α : Type} {r : Reader α} {t : String} {v : α}
    (h : readDocument r t = .ok v) : ∃ rest, r t.toList = .ok (v, rest) := by
  obtain ⟨x, hx, h⟩ := bind_eq_ok.mp h
  refine ⟨x.2, hx.trans ?_⟩
  split at h <;> cases h
  rfl

theorem RoundTrips.of_reads {α : Type} {r : Reader α} {w : α → List Char} {valid : α → Prop}
    (hw : ∀ v, valid v → Reads r (w v) v) (hr : ∀ cs v rest, r cs = .ok (v, rest) → valid v) :
    RoundTrips r w valid where
  written v hv := readDocument_of_reads (hw v hv)
  rewritten t v ht := by
    obtain ⟨rest, h⟩ := read_of_readDocument ht
    have hv : valid v := hr _ _ _ h
    have hd := readDocument_of_reads (hw v hv)
    exact ⟨hv, hd, by rw [hd]; rfl⟩

theorem RoundTrips.of_reads_all {α : Type} {r : Reader α} {w : α → List Char}
    (hw : ∀ v, Reads r (w v) v) : RoundTrips r w fun _ => True :=
  .of_reads (fun v _ => hw v) fun _ _ _ _ => trivial

theorem accept_within {range : Range} {x : Numeral} {n : Int} (h : range.accept x = .ok n) :
    range.least ≤ n ∧ n ≤ range.greatest := by
  cases x with
  | float x => cases h
  | integer k =>
    rw [Range.accept] at h
    split at h
    · next hk =>
      cases h
      exact hk
    · cases h

theorem readInteger_within {range : Range} {cs rest : List Char} {n : Int}
    (h : readInteger range cs = .ok (n, rest)) : range.least ≤ n ∧ n ≤ range.greatest := by
  unfold readInteger at h
  split at h
  · cases h
  · split at h
    · obtain ⟨x, -, h⟩ := bind_eq_ok.mp h
      obtain ⟨k, ha, h⟩ := map_eq_ok.mp h
      cases h
      exact accept_within ha
    · exact absurd h (wrongKind_ne_ok _ _ _)

end Json

open Json

theorem Category.reads (c : Category) : Reads readJson c.writeJson c :=
  reads_named naming (by cases c <;> rfl)

theorem Reason.reads (r : Reason) : Reads readJson r.writeJson r :=
  reads_named naming (by cases r <;> rfl)

theorem Listener.reads {l : Nat} (hl : l < 18446744073709551616) :
    Reads readJson (writeJson l) l :=
  (reads_integer .size (by omega) (by omega) (by simp only [Range.size]; omega)).map Int.toNat

theorem Listener.readJson_within (cs : List Char) (l : Nat) (rest : List Char)
    (h : readJson cs = .ok (l, rest)) : l < 18446744073709551616 := by
  obtain ⟨x, hx, h⟩ := map_eq_ok.mp h
  have hn := readInteger_within hx
  cases h
  simp only [Range.size] at hn
  omega

theorem User.reads (u : User) : Reads readJson u.writeJson u := by
  have hu : u.toNat < 4294967296 := u.toNat_lt
  have h : Reads readJson u.writeJson (UInt32.ofNat (u.toNat : Int).toNat) :=
    (reads_integer .uint32 (n := u.toNat) (by omega) (by omega)
      (by simp only [Range.uint32]; omega)).map fun n => UInt32.ofNat n.toNat
  rwa [Int.toNat_natCast, UInt32.ofNat_toNat] at h

namespace Sensor

def entries (s : Sensor) : List (Entry Sensor) := [
  .of "handle" (readInteger .int32) (fun s n => { s with handle := Int32.ofInt n })
    (writeInteger s.handle.toInt) s.handle.toInt,
  .of "name" readString (fun s name => { s with name }) (writeString s.name) s.name,
  .of "category" Category.readJson (fun s category => { s with category }) s.category.writeJson
    s.category,
  .of "string_type" readString (fun s typeId => { s with typeId }) (writeString s.typeId) s.typeId]

theorem faithful_entries (s : Sensor) : ∀ e ∈ s.entries, e.Faithful := by
  have hl : -2147483648 ≤ s.handle.toInt := s.handle.le_toInt
  have hg : s.handle.toInt < 2147483648 := s.handle.toInt_lt
  have hr : Reads (readInteger .int32) (writeInteger s.handle.toInt) s.handle.toInt :=
    reads_integer .int32 (by omega) (by omega) (by simp only [Range.int32]; omega)
  simp only [entries, List.forall_mem_cons]
  exact ⟨Entry.faithful_of hr, Entry.faithful_of (reads_string _),
    Entry.faithful_of (Category.reads _), Entry.faithful_of (reads_string _), by simp⟩

theorem reads (s : Sensor) : Reads readJson s.writeJson s := by
  have h := Shape.reads_object (s := shape) s.entries rfl (by decide) s.faithful_entries
  have hs : s.entries.foldl (fun record e => e.put record) shape.blank =
      { s with handle := Int32.ofInt s.handle.toInt } := rfl
  rw [hs, Int32.ofInt_toInt] at h
  exact h

end Sensor

namespace Config

def entries (c : Config) : List (Entry Config) := [
  .of "pulse_on_sig_motion" readBool (fun c b => { c with pulseOnSignificantMotion := b })
    (writeBool c.pulseOnSignificantMotion) c.pulseOnSignificantMotion,
  .of "pickup_gesture_supported" readBool (fun c b => { c with pickUpSupported := b })
    (writeBool c.pickUpSupported) c.pickUpSupported,
  .of "ambient_display_available" readBool (fun c b => { c with ambientDisplayAvailable := b })
    (writeBool c.ambientDisplayAvailable) c.ambientDisplayAvailable,
  .of "double_tap_sensor_type" readString (fun c s => { c with doubleTapType := s })
    (writeString c.doubleTapType) c.doubleTapType,
  .of "pickup_subtype_performs_prox_check" readString (fun c s => { c with proximitySpec := s })
    (writeString c.proximitySpec) c.proximitySpec]

theorem faithful_entries (c : Config) : ∀ e ∈ c.entries, e.Faithful := by
  simp only [entries, List.forall_mem_cons]
  exact ⟨Entry.faithful_of (reads_bool _), Entry.faithful_of (reads_bool _),
    Entry.faithful_of (reads_bool _), Entry.faithful_of (reads_string _),
    Entry.faithful_of (reads_string _), by simp⟩

theorem reads (c : Config) : Reads readJson c.writeJson c :=
  Shape.reads_object (s := shape) c.entries rfl (by decide) c.faithful_entries

theorem ofFile_content (t : String) :
    ofFile (.content t.toUTF8) = (ofText t).mapError .document := by
  rw [ofFile, Text.fromUTF8?_eq_some_iff.mpr rfl]

theorem ofFile_text {t : String} {c : Config} (h : readDocument readJson t = .ok c) :
    ofFile (.content t.toUTF8) = .ok c := by
  rw [ofFile_content, ofText, h]
  rfl

end Config

/-- Every value that is stored in documents is read back from what is written of it, whatever stands
in its strings, and every document that is read can be replaced by what is written of its value. -/
theorem stored_values_round_trip :
    RoundTrips Config.readJson Config.writeJson (fun _ => True) ∧
    RoundTrips Sensor.readJson Sensor.writeJson (fun _ => True) ∧
    RoundTrips Category.readJson Category.writeJson (fun _ => True) ∧
    RoundTrips Reason.readJson Reason.writeJson (fun _ => True) ∧
    RoundTrips Listener.readJson Listener.writeJson (· < 18446744073709551616) ∧
    RoundTrips User.readJson User.writeJson (fun _ => True) ∧
    ∀ c : Config, Config.ofFile (.content (String.ofList c.writeJson).toUTF8) = .ok c :=
  ⟨.of_reads_all Config.reads, .of_reads_all Sensor.reads, .of_reads_all Category.reads,
    .of_reads_all Reason.reads, .of_reads (fun _ => Listener.reads) Listener.readJson_within,
    .of_reads_all User.reads, fun c => Config.ofFile_text (readDocument_of_reads c.reads)⟩

theorem stored_values_round_trip_respelled :
    let t := "[-2147483648, \"\\ud83d\\ude00\\\"\", \x7b\"vendor\": null\x7d, \"\\u0007\"]"
    let s : Sensor := ⟨-2147483648, "😀\"", .vendor, "\x07"⟩
    readDocument Sensor.readJson t = .ok s ∧
      readDocument Sensor.readJson (String.ofList s.writeJson) = .ok s ∧
      readDocument Listener.readJson (String.ofList (Listener.writeJson 18446744073709551615)) =
        .ok 18446744073709551615 := by
  intro t s
  obtain ⟨-, hs, -, -, hl, -⟩ := stored_values_round_trip
  have ht : readDocument Sensor.readJson t = .ok s := by decide +kernel
  exact ⟨ht, (hs.rewritten t s ht).2.1, hl.written _ (by decide)⟩

end AmbientPulse
