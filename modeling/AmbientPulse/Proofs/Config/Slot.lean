import AmbientPulse.Config.Environment

namespace AmbientPulse.Config

/-- What a field of a configuration can hold. -/
inductive Datum where
  | flag (b : Bool)
  | text (s : String)
  deriving DecidableEq, Repr

/-- The fields of a configuration. -/
inductive Slot where
  | pulseOnSignificantMotion
  | pickUpSupported
  | ambientDisplayAvailable
  | doubleTapType
  | proximitySpec
  deriving DecidableEq, Repr

namespace Slot

def all : List Slot :=
  [pulseOnSignificantMotion, pickUpSupported, ambientDisplayAvailable, doubleTapType, proximitySpec]

theorem mem_all (slot : Slot) : slot ∈ all := by
  cases slot <;> decide

/-- The name of the field in a document. -/
def name : Slot → String
  | pulseOnSignificantMotion => "pulse_on_sig_motion"
  | pickUpSupported => "pickup_gesture_supported"
  | ambientDisplayAvailable => "ambient_display_available"
  | doubleTapType => "double_tap_sensor_type"
  | proximitySpec => "pickup_subtype_performs_prox_check"

theorem name_injective {slot slot' : Slot} (h : slot.name = slot'.name) : slot = slot' := by
  revert h
  cases slot <;> cases slot' <;> decide

def datum (c : Config) : Slot → Datum
  | pulseOnSignificantMotion => .flag c.pulseOnSignificantMotion
  | pickUpSupported => .flag c.pickUpSupported
  | ambientDisplayAvailable => .flag c.ambientDisplayAvailable
  | doubleTapType => .text c.doubleTapType
  | proximitySpec => .text c.proximitySpec

/-- The second configuration with the first one's value in one field. -/
def copy (c d : Config) : Slot → Config
  | pulseOnSignificantMotion => { d with pulseOnSignificantMotion := c.pulseOnSignificantMotion }
  | pickUpSupported => { d with pickUpSupported := c.pickUpSupported }
  | ambientDisplayAvailable => { d with ambientDisplayAvailable := c.ambientDisplayAvailable }
  | doubleTapType => { d with doubleTapType := c.doubleTapType }
  | proximitySpec => { d with proximitySpec := c.proximitySpec }

theorem datum_copy (c d : Config) (slot slot' : Slot) :
    slot'.datum (slot.copy c d) = if slot = slot' then slot'.datum c else slot'.datum d := by
  cases slot <;> cases slot' <;> rfl

end Slot

/-- A configuration is known by its fields. -/
theorem ext_datum {c d : Config} (h : ∀ slot : Slot, slot.datum c = slot.datum d) : c = d := by
  obtain ⟨a₁, a₂, a₃, a₄, a₅⟩ := c
  obtain ⟨b₁, b₂, b₃, b₄, b₅⟩ := d
  have h₁ := Datum.flag.inj (h .pulseOnSignificantMotion)
  have h₂ := Datum.flag.inj (h .pickUpSupported)
  have h₃ := Datum.flag.inj (h .ambientDisplayAvailable)
  have h₄ := Datum.text.inj (h .doubleTapType)
  have h₅ := Datum.text.inj (h .proximitySpec)
  simp only at h₁ h₂ h₃ h₄ h₅
  rw [h₁, h₂, h₃, h₄, h₅]

end AmbientPulse.Config
