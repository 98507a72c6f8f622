import Mathlib.Data.List.DropRight
import AmbientPulse.Text.Blank

namespace AmbientPulse

namespace Text

def Blank (cs : List Char) : Prop :=
  ∀ c ∈ cs, isBlank c = true

instance (cs : List Char) : Decidable (Blank cs) :=
  decidable_of_iff (cs.all isBlank = true) List.all_eq_true

theorem trim_eq (cs : List Char) : trim cs = (cs.dropWhile isBlank).rdropWhile isBlank :=
  rfl

theorem trim_eq_nil_iff {cs : List Char} : trim cs = [] ↔ Blank cs := by
  rw [trim_eq, List.rdropWhile_eq_nil_iff, ← List.dropWhile_eq_nil_iff, List.dropWhile_idempotent,
    List.dropWhile_eq_nil_iff, Blank]

theorem rdropWhile_padded {r : List Char} (hr : Blank r) (cs : List Char) :
    (cs ++ r).rdropWhile isBlank = cs.rdropWhile isBlank := by
  rw [List.rdropWhile, List.rdropWhile, List.reverse_append,
    List.dropWhile_append_of_pos fun c hc => hr c (List.mem_reverse.mp hc)]

/-- White space around a text does not count. -/
theorem trim_padded {l r : List Char} (hl : Blank l) (hr : Blank r) (cs : List Char) :
    trim (l ++ cs ++ r) = trim cs := by
  rw [trim_eq, trim_eq, List.append_assoc, List.dropWhile_append_of_pos hl,
    List.dropWhile_append]
  split
  · next he => rw [List.isEmpty_iff.mp he, List.dropWhile_eq_nil_iff.mpr hr]
  · exact rdropWhile_padded hr _

theorem trim_of_unblank {cs : List Char} (h : ∀ c ∈ cs, isBlank c = false) : trim cs = cs := by
  have hd : cs.dropWhile isBlank = cs :=
    List.dropWhile_eq_self_iff.mpr fun hl => by simp [h _ (List.getElem_mem hl)]
  rw [trim_eq, hd, List.rdropWhile_eq_self_iff]
  intro hn
  simp [h _ (List.getLast_mem hn)]

/-- What is trimmed off a text is white space. -/
theorem exists_padded (cs : List Char) : ∃ l r, Blank l ∧ Blank r ∧ cs = l ++ trim cs ++ r := by
  refine ⟨cs.takeWhile isBlank, (cs.dropWhile isBlank).rtakeWhile isBlank, ?_, ?_, ?_⟩
  · exact fun c hc => List.mem_takeWhile_imp hc
  · exact fun c hc => List.mem_rtakeWhile_imp hc
  · rw [trim_eq, List.append_assoc, List.rdropWhile_append_rtakeWhile,
      List.takeWhile_append_dropWhile]

/-- Bytes hold a text if they are its encoding. -/
theorem fromUTF8?_eq_some_iff {bytes : ByteArray} {s : String} :
    String.fromUTF8? bytes = some s ↔ bytes = s.toUTF8 := by
  rw [String.toUTF8_eq_toByteArray, String.fromUTF8?]
  constructor
  · intro h
    split at h
    · cases h
      rfl
    · cases h
  · rintro rfl
    rw [dif_pos s.isValidUTF8]
    rfl

theorem pieces_eq_splitOn (sep : Char) (cs : List Char) : pieces sep cs = cs.splitOn sep := by
  induction cs with
  | nil => rfl
  | cons c cs ih =>
    simp only [pieces, ih, List.splitOn, List.splitOnP_cons_eq_if_modifyHead, beq_iff_eq]

end Text

end AmbientPulse
