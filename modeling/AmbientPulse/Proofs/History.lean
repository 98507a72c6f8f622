import Mathlib.Data.List.Basic

namespace AmbientPulse

variable {α β : Type}

/-- The last thing that `f` finds in a history. -/
def latest? (f : α → Option β) (xs : List α) : Option β :=
  (xs.filterMap f).getLast?

theorem latest?_concat (f : α → Option β) (xs : List α) (x : α) :
    latest? f (xs ++ [x]) = (f x).or (latest? f xs) := by
  rw [latest?, latest?, List.filterMap_append]
  cases h : f x <;> simp [h]

theorem latest?_concat_getD (f : α → Option β) (xs : List α) (x : α) (b : β) :
    (latest? f (xs ++ [x])).getD b = (f x).getD ((latest? f xs).getD b) := by
  rw [latest?_concat]
  cases f x <;> rfl

theorem exists_latest? (f : α → Option β) (xs : List α) :
    (∃ b, latest? f xs = some b) ↔ ∃ x ∈ xs, ∃ b, f x = some b := by
  rw [latest?, ← Option.isSome_iff_exists, List.getLast?_isSome, ne_eq,
    List.filterMap_eq_nil_iff]
  simp only [Option.eq_none_iff_forall_ne_some, not_forall, not_not, exists_prop]

end AmbientPulse
