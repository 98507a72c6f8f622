namespace AmbientPulse.Pattern

def maxCodePoint : Nat := 0x10FFFF

/-- A set of characters, as ranges of code points in any order. -/
structure CharSet where
  ranges : List (Nat × Nat)
  deriving DecidableEq, Repr

namespace CharSet

def contains (s : CharSet) (c : Char) : Bool :=
  s.ranges.any fun r => r.1 ≤ c.toNat && c.toNat ≤ r.2

def empty : CharSet :=
  ⟨[]⟩

def range (first last : Char) : CharSet :=
  ⟨[(first.toNat, last.toNat)]⟩

def singleton (c : Char) : CharSet :=
  range c c

def union (s t : CharSet) : CharSet :=
  ⟨s.ranges ++ t.ranges⟩

/-- What ranges in ascending order leave free from a code point on. -/
def gaps (low : Nat) : List (Nat × Nat) → List (Nat × Nat)
  | [] => if low ≤ maxCodePoint then [(low, maxCodePoint)] else []
  | r :: rs =>
    if low < r.1 then (low, r.1 - 1) :: gaps (max low (r.2 + 1)) rs
    else gaps (max low (r.2 + 1)) rs

def complement (s : CharSet) : CharSet :=
  ⟨gaps 0 (s.ranges.mergeSort fun a b => a.1 ≤ b.1)⟩

def inter (s t : CharSet) : CharSet :=
  (s.complement.union t.complement).complement

def diff (s t : CharSet) : CharSet :=
  (s.complement.union t).complement

def symmDiff (s t : CharSet) : CharSet :=
  (s.diff t).union (t.diff s)

/-- The part of some ranges between two code points, moved to begin with a third. -/
def moved (first last target : Nat) (rs : List (Nat × Nat)) : List (Nat × Nat) :=
  rs.filterMap fun r =>
    let a := max r.1 first
    let b := min r.2 last
    if a ≤ b then some (a - first + target, b - first + target) else none

/-- Add the other case of every ASCII letter. -/
def foldAscii (s : CharSet) : CharSet :=
  ⟨s.ranges ++ moved 0x41 0x5A 0x61 s.ranges ++ moved 0x61 0x7A 0x41 s.ranges⟩

/-- The ranges in ascending order, with those that touch each other joined. -/
def normalized (s : CharSet) : CharSet :=
  s.complement.complement

theorem contains_iff {s : CharSet} {c : Char} :
    s.contains c = true ↔ ∃ r ∈ s.ranges, r.1 ≤ c.toNat ∧ c.toNat ≤ r.2 := by
  simp [contains]

theorem contains_union {s t : CharSet} {c : Char} :
    (s.union t).contains c = (s.contains c || t.contains c) := by
  simp [contains, union]

/-- The ranges have to come in ascending order. -/
theorem mem_gaps {rs : List (Nat × Nat)} (h : rs.Pairwise fun a b => a.1 ≤ b.1) (low : Nat)
    {n : Nat} (hn : n ≤ maxCodePoint) :
    (∃ r ∈ gaps low rs, r.1 ≤ n ∧ n ≤ r.2) ↔ low ≤ n ∧ ∀ r ∈ rs, ¬(r.1 ≤ n ∧ n ≤ r.2) := by
  induction rs generalizing low with
  | nil =>
    by_cases hl : low ≤ maxCodePoint
    · simp [gaps, hl, hn]
    · simp [gaps, hl]
      omega
  | cons r rs ih =>
    obtain ⟨hr, hrs⟩ := List.pairwise_cons.1 h
    have hi := ih hrs (max low (r.2 + 1))
    have later (hlt : n < r.1) (q : Nat × Nat) (hq : q ∈ rs) : ¬(q.1 ≤ n ∧ n ≤ q.2) := by
      have := hr q hq
      omega
    by_cases hl : low < r.1
    · simp only [gaps, hl, if_true, List.mem_cons, exists_eq_or_imp, hi, forall_eq_or_imp]
      constructor
      · rintro (h | ⟨h1, h2⟩)
        · exact ⟨h.1, by omega, later (by omega)⟩
        · exact ⟨by omega, by omega, h2⟩
      · rintro ⟨h1, h2, h3⟩
        by_cases hlt : n < r.1
        · exact .inl ⟨h1, by omega⟩
        · exact .inr ⟨by omega, h3⟩
    · simp only [gaps, hl, if_false, hi, List.mem_cons, forall_eq_or_imp]
      constructor
      · rintro ⟨h1, h2⟩
        exact ⟨by omega, by omega, h2⟩
      · rintro ⟨h1, h2, h3⟩
        exact ⟨by omega, h3⟩

theorem contains_complement {s : CharSet} {c : Char} :
    s.complement.contains c = !s.contains c := by
  have hs : (s.ranges.mergeSort fun a b => a.1 ≤ b.1).Pairwise fun a b => a.1 ≤ b.1 := by
    simpa using @List.pairwise_mergeSort _ (fun a b : Nat × Nat => decide (a.1 ≤ b.1))
      (by simp; omega) (by simp; omega) s.ranges
  have hc : c.toNat ≤ maxCodePoint := by
    have := c.valid
    simp only [UInt32.isValidChar, Nat.isValidChar, maxCodePoint, Char.toNat] at *
    omega
  rw [Bool.eq_iff_iff, contains_iff, complement, mem_gaps hs 0 hc]
  simp [contains, List.mem_mergeSort]

theorem contains_inter {s t : CharSet} {c : Char} :
    (s.inter t).contains c = (s.contains c && t.contains c) := by
  simp [inter, contains_complement, contains_union]

theorem contains_diff {s t : CharSet} {c : Char} :
    (s.diff t).contains c = (s.contains c && !t.contains c) := by
  simp [diff, contains_complement, contains_union]

theorem contains_symmDiff {s t : CharSet} {c : Char} :
    (s.symmDiff t).contains c = (s.contains c != t.contains c) := by
  cases hs : s.contains c <;> cases ht : t.contains c <;>
    simp [symmDiff, contains_diff, contains_union, hs, ht]

theorem contains_normalized {s : CharSet} {c : Char} :
    s.normalized.contains c = s.contains c := by
  simp [normalized, contains_complement]

end CharSet

end AmbientPulse.Pattern
