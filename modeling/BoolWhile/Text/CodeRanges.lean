/-!
# Sets of characters as ranges of code points

A property of characters is kept as a table of disjoint ranges in increasing order. Looking a
character up stops at the first range that begins after it, so an ASCII character is decided by
the first entries of every table.
-/

namespace BoolWhile

namespace Text

/-- Ranges of code points, each with both of its ends. -/
abbrev CodeRanges := List (Nat × Nat)

namespace CodeRanges

/-- Whether a code point lies in one of the ranges, which are in increasing order. -/
def contains : CodeRanges → Nat → Bool
  | [], _ => false
  | (low, high) :: ranges, n =>
    if n < low then false else if n ≤ high then true else contains ranges n

/-- Each range is nonempty and ends before the next one begins. -/
def Increasing : CodeRanges → Prop
  | [] => True
  | [(low, high)] => low ≤ high
  | (low, high) :: (low', high') :: ranges =>
    low ≤ high ∧ high < low' ∧ Increasing ((low', high') :: ranges)

instance decidableIncreasing : (ranges : CodeRanges) → Decidable ranges.Increasing
  | [] => .isTrue trivial
  | [(low, high)] => inferInstanceAs (Decidable (low ≤ high))
  | (low, high) :: (low', high') :: ranges =>
    have := decidableIncreasing ((low', high') :: ranges)
    inferInstanceAs (Decidable (low ≤ high ∧ high < low' ∧ Increasing _))

@[simp] theorem contains_nil (n : Nat) : contains [] n = false := rfl

theorem contains_cons (low high n : Nat) (ranges : CodeRanges) :
    contains ((low, high) :: ranges) n =
      if n < low then false else if n ≤ high then true else contains ranges n := rfl

theorem Increasing.tail {r : Nat × Nat} {ranges : CodeRanges}
    (h : Increasing (r :: ranges)) : ranges.Increasing := by
  cases ranges with
  | nil => trivial
  | cons s ranges => exact h.2.2

/-- Every later range begins above the first. -/
theorem Increasing.lt_of_mem {r : Nat × Nat} {ranges : CodeRanges}
    (h : Increasing (r :: ranges)) : ∀ s ∈ ranges, r.2 < s.1 := by
  induction ranges generalizing r with
  | nil => simp
  | cons s ranges ih =>
    obtain ⟨_, hlt, hrest⟩ := h
    intro t ht
    rcases List.mem_cons.1 ht with rfl | ht
    · exact hlt
    · have hs : s.1 ≤ s.2 := by
        cases ranges with
        | nil => exact hrest
        | cons _ _ => exact hrest.1
      have := ih hrest t ht
      omega

/-- Stopping early loses nothing when the ranges are in increasing order. -/
theorem contains_iff {ranges : CodeRanges} (h : ranges.Increasing) (n : Nat) :
    ranges.contains n = true ↔ ∃ r ∈ ranges, r.1 ≤ n ∧ n ≤ r.2 := by
  induction ranges with
  | nil => simp
  | cons r ranges ih =>
    have hlt := h.lt_of_mem
    obtain ⟨low, high⟩ := r
    rw [contains_cons]
    by_cases h₁ : n < low
    · simp only [h₁, if_true, Bool.false_eq_true, false_iff, not_exists, not_and]
      intro r hr hle
      rcases List.mem_cons.1 hr with rfl | hr
      · omega
      · have hlow : low ≤ high := by
          cases ranges with
          | nil => exact h
          | cons _ _ => exact h.1
        have := hlt r hr
        omega
    · by_cases h₂ : n ≤ high
      · simp only [h₁, h₂, if_false, if_true, true_iff]
        exact ⟨_, List.mem_cons_self, by omega, h₂⟩
      · rw [if_neg h₁, if_neg h₂, ih h.tail]
        constructor
        · rintro ⟨r, hr, hn⟩
          exact ⟨r, List.mem_cons_of_mem _ hr, hn⟩
        · rintro ⟨r, hr, hn⟩
          rcases List.mem_cons.1 hr with rfl | hr
          · exact absurd hn.2 h₂
          · exact ⟨r, hr, hn⟩

end CodeRanges

end Text

end BoolWhile
