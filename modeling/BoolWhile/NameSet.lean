/-!
# Sets of names

A set of names is kept as the list of its members in increasing order, without repetitions. Two
sets with the same members are therefore equal (`NameSet.ext_mem`).
-/

namespace BoolWhile

/-- Names in increasing order of their code points. -/
structure NameSet where
  toList : List String
  increasing : toList.Pairwise (· < ·)
  deriving DecidableEq

namespace NameSet

instance : Membership String NameSet := ⟨fun s x => x ∈ s.toList⟩

/-- The set without members. -/
def empty : NameSet := ⟨[], .nil⟩

@[simp] theorem not_mem_empty (x : String) : x ∉ empty := List.not_mem_nil

/-! ### Insertion -/

/-- Puts a name at its place in a list that is in increasing order. -/
def insertInto (x : String) : List String → List String
  | [] => [x]
  | y :: ys => if x < y then x :: y :: ys else if y < x then y :: insertInto x ys else y :: ys

theorem mem_insertInto {x z : String} {ys : List String} :
    z ∈ insertInto x ys ↔ z = x ∨ z ∈ ys := by
  induction ys with
  | nil => simp [insertInto]
  | cons y ys ih =>
    rw [insertInto]
    by_cases h₁ : x < y
    · simp [h₁]
    · by_cases h₂ : y < x
      · simp only [h₁, h₂, if_false, if_true, List.mem_cons, ih]
        exact or_left_comm
      · obtain rfl := String.le_antisymm (String.not_lt.1 h₂) (String.not_lt.1 h₁)
        simp

theorem pairwise_insertInto (x : String) {ys : List String} (h : ys.Pairwise (· < ·)) :
    (insertInto x ys).Pairwise (· < ·) := by
  induction ys with
  | nil => simp [insertInto]
  | cons y ys ih =>
    obtain ⟨hy, hys⟩ := List.pairwise_cons.1 h
    rw [insertInto]
    split
    · rename_i hxy
      refine List.pairwise_cons.2 ⟨fun z hz => ?_, h⟩
      rcases List.mem_cons.1 hz with rfl | hz
      · exact hxy
      · exact String.lt_trans hxy (hy z hz)
    · split
      · rename_i hyx
        refine List.pairwise_cons.2 ⟨fun z hz => ?_, ih hys⟩
        rcases mem_insertInto.1 hz with rfl | hz
        · exact hyx
        · exact hy z hz
      · exact h

/-- A set with one more name. -/
def insert (s : NameSet) (x : String) : NameSet :=
  ⟨insertInto x s.toList, pairwise_insertInto x s.increasing⟩

@[simp] theorem mem_insert {s : NameSet} {x z : String} : z ∈ s.insert x ↔ z = x ∨ z ∈ s :=
  mem_insertInto

/-! ### Sets of several names -/

/-- The set of the names in a list. -/
def ofList (names : List String) : NameSet := names.foldl insert empty

/-- The names of two sets. -/
def union (s t : NameSet) : NameSet := t.toList.foldl insert s

theorem mem_foldl_insert {s : NameSet} {names : List String} {z : String} :
    z ∈ names.foldl insert s ↔ z ∈ s ∨ z ∈ names := by
  induction names generalizing s with
  | nil => simp
  | cons x names ih => simp [ih, or_assoc, or_left_comm]

@[simp] theorem mem_ofList {names : List String} {z : String} :
    z ∈ ofList names ↔ z ∈ names := by
  simp [ofList, mem_foldl_insert]

@[simp] theorem mem_union {s t : NameSet} {z : String} : z ∈ s.union t ↔ z ∈ s ∨ z ∈ t :=
  mem_foldl_insert

/-- The number of names in a set. -/
def size (s : NameSet) : Nat := s.toList.length

/-- Sets with the same names are equal. -/
theorem ext_mem {s t : NameSet} (h : ∀ x, x ∈ s ↔ x ∈ t) : s = t := by
  have general : ∀ xs ys : List String, xs.Pairwise (· < ·) → ys.Pairwise (· < ·) →
      (∀ x, x ∈ xs ↔ x ∈ ys) → xs = ys := by
    intro xs
    induction xs with
    | nil =>
      intro ys _ _ hmem
      exact (List.eq_nil_iff_forall_not_mem.2 fun x hx => by simpa using (hmem x).2 hx).symm
    | cons x xs ih =>
      intro ys hxs hys hmem
      cases ys with
      | nil => simpa using (hmem x).1 List.mem_cons_self
      | cons y ys =>
        obtain ⟨hx, hxs'⟩ := List.pairwise_cons.1 hxs
        obtain ⟨hy, hys'⟩ := List.pairwise_cons.1 hys
        have hxy : x = y := by
          rcases List.mem_cons.1 ((hmem x).1 List.mem_cons_self) with h₁ | h₁
          · exact h₁
          · rcases List.mem_cons.1 ((hmem y).2 List.mem_cons_self) with h₂ | h₂
            · exact h₂.symm
            · exact absurd (String.lt_trans (hx y h₂) (hy x h₁)) (String.lt_irrefl x)
        subst hxy
        congr 1
        refine ih ys hxs' hys' fun z => ?_
        have := hmem z
        by_cases hz : z = x
        · subst hz
          exact ⟨fun h => absurd (hx z h) (String.lt_irrefl z),
            fun h => absurd (hy z h) (String.lt_irrefl z)⟩
        · simpa [hz] using this
  obtain ⟨xs, hxs⟩ := s
  obtain ⟨ys, hys⟩ := t
  obtain rfl := general xs ys hxs hys h
  rfl

end NameSet

end BoolWhile
