import BoolWhile.Token.Kind
import Mathlib.Tactic.Common

/-!
# Open brackets

What a list of tokens leaves open is said without a recognizer: it opens so many brackets more than
it closes, and at no place before its end more of them are closed than opened. Lists that leave
brackets open add up, and a closing bracket takes one away only if one is left open.
-/

namespace BoolWhile

/-- The two pairs of brackets. -/
inductive Bracket
  | paren
  | brace

namespace Bracket

def opening : Bracket → Kind
  | paren => .leftParen
  | brace => .leftBrace

def closing : Bracket → Kind
  | paren => .rightParen
  | brace => .rightBrace

/-- How many brackets more are opened than closed. -/
def surplus (b : Bracket) (ks : List Kind) : Int := ks.count b.opening - ks.count b.closing

/-- So many brackets are left open: they are the surplus in the end, and on the way there no more
are closed than opened. -/
structure Leaves (b : Bracket) (ks : List Kind) (n : Nat) : Prop where
  surplus_eq : b.surplus ks = n
  nested : ∀ p, p <+: ks → 0 ≤ b.surplus p

variable {b : Bracket} {k : Kind} {ks ls : List Kind} {m n : Nat}

@[simp] lemma surplus_append (b : Bracket) (ks ls : List Kind) :
    b.surplus (ks ++ ls) = b.surplus ks + b.surplus ls := by
  simp only [surplus, List.count_append]
  omega

lemma surplus_opening (b : Bracket) : b.surplus [b.opening] = 1 := by cases b <;> decide

lemma surplus_closing (b : Bracket) : b.surplus [b.closing] = -1 := by cases b <;> decide

lemma surplus_of_not_mem (h : ∀ k ∈ ks, k ≠ b.opening ∧ k ≠ b.closing) : b.surplus ks = 0 := by
  rw [surplus, List.count_eq_zero.2 fun hk => (h _ hk).1 rfl,
    List.count_eq_zero.2 fun hk => (h _ hk).2 rfl]
  rfl

lemma leaves_of_not_mem (h : ∀ k ∈ ks, k ≠ b.opening ∧ k ≠ b.closing) : b.Leaves ks 0 where
  surplus_eq := surplus_of_not_mem h
  nested _ hp := Int.le_of_eq (surplus_of_not_mem fun k hk => h k (hp.subset hk)).symm

namespace Leaves

/-- One more token keeps the brackets in order if it does not close more than is open. -/
lemma concat (h : b.Leaves ks m) (hk : b.surplus [k] = n - m) : b.Leaves (ks ++ [k]) n := by
  have hsurplus : b.surplus (ks ++ [k]) = n := by
    rw [surplus_append, h.surplus_eq, hk]
    omega
  refine ⟨hsurplus, fun p hp => ?_⟩
  rcases List.prefix_concat_iff.1 hp with rfl | hp
  · omega
  · exact h.nested p hp

lemma concat_opening (h : b.Leaves ks n) : b.Leaves (ks ++ [b.opening]) (n + 1) :=
  h.concat (by rw [surplus_opening]; omega)

lemma concat_closing (h : b.Leaves ks (n + 1)) : b.Leaves (ks ++ [b.closing]) n :=
  h.concat (by rw [surplus_closing]; omega)

lemma append (h : b.Leaves ks m) (h' : b.Leaves ls n) : b.Leaves (ks ++ ls) (m + n) := by
  refine ⟨?_, fun p hp => ?_⟩
  · rw [surplus_append, h.surplus_eq, h'.surplus_eq, Int.natCast_add]
  · rcases List.prefix_or_prefix_of_prefix hp (List.prefix_append ks ls) with hp | ⟨q, rfl⟩
    · exact h.nested p hp
    · have hq := h'.nested q ((List.prefix_append_right_inj ks).1 hp)
      rw [surplus_append, h.surplus_eq]
      omega

/-- A token that is none of the brackets changes nothing. -/
lemma concat_other (h : b.Leaves ks n) (hk : k ≠ b.opening ∧ k ≠ b.closing) :
    b.Leaves (ks ++ [k]) n :=
  h.append (leaves_of_not_mem fun _ hl => List.mem_singleton.1 hl ▸ hk)

end Leaves

end Bracket

end BoolWhile
