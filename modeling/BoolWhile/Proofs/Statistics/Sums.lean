import BoolWhile.Statistics
import Mathlib.Tactic.Common

/-!
# Statistics token by token

What a list of tokens adds up to, field by field: the names are those of its tokens, and each
number counts the tokens of one sort.
-/

namespace BoolWhile

/-- Whether a token is a single character of a class. -/
def Token.isSingle (kind : Kind) (inClass : Char → Bool) (t : Token) : Bool :=
  t.kind = kind && match t.lexeme.toList with
    | [c] => inClass c
    | _ => false

lemma Token.isSingle_iff {kind : Kind} {inClass : Char → Bool} {t : Token} :
    t.isSingle kind inClass = true ↔
      t.kind = kind ∧ ∃ c, t.lexeme.toList = [c] ∧ inClass c = true := by
  rw [isSingle, Bool.and_eq_true, decide_eq_true_eq]
  refine and_congr_right fun _ => ?_
  split
  · rename_i c hc
    simp [hc]
  · rename_i hne
    simp only [Bool.false_eq_true, false_iff, not_exists, not_and]
    exact fun c hc => absurd hc (hne c)

namespace NameSet

lemma empty_union (s : NameSet) : empty.union s = s := ext_mem fun x => by simp

lemma union_assoc (s t u : NameSet) : (s.union t).union u = s.union (t.union u) :=
  ext_mem fun x => by simp [or_assoc]

end NameSet

namespace Statistics

/-! ### One token -/

/-- What one token adds, field by field. -/
lemma ofToken_eq (t : Token) :
    ofToken t =
      { names := if t.isSingle .identifier Text.isAnyLetter then .ofList [t.lexeme] else .empty
        digits := if t.isSingle .number Text.hasDigitValue then 1 else 0
        comparisons := if t.kind.isRelational then 1 else 0
        loops := if t.kind = .whileWord then 1 else 0 } := by
  unfold ofToken
  split
  · rename_i c hkind htext
    cases h : Text.isAnyLetter c <;> simp [Token.isSingle, hkind, htext, h, Kind.isRelational]
  · rename_i c hkind htext
    cases h : Text.hasDigitValue c <;> simp [Token.isSingle, hkind, htext, h, Kind.isRelational]
  · rename_i hkind
    simp [Token.isSingle, hkind, Kind.isRelational]
  · rename_i hloop hname hnumber
    have hname : t.isSingle .identifier Text.isAnyLetter = false := by
      rw [← Bool.not_eq_true, Token.isSingle_iff]
      exact fun ⟨hkind, c, htext, _⟩ => hname c hkind htext
    have hnumber : t.isSingle .number Text.hasDigitValue = false := by
      rw [← Bool.not_eq_true, Token.isSingle_iff]
      exact fun ⟨hkind, c, htext, _⟩ => hnumber c hkind htext
    cases h : t.kind.isRelational <;> simp [hname, hnumber, if_neg hloop]

/-! ### Sums -/

lemma empty_add (s : Statistics) : ({} : Statistics).add s = s := by
  simp [add, NameSet.empty_union]

lemma add_assoc (s t u : Statistics) : (s.add t).add u = s.add (t.add u) := by
  simp [add, NameSet.union_assoc, Int.add_assoc]

lemma add_empty (s : Statistics) : s.add {} = s := by
  simp [add, NameSet.union, NameSet.empty]

@[simp] lemma ofTokens_nil : ofTokens [] = {} := rfl

lemma foldl_add (s : Statistics) (ts : List Token) :
    ts.foldl (fun s t => s.add (ofToken t)) s = s.add (ofTokens ts) := by
  induction ts generalizing s with
  | nil => exact (add_empty s).symm
  | cons t ts ih => rw [ofTokens, List.foldl_cons, List.foldl_cons, ih, ih, empty_add, add_assoc]

/-- The first token is added like every other one. -/
@[simp] lemma ofTokens_cons (t : Token) (ts : List Token) :
    ofTokens (t :: ts) = (ofToken t).add (ofTokens ts) := by
  rw [ofTokens, List.foldl_cons, foldl_add, empty_add]

/-- A field to which some tokens add one and the others nothing counts those tokens. -/
lemma eq_countP {field : Statistics → Int} {counts : Token → Bool} (hempty : field {} = 0)
    (hadd : ∀ s t, field (s.add t) = field s + field t)
    (htoken : ∀ t, field (ofToken t) = if counts t then 1 else 0) (ts : List Token) :
    field (ofTokens ts) = ts.countP counts := by
  induction ts with
  | nil => exact hempty
  | cons t ts ih =>
    rw [ofTokens_cons, hadd, ih, htoken, List.countP_cons]
    split_ifs <;> push_cast <;> omega

variable (ts : List Token)

lemma digits_ofTokens :
    (ofTokens ts).digits = ts.countP (Token.isSingle .number Text.hasDigitValue) :=
  eq_countP rfl (fun _ _ => rfl) (fun t => by rw [ofToken_eq]) ts

lemma comparisons_ofTokens :
    (ofTokens ts).comparisons = ts.countP fun t => t.kind.isRelational :=
  eq_countP rfl (fun _ _ => rfl) (fun t => by rw [ofToken_eq]) ts

lemma loops_ofTokens : (ofTokens ts).loops = ts.countP fun t => t.kind = .whileWord :=
  eq_countP rfl (fun _ _ => rfl) (fun t => by simp [ofToken_eq]) ts

lemma mem_names_ofTokens {x : String} :
    x ∈ (ofTokens ts).names ↔
      ∃ t ∈ ts, t.isSingle .identifier Text.isAnyLetter = true ∧ t.lexeme = x := by
  induction ts with
  | nil => simp
  | cons t ts ih =>
    rw [ofTokens_cons, add, NameSet.mem_union, ih, ofToken_eq]
    by_cases h : t.isSingle .identifier Text.isAnyLetter = true
    · simp [h, eq_comm (a := x)]
    · simp [h]

end Statistics

end BoolWhile
