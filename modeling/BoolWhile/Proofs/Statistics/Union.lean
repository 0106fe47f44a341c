import BoolWhile.Proofs.Report.Spelling

/-!
# Statistics of parts

The statistics of a list of tokens are the sum over its tokens, and the sum does not depend on
their order. So the statistics of tokens one behind the other are those of both parts together,
and so are those of texts with a gap between them, for no token lies across a gap
(`statistics_add_up`).
-/

namespace BoolWhile

namespace NameSet

lemma union_left_comm (s t u : NameSet) : s.union (t.union u) = t.union (s.union u) :=
  ext_mem fun x => by simp [or_left_comm]

end NameSet

namespace Statistics

/-- Statistics hold what others hold together: names once, and everything else as often as it
occurs in either of them. -/
structure Joins (u s t : Statistics) : Prop where
  names : ∀ x, x ∈ u.names ↔ x ∈ s.names ∨ x ∈ t.names
  digits : u.digits = s.digits + t.digits
  comparisons : u.comparisons = s.comparisons + t.comparisons
  loops : u.loops = s.loops + t.loops

/-- A record lists the names of statistics in their order, each of them once. -/
def IsListedIn (s : Statistics) (record : Json) : Prop :=
  ∃ names : List String, record.field? "variables" = some (.arr (names.map .str)) ∧
    names.Pairwise (· < ·) ∧ (∀ x, x ∈ names ↔ x ∈ s.names) ∧ s.nameCount = names.length ∧
    record.field? "variable_count" = some (.int names.length)

lemma joins_add (s t : Statistics) : (s.add t).Joins s t :=
  ⟨fun _ => NameSet.mem_union, rfl, rfl, rfl⟩

lemma add_left_comm (s t u : Statistics) : s.add (t.add u) = t.add (s.add u) := by
  simp only [add, NameSet.union_left_comm s.names, Int.add_left_comm s.digits,
    Int.add_left_comm s.comparisons, Int.add_left_comm s.loops]

lemma ofTokens_append (xs ys : List Token) :
    ofTokens (xs ++ ys) = (ofTokens xs).add (ofTokens ys) := by
  rw [ofTokens, List.foldl_append, foldl_add]
  rfl

/-- Tokens may be summed up in any order. -/
theorem ofTokens_perm {xs ys : List Token} (h : xs.Perm ys) : ofTokens xs = ofTokens ys := by
  induction h with
  | nil => rfl
  | cons t _ ih => rw [ofTokens_cons, ofTokens_cons, ih]
  | swap t u xs =>
    rw [ofTokens_cons, ofTokens_cons, ofTokens_cons, ofTokens_cons, add_left_comm]
  | trans _ _ ih ih' => exact ih.trans ih'

/-- The statistics of a text are those of its parts around a gap. -/
theorem ofTokens_append_gap (rule : KeywordRule) (filename front back : String) {gap : String}
    (hgap : IsGap gap) (hne : gap ≠ "") :
    ofTokens (readTokens rule filename (front ++ gap ++ back)) =
      (ofTokens (readTokens rule filename front)).add
        (ofTokens (readTokens rule filename back)) := by
  have hspelling := map_spelling_append rule filename front back hgap hne
  rw [← List.map_append] at hspelling
  rw [ofTokens_congr hspelling, ofTokens_append]

lemma isListedIn_toJson (s : Statistics) : s.IsListedIn s.toJson :=
  ⟨s.names.toList, rfl, s.names.increasing, fun _ => Iff.rfl, rfl, rfl⟩

/-- Every token adds to the statistics what it is on its own. So the statistics of a list of tokens
are those of its parts together, in whatever order the tokens are, and those of a text are those of
its parts around a gap, be they programs or not. The record lists each name once, in their order,
and the number of names. -/
theorem statistics_add_up :
    (∀ t : Token, ofTokens [t] =
      { names := if t.isSingle .identifier Text.isAnyLetter then .ofList [t.lexeme] else .empty
        digits := if t.isSingle .number Text.hasDigitValue then 1 else 0
        comparisons := if t.kind.isRelational then 1 else 0
        loops := if t.kind = .whileWord then 1 else 0 }) ∧
    (∀ xs ys, (ofTokens (xs ++ ys)).Joins (ofTokens xs) (ofTokens ys)) ∧
    (∀ xs ys, xs.Perm ys → ofTokens xs = ofTokens ys) ∧
    (∀ s : Statistics, s.IsListedIn s.toJson) ∧
    ∀ rule filename front gap back, IsGap gap → gap ≠ "" →
      (ofTokens (readTokens rule filename (front ++ gap ++ back))).Joins
        (ofTokens (readTokens rule filename front))
        (ofTokens (readTokens rule filename back)) := by
  refine ⟨?_, ?_, fun _ _ => ofTokens_perm, isListedIn_toJson, ?_⟩
  · intro t
    rw [← ofToken_eq, ofTokens_cons, ofTokens_nil, add_empty]
  · intro xs ys
    rw [ofTokens_append]
    exact joins_add _ _
  · intro rule filename front gap back hgap hne
    rw [ofTokens_append_gap rule filename front back hgap hne]
    exact joins_add _ _

/-- The parts of a loop, which are no programs, with a name in both of them. -/
theorem statistics_add_up_loop :
    let front := readTokens .anywhere unnamed "while(x<5"
    let back := readTokens .anywhere unnamed ")\x7bx\x7d"
    let whole := readTokens .anywhere unnamed "while(x<5 \n)\x7bx\x7d"
    front.Perm front.reverse ∧ ofTokens front = ofTokens front.reverse ∧
      IsGap " \n" ∧ " \n" ≠ "" ∧ (ofTokens whole).Joins (ofTokens front) (ofTokens back) := by
  intro front back whole
  have hperm : front.Perm front.reverse := front.reverse_perm.symm
  have hgap : IsGap " \n" := by decide
  have hne : " \n" ≠ "" := by decide
  have hwhole : "while(x<5" ++ " \n" ++ ")\x7bx\x7d" = "while(x<5 \n)\x7bx\x7d" := by decide
  have hjoins := statistics_add_up.2.2.2.2 .anywhere unnamed "while(x<5" " \n" ")\x7bx\x7d" hgap hne
  rw [hwhole] at hjoins
  exact ⟨hperm, statistics_add_up.2.2.1 _ _ hperm, hgap, hne, hjoins⟩

end Statistics

end BoolWhile
