import BoolWhile.Piece
import Mathlib.Tactic.Common

/-!
# The first piece of a text

What a text begins with, case by case in the order in which the cases are tried.
-/

namespace BoolWhile

namespace Piece

variable {rule : KeywordRule} {c : Char} {cs : List Char} {word : String} {kind : Kind}

/-! ### Spellings -/

lemma of_operator?_eq_some (h : operator? cs = some (word, kind)) :
    (word, kind) ∈ Spellings.operators ∧ word.toList <+: cs := by
  constructor
  · exact List.mem_of_find?_eq_some h
  · have hprefix := List.find?_some h
    exact List.isPrefixOf_iff_prefix.1 hprefix

lemma of_keyword?_eq_some (h : keyword? rule cs = some (word, kind)) :
    (word, kind) ∈ Spellings.keywords ∧ word.toList <+: cs ∧
      rule.allows (cs.drop word.length) = true := by
  have hfound := List.find?_some h
  rw [Bool.and_eq_true] at hfound
  exact ⟨List.mem_of_find?_eq_some h, List.isPrefixOf_iff_prefix.1 hfound.1, hfound.2⟩

/-- No spelling is empty or contains a blank. -/
lemma spelling_solid {entry : String × Kind}
    (h : entry ∈ Spellings.operators ∨ entry ∈ Spellings.keywords) :
    entry.1.toList ≠ [] ∧ (∀ d ∈ entry.1.toList, Text.isBlank d = false) ∧
      entry.2 ≠ .unknown := by
  have hall : ∀ entry ∈ Spellings.operators ++ Spellings.keywords,
      entry.1.toList ≠ [] ∧ entry.1.toList.all (fun d => !Text.isBlank d) = true ∧
        entry.2 ≠ .unknown := by
    decide
  obtain ⟨hne, hsolid, hkind⟩ := hall entry (List.mem_append.2 h)
  refine ⟨hne, ?_, hkind⟩
  intro d hd
  have hd := List.all_eq_true.1 hsolid d hd
  rwa [Bool.not_eq_true'] at hd

/-! ### The cases -/

/-- The piece that a text begins with. -/
inductive Begins (rule : KeywordRule) (c : Char) (cs : List Char) : Piece → Prop
  | operator {word : String} {kind : Kind} (h : operator? (c :: cs) = some (word, kind)) :
    Begins rule c cs ⟨some kind, word.toList⟩
  | keyword {word : String} {kind : Kind} (hoperator : operator? (c :: cs) = none)
    (h : keyword? rule (c :: cs) = some (word, kind)) :
    Begins rule c cs ⟨some kind, word.toList⟩
  | name (hoperator : operator? (c :: cs) = none) (hkeyword : keyword? rule (c :: cs) = none)
    (h : Text.isLetter c = true) :
    Begins rule c cs ⟨some .identifier, c :: cs.takeWhile Text.isWordChar⟩
  | number (hoperator : operator? (c :: cs) = none) (hkeyword : keyword? rule (c :: cs) = none)
    (h : Text.isDigit c = true) :
    Begins rule c cs ⟨some .number, c :: cs.takeWhile Text.isDigit⟩
  | blanks (hoperator : operator? (c :: cs) = none) (hkeyword : keyword? rule (c :: cs) = none)
    (h : Text.isBlank c = true) : Begins rule c cs ⟨none, c :: cs.takeWhile Text.isBlank⟩
  | unknown (hoperator : operator? (c :: cs) = none) (hkeyword : keyword? rule (c :: cs) = none)
    (hletter : Text.isLetter c = false) (hdigit : Text.isDigit c = false)
    (hblank : Text.isBlank c = false) : Begins rule c cs ⟨some .unknown, [c]⟩

lemma cons_take_of_prefix (h : word.toList <+: c :: cs) (hne : word.toList ≠ []) :
    c :: cs.take (word.length - 1) = word.toList := by
  have htake := List.prefix_iff_eq_take.1 h
  rw [String.length_toList] at htake
  have hpos : word.length ≠ 0 := by
    rw [← String.length_toList]
    exact fun hzero => hne (List.length_eq_zero_iff.1 hzero)
  obtain ⟨n, hn⟩ := Nat.exists_eq_succ_of_ne_zero hpos
  rw [htake, hn]
  rfl

theorem begins_first (rule : KeywordRule) (c : Char) (cs : List Char) :
    Begins rule c cs (first rule c cs) := by
  cases hoperator : operator? (c :: cs) with
  | some entry =>
    obtain ⟨hmem, hprefix⟩ := of_operator?_eq_some hoperator
    have htext := cons_take_of_prefix hprefix (spelling_solid (.inl hmem)).1
    have hfirst : first rule c cs = ⟨some entry.2, entry.1.toList⟩ := by
      simp [first, extent, hoperator, htext]
    rw [hfirst]
    exact .operator hoperator
  | none =>
    cases hkeyword : keyword? rule (c :: cs) with
    | some entry =>
      obtain ⟨hmem, hprefix, -⟩ := of_keyword?_eq_some hkeyword
      have htext := cons_take_of_prefix hprefix (spelling_solid (.inr hmem)).1
      have hfirst : first rule c cs = ⟨some entry.2, entry.1.toList⟩ := by
        simp [first, extent, hoperator, hkeyword, htext]
      rw [hfirst]
      exact .keyword hoperator hkeyword
    | none =>
      have hrun : ∀ inRun : Char → Bool, cs.take (cs.takeWhile inRun).length = cs.takeWhile inRun :=
        fun inRun => (List.prefix_iff_eq_take.1 (List.takeWhile_prefix inRun)).symm
      simp only [first, extent, hoperator, hkeyword]
      split_ifs with hletter hdigit hblank
      · simpa [hrun] using Begins.name hoperator hkeyword hletter
      · simpa [hrun] using Begins.number hoperator hkeyword hdigit
      · simpa [hrun] using Begins.blanks hoperator hkeyword hblank
      · simpa using Begins.unknown hoperator hkeyword (by simpa using hletter)
          (by simpa using hdigit) (by simpa using hblank)

/-! ### All pieces -/

/-- Pieces are runs of blanks or solid, and unknown pieces are single characters. -/
structure WellFormed (piece : Piece) : Prop where
  nonempty : piece.text ≠ []
  blank : piece.kind? = none → ∀ d ∈ piece.text, Text.isBlank d = true
  solid : piece.kind? ≠ none → ∀ d ∈ piece.text, Text.isBlank d = false
  unknown : piece.kind? = some .unknown → ∃ d, piece.text = [d]

lemma isBlank_of_isWordChar {d : Char} (h : Text.isWordChar d = true) :
    Text.isBlank d = false := by
  by_contra hblank
  simp only [Text.isBlank, Bool.not_eq_false, Bool.or_eq_true, decide_eq_true_eq] at hblank
  rcases hblank with ((((rfl | rfl) | rfl) | rfl) | rfl) | rfl <;> exact absurd h (by decide)

lemma isWordChar_of_isLetter {d : Char} (h : Text.isLetter d = true) :
    Text.isWordChar d = true := by
  simp [Text.isWordChar, h]

lemma isWordChar_of_isDigit {d : Char} (h : Text.isDigit d = true) :
    Text.isWordChar d = true := by
  simp [Text.isWordChar, h]

lemma forall_mem_run {inRun inClass : Char → Bool} (hc : inClass c = true)
    (h : ∀ d, inRun d = true → inClass d = true) :
    ∀ d ∈ c :: cs.takeWhile inRun, inClass d = true := by
  intro d hd
  rcases List.mem_cons.1 hd with rfl | hd
  · exact hc
  · exact h d (List.all_eq_true.1 List.all_takeWhile d hd)

lemma wellFormed_some {text : List Char} (hne : text ≠ [])
    (hsolid : ∀ d ∈ text, Text.isBlank d = false) (hkind : kind ≠ .unknown) :
    WellFormed ⟨some kind, text⟩ := by
  constructor
  · exact hne
  · intro hnone
    cases hnone
  · intro _
    exact hsolid
  · intro hunknown
    exact absurd (Option.some.inj hunknown) hkind

lemma wellFormed_spelling (h : (word, kind) ∈ Spellings.operators ∨
    (word, kind) ∈ Spellings.keywords) : WellFormed ⟨some kind, word.toList⟩ := by
  obtain ⟨hne, hsolid, hkind⟩ := spelling_solid h
  exact wellFormed_some hne hsolid hkind

lemma wellFormed_word {inRun : Char → Bool} (hkind : kind ≠ .unknown)
    (hc : Text.isWordChar c = true) (h : ∀ d, inRun d = true → Text.isWordChar d = true) :
    WellFormed ⟨some kind, c :: cs.takeWhile inRun⟩ := by
  apply wellFormed_some
  · exact List.cons_ne_nil _ _
  · intro d hd
    exact isBlank_of_isWordChar (forall_mem_run hc h d hd)
  · exact hkind

theorem Begins.wellFormed {piece : Piece} (h : Begins rule c cs piece) : piece.WellFormed := by
  cases h with
  | operator h => exact wellFormed_spelling (.inl (of_operator?_eq_some h).1)
  | keyword _ h => exact wellFormed_spelling (.inr (of_keyword?_eq_some h).1)
  | name _ _ h =>
    exact wellFormed_word (by decide) (isWordChar_of_isLetter h) fun _ hd => hd
  | number _ _ h =>
    exact wellFormed_word (by decide) (isWordChar_of_isDigit h) fun _ => isWordChar_of_isDigit
  | blanks _ _ h =>
    constructor
    · exact List.cons_ne_nil _ _
    · intro _
      exact forall_mem_run h fun _ hd => hd
    · intro hsome
      exact absurd rfl hsome
    · intro hunknown
      cases hunknown
  | unknown _ _ _ _ h =>
    constructor
    · exact List.cons_ne_nil _ _
    · intro hnone
      cases hnone
    · intro _ d hd
      rw [List.mem_singleton.1 hd]
      exact h
    · intro _
      exact ⟨c, rfl⟩

end Piece

/-- Every piece of a text is the first one of some part of it. -/
theorem exists_eq_first_of_mem_pieces {rule : KeywordRule} {cs : List Char} {piece : Piece}
    (h : piece ∈ pieces rule cs) : ∃ c ds, piece = Piece.first rule c ds := by
  match cs with
  | [] => simp at h
  | c :: cs =>
    have := Piece.length_rest_le rule c cs
    rw [pieces_cons] at h
    rcases List.mem_cons.1 h with rfl | h
    · exact ⟨c, cs, rfl⟩
    · exact exists_eq_first_of_mem_pieces h
termination_by cs.length

theorem wellFormed_of_mem_pieces {rule : KeywordRule} {cs : List Char} {piece : Piece}
    (h : piece ∈ pieces rule cs) : piece.WellFormed := by
  obtain ⟨c, ds, rfl⟩ := exists_eq_first_of_mem_pieces h
  exact (Piece.begins_first rule c ds).wellFormed

end BoolWhile
