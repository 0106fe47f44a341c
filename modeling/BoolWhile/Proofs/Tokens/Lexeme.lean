import BoolWhile.Proofs.Tokens.FirstPiece

/-!
# Lexemes

What may stand as one piece of a text, class by class: the operators and delimiters, the words, the
runs of digits and the runs of blanks. A word is a keyword if the whole of it is in the table.
Nothing is said here about the order in which reading tries the classes. It does not matter which
class a lexeme is looked for in first, for its first character decides the class.
-/

namespace BoolWhile

namespace Text

/-- A text of one character of a class and any number of characters of another. -/
def IsRun (first more : Char → Bool) : List Char → Prop
  | [] => False
  | c :: cs => first c = true ∧ ∀ d ∈ cs, more d = true

instance (first more : Char → Bool) : DecidablePred (IsRun first more)
  | [] => inferInstanceAs (Decidable False)
  | c :: cs => decidable_of_iff (first c = true ∧ cs.all more = true) (by simp [IsRun])

/-- A letter, with any number of letters, digits and underscores behind it. -/
abbrev IsWord : List Char → Prop := IsRun isLetter isWordChar

/-- One digit or more. -/
abbrev IsNumber : List Char → Prop := IsRun isDigit isDigit

/-- One blank or more. -/
abbrev IsBlanks : List Char → Prop := IsRun isBlank isBlank

@[simp] lemma isRun_cons {first more : Char → Bool} {c : Char} {cs : List Char} :
    IsRun first more (c :: cs) ↔ first c = true ∧ ∀ d ∈ cs, more d = true := .rfl

lemma IsRun.ne_nil {first more : Char → Bool} {cs : List Char} (h : IsRun first more cs) :
    cs ≠ [] := by
  rintro rfl
  exact h

/-- The characters of a run, if the first is one of those that may follow. -/
lemma IsRun.forall_mem {first more : Char → Bool} {cs : List Char} (h : IsRun first more cs)
    (hfirst : ∀ d, first d = true → more d = true) : ∀ d ∈ cs, more d = true := by
  cases cs with
  | nil => exact h.elim
  | cons c cs =>
    intro d hd
    rcases List.mem_cons.1 hd with rfl | hd
    · exact hfirst d h.1
    · exact h.2 d hd

lemma IsRun.append_singleton {first more : Char → Bool} {cs : List Char} {d : Char}
    (h : IsRun first more cs) (hd : more d = true) : IsRun first more (cs ++ [d]) := by
  cases cs with
  | nil => exact h.elim
  | cons c cs =>
    refine ⟨h.1, ?_⟩
    intro e he
    rcases List.mem_append.1 he with he | he
    · exact h.2 e he
    · rwa [List.mem_singleton.1 he]

lemma isRun_takeWhile {first more : Char → Bool} {c : Char} (h : first c = true)
    (cs : List Char) : IsRun first more (c :: cs.takeWhile more) :=
  ⟨h, fun d hd => List.all_eq_true.1 List.all_takeWhile d hd⟩

/-- A run at the front of a text goes no further than the characters that may follow do. -/
lemma IsRun.prefix_takeWhile {first more : Char → Bool} {c : Char} {run cs : List Char}
    (h : IsRun first more run) (hfront : run <+: c :: cs) : run <+: c :: cs.takeWhile more := by
  cases run with
  | nil => exact h.elim
  | cons d run =>
    obtain ⟨rfl, hrun⟩ := List.cons_prefix_cons.1 hfront
    obtain ⟨rest, rfl⟩ := hrun
    rw [List.takeWhile_append_of_pos h.2]
    exact List.cons_prefix_cons.2 ⟨rfl, List.prefix_append run _⟩

/-- A text at the front of another one ends where a character of no use to it begins. -/
lemma prefix_of_forall_mem {inClass : Char → Bool} {run cs rest : List Char}
    (hfront : run <+: cs ++ rest) (hrun : ∀ d ∈ run, inClass d = true)
    (hrest : ∀ d ∈ rest.head?, inClass d = false) : run <+: cs := by
  rcases List.prefix_or_prefix_of_prefix hfront (List.prefix_append cs rest) with hle | hle
  · exact hle
  · obtain ⟨more, rfl⟩ := hle
    cases more with
    | nil => simp
    | cons d more =>
      obtain ⟨rest, rfl⟩ := (List.prefix_append_right_inj cs).1 hfront
      have hin := hrun d (by simp)
      have hout := hrest d (by simp)
      rw [hin] at hout
      cases hout

end Text

namespace Piece

/-- The lexemes of each class with the kinds of their tokens. -/
inductive IsLexeme : Piece → Prop
  | sign {word : String} {kind : Kind} (h : (word, kind) ∈ Spellings.operators) :
    IsLexeme ⟨some kind, word.toList⟩
  | keyword {word : String} {kind : Kind} (h : (word, kind) ∈ Spellings.keywords) :
    IsLexeme ⟨some kind, word.toList⟩
  | name {cs : List Char} (h : Text.IsWord cs)
    (hplain : ∀ entry ∈ Spellings.keywords, entry.1.toList ≠ cs) : IsLexeme ⟨some .identifier, cs⟩
  | number {cs : List Char} (h : Text.IsNumber cs) : IsLexeme ⟨some .number, cs⟩
  | blanks {cs : List Char} (h : Text.IsBlanks cs) : IsLexeme ⟨none, cs⟩

variable {piece other : Piece} {entry : String × Kind} {c : Char} {cs : List Char}

/-! ### Disjoint classes of characters -/

lemma isLetter_of_isDigit (h : Text.isDigit c = true) : Text.isLetter c = false := by
  by_contra hletter
  rw [Bool.not_eq_false] at hletter
  have hdigit : c.val ≤ '9'.val := (Char.isDigit_iff_toNat.1 h).2
  have hcase : (c.isUpper || c.isLower) = true := hletter
  rcases Bool.or_eq_true_iff.1 hcase with hupper | hlower
  · have hle : 'A'.val ≤ c.val := (of_decide_eq_true hupper).1
    exact absurd (UInt32.le_trans hle hdigit) (by decide)
  · have hle : 'a'.val ≤ c.val := of_decide_eq_true (Bool.and_eq_true_iff.1 hlower).1
    exact absurd (UInt32.le_trans hle hdigit) (by decide)

lemma isWordChar_of_isBlank (h : Text.isBlank c = true) : Text.isWordChar c = false := by
  by_contra hword
  rw [Bool.not_eq_false] at hword
  simp [isBlank_of_isWordChar hword] at h

lemma isLetter_eq_false (h : Text.isWordChar c = false) : Text.isLetter c = false := by
  simp only [Text.isWordChar, Bool.or_eq_false_iff] at h
  exact h.1.1

lemma isDigit_eq_false (h : Text.isWordChar c = false) : Text.isDigit c = false := by
  simp only [Text.isWordChar, Bool.or_eq_false_iff] at h
  exact h.1.2

/-! ### Spellings as lexemes -/

/-- No operator or delimiter begins with a character of another class. -/
lemma first_of_mem_operators (h : entry ∈ Spellings.operators) (htext : entry.1.toList = c :: cs) :
    Text.isWordChar c = false ∧ Text.isBlank c = false := by
  have hall : ∀ entry ∈ Spellings.operators,
      entry.1.toList.head?.all (fun c => !Text.isWordChar c && !Text.isBlank c) = true := by
    decide
  have hfirst := hall entry h
  rw [htext] at hfirst
  simpa using hfirst

lemma isWord_of_mem_keywords (h : entry ∈ Spellings.keywords) : Text.IsWord entry.1.toList := by
  have hall : ∀ entry ∈ Spellings.keywords, Text.IsWord entry.1.toList := by decide
  exact hall entry h

lemma first_of_mem_keywords (h : entry ∈ Spellings.keywords) (htext : entry.1.toList = c :: cs) :
    Text.isLetter c = true := by
  have hword := isWord_of_mem_keywords h
  rw [htext] at hword
  exact hword.1

/-- No spelling stands for two operators. -/
lemma kind_eq_of_mem_operators {entry' : String × Kind} (h : entry ∈ Spellings.operators)
    (h' : entry' ∈ Spellings.operators) (htext : entry.1.toList = entry'.1.toList) :
    entry.2 = entry'.2 := by
  have hall : ∀ entry ∈ Spellings.operators, ∀ entry' ∈ Spellings.operators,
      entry.1.toList = entry'.1.toList → entry.2 = entry'.2 := by
    decide
  exact hall entry h entry' h' htext

/-- No keyword begins another one. -/
lemma eq_of_mem_keywords {entry' : String × Kind} (h : entry ∈ Spellings.keywords)
    (h' : entry' ∈ Spellings.keywords) (hfront : entry.1.toList <+: entry'.1.toList) :
    entry = entry' := by
  have hall : ∀ entry ∈ Spellings.keywords, ∀ entry' ∈ Spellings.keywords,
      entry.1.toList.isPrefixOf entry'.1.toList = true → entry = entry' := by
    decide
  exact hall entry h entry' h' (List.isPrefixOf_iff_prefix.2 hfront)

/-- Every word is a lexeme, a keyword or not. -/
lemma exists_isLexeme_of_isWord (h : Text.IsWord cs) : ∃ kind, IsLexeme ⟨some kind, cs⟩ := by
  by_cases hplain : ∀ entry ∈ Spellings.keywords, entry.1.toList ≠ cs
  · exact ⟨_, .name h hplain⟩
  · push Not at hplain
    obtain ⟨entry, hmem, rfl⟩ := hplain
    exact ⟨_, .keyword hmem⟩

lemma IsLexeme.kind?_ne_unknown (h : piece.IsLexeme) : piece.kind? ≠ some .unknown := by
  intro hkind
  cases h with
  | sign h => exact (spelling_solid (.inl h)).2.2 (Option.some.inj hkind)
  | keyword h => exact (spelling_solid (.inr h)).2.2 (Option.some.inj hkind)
  | name _ _ => cases hkind
  | number _ => cases hkind
  | blanks _ => cases hkind

lemma IsLexeme.isBlanks (h : piece.IsLexeme) (hkind : piece.kind? = none) :
    Text.IsBlanks piece.text := by
  cases h with
  | sign _ => cases hkind
  | keyword _ => cases hkind
  | name _ _ => cases hkind
  | number _ => cases hkind
  | blanks h => exact h

/-- A lexeme with a kind is an operator, a delimiter, a word or a number. -/
lemma IsLexeme.mem_operators_or_isWord_or_isNumber (h : piece.IsLexeme)
    (hkind : piece.kind? ≠ none) :
    String.ofList piece.text ∈ Spellings.operators.map Prod.fst ∨ Text.IsWord piece.text ∨
      Text.IsNumber piece.text := by
  cases h with
  | @sign word kind h =>
    left
    rw [String.ofList_toList]
    exact List.mem_map_of_mem h
  | keyword h => exact .inr (.inl (isWord_of_mem_keywords h))
  | name h _ => exact .inr (.inl h)
  | number h => exact .inr (.inr h)
  | blanks _ => exact absurd rfl hkind

/-! ### The first character of a lexeme -/

lemma IsLexeme.ne_nil (h : piece.IsLexeme) : piece.text ≠ [] := by
  cases h with
  | sign h => exact (spelling_solid (.inl h)).1
  | keyword h => exact (spelling_solid (.inr h)).1
  | name h _ => exact h.ne_nil
  | number h => exact h.ne_nil
  | blanks h => exact h.ne_nil

/-- A lexeme that begins with a letter is a word, and a keyword if the whole word is one. -/
lemma IsLexeme.of_isLetter (h : piece.IsLexeme) (htext : piece.text = c :: cs)
    (hc : Text.isLetter c = true) :
    Text.IsWord piece.text ∧
      ((∃ entry ∈ Spellings.keywords, piece = ⟨some entry.2, entry.1.toList⟩) ∨
        piece.kind? = some .identifier ∧
          ∀ entry ∈ Spellings.keywords, entry.1.toList ≠ piece.text) := by
  cases h with
  | sign h => simp [isLetter_eq_false (first_of_mem_operators h htext).1] at hc
  | @keyword word kind h => exact ⟨isWord_of_mem_keywords h, .inl ⟨(word, kind), h, rfl⟩⟩
  | name h hplain => exact ⟨h, .inr ⟨rfl, hplain⟩⟩
  | number h =>
    subst htext
    simp [isLetter_of_isDigit h.1] at hc
  | blanks h =>
    subst htext
    simp [isLetter_eq_false (isWordChar_of_isBlank h.1)] at hc

/-- A lexeme that begins with a digit is a number. -/
lemma IsLexeme.of_isDigit (h : piece.IsLexeme) (htext : piece.text = c :: cs)
    (hc : Text.isDigit c = true) : Text.IsNumber piece.text ∧ piece.kind? = some .number := by
  have hletter := isLetter_of_isDigit hc
  cases h with
  | sign h => simp [isDigit_eq_false (first_of_mem_operators h htext).1] at hc
  | keyword h => simp [first_of_mem_keywords h htext] at hletter
  | name h _ =>
    subst htext
    simp [hletter] at h
  | number h => exact ⟨h, rfl⟩
  | blanks h =>
    subst htext
    simp [isDigit_eq_false (isWordChar_of_isBlank h.1)] at hc

/-- A lexeme that begins with a blank is a run of blanks. -/
lemma IsLexeme.of_isBlank (h : piece.IsLexeme) (htext : piece.text = c :: cs)
    (hc : Text.isBlank c = true) : Text.IsBlanks piece.text ∧ piece.kind? = none := by
  have hword := isWordChar_of_isBlank hc
  have hletter := isLetter_eq_false hword
  cases h with
  | sign h => simp [(first_of_mem_operators h htext).2] at hc
  | keyword h => simp [first_of_mem_keywords h htext] at hletter
  | name h _ =>
    subst htext
    simp [hletter] at h
  | number h =>
    subst htext
    simp [isDigit_eq_false hword] at h
  | blanks h => exact ⟨h, rfl⟩

/-- All other lexemes are operators and delimiters. -/
lemma IsLexeme.of_isSign (h : piece.IsLexeme) (htext : piece.text = c :: cs)
    (hletter : Text.isLetter c = false) (hdigit : Text.isDigit c = false)
    (hblank : Text.isBlank c = false) :
    ∃ entry ∈ Spellings.operators, piece = ⟨some entry.2, entry.1.toList⟩ := by
  cases h with
  | @sign word kind h => exact ⟨(word, kind), h, rfl⟩
  | keyword h => simp [first_of_mem_keywords h htext] at hletter
  | name h _ =>
    subst htext
    simp [hletter] at h
  | number h =>
    subst htext
    simp [hdigit] at h
  | blanks h =>
    subst htext
    simp [hblank] at h

/-- The kind of a lexeme is read off its text. -/
theorem IsLexeme.kind?_eq (h : piece.IsLexeme) (h' : other.IsLexeme)
    (htext : piece.text = other.text) : piece.kind? = other.kind? := by
  obtain ⟨c, cs, hcons⟩ := List.exists_cons_of_ne_nil h.ne_nil
  have hcons' := htext ▸ hcons
  by_cases hletter : Text.isLetter c = true
  · rcases (h.of_isLetter hcons hletter).2 with ⟨entry, hmem, rfl⟩ | ⟨hkind, hplain⟩
    · rcases (h'.of_isLetter hcons' hletter).2 with ⟨entry', hmem', rfl⟩ | ⟨-, hplain'⟩
      · have hfront : entry.1.toList <+: entry'.1.toList := ⟨[], by simpa using htext⟩
        rw [eq_of_mem_keywords hmem hmem' hfront]
      · exact absurd htext (hplain' entry hmem)
    · rcases (h'.of_isLetter hcons' hletter).2 with ⟨entry', hmem', rfl⟩ | ⟨hkind', -⟩
      · exact absurd htext.symm (hplain entry' hmem')
      · rw [hkind, hkind']
  by_cases hdigit : Text.isDigit c = true
  · rw [(h.of_isDigit hcons hdigit).2, (h'.of_isDigit hcons' hdigit).2]
  by_cases hblank : Text.isBlank c = true
  · rw [(h.of_isBlank hcons hblank).2, (h'.of_isBlank hcons' hblank).2]
  rw [Bool.not_eq_true] at hletter hdigit hblank
  obtain ⟨entry, hmem, rfl⟩ := h.of_isSign hcons hletter hdigit hblank
  obtain ⟨entry', hmem', rfl⟩ := h'.of_isSign hcons' hletter hdigit hblank
  exact congrArg some (kind_eq_of_mem_operators hmem hmem' htext)

/-- A lexeme that begins with a character of a word consists of such characters. -/
lemma IsLexeme.forall_isWordChar (h : piece.IsLexeme) (htext : piece.text = c :: cs)
    (hc : Text.isWordChar c = true) : ∀ d ∈ piece.text, Text.isWordChar d = true := by
  by_cases hletter : Text.isLetter c = true
  · exact (h.of_isLetter htext hletter).1.forall_mem fun _ => isWordChar_of_isLetter
  by_cases hdigit : Text.isDigit c = true
  · intro d hd
    exact isWordChar_of_isDigit ((h.of_isDigit htext hdigit).1.forall_mem (fun _ he => he) d hd)
  -- The underscore begins no lexeme.
  rw [Bool.not_eq_true] at hletter hdigit
  obtain ⟨entry, hmem, rfl⟩ := h.of_isSign htext hletter hdigit (isBlank_of_isWordChar hc)
  simp [(first_of_mem_operators hmem htext).1] at hc

/-- A lexeme that begins with no blank contains none. -/
lemma IsLexeme.forall_isBlank (h : piece.IsLexeme) (htext : piece.text = c :: cs)
    (hc : Text.isBlank c = false) : ∀ d ∈ piece.text, Text.isBlank d = false := by
  cases h with
  | sign h => exact (spelling_solid (.inl h)).2.1
  | keyword h => exact (spelling_solid (.inr h)).2.1
  | name h _ =>
    intro d hd
    exact isBlank_of_isWordChar (h.forall_mem (fun _ => isWordChar_of_isLetter) d hd)
  | number h =>
    intro d hd
    exact isBlank_of_isWordChar (isWordChar_of_isDigit (h.forall_mem (fun _ he => he) d hd))
  | blanks h =>
    subst htext
    simp [hc] at h

end Piece

end BoolWhile
