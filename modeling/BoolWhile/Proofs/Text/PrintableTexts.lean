import BoolWhile.Text.Quoted
import Mathlib.Tactic.Common

/-!
# Texts of printable characters

Messages are put together from words, numbers and quoted texts. All of these are printable, also
the quoted form of a text that is not: no character of it is left as it is unless it is printable
(`allPrintable_quoted`). A printable text is part of a single line, for the line feed is not
printable.
-/

namespace BoolWhile

namespace Text

variable {c : Char} {s : String}

/-! ### Texts in sequence -/

/-- A text is put into another one as it is. -/
@[simp] lemma toString_string (s : String) : toString s = s := rfl

@[simp] lemma allPrintable_append (s t : String) :
    allPrintable (s ++ t) = (allPrintable s && allPrintable t) := by
  simp [allPrintable]

@[simp] lemma allPrintable_ofList (cs : List Char) :
    allPrintable (String.ofList cs) = cs.all isPrintable := by
  simp [allPrintable]

lemma isPrintable_of_mem (hs : allPrintable s = true) (hc : c ∈ s.toList) :
    isPrintable c = true :=
  List.all_eq_true.1 hs c hc

/-! ### Digits -/

/-- The first two ranges of the table leave out what is printable of ASCII. -/
lemma isPrintable_of_ascii (hlow : 0x20 ≤ c.toNat) (hhigh : c.toNat ≤ 0x7E) :
    isPrintable c = true := by
  have hstart : ¬c.toNat < 0 := Nat.not_lt_zero _
  have hcontrol : ¬c.toNat ≤ 0x1F := by omega
  have hdelete : c.toNat < 0x7F := by omega
  rw [isPrintable, nonPrintableRanges, CodeRanges.contains_cons, if_neg hstart, if_neg hcontrol,
    CodeRanges.contains_cons, if_pos hdelete]
  rfl

lemma isPrintable_of_isDigit (h : c.isDigit = true) : isPrintable c = true := by
  simp only [Char.isDigit, Bool.and_eq_true, decide_eq_true_eq, UInt32.le_iff_toNat_le] at h
  apply isPrintable_of_ascii
  · exact Nat.le_trans (by decide) h.1
  · exact Nat.le_trans h.2 (by decide)

@[simp] lemma allPrintable_repr (n : Nat) : allPrintable n.repr = true := by
  simp only [allPrintable, Nat.toList_repr, List.all_eq_true]
  intro c hc
  apply isPrintable_of_isDigit
  exact Nat.isDigit_of_mem_toDigits (by decide) (by decide) hc

@[simp] lemma allPrintable_intRepr (n : Int) : allPrintable n.repr = true := by
  cases n with
  | ofNat n => exact allPrintable_repr n
  | negSucc n =>
    show allPrintable ("-" ++ n.succ.repr) = true
    rw [allPrintable_append, allPrintable_repr]
    rfl

/-- A hexadecimal digit is printable in both cases. -/
lemma isPrintable_hexDigit {n : Nat} (h : n < 16) :
    isPrintable (hexDigit n) = true ∧ isPrintable (hexDigit n).toUpper = true := by
  have hall : ∀ m < 16, isPrintable (hexDigit m) = true ∧
      isPrintable (hexDigit m).toUpper = true := by
    decide
  exact hall n h

lemma isPrintable_of_mem_hexDigits {width n : Nat} (h : c ∈ hexDigits width n) :
    isPrintable c = true ∧ isPrintable c.toUpper = true := by
  induction width generalizing n with
  | zero => simp at h
  | succ width ih =>
    rw [hexDigits_succ, List.mem_append, List.mem_singleton] at h
    rcases h with h | rfl
    · exact ih h
    · exact isPrintable_hexDigit (Nat.mod_lt _ (by decide))

lemma isPrintable_of_mem_codePointDigits {d : Char} (h : d ∈ codePointDigits c) :
    isPrintable d = true := by
  obtain ⟨e, he, rfl⟩ := List.mem_map.1 h
  exact (isPrintable_of_mem_hexDigits he).2

/-! ### Quoted texts -/

/-- An escape is a backslash, a letter for what is escaped, and digits. -/
lemma isPrintable_of_mem_escaped {letter d : Char} {digits : List Char}
    (hletter : isPrintable letter = true) (hdigits : ∀ e ∈ digits, isPrintable e = true)
    (h : d ∈ '\\' :: letter :: digits) : isPrintable d = true := by
  rcases List.mem_cons.1 h with rfl | h
  · decide
  rcases List.mem_cons.1 h with rfl | h
  · exact hletter
  · exact hdigits d h

/-- The escape of any character is printable. A character stands for itself only behind the test
for printable ones, or if it is the backslash or the quote in use. -/
lemma isPrintable_of_mem_escape {quote d : Char} (hquote : isPrintable quote = true)
    (h : d ∈ escape quote c) : isPrintable d = true := by
  have hnone : ∀ e ∈ ([] : List Char), isPrintable e = true := by simp
  have hhex : ∀ width, ∀ e ∈ hexDigits width c.toNat, isPrintable e = true :=
    fun _ _ he => (isPrintable_of_mem_hexDigits he).1
  unfold escape at h
  split_ifs at h with hspecial _ _ _ hprintable
  · have hc : isPrintable c = true := by
      rcases hspecial with rfl | rfl
      · decide
      · exact hquote
    exact isPrintable_of_mem_escaped hc hnone h
  · exact isPrintable_of_mem_escaped (by decide) hnone h
  · exact isPrintable_of_mem_escaped (by decide) hnone h
  · exact isPrintable_of_mem_escaped (by decide) hnone h
  · rw [List.mem_singleton.1 h]
    exact hprintable
  · exact isPrintable_of_mem_escaped (by decide) (hhex 2) h
  · exact isPrintable_of_mem_escaped (by decide) (hhex 4) h
  · exact isPrintable_of_mem_escaped (by decide) (hhex 8) h

lemma isPrintable_quoteFor (s : String) : isPrintable (quoteFor s) = true := by
  unfold quoteFor
  split <;> decide

/-- Quoting makes every text printable. -/
@[simp] theorem allPrintable_quoted (s : String) : allPrintable (quoted s) = true := by
  have hquote := isPrintable_quoteFor s
  rw [quoted, allPrintable_ofList]
  simp only [List.cons_append, List.all_cons, List.all_append, List.all_nil, hquote,
    Bool.true_and, Bool.and_true, List.all_eq_true, List.mem_flatMap]
  rintro d ⟨c, -, hd⟩
  exact isPrintable_of_mem_escape hquote hd

end Text

end BoolWhile
