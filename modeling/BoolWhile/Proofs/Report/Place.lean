import BoolWhile.Proofs.Recognition.Report
import BoolWhile.Proofs.Tokens.Cover

/-!
# Where errors are located

The location of a token comes from the text. The location behind the last token is made by adding
the width of its lexeme to column and offset alike, and is a place of the text all the same: no
token goes over the end of a line, and only blanks stand behind the last one. Without a token there
is no error.
-/

namespace BoolWhile

/-- The place of an index of the text of a file. -/
def Location.ofIndex (filename : String) (text : List Char) (i : Nat) : Location :=
  ⟨filename, 1 + (text.take i).count '\n', i - lastLineFeed (text.take i), i⟩

/-- The last character of a text that is no blank is the one before an index. -/
def Text.EndsSolidAt (text : List Char) (i : Nat) : Prop :=
  ∃ cs c blanks, text = cs ++ c :: blanks ∧ i = cs.length + 1 ∧ isBlank c = false ∧
    ∀ d ∈ blanks, isBlank d = true

/-- An error in a file is located at an index of its text. Either its token stands there, or the
last character that is no blank stands right before. -/
structure SyntaxError.PointsAt (e : SyntaxError) (filename : String) (text : List Char)
    (i : Nat) : Prop where
  le_length : i ≤ text.length
  location : e.diagnostic.location = some (.ofIndex filename text i)
  reason :
    (e.diagnostic.code = some "P001" ∧ ∃ t, e.token = some t ∧ t.lexeme ≠ "" ∧
        (text.drop i).take t.lexeme.length = t.lexeme.toList) ∨
      (e.diagnostic.code = some "P010" ∧ e.token = none ∧ Text.EndsSolidAt text i)

section

variable {filename : String} {text : List Char} {t : Token} {i : Nat}

namespace Token.StandsAt

lemma lexeme_toList_ne_nil (h : t.StandsAt filename text i) : t.lexeme.toList ≠ [] :=
  fun hnil => h.nonempty (String.toList_eq_nil_iff.1 hnil)

lemma add_length_le (h : t.StandsAt filename text i) : i + t.lexeme.length ≤ text.length := by
  have hlexeme := congrArg List.length h.lexeme
  have hpos := List.length_pos_iff.2 h.lexeme_toList_ne_nil
  rw [String.length_toList] at hpos
  rw [List.length_take, List.length_drop, String.length_toList] at hlexeme
  omega

lemma take_add (h : t.StandsAt filename text i) :
    text.take (i + t.lexeme.length) = text.take i ++ t.lexeme.toList := by
  rw [List.take_add, h.lexeme]

/-- A token is on one line, so that the place behind it does not depend on the text around. -/
lemma endLocation (h : t.StandsAt filename text i) :
    t.endLocation = .ofIndex filename text (i + t.lexeme.length) := by
  have hline : '\n' ∉ t.lexeme.toList := by
    intro hmem
    have hblank := h.solid '\n' hmem
    simp [Text.isBlank] at hblank
  rw [Token.endLocation, h.location, Location.shift, Location.ofIndex, h.take_add,
    List.count_append, List.count_eq_zero.2 hline, lastLineFeed_append, if_neg hline]
  simp only [Location.mk.injEq, true_and]
  omega

/-- A token ends with a character that is no blank. -/
lemma endsSolidAt (h : t.StandsAt filename text i)
    (hblank : ∀ d ∈ text.drop (i + t.lexeme.length), Text.isBlank d = true) :
    Text.EndsSolidAt text (i + t.lexeme.length) := by
  obtain ⟨cs, c, hlexeme⟩ := (List.eq_nil_or_concat _).resolve_left h.lexeme_toList_ne_nil
  have htake := h.take_add
  rw [hlexeme, List.concat_eq_append, ← List.append_assoc] at htake
  have hlength := congrArg List.length htake
  rw [List.length_take_of_le h.add_length_le, List.length_append, List.length_singleton] at hlength
  refine ⟨text.take i ++ cs, c, text.drop (i + t.lexeme.length), ?_, hlength, ?_, hblank⟩
  · calc
      text = text.take (i + t.lexeme.length) ++ text.drop (i + t.lexeme.length) :=
        (List.take_append_drop _ _).symm
      _ = text.take i ++ cs ++ c :: text.drop (i + t.lexeme.length) := by
        rw [htake, List.append_assoc _ [c], List.singleton_append]
  · exact h.solid c (by simp [hlexeme])

end Token.StandsAt

end

section

variable {rule : KeywordRule} {filename source : String} {t u : Token} {i : Nat} {e : SyntaxError}

/-- No token ends behind the last one. -/
lemma offset_add_length_le (hlast : (readTokens rule filename source).getLast? = some t)
    (hu : u ∈ readTokens rule filename source) :
    u.location.offset + u.lexeme.length ≤ t.location.offset + t.lexeme.length := by
  obtain ⟨before, hsplit⟩ := List.getLast?_eq_some_iff.1 hlast
  have hpairwise := pairwise_readTokens rule filename source
  rw [hsplit] at hu hpairwise
  rcases List.mem_append.1 hu with hu | hu
  · have hle := (List.pairwise_append.1 hpairwise).2.2 u hu t (List.mem_singleton_self t)
    omega
  · obtain rfl := List.mem_singleton.1 hu
    exact Int.le_refl _

/-- Only blanks stand behind the last token. -/
lemma isBlank_of_mem_drop (hlast : (readTokens rule filename source).getLast? = some t)
    (h : t.StandsAt filename source.toList i) :
    ∀ d ∈ source.toList.drop (i + t.lexeme.length), Text.isBlank d = true := by
  intro d hd
  obtain ⟨j, hj⟩ := List.getElem?_of_mem hd
  rw [List.getElem?_drop] at hj
  have hmisses : ∀ u ∈ readTokens rule filename source, u.Misses (i + t.lexeme.length + j) := by
    intro u hu
    have hle := offset_add_length_le hlast hu
    have hoffset := congrArg Location.offset h.location
    dsimp only at hoffset
    exact .inr (by omega)
  exact isBlank_of_misses hj hmisses

/-- An error in the text of a file is located in that file, at a place of its text. It is the place
of the token that the error is about, or the one behind all that is no blank. -/
theorem rejected_pointsAt (h : countStatementsOfText rule filename source = .error e) :
    ∃ i, e.PointsAt filename source.toList i := by
  obtain ⟨construct, t, ht, rfl | ⟨hlast, rfl⟩⟩ := exists_of_countStatements_eq_error h
  all_goals obtain ⟨i, hstands⟩ := standsAt_of_mem_readTokens ht
  · have hle := hstands.add_length_le
    exact ⟨i, by omega, congrArg some hstands.location,
      .inl ⟨rfl, t, rfl, hstands.nonempty, hstands.lexeme⟩⟩
  · exact ⟨i + t.lexeme.length, hstands.add_length_le, congrArg some hstands.endLocation,
      .inr ⟨rfl, rfl, hstands.endsSolidAt (isBlank_of_mem_drop hlast hstands)⟩⟩

/-- A block that is left open on the second line, with blanks and one more line behind it. -/
theorem rejected_pointsAt_open_block :
    ∃ e i, countStatementsOfText .anywhere unnamed "while (a)\n \x7b b \n " = .error e ∧
      e.PointsAt unnamed "while (a)\n \x7b b \n ".toList i := by
  have hrejected :
      (countStatementsOfText .anywhere unnamed "while (a)\n \x7b b \n ").isOk = false := by
    decide +kernel
  cases he : countStatementsOfText .anywhere unnamed "while (a)\n \x7b b \n " with
  | ok n => simp [he, Except.isOk, Except.toBool] at hrejected
  | error e =>
    obtain ⟨i, hi⟩ := rejected_pointsAt he
    exact ⟨e, i, rfl, hi⟩

end

end BoolWhile
