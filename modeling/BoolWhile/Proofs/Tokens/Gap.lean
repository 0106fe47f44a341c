import BoolWhile.Proofs.Tokens.RoundTrip

/-!
# Gaps in a text

A token holds no blank, so no token lies across the beginning of a gap. Hence a text is read part
by part wherever a blank stands (`tokensFrom_append_of_detached`), and a gap that is put in where
no token is cut leaves all tokens as they are, but for their places (`map_spelling_insert`).
-/

namespace BoolWhile

variable {rule : KeywordRule} {filename : String} {cs rest : List Char}

/-! ### Reading up to a gap -/

/-- A token that spans the end of a text would hold the character behind it. -/
lemma not_spans_of_detached (hrest : Detached rest) :
    ∀ t ∈ tokensFrom rule filename .start (cs ++ rest), ¬t.Spans cs.length := by
  rintro t ht ⟨hbefore, hbehind⟩
  rw [← String.toList_ofList (l := cs ++ rest)] at ht
  obtain ⟨i, hstands⟩ := standsAt_of_mem_readTokens ht
  rw [hstands.location] at hbefore hbehind
  have hle : (i : Int) < cs.length := hbefore
  have hlt : cs.length - i < t.lexeme.length := by
    have hlt' : (cs.length : Int) < i + t.lexeme.length := hbehind
    omega
  have hchar : t.lexeme.toList[cs.length - i]? = rest.head? := by
    have hindex : i + (cs.length - i) = cs.length := by omega
    rw [← hstands.lexeme, String.toList_ofList, List.getElem?_take_of_lt hlt, List.getElem?_drop,
      hindex, List.getElem?_append_right (Nat.le_refl _), Nat.sub_self, List.head?_eq_getElem?]
  rw [← String.length_toList] at hlt
  rw [List.getElem?_eq_getElem hlt] at hchar
  have hsolid := hstands.solid _ (List.getElem_mem hlt)
  rw [hrest _ hchar.symm] at hsolid
  cases hsolid

/-- A text is read part by part if the second part begins with a blank. -/
theorem tokensFrom_append_of_detached (rule : KeywordRule) (filename : String) (p : Position)
    (cs : List Char) (hrest : Detached rest) :
    tokensFrom rule filename p (cs ++ rest) =
      tokensFrom rule filename p cs ++ tokensFrom rule filename (p.advance cs) rest := by
  apply tokensFrom_append
  intro t ht
  rw [tokensFrom_displace] at ht
  obtain ⟨u, hu, rfl⟩ := List.mem_map.1 ht
  have hspans := not_spans_of_detached hrest u hu
  simp only [Token.Spans, Token.displace, Location.displace, Displacement.to, Position.inFile] at *
  omega

/-! ### Spellings -/

lemma map_spelling_displace (d : Displacement) (tokens : List Token) :
    (tokens.map (Token.displace d)).map Token.spelling = tokens.map Token.spelling := by
  rw [List.map_map]
  rfl

/-- What stands on either side of a gap is read on its own, but for the places. -/
theorem map_spelling_append (rule : KeywordRule) (filename front back : String) {gap : String}
    (hgap : IsGap gap) (hne : gap ≠ "") :
    (readTokens rule filename (front ++ gap ++ back)).map Token.spelling =
      (readTokens rule filename front).map Token.spelling ++
        (readTokens rule filename back).map Token.spelling := by
  have hdetached : Detached (gap.toList ++ back.toList) :=
    detached_append hgap fun hempty => absurd hempty hne
  rw [readTokens, String.toList_append, String.toList_append, List.append_assoc,
    tokensFrom_append_of_detached rule filename .start front.toList hdetached,
    tokensFrom_blanks hgap, tokensFrom_displace rule filename _ back.toList, List.map_append,
    map_spelling_displace]
  rfl

/-- A gap that is put in where no token is cut leaves all tokens as they are, but for their
places. -/
theorem map_spelling_insert {rule : KeywordRule} {filename source gap : String} {k : Nat}
    (hgap : IsGap gap) (h : ∀ t ∈ readTokens rule filename source, ¬t.Spans k) :
    (readTokens rule filename
        (String.ofList (source.toList.take k) ++ gap ++
          String.ofList (source.toList.drop k))).map Token.spelling =
      (readTokens rule filename source).map Token.spelling := by
  by_cases hempty : gap = ""
  · rw [hempty, String.append_empty, ← String.ofList_append, List.take_append_drop,
      String.ofList_toList]
  · rw [map_spelling_append rule filename _ _ hgap hempty,
      readTokens_take_drop rule filename source k h, List.map_append, map_spelling_displace]

end BoolWhile
