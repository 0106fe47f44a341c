import BoolWhile.Proofs.Tokens.Cover

/-!
# Warnings about the unknown characters of a text

An unknown token is one character long, so a warning about it can always be made. Reading a text
makes one for each unknown token, in their order.
-/

namespace BoolWhile

/-- A warning is the one about a token. -/
structure Diagnostic.WarnsAbout (d : Diagnostic) (t : Token) : Prop where
  made : Diagnostic.unrecognized t.lexeme t.location = .ok d
  severity : d.severity = "warning"
  code : d.code = some "L001"
  message : d.message = s!"Unrecognized character: {Text.quoted t.lexeme}"
  location : d.location = some t.location

variable {rule : KeywordRule} {filename : String} {p : Position} {cs : List Char} {t : Token}
  {tokens : List Token}

lemma warnsAbout_of_unrecognized {d : Diagnostic}
    (h : Diagnostic.unrecognized t.lexeme t.location = .ok d) : d.WarnsAbout t := by
  have hmade := h
  rw [Diagnostic.unrecognized] at h
  cases hhelp : Diagnostic.characterHelp t.lexeme with
  | error e => simp [hhelp] at h
  | ok help =>
    rw [hhelp] at h
    obtain rfl := Except.ok.inj h
    exact ⟨hmade, rfl, rfl, rfl, rfl⟩

lemma exists_warnsAbout (h : t ∈ tokensFrom rule filename p cs) (hkind : t.kind = .unknown) :
    ∃ d : Diagnostic, d.WarnsAbout t := by
  obtain ⟨piece, hpiece, hsome, hlexeme⟩ := wellFormed_of_mem_tokensFrom h
  rw [hkind] at hsome
  obtain ⟨c, htext⟩ := hpiece.unknown hsome
  have hsingle : t.lexeme = String.singleton c := by
    rw [hlexeme, htext]
    rfl
  obtain ⟨d, hd⟩ := Diagnostic.unrecognized_singleton c t.location
  rw [← hsingle] at hd
  exact ⟨d, warnsAbout_of_unrecognized hd⟩

lemma forall₂_characterWarnings
    (h : ∀ t ∈ tokens, t.kind = .unknown → ∃ d : Diagnostic, d.WarnsAbout t) :
    List.Forall₂ (fun t d => d.WarnsAbout t) (tokens.filter (·.kind = .unknown))
      (characterWarnings tokens) := by
  induction tokens with
  | nil => exact .nil
  | cons t tokens ih =>
    have hrest := ih fun u hu => h u (List.mem_cons_of_mem t hu)
    by_cases hkind : t.kind = .unknown
    · obtain ⟨d, hd⟩ := h t List.mem_cons_self hkind
      have hwarnings : characterWarnings (t :: tokens) = d :: characterWarnings tokens := by
        simp [characterWarnings, hkind, hd.made, Except.toOption]
      rw [hwarnings, List.filter_cons_of_pos (by simpa using hkind)]
      exact .cons hd hrest
    · have hwarnings : characterWarnings (t :: tokens) = characterWarnings tokens := by
        simp [characterWarnings, hkind]
      rw [hwarnings, List.filter_cons_of_neg (by simpa using hkind)]
      exact hrest

lemma characterWarnings_eq_nil (h : ∀ t ∈ tokens, t.kind ≠ .unknown) :
    characterWarnings tokens = [] := by
  refine List.filterMap_eq_nil_iff.2 fun t ht => ?_
  rw [if_neg (h t ht)]

/-- The warnings of a text tell whether it has an unknown token. -/
lemma Session.warnings_read_ne_nil_iff (s : Session) :
    s.read.warnings ≠ [] ↔ ∃ t ∈ s.read.tokens, t.kind = .unknown := by
  constructor
  · intro h
    by_contra hnone
    push Not at hnone
    exact h (characterWarnings_eq_nil hnone)
  · rintro ⟨t, ht, hkind⟩ hnil
    have hwarnings : List.Forall₂ (fun t d => d.WarnsAbout t)
        (s.read.tokens.filter (·.kind = .unknown)) (characterWarnings s.read.tokens) :=
      forall₂_characterWarnings fun t ht hkind => exists_warnsAbout ht hkind
    have hmem : t ∈ s.read.tokens.filter (·.kind = .unknown) :=
      List.mem_filter.2 ⟨ht, by simpa using hkind⟩
    have hempty : characterWarnings s.read.tokens = [] := hnil
    rw [hempty, List.forall₂_nil_right_iff] at hwarnings
    rw [hwarnings] at hmem
    exact List.not_mem_nil hmem

/-- Reading covers the text with tokens, whatever was read before, and warns about the unknown
ones. -/
theorem Session.read_covers (s : Session) :
    Covers s.read.tokens s.filename s.source.toList ∧
      List.Forall₂ (fun t d => d.WarnsAbout t) (s.read.tokens.filter (·.kind = .unknown))
        s.read.warnings := by
  constructor
  · exact covers_readTokens s.inForce s.filename s.source
  · exact forall₂_characterWarnings fun t ht hkind => exists_warnsAbout ht hkind

end BoolWhile
