import BoolWhile.Proofs.Recognition.SyntaxTree
import Mathlib.Data.Set.Subsingleton

/-!
# Parts of a program from any place

Expressions and headers are recognized from any place in a list of tokens, whatever stands before
it. What is read has a tree, and behind an expression stands no token that continues it. Since a
tree is read back to its last token, the place where reading ends is the only one that the rules
allow (`readExpression_eq_ok_iff`, `readHeader_eq_ok_iff`).
-/

namespace BoolWhile

open Grammar

variable {ts tokens : List Token} {ks rest : List Kind} {pos q : Nat}

/-! ### What is read has a tree -/

/-- An expression is read up to a token that does not continue it. -/
lemma ExpressionState.endsExpression_of_read {s : ExpressionState} (h : s.read ks = .ok rest) :
    EndsExpression rest := by
  fun_induction read s ks with
  | case1 s hmissing =>
    obtain rfl := Except.ok.inj h
    exact endsExpression_nil
  | case2 => cases h
  | case3 s k ks s' hmove ih => exact ih h
  | case4 s k ks hmove =>
    obtain rfl := Except.ok.inj h
    refine endsExpression_cons.2 ?_
    by_contra hbinary
    rw [Bool.not_eq_false] at hbinary
    obtain ⟨awaiting, groups⟩ := s
    cases awaiting <;> cases groups <;> simp only [move, hbinary] at hmove <;> split_ifs at hmove
  | case5 => cases h

theorem readExpression_eq_ok_iff :
    readExpression (ts.map Token.kind) = .ok rest ↔
      ∃ part us, part ++ us = ts ∧ us.map Token.kind = rest ∧
        (∃ e : Expression, e.tokens = part) ∧ EndsExpression rest := by
  constructor
  · intro h
    have hends := ExpressionState.endsExpression_of_read h
    have hsimulates := Descent.simulates_orExpression ts ts
    cases hdescent : Descent.orExpression ts ts with
    | error e =>
      rw [hdescent] at hsimulates
      obtain ⟨place, -, hstuck⟩ := hsimulates
      have hread : readExpression (ts.map Token.kind) = .error place := hstuck 0
      rw [hread] at h
      cases h
    | ok behind =>
      rw [hdescent] at hsimulates
      obtain ⟨hloops, hnext⟩ := hsimulates
      have hread : readExpression (ts.map Token.kind) = .ok (behind.tokens.map Token.kind) :=
        (hloops 0).trans (ExpressionState.read_operator_zero hnext.endsExpression)
      rw [hread] at h
      obtain ⟨e, he⟩ := Descent.exists_orExpression hdescent
      exact ⟨e.tokens, behind.tokens, he, Except.ok.inj h, ⟨e, rfl⟩, hends⟩
  · rintro ⟨-, us, rfl, rfl, ⟨e, rfl⟩, hends⟩
    rw [List.map_append]
    exact readExpression_tokens e hends

lemma Construct.exists_of_read {construct : Construct} {k : Kind}
    (hkind : construct.kind? = some k) (h : construct.read (ts.map Token.kind) = .ok rest) :
    ∃ (t : TokenOf k) (us : List Token), ts = t.1 :: us ∧ us.map Token.kind = rest := by
  cases ts with
  | nil => cases h
  | cons t us =>
    rw [List.map_cons, read] at h
    split_ifs at h with ht
    have hk : t.kind = k := Option.some.inj (ht.symm.trans hkind)
    exact ⟨⟨t, hk⟩, us, rfl, Except.ok.inj h⟩

theorem readHeader_eq_ok_iff :
    readHeader (ts.map Token.kind) = .ok rest ↔
      ∃ part us, part ++ us = ts ∧ us.map Token.kind = rest ∧ ∃ h : Header, h.tokens = part := by
  constructor
  · intro h
    rw [readHeader] at h
    obtain ⟨ks₁, hkeyword, h⟩ := exists_of_bind_eq_ok h
    obtain ⟨ks₂, hopen, h⟩ := exists_of_bind_eq_ok h
    obtain ⟨ks₃, hcondition, h⟩ := exists_of_bind_eq_ok h
    obtain ⟨ks₄, hclose, hblock⟩ := exists_of_bind_eq_ok h
    obtain ⟨keyword, us₁, rfl, rfl⟩ := Construct.exists_of_read rfl hkeyword
    obtain ⟨openCondition, us₂, rfl, rfl⟩ := Construct.exists_of_read rfl hopen
    obtain ⟨-, us₃, rfl, rfl, ⟨condition, rfl⟩, -⟩ := readExpression_eq_ok_iff.1 hcondition
    obtain ⟨closeCondition, us₄, rfl, rfl⟩ := Construct.exists_of_read rfl hclose
    obtain ⟨openBlock, us, rfl, rfl⟩ := Construct.exists_of_read rfl hblock
    refine ⟨_, us, ?_, rfl, ⟨keyword, openCondition, condition, closeCondition, openBlock⟩, rfl⟩
    simp [Header.tokens]
  · rintro ⟨-, us, rfl, rfl, header, rfl⟩
    rw [List.map_append]
    exact readHeader_tokens header _

/-! ### Where it is read -/

section

variable {part us : List Token}

lemma extract_append_drop (h : pos ≤ q) (tokens : List Token) :
    tokens.extract pos q ++ tokens.drop q = tokens.drop pos := by
  rw [List.extract_eq_take_drop, ← Nat.add_sub_cancel' h, ← List.drop_drop, Nat.add_sub_cancel_left,
    List.take_append_drop]

/-- A part that stands at an index is all that stands up to the index where it ends. -/
lemma append_eq_drop_iff (hne : part ≠ []) :
    part ++ us = tokens.drop pos ∧ tokens.length - us.length = q ↔
      q ≤ tokens.length ∧ part = tokens.extract pos q ∧ us = tokens.drop q := by
  constructor
  · rintro ⟨hdrop, rfl⟩
    have hlength := congrArg List.length hdrop
    have hpos := List.length_pos_iff.2 hne
    rw [List.length_append, List.length_drop] at hlength
    have hle : pos ≤ tokens.length - us.length := by omega
    have hus : us.length = (tokens.drop (tokens.length - us.length)).length := by
      rw [List.length_drop]
      omega
    have hsplit := hdrop.trans (extract_append_drop hle tokens).symm
    exact ⟨Nat.sub_le _ _, List.append_inj' hsplit hus⟩
  · rintro ⟨hq, rfl, rfl⟩
    have hle : pos ≤ q := by
      by_contra hlt
      refine hne ?_
      rw [List.extract_eq_take_drop, Nat.sub_eq_zero_of_le (by omega), List.take_zero]
    refine ⟨extract_append_drop hle tokens, ?_⟩
    rw [List.length_drop]
    omega

end

namespace Cursor

variable {read : List Kind → Except Stuck (List Kind)} {IsPart : List Token → List Kind → Prop}

/-- A cursor is moved over exactly the parts that are read. -/
lemma over_eq_ok_iff
    (hread : ∀ {ts : List Token} {rest : List Kind}, read (ts.map Token.kind) = .ok rest ↔
      ∃ part us, part ++ us = ts ∧ us.map Token.kind = rest ∧ IsPart part rest)
    (hne : ∀ part rest, IsPart part rest → part ≠ []) :
    Cursor.over read ⟨tokens, pos⟩ = .ok ⟨tokens, q⟩ ↔
      q ≤ tokens.length ∧ IsPart (tokens.extract pos q) ((tokens.drop q).map Token.kind) := by
  constructor
  · intro h
    rw [Cursor.over] at h
    cases hkinds : read (kinds ⟨tokens, pos⟩) with
    | error place =>
      rw [hkinds] at h
      cases h
    | ok rest =>
      rw [hkinds] at h
      obtain ⟨part, us, happend, rfl, hpart⟩ := hread.1 hkinds
      have hq : tokens.length - (us.map Token.kind).length = q :=
        congrArg index (Except.ok.inj h)
      rw [List.length_map] at hq
      obtain ⟨hle, rfl, rfl⟩ := (append_eq_drop_iff (hne _ _ hpart)).1 ⟨happend, hq⟩
      exact ⟨hle, hpart⟩
  · rintro ⟨hle, hpart⟩
    obtain ⟨happend, hq⟩ := (append_eq_drop_iff (hne _ _ hpart)).2 ⟨hle, rfl, rfl⟩
    have hkinds : read (kinds ⟨tokens, pos⟩) = .ok ((tokens.drop q).map Token.kind) :=
      hread.2 ⟨_, _, happend, rfl, hpart⟩
    rw [Cursor.over, hkinds]
    refine congrArg (fun i => Except.ok (Cursor.mk tokens i)) ?_
    rw [List.length_map]
    exact hq

/-- A cursor that is not moved reports an error. -/
lemma over_eq_error_iff :
    (∃ e, Cursor.over read ⟨tokens, pos⟩ = .error e) ↔
      ¬∃ q, Cursor.over read ⟨tokens, pos⟩ = .ok ⟨tokens, q⟩ := by
  rw [Cursor.over]
  cases read (kinds ⟨tokens, pos⟩) with
  | ok rest => simp [before]
  | error place => simp

/-- Nothing is read past the end. -/
lemma kinds_past_end (n : Nat) : kinds ⟨tokens, tokens.length + n⟩ = [] := by
  rw [kinds, List.drop_of_length_le (Nat.le_add_right _ _), List.map_nil]

end Cursor

/-! ### Expressions and headers -/

/-- The tokens from an index up to another are an expression that does not go on there. -/
structure ExpressionAt (tokens : List Token) (pos q : Nat) : Prop where
  le_length : q ≤ tokens.length
  derived : ∃ e : Expression, e.tokens = tokens.extract pos q
  ends : ∀ t ∈ tokens[q]?, t.kind.isBinary = false

/-- The tokens from an index up to another are the part of a loop before its statements. -/
structure HeaderAt (tokens : List Token) (pos q : Nat) : Prop where
  le_length : q ≤ tokens.length
  derived : ∃ h : Header, h.tokens = tokens.extract pos q

lemma endsExpression_drop_iff :
    EndsExpression ((tokens.drop q).map Token.kind) ↔
      ∀ t ∈ tokens[q]?, t.kind.isBinary = false := by
  simp [EndsExpression, List.head?_drop]

lemma tokens_ne_nil (e : Expression) : e.tokens ≠ [] := by
  intro hnil
  obtain ⟨k, ks, hkinds, -⟩ := exists_begin e []
  rw [hnil] at hkinds
  cases hkinds

lemma overExpression_eq_ok_iff :
    Cursor.overExpression ⟨tokens, pos⟩ = .ok ⟨tokens, q⟩ ↔ ExpressionAt tokens pos q := by
  have hne : ∀ (part : List Token) (rest : List Kind),
      (∃ e : Expression, e.tokens = part) ∧ EndsExpression rest → part ≠ [] := by
    rintro part rest ⟨⟨e, rfl⟩, -⟩
    exact tokens_ne_nil e
  rw [Cursor.overExpression, Cursor.over_eq_ok_iff readExpression_eq_ok_iff hne,
    endsExpression_drop_iff]
  exact ⟨fun ⟨hle, he, hends⟩ => ⟨hle, he, hends⟩, fun h => ⟨h.le_length, h.derived, h.ends⟩⟩

lemma overHeader_eq_ok_iff :
    Cursor.overHeader ⟨tokens, pos⟩ = .ok ⟨tokens, q⟩ ↔ HeaderAt tokens pos q := by
  have hne : ∀ part : List Token, (∃ h : Header, h.tokens = part) → part ≠ [] := by
    rintro part ⟨h, rfl⟩
    exact List.cons_ne_nil _ _
  rw [Cursor.overHeader, Cursor.over_eq_ok_iff readHeader_eq_ok_iff fun part _ => hne part]
  exact ⟨fun ⟨hle, h⟩ => ⟨hle, h⟩, fun h => ⟨h.le_length, h.derived⟩⟩

/-- From any place, an expression and the part of a loop before its statements are recognized
exactly if the rules allow them there, up to the one place where they allow them to end. Otherwise,
and always past the end, there is an error. -/
theorem recognized_iff_derived (tokens : List Token) :
    (∀ pos q, Cursor.overExpression ⟨tokens, pos⟩ = .ok ⟨tokens, q⟩ ↔ ExpressionAt tokens pos q) ∧
      (∀ pos, {q | ExpressionAt tokens pos q}.Subsingleton) ∧
      (∀ pos, (∃ e, Cursor.overExpression ⟨tokens, pos⟩ = .error e) ↔
        ¬∃ q, ExpressionAt tokens pos q) ∧
      (∀ pos q, Cursor.overHeader ⟨tokens, pos⟩ = .ok ⟨tokens, q⟩ ↔ HeaderAt tokens pos q) ∧
      (∀ pos, (∃ e, Cursor.overHeader ⟨tokens, pos⟩ = .error e) ↔ ¬∃ q, HeaderAt tokens pos q) ∧
      ∀ n, (∃ e, Cursor.overExpression ⟨tokens, tokens.length + n⟩ = .error e) ∧
        ∃ e, Cursor.overHeader ⟨tokens, tokens.length + n⟩ = .error e := by
  refine ⟨fun _ _ => overExpression_eq_ok_iff, ?_, ?_, fun _ _ => overHeader_eq_ok_iff, ?_, ?_⟩
  · intro pos q hq q' hq'
    have hsame := (overExpression_eq_ok_iff.2 hq).symm.trans (overExpression_eq_ok_iff.2 hq')
    exact congrArg Cursor.index (Except.ok.inj hsame)
  · intro pos
    simp only [← overExpression_eq_ok_iff]
    exact Cursor.over_eq_error_iff
  · intro pos
    simp only [← overHeader_eq_ok_iff]
    exact Cursor.over_eq_error_iff
  · intro n
    constructor
    · rw [Cursor.overExpression, Cursor.over, Cursor.kinds_past_end]
      exact ⟨_, rfl⟩
    · rw [Cursor.overHeader, Cursor.over, Cursor.kinds_past_end]
      exact ⟨_, rfl⟩

end BoolWhile
