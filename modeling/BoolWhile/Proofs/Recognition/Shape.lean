import BoolWhile.Proofs.Recognition.Steps
import BoolWhile.Token.Basic

/-!
# The shape of a list of tokens

Recognition asks of an operand only that it is one, and of an operator only that it stands between
operands or in front of one. So lists of tokens have the same shape if they differ in nothing but
their literals, their operators between operands, and the lengths of their runs of `!`. A place in
a list has its counterpart in every list of the same shape (`SamePlace`), although the indices of
the two may differ.
-/

namespace BoolWhile

/-! ### Lists of one shape -/

/-- Kinds that may stand for each other: literals, operators between operands, and each kind for
itself. -/
inductive Kind.StandsFor : Kind → Kind → Prop
  | same (k : Kind) : StandsFor k k
  | literal {k l : Kind} (hk : k.isLiteral = true) (hl : l.isLiteral = true) : StandsFor k l
  | binary {k l : Kind} (hk : k.isBinary = true) (hl : l.isBinary = true) : StandsFor k l

/-- A run of at least one `!`. -/
structure IsNegation (ts : List Token) : Prop where
  nonempty : ts ≠ []
  kind_eq : ∀ t ∈ ts, t.kind = .logicalNot

/-- Tokens that do not lengthen a run of `!` in front of them. -/
def EndsNegation (ts : List Token) : Prop := ∀ t ∈ ts.head?, t.kind ≠ .logicalNot

/-- Lists of tokens that differ in their literals, in their operators between operands, in the
lengths of their runs of `!`, and in the lexemes and locations of all their tokens. -/
inductive SameShape : List Token → List Token → Prop
  | nil : SameShape [] []
  | token {t u : Token} {ts us : List Token} (hnot : t.kind ≠ .logicalNot)
    (hkind : t.kind.StandsFor u.kind) (hmore : SameShape ts us) : SameShape (t :: ts) (u :: us)
  | negation {ns ms ts us : List Token} (hns : IsNegation ns) (hms : IsNegation ms)
    (hts : EndsNegation ts) (hus : EndsNegation us) (hmore : SameShape ts us) :
    SameShape (ns ++ ts) (ms ++ us)

/-! ### Kinds that stand for each other -/

/-- One kind for all that may stand for each other. -/
def Kind.part (k : Kind) : Kind :=
  if k.isLiteral then .identifier else if k.isBinary then .logicalAnd else k

namespace Kind

variable {k l : Kind}

lemma isLiteral_of_isBinary (h : k.isBinary = true) : k.isLiteral = false := by
  cases k <;> simp_all [isLiteral, isBinary, isRelational]

lemma isBinary_of_isLiteral (h : k.isLiteral = true) : k.isBinary = false :=
  isBinary_of_begins (.inr (.inr h))

namespace StandsFor

lemma isLiteral_eq (h : k.StandsFor l) : k.isLiteral = l.isLiteral := by
  cases h with
  | same => rfl
  | literal hk hl => rw [hk, hl]
  | binary hk hl => rw [isLiteral_of_isBinary hk, isLiteral_of_isBinary hl]

lemma isBinary_eq (h : k.StandsFor l) : k.isBinary = l.isBinary := by
  cases h with
  | same => rfl
  | literal hk hl => rw [isBinary_of_isLiteral hk, isBinary_of_isLiteral hl]
  | binary hk hl => rw [hk, hl]

/-- Nothing else stands for a kind that is neither a literal nor an operator between operands. -/
lemma eq_iff (h : k.StandsFor l) (c : Kind) (hliteral : c.isLiteral = false)
    (hbinary : c.isBinary = false) : k = c ↔ l = c := by
  have hne : ∀ {m : Kind}, m.isLiteral = true ∨ m.isBinary = true → m ≠ c := by
    rintro m (hm | hm) rfl
    · simp [hm] at hliteral
    · simp [hm] at hbinary
  cases h with
  | same => rfl
  | literal hk hl => exact iff_of_false (hne (.inl hk)) (hne (.inl hl))
  | binary hk hl => exact iff_of_false (hne (.inr hk)) (hne (.inr hl))

end StandsFor

lemma isLiteral_part (k : Kind) : k.part.isLiteral = k.isLiteral := by cases k <;> rfl

lemma isBinary_part (k : Kind) : k.part.isBinary = k.isBinary := by cases k <;> rfl

lemma part_eq_logicalNot_iff : k.part = .logicalNot ↔ k = .logicalNot := by
  cases k <;> decide

lemma standsFor_iff : k.StandsFor l ↔ k.part = l.part := by
  constructor
  · intro h
    cases h with
    | same => rfl
    | literal hk hl => simp [part, hk, hl]
    | binary hk hl => simp [part, hk, hl, isLiteral_of_isBinary]
  · intro h
    have hliteral : k.isLiteral = l.isLiteral := by rw [← isLiteral_part, h, isLiteral_part]
    have hbinary : k.isBinary = l.isBinary := by rw [← isBinary_part, h, isBinary_part]
    by_cases hk : k.isLiteral = true
    · exact .literal hk (hliteral ▸ hk)
    by_cases hk' : k.isBinary = true
    · exact .binary hk' (hbinary ▸ hk')
    have hkl : k = l := by simpa [part, ← hliteral, ← hbinary, hk, hk'] using h
    exact hkl ▸ .same k

end Kind

variable {ts us ns ms xs ys : List Token} {t u : Token} {i j : Nat}

/-! ### Comparing shapes -/

/-- The parts that tokens play, one `!` for each run of them. -/
def shape : List Token → List Kind
  | [] => []
  | t :: ts =>
    if t.kind = .logicalNot ∧ (shape ts).head? = some .logicalNot then shape ts
    else t.kind.part :: shape ts

lemma shape_cons (ht : t.kind ≠ .logicalNot) : shape (t :: ts) = t.kind.part :: shape ts := by
  rw [shape, if_neg fun h => ht h.1]

lemma head?_shape (hts : EndsNegation ts) : (shape ts).head? ≠ some .logicalNot := by
  cases ts with
  | nil => exact nofun
  | cons t ts =>
    have ht := hts t rfl
    rw [shape_cons ht]
    exact fun h => ht (Kind.part_eq_logicalNot_iff.1 (Option.some.inj h))

/-- A run of `!` in front of other tokens is one `!`. -/
lemma shape_negation (hns : IsNegation ns) (hts : EndsNegation ts) :
    shape (ns ++ ts) = .logicalNot :: shape ts := by
  obtain ⟨hne, hkind⟩ := hns
  induction ns with
  | nil => exact absurd rfl hne
  | cons n ns ih =>
    have hn := hkind n List.mem_cons_self
    cases ns with
    | nil =>
      rw [List.singleton_append, shape, if_neg fun h => head?_shape hts h.2, hn]
      rfl
    | cons m ns =>
      have hmore := ih (List.cons_ne_nil m ns) fun t ht => hkind t (List.mem_cons_of_mem n ht)
      rw [List.cons_append, shape, hmore, if_pos ⟨hn, rfl⟩]

/-- A list is empty, or begins with a run of `!`, or with another token. -/
lemma exists_first (ts : List Token) :
    ts = [] ∨ (∃ t us, t.kind ≠ .logicalNot ∧ ts = t :: us) ∨
      ∃ ns us, IsNegation ns ∧ EndsNegation us ∧ ts = ns ++ us := by
  induction ts with
  | nil => exact .inl rfl
  | cons t ts ih =>
    refine .inr ?_
    by_cases ht : t.kind = .logicalNot
    · right
      have hone : IsNegation [t] := ⟨List.cons_ne_nil t [], by simpa using ht⟩
      rcases ih with rfl | ⟨u, us, hu, rfl⟩ | ⟨ns, us, hns, hus, rfl⟩
      · exact ⟨[t], [], hone, by simp [EndsNegation], rfl⟩
      · exact ⟨[t], u :: us, hone, by simpa [EndsNegation] using hu, rfl⟩
      · refine ⟨t :: ns, us, ⟨List.cons_ne_nil t ns, ?_⟩, hus, rfl⟩
        simpa [ht] using hns.kind_eq
    · exact .inl ⟨t, ts, ht, rfl⟩

/-- What stands first in a list is told by the first part of its shape. -/
lemma of_shape_eq_cons {k : Kind} {ks : List Kind} (h : shape ts = k :: ks) :
    (k ≠ .logicalNot ∧ ∃ t us, t.kind ≠ .logicalNot ∧ ts = t :: us ∧ t.kind.part = k ∧
        shape us = ks) ∨
      (k = .logicalNot ∧ ∃ ns us, IsNegation ns ∧ EndsNegation us ∧ ts = ns ++ us ∧
        shape us = ks) := by
  rcases exists_first ts with rfl | ⟨t, us, ht, rfl⟩ | ⟨ns, us, hns, hus, rfl⟩
  · cases h
  · rw [shape_cons ht, List.cons.injEq] at h
    obtain ⟨rfl, rfl⟩ := h
    exact .inl ⟨fun hpart => ht (Kind.part_eq_logicalNot_iff.1 hpart), t, us, ht, rfl, rfl, rfl⟩
  · rw [shape_negation hns hus, List.cons.injEq] at h
    obtain ⟨rfl, rfl⟩ := h
    exact .inr ⟨rfl, ns, us, hns, hus, rfl, rfl⟩

lemma sameShape_of_shape_eq {ks : List Kind} (hxs : shape xs = ks) (hys : shape ys = ks) :
    SameShape xs ys := by
  have hnil : ∀ {ts : List Token}, shape ts = [] → ts = [] := by
    intro ts hts
    rcases exists_first ts with rfl | ⟨t, us, ht, rfl⟩ | ⟨ns, us, hns, hus, rfl⟩
    · rfl
    · rw [shape_cons ht] at hts
      cases hts
    · rw [shape_negation hns hus] at hts
      cases hts
  induction ks generalizing xs ys with
  | nil =>
    obtain rfl := hnil hxs
    obtain rfl := hnil hys
    exact .nil
  | cons k ks ih =>
    rcases of_shape_eq_cons hxs with
      ⟨hk, t, ts, ht, rfl, hpart, hts⟩ | ⟨hk, ns, ts, hns, hends, rfl, hts⟩
    · rcases of_shape_eq_cons hys with ⟨-, u, us, -, rfl, hpart', hus⟩ | ⟨hk', -⟩
      · exact .token ht (Kind.standsFor_iff.2 (hpart.trans hpart'.symm)) (ih hts hus)
      · exact absurd hk' hk
    · rcases of_shape_eq_cons hys with ⟨hk', -⟩ | ⟨-, ms, us, hms, hends', rfl, hus⟩
      · exact absurd hk hk'
      · exact .negation hns hms hends hends' (ih hts hus)

/-- Lists have one shape exactly if their tokens play the same parts in the same order. -/
theorem sameShape_iff : SameShape xs ys ↔ shape xs = shape ys := by
  constructor
  · intro h
    induction h with
    | nil => rfl
    | token hnot hkind _ ih =>
      have hnot' := fun h => hnot ((hkind.eq_iff _ rfl rfl).2 h)
      rw [shape_cons hnot, shape_cons hnot', ih, Kind.standsFor_iff.1 hkind]
    | negation hns hms hts hus _ ih => rw [shape_negation hns hts, shape_negation hms hus, ih]
  · intro h
    exact sameShape_of_shape_eq h rfl

instance (xs ys : List Token) : Decidable (SameShape xs ys) := decidable_of_iff _ sameShape_iff.symm

/-! ### Places -/

/-- An index stands inside a run of `!` if one is right before it and one right behind it. -/
def InsideNegation (ts : List Token) (i : Nat) : Prop :=
  ∃ k, i = k + 1 ∧ (ts.map Token.kind)[k]? = some .logicalNot ∧
    (ts.map Token.kind)[i]? = some .logicalNot

/-- Indices of the same place in two lists of one shape: up to them the lists have one shape, from
them on they have one shape, and neither index stands inside a run of `!`. -/
structure SamePlace (xs ys : List Token) (i j : Nat) : Prop where
  before : SameShape (xs.take i) (ys.take j)
  behind : SameShape (xs.drop i) (ys.drop j)
  outside : ¬InsideNegation xs i ∧ ¬InsideNegation ys j

lemma not_insideNegation_zero : ¬InsideNegation ts 0 := by
  rintro ⟨k, hk, -⟩
  cases hk

lemma insideNegation_cons (ht : t.kind ≠ .logicalNot) (h : InsideNegation (t :: ts) (i + 1)) :
    InsideNegation ts i := by
  obtain ⟨k, hk, hbefore, hbehind⟩ := h
  obtain rfl := Nat.succ.inj hk
  cases i with
  | zero => exact absurd (Option.some.inj hbefore) ht
  | succ k => exact ⟨k, rfl, hbefore, hbehind⟩

lemma insideNegation_append (hts : EndsNegation ts)
    (h : InsideNegation (ns ++ ts) (ns.length + i)) : InsideNegation ts i := by
  obtain ⟨k, hk, hbefore, hbehind⟩ := h
  rw [List.map_append, List.getElem?_append_right (by simp), List.length_map,
    Nat.add_sub_cancel_left] at hbehind
  cases i with
  | zero =>
    rw [← List.head?_eq_getElem?, List.head?_map, Option.map_eq_some_iff] at hbehind
    obtain ⟨t, ht, hnot⟩ := hbehind
    exact absurd hnot (hts t ht)
  | succ i =>
    obtain rfl : k = ns.length + i := (Nat.succ.inj hk).symm
    rw [List.map_append, List.getElem?_append_right (by simp), List.length_map,
      Nat.add_sub_cancel_left] at hbefore
    exact ⟨i, rfl, hbefore, hbehind⟩

lemma EndsNegation.take (h : EndsNegation ts) (i : Nat) : EndsNegation (ts.take i) := by
  cases i with
  | zero => simp [EndsNegation]
  | succ i =>
    intro t ht
    rw [List.head?_take, if_neg (Nat.succ_ne_zero i)] at ht
    exact h t ht

namespace SamePlace

lemma start (h : SameShape xs ys) : SamePlace xs ys 0 0 :=
  ⟨.nil, h, not_insideNegation_zero, not_insideNegation_zero⟩

lemma token (ht : t.kind ≠ .logicalNot) (hkind : t.kind.StandsFor u.kind)
    (h : SamePlace ts us i j) : SamePlace (t :: ts) (u :: us) (i + 1) (j + 1) where
  before := .token ht hkind h.before
  behind := h.behind
  outside := by
    have hu : u.kind ≠ .logicalNot := fun hnot => ht ((hkind.eq_iff _ rfl rfl).2 hnot)
    exact ⟨fun hin => h.outside.1 (insideNegation_cons ht hin),
      fun hin => h.outside.2 (insideNegation_cons hu hin)⟩

lemma negation (hns : IsNegation ns) (hms : IsNegation ms) (hts : EndsNegation ts)
    (hus : EndsNegation us) (h : SamePlace ts us i j) :
    SamePlace (ns ++ ts) (ms ++ us) (ns.length + i) (ms.length + j) where
  before := by
    rw [List.take_length_add_append, List.take_length_add_append]
    exact .negation hns hms (hts.take i) (hus.take j) h.before
  behind := by
    rw [List.drop_length_add_append, List.drop_length_add_append]
    exact h.behind
  outside := ⟨fun hin => h.outside.1 (insideNegation_append hts hin),
    fun hin => h.outside.2 (insideNegation_append hus hin)⟩

end SamePlace

end BoolWhile
