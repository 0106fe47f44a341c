import BoolWhile.Proofs.Recognition.Boundary
import BoolWhile.Proofs.Recognition.Concatenation

/-!
# Programs changed at boundaries between statements

What is put in at a boundary of a program is read from there as if it began a program, and behind
it the loop over statements stands where it stood, with more statements if no block is open. What
is cut out between two boundaries in the same block is a program of its own: the loop reads it the
same way without the blocks around it (`ProgramState.Moves.inside`). Neither joins two expressions,
since no program goes on at a boundary with an operator between operands.
-/

namespace BoolWhile

open Grammar Relation

variable {zs ys : List Token} {i j c m before behind blocks b : Nat}

namespace ProgramState

variable {s t : ProgramState} {ks : List Kind} {n : Nat}

/-- From a place on, the same statements are counted whatever was counted before. -/
lemma exists_run_eq (h : (⟨n, blocks, ks⟩ : ProgramState).run = .ok c) :
    ∃ more, ∀ n, (⟨n, blocks, ks⟩ : ProgramState).run = .ok (n + more) := by
  have hadd (n : Nat) : (⟨n, blocks, ks⟩ : ProgramState).run =
      (⟨0, blocks, ks⟩ : ProgramState).run.map (n + ·) := by
    rw [← Progress.run_between, ← Progress.run_between, ← Progress.run_after]
    rfl
  cases hrun : (⟨0, blocks, ks⟩ : ProgramState).run with
  | error place =>
    rw [hadd, hrun] at h
    cases h
  | ok more =>
    refine ⟨more, fun n => ?_⟩
    rw [hadd, hrun]
    rfl

/-- A program at a boundary is gone over, and counts if no block is open. -/
lemma run_program (hys : countStatements ys = .ok m) (hks : EndsExpression ks)
    (statements blocks : Nat) :
    (⟨statements, blocks, ys.map Token.kind ++ ks⟩ : ProgramState).run =
      (⟨statements + if blocks = 0 then m else 0, blocks, ks⟩ : ProgramState).run := by
  obtain ⟨p, rfl, rfl⟩ := exists_tokens_eq hys
  rw [run_statements p statements blocks hks]
  split_ifs <;> rfl

/-- What a round does between open blocks, it does without the blocks that it leaves open, but for
the statements that it counts. -/
lemma Moves.inside (h : Moves s t) (hs : b ≤ s.blocks) (ht : b ≤ t.blocks) (n : Nat) :
    ∃ m, Moves ⟨n, s.blocks - b, s.rest⟩ ⟨m, t.blocks - b, t.rest⟩ := by
  cases h with
  | closeBlock statements blocks ks =>
    refine ⟨n, ?_⟩
    rw [Nat.succ_sub ht]
    exact .closeBlock n (blocks - b) ks
  | loop statements blocks header ks =>
    refine ⟨if blocks - b = 0 then n + 1 else n, ?_⟩
    rw [Nat.succ_sub hs]
    exact .loop n (blocks - b) header ks
  | expression statements blocks e hks => exact ⟨_, .expression n (blocks - b) e hks⟩

lemma exists_moves_inside (h : ReflTransGen Moves s t)
    (hb : ∀ u, ReflTransGen Moves s u → ReflTransGen Moves u t → b ≤ u.blocks) (n : Nat) :
    ∃ m, ReflTransGen Moves ⟨n, s.blocks - b, s.rest⟩ ⟨m, t.blocks - b, t.rest⟩ := by
  induction h using ReflTransGen.head_induction_on generalizing n with
  | refl => exact ⟨n, .refl⟩
  | @head s u hfirst hmore ih =>
    have hs := hb s .refl (.head hfirst hmore)
    have hu := hb u (.single hfirst) hmore
    obtain ⟨m, hm⟩ := hfirst.inside hs hu n
    obtain ⟨m', hm'⟩ := ih (fun v hv => hb v (.head hfirst hv)) m
    exact ⟨m', .head hm hm'⟩

end ProgramState

open ProgramState

/-- Between two boundaries with as many open blocks, none of these blocks is closed. -/
structure IsStretch (tokens : List Token) (i j before behind blocks : Nat) : Prop where
  le : i ≤ j
  first : Passes tokens i before blocks
  last : Passes tokens j behind blocks
  within : ∀ k n b, i ≤ k → k ≤ j → Passes tokens k n b → blocks ≤ b

namespace IsStretch

lemma moves (h : IsStretch zs i j before behind blocks) :
    ReflTransGen Moves ⟨before, blocks, (zs.drop i).map Token.kind⟩
      ⟨behind, blocks, (zs.drop j).map Token.kind⟩ :=
  h.first.moves_to h.last h.le

/-- Between the ends of a stretch, the loop does not leave the blocks around it. -/
lemma le_blocks (h : IsStretch zs i j before behind blocks) {u : ProgramState}
    (hfrom : ReflTransGen Moves ⟨before, blocks, (zs.drop i).map Token.kind⟩ u)
    (hto : ReflTransGen Moves u ⟨behind, blocks, (zs.drop j).map Token.kind⟩) :
    blocks ≤ u.blocks := by
  obtain ⟨k, hrest, hk⟩ := Passes.of_moves (h.first.moves.trans hfrom)
  have hle := length_rest_le hfrom
  have hle' := length_rest_le hto
  have := hk.le_length
  have := h.first.le_length
  have := h.last.le_length
  simp only [hrest, List.length_map, List.length_drop] at hle hle'
  exact h.within k _ _ (by omega) (by omega) hk

/-- A stretch of a program is a program. -/
theorem exists_countStatements (h : IsStretch zs i j before behind blocks) :
    ∃ m, countStatements (zs.extract i j) = .ok m := by
  -- Without the blocks around it the stretch starts like a program, and at its end it ends one.
  obtain ⟨m, hm⟩ := exists_moves_inside h.moves (fun _ => h.le_blocks) 0
  rw [Nat.sub_self] at hm
  have hsplit : (zs.drop i).map Token.kind =
      (zs.extract i j).map Token.kind ++ (zs.drop j).map Token.kind := by
    rw [← List.map_append, extract_append_drop h.le]
  have hrun := run_of_moves (moves_append hm hsplit endsExpression_nil)
  rw [List.append_nil, run_nil] at hrun
  exact ⟨m, countStatements_eq_ok_iff.2 hrun⟩

/-- The statements of a stretch are counted if no block is open around it. -/
lemma behind_eq (h : IsStretch zs i j before behind blocks) (hzs : countStatements zs = .ok c)
    (hm : countStatements (zs.extract i j) = .ok m) :
    behind = before + if blocks = 0 then m else 0 := by
  have hdrop := h.last.run_drop hzs
  have hprogram := run_program hm (endsExpression_of_run hdrop) before blocks
  rw [← List.map_append, extract_append_drop h.le, run_of_moves h.moves] at hprogram
  obtain ⟨more, hmore⟩ := exists_run_eq hdrop
  rw [hmore, hmore] at hprogram
  exact Nat.add_right_cancel (Except.ok.inj hprogram)

end IsStretch

/-- A program is put in at a boundary of another one. -/
lemma countStatements_insert (hzs : countStatements zs = .ok c) (hi : Passes zs i before blocks)
    (hys : countStatements ys = .ok m) :
    countStatements (zs.take i ++ ys ++ zs.drop i) =
      .ok (c + if blocks = 0 then m else 0) := by
  have hdrop := hi.run_drop hzs
  have hends := endsExpression_of_run hdrop
  obtain ⟨more, hmore⟩ := exists_run_eq hdrop
  obtain rfl : before + more = c := Except.ok.inj ((hmore before).symm.trans hdrop)
  have hread := hi.run_take_append
    (endsExpression_of_run ((run_program hys hends before blocks).trans (hmore _)))
  rw [run_program hys hends, hmore, Nat.add_right_comm] at hread
  rw [countStatements_eq_ok_iff, List.map_append, List.map_append, List.append_assoc]
  exact hread

/-- A stretch is cut out of a program. -/
lemma countStatements_cut (hzs : countStatements zs = .ok c)
    (h : IsStretch zs i j before behind blocks) :
    ∃ n m, countStatements (zs.take i ++ zs.drop j) = .ok n ∧
      countStatements (zs.extract i j) = .ok m ∧
      behind = before + (if blocks = 0 then m else 0) ∧ c = n + if blocks = 0 then m else 0 := by
  have hdrop := h.last.run_drop hzs
  obtain ⟨more, hmore⟩ := exists_run_eq hdrop
  obtain ⟨m, hm⟩ := h.exists_countStatements
  have hbehind := h.behind_eq hzs hm
  refine ⟨before + more, m, ?_, hm, hbehind, ?_⟩
  · rw [countStatements_eq_ok_iff, List.map_append,
      h.first.run_take_append (endsExpression_of_run hdrop), hmore]
  · have hc : behind + more = c := Except.ok.inj ((hmore behind).symm.trans hdrop)
    rw [← hc, hbehind, Nat.add_right_comm]

/-- A program with another one put in at a boundary is a program, with the statements of both
unless a block is open there. A stretch of a program is a program, and so is what is left without
it, which loses the statements of the stretch unless a block is open around them. -/
theorem countStatements_edit (zs : List Token) (c : Nat) (hzs : countStatements zs = .ok c) :
    (∀ i before blocks, Passes zs i before blocks → ∀ ys m, countStatements ys = .ok m →
        countStatements (zs.take i ++ ys ++ zs.drop i) =
          .ok (if blocks = 0 then c + m else c)) ∧
      ∀ i j before behind blocks, IsStretch zs i j before behind blocks →
        ∃ n m, countStatements (zs.take i ++ zs.drop j) = .ok n ∧
          countStatements (zs.extract i j) = .ok m ∧
          behind = before + (if blocks = 0 then m else 0) ∧
          c = n + if blocks = 0 then m else 0 := by
  constructor
  · intro i before blocks hi ys m hys
    rw [countStatements_insert hzs hi hys]
    split_ifs <;> rfl
  · intro i j before behind blocks h
    exact countStatements_cut hzs h

/-- Two expressions are put into a block and behind it, and the first of the block is cut out. -/
theorem countStatements_edit_block :
    let zs := readTokens .anywhere unnamed "while (a) { b c } d"
    let ys := readTokens .anywhere unnamed "e f"
    countStatements zs = .ok 2 ∧ countStatements ys = .ok 2 ∧
      Passes zs 6 1 1 ∧ countStatements (zs.take 6 ++ ys ++ zs.drop 6) = .ok 2 ∧
      Passes zs 8 1 0 ∧ countStatements (zs.take 8 ++ ys ++ zs.drop 8) = .ok 4 ∧
      IsStretch zs 5 6 1 1 1 ∧ countStatements (zs.take 5 ++ zs.drop 6) = .ok 2 := by
  intro zs ys
  have hzs : countStatements zs = .ok 2 := by decide +kernel
  have hys : countStatements ys = .ok 2 := by decide +kernel
  have hloop : (ProgramState.start (zs.map Token.kind)).step =
      .next ⟨1, 1, (zs.drop 5).map Token.kind⟩ := by decide +kernel
  have hb : (⟨1, 1, (zs.drop 5).map Token.kind⟩ : ProgramState).step =
      .next ⟨1, 1, (zs.drop 6).map Token.kind⟩ := by decide +kernel
  have hc : (⟨1, 1, (zs.drop 6).map Token.kind⟩ : ProgramState).step =
      .next ⟨1, 1, (zs.drop 7).map Token.kind⟩ := by decide +kernel
  have hclose : (⟨1, 1, (zs.drop 7).map Token.kind⟩ : ProgramState).step =
      .next ⟨1, 0, (zs.drop 8).map Token.kind⟩ := by decide +kernel
  have hfive : Passes zs 5 1 1 := ⟨by decide +kernel, .single hloop⟩
  have hsix : Passes zs 6 1 1 := ⟨by decide +kernel, hfive.reached.tail hb⟩
  have height : Passes zs 8 1 0 :=
    ⟨by decide +kernel, (hsix.reached.tail hc).tail hclose⟩
  have hstretch : IsStretch zs 5 6 1 1 1 := by
    refine ⟨by decide, hfive, hsix, ?_⟩
    intro k n b hle hle' hk
    obtain rfl | rfl : k = 5 ∨ k = 6 := by omega
    · exact (hfive.unique hk).2.le
    · exact (hsix.unique hk).2.le
  have hedit := countStatements_edit zs 2 hzs
  obtain ⟨n, m, hcut, -, -, hn⟩ := hedit.2 5 6 1 1 1 hstretch
  obtain rfl : 2 = n := hn
  exact ⟨hzs, hys, hsix, hedit.1 6 1 1 hsix ys 2 hys, height, hedit.1 8 1 0 height ys 2 hys,
    hstretch, hcut⟩

end BoolWhile
