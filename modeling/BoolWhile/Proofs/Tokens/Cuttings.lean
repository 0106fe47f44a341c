import BoolWhile.Session
import Mathlib.Tactic.Common

/-!
# However a text is cut

A session that moves over parts of a text comes to the same place wherever the cuts are: inside of
a line, between the characters that end one, or next to each other with nothing between them. The
place depends on the whole text only, and a reading ends there too (`Session.advance_over_parts`).
-/

namespace BoolWhile

/-! ### Last line feeds -/

/-- The index of the last line feed of a text, which has no other behind it. It is -1 if there is
none. -/
inductive LastLineFeedAt : (text : List Char) → Int → Prop
  | nowhere {text : List Char} (h : '\n' ∉ text) : LastLineFeedAt text (-1)
  | behind (before : List Char) {after : List Char} (h : '\n' ∉ after) :
    LastLineFeedAt (before ++ '\n' :: after) before.length

section

variable {text : List Char} {i : Int}

lemma LastLineFeedAt.eq_lastLineFeed (h : LastLineFeedAt text i) : i = lastLineFeed text := by
  cases h with
  | nowhere h => exact (lastLineFeed_of_not_mem h).symm
  | behind before h => exact (lastLineFeed_append_cons before h).symm

lemma lastLineFeedAt_lastLineFeed (text : List Char) : LastLineFeedAt text (lastLineFeed text) := by
  by_cases h : '\n' ∈ text
  · -- The last line feed is the first one from the other end.
    obtain ⟨after, before, hreverse, hlast⟩ := List.eq_append_cons_of_mem (List.mem_reverse.2 h)
    have htext : text = before.reverse ++ '\n' :: after.reverse := by
      rw [← text.reverse_reverse, hreverse]
      simp
    have hafter : '\n' ∉ after.reverse := by rwa [List.mem_reverse]
    rw [htext, lastLineFeed_append_cons _ hafter]
    exact .behind _ hafter
  · rw [lastLineFeed_of_not_mem h]
    exact .nowhere h

/-- There is one such index, the one that `lastLineFeed` computes. -/
theorem lastLineFeedAt_iff : LastLineFeedAt text i ↔ i = lastLineFeed text :=
  ⟨LastLineFeedAt.eq_lastLineFeed, fun h => h ▸ lastLineFeedAt_lastLineFeed text⟩

end

/-! ### Ends of texts -/

/-- A position is the end of a text that begins a file. Its column is counted from the last line
feed, or from the beginning of the file. -/
structure Position.EndOf (p : Position) (text : List Char) : Prop where
  offset : p.offset = text.length
  line : p.line = 1 + text.count '\n'
  column : ∃ i, LastLineFeedAt text i ∧ (p.column : Int) = text.length - i

/-- A text has one end: the place that moving over all of it comes to. -/
theorem Position.endOf_iff {p : Position} {text : List Char} :
    p.EndOf text ↔ p = Position.start.advance text := by
  have hlt := lastLineFeed_lt text
  rw [Position.start_advance]
  constructor
  · rintro ⟨hoffset, hline, i, hi, hcolumn⟩
    rw [lastLineFeedAt_iff.1 hi] at hcolumn
    have hcolumn' : p.column = (text.length - lastLineFeed text).toNat := by omega
    rw [← hcolumn', ← hline, ← hoffset]
  · rintro rfl
    exact ⟨rfl, rfl, lastLineFeed text, lastLineFeedAt_iff.2 rfl, Int.toNat_of_nonneg (by omega)⟩

namespace Session

/-! ### Moving on -/

lemma advance_advance (s : Session) (a b : String) :
    (s.advance a).advance b = s.advance (a ++ b) := by
  simp [advance, String.toList_append]

/-- Moving over parts one by one is moving over all of them at once. -/
theorem run_advances (s : Session) (parts : List String) :
    s.run (parts.map .advance) = s.advance (String.join parts) := by
  induction parts generalizing s with
  | nil => rfl
  | cons part parts ih =>
    calc s.run ((part :: parts).map .advance)
        = (s.advance part).run (parts.map .advance) := rfl
      _ = (s.advance part).advance (String.join parts) := ih _
      _ = s.advance (String.join (part :: parts)) := by
        rw [advance_advance, String.join_cons]

/-- Where a session comes to does not depend on how a text is cut. Moving over two texts in a row is
moving over both together, from any position. Moving over the parts of its own text, the session
comes from the beginning to the end of the text, where a reading ends too, and nothing else in it
changes. -/
theorem advance_over_parts (s : Session) :
    (∀ a b : String, (s.advance a).advance b = s.advance (a ++ b)) ∧
      ∀ parts : List String, String.join parts = s.source →
        ∃ p : Position, p.EndOf s.source.toList ∧ s.read.position = p ∧
          { s with position := ⟨0, 1, 1⟩ }.run (parts.map .advance) = { s with position := p } := by
  refine ⟨s.advance_advance, fun parts hparts => ?_⟩
  refine ⟨endOfText s.source, Position.endOf_iff.2 rfl, rfl, ?_⟩
  rw [run_advances, hparts]
  rfl

/-- The cuts are between the characters that end a line, inside of a keyword and around nothing,
and the session has been used for reading before. -/
theorem advance_over_parts_pair :
    let s := (start .anywhere unnamed "a\r\n\nif").read
    let parts := ["a\r", "", "\n\ni", "f"]
    String.join parts = s.source ∧
      { s with position := ⟨0, 1, 1⟩ }.run (parts.map .advance) =
        { s with position := ⟨6, 3, 3⟩ } := by
  intro s parts
  have hparts : String.join parts = s.source := by decide +kernel
  have hend : s.read.position = ⟨6, 3, 3⟩ := by decide +kernel
  obtain ⟨p, -, hp, hrun⟩ := (advance_over_parts s).2 parts hparts
  rw [← hp, hend] at hrun
  exact ⟨hparts, hrun⟩

end Session

end BoolWhile
