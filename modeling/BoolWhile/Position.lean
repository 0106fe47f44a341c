/-!
# Positions in a text

A position counts the characters before it and gives its line and column, which begin at one. It
is moved over a whole lexeme at a time. Where a lexeme ends lines, the column behind it is counted
from the last of its line feeds, so moving over a text does not depend on how the text is cut into
pieces (`advance_append`).
-/

namespace BoolWhile

/-- The index of the last line feed of a text, or -1 if there is none. -/
def lastLineFeed (cs : List Char) : Int := cs.length - 1 - cs.reverse.idxOf '\n'

theorem lastLineFeed_lt (cs : List Char) : lastLineFeed cs < cs.length := by
  unfold lastLineFeed
  omega

theorem lastLineFeed_of_not_mem {cs : List Char} (h : '\n' ∉ cs) : lastLineFeed cs = -1 := by
  have hreverse : '\n' ∉ cs.reverse := by rwa [List.mem_reverse]
  rw [lastLineFeed, List.idxOf_eq_length hreverse, List.length_reverse]
  omega

theorem lastLineFeed_append (cs ds : List Char) :
    lastLineFeed (cs ++ ds) =
      if '\n' ∈ ds then cs.length + lastLineFeed ds else lastLineFeed cs := by
  unfold lastLineFeed
  rw [List.reverse_append, List.idxOf_append, List.length_append, List.length_reverse]
  simp only [List.mem_reverse]
  split <;> omega

/-- The last line feed is the one with no other behind it. -/
theorem lastLineFeed_append_cons (cs : List Char) {ds : List Char} (h : '\n' ∉ ds) :
    lastLineFeed (cs ++ '\n' :: ds) = cs.length := by
  have hcons : lastLineFeed ('\n' :: ds) = 0 := by
    rw [← List.singleton_append, lastLineFeed_append, if_neg h]
    rfl
  rw [lastLineFeed_append, if_pos List.mem_cons_self, hcons, Int.add_zero]

/-- A place between two characters of a text. -/
structure Position where
  offset : Nat
  line : Nat
  column : Nat
  deriving DecidableEq, Repr

namespace Position

/-- The place before the first character. -/
def start : Position := ⟨0, 1, 1⟩

/-- The place after more characters. Only a line feed begins a line. -/
def advance (p : Position) (cs : List Char) : Position :=
  let lineFeeds := cs.count '\n'
  if lineFeeds = 0 then ⟨p.offset + cs.length, p.line, p.column + cs.length⟩
  else ⟨p.offset + cs.length, p.line + lineFeeds, (cs.length - lastLineFeed cs).toNat⟩

@[simp] theorem advance_nil (p : Position) : p.advance [] = p := rfl

@[simp] theorem offset_advance (p : Position) (cs : List Char) :
    (p.advance cs).offset = p.offset + cs.length := by
  unfold advance
  dsimp only
  split <;> rfl

theorem advance_of_not_mem (p : Position) {cs : List Char} (h : '\n' ∉ cs) :
    p.advance cs = ⟨p.offset + cs.length, p.line, p.column + cs.length⟩ :=
  if_pos (List.count_eq_zero.2 h)

theorem advance_of_mem (p : Position) {cs : List Char} (h : '\n' ∈ cs) :
    p.advance cs =
      ⟨p.offset + cs.length, p.line + cs.count '\n', (cs.length - lastLineFeed cs).toNat⟩ :=
  if_neg fun hzero => List.count_eq_zero.1 hzero h

@[simp] theorem line_advance (p : Position) (cs : List Char) :
    (p.advance cs).line = p.line + cs.count '\n' := by
  by_cases h : '\n' ∈ cs
  · rw [advance_of_mem p h]
  · rw [advance_of_not_mem p h, List.count_eq_zero.2 h, Nat.add_zero]

@[simp] theorem advance_append (p : Position) (cs ds : List Char) :
    p.advance (cs ++ ds) = (p.advance cs).advance ds := by
  by_cases hds : '\n' ∈ ds
  · have happend : '\n' ∈ cs ++ ds := List.mem_append_right cs hds
    rw [advance_of_mem p happend, advance_of_mem _ hds, lastLineFeed_append, if_pos hds]
    simp only [offset_advance, line_advance, List.length_append, List.count_append, mk.injEq]
    omega
  · rw [advance_of_not_mem _ hds]
    by_cases hcs : '\n' ∈ cs
    · have happend : '\n' ∈ cs ++ ds := List.mem_append_left ds hcs
      have hlt := lastLineFeed_lt cs
      rw [advance_of_mem p happend, advance_of_mem p hcs, lastLineFeed_append, if_neg hds]
      simp only [List.length_append, List.count_append, List.count_eq_zero.2 hds, mk.injEq]
      omega
    · have happend : '\n' ∉ cs ++ ds := by simp [hcs, hds]
      rw [advance_of_not_mem p happend, advance_of_not_mem p hcs]
      simp [Nat.add_assoc]

/-- Where a text ends that begins a file. -/
theorem start_advance (cs : List Char) :
    start.advance cs = ⟨cs.length, 1 + cs.count '\n', (cs.length - lastLineFeed cs).toNat⟩ := by
  by_cases h : '\n' ∈ cs
  · rw [advance_of_mem start h, start, Nat.zero_add]
  · rw [advance_of_not_mem start h, List.count_eq_zero.2 h, lastLineFeed_of_not_mem h, start]
    simp
    omega

end Position

end BoolWhile
