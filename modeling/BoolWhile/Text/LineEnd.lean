/-!
# Line ends of a file

A file may end its lines with a line feed, a carriage return, or both. Reading one leaves line
feeds only, so that the rest of the library knows a single line end.
-/

namespace BoolWhile

namespace Text

/-- Puts the line feed for every line end, behind the characters already `done` in reverse. -/
def unifyLineEndsOnto (done : List Char) : List Char → List Char
  | [] => done.reverse
  | '\r' :: '\n' :: cs => unifyLineEndsOnto ('\n' :: done) cs
  | c :: cs => unifyLineEndsOnto ((if c = '\r' then '\n' else c) :: done) cs

/-- Puts the line feed for every line end: a carriage return and a line feed together are one. -/
def unifyLineEnds (cs : List Char) : List Char := unifyLineEndsOnto [] cs

theorem unifyLineEndsOnto_append (done early cs : List Char) :
    unifyLineEndsOnto (done ++ early) cs = early.reverse ++ unifyLineEndsOnto done cs := by
  fun_induction unifyLineEndsOnto done cs with
  | case1 done => simp [unifyLineEndsOnto]
  | case2 done cs ih => simpa [unifyLineEndsOnto] using ih
  | case3 done c cs hne ih =>
    rw [unifyLineEndsOnto.eq_3 _ _ _ hne]
    simpa using ih

theorem unifyLineEndsOnto_eq (done cs : List Char) :
    unifyLineEndsOnto done cs = done.reverse ++ unifyLineEnds cs :=
  unifyLineEndsOnto_append [] done cs

@[simp] theorem unifyLineEnds_pair (cs : List Char) :
    unifyLineEnds ('\r' :: '\n' :: cs) = '\n' :: unifyLineEnds cs :=
  unifyLineEndsOnto_eq ['\n'] cs

theorem unifyLineEnds_cons {c : Char} {cs : List Char} (h : c ≠ '\r' ∨ cs.head? ≠ some '\n') :
    unifyLineEnds (c :: cs) = (if c = '\r' then '\n' else c) :: unifyLineEnds cs := by
  rw [unifyLineEnds, unifyLineEndsOnto.eq_3, unifyLineEndsOnto_eq]
  · rfl
  · rintro cs rfl rfl
    simp at h

end Text

end BoolWhile
