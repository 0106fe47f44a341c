import BoolWhile.Proofs.Command.SingleFile
import BoolWhile.Proofs.Tokens.LineEnds

/-!
# Files whose lines end differently

Two readers that give the same errors, and otherwise files that read alike, are told apart by
nothing that is read through them (`Reader.SameLines.read_eq`), and by no run of the command. Files
read alike if they hold the same text with other line ends, for these are unified
(`lineEnds_alike`).
-/

namespace BoolWhile

/-! ### Bytes -/

/-- Two files hold the same, but for the line ends of a text without carriage returns. -/
inductive SameLines : ByteArray → ByteArray → Prop
  | refl (content : ByteArray) : SameLines content content
  | lineEnds {source : String} (h : '\r' ∉ source.toList) (lineEnd other : LineEnd) :
    SameLines (withLineEnds lineEnd source).toUTF8 (withLineEnds other source).toUTF8

variable {content other : ByteArray} {source : String}

/-- A file is read with line feeds, however its lines end. -/
lemma readBytes_withLineEnds (lineEnd : LineEnd) (h : '\r' ∉ source.toList) :
    readBytes (withLineEnds lineEnd source).toUTF8 = .ok source := by
  rw [readBytes, Text.Utf8.decode_toUTF8]
  dsimp only
  rw [withLineEnds, String.toList_ofList, unifyLineEnds_endLines lineEnd h, String.ofList_toList]

lemma SameLines.readBytes_eq (h : SameLines content other) :
    readBytes content = readBytes other := by
  cases h with
  | refl => rfl
  | lineEnds h lineEnd other =>
    rw [readBytes_withLineEnds lineEnd h, readBytes_withLineEnds other h]

/-! ### Readers -/

/-- The system gives the same error, or files of the same lines. -/
inductive Contents.SameLines : Contents → Contents → Prop
  | bytes {content other : ByteArray} (h : BoolWhile.SameLines content other) :
    SameLines (.ok content) (.ok other)
  | fault (fault : SystemFault) : SameLines (.error fault) (.error fault)

lemma Contents.SameLines.text_eq {a b : Contents} (h : a.SameLines b) : a.text = b.text := by
  cases h with
  | bytes h => exact h.readBytes_eq
  | fault fault => rfl

lemma Contents.map_text_eq {standard standard' : List Contents}
    (h : List.Forall₂ SameLines standard standard') :
    standard.map text = standard'.map text := by
  induction h with
  | nil => rfl
  | cons hcontents _ ih => rw [List.map_cons, List.map_cons, hcontents.text_eq, ih]

namespace Reader

/-- Two readers that tell apart files by their line ends at most. -/
def SameLines (reader other : Reader) : Prop := ∀ path, (reader path).SameLines (other path)

/-- There is a file at a path, and it holds some bytes. -/
structure Holds (reader : Reader) (path : String) (content : ByteArray) : Prop where
  noNull : holdsNull path = false
  found : reader path = .ok content

variable {reader other : Reader}

lemma Holds.read_eq {path : String} {content : ByteArray} (h : reader.Holds path content) :
    reader.read path = readBytes content := by
  rw [read, h.noNull, if_neg Bool.false_ne_true, h.found]
  rfl

/-- What is read under a path does not depend on how the lines of files end. -/
theorem SameLines.read_eq (h : reader.SameLines other) (path : String) :
    reader.read path = other.read path := by
  rw [read, read, (h path).text_eq]

end Reader

/-! ### Line ends of texts and files -/

/-- If the lines of a text end with pairs, its tokens stand on the same lines and columns, only
behind more characters. A file with such a text is read as if its lines ended with line feeds, and
so is one whose lines end with carriage returns: how the lines of files end changes neither what
is read from them nor anything about a run. -/
theorem lineEnds_alike :
    (∀ rule filename source, readTokens rule filename (withLineEnds .pair source) =
      (readTokens rule filename source).map (Token.behindPairs source.toList)) ∧
    (∀ (source : String) (lineEnd : LineEnd), '\r' ∉ source.toList →
      ∀ (reader : Reader) (path : String),
        reader.Holds path (withLineEnds lineEnd source).toUTF8 → ∀ rule,
          reader.readTokens rule path = .ok (readTokens rule path source) ∧
            reader.countStatements rule path =
              (countStatementsOfText rule path source).mapError .rejected) ∧
    ∀ reader other : Reader, reader.SameLines other →
      (∀ rule path, reader.readTokens rule path = other.readTokens rule path ∧
        reader.countStatements rule path = other.countStatements rule path) ∧
      ∀ standard standard', List.Forall₂ Contents.SameLines standard standard' → ∀ arguments,
        run reader standard arguments = run other standard' arguments := by
  refine ⟨readTokens_endLines_pair, ?_, ?_⟩
  · intro source lineEnd hsource reader path hholds rule
    have hread : reader.read path = .ok source :=
      hholds.read_eq.trans (readBytes_withLineEnds lineEnd hsource)
    exact ⟨Reader.readTokens_of_ok hread, Reader.countStatements_of_ok hread⟩
  · intro reader other h
    constructor
    · intro rule path
      have htokens : reader.readTokens rule path = other.readTokens rule path := by
        rw [Reader.readTokens, Reader.readTokens, h.read_eq]
      rw [Reader.countStatements, Reader.countStatements, htokens]
      exact ⟨rfl, rfl⟩
    · intro standard standard' hstandard arguments
      exact run_congr (fun path _ => h.read_eq path) (Contents.map_text_eq hstandard)

/-- Two lines whose ends are pairs in one file and carriage returns in another, and whose ends are
line feeds on one standard input and pairs on another. -/
theorem lineEnds_alike_two_lines :
    let reader : Reader := .among [("/a", .ok (withLineEnds .pair "x\ny").toUTF8)]
    let other : Reader := .among [("/a", .ok (withLineEnds .carriageReturn "x\ny").toUTF8)]
    let standard : List Contents := [.ok (withLineEnds .lineFeed "x\ny").toUTF8]
    let standard' : List Contents := [.ok (withLineEnds .pair "x\ny").toUTF8]
    '\r' ∉ "x\ny".toList ∧ reader.Holds "/a" (withLineEnds .pair "x\ny").toUTF8 ∧
      reader.readTokens .anywhere "/a" = .ok (readTokens .anywhere "/a" "x\ny") ∧
      reader.SameLines other ∧ List.Forall₂ Contents.SameLines standard standard' ∧
      run reader standard ["--tokens", "/a", "-"] =
        run other standard' ["--tokens", "/a", "-"] := by
  intro reader other standard standard'
  have hreturn : '\r' ∉ "x\ny".toList := by decide
  have hholds : reader.Holds "/a" (withLineEnds .pair "x\ny").toUTF8 := ⟨by decide, rfl⟩
  have hreaders : reader.SameLines other := by
    intro path
    by_cases hpath : path = "/a"
    · subst hpath
      exact .bytes (.lineEnds hreturn .pair .carriageReturn)
    · have hne : (path == "/a") = false := by simpa using hpath
      simp only [reader, other, Reader.among, List.lookup_cons, List.lookup_nil, hne]
      exact .fault _
  have hstandard : List.Forall₂ Contents.SameLines standard standard' :=
    .cons (.bytes (.lineEnds hreturn .lineFeed .pair)) .nil
  exact ⟨hreturn, hholds,
    (lineEnds_alike.2.1 "x\ny" .pair hreturn reader "/a" hholds .anywhere).1, hreaders, hstandard,
    (lineEnds_alike.2.2 reader other hreaders).2 standard standard' hstandard _⟩

end BoolWhile
