import BoolWhile.Proofs.Command.Run
import Mathlib.Data.List.Forall2

/-!
# One verdict in all formats

What a run finds about a file is shown as lines for a reader or as a record, and with its tokens or
without them. Neither choice touches the exit code and the error output. The formats are put
together from the same shares, one for each file, and a share says the same in its lines and in its
record.
-/

namespace BoolWhile

/-! ### Fields of records -/

namespace Json

/-- The value of a field; only objects have fields. -/
def field? (name : String) : Json → Option Json
  | obj fields => fields.lookup name
  | _ => none

/-- A record says of a file that it is a program, with so many statements and with statistics. -/
structure IsProgram (record : Json) (statements : Nat) (statistics : Statistics) : Prop where
  valid : record.field? "valid" = some (.bool true)
  statements : record.field? "statements" = some (.int statements)
  statistics : record.field? "statistics" = some statistics.toJson

/-- A record says of a file that it is rejected with an error. -/
structure IsRejection (record : Json) (e : SyntaxError) : Prop where
  valid : record.field? "valid" = some (.bool false)
  error : ∃ error, record.field? "error" = some error ∧
    error.field? "code" = some (.ofText? e.diagnostic.code) ∧
    error.field? "message" = some (.str e.diagnostic.message) ∧
    error.field? "expected" = some (.str e.expected) ∧
    error.field? "found" = some (.ofText? (e.token.map Token.lexeme)) ∧
    (error.field? "found" = some .null ↔ e.diagnostic.code = some "P010")

end Json

/-! ### Shares -/

/-- What one file adds to the output of a run, in any format. -/
structure Share where
  /-- The lines that list the tokens. -/
  tokens : String
  /-- The lines that give the verdict. -/
  verdict : String
  /-- The record, with the tokens or without them. -/
  record : Bool → Json

/-- The output of a run in a format. -/
def Share.printed (format : OutputFormat) (shares : List Share) : String :=
  if format.asJson then
    (Json.arr (shares.map fun share => share.record format.showTokens)).text ++ "\n"
  else
    String.join
      (shares.map fun share => (if format.showTokens then share.tokens else "") ++ share.verdict)

/-- The line that tells that a file is a program. -/
def programLine (name : String) (statements : Nat) : String :=
  name ++ ": the program is valid (" ++ toString statements ++ " statement(s)).\n"

/-- The line that tells that a file is no program. -/
def rejectionLine (name : String) : String := name ++ ": the program is NOT valid.\n"

/-- A share says what its file comes to, and its lines and its record say the same. -/
structure Share.Describes (share : Share) (rule : KeywordRule) (input : Input) : Prop where
  /-- The record names the file. -/
  file : ∀ b, (share.record b).field? "file" = some (.str input.name)
  /-- There is one line for each token. -/
  tokens : ∀ source, input.content = .ok source →
    share.tokens = String.join
      ((readTokens rule input.name source).map fun t => s!"{t.location.display}: {t.display}\n")
  /-- The lines tell of a program with a report exactly if the record does. -/
  program : ∀ b n rest, share.verdict = programLine input.name n ++ rest ↔
    ∃ statistics, rest = statistics.report ++ "\n" ∧ (share.record b).IsProgram n statistics
  /-- The record tells what is found in a program. -/
  accepted : ∀ b source n, input.content = .ok source →
    countStatementsOfText rule input.name source = .ok n →
    (share.record b).IsProgram n (.ofTokens (readTokens rule input.name source))
  /-- The lines and the record tell why a text is no program. -/
  rejected : ∀ b source e, input.content = .ok source →
    countStatementsOfText rule input.name source = .error e →
    share.verdict = rejectionLine input.name ++ e.text ∧ (share.record b).IsRejection e
  /-- There are no lines about a file that cannot be read. -/
  unreadable : ∀ b fault, input.content = .error fault →
    share.tokens = "" ∧ share.verdict = "" ∧
      (share.record b).field? "valid" = some (.bool false)

/-- What a result adds to the output of a run. -/
def Result.share : Result → Share
  | checked verdict => ⟨verdict.tokenText, verdict.verdictText, verdict.record⟩
  | unreadable name message =>
    ⟨"", "", fun b => (unreadable name message).record { showTokens := b }⟩

namespace Result

variable {format : OutputFormat}

lemma record_share (result : Result) :
    result.share.record format.showTokens = result.record format := by
  cases result <;> rfl

/-- A share is printed without its record, unless records are asked for. -/
lemma printed_share (h : format.asJson = false) (result : Result) :
    (if format.showTokens then result.share.tokens else "") ++ result.share.verdict =
      result.printed format := by
  cases result with
  | checked verdict => simp [share, printed, Verdict.printed, h]
  | unreadable name message => simp [share, printed]

end Result

/-- The output of a run is made of the shares of its results. -/
lemma Output.printed_ofResults (format : OutputFormat) (results : List Result) :
    (ofResults format results).printed = Share.printed format (results.map Result.share) := by
  unfold ofResults Share.printed
  cases hjson : format.asJson with
  | true => simp [Result.record_share, Function.comp_def]
  | false => simp [Result.printed_share hjson, Function.comp_def]

/-! ### Lines -/

/-- A number ends where no digit follows. -/
lemma eq_of_toDigits_append {m n : Nat} {c : Char} {cs ds : List Char} (hc : c.isDigit = false)
    (h : Nat.toDigits 10 m ++ c :: cs = Nat.toDigits 10 n ++ c :: ds) : m = n ∧ cs = ds := by
  have htake : ∀ (k : Nat) (rest : List Char),
      (Nat.toDigits 10 k ++ c :: rest).takeWhile Char.isDigit = Nat.toDigits 10 k := by
    intro k rest
    have hdigits : ∀ d ∈ Nat.toDigits 10 k, d.isDigit = true :=
      fun d hd => Nat.isDigit_of_mem_toDigits (by decide) (by decide) hd
    rw [List.takeWhile_append_of_pos hdigits]
    simp [hc]
  have hdigits := congrArg (List.takeWhile Char.isDigit) h
  rw [htake, htake] at hdigits
  have hm := congrArg (Nat.ofDigitChars 10 · 0) hdigits
  simp only [Nat.ofDigitChars_ten_toDigits] at hm
  subst hm
  exact ⟨rfl, by simpa using h⟩

lemma toList_programLine_append {name r : String} {n : Nat} :
    (programLine name n ++ r).toList =
      name.toList ++ (": the program is valid (".toList ++
        (Nat.toDigits 10 n ++ ' ' :: ("statement(s)).\n".toList ++ r.toList))) := by
  have hend : " statement(s)).\n".toList = ' ' :: "statement(s)).\n".toList := by decide
  simp only [programLine, Nat.toString_eq_repr, String.toList_append, Nat.toList_repr, hend,
    List.append_assoc, List.cons_append]

lemma programLine_append_inj {name r s : String} {m n : Nat}
    (h : programLine name m ++ r = programLine name n ++ s) : m = n ∧ r = s := by
  have hlists := congrArg String.toList h
  simp only [toList_programLine_append, List.append_cancel_left_eq] at hlists
  obtain ⟨hnumbers, hrest⟩ := eq_of_toDigits_append (by decide) hlists
  exact ⟨hnumbers, String.toList_inj.1 (List.append_cancel_left hrest)⟩

lemma programLine_append_ne {name r s : String} {n : Nat} :
    programLine name n ++ r ≠ rejectionLine name ++ s := by
  intro h
  have hlists := congrArg String.toList h
  rw [toList_programLine_append] at hlists
  simp only [rejectionLine, String.toList_append, List.append_assoc,
    List.append_cancel_left_eq] at hlists
  -- The lines have their first seventeen characters after the name in common.
  have hchar := congrArg (·[17]?) hlists
  simp at hchar

lemma programLine_append_ne_empty {name r : String} {n : Nat} :
    programLine name n ++ r ≠ "" := by
  intro h
  have hlists := congrArg String.toList h
  simp [programLine] at hlists

/-- Statistics with the same record have the same report. -/
lemma Statistics.report_eq_of_toJson_eq {s t : Statistics} (h : s.toJson = t.toJson) :
    s.report = t.report := by
  simp only [toJson, Json.obj.injEq, List.cons.injEq, Prod.mk.injEq, Json.int.injEq,
    true_and, and_true] at h
  obtain ⟨-, hnames, hdigits, hcomparisons, hloops⟩ := h
  have hcount : s.nameCount = t.nameCount := by exact_mod_cast hnames
  rw [report, report, hcount, hdigits, hcomparisons, hloops]

/-! ### One file -/

/-- An error is about no token exactly if the text ends where something is missing. -/
lemma Stuck.token_error_eq_none_iff (place : Stuck) (tokens : List Token) :
    (place.error tokens).token = none ↔ (place.error tokens).diagnostic.code = some "P010" := by
  rw [error, Cursor.missing]
  cases (Cursor.before tokens place.unread).token? with
  | none => simp [SyntaxError.unexpectedEnd, SyntaxError.withMessage]
  | some found => simp [SyntaxError.unexpectedToken, SyntaxError.withMessage]

lemma token_eq_none_iff_of_countStatements {tokens : List Token} {e : SyntaxError}
    (h : countStatements tokens = .error e) :
    e.token = none ↔ e.diagnostic.code = some "P010" := by
  rw [countStatements] at h
  cases hread : readProgram (tokens.map Token.kind) with
  | ok n =>
    rw [hread] at h
    cases h
  | error place =>
    rw [hread] at h
    cases h
    exact place.token_error_eq_none_iff tokens

namespace Verdict

variable {v : Verdict} {b : Bool} {n : Nat} {e : SyntaxError}

lemma field?_file_record : (v.record b).field? "file" = some (.str v.filename) := rfl

/-- The fields that hold the outcome are found behind the others. -/
lemma field?_record {name : String} (hfile : name ≠ "file") (htokens : name ≠ "tokens") :
    (v.record b).field? name = v.outcomeFields.lookup name := by
  have hfile' : (name == "file") = false := by simpa using hfile
  have htokens' : (name == "tokens") = false := by simpa using htokens
  cases b <;> simp [record, Json.field?, List.lookup_cons, hfile', htokens']

lemma field?_valid_record : (v.record b).field? "valid" = some (.bool v.isValid) := by
  rw [field?_record (by decide) (by decide), outcomeFields, isValid]
  cases v.outcome <;> rfl

lemma isProgram_record_iff (h : v.outcome = .ok n) {m : Nat} {statistics : Statistics} :
    (v.record b).IsProgram m statistics ↔ m = n ∧ statistics.toJson = v.statistics.toJson := by
  have hstatements : (v.record b).field? "statements" = some (.int n) := by
    rw [field?_record (by decide) (by decide), outcomeFields, h]
    rfl
  have hstatistics : (v.record b).field? "statistics" = some v.statistics.toJson := by
    rw [field?_record (by decide) (by decide), outcomeFields, h]
    rfl
  constructor
  · intro hprogram
    have hm := hprogram.statements
    have hs := hprogram.statistics
    rw [hstatements, Option.some.injEq, Json.int.injEq] at hm
    rw [hstatistics, Option.some.injEq] at hs
    exact ⟨by exact_mod_cast hm.symm, hs.symm⟩
  · rintro ⟨rfl, hs⟩
    refine ⟨?_, hstatements, by rw [hs, hstatistics]⟩
    rw [field?_valid_record, isValid, h]
    rfl

lemma isRejection_record (h : v.outcome = .error e)
    (htoken : e.token = none ↔ e.diagnostic.code = some "P010") :
    (v.record b).IsRejection e := by
  constructor
  · rw [field?_valid_record, isValid, h]
    rfl
  · refine ⟨errorRecord e, ?_, rfl, rfl, rfl, rfl, ?_⟩
    · rw [field?_record (by decide) (by decide), outcomeFields, h]
      rfl
    · rw [← htoken]
      show some (Json.ofText? (e.token.map Token.lexeme)) = some .null ↔ e.token = none
      cases e.token <;> simp [Json.ofText?]

lemma verdictText_of_ok (h : v.outcome = .ok n) :
    v.verdictText = programLine v.filename n ++ (v.statistics.report ++ "\n") := by
  rw [verdictText, h]
  exact String.append_assoc

lemma verdictText_of_error (h : v.outcome = .error e) :
    v.verdictText = rejectionLine v.filename ++ e.text := by
  rw [verdictText, h]
  rfl

/-- The lines tell that a text is a program exactly if the record does, and they tell the same
about it. -/
lemma verdictText_eq_iff {rest : String} :
    v.verdictText = programLine v.filename n ++ rest ↔
      ∃ statistics, rest = statistics.report ++ "\n" ∧ (v.record b).IsProgram n statistics := by
  cases h : v.outcome with
  | ok m =>
    simp only [isProgram_record_iff h, verdictText_of_ok h]
    constructor
    · intro hlines
      obtain ⟨rfl, rfl⟩ := programLine_append_inj hlines
      exact ⟨v.statistics, rfl, rfl, rfl⟩
    · rintro ⟨statistics, rfl, rfl, hstatistics⟩
      rw [Statistics.report_eq_of_toJson_eq hstatistics]
  | error e =>
    rw [verdictText_of_error h]
    constructor
    · intro hlines
      exact absurd hlines.symm programLine_append_ne
    · rintro ⟨statistics, -, hprogram⟩
      have hvalid := hprogram.valid
      rw [field?_valid_record, isValid, h] at hvalid
      cases hvalid

end Verdict

lemma Result.share_describes (rule : KeywordRule) (input : Input) :
    (ofInput rule input).share.Describes rule input := by
  cases hcontent : input.content with
  | ok source =>
    rw [ofInput_of_ok hcontent]
    have hsource : ∀ other, input.content = .ok other → other = source := by
      intro other h
      rw [hcontent] at h
      exact (Except.ok.inj h).symm
    refine ⟨fun b => Verdict.field?_file_record, ?_, fun b n rest => Verdict.verdictText_eq_iff,
      ?_, ?_, ?_⟩
    · intro other h
      rw [hsource other h]
      rfl
    · intro b other n h hcount
      rw [hsource other h] at hcount ⊢
      exact (Verdict.isProgram_record_iff hcount).2 ⟨rfl, rfl⟩
    · intro b other e h hcount
      rw [hsource other h] at hcount
      exact ⟨Verdict.verdictText_of_error hcount,
        Verdict.isRejection_record hcount (token_eq_none_iff_of_countStatements hcount)⟩
    · intro b fault h
      rw [hcontent] at h
      cases h
  | error fault =>
    rw [ofInput_of_error hcontent]
    have hread : ∀ source, input.content ≠ .ok source := by simp [hcontent]
    refine ⟨fun b => rfl, fun source h => absurd h (hread source), ?_,
      fun b source n h => absurd h (hread source), fun b source e h => absurd h (hread source),
      fun b fault h => ⟨rfl, rfl, rfl⟩⟩
    intro b n rest
    constructor
    · intro hlines
      exact absurd hlines.symm programLine_append_ne_empty
    · rintro ⟨statistics, -, hprogram⟩
      have hvalid := hprogram.valid
      cases hvalid

/-! ### Whole runs -/

/-- A run comes to the same exit code and error output in all formats, and each of its files adds
one share, which is all that its output is made of. -/
theorem formats_agree (reader : Reader) (standard : List Contents) (rule : KeywordRule)
    (files : List String) (hne : files ≠ []) (hnull : ∀ path ∈ files, holdsNull path = false) :
    (reader.load standard files).map Input.path = files ∧
      ∃ code errors shares,
        List.Forall₂ (fun input share => share.Describes rule input) (reader.load standard files)
          shares ∧
        ∀ format, RunsTo reader standard ⟨rule, format⟩ files
          ⟨code, Share.printed format shares, errors⟩ := by
  set results := (reader.load standard files).map (Result.ofInput rule) with hresults
  have hdescribes : List.Forall₂ (fun input share => share.Describes rule input)
      (reader.load standard files) (results.map Result.share) := by
    rw [hresults, List.map_map, List.forall₂_map_right_iff]
    exact List.forall₂_same.2 fun input _ => Result.share_describes rule input
  refine ⟨reader.map_path_load standard files, Result.exitCode results,
    String.join (results.map Result.errors), results.map Result.share, hdescribes, fun format => ?_⟩
  rw [← Output.printed_ofResults]
  exact runsTo_ofResults reader standard ⟨rule, format⟩ hne hnull

/-- A text on the standard input that is rejected at its end, the standard input once more, which
is then an empty program, and a file outside of the working folder that may not be opened. -/
theorem formats_agree_standard_twice :
    let fault : SystemFault := .numbered 13 "Permission denied" "/locked"
    let reader : Reader := .among [("/locked", .error fault)]
    let standard : List Contents := [.ok "(a".toUTF8]
    let files := ["-", "-", "/locked"]
    let e : SyntaxError := .unexpectedEnd Construct.closeGroup.description
      (endOfTokens (readTokens .anywhere "<stdin>" "(a")) Construct.closeGroup.kind?
    (files ≠ [] ∧ ∀ path ∈ files, holdsNull path = false) ∧
      ∃ code errors rejected program locked,
        rejected.verdict = rejectionLine "<stdin>" ++ e.text ∧
        (rejected.record true).IsRejection e ∧
        (program.record false).IsProgram 0 (.ofTokens (readTokens .anywhere "<stdin>" "")) ∧
        locked.verdict = "" ∧
        ∀ format, RunsTo reader standard ⟨.anywhere, format⟩ files
          ⟨code, Share.printed format [rejected, program, locked], errors⟩ := by
  intro fault reader standard files e
  have hne : files ≠ [] := by decide
  have hnull : ∀ path ∈ files, holdsNull path = false := by decide
  have hload : reader.load standard files =
      [⟨"-", .ok "(a"⟩, ⟨"-", .ok ""⟩, ⟨"/locked", .error (.system fault)⟩] := by
    have hfull : readBytes "(a".toUTF8 = .ok "(a" := by decide +kernel
    have hempty : readBytes .empty = .ok "" := by decide +kernel
    rw [← hfull, ← hempty]
    rfl
  obtain ⟨-, code, errors, shares, hshares, hruns⟩ :=
    formats_agree reader standard .anywhere files hne hnull
  rw [hload] at hshares
  obtain _ | ⟨hfirst, _ | ⟨hsecond, _ | ⟨hthird, _ | _⟩⟩⟩ := hshares
  have herror : countStatementsOfText .anywhere "<stdin>" "(a" = .error e := by decide +kernel
  have hcount : countStatementsOfText .anywhere "<stdin>" "" = .ok 0 := by decide +kernel
  obtain ⟨hlines, hrecord⟩ := hfirst.rejected true "(a" e rfl herror
  have hprogram := hsecond.accepted false "" 0 rfl hcount
  obtain ⟨-, hnothing, -⟩ := hthird.unreadable true (.system fault) rfl
  exact ⟨⟨hne, hnull⟩, code, errors, _, _, _, hlines, hrecord, hprogram, hnothing, hruns⟩

end BoolWhile
