import BoolWhile.Proofs.Command.Formats
import BoolWhile.Recognition.File

/-!
# One file, looked at in two ways

A file can be read and recognized by itself, or checked by a run over that file alone. Both ways
come to the same: the exit code tells which of the three outcomes it is, and the record that the
run prints holds what is found in the file (`run_agrees`).
-/

namespace BoolWhile

/-! ### What records say -/

namespace Json

/-- A record tells of an error. -/
def ReportsError (record : Json) (e : SyntaxError) : Prop :=
  ∃ error, record.field? "error" = some error ∧
    error.field? "code" = some (.ofText? e.diagnostic.code) ∧
    error.field? "description" = some (.ofText? e.codeMeaning?) ∧
    error.field? "message" = some (.str e.diagnostic.message) ∧
    error.field? "expected" = some (.str e.expected) ∧
    error.field? "found" = some (.ofText? (e.token.map Token.lexeme))

/-- A record tells why a file cannot be read. -/
def ReportsFault (record : Json) (message : String) : Prop :=
  ∃ error, record.field? "error" = some error ∧ error.field? "message" = some (.str message)

/-- A record tells of a token. -/
structure IsToken (record : Json) (t : Token) : Prop where
  type : record.field? "type" = some (.str t.kind.name)
  lexeme : record.field? "lexeme" = some (.str t.lexeme)
  line : record.field? "line" = some (.int t.location.line)
  column : record.field? "column" = some (.int t.location.column)

lemma ofText?_injective : Function.Injective ofText? := by
  intro s t h
  cases s <;> cases t <;> simp_all [ofText?]

end Json

/-- Two errors that records do not tell apart. -/
structure SyntaxError.Alike (e e' : SyntaxError) : Prop where
  code : e.diagnostic.code = e'.diagnostic.code
  message : e.diagnostic.message = e'.diagnostic.message
  expected : e.expected = e'.expected
  lexeme : e.token.map Token.lexeme = e'.token.map Token.lexeme

/-- A record tells of errors that are alike, and of no others. -/
lemma Json.ReportsError.alike_iff {record : Json} {e e' : SyntaxError}
    (h : record.ReportsError e) : e.Alike e' ↔ record.ReportsError e' := by
  obtain ⟨error, herror, hcode, hdescription, hmessage, hexpected, hfound⟩ := h
  constructor
  · intro halike
    refine ⟨error, herror, ?_, ?_, ?_, ?_, ?_⟩
    · rw [hcode, halike.code]
    · rw [hdescription, SyntaxError.codeMeaning?, halike.code, SyntaxError.codeMeaning?]
    · rw [hmessage, halike.message]
    · rw [hexpected, halike.expected]
    · rw [hfound, halike.lexeme]
  · rintro ⟨error', herror', hcode', -, hmessage', hexpected', hfound'⟩
    obtain rfl : error = error' := Option.some.inj (herror.symm.trans herror')
    rw [hcode, Option.some.injEq] at hcode'
    rw [hmessage, Option.some.injEq, str.injEq] at hmessage'
    rw [hexpected, Option.some.injEq, str.injEq] at hexpected'
    rw [hfound, Option.some.injEq] at hfound'
    exact ⟨ofText?_injective hcode', hmessage', hexpected', ofText?_injective hfound'⟩

/-- A run that ends with an exit code and a record agrees with what is found in a file. -/
structure AgreesWith (reader : Reader) (rule : KeywordRule) (path : String) (exitCode : Nat)
    (record : Json) : Prop where
  /-- The run ends in one of three ways. -/
  outcome : exitCode = 0 ∧ (∃ n, reader.countStatements rule path = .ok n) ∨
    exitCode = 1 ∧ (∃ e, reader.countStatements rule path = .error (.rejected e)) ∨
    exitCode = 2 ∧ ∃ fault, reader.countStatements rule path = .error (.unreadable fault)
  program : ∀ n, reader.countStatements rule path = .ok n ↔
    exitCode = 0 ∧ ∃ tokens, reader.readTokens rule path = .ok tokens ∧
      record.IsProgram n (.ofTokens tokens)
  rejected : ∀ e,
    (∃ raised, reader.countStatements rule path = .error (.rejected raised) ∧ raised.Alike e) ↔
      exitCode = 1 ∧ record.ReportsError e
  unreadable : ∀ message,
    (∃ fault, reader.readTokens rule path = .error fault ∧ fault ≠ .nullInPath ∧
        fault.message = message) ↔
      exitCode = 2 ∧ record.ReportsFault message

/-! ### Faults -/

lemma Contents.text_ne_nullInPath (contents : Contents) : contents.text ≠ .error .nullInPath := by
  intro h
  cases contents with
  | ok bytes =>
    rw [text, readBytes] at h
    split at h <;> cases h
  | error fault => cases h

/-- Only the null character itself is reported as such. -/
lemma Reader.read_ne_nullInPath {reader : Reader} {path : String} (hnull : holdsNull path = false) :
    reader.read path ≠ .error .nullInPath := by
  rw [read, hnull, if_neg Bool.false_ne_true]
  exact Contents.text_ne_nullInPath _

/-! ### Agreement -/

section

variable {reader : Reader} {rule : KeywordRule} {path source : String}

lemma Reader.readTokens_of_ok (h : reader.read path = .ok source) :
    reader.readTokens rule path = .ok (BoolWhile.readTokens rule path source) := by
  rw [readTokens, h]
  rfl

lemma Reader.countStatements_of_ok (h : reader.read path = .ok source) :
    reader.countStatements rule path =
      (countStatementsOfText rule path source).mapError .rejected := by
  rw [countStatements, readTokens_of_ok h]
  rfl

lemma Reader.readTokens_of_error {fault : ReadFault} (h : reader.read path = .error fault) :
    reader.readTokens rule path = .error fault := by
  rw [readTokens, h]
  rfl

lemma Reader.countStatements_of_error {fault : ReadFault} (h : reader.read path = .error fault) :
    reader.countStatements rule path = .error (.unreadable fault) := by
  rw [countStatements, readTokens_of_error h]

lemma Verdict.reportsError_record {v : Verdict} {e : SyntaxError} (h : v.outcome = .error e)
    (b : Bool) : (v.record b).ReportsError e := by
  refine ⟨errorRecord e, ?_, rfl, rfl, rfl, rfl, rfl⟩
  rw [field?_record (by decide) (by decide), outcomeFields, h]
  rfl

lemma Result.exitCode_checked (v : Verdict) :
    exitCode [.checked v] = match v.outcome with
      | .ok _ => 0
      | .error _ => 1 := by
  rw [exitCode, List.any_cons, List.any_cons, isRejected, Verdict.isValid]
  cases v.outcome <;> rfl

lemma agreesWith_of_program {n : Nat} (hread : reader.read path = .ok source)
    (hcount : countStatementsOfText rule path source = .ok n) (b : Bool) :
    AgreesWith reader rule path (Result.exitCode [.checked (.ofText rule path source)])
      ((Verdict.ofText rule path source).record b) := by
  have hfile : reader.countStatements rule path = .ok n := by
    rw [Reader.countStatements_of_ok hread, hcount]
    rfl
  have houtcome : (Verdict.ofText rule path source).outcome = .ok n := hcount
  rw [Result.exitCode_checked, houtcome]
  constructor
  · exact .inl ⟨rfl, n, hfile⟩
  · intro m
    constructor
    · intro hm
      obtain rfl : n = m := Except.ok.inj (hfile.symm.trans hm)
      refine ⟨rfl, _, Reader.readTokens_of_ok hread, ?_⟩
      exact (Verdict.isProgram_record_iff houtcome).2 ⟨rfl, rfl⟩
    · rintro ⟨-, tokens, -, hprogram⟩
      obtain ⟨rfl, -⟩ := (Verdict.isProgram_record_iff houtcome).1 hprogram
      exact hfile
  · simp [hfile]
  · simp [Reader.readTokens_of_ok hread]

lemma agreesWith_of_rejected {e : SyntaxError} (hread : reader.read path = .ok source)
    (hcount : countStatementsOfText rule path source = .error e) (b : Bool) :
    AgreesWith reader rule path (Result.exitCode [.checked (.ofText rule path source)])
      ((Verdict.ofText rule path source).record b) := by
  have hfile : reader.countStatements rule path = .error (.rejected e) := by
    rw [Reader.countStatements_of_ok hread, hcount]
    rfl
  have hrecord : ((Verdict.ofText rule path source).record b).ReportsError e :=
    Verdict.reportsError_record hcount b
  have houtcome : (Verdict.ofText rule path source).outcome = .error e := hcount
  rw [Result.exitCode_checked, houtcome]
  constructor
  · exact .inr (.inl ⟨rfl, e, hfile⟩)
  · simp [hfile]
  · intro e'
    rw [← hrecord.alike_iff]
    simp [hfile]
  · simp [Reader.readTokens_of_ok hread]

lemma agreesWith_of_unreadable {fault : ReadFault} (hread : reader.read path = .error fault)
    (hnull : holdsNull path = false) (format : OutputFormat) :
    AgreesWith reader rule path 2
      ((Result.unreadable path fault.message).record format) := by
  have hfile : reader.countStatements rule path = .error (.unreadable fault) :=
    Reader.countStatements_of_error hread
  have hfault : fault ≠ .nullInPath := by
    rintro rfl
    exact Reader.read_ne_nullInPath hnull hread
  constructor
  · exact .inr (.inr ⟨rfl, fault, hfile⟩)
  · simp [hfile]
  · simp [hfile]
  · intro message
    have hfield : ((Result.unreadable path fault.message).record format).field? "error" =
        some (.obj [("message", .str fault.message)]) := rfl
    constructor
    · rintro ⟨fault', hfault', -, rfl⟩
      rw [Reader.readTokens_of_error hread] at hfault'
      obtain rfl := Except.error.inj hfault'
      exact ⟨rfl, _, hfield, rfl⟩
    · rintro ⟨-, error, herror, hmessage⟩
      rw [hfield, Option.some.injEq] at herror
      subst herror
      exact ⟨fault, Reader.readTokens_of_error hread, hfault,
        Json.str.inj (Option.some.inj hmessage)⟩

/-- The records of tokens are those of the tokens, in their order. -/
lemma Verdict.forall₂_tokenRecord (tokens : List Token) :
    List.Forall₂ (fun (t : Token) item => item.IsToken t) tokens (tokens.map tokenRecord) := by
  rw [List.forall₂_map_right_iff]
  exact List.forall₂_same.2 fun t _ => ⟨rfl, rfl, rfl, rfl⟩

end

/-- A run over a single file agrees with what is found in it, in every format. It prints one
record, which lists the tokens of the file if they are asked for. -/
theorem run_agrees (reader : Reader) (standard : List Contents) (rule : KeywordRule) (path : String)
    (hpath : path ≠ "-") (hnull : holdsNull path = false) :
    ∃ code, ∃ record : Bool → Json,
      (∀ b, AgreesWith reader rule path code (record b)) ∧
      (∀ tokens, reader.readTokens rule path = .ok tokens → ∃ items,
        (record true).field? "tokens" = some (.arr items) ∧
          List.Forall₂ (fun (t : Token) item => item.IsToken t) tokens items) ∧
      ∀ format, ∃ output, RunsTo reader standard ⟨rule, format⟩ [path] output ∧
        output.exitCode = code ∧
        (format.asJson = true →
          output.printed = (Json.arr [record format.showTokens]).text ++ "\n") := by
  have hload : reader.load standard [path] = [⟨path, reader.read path⟩] := by
    simp [Reader.load, Input.isStandard, hpath]
  have hname : Input.name ⟨path, reader.read path⟩ = path := by
    simp [Input.name, Input.isStandard, hpath]
  have hruns : ∀ format, RunsTo reader standard ⟨rule, format⟩ [path]
      (.ofResults format [Result.ofInput rule ⟨path, reader.read path⟩]) := by
    intro format
    have hruns := runsTo_ofResults reader standard ⟨rule, format⟩ (List.cons_ne_nil path [])
      (by simpa using hnull)
    rwa [hload] at hruns
  generalize hresult : Result.ofInput rule ⟨path, reader.read path⟩ = result at hruns
  refine ⟨Result.exitCode [result], fun b => result.record { showTokens := b }, ?_, ?_, ?_⟩
  · intro b
    cases hread : reader.read path with
    | ok source =>
      rw [Result.ofInput_of_ok hread, hname] at hresult
      subst hresult
      cases hcount : countStatementsOfText rule path source with
      | ok n => exact agreesWith_of_program hread hcount b
      | error e => exact agreesWith_of_rejected hread hcount b
    | error fault =>
      rw [Result.ofInput_of_error hread, hname] at hresult
      subst hresult
      exact agreesWith_of_unreadable hread hnull _
  · intro tokens htokens
    cases hread : reader.read path with
    | ok source =>
      rw [Result.ofInput_of_ok hread, hname] at hresult
      rw [Reader.readTokens_of_ok hread, Except.ok.injEq] at htokens
      subst hresult htokens
      exact ⟨_, rfl, Verdict.forall₂_tokenRecord _⟩
    | error fault =>
      rw [Reader.readTokens_of_error hread] at htokens
      cases htokens
  · intro format
    refine ⟨_, hruns format, rfl, ?_⟩
    intro hjson
    have hrecord : result.record format = result.record { showTokens := format.showTokens } := by
      cases result <;> rfl
    simp [Output.ofResults, hjson, hrecord]

/-- The file here has an absolute path and holds a bracket that is never closed. -/
theorem run_agrees_rejected :
    let reader : Reader := .among [("/tmp/a", .ok "(".toUTF8)]
    "/tmp/a" ≠ "-" ∧ holdsNull "/tmp/a" = false ∧
      ∃ output, RunsTo reader [] {} ["/tmp/a"] output ∧ output.exitCode = 1 := by
  intro reader
  refine ⟨by decide, by decide, ?_⟩
  have hread : reader.read "/tmp/a" = .ok "(" := by decide +kernel
  have hrejected : (countStatementsOfText .anywhere "/tmp/a" "(").isOk = false := by decide +kernel
  obtain ⟨e, he⟩ : ∃ e, countStatementsOfText .anywhere "/tmp/a" "(" = .error e := by
    cases hcount : countStatementsOfText .anywhere "/tmp/a" "(" with
    | ok n => simp [hcount, Except.isOk, Except.toBool] at hrejected
    | error e => exact ⟨e, rfl⟩
  obtain ⟨code, record, hagrees, -, hruns⟩ :=
    run_agrees reader [] .anywhere "/tmp/a" (by decide) (by decide)
  obtain ⟨output, hrun, hcode, -⟩ := hruns {}
  refine ⟨output, hrun, ?_⟩
  rw [hcode]
  apply (((hagrees false).rejected e).1 ?_).1
  exact ⟨e, by rw [Reader.countStatements_of_ok hread, he]; rfl, rfl, rfl, rfl, rfl⟩

end BoolWhile
