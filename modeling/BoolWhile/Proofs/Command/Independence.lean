import BoolWhile.Proofs.Command.Run

/-!
# Files of a run do not disturb each other

The exit code tells the worst that was found, in whatever order the files stand. Everything else
that a run leaves behind is made of what its files add one after the other, so files may as well be
checked in two runs. Only the standard input can be read but once.
-/

namespace BoolWhile

/-- A file cannot be read, or its bytes are no text. -/
def Input.Unreadable (input : Input) : Prop := ∃ fault, input.content = .error fault

/-- A file holds a text that is no program. -/
def Input.Rejected (rule : KeywordRule) (input : Input) : Prop :=
  ∃ source e, input.content = .ok source ∧
    countStatementsOfText rule input.name source = .error e

/-- An exit code tells the worst that is found in some files. -/
structure IsExitCode (rule : KeywordRule) (inputs : List Input) (code : Nat) : Prop where
  two : (∃ input ∈ inputs, input.Unreadable) → code = 2
  one : (∀ input ∈ inputs, ¬input.Unreadable) → (∃ input ∈ inputs, input.Rejected rule) →
    code = 1
  zero : (∀ input ∈ inputs, ¬input.Unreadable ∧ ¬input.Rejected rule) → code = 0

/-- What a run writes that comes to some results: what each of them adds, in their order. -/
structure Output.Lists (format : OutputFormat) (results : List Result) (output : Output) :
    Prop where
  errors : output.errors = String.join (results.map Result.errors)
  printed : format.asJson = false →
    output.printed = String.join (results.map (Result.printed format))
  records : format.asJson = true →
    output.printed = (Json.arr (results.map (Result.record format))).text ++ "\n"

variable {rule : KeywordRule} {format : OutputFormat} {input : Input}

/-! ### The exit code -/

namespace Result

lemma isUnreadable_ofInput : (ofInput rule input).isUnreadable = true ↔ input.Unreadable := by
  rw [Input.Unreadable, ofInput]
  cases input.content <;> simp [isUnreadable]

lemma isRejected_ofInput : (ofInput rule input).isRejected = true ↔ input.Rejected rule := by
  rw [Input.Rejected]
  cases hcontent : input.content with
  | error fault =>
    rw [ofInput_of_error hcontent]
    simp [isRejected]
  | ok source =>
    rw [ofInput_of_ok hcontent, isRejected, Verdict.isValid]
    show (!(countStatementsOfText rule input.name source).isOk) = true ↔ _
    cases houtcome : countStatementsOfText rule input.name source with
    | ok n => simp [houtcome, Except.isOk, Except.toBool]
    | error e => simp [houtcome, Except.isOk, Except.toBool]

lemma isExitCode_exitCode (rule : KeywordRule) (inputs : List Input) :
    IsExitCode rule inputs (exitCode (inputs.map (ofInput rule))) := by
  have hunreadable : (inputs.map (ofInput rule)).any isUnreadable = true ↔
      ∃ input ∈ inputs, input.Unreadable := by
    simp [isUnreadable_ofInput]
  have hrejected : (inputs.map (ofInput rule)).any isRejected = true ↔
      ∃ input ∈ inputs, input.Rejected rule := by
    simp [isRejected_ofInput]
  unfold exitCode
  constructor
  · intro h
    rw [if_pos (hunreadable.2 h)]
  · intro hnone h
    rw [if_neg, if_pos (hrejected.2 h)]
    rw [hunreadable]
    push Not
    exact hnone
  · intro hnone
    rw [if_neg, if_neg]
    · rw [hrejected]
      push Not
      exact fun input hinput => (hnone input hinput).2
    · rw [hunreadable]
      push Not
      exact fun input hinput => (hnone input hinput).1

end Result

/-! ### Two runs -/

namespace Output

lemma lists_ofResults (format : OutputFormat) (results : List Result) :
    (ofResults format results).Lists format results where
  errors := rfl
  printed h := by simp [ofResults, h]
  records h := by simp [ofResults, h]

end Output

/-- A run comes to an end with the exit code for its files and with what each of them adds in turn.
Two runs over files are one run over all of them, if the standard input is not read by both. -/
theorem run_independent (reader : Reader) (standard : List Contents) (settings : Settings) :
    (∀ files : List String, files ≠ [] → (∀ path ∈ files, holdsNull path = false) →
      let inputs := reader.load standard files
      inputs.map Input.path = files ∧
        ∃ output, RunsTo reader standard settings files output ∧
          IsExitCode settings.rule inputs output.exitCode ∧
          output.Lists settings.format (inputs.map (Result.ofInput settings.rule))) ∧
    ∀ fs gs : List String, fs ≠ [] → gs ≠ [] → (∀ path ∈ fs ++ gs, holdsNull path = false) →
      (fs ++ gs).count "-" ≤ 1 →
      let records (files : List String) : List Json :=
        (reader.load standard files).map fun input =>
          (Result.ofInput settings.rule input).record settings.format
      ∃ a b c, RunsTo reader standard settings fs a ∧ RunsTo reader standard settings gs b ∧
        RunsTo reader standard settings (fs ++ gs) c ∧
        c.exitCode = max a.exitCode b.exitCode ∧
        c.errors = a.errors ++ b.errors ∧
        (settings.format.asJson = false → c.printed = a.printed ++ b.printed) ∧
        (settings.format.asJson = true →
          a.printed = (Json.arr (records fs)).text ++ "\n" ∧
            b.printed = (Json.arr (records gs)).text ++ "\n" ∧
            c.printed = (Json.arr (records fs ++ records gs)).text ++ "\n") := by
  constructor
  · intro files hne hnull inputs
    refine ⟨reader.map_path_load standard files, _,
      runsTo_ofResults reader standard settings hne hnull, ?_, Output.lists_ofResults _ _⟩
    exact Result.isExitCode_exitCode settings.rule inputs
  · intro fs gs hfs hgs hnull hcount records
    obtain ⟨hnullfs, hnullgs⟩ := List.forall_mem_append.1 hnull
    have hboth := runsTo_ofResults reader standard settings
      (List.append_ne_nil_of_left_ne_nil hfs gs) hnull
    rw [Reader.load_append_of_count_le_one hcount, List.map_append] at hboth
    refine ⟨_, _, _, runsTo_ofResults reader standard settings hfs hnullfs,
      runsTo_ofResults reader standard settings hgs hnullgs, hboth,
      Result.exitCode_append _ _, ?_, ?_, ?_⟩
    · simp [Output.ofResults]
    · intro hjson
      simp [Output.ofResults, hjson]
    · intro hjson
      simp [Output.ofResults, hjson, records, Function.comp_def]

/-- A file that may not be opened between a text that is no program and a program, all of them
under absolute paths, with the standard input before it. -/
theorem run_independent_locked_between :
    let reader : Reader := .among
      [("/tmp/bad", .ok "(a".toUTF8), ("/tmp/ok", .ok "a".toUTF8),
        ("/tmp/locked", .error (.numbered 13 "Permission denied" "/tmp/locked"))]
    let standard : List Contents := [.ok "b".toUTF8]
    let settings : Settings := { format := { asJson := true } }
    let fs := ["/tmp/bad", "-"]
    let gs := ["/tmp/locked", "/tmp/ok"]
    (fs ≠ [] ∧ gs ≠ [] ∧ (∀ path ∈ fs ++ gs, holdsNull path = false) ∧
        (fs ++ gs).count "-" ≤ 1) ∧
      (∃ output, RunsTo reader standard settings (fs ++ gs) output ∧ output.exitCode = 2) ∧
      ∃ a b c, RunsTo reader standard settings fs a ∧ RunsTo reader standard settings gs b ∧
        RunsTo reader standard settings (fs ++ gs) c ∧ c.exitCode = max a.exitCode b.exitCode ∧
        c.errors = a.errors ++ b.errors := by
  intro reader standard settings fs gs
  have hnull : ∀ path ∈ fs ++ gs, holdsNull path = false := by decide
  have hcount : (fs ++ gs).count "-" ≤ 1 := by decide
  have hlocked : reader.read "/tmp/locked" =
      .error (.system (.numbered 13 "Permission denied" "/tmp/locked")) := rfl
  have hmem : (⟨"/tmp/locked", reader.read "/tmp/locked"⟩ : Input) ∈
      reader.load standard (fs ++ gs) := by
    simp [fs, gs, Reader.load, Input.isStandard]
  refine ⟨⟨by decide, by decide, hnull, hcount⟩, ?_, ?_⟩
  · obtain ⟨-, output, hruns, hcode, -⟩ :=
      (run_independent reader standard settings).1 (fs ++ gs) (by decide) hnull
    exact ⟨output, hruns, hcode.two ⟨_, hmem, _, hlocked⟩⟩
  · obtain ⟨a, b, c, ha, hb, hc, hcode, herrors, -⟩ :=
      (run_independent reader standard settings).2 fs gs (by decide) (by decide) hnull hcount
    exact ⟨a, b, c, ha, hb, hc, hcode, herrors⟩

end BoolWhile
