import BoolWhile.Proofs.Command.Run
import BoolWhile.Proofs.Recognition.ForeignTokens
import BoolWhile.Proofs.Tokens.Warnings

/-!
# What is warned about is rejected

A warning promises that its character will be rejected. It will be, for an unknown token has no
place in any program, and neither has the reserved word. So a run that finds nothing but programs
has nothing to warn about, and its error output is empty.
-/

namespace BoolWhile

variable {rule : KeywordRule} {tokens : List Token}

/-! ### Warnings -/

/-- A program is not warned about. -/
lemma Accepted.characterWarnings_eq_nil (h : Accepted tokens) : characterWarnings tokens = [] := by
  refine BoolWhile.characterWarnings_eq_nil fun t ht hkind => ?_
  have hforeign := h.isForeign t ht
  rw [hkind] at hforeign
  cases hforeign

/-! ### Runs -/

lemma Verdict.isValid_ofText {filename source : String} :
    (ofText rule filename source).isValid = true ↔
      Accepted (readTokens rule filename source) := by
  show (countStatements (readTokens rule filename source)).isOk = true ↔ _
  unfold Accepted
  cases countStatements (readTokens rule filename source) with
  | ok n => simp [Except.isOk, Except.toBool]
  | error e => simp [Except.isOk, Except.toBool]

/-- A file that holds a program adds nothing to the error output. -/
lemma Result.errors_ofInput {input : Input} (hreadable : (ofInput rule input).isUnreadable = false)
    (hvalid : (ofInput rule input).isRejected = false) : (ofInput rule input).errors = "" := by
  cases hcontent : input.content with
  | error fault =>
    rw [ofInput_of_error hcontent] at hreadable
    cases hreadable
  | ok source =>
    rw [ofInput_of_ok hcontent, isRejected, Bool.not_eq_false', Verdict.isValid_ofText] at hvalid
    rw [ofInput_of_ok hcontent]
    show String.join ((characterWarnings (readTokens rule input.name source)).map _) = ""
    rw [hvalid.characterWarnings_eq_nil]
    rfl

lemma errors_checkInputs (settings : Settings) (inputs : List Input)
    (h : (checkInputs settings inputs).exitCode = 0) :
    (checkInputs settings inputs).errors = "" := by
  rw [checkInputs_eq] at h ⊢
  refine join_eq_empty fun text hmem => ?_
  obtain ⟨result, hresult, rfl⟩ := List.mem_map.1 hmem
  obtain ⟨hreadable, hvalid⟩ := Result.exitCode_eq_zero_iff.1 h result hresult
  obtain ⟨input, -, rfl⟩ := List.mem_map.1 hresult
  exact Result.errors_ofInput hreadable hvalid

lemma errors_run {reader : Reader} {standard : List Contents} {arguments : List String}
    {output : Output} (h : run reader standard arguments = .ok output)
    (hcode : output.exitCode = 0) : output.errors = "" := by
  rw [run] at h
  cases hrequest : Request.ofArguments arguments with
  | error e =>
    rw [hrequest] at h
    obtain rfl := Except.ok.inj h
    cases hcode
  | ok request =>
    simp only [hrequest] at h
    split_ifs at h
    obtain rfl := Except.ok.inj h
    cases request with
    | help => rfl
    | version => rfl
    | check settings files => exact errors_checkInputs settings _ hcode

/-- A text with an unknown token, which is a text that is warned about, or with the reserved word
is rejected at that token or at one before it. A run that finds programs only writes no errors. -/
theorem warned_rejected :
    (∀ s : Session,
      (s.read.warnings ≠ [] ↔ ∃ t ∈ s.read.tokens, t.kind = .unknown) ∧
        ((∃ t ∈ s.read.tokens, t.kind = .unknown ∨ t.kind = .ifWord) →
          ∃ e k found, countStatements s.read.tokens = .error e ∧
            e.diagnostic.code = some "P001" ∧ e.token = some found ∧
            s.read.tokens[k]? = some found ∧
            ∀ (i : Nat) (t : Token), s.read.tokens[i]? = some t →
              t.kind = .unknown ∨ t.kind = .ifWord → k ≤ i)) ∧
      ∀ (reader : Reader) (standard : List Contents) (arguments : List String) (output : Output),
        run reader standard arguments = .ok output → output.exitCode = 0 →
          output.errors = "" := by
  constructor
  · intro s
    refine ⟨s.warnings_read_ne_nil_iff, ?_⟩
    simp only [← Kind.isForeign_iff]
    intro h
    obtain ⟨k, e, hbreaks, hfirst⟩ := exists_breaksAt_of_isForeign h
    obtain ⟨found, hfound, htoken⟩ := hbreaks.token
    exact ⟨e, k, found, hbreaks.rejected, hbreaks.code, htoken, hfound, hfirst⟩
  · intro reader standard arguments output h hcode
    exact errors_run h hcode

/-- The reserved word behind an unknown character, and a program under an absolute path. -/
theorem warned_rejected_plus :
    let s := Session.start .anywhere unnamed "a + if"
    let reader : Reader := .among [("/a", .ok "a".toUTF8)]
    ((∃ t ∈ s.read.tokens, t.kind = .unknown ∨ t.kind = .ifWord) ∧
        ∃ e, countStatements s.read.tokens = .error e ∧ e.diagnostic.code = some "P001") ∧
      ∃ output, run reader [] ["/a"] = .ok output ∧ output.exitCode = 0 ∧
        output.errors = "" := by
  intro s reader
  have hforeign : ∃ t ∈ s.read.tokens, t.kind = .unknown ∨ t.kind = .ifWord := by decide +kernel
  obtain ⟨e, k, found, hrejected, hcode, -⟩ := (warned_rejected.1 s).2 hforeign
  have harguments : Request.ofArguments ["/a"] = .ok (.check {} ["/a"]) := by decide +kernel
  have hload : reader.load [] ["/a"] = [⟨"/a", .ok "a"⟩] := by
    have hread : readBytes "a".toUTF8 = .ok "a" := by decide +kernel
    rw [← hread]
    rfl
  have hrun := (runsTo_ofResults reader [] {} (by decide) (by decide)).output _ harguments
  rw [hload] at hrun
  have hzero : Result.exitCode ([⟨"/a", .ok "a"⟩].map (Result.ofInput .anywhere)) = 0 := by
    decide +kernel
  exact ⟨⟨hforeign, e, hrejected, hcode⟩, _, hrun, hzero,
    warned_rejected.2 reader [] ["/a"] _ hrun hzero⟩

end BoolWhile
