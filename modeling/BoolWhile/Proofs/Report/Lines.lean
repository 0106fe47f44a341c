import BoolWhile.Proofs.Recognition.Report
import BoolWhile.Proofs.Text.PrintableTexts
import BoolWhile.Proofs.Tokens.Warnings
import BoolWhile.Verdict

/-!
# The lines that are written about a text

Whatever a text holds, what is written about it consists of lines of printable characters, and how
many lines there are depends on what is found only. No character of the text begins a line or gets
to a terminal as a control character: lexemes are quoted wherever they are named, and a character
is shown as itself only if it is printable.
-/

namespace BoolWhile

/-! ### Lines -/

/-- A text consists of lines: each is printable and ended by a line feed. -/
structure ConsistsOf (text : String) (lines : List String) : Prop where
  text : text = String.join (lines.map (· ++ "\n"))
  printable : ∀ line ∈ lines, Text.allPrintable line = true

section

variable {s t line : String} {ls ms : List String}

lemma consistsOf_nil : ConsistsOf "" [] := ⟨rfl, by simp⟩

lemma consistsOf_line (h : Text.allPrintable line = true) : ConsistsOf (line ++ "\n") [line] := by
  constructor
  · simp
  · simpa using h

lemma ConsistsOf.append (hs : ConsistsOf s ls) (ht : ConsistsOf t ms) :
    ConsistsOf (s ++ t) (ls ++ ms) := by
  constructor
  · rw [List.map_append, String.join_append, ← hs.text, ← ht.text]
  · exact List.forall_mem_append.2 ⟨hs.printable, ht.printable⟩

lemma ConsistsOf.join {texts : List String} {groups : List (List String)}
    (h : List.Forall₂ ConsistsOf texts groups) : ConsistsOf (String.join texts) groups.flatten := by
  induction h with
  | nil => exact consistsOf_nil
  | cons hhead _ ih =>
    rw [String.join_cons, List.flatten_cons]
    exact hhead.append ih

/-- Nothing but the line feeds at the ends of lines is unprintable. -/
lemma ConsistsOf.eq_lineFeed_or_isPrintable (h : ConsistsOf s ls) {c : Char} (hc : c ∈ s.toList) :
    c = '\n' ∨ Text.isPrintable c = true := by
  rw [h.text, String.toList_join, List.mem_flatMap] at hc
  obtain ⟨_, hline, hc⟩ := hc
  obtain ⟨line, hmem, rfl⟩ := List.mem_map.1 hline
  rw [String.toList_append, List.mem_append] at hc
  rcases hc with hc | hc
  · exact .inr (Text.isPrintable_of_mem (h.printable line hmem) hc)
  · exact .inl (by simpa using hc)

end

/-! ### Reports -/

/-- The lines of a report: a headline under a word, the place, an explanation, and the suggestions
under a line of their own. -/
def reportLines (word message place help : String) (suggestions : List String) : List String :=
  (word ++ ": " ++ message) :: ("  --> " ++ place) :: ("  help: " ++ help) ::
    if suggestions = [] then []
    else "  suggestions:" :: suggestions.map fun suggestion => "    - " ++ suggestion

/-- A diagnostic is reported under a word in some lines. -/
structure Diagnostic.IsReportedIn (d : Diagnostic) (word : String) (lines : List String) :
    Prop where
  shape : ∃ location help suggestions, d.location = some location ∧ d.help = some help ∧
    d.suggestions = some suggestions ∧
    lines = reportLines word d.message location.display help suggestions
  text : ConsistsOf d.text lines

lemma Location.allPrintable_display {l : Location} (h : Text.allPrintable l.filename = true) :
    Text.allPrintable l.display = true := by
  simp +decide [display, h]

lemma Diagnostic.text_eq_join {d : Diagnostic} {location : Location} {help : String}
    {suggestions : List String} (hlocation : d.location = some location)
    (hhelp : d.help = some help) (hsuggestions : d.suggestions = some suggestions)
    (hne : help ≠ "") :
    d.text = String.join
      ((reportLines d.severity.toUpper d.message location.display help suggestions).map
        (· ++ "\n")) := by
  have hline : optionalLine "  help: " d.help = "  help: " ++ help ++ "\n" := by
    simp [optionalLine, hhelp, hne]
  have hlines : suggestionLines (d.suggestions.getD []) =
      String.join ((if suggestions = [] then []
        else "  suggestions:" :: suggestions.map fun s => "    - " ++ s).map (· ++ "\n")) := by
    cases suggestions with
    | nil => simp [suggestionLines, hsuggestions]
    | cons suggestion suggestions => simp [suggestionLines, hsuggestions, Function.comp_def]
  rw [text, hline, hlines, hlocation]
  simp [reportLines, String.append_assoc]

lemma allPrintable_of_mem_reportLines {word message place help : String}
    {suggestions : List String} (hword : Text.allPrintable word = true)
    (hmessage : Text.allPrintable message = true) (hplace : Text.allPrintable place = true)
    (hhelp : Text.allPrintable help = true)
    (hsuggestions : ∀ s ∈ suggestions, Text.allPrintable s = true) :
    ∀ line ∈ reportLines word message place help suggestions, Text.allPrintable line = true := by
  simp only [reportLines, List.forall_mem_cons]
  refine ⟨?_, ?_, ?_, ?_⟩
  · simp +decide [hword, hmessage]
  · simp +decide [hplace]
  · simp +decide [hhelp]
  · split
    · simp
    · simpa +decide using hsuggestions

lemma Diagnostic.isReportedIn {d : Diagnostic} {word help : String} {location : Location}
    {suggestions : List String} (hword : d.severity.toUpper = word)
    (hlocation : d.location = some location) (hhelp : d.help = some help)
    (hsuggestions : d.suggestions = some suggestions) (hne : help ≠ "")
    (hprintable : ∀ line ∈ reportLines word d.message location.display help suggestions,
      Text.allPrintable line = true) :
    d.IsReportedIn word (reportLines word d.message location.display help suggestions) := by
  subst hword
  exact ⟨⟨location, help, suggestions, hlocation, hhelp, hsuggestions, rfl⟩,
    text_eq_join hlocation hhelp hsuggestions hne, hprintable⟩

/-! ### Warnings -/

lemma allPrintable_of_mem_operatorSuggestions (s : String) :
    ∀ suggestion ∈ operatorSuggestions s, Text.allPrintable suggestion = true := by
  unfold operatorSuggestions
  split <;> decide

/-- A character is shown in an explanation only if it is printable, else its digits are. -/
lemma Diagnostic.of_characterHelp_eq_ok {s help : String} (h : characterHelp s = .ok help) :
    help ≠ "" ∧ Text.allPrintable help = true := by
  unfold characterHelp at h
  split at h
  · rename_i hprintable
    obtain rfl := Except.ok.inj h
    constructor
    · simp
    · simp +decide [hprintable]
  · split at h
    · rename_i c hc
      obtain rfl := Except.ok.inj h
      constructor
      · simp
      · simpa +decide using fun d hd => Text.isPrintable_of_mem_codePointDigits hd
    · cases h

lemma Diagnostic.exists_isReportedIn_of_unrecognized {s : String} {location : Location}
    {d : Diagnostic} (h : unrecognized s location = .ok d)
    (hfilename : Text.allPrintable location.filename = true) :
    ∃ lines, d.IsReportedIn "WARNING" lines := by
  rw [unrecognized] at h
  cases hhelp : characterHelp s with
  | error e => simp [hhelp] at h
  | ok help =>
    rw [hhelp] at h
    obtain rfl := Except.ok.inj h
    obtain ⟨hne, hprintable⟩ := of_characterHelp_eq_ok hhelp
    have hword : "warning".toUpper = "WARNING" := by decide +kernel
    refine ⟨_, isReportedIn hword rfl rfl rfl hne ?_⟩
    apply allPrintable_of_mem_reportLines
    · decide
    · simp +decide [warning]
    · exact Location.allPrintable_display hfilename
    · exact hprintable
    · exact allPrintable_of_mem_operatorSuggestions s

/-! ### Errors -/

lemma Kind.allPrintable_name (k : Kind) : Text.allPrintable k.name = true := by
  cases k <;> decide

lemma Construct.allPrintable_description (construct : Construct) :
    Text.allPrintable construct.description = true := by
  cases construct <;> decide

lemma allPrintable_of_mem_missingSuggestions (missing : Option Kind) :
    ∀ suggestion ∈ missingSuggestions missing, Text.allPrintable suggestion = true := by
  unfold missingSuggestions
  split <;> decide

namespace SyntaxError

variable {expected : String} {missing : Option Kind}

lemma exists_isReportedIn_unexpectedToken {found : Token}
    (hexpected : Text.allPrintable expected = true)
    (hfilename : Text.allPrintable found.location.filename = true) :
    ∃ lines, (unexpectedToken expected found missing).diagnostic.IsReportedIn "ERROR" lines := by
  have hword : "error".toUpper = "ERROR" := by decide +kernel
  refine ⟨_, Diagnostic.isReportedIn hword rfl rfl rfl ?_ ?_⟩
  · simp
  apply allPrintable_of_mem_reportLines
  · decide
  · simp +decide [unexpectedToken, withMessage, Token.describe, hexpected, Kind.allPrintable_name]
  · exact Location.allPrintable_display hfilename
  · simp +decide [hexpected]
  · refine List.forall_mem_append.2 ⟨allPrintable_of_mem_missingSuggestions missing, ?_⟩
    split
    · exact allPrintable_of_mem_operatorSuggestions found.lexeme
    · simp

lemma exists_isReportedIn_unexpectedEnd {location : Location}
    (hexpected : Text.allPrintable expected = true)
    (hfilename : Text.allPrintable location.filename = true) :
    ∃ lines, (unexpectedEnd expected (some location) missing).diagnostic.IsReportedIn "ERROR"
      lines := by
  have hword : "error".toUpper = "ERROR" := by decide +kernel
  refine ⟨_, Diagnostic.isReportedIn hword rfl rfl rfl ?_ ?_⟩
  · simp
  apply allPrintable_of_mem_reportLines
  · decide
  · simp +decide [unexpectedEnd, withMessage, hexpected]
  · exact Location.allPrintable_display hfilename
  · simp +decide [hexpected]
  · exact allPrintable_of_mem_missingSuggestions missing

end SyntaxError

lemma exists_isReportedIn_of_countStatements {tokens : List Token} {e : SyntaxError}
    (h : countStatements tokens = .error e)
    (hfilename : ∀ t ∈ tokens, Text.allPrintable t.location.filename = true) :
    ∃ lines, e.diagnostic.IsReportedIn "ERROR" lines := by
  obtain ⟨construct, t, ht, rfl | ⟨-, rfl⟩⟩ := exists_of_countStatements_eq_error h
  · exact SyntaxError.exists_isReportedIn_unexpectedToken construct.allPrintable_description
      (hfilename t ht)
  · exact SyntaxError.exists_isReportedIn_unexpectedEnd construct.allPrintable_description
      (hfilename t ht)

/-! ### Verdicts -/

lemma consistsOf_intercalate {lines : List String} (hne : lines ≠ [])
    (h : ∀ line ∈ lines, Text.allPrintable line = true) :
    ConsistsOf ("\n".intercalate lines ++ "\n") lines := by
  refine ⟨?_, h⟩
  clear h
  induction lines with
  | nil => exact absurd rfl hne
  | cons line lines ih =>
    cases lines with
    | nil => simp
    | cons next lines =>
      rw [String.intercalate_cons_of_ne_nil (by simp), String.append_assoc, ih (by simp)]
      simp [String.append_assoc]

/-- Statistics are reported in six lines. -/
lemma Statistics.exists_consistsOf_report (s : Statistics) :
    ∃ lines, lines.length = 6 ∧ ConsistsOf (s.report ++ "\n") lines := by
  refine ⟨_, rfl, consistsOf_intercalate (by simp) ?_⟩
  simp +decide

/-- The line that tells what the outcome is. -/
def Verdict.headline (v : Verdict) : String :=
  match v.outcome with
  | .ok n => v.filename ++ ": the program is valid (" ++ toString n ++ " statement(s))."
  | .error _ => v.filename ++ ": the program is NOT valid."

/-- The lines that explain a verdict under its headline: six of statistics, or those of an error. -/
structure Verdict.IsExplainedIn (v : Verdict) (lines : List String) : Prop where
  accepted : ∀ n, v.outcome = .ok n → lines.length = 6
  rejected : ∀ e, v.outcome = .error e → e.diagnostic.IsReportedIn "ERROR" lines
  text : ConsistsOf v.verdictText (v.headline :: lines)

/-- The lines that are written about a text: some for each warning, one for each token, and those
of the verdict. -/
structure Verdict.IsWrittenIn (v : Verdict) (warnings : List (List String))
    (tokens explanation : List String) : Prop where
  eachWarning : List.Forall₂ (fun (d : Diagnostic) lines => d.IsReportedIn "WARNING" lines)
    (characterWarnings v.tokens) warnings
  eachToken : tokens = v.tokens.map fun t => t.location.display ++ ": " ++ t.display
  verdict : v.IsExplainedIn explanation
  errorOutput : ConsistsOf v.warningText warnings.flatten
  output : ∀ showTokens, ConsistsOf (v.printed { showTokens })
    ((if showTokens then tokens else []) ++ v.headline :: explanation)

section

variable {rule : KeywordRule} {filename source : String} {t : Token} {v : Verdict}

lemma filename_of_mem_readTokens (h : t ∈ readTokens rule filename source) :
    t.location.filename = filename := by
  obtain ⟨i, hi⟩ := standsAt_of_mem_readTokens h
  rw [hi.location]

namespace Verdict

lemma exists_warningLines (h : ∀ t ∈ v.tokens, Text.allPrintable t.location.filename = true) :
    ∃ warnings, List.Forall₂ (fun (d : Diagnostic) lines => d.IsReportedIn "WARNING" lines)
      (characterWarnings v.tokens) warnings := by
  have hreported : ∀ d ∈ characterWarnings v.tokens, ∃ lines, d.IsReportedIn "WARNING" lines := by
    intro d hd
    obtain ⟨t, ht, hmade⟩ := List.mem_filterMap.1 hd
    split_ifs at hmade
    cases hd' : Diagnostic.unrecognized t.lexeme t.location with
    | error e => simp [hd', Except.toOption] at hmade
    | ok d' =>
      simp only [hd', Except.toOption, Option.some.injEq] at hmade
      subst hmade
      exact Diagnostic.exists_isReportedIn_of_unrecognized hd' (h t ht)
  choose! lines hlines using hreported
  exact ⟨_, List.forall₂_map_right_iff.2 (List.forall₂_same.2 hlines)⟩

lemma consistsOf_tokenText (h : ∀ t ∈ v.tokens, Text.allPrintable t.location.filename = true) :
    ConsistsOf v.tokenText (v.tokens.map fun t => t.location.display ++ ": " ++ t.display) := by
  constructor
  · simp [tokenText, Function.comp_def, String.append_assoc]
  · intro line hline
    obtain ⟨t, ht, rfl⟩ := List.mem_map.1 hline
    have hplace := Location.allPrintable_display (h t ht)
    simp +decide [hplace, Token.display, Kind.allPrintable_name]

lemma consistsOf_headline (hname : Text.allPrintable v.filename = true) :
    ConsistsOf (v.headline ++ "\n") [v.headline] := by
  apply consistsOf_line
  unfold headline
  split <;> simp +decide [hname]

lemma exists_isExplainedIn_of_ok {n : Nat} (houtcome : v.outcome = .ok n)
    (hname : Text.allPrintable v.filename = true) : ∃ lines, v.IsExplainedIn lines := by
  obtain ⟨lines, hlength, hlines⟩ := v.statistics.exists_consistsOf_report
  refine ⟨lines, fun _ _ => hlength, by simp [houtcome], ?_⟩
  have htext : v.verdictText = v.headline ++ "\n" ++ (v.statistics.report ++ "\n") := by
    simp [verdictText, headline, houtcome, String.append_assoc]
  rw [htext]
  exact (consistsOf_headline hname).append hlines

lemma isExplainedIn_of_error {e : SyntaxError} {lines : List String}
    (houtcome : v.outcome = .error e) (hname : Text.allPrintable v.filename = true)
    (hlines : e.diagnostic.IsReportedIn "ERROR" lines) : v.IsExplainedIn lines := by
  refine ⟨by simp [houtcome], ?_, ?_⟩
  · intro e' he'
    rw [houtcome] at he'
    obtain rfl := Except.error.inj he'
    exact hlines
  · have htext : v.verdictText = v.headline ++ "\n" ++ e.diagnostic.text := by
      simp [verdictText, headline, houtcome, SyntaxError.text, String.append_assoc]
    rw [htext]
    exact (consistsOf_headline hname).append hlines.text

/-- The lines that list the tokens stand in front of those of the verdict. -/
lemma consistsOf_printed {tokens verdict : List String} (htokens : ConsistsOf v.tokenText tokens)
    (hverdict : ConsistsOf v.verdictText verdict) (showTokens : Bool) :
    ConsistsOf (v.printed { showTokens }) ((if showTokens then tokens else []) ++ verdict) := by
  cases showTokens with
  | false => simpa [printed] using hverdict
  | true => simpa [printed] using htokens.append hverdict

lemma exists_isWrittenIn_ofText (rule : KeywordRule) (source : String)
    (hname : Text.allPrintable filename = true) :
    ∃ warnings tokens explanation,
      (ofText rule filename source).IsWrittenIn warnings tokens explanation := by
  set v := ofText rule filename source
  have hnames : ∀ t ∈ v.tokens, Text.allPrintable t.location.filename = true := by
    intro t ht
    rw [filename_of_mem_readTokens ht]
    exact hname
  obtain ⟨warnings, hwarnings⟩ := exists_warningLines hnames
  have htokens := consistsOf_tokenText hnames
  obtain ⟨explanation, hverdict⟩ : ∃ lines, v.IsExplainedIn lines := by
    cases houtcome : v.outcome with
    | ok n => exact exists_isExplainedIn_of_ok houtcome hname
    | error e =>
      obtain ⟨lines, hlines⟩ := exists_isReportedIn_of_countStatements houtcome hnames
      exact ⟨lines, isExplainedIn_of_error houtcome hname hlines⟩
  refine ⟨warnings, _, explanation, hwarnings, rfl, hverdict, ?_,
    consistsOf_printed htokens hverdict.text⟩
  apply ConsistsOf.join
  exact List.forall₂_map_left_iff.2 (hwarnings.imp fun d lines hd => hd.text)

/-- What is written about a text under a printable name consists of printable lines, so it holds
printable characters and the line feeds at the ends of the lines only. -/
theorem written_in_printable_lines (rule : KeywordRule) (filename source : String)
    (hname : Text.allPrintable filename = true) :
    let v := ofText rule filename source
    (∃ warnings tokens explanation, v.IsWrittenIn warnings tokens explanation) ∧
      ∀ showTokens, ∀ c ∈ (v.warningText ++ v.printed { showTokens }).toList,
        c = '\n' ∨ Text.isPrintable c = true := by
  intro v
  obtain ⟨warnings, tokens, explanation, hwritten⟩ := exists_isWrittenIn_ofText rule source hname
  refine ⟨⟨warnings, tokens, explanation, hwritten⟩, ?_⟩
  intro showTokens c hc
  exact (hwritten.errorOutput.append (hwritten.output showTokens)).eq_lineFeed_or_isPrintable hc

/-- A text that would turn a terminal red and begin a line of its own. -/
theorem written_in_printable_lines_escape :
    let source := "\x1b[31m\u2028 = 'a\r\n"
    let v := ofText .wholeWord "naïve" source
    (Text.allPrintable "naïve" = true ∧ Text.allPrintable source = false ∧
        (characterWarnings v.tokens).length = 5) ∧
      ∀ c ∈ (v.warningText ++ v.printed { showTokens := true }).toList,
        c = '\n' ∨ Text.isPrintable c = true := by
  intro source v
  have hname : Text.allPrintable "naïve" = true := by decide
  refine ⟨⟨hname, by decide +kernel, by decide +kernel⟩, ?_⟩
  exact (written_in_printable_lines .wholeWord "naïve" source hname).2 true

end Verdict

end

end BoolWhile
