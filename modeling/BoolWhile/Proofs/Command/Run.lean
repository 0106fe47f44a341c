import BoolWhile.Command.Run
import BoolWhile.Proofs.Recognition.Steps

/-!
# What a run adds up to

A run takes up the results of its files one by one. What it holds after some of them is described
once, and every step keeps the description (`RunState.AddsUp`), so a run leaves the sum of its
results behind: `checkInputs_eq` holds all that is needed about the loop. The files of a run are
those that its arguments ask for, and each of them is looked up on its own, so it makes no
difference whether they are all asked for beforehand (`run_among`).
-/

namespace BoolWhile

/-! ### Arguments -/

/-- The spelling of an option in full. -/
def Flag.longSpelling : Flag → String
  | help => "--help"
  | strictKeywords => "--strict-keywords"
  | tokens => "--tokens"
  | json => "--json"
  | version => "--version"

/-- The options that ask for settings. -/
def Settings.flags (settings : Settings) : List Flag :=
  (if settings.rule = .wholeWord then [.strictKeywords] else []) ++
    (if settings.format.showTokens then [.tokens] else []) ++
    if settings.format.asJson then [.json] else []

lemma Argument.ofText_longSpelling (flag : Flag) :
    ofText flag.longSpelling = .ok (option flag none) := by
  cases flag <;> decide +kernel

/-- Options in front of a double dash are followed in their order, and all behind it are files. -/
lemma Request.ofArguments_flags (flags : List Flag) (files : List String) :
    ofArguments (flags.map Flag.longSpelling ++ "--" :: files) =
      CommandState.follow {} (some files) (flags.map (Argument.option · none)) := by
  have hne : ∀ argument ∈ flags.map Flag.longSpelling, decide (argument ≠ "--") = true := by
    intro argument hmem
    obtain ⟨flag, -, rfl⟩ := List.mem_map.1 hmem
    cases flag <;> decide
  have hsorted : (flags.map Flag.longSpelling).mapM Argument.ofText =
      .ok (flags.map (Argument.option · none)) := by
    induction flags with
    | nil => rfl
    | cons flag flags ih =>
      have hrest := ih fun argument hmem => hne argument (List.mem_cons_of_mem _ hmem)
      rw [List.map_cons, List.mapM_cons, Argument.ofText_longSpelling, ok_bind, hrest]
      rfl
  rw [ofArguments, List.takeWhile_append_of_pos hne, List.dropWhile_append_of_pos hne]
  simp [hsorted]

/-- Every check of files can be asked for. -/
lemma Request.exists_arguments (settings : Settings) {files : List String} (hne : files ≠ []) :
    ∃ arguments, ofArguments arguments = .ok (.check settings files) := by
  refine ⟨settings.flags.map Flag.longSpelling ++ "--" :: files, ?_⟩
  rw [ofArguments_flags]
  obtain ⟨rule, showTokens, asJson⟩ := settings
  obtain ⟨file, files, rfl⟩ := List.exists_cons_of_ne_nil hne
  cases rule <;> cases showTokens <;> cases asJson <;> rfl

/-! ### Results -/

lemma join_eq_empty {texts : List String} (h : ∀ text ∈ texts, text = "") :
    String.join texts = "" := by
  induction texts with
  | nil => rfl
  | cons text texts ih =>
    rw [String.join_cons, h text List.mem_cons_self,
      ih fun other hmem => h other (List.mem_cons_of_mem text hmem), String.append_empty]

namespace Result

def isUnreadable : Result → Bool
  | checked _ => false
  | unreadable .. => true

/-- Whether a text is no program. -/
def isRejected : Result → Bool
  | checked verdict => !verdict.isValid
  | unreadable .. => false

variable {rule : KeywordRule} {input : Input}

lemma ofInput_of_ok {source : String} (h : input.content = .ok source) :
    ofInput rule input = checked (.ofText rule input.name source) := by
  rw [ofInput, h]

lemma ofInput_of_error {fault : ReadFault} (h : input.content = .error fault) :
    ofInput rule input = unreadable input.name fault.message := by
  rw [ofInput, h]

/-- The exit code that results call for. -/
def exitCode (results : List Result) : Nat :=
  if results.any isUnreadable then 2 else if results.any isRejected then 1 else 0

lemma exitCode_append (rs ss : List Result) :
    exitCode (rs ++ ss) = max (exitCode rs) (exitCode ss) := by
  simp only [exitCode, List.any_append]
  cases rs.any isUnreadable <;> cases ss.any isUnreadable <;> cases rs.any isRejected <;>
    cases ss.any isRejected <;> rfl

lemma exitCode_le (results : List Result) : exitCode results ≤ 2 := by
  unfold exitCode
  split_ifs <;> decide

lemma exitCode_eq_zero_iff {results : List Result} :
    exitCode results = 0 ↔
      ∀ result ∈ results, result.isUnreadable = false ∧ result.isRejected = false := by
  have hunreadable : results.any isUnreadable = false ↔
      ∀ result ∈ results, result.isUnreadable = false := by simp
  have hrejected : results.any isRejected = false ↔
      ∀ result ∈ results, result.isRejected = false := by simp
  rw [forall₂_and, ← hunreadable, ← hrejected, exitCode]
  cases results.any isUnreadable <;> cases results.any isRejected <;> simp

/-- Only the list of records is printed if there is one. -/
lemma join_printed_of_asJson {format : OutputFormat} (h : format.asJson = true)
    (results : List Result) : String.join (results.map (printed format)) = "" := by
  refine join_eq_empty fun text hmem => ?_
  obtain ⟨result, -, rfl⟩ := List.mem_map.1 hmem
  cases result <;> simp [printed, Verdict.printed, h]

end Result

/-- The sum of some results. -/
def Output.ofResults (format : OutputFormat) (results : List Result) : Output where
  exitCode := Result.exitCode results
  printed :=
    if format.asJson then (Json.arr (results.map (Result.record format))).text ++ "\n"
    else String.join (results.map (Result.printed format))
  errors := String.join (results.map Result.errors)

/-! ### The loop over the results -/

namespace RunState

/-- What a run holds once it has taken up some results. -/
structure AddsUp (format : OutputFormat) (results : List Result) (s : RunState) : Prop where
  exitCode : s.exitCode = Result.exitCode results
  printed : s.printed = String.join (results.map (Result.printed format))
  errors : s.errors = String.join (results.map Result.errors)
  records : s.records.reverse = results.map (Result.record format)

variable {settings : Settings} {format : OutputFormat} {results : List Result} {s : RunState}

lemma addsUp_start : AddsUp format [] {} := ⟨rfl, rfl, rfl, rfl⟩

/-- The exit code never gets better. It would be set back if it could be more than two. -/
lemma exitCode_add (h : s.exitCode ≤ 2) (result : Result) :
    (s.add format result).exitCode = max s.exitCode (Result.exitCode [result]) := by
  cases result with
  | unreadable name message =>
    show 2 = max s.exitCode 2
    rw [Nat.max_eq_right h]
  | checked verdict =>
    cases hvalid : verdict.isValid with
    | true => simp [add, Result.exitCode, Result.isUnreadable, Result.isRejected, hvalid]
    | false =>
      have hcode : Result.exitCode [.checked verdict] = 1 := by
        simp [Result.exitCode, Result.isUnreadable, Result.isRejected, hvalid]
      rw [hcode]
      simp only [add, hvalid, Bool.not_false, Bool.true_and, decide_eq_true_eq]
      split <;> omega

lemma AddsUp.add (h : AddsUp format results s) (result : Result) :
    AddsUp format (results ++ [result]) (s.add format result) where
  exitCode := by
    have hle : s.exitCode ≤ 2 := h.exitCode ▸ Result.exitCode_le results
    rw [exitCode_add hle, h.exitCode, Result.exitCode_append]
  printed := by simp [RunState.add, h.printed]
  errors := by simp [RunState.add, h.errors]
  records := by simp [RunState.add, h.records]

lemma AddsUp.foldl (h : AddsUp settings.format results s) (inputs : List Input) :
    AddsUp settings.format (results ++ inputs.map (Result.ofInput settings.rule))
      (inputs.foldl (RunState.check settings) s) := by
  induction inputs generalizing results s with
  | nil => simpa using h
  | cons input inputs ih =>
    have hrest := ih (h.add (.ofInput settings.rule input))
    rwa [List.append_assoc] at hrest

lemma AddsUp.finish (h : AddsUp format results s) :
    s.finish format = .ofResults format results := by
  rw [RunState.finish, Output.ofResults, h.exitCode, h.printed, h.errors, h.records]
  cases hjson : format.asJson with
  | false => simp
  | true => simp [Result.join_printed_of_asJson hjson]

end RunState

/-- A run leaves the sum of its results behind. -/
theorem checkInputs_eq (settings : Settings) (inputs : List Input) :
    checkInputs settings inputs =
      .ofResults settings.format (inputs.map (Result.ofInput settings.rule)) :=
  (RunState.addsUp_start.foldl inputs).finish

/-! ### Inputs -/

namespace Reader

variable {reader other : Reader} {standard standard' : List Contents} {files : List String}

/-- Files are looked up one by one. What is read from the standard input is gone. -/
lemma load_append (reader : Reader) (standard : List Contents) (fs gs : List String) :
    reader.load standard (fs ++ gs) =
      reader.load standard fs ++ reader.load (standard.drop (fs.count "-")) gs := by
  induction fs generalizing standard with
  | nil => simp [load]
  | cons path fs ih =>
    by_cases hpath : path = "-"
    · subst hpath
      simp [load, Input.isStandard, ih]
    · simp [load, Input.isStandard, ih, hpath]

lemma text_headD (standard : List Contents) :
    (standard.headD (.ok .empty)).text =
      (standard.map Contents.text).headD (readBytes .empty) := by
  cases standard <;> rfl

/-- What is looked up depends on what the system gives for it, and on nothing else. -/
lemma load_congr (h : ∀ path ∈ files, reader.read path = other.read path)
    (hstandard : standard.map Contents.text = standard'.map Contents.text) :
    reader.load standard files = other.load standard' files := by
  induction files generalizing standard standard' with
  | nil => rfl
  | cons path files ih =>
    obtain ⟨hpath, hfiles⟩ := List.forall_mem_cons.1 h
    have hhead : (standard.headD (.ok .empty)).text = (standard'.headD (.ok .empty)).text := by
      rw [text_headD, text_headD, hstandard]
    have htail : standard.tail.map Contents.text = standard'.tail.map Contents.text := by
      rw [List.map_tail, List.map_tail, hstandard]
    rw [load, load, hpath, hhead, ih hfiles htail, ih hfiles hstandard]

/-- Without the standard input among the files, it does not matter. -/
lemma load_of_not_mem (standard standard' : List Contents) (h : "-" ∉ files) :
    reader.load standard files = reader.load standard' files := by
  induction files with
  | nil => rfl
  | cons path files ih =>
    obtain ⟨hpath, hfiles⟩ := not_or.1 (List.mem_cons.not.1 h)
    have hne : path ≠ "-" := fun heq => hpath heq.symm
    simp [load, Input.isStandard, hne, ih hfiles]

/-- If the standard input is read at most once, all files are looked up on their own. -/
lemma load_append_of_count_le_one {fs gs : List String} (h : (fs ++ gs).count "-" ≤ 1) :
    reader.load standard (fs ++ gs) = reader.load standard fs ++ reader.load standard gs := by
  rw [load_append]
  by_cases hfs : "-" ∈ fs
  · have hgs : "-" ∉ gs := by
      have hpos := List.count_pos_iff.2 hfs
      rw [List.count_append] at h
      exact List.count_eq_zero.1 (by omega)
    rw [load_of_not_mem _ standard hgs]
  · rw [List.count_eq_zero.2 hfs, List.drop_zero]

lemma map_path_load (reader : Reader) (standard : List Contents) (files : List String) :
    (reader.load standard files).map Input.path = files := by
  induction files generalizing standard with
  | nil => rfl
  | cons path files ih =>
    rw [load]
    split_ifs <;> simp [ih]

/-- What was found under a path is given for it. -/
lemma among_map_of_mem {path : String} (h : path ∈ files) :
    among (files.map fun path => (path, reader path)) path = reader path := by
  induction files with
  | nil => cases h
  | cons first files ih =>
    rw [among, List.map_cons]
    by_cases hpath : path = first
    · subst hpath
      rw [List.lookup_cons_self]
      rfl
    · have hne : (path == first) = false := by simpa using hpath
      rw [List.lookup_cons, hne]
      exact ih ((List.mem_cons.1 h).resolve_left hpath)

end Reader

/-! ### Whole runs -/

section

variable {reader other : Reader} {standard standard' : List Contents} {arguments : List String}

/-- A run depends on what is read in the files that it is asked for, and on nothing else. -/
lemma run_congr (h : ∀ path ∈ requestedFiles arguments, reader.read path = other.read path)
    (hstandard : standard.map Contents.text = standard'.map Contents.text) :
    run reader standard arguments = run other standard' arguments := by
  rw [requestedFiles] at h
  rw [run, run]
  cases hrequest : Request.ofArguments arguments with
  | error e => rfl
  | ok request =>
    rw [hrequest] at h
    dsimp only
    rw [Reader.load_congr h hstandard]

/-- The files of a run may as well be asked for before it begins. -/
theorem run_among (reader : Reader) (standard : List Contents) (arguments : List String) :
    run (.among ((requestedFiles arguments).map fun path => (path, reader path))) standard
      arguments = run reader standard arguments := by
  refine run_congr (fun path hpath => ?_) rfl
  rw [Reader.read, Reader.read, Reader.among_map_of_mem hpath]

end

/-- What a run over files leaves behind, whatever the arguments are that ask for it. -/
structure RunsTo (reader : Reader) (standard : List Contents) (settings : Settings)
    (files : List String) (output : Output) : Prop where
  requested : ∃ arguments, Request.ofArguments arguments = .ok (.check settings files)
  output : ∀ arguments, Request.ofArguments arguments = .ok (.check settings files) →
    run reader standard arguments = .ok output

/-- Every run over files whose paths can be followed comes to an end with the sum of its results. -/
theorem runsTo_ofResults (reader : Reader) (standard : List Contents) (settings : Settings)
    {files : List String} (hne : files ≠ []) (hnull : ∀ path ∈ files, holdsNull path = false) :
    RunsTo reader standard settings files
      (.ofResults settings.format
        ((reader.load standard files).map (Result.ofInput settings.rule))) where
  requested := Request.exists_arguments settings hne
  output := by
    intro arguments h
    have hpaths : files.any holdsNull = false := by simpa using hnull
    rw [run, h]
    simp [Request.files, hpaths, Request.answer, checkInputs_eq]

end BoolWhile
