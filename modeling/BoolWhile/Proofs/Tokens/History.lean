import BoolWhile.Proofs.Tokens.Locality
import BoolWhile.Proofs.Tokens.Warnings
import BoolWhile.Scan
import Mathlib.Data.List.DropRight
import Mathlib.Logic.Relation

/-!
# What a reading depends on

Whatever was done in a session, reading depends on three things only: the text and the name that
were set last, and the keyword rule that was chosen last when it was last applied. Nothing that an
earlier reading left behind matters, for reading forgets it and then scans the text piece by piece
(`Session.read_scans`).
-/

namespace BoolWhile

namespace Session

/-! ### What was set last -/

/-- The text that an action sets. -/
def Action.source? : Action → Option String
  | setSource source => some source
  | _ => none

/-- The name that an action sets. -/
def Action.filename? : Action → Option String
  | setFilename filename => some filename
  | _ => none

/-- The keyword rule that an action chooses. -/
def Action.rule? : Action → Option KeywordRule
  | choose rule => some rule
  | _ => none

/-- The value that actions set last, if they set it at all. -/
def lastSet {α : Type} (value? : Action → Option α) (before : α) (actions : List Action) : α :=
  (actions.filterMap value?).getLastD before

/-- The keyword rule that was chosen last when it was last applied. -/
def lastApplied (rule : KeywordRule) (actions : List Action) : KeywordRule :=
  lastSet Action.rule? rule (actions.rdropWhile (· ≠ .applyRule))

section

variable {s : Session} {rule : KeywordRule} {filename source : String} {actions : List Action}

lemma lastSet_append {α : Type} (value? : Action → Option α) (before : α)
    (actions : List Action) (action : Action) :
    lastSet value? before (actions ++ [action]) =
      (value? action).getD (lastSet value? before actions) := by
  cases h : value? action with
  | none => simp [lastSet, h]
  | some a => simp [lastSet, h, List.getLastD_eq_getLast?]

lemma lastApplied_append (rule : KeywordRule) (actions : List Action) (action : Action) :
    lastApplied rule (actions ++ [action]) =
      if action = .applyRule then lastSet Action.rule? rule actions
      else lastApplied rule actions := by
  by_cases h : action = .applyRule
  · subst h
    rw [lastApplied, List.rdropWhile_concat_neg _ _ _ (by simp), if_pos rfl, lastSet_append]
    rfl
  · rw [lastApplied, List.rdropWhile_concat_pos _ _ _ (by simpa using h), if_neg h]
    rfl

/-! ### Sessions hold what was set last -/

lemma source_act (s : Session) (action : Action) :
    (s.act action).source = action.source?.getD s.source := by
  cases action <;> rfl

lemma filename_act (s : Session) (action : Action) :
    (s.act action).filename = action.filename?.getD s.filename := by
  cases action <;> rfl

lemma chosen_act (s : Session) (action : Action) :
    (s.act action).chosen = action.rule?.getD s.chosen := by
  cases action <;> rfl

lemma inForce_act (s : Session) (action : Action) :
    (s.act action).inForce = if action = .applyRule then s.chosen else s.inForce := by
  cases action <;> simp [act, read, advance]

/-- A session holds what the actions in it have set last. -/
structure Holds (s : Session) (rule : KeywordRule) (filename source : String)
    (actions : List Action) : Prop where
  source : s.source = lastSet Action.source? source actions
  filename : s.filename = lastSet Action.filename? filename actions
  chosen : s.chosen = lastSet Action.rule? rule actions
  inForce : s.inForce = lastApplied rule actions

lemma holds_start : (start rule filename source).Holds rule filename source [] :=
  ⟨rfl, rfl, rfl, rfl⟩

lemma Holds.act (h : s.Holds rule filename source actions) (action : Action) :
    (s.act action).Holds rule filename source (actions ++ [action]) where
  source := by rw [source_act, lastSet_append, h.source]
  filename := by rw [filename_act, lastSet_append, h.filename]
  chosen := by rw [chosen_act, lastSet_append, h.chosen]
  inForce := by rw [inForce_act, lastApplied_append, h.chosen, h.inForce]

lemma holds_run (rule : KeywordRule) (filename source : String) (actions : List Action) :
    ((start rule filename source).run actions).Holds rule filename source actions := by
  induction actions using List.reverseRecOn with
  | nil => exact holds_start
  | append_singleton actions action ih =>
    rw [run, List.foldl_append]
    exact ih.act action

end

/-! ### Scanning -/

/-- Takes up a piece of the text: the token that it is, with its warning, and where it ends. -/
def takeUp (s : Session) (piece : Piece) : Session :=
  let tokens := (Token.ofPiece? s.filename s.position piece).toList
  { s with
    position := s.position.advance piece.text
    tokens := s.tokens ++ tokens
    warnings := s.warnings ++ characterWarnings tokens }

/-- Takes up the piece at the position, unless that is the end of the text. -/
def scan? (s : Session) : Option Session :=
  match s.source.toList.drop s.position.offset with
  | [] => none
  | c :: cs => some (s.takeUp (Piece.first s.inForce c cs))

/-- What is found where the rest of the text is read behind the position. -/
def readOn (s : Session) (rest : List Char) : Session :=
  let tokens := tokensFrom s.inForce s.filename s.position rest
  { s with
    position := s.position.advance rest
    tokens := s.tokens ++ tokens
    warnings := s.warnings ++ characterWarnings tokens }

lemma readOn_cons (s : Session) (c : Char) (cs : List Char) :
    s.readOn (c :: cs) =
      (s.takeUp (Piece.first s.inForce c cs)).readOn (Piece.rest s.inForce c cs) := by
  have hadvance : s.position.advance (c :: cs) =
      (s.position.advance (Piece.first s.inForce c cs).text).advance
        (Piece.rest s.inForce c cs) := by
    rw [← Position.advance_append, Piece.first_append_rest]
  simp [readOn, takeUp, tokensFrom_cons, hadvance, characterWarnings_append]

/-- Scanning on from any place of the text comes to its end, with what is found on the way. -/
lemma scans_readOn {s : Session} (before rest : List Char)
    (hsource : s.source.toList = before ++ rest) (hoffset : s.position.offset = before.length) :
    Relation.ReflTransGen (fun s t : Session => s.scan? = some t) s (s.readOn rest) := by
  match rest with
  | [] =>
    have hend : s.readOn [] = s := by simp [readOn, characterWarnings]
    rw [hend]
  | c :: cs =>
    have hscan : s.scan? = some (s.takeUp (Piece.first s.inForce c cs)) := by
      simp [scan?, hsource, hoffset]
    have := Piece.length_rest_le s.inForce c cs
    rw [readOn_cons]
    refine .head hscan (scans_readOn (before ++ (Piece.first s.inForce c cs).text) _ ?_ ?_)
    · show s.source.toList = _
      rw [hsource, List.append_assoc, Piece.first_append_rest]
    · show (s.position.advance _).offset = _
      rw [Position.offset_advance, hoffset, List.length_append]
termination_by rest.length
decreasing_by
  simp only [List.length_cons]
  omega

/-- Reading forgets what was found before, and scans the text to its end. -/
theorem read_scans (s : Session) :
    Relation.ReflTransGen (fun s t : Session => s.scan? = some t) s.rewind s.read ∧
      s.read.scan? = none := by
  have hread : s.read = s.rewind.readOn s.source.toList := rfl
  constructor
  · rw [hread]
    exact scans_readOn [] _ rfl rfl
  · have hoffset : s.read.position.offset = s.source.toList.length := by
      simp [read, endOfText, Position.start]
    have hrest : s.read.source.toList.drop s.read.position.offset = [] := by
      rw [hoffset]
      exact List.drop_length
    rw [scan?, hrest]

/-! ### Reading after anything else -/

lemma position_read (s : Session) :
    s.read.position =
      ⟨s.source.length, 1 + s.source.toList.count '\n', 1 + lastLineWidth s.source.toList⟩ := by
  have hwidth := lastLineWidth_eq s.source.toList
  show Position.start.advance s.source.toList = _
  rw [Position.start_advance, Position.mk.injEq]
  refine ⟨String.length_toList, rfl, ?_⟩
  omega

lemma hasWarnings_read_iff (s : Session) :
    s.read.hasWarnings = true ↔ ∃ t ∈ s.read.tokens, t.kind = .unknown := by
  rw [← warnings_read_ne_nil_iff, hasWarnings]
  simp

/-- Whatever was done before, reading finds what it finds in a new session with the text and the
name set last and with the keyword rule applied last: it forgets the rest and scans the text to its
end. It leaves the position there, behind the last line. -/
theorem read_run (rule : KeywordRule) (filename source : String) (actions : List Action) :
    let s := (start rule filename source).run actions
    let text := lastSet Action.source? source actions
    let fresh := start (lastApplied rule actions) (lastSet Action.filename? filename actions) text
    s.read = { fresh.read with chosen := lastSet Action.rule? rule actions } ∧
      (Relation.ReflTransGen (fun s t : Session => s.scan? = some t) s.rewind s.read ∧
        s.read.scan? = none) ∧
      s.read.position =
        ⟨text.length, 1 + text.toList.count '\n', 1 + lastLineWidth text.toList⟩ ∧
      (s.read.hasWarnings = true ↔ ∃ t ∈ s.read.tokens, t.kind = .unknown) := by
  intro s text fresh
  have hholds : s.Holds rule filename source actions := holds_run rule filename source actions
  have hread : s.read = { fresh.read with chosen := lastSet Action.rule? rule actions } := by
    show { s with position := _, tokens := _, warnings := _ } = _
    simp [fresh, read, start, text, hholds.source, hholds.filename, hholds.chosen,
      hholds.inForce]
  refine ⟨hread, s.read_scans, ?_, s.hasWarnings_read_iff⟩
  have hposition := s.position_read
  rwa [hholds.source] at hposition

end Session

end BoolWhile
