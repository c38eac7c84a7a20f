import Mathlib.Data.List.Forall2
import Userland.Log.Operation
import Userland.Proofs.Log.Shown
import Userland.Transcript

/-!
# A logger over its history

What has been asked of a logger that is in place matters in one respect only:
which threshold was set last.  To install the logger again, to flush it, to ask
it and to log leave the threshold as it is, and at any point the question whether
a level is shown is answered in agreement with what becomes of a record of this
level, whether it is logged from within a program or handed over directly.

`steps` keeps the operations of a history apart, because the lines in a record of
calls cannot be told apart by what they contain: a message may contain the end of
a line and the beginning of another.  `shownLines` are the lines of such a
history, one entry for each.  A history in which more talkative thresholds are
set shows every line that the other one shows, in the same order.

All this is about a kernel that accepts every write.  Where a write is refused, a
line may be cut short, and nothing is said about it here.
-/

namespace Userland
namespace Log

open Kernel Text

/-! ## One line is one entry -/

theorem condense_accepted {pieces : Pieces} (nonempty : pieces ≠ []) :
    Transcript.condense (pieces.map Terminal.accepted) =
      [Terminal.accepted (Pieces.text pieces)] := by
  induction pieces with
  | nil => exact absurd rfl nonempty
  | cons piece rest inductionHypothesis =>
      rw [List.map_cons, Transcript.condense]
      cases rest with
      | nil =>
          rw [Pieces.text_singleton]
          rfl
      | cons next others =>
          have joined : Pieces.text (piece :: next :: others) =
              piece ++ Pieces.text (next :: others) := by
            rw [Pieces.text, String.join_cons]
            rfl
          have merged : Transcript.merge? (Terminal.accepted piece)
              (Terminal.accepted (Pieces.text (next :: others))) =
                some (Terminal.accepted (piece ++ Pieces.text (next :: others))) := by
            simp only [Terminal.accepted, Transcript.merge?, if_true, encode_append,
              List.length_append]
          rw [inductionHypothesis (List.cons_ne_nil next others), joined]
          change Transcript.prepend (Terminal.accepted piece) _ = _
          rw [Transcript.prepend, merged]

theorem line_ne_nil (record : Record) : record.line ≠ [] := by
  apply List.append_ne_nil_of_right_ne_nil
  exact List.cons_ne_nil _ _

/-! ## One operation -/

/-- A session with a kernel and with the logger in place. -/
def inPlace (script : Script) (threshold : Threshold) : Session where
  host := .scripted script
  logging := { installed := true, threshold }

namespace Operation

/-- The threshold that is set, if one is set. -/
def setting? : Operation → Option Threshold
  | setThreshold threshold => some threshold
  | _ => none

/-- The record that is logged, if one is. -/
def record? : Operation → Option Record
  | log record | submit record => some record
  | _ => none

/-- What is answered. -/
def answer? (threshold : Threshold) : Operation → Option Bool
  | isEnabled level _ => some (threshold.admits level)
  | _ => none

/-- The pieces of the line that is shown, if one is. -/
def line (threshold : Threshold) (operation : Operation) : Pieces :=
  match operation.record? with
  | some record => shown { installed := true, threshold } record
  | none => []

end Operation

/-- The logger shows the records up to a threshold: the question about a level
and the fate of a record of this level agree, the target has no part in either,
and to log a record is to hand it over.  A record that is shown is one line. -/
structure ShowsUpTo (threshold : Threshold) (session : Session) : Prop where
  kept : ∀ operation : Operation, operation.setting? = none →
    (operation.perform session).session = session
  asked : ∀ (level : Level) (target : String), (Operation.isEnabled level target).perform session =
    ⟨.finished (some (threshold.admits level)), [], session⟩
  alike : ∀ record : Record,
    (Operation.log record).perform session = (Operation.submit record).perform session
  shown : ∀ record : Record, threshold.admits record.level = true →
    ∃ events, (Operation.submit record).perform session = ⟨.finished none, events, session⟩ ∧
      Transcript.condense events = [Terminal.accepted <|
        "\x1b[" ++ toString record.level.colour ++ "m[" ++
          Pieces.text (Pieces.padded levelWidth record.level.name) ++ "] [" ++
          origin record.target ++ "] " ++ Pieces.text record.message ++ "\x1b[0m\n"]
  hidden : ∀ record : Record, threshold.admits record.level = false →
    (Operation.submit record).perform session = ⟨.finished none, [], session⟩

section Performing

variable {script : Script} (accepts : script.AcceptsAll)

include accepts in
/-- What there is to see of an operation, and what it leaves. -/
theorem perform_inPlace (operation : Operation) (threshold : Threshold) :
    operation.perform (inPlace script threshold) =
      ⟨.finished (operation.answer? threshold),
        (operation.line threshold).map Terminal.accepted,
        inPlace script (operation.setting?.getD threshold)⟩ := by
  cases operation with
  | setThreshold level => rfl
  | install => rfl
  | flush => rfl
  | isEnabled level target => rfl
  | log record => exact Run.map_of_ran _ (log_accepted accepts _ record)
  | submit record => exact Run.map_of_ran _ (submit_accepted accepts _ record rfl)

include accepts in
theorem session_perform (operation : Operation) (threshold : Threshold) :
    (operation.perform (inPlace script threshold)).session =
      inPlace script (operation.setting?.getD threshold) := by
  rw [perform_inPlace accepts]

include accepts in
theorem showsUpTo_inPlace (threshold : Threshold) :
    ShowsUpTo threshold (inPlace script threshold) where
  kept operation sets := by
    rw [session_perform accepts, sets]
    rfl
  asked _level _target := rfl
  alike record := by
    rw [perform_inPlace accepts, perform_inPlace accepts]
    rfl
  shown record admitted := by
    refine ⟨record.line.map Terminal.accepted, ?_, ?_⟩
    · rw [perform_inPlace accepts, ← shown_of_admitted admitted]
      rfl
    · rw [condense_accepted (line_ne_nil record), text_line]
  hidden record hidden := by
    have line : (Operation.submit record).line threshold = [] := shown_of_not_admitted hidden
    rw [perform_inPlace accepts, line]
    rfl

end Performing

/-! ## A history of operations -/

/-- The steps of operations that are performed one after another, one for each. -/
def steps : List Operation → Session → List (Step (Option Bool))
  | [], _ => []
  | operation :: rest, session =>
    operation.perform session :: steps rest (operation.perform session).session

/-- The lines that are shown, one entry for each. -/
def shownLines (operations : List Operation) (session : Session) : List Event :=
  (steps operations session).flatMap fun step => Transcript.condense step.events

/-- The threshold that was set last, or else the one that was there before. -/
def settingAfter (threshold : Threshold) (operations : List Operation) : Threshold :=
  (operations.filterMap Operation.setting?).getLastD threshold

theorem settingAfter_cons (threshold : Threshold) (operation : Operation)
    (rest : List Operation) :
    settingAfter threshold (operation :: rest) =
      settingAfter (operation.setting?.getD threshold) rest := by
  rw [settingAfter, List.filterMap_cons]
  cases operation.setting? with
  | none => rfl
  | some set =>
      dsimp only
      rw [List.getLastD_cons]
      rfl

/-! ## More talkative histories -/

/-- The same operation, or the setting of a threshold that shows no less. -/
inductive Raised : Operation → Operation → Prop
  | setThreshold {lower higher : Threshold} (more : lower.rank ≤ higher.rank) :
    Raised (.setThreshold lower) (.setThreshold higher)
  | unchanged (operation : Operation) : Raised operation operation

section Raising

variable {lower higher : Threshold} (more : lower.rank ≤ higher.rank)

include more in
theorem Threshold.admits_of_le {level : Level} (admitted : lower.admits level = true) :
    higher.admits level = true :=
  decide_eq_true (Nat.le_trans (of_decide_eq_true admitted) more)

include more in
/-- A line that is shown is shown under a more talkative threshold as well. -/
theorem Operation.line_of_le (operation : Operation) :
    operation.line lower = [] ∨ operation.line lower = operation.line higher := by
  unfold Operation.line
  cases operation.record? with
  | none => exact .inl rfl
  | some record =>
      cases admitted : lower.admits record.level with
      | false => exact .inl (shown_of_not_admitted admitted)
      | true =>
          have still := Threshold.admits_of_le more admitted
          exact .inr ((shown_of_admitted admitted).trans (shown_of_admitted still).symm)

variable {operation raised : Operation} (raises : Raised operation raised)

include more raises in
/-- The thresholds stay in order, whether they are set or left as they are. -/
theorem Raised.rank_le :
    (operation.setting?.getD lower).rank ≤ (raised.setting?.getD higher).rank := by
  cases raises with
  | setThreshold more => exact more
  | unchanged operation =>
      cases operation.setting? with
      | none => exact more
      | some threshold => exact Nat.le_refl threshold.rank

include more raises in
theorem Raised.line :
    operation.line lower = [] ∨ operation.line lower = raised.line higher := by
  cases raises with
  | setThreshold more => exact .inl rfl
  | unchanged operation => exact operation.line_of_le more

end Raising

/-! ## Whole histories -/

section Histories

variable {script : Script} (accepts : script.AcceptsAll)

include accepts in
/-- What is performed behind a history finds the threshold that was set last. -/
theorem steps_append (before behind : List Operation) (threshold : Threshold) :
    steps (before ++ behind) (inPlace script threshold) =
      steps before (inPlace script threshold) ++
        steps behind (inPlace script (settingAfter threshold before)) := by
  induction before generalizing threshold with
  | nil => rfl
  | cons operation rest inductionHypothesis =>
      rw [List.cons_append, steps, steps, session_perform accepts, inductionHypothesis,
        settingAfter_cons, List.cons_append]

include accepts in
/-- As one run, a history comes back with its answers, and its record is that of
its steps. -/
theorem mapM_perform (operations : List Operation) (threshold : Threshold) :
    ∃ answers, operations.mapM Operation.perform (inPlace script threshold) =
        ⟨.finished answers, (steps operations (inPlace script threshold)).flatMap Step.events,
          inPlace script (settingAfter threshold operations)⟩ ∧
      (steps operations (inPlace script threshold)).map Step.outcome =
        answers.map Outcome.finished := by
  induction operations generalizing threshold with
  | nil => exact ⟨[], rfl, rfl⟩
  | cons operation rest inductionHypothesis =>
      rcases inductionHypothesis (operation.setting?.getD threshold) with
        ⟨answers, ran, outcomes⟩
      have performed := perform_inPlace accepts operation threshold
      refine ⟨operation.answer? threshold :: answers, ?_, ?_⟩
      · rw [List.mapM_cons, Run.bind_of_ran performed, Run.bind_of_ran ran, settingAfter_cons,
          steps, session_perform accepts, List.flatMap_cons, performed]
        simp only [Run.pure_apply, Step.after, List.append_nil]
      · rw [steps, session_perform accepts, List.map_cons, outcomes, performed]
        rfl

include accepts in
theorem shownLines_cons (operation : Operation) (rest : List Operation) (threshold : Threshold) :
    shownLines (operation :: rest) (inPlace script threshold) =
      Transcript.condense ((operation.line threshold).map Terminal.accepted) ++
        shownLines rest (inPlace script (operation.setting?.getD threshold)) := by
  rw [shownLines, steps, List.flatMap_cons, perform_inPlace accepts]
  rfl

include accepts in
theorem shownLines_sublist {operations raised : List Operation}
    (raises : List.Forall₂ Raised operations raised) {lower higher : Threshold}
    (more : lower.rank ≤ higher.rank) :
    List.Sublist (shownLines operations (inPlace script lower))
      (shownLines raised (inPlace script higher)) := by
  -- Behind each operation the thresholds may be other ones, but they are in the same order.
  induction raises generalizing lower higher with
  | nil => exact List.Sublist.refl []
  | @cons operation raisedOperation rest raisedRest first others inductionHypothesis =>
      rw [shownLines_cons accepts, shownLines_cons accepts]
      apply List.Sublist.append
      · rcases first.line more with nothing | same
        · rw [nothing]
          exact List.nil_sublist _
        · rw [same]
      · exact inductionHypothesis (first.rank_le more)

end Histories

/-- What a logger does that starts with the threshold `off`, whatever is asked of
it.  Behind any part of a history the threshold is the one that was set last, and
the logger shows the records up to it.  A history with more talkative thresholds
set shows no line less. -/
theorem history_decides_what_is_shown {script : Script} (accepts : script.AcceptsAll) :
    let start : Session := inPlace script .off
    (∀ before behind : List Operation,
      let threshold := settingAfter .off before
      steps (before ++ behind) start =
        steps before start ++ steps behind (inPlace script threshold) ∧
      ShowsUpTo threshold (inPlace script threshold)) ∧
    (∀ operations : List Operation, ∃ answers,
      operations.mapM Operation.perform start =
        ⟨.finished answers, (steps operations start).flatMap Step.events,
          inPlace script (settingAfter .off operations)⟩ ∧
      (steps operations start).map Step.outcome = answers.map Outcome.finished) ∧
    ∀ operations raised : List Operation, List.Forall₂ Raised operations raised →
      List.Sublist (shownLines operations start) (shownLines raised start) := by
  intro start
  refine ⟨?_, fun operations => mapM_perform accepts operations .off, ?_⟩
  · intro before behind threshold
    exact ⟨steps_append accepts before behind .off, showsUpTo_inPlace accepts threshold⟩
  · intro operations raised raises
    exact shownLines_sublist accepts raises (Nat.le_refl _)

/-- Under the threshold for information the same history shows one line more, in
front of the other, and it goes over two lines on the screen. -/
theorem information_shown_in_front :
    let script : Script := { exec := [3] }
    let start : Session := inPlace script .off
    let noted : Record := { level := .info, target := "shell::main", message := ["a\n", "[b]"] }
    let failed : Record := { level := .error, target := "user::launch", message := ["lost"] }
    let behind : List Operation := [.log noted, .install, .submit failed]
    let operations := .setThreshold (.upTo .warn) :: behind
    let raised := .setThreshold (.upTo .info) :: behind
    script.AcceptsAll ∧ List.Forall₂ Raised operations raised ∧
      List.Sublist (shownLines operations start) (shownLines raised start) ∧
      shownLines operations start =
        [Terminal.accepted "\x1b[31m[ERROR] [user::launch] lost\x1b[0m\n"] ∧
      shownLines raised start =
        [Terminal.accepted "\x1b[34m[INFO ] [shell] a\n[b]\x1b[0m\n",
          Terminal.accepted "\x1b[31m[ERROR] [user::launch] lost\x1b[0m\n"] := by
  intro script start noted failed behind operations raised
  have accepts : script.AcceptsAll := ⟨rfl, rfl⟩
  have more : Threshold.rank (.upTo .warn) ≤ Threshold.rank (.upTo .info) := by decide
  have raises : List.Forall₂ Raised operations raised :=
    .cons (.setThreshold more) (List.forall₂_same.mpr fun operation _ => .unchanged operation)
  have sublist := (history_decides_what_is_shown accepts).2.2 operations raised raises
  exact ⟨accepts, raises, sublist, by decide, by decide⟩

end Log
end Userland
