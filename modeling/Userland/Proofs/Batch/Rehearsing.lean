import Userland.Batch.Rehearsal
import Userland.Proofs.Log.Shown

/-!
# Launching with a caller that answers

A caller is any function of the program and of a state of its own.  Asked for
one program after another, it has `answers`, of which launching reads those up
to the first that names no child.  A program whose answer names a child is
logged before the next is asked for, so its line, if it is shown at all, stands
between the two questions.

No child is special: zero is the number of a child like any other.
-/

namespace Userland

open Kernel Text

namespace Consulting

variable {Question σ α β : Type}

theorem pure_apply (value : α) (state : σ) (session : Session) :
    (pure value : Consulting Question σ α) state session =
      ⟨.finished value, [], state, session⟩ := rfl

/-- The first part known altogether. -/
theorem bind_of_ran {first : Consulting Question σ α} {next : α → Consulting Question σ β}
    {state between : σ} {session left : Session} {value : α}
    {moments : List (Moment Question)}
    (ran : first state session = ⟨.finished value, moments, between, left⟩) :
    (first >>= next) state session = Course.after moments (next value between left) := by
  rw [bind_apply, ran]

/-- A run asks nothing, so the caller's state stays as it is. -/
theorem lift_of_ran {run : Run α} {session left : Session} {value : α} {events : List Event}
    (ran : run session = ⟨.finished value, events, left⟩) (state : σ) :
    (liftM run : Consulting Question σ α) state session =
      ⟨.finished value, events.map .called, state, left⟩ := by
  show (⟨(run session).outcome, (run session).events.map .called, state, (run session).session⟩ :
    Course Question σ α) = _
  rw [ran]

end Consulting

namespace Batch
namespace Rehearsal

variable {σ : Type} (exec : String → σ → Option UInt64 × σ)

/-- The answers to one program after another, the caller's state carried along. -/
def answers : List String → σ → List (Option UInt64)
  | [], _ => []
  | program :: rest, state => (exec program state).1 :: answers rest (exec program state).2

/-- The state of a caller that was asked for these programs. -/
def stateAfter (programs : List String) (state : σ) : σ :=
  programs.foldl (fun state program => (exec program state).2) state

/-- How many programs are asked for, given the answers: up to the first that
names no child. -/
def reached (answers : List (Option UInt64)) : Nat :=
  min (answers.findIdx Option.isNone + 1) answers.length

/-- What the answers come to, the first program being entry `index`. -/
def verdict (index : Nat) (programs : List String) (answers : List (Option UInt64)) :
    Except Failure (List UInt64) :=
  match answers.findIdx? Option.isNone with
  | none => .ok (answers.filterMap id)
  | some place => .error { index := index + place, program := programs.getD place "" }

/-- What happens about one program: it is asked for, and if it was started, its
line is printed where the logger shows it. -/
def span (logging : Log.State) : String × Option UInt64 → List (Moment String)
  | (program, none) => [.asked program]
  | (program, some child) =>
    .asked program ::
      ((Log.shown logging (launched program child)).map Terminal.accepted).map .called

theorem length_answers (programs : List String) (state : σ) :
    (answers exec programs state).length = programs.length := by
  induction programs generalizing state with
  | nil => rfl
  | cons program rest inductionHypothesis =>
      rw [answers, List.length_cons, List.length_cons, inductionHypothesis]

theorem reached_cons_none (others : List (Option UInt64)) : reached (none :: others) = 1 := by
  rw [reached, List.findIdx_cons, List.length_cons]
  exact Nat.min_eq_left (Nat.succ_le_succ (Nat.zero_le _))

theorem reached_cons_some (child : UInt64) (others : List (Option UInt64)) :
    reached (some child :: others) = reached others + 1 := by
  rw [reached, List.findIdx_cons, List.length_cons]
  exact Nat.succ_min_succ _ _

theorem verdict_cons_none (index : Nat) (program : String) (rest : List String)
    (others : List (Option UInt64)) :
    verdict index (program :: rest) (none :: others) = .error { index, program } := by
  rw [verdict, List.findIdx?_cons]
  rfl

/-- A child in front moves the failure by one place, or is in front of the
children. -/
theorem verdict_cons_some (index : Nat) (program : String) (rest : List String)
    (child : UInt64) (others : List (Option UInt64)) :
    verdict index (program :: rest) (some child :: others) =
      (verdict (index + 1) rest others).map (child :: ·) := by
  rw [verdict, List.findIdx?_cons, verdict]
  cases others.findIdx? Option.isNone with
  | none => rfl
  | some place =>
      have moved : index + (place + 1) = index + 1 + place := by omega
      show Except.error _ = Except.error _
      rw [moved, List.getD_cons_succ]

section Launching

variable {script : Script} (accepts : script.AcceptsAll) (logging : Log.State)

include accepts in
theorem launchFrom_accepted (programs : List String) (index : Nat) (state : σ) :
    launchFrom (Consulting.ask exec) index programs state ⟨.scripted script, logging⟩ =
      ⟨.finished (verdict index programs (answers exec programs state)),
        ((programs.zip (answers exec programs state)).take
          (reached (answers exec programs state))).flatMap (span logging),
        stateAfter exec (programs.take (reached (answers exec programs state))) state,
        ⟨.scripted script, logging⟩⟩ := by
  -- The index and the caller's state move on with each program.
  induction programs generalizing index state with
  | nil => rfl
  | cons program rest inductionHypothesis =>
      have asked : Consulting.ask exec program state ⟨.scripted script, logging⟩ =
          ⟨.finished (exec program state).1, [.asked program], (exec program state).2,
            ⟨.scripted script, logging⟩⟩ := rfl
      rw [launchFrom, Consulting.bind_of_ran asked, answers]
      cases (exec program state).1 with
      | none =>
          rw [reached_cons_none, verdict_cons_none]
          rfl
      | some child =>
          have logged : (liftM (Log.log (launched program child)) : Consulting String σ Unit)
              (exec program state).2 ⟨.scripted script, logging⟩ =
              ⟨.finished (), ((Log.shown logging (launched program child)).map
                Terminal.accepted).map .called, (exec program state).2,
                ⟨.scripted script, logging⟩⟩ :=
            Consulting.lift_of_ran (Log.log_accepted accepts logging (launched program child)) _
          dsimp only
          rw [Consulting.bind_of_ran logged,
            Consulting.bind_of_ran (inductionHypothesis (index + 1) (exec program state).2),
            reached_cons_some, verdict_cons_some, List.zip_cons_cons, List.take_succ_cons,
            List.take_succ_cons, List.flatMap_cons]
          simp only [Consulting.pure_apply, Course.after, span, stateAfter, List.foldl_cons,
            List.append_nil, List.cons_append, List.nil_append]

end Launching

theorem questions_span (logging : Log.State) (asked : String × Option UInt64) :
    (span logging asked).filterMap Moment.question? = [asked.1] := by
  have silent : ∀ events : List Event,
      (events.map (Moment.called : Event → Moment String)).filterMap Moment.question? = [] := by
    intro events
    rw [List.filterMap_map]
    exact List.filterMap_eq_nil_iff.mpr fun _ _ => rfl
  rcases asked with ⟨program, answer⟩
  cases answer with
  | none => rfl
  | some child => exact congrArg (program :: ·) (silent _)

theorem questions_spans (logging : Log.State) (asked : List (String × Option UInt64)) :
    (asked.flatMap (span logging)).filterMap Moment.question? = asked.map Prod.fst := by
  induction asked with
  | nil => rfl
  | cons first rest inductionHypothesis =>
      rw [List.flatMap_cons, List.filterMap_append, questions_span, inductionHypothesis]
      rfl

/-- The line about a program that was started. -/
theorem text_launched (program : String) (child : UInt64) :
    Pieces.text (launched program child).line =
      "\x1b[32m[DEBUG] [user::launch] launched " ++ program ++ " as pid " ++
        toString child.toNat ++ "\x1b[0m\n" := by
  have message : Pieces.text (launched program child).message =
      "launched " ++ (program ++ (" as pid " ++ toString child.toNat)) := by
    simp only [launched, Pieces.natural, Pieces.text_append, Pieces.text_singleton]
    simp only [Pieces.text, String.join_cons, String.join_nil, String.append_empty,
      String.append_assoc]
    rfl
  have front : "\x1b[" ++ toString (Log.Level.colour .debug) ++ "m[" ++
      Pieces.text (Pieces.padded Log.levelWidth (Log.Level.name .debug)) ++ "] [" ++
        Log.origin "user::launch" ++ "] " ++ "launched " =
      "\x1b[32m[DEBUG] [user::launch] launched " := by
    decide
  rw [Log.text_line, message, ← front]
  simp only [String.append_assoc]
  rfl

/-- What becomes of a batch with any caller.  It is asked for the programs in
order, up to the first for which it names no child, and the batch fails there
or, if there is none, yields the children in order.  A program that was started
is logged at once: its line stands before the next question where the logger
shows debug records, and there is no write at all where it does not. -/
theorem launch_conforms (programs : List String) (state : σ) {script : Script}
    (accepts : script.AcceptsAll) (threshold : Log.Threshold) :
    let logging : Log.State := { installed := true, threshold }
    let course := launch exec programs state ⟨.scripted script, logging⟩
    let found := answers exec programs state
    let asked := min (found.findIdx Option.isNone + 1) programs.length
    course.questions = programs.take asked ∧
    course.state = stateAfter exec (programs.take asked) state ∧
    course.session = ⟨.scripted script, logging⟩ ∧
    course.outcome = .finished
      (match found.findIdx? Option.isNone with
      | none => .ok (found.filterMap id)
      | some index => .error { index, program := programs.getD index "" }) ∧
    course.moments = ((programs.zip found).take asked).flatMap (span logging) ∧
    ∀ program, span logging (program, none) = [.asked program] ∧
      ∀ child, ∃ line : Pieces,
        Pieces.text line = "\x1b[32m[DEBUG] [user::launch] launched " ++ program ++ " as pid " ++
          toString child.toNat ++ "\x1b[0m\n" ∧
        span logging (program, some child) = .asked program ::
          if threshold = .upTo .debug ∨ threshold = .upTo .trace then
            (line.map Terminal.accepted).map .called
          else [] := by
  intro logging course found asked
  have length : found.length = programs.length := length_answers exec programs state
  have reach : reached found = asked := by
    rw [reached, length]
  have ran : course = ⟨.finished (verdict 0 programs found),
      ((programs.zip found).take (reached found)).flatMap (span logging),
      stateAfter exec (programs.take (reached found)) state, ⟨.scripted script, logging⟩⟩ :=
    launchFrom_accepted exec accepts logging programs 0 state
  rw [reach] at ran
  have zipped : (programs.zip found).map Prod.fst = programs :=
    List.map_fst_zip (Nat.le_of_eq length.symm)
  rw [ran]
  refine ⟨?_, rfl, rfl, ?_, rfl, fun program => ⟨rfl, fun child => ?_⟩⟩
  · rw [Course.questions, questions_spans, List.map_take, zipped]
  · dsimp only
    rw [verdict]
    cases found.findIdx? Option.isNone with
    | none => rfl
    | some place =>
        dsimp only
        rw [Nat.zero_add]
  · refine ⟨(launched program child).line, text_launched program child, ?_⟩
    rw [span, Log.shown_debug rfl]
    split <;> rfl

/-- The caller counts: the first child has number zero, the third program gets
none, and the fourth is not asked for. -/
theorem launch_third_refused :
    let exec : String → Nat → Option UInt64 × Nat := fun _program asked =>
      (if asked = 2 then none else some asked.toUInt64, asked + 1)
    let script : Script := { exec := [-1] }
    let course := launch exec ["swap4", "swap5", "shell", "write10"] 0
      ⟨.scripted script, { installed := true, threshold := .upTo .trace }⟩
    script.AcceptsAll ∧ course.questions = ["swap4", "swap5", "shell"] ∧ course.state = 3 ∧
      course.outcome = .finished (.error { index := 2, program := "shell" }) := by
  intro exec script course
  have accepts : script.AcceptsAll := ⟨rfl, rfl⟩
  rcases launch_conforms exec ["swap4", "swap5", "shell", "write10"] 0 accepts (.upTo .trace) with
    ⟨questions, state, -, outcome, -, -⟩
  exact ⟨accepts, questions.trans (by decide), state.trans (by decide), outcome.trans (by rfl)⟩

end Rehearsal
end Batch
end Userland
