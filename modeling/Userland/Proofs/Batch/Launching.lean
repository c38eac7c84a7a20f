import Userland.Proofs.Log.Shown
import Userland.Proofs.Output.Noninterference

/-!
# What becomes of a batch

The fate of a batch is read off its names, its arguments and the replies that
the script holds.  Starts consume one reply each, but a program with a refused
name consumes none, and neither does any program when an argument is refused.
So the reply to a program is found at the place of the program in the batch, as
long as nothing failed before it.

What becomes of the log lines is left open: any of their writes may be refused.
`RecordsLaunch` says what a record of starts can look like all the same, and
`launchFrom_append` that programs which start are passed over with such a
record, until the first that fails.  Nothing but replies to writes depends on
what became of the lines.
-/

namespace Userland

open Kernel Text Run

/-! ## What prints leave on record -/

theorem Terminal.Printed.control {pieces : Pieces} {events : List Event}
    (printed : Printed pieces events) : control events = [] := by
  induction printed with
  | done => rfl
  | refused negative rest => rfl
  | taken nonnegative others inductionHypothesis => exact inductionHypothesis

theorem Terminal.PrintedInTurn.control {texts : List String} {events : List Event}
    (printed : PrintedInTurn texts events) : control events = [] := by
  induction printed with
  | nil => rfl
  | cons own others inductionHypothesis =>
      rw [control_append, own.control, inductionHypothesis, List.append_nil]

namespace Batch

/-! ## The record of a batch -/

/-- The entry of one start: the name, the number of arguments and their array,
which is the null address for none, and the word that came back. -/
def startEvent (program : String) (arguments : List String) (word : Int64) : Event where
  call := .exec (.ofText program) arguments.length (Arguments.ofTexts arguments).pointer
  response := .resumed (.returned word)

/-- The record of starting the programs, each with the reply in its place. -/
def starts (programs arguments : List String) (script : Script) : List Event :=
  programs.mapIdx fun index program => startEvent program arguments (script.execWord index)

/-- The lines about the programs, in their pieces, as far as the logger shows
them. -/
def launchLines (logging : Log.State) (programs : List String) (script : Script) : Pieces :=
  (programs.mapIdx fun index program =>
    Log.shown logging (launched program (script.execWord index).toUInt64)).flatten

/-- The children that these replies name. -/
def children (programs : List String) (script : Script) : List UInt64 :=
  programs.mapIdx fun index _program => (script.execWord index).toUInt64

/-- The record of waiting for the children, each with the reply in its place. -/
def waits (children : List UInt64) (script : Script) : List Event :=
  children.mapIdx fun index child =>
    ⟨.join child, .resumed (.joined (script.joinReply index).1 (script.joinReply index).2)⟩

/-- How the children ended according to these replies.  Where no code was
stored, the code is zero. -/
def endings (children : List UInt64) (script : Script) : List Joined :=
  children.mapIdx fun index child =>
    { child, ending :=
        Ending.ofJoin? (script.joinReply index).1 ((script.joinReply index).2.getD 0) }

/-- The events are the record of starting the programs: behind each start stands
the line about the program, as far as it was printed, if the logger shows it. -/
inductive RecordsLaunch (logging : Log.State) (arguments : List String) :
    List String → Script → List Event → Prop
  | nil (script : Script) : RecordsLaunch logging arguments [] script []
  | cons {program : String} {rest : List String} {script : Script} {line behind : List Event}
      (printed : Terminal.Printed
        (Log.shown logging (launched program (script.execWord 0).toUInt64)) line)
      (others : RecordsLaunch logging arguments rest (script.afterExecs 1) behind) :
      RecordsLaunch logging arguments (program :: rest) script
        (startEvent program arguments (script.execWord 0) :: line ++ behind)

/-- What reaches the kernel of a program that fails: nothing for its name, or
the one attempt that the kernel answered. -/
def attempted (program : String) : List String :=
  if Refused program then [] else [program]

theorem starts_cons (program : String) (rest arguments : List String) (script : Script) :
    starts (program :: rest) arguments script =
      startEvent program arguments (script.execWord 0) ::
        starts rest arguments (script.afterExecs 1) := by
  simp only [starts, List.mapIdx_cons, Script.execWord_afterExecs, Nat.add_comm]

theorem starts_append (first second arguments : List String) (script : Script) :
    starts (first ++ second) arguments script =
      starts first arguments script ++
        starts second arguments (script.afterExecs first.length) := by
  simp only [starts, List.mapIdx_append, Script.execWord_afterExecs, Nat.add_comm]

theorem starts_take_succ {programs : List String} {index : Nat} (bound : index < programs.length)
    (arguments : List String) (script : Script) :
    starts (programs.take (index + 1)) arguments script =
      starts (programs.take index) arguments script ++
        [startEvent programs[index] arguments (script.execWord index)] := by
  rw [← List.take_append_getElem bound, starts_append,
    List.length_take_of_le (Nat.le_of_lt bound), starts_cons, Script.execWord_afterExecs,
    Nat.add_zero]
  rfl

theorem launchLines_cons (logging : Log.State) (program : String) (rest : List String)
    (script : Script) :
    launchLines logging (program :: rest) script =
      Log.shown logging (launched program (script.execWord 0).toUInt64) ++
        launchLines logging rest (script.afterExecs 1) := by
  simp only [launchLines, List.mapIdx_cons, List.flatten_cons, Script.execWord_afterExecs,
    Nat.add_comm]

theorem children_cons (program : String) (rest : List String) (script : Script) :
    children (program :: rest) script =
      (script.execWord 0).toUInt64 :: children rest (script.afterExecs 1) := by
  simp only [children, List.mapIdx_cons, Script.execWord_afterExecs, Nat.add_comm]

@[simp] theorem starts_afterWrites (programs arguments : List String) (script : Script)
    (count : Nat) :
    starts programs arguments (script.afterWrites count) = starts programs arguments script := by
  simp only [starts, Script.execWord_afterWrites]

theorem control_starts (programs arguments : List String) (script : Script) :
    control (starts programs arguments script) = starts programs arguments script := by
  apply control_eq_self
  intro event listed
  rcases List.mem_mapIdx.mp listed with ⟨index, bound, rfl⟩
  rfl

theorem control_waits (children : List UInt64) (script : Script) :
    control (waits children script) = waits children script := by
  apply control_eq_self
  intro event listed
  rcases List.mem_mapIdx.mp listed with ⟨index, bound, rfl⟩
  rfl

theorem waits_congr {first second : Script} (children : List UInt64)
    (same : first.join = second.join) : waits children first = waits children second := by
  simp only [waits, Script.joinReply, same]

theorem endings_congr {first second : Script} (children : List UInt64)
    (same : first.join = second.join) : endings children first = endings children second := by
  simp only [endings, Script.joinReply, same]

/-! ## Records of starts -/

namespace RecordsLaunch

variable {logging : Log.State} {programs arguments : List String} {script : Script}
  {events : List Event} (records : RecordsLaunch logging arguments programs script events)

include records in
/-- Between the starts there is nothing but writes. -/
theorem control : control events = starts programs arguments script := by
  induction records with
  | nil script => rfl
  | cons printed others inductionHypothesis =>
      rw [starts_cons, List.cons_append, ← List.singleton_append, control_append, control_append,
        printed.control, inductionHypothesis]
      rfl

/-- A start behind the record, with nothing but a print behind it. -/
theorem control_append_start {index : Nat} (bound : index < programs.length)
    (records : RecordsLaunch logging arguments (programs.take index) script events)
    {pieces : Pieces} {printing : List Event} (printed : Terminal.Printed pieces printing) :
    Kernel.control
        (events ++ startEvent programs[index] arguments (script.execWord index) :: printing) =
      starts (programs.take (index + 1)) arguments script := by
  rw [starts_take_succ bound, control_append, records.control, ← List.singleton_append,
    control_append, printed.control]
  rfl

include records in
/-- Where the logger does not show them, there are no lines at all. -/
theorem eq_starts (hidden : (logging.installed && logging.threshold.admits .debug) = false) :
    events = starts programs arguments script := by
  induction records with
  | nil script => rfl
  | @cons program rest script line behind printed others inductionHypothesis =>
      have none : Log.shown logging (launched program (script.execWord 0).toUInt64) = [] :=
        if_neg (ne_true_of_eq_false hidden)
      rw [none] at printed
      rw [starts_cons, printed.eq_nil, inductionHypothesis]
      rfl

include records in
/-- Where no write is refused, the lines have arrived whole. -/
theorem written (accepted : ∀ event ∈ events, ¬ event.IsRefusal) :
    written events = encode (Pieces.text (launchLines logging programs script)) := by
  induction records with
  | nil script => rfl
  | cons printed others inductionHypothesis =>
      have ⟨lineAccepted, othersAccepted⟩ :=
        List.forall_mem_append.mp (List.forall_mem_cons.mp accepted).2
      rw [launchLines_cons, Pieces.text_append, encode_append, ← printed.written lineAccepted,
        ← inductionHypothesis othersAccepted, ← written_append]
      rfl

end RecordsLaunch

/-! ## Launching -/

/-- The replies behind the first. -/
theorem started_behind {script : Script} {count : Nat}
    (started : ∀ earlier < count + 1, 0 ≤ script.execWord earlier) :
    ∀ earlier < count, 0 ≤ (script.afterExecs 1).execWord earlier := by
  intro earlier bound
  rw [Script.execWord_afterExecs, Nat.add_comm]
  exact started (earlier + 1) (Nat.succ_lt_succ bound)

section Launching

variable (logging : Log.State) {arguments : List String}
  (accepted : ∀ argument ∈ arguments, ¬ Refused argument)

include accepted in
/-- A program that starts is passed over with its line. -/
theorem launchFrom_cons_of_started {program : String} (named : ¬ Refused program)
    {script : Script} (started : 0 ≤ script.execWord 0) (rest : List String) (index : Nat) :
    ∃ line count,
      Terminal.Printed (Log.shown logging (launched program (script.execWord 0).toUInt64)) line ∧
      launchFrom (m := Run) (fun name => Child.exec name arguments) index (program :: rest)
          ⟨.scripted script, logging⟩ =
        Step.after (startEvent program arguments (script.execWord 0) :: line)
          ((Except.map ((script.execWord 0).toUInt64 :: ·) <$>
            launchFrom (m := Run) (fun name => Child.exec name arguments) (index + 1) rest)
              ⟨.scripted ((script.afterExecs 1).afterWrites count), logging⟩) := by
  have value : Returned.value? (script.execWord 0) = some (script.execWord 0).toUInt64 :=
    if_pos started
  have ran := Child.exec_scripted named accepted script logging
  rw [value] at ran
  let record := launched program (script.execWord 0).toUInt64
  rcases Terminal.print_finishes (script.afterExecs 1) logging (Log.shown logging record) with
    ⟨count, printing, printed⟩
  have logged := (Log.log_eq_print record ⟨.scripted (script.afterExecs 1), logging⟩).trans printing
  refine ⟨_, count, printed, ?_⟩
  rw [launchFrom, Run.bind_of_ran ran]
  dsimp only
  change Step.after _ ((Log.log _ >>= fun _ => _) _) = _
  rw [Run.bind_of_ran logged, bind_pure_comp, ← Step.after_append]
  rfl

include accepted in
theorem launchFrom_cons_of_failed {program : String} {script : Script}
    (failed : Refused program ∨ script.execWord 0 < 0) (rest : List String) (index : Nat) :
    launchFrom (m := Run) (fun name => Child.exec name arguments) index (program :: rest)
        ⟨.scripted script, logging⟩ =
      ⟨.finished (.error { index, program }), starts (attempted program) arguments script,
        ⟨.scripted (script.afterExecs (attempted program).length), logging⟩⟩ := by
  by_cases refused : Refused program
  · have ran : Child.exec program arguments ⟨.scripted script, logging⟩ =
        ⟨.finished none, [], ⟨.scripted script, logging⟩⟩ := by
      rw [Child.exec_of_refused (Or.inl refused), Run.pure_apply]
    rw [launchFrom, Run.bind_of_ran ran]
    simp only [attempted, if_pos refused]
    rfl
  · have negative : script.execWord 0 < 0 := failed.resolve_left refused
    have value : Returned.value? (script.execWord 0) = none :=
      (Returned.value?_eq_none_iff _).mpr (Int64.not_le.mpr negative)
    have ran : Child.exec program arguments ⟨.scripted script, logging⟩ =
        ⟨.finished none, starts [program] arguments script,
          ⟨.scripted (script.afterExecs 1), logging⟩⟩ := by
      rw [← value]
      exact Child.exec_scripted refused accepted script logging
    rw [launchFrom, Run.bind_of_ran ran]
    simp only [attempted, if_neg refused]
    rfl

include accepted in
/-- Programs that start are passed over, and the run goes on with the others.
How many replies to writes were used up before makes no difference. -/
theorem launchFrom_append {before : List String} (named : ∀ program ∈ before, ¬ Refused program)
    (script : Script) (started : ∀ earlier < before.length, 0 ≤ script.execWord earlier)
    (used : Nat) (rest : List String) (index : Nat) :
    ∃ launching count, RecordsLaunch logging arguments before script launching ∧
      launchFrom (m := Run) (fun name => Child.exec name arguments) index (before ++ rest)
          ⟨.scripted (script.afterWrites used), logging⟩ =
        Step.after launching
          ((Except.map (children before script ++ ·) <$>
            launchFrom (m := Run) (fun name => Child.exec name arguments)
              (index + before.length) rest)
                ⟨.scripted ((script.afterExecs before.length).afterWrites count), logging⟩) := by
  -- With each program the script moves on by one reply to a start, and by as many
  -- replies to writes as its line takes.
  induction before generalizing script used index with
  | nil =>
      have same : (Except.map (children [] script ++ ·) : _ → Except Failure (List UInt64)) = id := by
        funext launched
        cases launched <;> rfl
      refine ⟨[], used, .nil script, ?_⟩
      rw [same, id_map]
      rfl
  | cons program others inductionHypothesis =>
      have first : 0 ≤ (script.afterWrites used).execWord 0 := by
        rw [Script.execWord_afterWrites]
        exact started 0 (Nat.zero_lt_succ _)
      rcases launchFrom_cons_of_started logging accepted
        (named program List.mem_cons_self) first (others ++ rest) index with
          ⟨line, count, printed, ran⟩
      rw [Script.execWord_afterWrites] at printed ran
      rw [Script.afterExecs_afterWrites, Script.afterWrites_afterWrites] at ran
      rcases inductionHypothesis (fun other listed =>
        named other (List.mem_cons_of_mem program listed)) (script.afterExecs 1)
        (started_behind started) (used + count) (index + 1) with
          ⟨behind, left, records, later⟩
      refine ⟨_, left, .cons printed records, ?_⟩
      rw [Script.afterExecs_afterExecs] at later
      have joined : ∀ launched : Except Failure (List UInt64),
          (launched.map (children others (script.afterExecs 1) ++ ·)).map
              ((script.execWord 0).toUInt64 :: ·) =
            launched.map (children (program :: others) script ++ ·) := by
        intro launched
        rw [children_cons]
        cases launched <;> rfl
      rw [List.cons_append, ran, Run.map_of_after _ later, Functor.map_map, funext joined,
        Step.after_append, List.length_cons, Nat.add_comm 1, Nat.add_assoc index, Nat.add_comm 1]

end Launching

/-! ## Waiting -/

theorem awaitAll_scripted (children : List UInt64) (script : Script) (logging : Log.State) :
    awaitAll Child.join children ⟨.scripted script, logging⟩ =
      ⟨.finished (endings children script), waits children script,
        ⟨.scripted (script.afterJoins children.length), logging⟩⟩ := by
  induction children generalizing script with
  | nil => rfl
  | cons child rest inductionHypothesis =>
      have first := Child.join_scripted child script logging
      have others := inductionHypothesis (script.afterJoins 1)
      rw [awaitAll, Run.bind_of_ran first, bind_pure_comp, Run.map_of_ran _ others]
      simp only [Step.after, endings, waits, List.mapIdx_cons, Script.joinReply_afterJoins,
        Script.afterJoins_afterJoins, List.length_cons, Nat.add_comm, List.singleton_append]

/-! ## A whole batch -/

/-- An entry of a batch fails: its name is refused, or its start is answered by a
negative word. -/
def Fails (programs : List String) (script : Script) (index : Nat) : Prop :=
  Refused (programs.getD index "") ∨ script.execWord index < 0

instance (programs : List String) (script : Script) (index : Nat) :
    Decidable (Fails programs script index) :=
  inferInstanceAs (Decidable (_ ∨ _))

section Permitted

variable {allowed : Call → Prop} (permits : Permits allowed)

include permits in
theorem launchFrom_proceeds (programs arguments : List String) (index : Nat) :
    Proceeds allowed
      (launchFrom (m := Run) (fun name => Child.exec name arguments) index programs) := by
  induction programs generalizing index with
  | nil => exact .pure _
  | cons program rest inductionHypothesis =>
      refine (Child.exec_proceeds program arguments (permits.starts program arguments)).bind
        fun started => ?_
      cases started with
      | none => exact .pure _
      | some child =>
          refine (Log.log_proceeds permits.writes (launched program child)).bind fun _ => ?_
          exact (inductionHypothesis (index + 1)).bind fun others => .pure _

include permits in
theorem awaitAll_proceeds (children : List UInt64) :
    Proceeds allowed (awaitAll Child.join children) := by
  induction children with
  | nil => exact .pure _
  | cons child rest inductionHypothesis =>
      exact (Child.join_proceeds child (permits.waits child)).bind fun _ending =>
        inductionHypothesis.bind fun _others => .pure _

include permits in
theorem run_proceeds (programs arguments : List String) :
    Proceeds allowed (run programs arguments) := by
  refine (launchFrom_proceeds permits programs arguments 0).bind fun started => ?_
  cases started with
  | error failure => exact .pure _
  | ok children => exact (awaitAll_proceeds permits children).bind fun _endings => .pure _

end Permitted

section Batches

variable {programs arguments : List String} {script : Script}

/-- Nothing at all is done when an argument is refused, whatever the session. -/
theorem run_of_refused (refused : ∃ argument ∈ arguments, Refused argument) (first : String)
    (rest : List String) (session : Session) :
    run (first :: rest) arguments session =
      ⟨.finished (.notLaunched { index := 0, program := first }), [], session⟩ := by
  have ran : Child.exec first arguments session = ⟨.finished none, [], session⟩ := by
    rw [Child.exec_of_refused (Or.inr refused), Run.pure_apply]
  have launched : launch (m := Run) (fun name => Child.exec name arguments) (first :: rest)
      session = ⟨.finished (.error { index := 0, program := first }), [], session⟩ := by
    rw [launch, launchFrom, Run.bind_of_ran ran]
    rfl
  rw [run, Run.bind_of_ran launched]
  rfl

theorem named_of_not_fails {count : Nat} (within : count ≤ programs.length)
    (passed : ∀ earlier < count, ¬ Fails programs script earlier) :
    ∀ program ∈ programs.take count, ¬ Refused program := by
  intro program listed refused
  rcases List.mem_take_iff_getElem.mp listed with ⟨index, bound, rfl⟩
  have early : index < count := lt_of_lt_of_le bound (Nat.min_le_left _ _)
  have inside : index < programs.length := lt_of_lt_of_le early within
  apply passed index early
  left
  rw [List.getD_eq_getElem _ _ inside]
  exact refused

theorem started_of_not_fails {count : Nat}
    (passed : ∀ earlier < count, ¬ Fails programs script earlier) :
    ∀ earlier < count, 0 ≤ script.execWord earlier := by
  intro earlier bound
  exact Int64.not_lt.mp fun negative => passed earlier bound (Or.inr negative)

theorem launch_of_failed (accepted : ∀ argument ∈ arguments, ¬ Refused argument)
    {index : Nat} (bound : index < programs.length) (failed : Fails programs script index)
    (passed : ∀ earlier < index, ¬ Fails programs script earlier) (logging : Log.State) :
    ∃ launching used, RecordsLaunch logging arguments (programs.take index) script launching ∧
      launch (m := Run) (fun name => Child.exec name arguments) programs
          ⟨.scripted script, logging⟩ =
        ⟨.finished (.error { index, program := programs[index] }),
          launching ++ starts (attempted programs[index]) arguments (script.afterExecs index),
          ⟨.scripted ((script.afterExecs (index + (attempted programs[index]).length)).afterWrites
            used), logging⟩⟩ := by
  have length : (programs.take index).length = index :=
    List.length_take_of_le (Nat.le_of_lt bound)
  have split : programs.take index ++ programs[index] :: programs.drop (index + 1) = programs := by
    rw [← List.drop_eq_getElem_cons bound, List.take_append_drop]
  have started : ∀ earlier < (programs.take index).length, 0 ≤ script.execWord earlier := by
    rw [length]
    exact started_of_not_fails passed
  rcases launchFrom_append logging accepted
    (named_of_not_fails (Nat.le_of_lt bound) passed) script started 0
    (programs[index] :: programs.drop (index + 1)) 0 with ⟨launching, used, records, ran⟩
  rw [split, length, Nat.zero_add, Script.afterWrites_zero] at ran
  have fails : Refused programs[index] ∨
      ((script.afterExecs index).afterWrites used).execWord 0 < 0 := by
    rw [Script.execWord_afterWrites, Script.execWord_afterExecs, Nat.add_zero,
      ← List.getD_eq_getElem _ "" bound]
    exact failed
  have stopped := launchFrom_cons_of_failed logging accepted fails
    (programs.drop (index + 1)) index
  rw [starts_afterWrites, Script.afterExecs_afterWrites, Script.afterExecs_afterExecs] at stopped
  refine ⟨launching, used, records, ran.trans ?_⟩
  rw [Run.map_of_ran _ stopped]
  rfl

theorem launch_of_started
    (accepted : programs = [] ∨ ∀ argument ∈ arguments, ¬ Refused argument)
    (passed : ∀ index < programs.length, ¬ Fails programs script index) (logging : Log.State) :
    ∃ launching used, RecordsLaunch logging arguments programs script launching ∧
      launch (m := Run) (fun name => Child.exec name arguments) programs
          ⟨.scripted script, logging⟩ =
        ⟨.finished (.ok (children programs script)), launching,
          ⟨.scripted ((script.afterExecs programs.length).afterWrites used), logging⟩⟩ := by
  rcases accepted with rfl | accepted
  · refine ⟨[], 0, .nil script, ?_⟩
    rw [Script.afterWrites_zero]
    rfl
  · have named := named_of_not_fails le_rfl passed
    rw [List.take_length] at named
    rcases launchFrom_append logging accepted named script
      (started_of_not_fails passed) 0 [] 0 with ⟨launching, used, records, ran⟩
    rw [List.append_nil, Script.afterWrites_zero] at ran
    have nothing : launchFrom (m := Run) (fun name => Child.exec name arguments)
        (0 + programs.length) [] = pure (.ok []) := rfl
    refine ⟨launching, used, records, ran.trans ?_⟩
    rw [nothing, map_pure, Run.pure_apply, Except.map, List.append_nil, Step.after,
      List.append_nil]

end Batches

/-- What becomes of a batch over any kernel: it ends at once for a refused
argument, else at the first entry that fails, and else every child is waited for
in the order of the batch.  Apart from writes the record holds the starts up to
the end, and the waits if there are any, each with the reply in its place. -/
theorem run_conforms (programs arguments : List String) (script : Script)
    (logging : Log.State) :
    let step := run programs arguments ⟨.scripted script, logging⟩
    ((∃ argument ∈ arguments, Refused argument) →
      ∀ first rest, programs = first :: rest →
        step = ⟨.finished (.notLaunched { index := 0, program := first }), [],
          ⟨.scripted script, logging⟩⟩) ∧
    ((∀ argument ∈ arguments, ¬ Refused argument) →
      ∀ index (bound : index < programs.length), Fails programs script index →
        (∀ earlier < index, ¬ Fails programs script earlier) →
          step.outcome = .finished (.notLaunched { index, program := programs[index] }) ∧
          control step.events =
            starts (programs.take index ++ attempted programs[index]) arguments script) ∧
    ((programs = [] ∨ ∀ argument ∈ arguments, ¬ Refused argument) →
      (∀ index < programs.length, ¬ Fails programs script index) →
        step.outcome = .finished (.joined (children programs script)
          (endings (children programs script) script)) ∧
        control step.events =
          starts programs arguments script ++ waits (children programs script) script) := by
  intro step
  refine ⟨?_, ?_, ?_⟩
  · rintro refused first rest rfl
    exact run_of_refused refused first rest _
  · intro accepted index bound failed passed
    rcases launch_of_failed accepted bound failed passed logging with
      ⟨launching, used, records, launched⟩
    have ran : step = Step.after _ ⟨.finished (.notLaunched _), [], _⟩ :=
      Run.bind_of_ran launched
    have length : (programs.take index).length = index :=
      List.length_take_of_le (Nat.le_of_lt bound)
    rw [ran]
    refine ⟨rfl, ?_⟩
    rw [Step.events_after, List.append_nil, control_append, records.control, control_starts,
      starts_append, length]
  · intro accepted passed
    rcases launch_of_started accepted passed logging with ⟨launching, used, records, launched⟩
    have waited := awaitAll_scripted (children programs script)
      ((script.afterExecs programs.length).afterWrites used) logging
    have same : ((script.afterExecs programs.length).afterWrites used).join = script.join :=
      Script.join_afterWrites _ _
    rw [endings_congr _ same, waits_congr _ same] at waited
    have ran : step = Step.after launching
        ((awaitAll Child.join (children programs script) >>= fun found =>
          pure (.joined (children programs script) found)) _) := Run.bind_of_ran launched
    rw [ran, Run.bind_of_ran waited]
    refine ⟨rfl, ?_⟩
    rw [Step.events_after, Step.events_after, Run.pure_apply, List.append_nil, control_append,
      records.control, control_waits]

/-- A refused name fails without taking the negative reply behind it. -/
theorem run_with_refused_name :
    let programs := ["swap4.coff", "swap5\x00.coff", "write10.coff"]
    let script : Script := { exec := [7, -3, 9] }
    let step := run programs [] ⟨.scripted script, {}⟩
    step.outcome = .finished (.notLaunched { index := 1, program := "swap5\x00.coff" }) ∧
      control step.events = [startEvent "swap4.coff" [] 7] := by
  intro programs script step
  have accepted : ∀ argument ∈ ([] : List String), ¬ Refused argument := List.forall_mem_nil _
  have conforms := (run_conforms programs [] script {}).2.1 accepted 1 (by decide) (by decide)
    (by decide)
  exact ⟨conforms.1, conforms.2.trans (by decide)⟩

end Batch
end Userland
