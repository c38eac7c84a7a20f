import Userland.Log.Operation
import Userland.Proofs.Program.Conclusion
import Userland.Proofs.Run.Checked
import Userland.Proofs.Text.Handover

/-!
# What the kernel can rely on

The kernel expects of a call that its texts end within the window of its search,
that the number of arguments fits their array, that descriptors are in range and
that an exit carries a signed number of 32 bits.  `Call.WellFormed` says this
call by call and mentions no library.

Every call that a program, a batch or the logger makes is well formed, and when
it is a write it goes to the output.  Of the operations of the library more is
shown: `Operation.Issues` tells the only call, or for a print the only calls,
that the operation can make, with the length of the buffer that the caller gave.
All of it holds in every session.  The calls of `Trap` are not covered, since
these hand over what they are given.
-/

namespace Userland

open Kernel Text Run

/-! ## The contract -/

/-- What the kernel expects of a call. -/
def Kernel.Call.WellFormed : Call → Prop
  | .halt | .join _ => True
  | .exit word =>
    Int32.minValue.toInt ≤ word.toInt64.toInt ∧ word.toInt64.toInt ≤ Int32.maxValue.toInt
  | .exec name count arguments =>
    name.IsShort ∧ count = (arguments.getD []).length ∧ (arguments = none ↔ count = 0) ∧
      ∀ argument ∈ arguments.getD [], argument.IsShort
  | .create name | .openFile name | .unlink name => name.IsShort
  | .read descriptor _ | .write descriptor _ | .close descriptor =>
    descriptor.toNat < Limits.maxDescriptors

/-- A write goes to the output. -/
def Kernel.Call.WritesOutput : Call → Prop
  | .write descriptor _ => descriptor = File.standardOutput
  | _ => True

theorem Kernel.Call.wellFormed_exec {name : String} {arguments : List String}
    (nameAccepted : ¬ Refused name) (argumentsAccepted : ∀ argument ∈ arguments, ¬ Refused argument) :
    (Call.exec (.ofText name) arguments.length
      (Arguments.ofTexts arguments).pointer).WellFormed := by
  rw [WellFormed, Arguments.getD_pointer, Arguments.pointer_ofTexts_eq_none_iff]
  refine ⟨Terminated.isShort_ofText nameAccepted, (List.length_map _).symm,
    List.length_eq_zero_iff.symm, ?_⟩
  intro terminated listed
  rcases List.mem_map.mp listed with ⟨argument, given, rfl⟩
  exact Terminated.isShort_ofText (argumentsAccepted argument given)

/-- The sign is carried along, so the word stays within the range of the code. -/
theorem Kernel.Call.wellFormed_exit (code : Int32) :
    (Call.exit (Trap.statusWord code)).WellFormed := by
  have same : (Trap.statusWord code).toInt64.toInt = code.toInt := by
    rw [Trap.statusWord, Int64.toInt64_toUInt64, Int32.toInt_toInt64]
  rw [WellFormed, same]
  exact ⟨code.minValue_le_toInt, code.toInt_le⟩

theorem Kernel.Call.wellFormed_print (piece : String) :
    (Call.write File.standardOutput (encode piece)).WellFormed := by
  have inRange : File.standardOutput.toNat < Limits.maxDescriptors := by decide
  exact inRange

/-! ## Programs, batches and the logger -/

theorem permits_wellFormed : Permits fun call => call.WellFormed ∧ call.WritesOutput where
  writes piece := ⟨Call.wellFormed_print piece, rfl⟩
  starts _name _arguments nameAccepted argumentsAccepted :=
    ⟨Call.wellFormed_exec nameAccepted argumentsAccepted, trivial⟩
  waits _child := ⟨trivial, trivial⟩

theorem Program.run_asks {α : Type} {program : Program} (listed : program ∈ all) :
    Asks (fun call => call.WellFormed ∧ call.WritesOutput) (program.run : Run α) := by
  have exits : ∀ code, (Call.exit (Trap.statusWord code)).WellFormed ∧
      (Call.exit (Trap.statusWord code)).WritesOutput :=
    fun code => ⟨Call.wellFormed_exit code, trivial⟩
  exact ((main_concludes permits_wellFormed listed).asks exits).bind fun code =>
    exit_asks code (exits code)

section Permitted

variable {allowed : Call → Prop} (permits : Permits allowed)

include permits in
theorem Log.Operation.perform_proceeds (operation : Log.Operation) :
    Proceeds allowed operation.perform := by
  cases operation with
  | setThreshold threshold => exact .map _ (.modifyLogging _)
  | install => exact .map _ (.modifyLogging _)
  | flush => exact .map _ (.pure ())
  | isEnabled level target => exact .map _ (Proceeds.logging.bind fun _state => .pure _)
  | log record => exact .map _ (Log.log_proceeds permits.writes record)
  | submit record => exact .map _ (Log.submit_proceeds permits.writes record)

theorem Run.Proceeds.mapM {α β : Type} {f : α → Run β} (each : ∀ value, Proceeds allowed (f value))
    (values : List α) : Proceeds allowed (values.mapM f) := by
  induction values with
  | nil =>
      rw [List.mapM_nil]
      exact .pure []
  | cons value rest inductionHypothesis =>
      rw [List.mapM_cons]
      exact (each value).bind fun _ => inductionHypothesis.bind fun _ => .pure _

end Permitted

/-! ## Checked calls -/

namespace Checked

/-- The kernel call of a request that is not refused. -/
def trap : Checked → Call
  | exec name arguments =>
    .exec (.ofText name) arguments.length (Arguments.ofTexts arguments).pointer
  | join child => .join child
  | create name => .create (.ofText name)
  | openExisting name => .openFile (.ofText name)
  | unlink name => .unlink (.ofText name)
  | close descriptor => .close descriptor
  | read descriptor buffer => .read descriptor buffer.length
  | write descriptor data => .write descriptor data

theorem wellFormed_trap {call : Checked} (accepted : ¬ call.IsRefused) :
    call.trap.WellFormed := by
  cases call with
  | exec name arguments =>
      exact Call.wellFormed_exec (fun refused => accepted (.inl refused))
        fun argument listed refused => accepted (.inr ⟨argument, listed, refused⟩)
  | join child => trivial
  | create name | openExisting name | unlink name => exact Terminated.isShort_ofText accepted
  | close descriptor | read descriptor buffer | write descriptor data =>
      exact Nat.lt_of_not_le accepted

theorem raw_proceeds {allowed : Call → Prop} (call : Checked) (permitted : allowed call.trap) :
    Proceeds allowed call.raw := by
  have requested := Proceeds.request permitted
  cases call <;> exact .map _ (requested.bind fun _reply => .pure _)

theorem perform_proceeds {allowed : Call → Prop} (call : Checked)
    (permitted : ¬ call.IsRefused → allowed call.trap) :
    Proceeds allowed call.operation.perform := by
  by_cases refused : call.IsRefused
  · rw [perform_of_refused refused]
    exact .pure _
  · rw [perform_of_accepted refused]
    exact .map _ (call.raw_proceeds (permitted refused))

end Checked

/-! ## The operations of the library -/

namespace Operation

/-- The calls that an operation can make. -/
def Issues : Operation → Call → Prop
  | halt, call => call = .halt
  | exit code, call => call = .exit (Trap.statusWord code)
  | exec name arguments, call =>
    call = .exec (.ofText name) arguments.length (Arguments.ofTexts arguments).pointer
  | join child, call => call = .join child
  | create name, call => call = .create (.ofText name)
  | openExisting name, call => call = .openFile (.ofText name)
  | unlink name, call => call = .unlink (.ofText name)
  | close descriptor, call => call = .close descriptor
  | read descriptor buffer, call => call = .read descriptor buffer.length
  | write descriptor data, call => call = .write descriptor data
  | readByte, call => call = .read File.standardInput 1
  | print pieces, call => ∃ piece ∈ pieces, call = .write File.standardOutput (encode piece)
  | printLine pieces, call =>
    ∃ piece ∈ pieces ++ ["\n"], call = .write File.standardOutput (encode piece)

theorem print_proceeds (pieces : Pieces) :
    Proceeds (fun call => call.WellFormed ∧
      ∃ piece ∈ pieces, call = .write File.standardOutput (encode piece))
      (Terminal.print pieces) :=
  Terminal.print_proceeds fun piece listed =>
    ⟨Call.wellFormed_print piece, piece, listed, rfl⟩

theorem perform_asks (operation : Operation) :
    Asks (fun call => call.WellFormed ∧ operation.Issues call) operation.perform := by
  -- The eight operations that stand for one kernel call each go through `Checked`.
  have checked : ∀ call : Checked, call.operation.Issues call.trap →
      Asks (fun issued => issued.WellFormed ∧ call.operation.Issues issued)
        call.operation.perform :=
    fun call issues => (call.perform_proceeds fun accepted =>
      ⟨Checked.wellFormed_trap accepted, issues⟩).asks
  cases operation with
  | halt =>
      have requested : Proceeds (fun call => call.WellFormed ∧ Operation.halt.Issues call)
          (Run.request .halt) := .request ⟨trivial, rfl⟩
      exact .map _ (.map _ (requested.bind fun _reply => .pure _).asks)
  | exit code => exact exit_asks code ⟨Call.wellFormed_exit code, rfl⟩
  | exec name arguments => exact checked (.exec name arguments) rfl
  | join child => exact checked (.join child) rfl
  | create name => exact checked (.create name) rfl
  | openExisting name => exact checked (.openExisting name) rfl
  | unlink name => exact checked (.unlink name) rfl
  | close descriptor => exact checked (.close descriptor) rfl
  | read descriptor buffer => exact checked (.read descriptor buffer) rfl
  | write descriptor data => exact checked (.write descriptor data) rfl
  | readByte =>
      have inRange : File.standardInput.toNat < Limits.maxDescriptors := by decide
      refine .map _ (.bind (File.read_proceeds File.standardInput [0] fun _ =>
        ⟨inRange, rfl⟩).asks fun filled => ?_)
      rcases filled with ⟨count, buffer⟩
      cases count with
      | none => exact .pure none
      | some count => exact .pure _
  | print pieces => exact .map _ (print_proceeds pieces).asks
  | printLine pieces => exact .map _ (print_proceeds (pieces ++ ["\n"])).asks

/-- The record of many operations falls into shares, one for each operation up to
the one that ended the run if any did. -/
theorem performAll_shares (operations : List Operation) (session : Session) :
    ∃ shares : List (List Event), (performAll operations session).events = shares.flatten ∧
      List.Forall₂ (fun operation share => ∀ event ∈ share,
        event.call.WellFormed ∧ operation.Issues event.call)
        (operations.take shares.length) shares := by
  induction operations generalizing session with
  | nil => exact ⟨[], rfl, .nil⟩
  | cons operation rest inductionHypothesis =>
      have own := operation.perform_asks.events session
      rw [performAll]
      cases outcome : (operation.perform session).outcome with
      | finished value =>
          rcases inductionHypothesis (operation.perform session).session with
            ⟨shares, events, issued⟩
          refine ⟨(operation.perform session).events :: shares, ?_, .cons own issued⟩
          rw [bind_of_finished outcome, Step.events_after, bind_pure_comp, Run.map_eq, events]
          rfl
      | exited status =>
          refine ⟨[(operation.perform session).events], ?_, .cons own .nil⟩
          rw [bind_of_exited outcome, List.flatten_singleton]
      | panicked reason =>
          refine ⟨[(operation.perform session).events], ?_, .cons own .nil⟩
          rw [bind_of_panicked outcome, List.flatten_singleton]

end Operation

/-- Every call that reaches the kernel is one that it accepts, in every session:
the calls of programs, of batches and of the logger, which write to the output
only, and the calls of the library's operations, each of which makes no calls
but its own. -/
theorem calls_are_well_formed {α : Type} (session : Session) :
    (∀ program ∈ Program.all, ∀ event ∈ (program.run session : Step α).events,
      event.call.WellFormed ∧ event.call.WritesOutput) ∧
    (∀ programs arguments : List String, ∀ event ∈ (Batch.run programs arguments session).events,
      event.call.WellFormed ∧ event.call.WritesOutput) ∧
    (∀ operations : List Log.Operation,
      ∀ event ∈ (operations.mapM Log.Operation.perform session).events,
        event.call.WellFormed ∧ event.call.WritesOutput) ∧
    ∀ operations : List Operation, ∃ shares : List (List Event),
      (Operation.performAll operations session).events = shares.flatten ∧
      List.Forall₂ (fun operation share => ∀ event ∈ share,
        event.call.WellFormed ∧ operation.Issues event.call)
        (operations.take shares.length) shares := by
  refine ⟨?_, ?_, ?_, fun operations => Operation.performAll_shares operations session⟩
  · intro program listed
    exact (Program.run_asks listed).events session
  · intro programs arguments
    exact (Batch.run_proceeds permits_wellFormed programs arguments).asks.events session
  · intro operations
    exact (Proceeds.mapM (Log.Operation.perform_proceeds permits_wellFormed)
      operations).asks.events session

/-- The exit after a failed launch carries a negative code. -/
theorem failed_launch_exits_well_formed :
    let step : Step Unit :=
      Program.launchOnly.run ⟨.scripted { exec := [-1], write := [-1] }, {}⟩
    let event : Event := ⟨.exit (Trap.statusWord (-1)), .ended (-1)⟩
    Program.launchOnly ∈ Program.all ∧ event ∈ step.events ∧ event.call.WellFormed := by
  intro step event
  have listed : Program.launchOnly ∈ Program.all := List.mem_cons_self
  have onRecord : event ∈ step.events := by decide
  exact ⟨listed, onRecord,
    ((calls_are_well_formed (α := Unit) _).1 Program.launchOnly listed event onRecord).1⟩

/-- The numbers behind these shapes. -/
example : Limits.maxTextLength = 256 ∧ Limits.maxDescriptors = 16 ∧
    File.standardOutput = 1 ∧ File.standardInput = 0 := by
  decide

end Userland
