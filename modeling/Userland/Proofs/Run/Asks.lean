import Userland.Log.Logger
import Userland.Proofs.Run.Children

/-!
# Which calls a run can make

`Asks allowed run` says how the run is put together: from calls that are all
allowed, from looking at and setting the state of the logger, from panics, and
from sequences of such parts.  It speaks of the text of the run and mentions no
session, so it holds for every kernel.  `Proceeds` is the same without panics:
nothing in such a run gives up, and where no allowed call is an exit, it comes
back with a value from every kernel.  Functions of the library are described
here by the calls they can make, once each, with the calls as obligations.

What follows for the session in which such a run takes place is proved by one
induction over the parts, `Asks.keeps`, for any relation that single calls have
and sequences keep.  So `Asks.events` says that only allowed calls are on record,
`Asks.follows` that the script that is left follows the script that was there,
and `Asks.served` that every entry of the record is a call as a script between
the two takes it.
-/

namespace Userland

open Kernel Text

namespace Run

/-- A run that is put together from allowed calls. -/
inductive Asks (allowed : Call → Prop) : {α : Type} → Run α → Prop
  | pure {α : Type} (value : α) : Asks allowed (Pure.pure value : Run α)
  | bind {α β : Type} {first : Run α} {next : α → Run β} (front : Asks allowed first)
      (behind : ∀ value, Asks allowed (next value)) : Asks allowed (first >>= next)
  | panic {α : Type} (reason : Panic) : Asks allowed (Run.panic reason : Run α)
  | rescue {α : Type} {run : Run α} {handler : Panic → Run α} (tried : Asks allowed run)
      (handled : ∀ reason, Asks allowed (handler reason)) : Asks allowed (run.rescue handler)
  | logging : Asks allowed Run.logging
  | modifyLogging (change : Log.State → Log.State) : Asks allowed (Run.modifyLogging change)
  | request {call : Call} (permitted : allowed call) : Asks allowed (Run.request call)

/-- A relation between the session at the start of a run, the record and the
session at its end that allowed calls have and sequences keep. -/
structure Kept (allowed : Call → Prop) (holds : Session → List Event → Session → Prop) :
    Prop where
  silent : ∀ (session : Session) (change : Log.State → Log.State),
    holds session [] { session with logging := change session.logging }
  requested : ∀ {call : Call}, allowed call → ∀ session : Session,
    holds session (Run.request call session).events (Run.request call session).session
  joined : ∀ {first middle last : Session} {front behind : List Event},
    holds first front middle → holds middle behind last → holds first (front ++ behind) last

/-- The kernel took the calls on record as its script said by then, and a kernel
is left whose script follows the one at the start. -/
def Serves (first : Session) (record : List Event) (last : Session) : Prop :=
  ∀ script : Script, first.host = .scripted script →
    ∃ left : Script, last.host = .scripted left ∧ left.Follows script ∧
      ∀ event ∈ record, ∃ reached : Script, reached.Follows script ∧
        event.response = (reached.serve event.call).1

theorem kept_serves {allowed : Call → Prop} : Kept allowed Serves where
  silent session change script hosted :=
    ⟨script, hosted, Script.Follows.refl script, List.forall_mem_nil _⟩
  requested := by
    intro call permitted session script hosted
    rcases session with ⟨host, state⟩
    obtain rfl : host = .scripted script := hosted
    exact ⟨(script.serve call).2, rfl, script.serve_follows call,
      List.forall_mem_singleton.mpr ⟨script, Script.Follows.refl script, rfl⟩⟩
  joined := by
    intro first middle last front behind former latter script hosted
    rcases former script hosted with ⟨between, reached, followed, answered⟩
    rcases latter between reached with ⟨left, ended, later, answeredLater⟩
    refine ⟨left, ended, later.trans followed, List.forall_mem_append.mpr ⟨answered, ?_⟩⟩
    intro event listed
    rcases answeredLater event listed with ⟨taken, since, response⟩
    exact ⟨taken, since.trans followed, response⟩

theorem kept_allowed {allowed : Call → Prop} :
    Kept allowed fun _first record _last => ∀ event ∈ record, allowed event.call where
  silent _session _change := List.forall_mem_nil _
  requested := by
    intro call permitted session
    rcases session with ⟨host, state⟩
    cases host with
    | absent => exact List.forall_mem_nil _
    | scripted script => exact List.forall_mem_singleton.mpr permitted
  joined former latter := List.forall_mem_append.mpr ⟨former, latter⟩

namespace Asks

variable {allowed : Call → Prop} {α β : Type}

theorem map (f : α → β) {run : Run α} (asks : Asks allowed run) : Asks allowed (f <$> run) := by
  rw [← bind_pure_comp]
  exact asks.bind fun value => .pure (f value)

/-- What is kept by every part of a run is true of the run, however it comes
out. -/
theorem keeps {holds : Session → List Event → Session → Prop} (kept : Kept allowed holds)
    {run : Run α} (asks : Asks allowed run) (session : Session) :
    holds session (run session).events (run session).session := by
  induction asks generalizing session with
  | pure value => exact kept.silent session id
  | panic reason => exact kept.silent session id
  | logging => exact kept.silent session id
  | modifyLogging change => exact kept.silent session change
  | request permitted => exact kept.requested permitted session
  | @bind α β first next front behind frontHypothesis behindHypothesis =>
      cases outcome : (first session).outcome with
      | finished value =>
          rw [bind_of_finished outcome]
          exact kept.joined (frontHypothesis session) (behindHypothesis value _)
      | exited status =>
          rw [bind_of_exited outcome]
          exact frontHypothesis session
      | panicked reason =>
          rw [bind_of_panicked outcome]
          exact frontHypothesis session
  | @rescue α run handler tried handled triedHypothesis handledHypothesis =>
      simp only [Run.rescue]
      cases outcome : (run session).outcome with
      | panicked reason =>
          exact kept.joined (triedHypothesis session) (handledHypothesis reason _)
      | finished value => exact triedHypothesis session
      | exited status => exact triedHypothesis session

/-- No other call gets on record, with or without a kernel. -/
theorem events {run : Run α} (asks : Asks allowed run) (session : Session) :
    ∀ event ∈ (run session).events, allowed event.call :=
  asks.keeps kept_allowed session

/-- Whatever a run does, it leaves a kernel behind where there was one, and its
script follows the one before. -/
theorem follows {run : Run α} (asks : Asks allowed run) (script : Script) (logging : Log.State) :
    ∃ left state, (run ⟨.scripted script, logging⟩).session = ⟨.scripted left, state⟩ ∧
      left.Follows script := by
  rcases asks.keeps kept_serves ⟨.scripted script, logging⟩ script rfl with
    ⟨left, reached, followed, _answered⟩
  refine ⟨left, (run ⟨.scripted script, logging⟩).session.logging, ?_, followed⟩
  rw [← reached]

/-- Every call on record was taken as a script says that follows the one at the
start. -/
theorem served {run : Run α} (asks : Asks allowed run) (script : Script) (logging : Log.State) :
    ∀ event ∈ (run ⟨.scripted script, logging⟩).events,
      ∃ reached : Script, reached.Follows script ∧
        event.response = (reached.serve event.call).1 := by
  rcases asks.keeps kept_serves ⟨.scripted script, logging⟩ script rfl with
    ⟨_left, _reached, _followed, answered⟩
  exact answered

end Asks

/-- A run that is put together from allowed calls and never gives up. -/
inductive Proceeds (allowed : Call → Prop) : {α : Type} → Run α → Prop
  | pure {α : Type} (value : α) : Proceeds allowed (Pure.pure value : Run α)
  | bind {α β : Type} {first : Run α} {next : α → Run β} (front : Proceeds allowed first)
      (behind : ∀ value, Proceeds allowed (next value)) : Proceeds allowed (first >>= next)
  | logging : Proceeds allowed Run.logging
  | modifyLogging (change : Log.State → Log.State) : Proceeds allowed (Run.modifyLogging change)
  | request {call : Call} (permitted : allowed call) : Proceeds allowed (Run.request call)

namespace Proceeds

variable {allowed : Call → Prop} {α β : Type}

theorem map (f : α → β) {run : Run α} (proceeds : Proceeds allowed run) :
    Proceeds allowed (f <$> run) := by
  rw [← bind_pure_comp]
  exact proceeds.bind fun value => .pure (f value)

theorem asks {run : Run α} (proceeds : Proceeds allowed run) : Asks allowed run := by
  induction proceeds with
  | pure value => exact .pure value
  | bind front behind frontHypothesis behindHypothesis =>
      exact .bind frontHypothesis behindHypothesis
  | logging => exact .logging
  | modifyLogging change => exact .modifyLogging change
  | request permitted => exact .request permitted

/-- Without an exit among the allowed calls the run comes back, and the returns
that were prepared for exits are still there. -/
theorem finishes {run : Run α} (proceeds : Proceeds allowed run)
    (others : ∀ call, allowed call → call.isExit = false) (script : Script)
    (logging : Log.State) :
    ∃ value events left state,
      run ⟨.scripted script, logging⟩ = ⟨.finished value, events, ⟨.scripted left, state⟩⟩ ∧
      left.exit = script.exit ∧ ∀ event ∈ events, allowed event.call := by
  induction proceeds generalizing script logging with
  | pure value => exact ⟨value, [], script, logging, rfl, rfl, List.forall_mem_nil _⟩
  | logging => exact ⟨logging, [], script, logging, rfl, rfl, List.forall_mem_nil _⟩
  | modifyLogging change =>
      exact ⟨(), [], script, change logging, rfl, rfl, List.forall_mem_nil _⟩
  | @request call permitted =>
      rcases script.serve_of_other (others call permitted) with ⟨reply, left, served, same⟩
      exact ⟨reply, _, left, logging, request_of_resumed served logging, same,
        List.forall_mem_singleton.mpr permitted⟩
  | bind front behind frontHypothesis behindHypothesis =>
      rcases frontHypothesis script logging with
        ⟨value, events, middle, state, ran, same, asked⟩
      rcases behindHypothesis value middle state with
        ⟨result, more, left, last, ended, alsoSame, alsoAsked⟩
      refine ⟨result, events ++ more, left, last, ?_, alsoSame.trans same,
        List.forall_mem_append.mpr ⟨asked, alsoAsked⟩⟩
      rw [bind_of_ran ran, ended]
      rfl

end Proceeds

/-- Writes to the output, starts that are not refused, and waits: what batches
and programs are made of. -/
structure Permits (allowed : Call → Prop) : Prop where
  writes : ∀ piece : String, allowed (.write File.standardOutput (encode piece))
  starts : ∀ (name : String) (arguments : List String), ¬ Refused name →
    (∀ argument ∈ arguments, ¬ Refused argument) →
      allowed (.exec (.ofText name) arguments.length (Arguments.ofTexts arguments).pointer)
  waits : ∀ child : UInt64, allowed (.join child)

end Run

/-! ## What the library asks for -/

open Run

variable {allowed : Call → Prop}

theorem File.write_proceeds (descriptor : UInt64) (data : List UInt8)
    (permitted : File.isDescriptor descriptor → allowed (.write descriptor data)) :
    Proceeds allowed (File.write descriptor data) := by
  unfold File.write
  split
  · rename_i inRange
    exact .map _ ((Proceeds.request (permitted inRange)).bind fun reply => .pure reply.word)
  · exact .pure none

theorem File.read_proceeds (descriptor : UInt64) (buffer : List UInt8)
    (permitted : File.isDescriptor descriptor → allowed (.read descriptor buffer.length)) :
    Proceeds allowed (File.read descriptor buffer) := by
  unfold File.read
  split
  · rename_i inRange
    exact ((Proceeds.request (permitted inRange)).bind fun _reply => .pure _).bind
      fun _filled => .pure _
  · exact .pure (none, buffer)

theorem Terminal.print_proceeds {pieces : Pieces}
    (permitted : ∀ piece ∈ pieces, allowed (.write File.standardOutput (encode piece))) :
    Proceeds allowed (Terminal.print pieces) := by
  induction pieces with
  | nil => exact .pure ()
  | cons piece rest inductionHypothesis =>
      refine Proceeds.bind (File.write_proceeds _ _ fun _ => permitted piece List.mem_cons_self)
        fun written => ?_
      cases written with
      | none => exact .pure ()
      | some count =>
          exact inductionHypothesis fun other listed =>
            permitted other (List.mem_cons_of_mem piece listed)

theorem Log.submit_proceeds
    (permitted : ∀ piece : String, allowed (.write File.standardOutput (encode piece)))
    (record : Record) : Proceeds allowed (submit record) := by
  refine Proceeds.bind (Proceeds.logging.bind fun state => .pure _) fun enabled => ?_
  cases enabled with
  | true => exact Terminal.print_proceeds fun piece _ => permitted piece
  | false => exact .pure ()

theorem Log.log_proceeds
    (permitted : ∀ piece : String, allowed (.write File.standardOutput (encode piece)))
    (record : Record) : Proceeds allowed (Log.log record) := by
  refine Proceeds.logging.bind fun state => ?_
  split
  · exact submit_proceeds permitted record
  · exact .pure ()

/-- A start is asked for only with a name and arguments that are not refused. -/
theorem Child.exec_proceeds (name : String) (arguments : List String)
    (permitted : ¬ Refused name → (∀ argument ∈ arguments, ¬ Refused argument) →
      allowed (.exec (.ofText name) arguments.length (Arguments.ofTexts arguments).pointer)) :
    Proceeds allowed (Child.exec name arguments) := by
  by_cases refused : Refused name ∨ ∃ argument ∈ arguments, Refused argument
  · rw [Child.exec_of_refused refused]
    exact .pure none
  · have nameAccepted : ¬ Refused name := fun named => refused (Or.inl named)
    have argumentsAccepted : ∀ argument ∈ arguments, ¬ Refused argument :=
      fun argument listed found => refused (Or.inr ⟨argument, listed, found⟩)
    rw [Child.exec_of_accepted nameAccepted argumentsAccepted]
    exact .map _ ((Proceeds.request (permitted nameAccepted argumentsAccepted)).bind fun reply =>
      .pure reply.word)

theorem Child.join_proceeds (child : UInt64) (permitted : allowed (.join child)) :
    Proceeds allowed (Child.join child) :=
  ((Proceeds.request permitted).bind fun _reply => .pure _).bind fun _left => .pure _

/-- Behind an exit there is only the panic about its return. -/
theorem exit_asks {α : Type} (code : Int32) (permitted : allowed (.exit (Trap.statusWord code))) :
    Asks allowed (exit code : Run α) :=
  (Asks.request permitted).bind fun _reply => .panic _

end Userland
