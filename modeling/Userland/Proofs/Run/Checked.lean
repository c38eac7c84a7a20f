import Userland.Operation
import Userland.Proofs.Run.Children

/-!
# Checked calls and the calls as they are

Eight operations of the library stand for one kernel call each.  Such an
operation is a check, the kernel call, and a reading of the word that came back.
A request that does not pass the check is answered at once: nothing is recorded
and the session stays as it is, so a batch of requests may as well go without
it.  A request that passes is the kernel call, with the same record, the same
memory stored and the same panic, and only its value is read.

`Raw` is all that a kernel call leaves with the program.  The readings below are
given in integers: a word is a number unless it is negative, it means success
for zero only, and a join tells an exit by one and a fault by zero.  The
operations that are made of several kernel calls, or that end the program, have
no place here.
-/

namespace Userland

open Kernel Text

/-- The requests that stand for one kernel call each. -/
inductive Checked
  | exec (name : String) (arguments : List String)
  | join (child : UInt64)
  | create (name : String)
  | openExisting (name : String)
  | unlink (name : String)
  | close (descriptor : UInt64)
  | read (descriptor : UInt64) (buffer : List UInt8)
  | write (descriptor : UInt64) (data : List UInt8)
  deriving DecidableEq

/-- What a kernel call leaves with the program: the word, and the memory that
the kernel may have stored to. -/
structure Raw where
  word : Int64
  code : Int32 := 0
  buffer : List UInt8 := []
  deriving DecidableEq

namespace Raw

/-- The word as a number, unless it is negative. -/
def number? (raw : Raw) : Option UInt64 :=
  if 0 ≤ raw.word.toInt then some (UInt64.ofNat raw.word.toInt.toNat) else none

/-- The word as a success, which is zero only. -/
def done? (raw : Raw) : Option Unit :=
  if raw.word.toInt = 0 then some () else none

/-- The word of a join together with the code in memory. -/
def ending? (raw : Raw) : Option Ending :=
  if raw.word.toInt = 1 then some (.exited raw.code)
  else if raw.word.toInt = 0 then some .abnormal
  else none

theorem value?_eq_number? (word : Int64) (code : Int32) (buffer : List UInt8) :
    Returned.value? word = number? { word, code, buffer } := by
  have same : 0 ≤ word ↔ 0 ≤ word.toInt := Int64.le_iff_toInt_le
  unfold Returned.value? number?
  by_cases nonnegative : 0 ≤ word
  · have number : word.toUInt64 = UInt64.ofNat word.toInt.toNat :=
      (UInt64.ofNat_toNat.symm).trans
        (congrArg UInt64.ofNat (Int64.toNat_toUInt64_of_le nonnegative))
    rw [if_pos nonnegative, if_pos (same.mp nonnegative), number]
  · rw [if_neg nonnegative, if_neg fun negative => nonnegative (same.mpr negative)]

theorem done?_eq_done? (word : Int64) (code : Int32) (buffer : List UInt8) :
    Returned.done? word = done? { word, code, buffer } := by
  have zero : word = 0 ↔ word.toInt = 0 := Int64.toInt_inj.symm
  simp only [Returned.done?, done?, zero]

theorem ofJoin?_eq_ending? (word : Int64) (code : Int32) (buffer : List UInt8) :
    Ending.ofJoin? word code = ending? { word, code, buffer } := by
  have one : word = 1 ↔ word.toInt = 1 := Int64.toInt_inj.symm
  have zero : word = 0 ↔ word.toInt = 0 := Int64.toInt_inj.symm
  simp only [Ending.ofJoin?, ending?, one, zero]

end Raw

namespace Checked

def operation : Checked → Operation
  | exec name arguments => .exec name arguments
  | join child => .join child
  | create name => .create name
  | openExisting name => .openExisting name
  | unlink name => .unlink name
  | close descriptor => .close descriptor
  | read descriptor buffer => .read descriptor buffer
  | write descriptor data => .write descriptor data

/-- The request must not reach the kernel: for a text with a zero character or
of too many bytes, or for a number that no descriptor has.  A wait is never
refused. -/
def IsRefused : Checked → Prop
  | exec name arguments => Refused name ∨ ∃ argument ∈ arguments, Refused argument
  | join _ => False
  | create name | openExisting name | unlink name => Refused name
  | close descriptor | read descriptor _ | write descriptor _ =>
    Limits.maxDescriptors ≤ descriptor.toNat

instance : DecidablePred IsRefused
  | exec .. => inferInstanceAs (Decidable (_ ∨ _))
  | join _ => instDecidableFalse
  | create _ | openExisting _ | unlink _ => inferInstanceAs (Decidable (Refused _))
  | close _ | read .. | write .. => inferInstanceAs (Decidable (_ ≤ _))

def refusal : Checked → Value
  | exec .. | create _ | openExisting _ | write .. => .number none
  | unlink _ | close _ => .done none
  | join _ => .ending none
  | read _ buffer => .filled none buffer

/-- The kernel call with the arguments of the request, not checked at all. -/
def raw : Checked → Run Raw
  | exec name arguments =>
    (fun word => { word }) <$>
      Trap.exec (.ofText name) arguments.length (Arguments.ofTexts arguments).pointer
  | join child => (fun joined => { word := joined.1, code := joined.2 }) <$> Trap.join child 0
  | create name => (fun word => { word }) <$> Trap.create (.ofText name)
  | openExisting name => (fun word => { word }) <$> Trap.openFile (.ofText name)
  | unlink name => (fun word => { word }) <$> Trap.unlink (.ofText name)
  | close descriptor => (fun word => { word }) <$> Trap.close descriptor
  | read descriptor buffer =>
    (fun filled => { word := filled.1, buffer := filled.2 }) <$> Trap.read descriptor buffer
  | write descriptor data => (fun word => { word }) <$> Trap.write descriptor data

/-- What a request answers when its kernel call left this. -/
def decode : Checked → Raw → Value
  | exec .., raw | create _, raw | openExisting _, raw | write .., raw => .number raw.number?
  | unlink _, raw | close _, raw => .done raw.done?
  | join _, raw => .ending raw.ending?
  | read .., raw => .filled raw.number? raw.buffer

/-! ## One request -/

theorem isDescriptor_iff (descriptor : UInt64) :
    File.isDescriptor descriptor = true ↔ ¬ Limits.maxDescriptors ≤ descriptor.toNat := by
  rw [File.isDescriptor, decide_eq_true_eq, Nat.not_le]

theorem perform_of_refused {call : Checked} (refused : call.IsRefused) :
    call.operation.perform = pure call.refusal := by
  have outside : ∀ {descriptor : UInt64}, Limits.maxDescriptors ≤ descriptor.toNat →
      ¬ File.isDescriptor descriptor = true :=
    fun large inside => (isDescriptor_iff _).mp inside large
  cases call with
  | exec name arguments =>
      rw [operation, Operation.perform, Child.exec_of_refused refused]
      rfl
  | join child => cases refused
  | create name =>
      rw [operation, Operation.perform, File.create, Terminated.marshal?_of_refused refused]
      rfl
  | openExisting name =>
      rw [operation, Operation.perform, File.openExisting, Terminated.marshal?_of_refused refused]
      rfl
  | unlink name =>
      rw [operation, Operation.perform, File.unlink, Terminated.marshal?_of_refused refused]
      rfl
  | close descriptor =>
      rw [operation, Operation.perform, File.close, if_neg (outside refused)]
      rfl
  | read descriptor buffer =>
      rw [operation, Operation.perform, File.read, if_neg (outside refused)]
      rfl
  | write descriptor data =>
      rw [operation, Operation.perform, File.write, if_neg (outside refused)]
      rfl

/-- To read what a kernel call left and to keep all of it for a later reading come
to the same. -/
theorem map_eq_decode {γ δ : Type} {reading : γ → δ} {answer : δ → Value} {kept : γ → Raw}
    {decoded : Raw → Value} (same : ∀ left, answer (reading left) = decoded (kept left))
    (trap : Run γ) : answer <$> (reading <$> trap) = decoded <$> (kept <$> trap) := by
  rw [Functor.map_map, Functor.map_map]
  exact congrArg (· <$> trap) (funext same)

theorem perform_of_accepted {call : Checked} (accepted : ¬ call.IsRefused) :
    call.operation.perform = call.decode <$> call.raw := by
  have number : ∀ word, Value.number (Returned.value? word) = .number (Raw.number? { word }) :=
    fun word => congrArg Value.number (Raw.value?_eq_number? word 0 [])
  have done : ∀ word, Value.done (Returned.done? word) = .done (Raw.done? { word }) :=
    fun word => congrArg Value.done (Raw.done?_eq_done? word 0 [])
  cases call with
  | exec name arguments =>
      have nameAccepted : ¬ Refused name := fun refused => accepted (Or.inl refused)
      have argumentsAccepted : ∀ argument ∈ arguments, ¬ Refused argument :=
        fun argument listed refused => accepted (Or.inr ⟨argument, listed, refused⟩)
      rw [operation, Operation.perform, Child.exec_of_accepted nameAccepted argumentsAccepted]
      exact map_eq_decode number _
  | join child =>
      have joined : Child.join child =
          (fun joined => Ending.ofJoin? joined.1 joined.2) <$> Trap.join child 0 :=
        bind_pure_comp _ _
      rw [operation, Operation.perform, joined]
      exact map_eq_decode (fun joined =>
        congrArg Value.ending (Raw.ofJoin?_eq_ending? joined.1 joined.2 [])) _
  | create name =>
      rw [operation, Operation.perform, File.create, Terminated.marshal?_of_accepted accepted]
      exact map_eq_decode number _
  | openExisting name =>
      rw [operation, Operation.perform, File.openExisting,
        Terminated.marshal?_of_accepted accepted]
      exact map_eq_decode number _
  | unlink name =>
      rw [operation, Operation.perform, File.unlink, Terminated.marshal?_of_accepted accepted]
      exact map_eq_decode done _
  | close descriptor =>
      rw [operation, Operation.perform, File.close, if_pos ((isDescriptor_iff _).mpr accepted)]
      exact map_eq_decode done _
  | read descriptor buffer =>
      have inside := (isDescriptor_iff descriptor).mpr accepted
      have filled : File.read descriptor buffer =
          (fun filled => (Returned.value? filled.1, filled.2)) <$> Trap.read descriptor buffer := by
        rw [File.read, if_pos inside]
        exact bind_pure_comp _ _
      rw [operation, Operation.perform, filled]
      exact map_eq_decode (fun filled =>
        congrArg (Value.filled · filled.2) (Raw.value?_eq_number? filled.1 0 filled.2)) _
  | write descriptor data =>
      rw [operation, Operation.perform, File.write, if_pos ((isDescriptor_iff _).mpr accepted)]
      exact map_eq_decode number _

/-! ## Many requests -/

/-- The steps of requests made one after another, each in the session that the
one before it left, even if that one ended in a panic. -/
def steps : List Checked → Session → List (Step Value)
  | [], _ => []
  | call :: rest, session =>
    let step := call.operation.perform session
    step :: steps rest step.session

/-- The requests that reach the kernel. -/
def passing (calls : List Checked) : List Checked :=
  calls.filter fun call => ¬ call.IsRefused

/-- Of answers to the requests, those to requests that reach the kernel. -/
def ofPassing {α : Type} (calls : List Checked) (answers : List α) : List α :=
  ((calls.zip answers).filter fun entry => ¬ entry.1.IsRefused).map Prod.snd

section Passing

variable {call : Checked} (rest : List Checked)

theorem passing_of_refused (refused : call.IsRefused) : passing (call :: rest) = passing rest := by
  simp [passing, refused]

theorem passing_of_accepted (accepted : ¬ call.IsRefused) :
    passing (call :: rest) = call :: passing rest := by
  simp [passing, accepted]

variable {α : Type} (answer : α) (answers : List α)

theorem ofPassing_of_refused (refused : call.IsRefused) :
    ofPassing (call :: rest) (answer :: answers) = ofPassing rest answers := by
  simp [ofPassing, refused]

theorem ofPassing_of_accepted (accepted : ¬ call.IsRefused) :
    ofPassing (call :: rest) (answer :: answers) = answer :: ofPassing rest answers := by
  simp [ofPassing, accepted]

end Passing

theorem steps_passing (calls : List Checked) (session : Session) :
    steps (passing calls) session = ofPassing calls (steps calls session) := by
  induction calls generalizing session with
  | nil => rfl
  | cons call rest inductionHypothesis =>
      by_cases refused : call.IsRefused
      · have unchanged : (call.operation.perform session).session = session := by
          rw [perform_of_refused refused, Run.pure_apply]
        rw [passing_of_refused rest refused, steps, ofPassing_of_refused rest _ _ refused,
          unchanged]
        exact inductionHypothesis session
      · rw [passing_of_accepted rest refused, steps, steps,
          ofPassing_of_accepted rest _ _ refused, inductionHypothesis]

theorem performAll_passing (calls : List Checked) :
    Operation.performAll ((passing calls).map operation) =
      ofPassing calls <$> Operation.performAll (calls.map operation) := by
  induction calls with
  | nil => rfl
  | cons call rest inductionHypothesis =>
      rw [List.map_cons, Operation.performAll]
      by_cases refused : call.IsRefused
      · rw [passing_of_refused rest refused, inductionHypothesis, perform_of_refused refused,
          pure_bind, bind_pure_comp, Functor.map_map]
        congr 1
        funext values
        exact (ofPassing_of_refused rest _ values refused).symm
      · rw [passing_of_accepted rest refused, List.map_cons, Operation.performAll,
          inductionHypothesis, map_bind]
        congr 1
        funext value
        rw [bind_pure_comp, bind_pure_comp, Functor.map_map, Functor.map_map]
        congr 1
        funext values
        exact (ofPassing_of_accepted rest value values refused).symm

end Checked

/-- The same way of coming out, with another value. -/
def Outcome.map {α β : Type} (f : α → β) : Outcome α → Outcome β
  | finished value => finished (f value)
  | exited status => exited status
  | panicked reason => panicked reason

theorem Run.map_eq {α β : Type} (f : α → β) (run : Run α) (session : Session) :
    (f <$> run) session =
      ⟨(run session).outcome.map f, (run session).events, (run session).session⟩ := by
  rw [Run.map_apply]
  cases (run session).outcome <;> rfl

open Checked

/-- Checked calls refine the calls as they are.  A refused request answers
nothing and touches nothing, with or without a kernel; any other is its kernel
call with the value read.  So requests that are refused can be left out of a
batch: every other request makes the same step as before, and performed
together the others make the same calls, leave the same session, and come out
in the same way with the same values. -/
theorem checked_calls_refine :
    (∀ (call : Checked) (session : Session), call.IsRefused →
      call.operation.perform session = ⟨.finished call.refusal, [], session⟩) ∧
    (∀ (call : Checked) (session : Session), ¬ call.IsRefused →
      call.operation.perform session =
        ⟨(call.raw session).outcome.map call.decode, (call.raw session).events,
          (call.raw session).session⟩) ∧
    ∀ (calls : List Checked) (session : Session),
      steps (passing calls) session = ofPassing calls (steps calls session) ∧
      Operation.performAll ((passing calls).map operation) session =
        let all := Operation.performAll (calls.map operation) session
        ⟨all.outcome.map (ofPassing calls), all.events, all.session⟩ := by
  refine ⟨?_, ?_, ?_⟩
  · intro call session refused
    rw [perform_of_refused refused, Run.pure_apply]
  · intro call session accepted
    rw [perform_of_accepted accepted, Run.map_eq]
  · intro calls session
    refine ⟨steps_passing calls session, ?_⟩
    rw [performAll_passing, Run.map_eq]

/-- Three of these five requests are refused; the other two take their replies as
if they stood alone, and a read that fails has stored its byte all the same. -/
theorem refused_calls_left_out :
    let calls : List Checked :=
      [.write 16 [1], .join 7, .create "a\x00b", .read 3 [9, 9], .read 99 [5]]
    let session : Session :=
      ⟨.scripted { join := [(2, some 5)], create := [3], read := [(-1, [1])] }, {}⟩
    (Checked.write 16 [1]).IsRefused ∧ ¬ (Checked.join 7).IsRefused ∧
      passing calls = [.join 7, .read 3 [9, 9]] ∧
      (Operation.performAll ((passing calls).map operation) session).outcome =
        .finished [.ending none, .filled none [1, 9]] ∧
      (Operation.performAll ((passing calls).map operation) session).events =
        (Operation.performAll (calls.map operation) session).events := by
  intro calls session
  have together := (checked_calls_refine.2.2 calls session).2
  refine ⟨by decide, by decide, by decide, ?_, ?_⟩
  · rw [together]
    decide
  · rw [together]

end Userland
