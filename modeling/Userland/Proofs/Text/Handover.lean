import Userland.Proofs.Run.Children

/-!
# What the kernel finds behind the addresses

A start hands over addresses, and what counts is what the kernel reads behind
them.  It looks for the end of a text within a bounded window, and it follows
as many addresses of an array as the number beside it says.  Both readings are
given here as functions of memory alone.  Memory may hold anything behind the
final zero of a text, so no reading depends on what happens to stand there.

A text is marshalled exactly when the bounded search finds it whole, and so the
readings give back what was handed over: the name, and the arguments in their
number and order, empty ones and repeated ones included.
-/

namespace Userland

open Kernel

namespace Text

/-! ## The bounded search -/

/-- A search that succeeds has seen the zero behind what it found. -/
theorem zeroFree_and_short_of_kernelRead? {memory found : List UInt8}
    (read : kernelRead? memory = some found) :
    (0 : UInt8) ∉ found ∧ found.length ≤ Limits.maxTextLength := by
  unfold kernelRead? at read
  dsimp only at read
  split at read
  · rename_i zero
    cases read
    constructor
    · intro member
      have different := List.mem_takeWhile_imp member
      simp at different
    -- The zero of the window is not among the bytes before it.
    · have shorter : ((memory.take (Limits.maxTextLength + 1)).takeWhile (· ≠ 0)).length <
          (memory.take (Limits.maxTextLength + 1)).length := by
        refine lt_of_le_of_ne (List.takeWhile_prefix _).length_le fun same => ?_
        have whole := (List.takeWhile_prefix _).eq_of_length same
        have different := List.takeWhile_eq_self_iff.mp whole 0 zero
        simp at different
      have window : (memory.take (Limits.maxTextLength + 1)).length ≤ Limits.maxTextLength + 1 :=
        List.length_take_le _ _
      omega
  · cases read

/-- Content without a zero is found if the zero behind it is in the window,
whatever follows. -/
theorem kernelRead?_of_short {content : List UInt8} (zeroFree : (0 : UInt8) ∉ content)
    (short : content.length ≤ Limits.maxTextLength) (behind : List UInt8) :
    kernelRead? (content ++ 0 :: behind) = some content := by
  have window : (content ++ 0 :: behind).take (Limits.maxTextLength + 1) =
      content ++ 0 :: behind.take (Limits.maxTextLength - content.length) := by
    rw [List.take_append, List.take_of_length_le (Nat.le_succ_of_le short),
      Nat.succ_sub short, List.take_succ_cons]
  have before : (content ++ 0 :: behind.take (Limits.maxTextLength - content.length)).takeWhile
      (· ≠ 0) = content := by
    have different : ∀ byte ∈ content, decide (byte ≠ 0) = true := by
      intro byte listed
      exact decide_eq_true fun zero => zeroFree (zero ▸ listed)
    rw [List.takeWhile_append_of_pos different]
    exact List.append_nil content
  have member : (0 : UInt8) ∈ content ++ 0 :: behind.take (Limits.maxTextLength - content.length) :=
    List.mem_append_right content List.mem_cons_self
  unfold kernelRead?
  dsimp only
  rw [window, if_pos member, before]

namespace Terminated

theorem isSome_marshal?_iff (text : String) : (marshal? text).isSome ↔ ¬ Refused text := by
  constructor
  · intro accepted refused
    rw [marshal?_of_refused refused] at accepted
    cases accepted
  · intro accepted
    rw [marshal?_of_accepted accepted]
    rfl

theorem content_of_accepted {text : String} (accepted : ¬ Refused text) :
    (ofText text).content = encode text :=
  content_ofText fun zero => accepted (Or.inl ((zero_mem_encode_iff text).mp zero))

/-- The zero behind the content is within the window of the search. -/
def IsShort (terminated : Terminated) : Prop :=
  terminated.content.length ≤ Limits.maxTextLength

theorem isShort_ofText {text : String} (accepted : ¬ Refused text) : (ofText text).IsShort := by
  rw [IsShort, content_of_accepted accepted]
  exact Nat.le_of_not_lt fun long => accepted (Or.inr long)

/-- What is marshalled is what the bounded search finds whole. -/
theorem isSome_marshal?_iff_kernelRead? (text : String) :
    (marshal? text).isSome ↔ kernelRead? (encode text ++ [0]) = some (encode text) := by
  rw [isSome_marshal?_iff]
  constructor
  · intro accepted
    rw [← content_of_accepted accepted]
    exact kernelRead?_of_short (ofText text).zero_not_mem (isShort_ofText accepted) []
  · intro read refused
    rcases zeroFree_and_short_of_kernelRead? read with ⟨zeroFree, short⟩
    rcases refused with zero | long
    · exact zeroFree ((zero_mem_encode_iff text).mpr zero)
    · exact Nat.not_lt.mpr short long

theorem bytes_of_marshal? {text : String} {terminated : Terminated}
    (accepted : marshal? text = some terminated) : terminated.bytes = encode text ++ [0] := by
  rw [bytes, content_of_ofText? (ofText?_of_marshal? accepted)]

/-- Memory that begins with the bytes of the text, with anything behind them. -/
def StandsIn (terminated : Terminated) (memory : List UInt8) : Prop :=
  terminated.bytes <+: memory

end Terminated

/-! ## Reading texts through addresses -/

/-- The text behind an address, given the memory that begins there. -/
def readText? (memory : List UInt8) : Option String :=
  (kernelRead? memory).bind decode?

/-- So many texts through the front of an array of addresses, each given by the
memory that begins there.  Nothing is read when the array has fewer. -/
def readTexts? : Nat → List (List UInt8) → Option (List String)
  | 0, _ => some []
  | _ + 1, [] => none
  | count + 1, memory :: others =>
    (readText? memory).bind fun text => (readTexts? count others).map (text :: ·)

theorem readText?_of_standsIn {text : String} (accepted : ¬ Refused text) {memory : List UInt8}
    (stands : (Terminated.ofText text).StandsIn memory) : readText? memory = some text := by
  rcases stands with ⟨behind, rfl⟩
  have found := kernelRead?_of_short (Terminated.ofText text).zero_not_mem
    (Terminated.isShort_ofText accepted) behind
  rw [readText?, Terminated.bytes, List.append_assoc, List.singleton_append, found,
    Terminated.content_of_accepted accepted]
  exact decode?_encode text

/-- Every text of an array is read, in order. -/
theorem readTexts?_of_standsIn {texts : List String} (accepted : ∀ text ∈ texts, ¬ Refused text)
    {memories : List (List UInt8)}
    (stand : List.Forall₂ Terminated.StandsIn (texts.map Terminated.ofText) memories) :
    readTexts? texts.length memories = some texts := by
  induction texts generalizing memories with
  | nil => rfl
  | cons text rest inductionHypothesis =>
      cases stand with
      | cons stands others =>
          have first := readText?_of_standsIn (accepted text List.mem_cons_self) stands
          have later := inductionHypothesis
            (fun other listed => accepted other (List.mem_cons_of_mem text listed)) others
          rw [List.length_cons, readTexts?, first, later]
          rfl

namespace Arguments

theorem pointer_ofTexts_eq_none_iff (texts : List String) :
    (ofTexts texts).pointer = none ↔ texts = [] := by
  rw [pointer_eq_none_iff, count_ofTexts, List.length_eq_zero_iff]

theorem getD_pointer (arguments : Arguments) : arguments.pointer.getD [] = arguments.strings := by
  unfold pointer
  split
  · rename_i empty
    exact (List.isEmpty_iff.mp empty).symm
  · rfl

end Arguments
end Text

/-! ## Starts -/

open Text

/-- The kernel reads this name and these arguments in the call: whatever stands
behind the texts in memory, and with the null address for no arguments only. -/
def Kernel.Call.Delivers (call : Call) (name : String) (arguments : List String) : Prop :=
  ∃ terminated count array, call = .exec terminated count array ∧
    (∀ memory, terminated.StandsIn memory → readText? memory = some name) ∧
    count = arguments.length ∧
    (array = none ↔ arguments = []) ∧
    ∀ memories, List.Forall₂ Terminated.StandsIn (array.getD []) memories →
      readTexts? count memories = some arguments

theorem Child.delivers_of_accepted {name : String} {arguments : List String}
    (nameAccepted : ¬ Refused name) (argumentsAccepted : ∀ argument ∈ arguments, ¬ Refused argument) :
    Call.Delivers (.exec (.ofText name) arguments.length (Arguments.ofTexts arguments).pointer)
      name arguments := by
  refine ⟨_, _, _, rfl, ?_, rfl, Arguments.pointer_ofTexts_eq_none_iff arguments, ?_⟩
  · intro memory stands
    exact readText?_of_standsIn nameAccepted stands
  · intro memories stand
    rw [Arguments.getD_pointer] at stand
    exact readTexts?_of_standsIn argumentsAccepted stand

/-- Marshalling is exact.  It accepts the texts that the bounded search finds
whole, and hands over their bytes with one zero.  A start enters the kernel, and
does so once, exactly when the name and every argument are accepted, and then
the kernel reads what the program asked for.  Without a kernel the attempt to
enter it shows as a panic, under the same condition. -/
theorem marshalling_is_exact :
    (∀ text : String,
      ((Terminated.marshal? text).isSome ↔
        kernelRead? (encode text ++ [0]) = some (encode text)) ∧
      ∀ terminated, Terminated.marshal? text = some terminated →
        terminated.bytes = encode text ++ [0]) ∧
    ∀ (name : String) (arguments : List String) (script : Script) (logging : Log.State),
      let accepted := (Terminated.marshal? name).isSome ∧
        ∀ argument ∈ arguments, (Terminated.marshal? argument).isSome
      let events := (Child.exec name arguments ⟨.scripted script, logging⟩).events
      ((∃ event, events = [event]) ↔ accepted) ∧
      (events = [] ↔ ¬ accepted) ∧
      (∀ event ∈ events, event.call.Delivers name arguments) ∧
      ((Child.exec name arguments ⟨.absent, logging⟩).outcome = .panicked (.noKernel 2) ↔
        accepted) := by
  refine ⟨fun text => ⟨Terminated.isSome_marshal?_iff_kernelRead? text,
    fun _ => Terminated.bytes_of_marshal?⟩, ?_⟩
  intro name arguments script logging accepted events
  have acceptedIff : accepted ↔
      ¬ (Refused name ∨ ∃ argument ∈ arguments, Refused argument) := by
    simp only [accepted, Terminated.isSome_marshal?_iff, not_or, not_exists, not_and]
  by_cases refused : Refused name ∨ ∃ argument ∈ arguments, Refused argument
  · have notAccepted : ¬ accepted := fun asked => acceptedIff.mp asked refused
    have silent : events = [] := by
      simp only [events, Child.exec_of_refused refused, Run.pure_apply]
    have finished : (Child.exec name arguments ⟨.absent, logging⟩).outcome = .finished none := by
      rw [Child.exec_of_refused refused, Run.pure_apply]
    simp [silent, finished, notAccepted]
  · have isAccepted : accepted := acceptedIff.mpr refused
    have nameAccepted : ¬ Refused name := fun named => refused (Or.inl named)
    have argumentsAccepted : ∀ argument ∈ arguments, ¬ Refused argument :=
      fun argument listed found => refused (Or.inr ⟨argument, listed, found⟩)
    have once := congrArg Step.events
      (Child.exec_scripted nameAccepted argumentsAccepted script logging)
    have panicked : (Child.exec name arguments ⟨.absent, logging⟩).outcome =
        .panicked (.noKernel 2) := by
      rw [Child.exec_of_accepted nameAccepted argumentsAccepted]
      rfl
    have delivered := Child.delivers_of_accepted nameAccepted argumentsAccepted
    simp only [events, once]
    simp [isAccepted, panicked, delivered]

/-- The kernel is entered once although it refuses, and finds the empty argument
and the repeated one. -/
theorem repeated_arguments_delivered :
    let arguments := ["", "-v", "-v"]
    let events := (Child.exec "swap4.coff" arguments ⟨.scripted { exec := [-2] }, {}⟩).events
    Terminated.marshal? "-v" = some (.ofText "-v") ∧ (Terminated.ofText "-v").bytes = [45, 118, 0] ∧
      ∃ event, events = [event] ∧ event.call.Delivers "swap4.coff" arguments := by
  intro arguments events
  have marshalled : Terminated.marshal? "-v" = some (.ofText "-v") := by decide
  have entered := marshalling_is_exact.2 "swap4.coff" arguments { exec := [-2] } {}
  rcases entered.1.mpr (by decide) with ⟨event, once⟩
  refine ⟨marshalled, ?_, event, once, entered.2.2.1 event ?_⟩
  · rw [(marshalling_is_exact.1 "-v").2 _ marshalled]
    decide
  · rw [once]
    exact List.mem_cons_self

end Userland
