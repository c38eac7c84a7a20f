import Userland.Proofs.Batch.Verdict

/-!
# What the two programs that launch a batch have in common

The program that only launches and the program that waits as well are two
copies of one launch.  Their records differ in waits, reports and log lines, so
they are compared by their starts alone: `execs` is what a record has of
these.  Since no write is a start, the starts can be read off the record without
its writes, and that record is known for both programs.

What the copies have in common is the same batch and the same rule of failure.
They complain with one text, each behind its own name, and the program that
waits can succeed only where the other does.
-/

namespace Userland

open Kernel Text Run

namespace Kernel

/-- Whether the call starts a program. -/
def Call.isExec : Call → Bool
  | .exec .. => true
  | _ => false

/-- The starts on a record. -/
def execs (events : List Event) : List Event :=
  events.filter fun event => event.call.isExec

@[simp] theorem execs_append (first second : List Event) :
    execs (first ++ second) = execs first ++ execs second :=
  List.filter_append ..

/-- No start is lost with the writes. -/
theorem execs_control (events : List Event) : execs (control events) = execs events := by
  rw [execs, control, List.filter_filter, execs]
  congr 1
  funext event
  cases event.call <;> rfl

end Kernel

namespace Batch

theorem execs_starts (programs arguments : List String) (script : Script) :
    execs (starts programs arguments script) = starts programs arguments script := by
  apply List.filter_eq_self.mpr
  intro event listed
  rcases List.mem_mapIdx.mp listed with ⟨index, bound, rfl⟩
  rfl

theorem execs_waits (children : List UInt64) (script : Script) :
    execs (waits children script) = [] := by
  apply List.filter_eq_nil_iff.mpr
  intro event listed
  rcases List.mem_mapIdx.mp listed with ⟨index, bound, rfl⟩
  exact Bool.false_ne_true

/-- Nothing but starts and one exit, apart from writes. -/
theorem execs_of_control {events : List Event} {programs arguments : List String}
    {script : Script} {code : Int32}
    (known : control events = starts programs arguments script ++ [exitEvent code]) :
    execs events = starts programs arguments script := by
  rw [← execs_control, known, execs_append, execs_starts]
  exact List.append_nil _

namespace SmokeTest

theorem run_launchOnly_launches {α : Type} :
    LaunchesAs "multi_exec: " (Program.launchOnly.run : Run α) :=
  launchOnly_launches.bind fun code => exit code

section Running

variable {α : Type} {script : Script} (final : script.exit = []) (logging : Log.State)

include final in
theorem run_launchOnly_of_started
    (started : ∀ entry < programs.length, 0 ≤ script.execWord entry) :
    let step : Step α := Program.launchOnly.run ⟨.scripted script, logging⟩
    step.outcome = .exited 0 ∧
      control step.events = starts programs [] script ++ [exitEvent 0] := by
  rcases launchPrograms_of_started started logging with
    ⟨launching, reached, records, ran, same, -, -⟩
  have concluded := OnlyWrites.bind_exit (β := α)
    (Log.log_onlyWrites (allLaunched (children programs script))) 0 (same.trans final) logging
  have launched : launchOnly ⟨.scripted script, logging⟩ =
      Step.after launching
        ((Log.log (allLaunched (children programs script)) >>= fun _ => exit 0)
          ⟨.scripted reached, logging⟩) :=
    bind_of_ran ran
  intro step
  have ended : step = Step.after launching
      ((Log.log (allLaunched (children programs script)) >>= fun _ => exit 0)
        ⟨.scripted reached, logging⟩) := by
    show (launchOnly >>= fun code => (exit code : Run α)) _ = _
    rw [bind_of_after launched, bind_exit_bind]
  rw [ended]
  refine ⟨concluded.1, ?_⟩
  rw [Step.events_after, control_append, records.control]
  exact congrArg _ concluded.2

include final in
theorem not_waits_run_launchOnly
    (started : ∀ entry < programs.length, 0 ≤ script.execWord entry) :
    ∀ event ∈ (Program.launchOnly.run ⟨.scripted script, logging⟩ : Step α).events,
      ∀ child, event.call ≠ .join child := by
  intro event listed child waits
  have kept := mem_control.mpr ⟨listed, by rw [waits]; rfl⟩
  rw [(run_launchOnly_of_started (α := α) final logging started).2] at kept
  rcases List.mem_append.mp kept with launched | ended
  · rcases List.mem_mapIdx.mp launched with ⟨index, inside, rfl⟩
    cases waits
  · rw [List.mem_singleton.mp ended] at waits
    cases waits

include final in
theorem execs_run_launchAndJoin
    (started : ∀ entry < programs.length, 0 ≤ script.execWord entry) :
    execs (Program.launchAndJoin.run ⟨.scripted script, logging⟩ : Step α).events =
      starts programs [] script := by
  rcases run_launchAndJoin_of_started (α := α) final logging started with
    ⟨launching, reporting, records, printed, events, -⟩
  have silent : execs reporting = [] := by
    rw [← execs_control, printed.control]
    rfl
  rw [events, execs_append, execs_append, execs_append, ← execs_control launching,
    records.control, silent, execs_starts, execs_waits, List.append_nil, List.append_nil]
  exact List.append_nil _

end Running

/-- Over any kernel that lets them exit, and each at a level of logging of its
own, both programs make the same starts.  When one of these is answered by a
negative word, both fail, with one text about the same entry behind the name of
the program.  Otherwise the program that only launches succeeds and waits for
nobody, so it succeeds wherever the program that waits does. -/
theorem launchOnly_and_launchAndJoin_agree {α : Type} (script : Script)
    (final : script.exit = []) (first second : Log.State) :
    let alone : Step α := Program.launchOnly.run ⟨.scripted script, first⟩
    let waiting : Step α := Program.launchAndJoin.run ⟨.scripted script, second⟩
    let tried (count : Nat) : List Event := (programs.take count).mapIdx fun index program =>
      ⟨.exec (.ofText program) 0 none, .resumed (.returned (script.execWord index))⟩
    execs waiting.events = execs alone.events ∧
    (∀ entry (bound : entry < programs.length), script.execWord entry < 0 →
      (∀ earlier < entry, 0 ≤ script.execWord earlier) →
        let text := "failed to exec `" ++ programs[entry] ++ "` (entry " ++ toString entry ++
          ")" ++ "\n"
        let lines (logging : Log.State) : String :=
          Pieces.text (launchLines logging (programs.take entry) script)
        execs alone.events = tried (entry + 1) ∧
        alone.outcome = .exited (-1) ∧ waiting.outcome = .exited (-1) ∧
        (script.AcceptsAll →
          written alone.events = encode (lines first ++ ("multi_exec: " ++ text)) ∧
          written waiting.events = encode (lines second ++ ("multi_exec_join: " ++ text)))) ∧
    ((∀ entry < programs.length, 0 ≤ script.execWord entry) →
      execs alone.events = tried programs.length ∧ alone.outcome = .exited 0 ∧
      ∀ event ∈ alone.events, ∀ child, event.call ≠ .join child) ∧
    (waiting.outcome = .exited 0 → alone.outcome = .exited 0) := by
  intro alone waiting tried
  have failing : ∀ entry < programs.length, script.execWord entry < 0 →
      (∀ earlier < entry, 0 ≤ script.execWord earlier) →
        execs alone.events = tried (entry + 1) ∧ execs waiting.events = tried (entry + 1) ∧
        alone.outcome = .exited (-1) ∧ waiting.outcome = .exited (-1) := by
    intro entry bound negative passed
    have former := (run_launchOnly_launches (α := α)).ends_of_failed bound negative passed first
      final
    have latter := (run_launchAndJoin_launches (α := α)).ends_of_failed bound negative passed
      second final
    exact ⟨execs_of_control former.2, execs_of_control latter.2, former.1, latter.1⟩
  have starting : (∀ entry < programs.length, 0 ≤ script.execWord entry) →
      execs alone.events = tried programs.length ∧
      execs waiting.events = tried programs.length ∧ alone.outcome = .exited 0 := by
    intro passed
    have former := run_launchOnly_of_started (α := α) final first passed
    have latter := execs_run_launchAndJoin (α := α) final second passed
    exact ⟨execs_of_control former.2, latter, former.1⟩
  have alternatives : (∃ entry < programs.length, script.execWord entry < 0 ∧
      ∀ earlier < entry, 0 ≤ script.execWord earlier) ∨
      ∀ entry < programs.length, 0 ≤ script.execWord entry := by
    by_cases negative : ∃ entry < programs.length, script.execWord entry < 0
    · exact .inl (Script.exists_first_negative negative)
    · exact .inr fun entry bound => Int64.not_lt.mp fun word => negative ⟨entry, bound, word⟩
  refine ⟨?_, ?_, ?_, ?_⟩
  · rcases alternatives with ⟨entry, bound, negative, passed⟩ | passed
    · have ⟨former, latter, _⟩ := failing entry bound negative passed
      rw [former, latter]
    · have ⟨former, latter, _⟩ := starting passed
      rw [former, latter]
  · intro entry bound negative passed text lines
    have ⟨tries, _, former, latter⟩ := failing entry bound negative passed
    refine ⟨tries, former, latter, fun accepts => ⟨?_, ?_⟩⟩
    · exact ((run_launchOnly_launches (α := α)).written_of_failed bound negative passed first final
        accepts).trans (by rw [text_complaint])
    · exact ((run_launchAndJoin_launches (α := α)).written_of_failed bound negative passed second
        final accepts).trans (by rw [text_complaint])
  · intro passed
    have ⟨tries, _, exited⟩ := starting passed
    exact ⟨tries, exited, not_waits_run_launchOnly final first passed⟩
  · intro succeeded
    rcases alternatives with ⟨entry, bound, negative, passed⟩ | passed
    · have ⟨_, _, _, failed⟩ := failing entry bound negative passed
      rw [failed] at succeeded
      cases succeeded
    · exact (starting passed).2.2

/-- The third start is refused.  The one program shows what it launched before,
the other does not, and both name the third entry, counted from zero. -/
theorem third_start_refused_for_both :
    let script : Script := { exec := [7, 0, -3, 9] }
    let shows : Log.State := { installed := true, threshold := .upTo .debug }
    let alone : Step Unit := Program.launchOnly.run ⟨.scripted script, shows⟩
    let waiting : Step Unit := Program.launchAndJoin.run ⟨.scripted script, {}⟩
    script.exit = [] ∧ execs waiting.events = execs alone.events ∧
      alone.outcome = .exited (-1) ∧ waiting.outcome = .exited (-1) ∧
      written alone.events = encode
        ("\x1b[32m[DEBUG] [user::launch] launched swap4.coff as pid 7\x1b[0m\n" ++
          "\x1b[32m[DEBUG] [user::launch] launched swap4.coff as pid 0\x1b[0m\n" ++
          "multi_exec: failed to exec `swap4.coff` (entry 2)\n") ∧
      written waiting.events = encode
        "multi_exec_join: failed to exec `swap4.coff` (entry 2)\n" := by
  intro script shows alone waiting
  have accepts : script.AcceptsAll := ⟨rfl, rfl⟩
  rcases launchOnly_and_launchAndJoin_agree (α := Unit) script rfl shows {} with
    ⟨same, failing, -, -⟩
  rcases failing 2 (by decide) (by decide) (by decide) with ⟨-, former, latter, texts⟩
  exact ⟨rfl, same, former, latter, (texts accepts).1.trans (by decide +kernel),
    (texts accepts).2.trans (by decide +kernel)⟩

end SmokeTest
end Batch
end Userland
