/-!
# Telling the build where the link script is

Programs for the bare machine are linked by a script of their own; tests on an
ordinary host are not.  The lines written here tell the build tool to watch the
script and, for a bare target, to pass it to the linker.  The target decides by
the beginning of its name, upper and lower case told apart.
-/

namespace Userland
namespace LinkScript

/-- What the build tool tells about itself; a missing entry was not set. -/
structure Settings where
  target : Option String
  /-- The directory of the package being built. -/
  directory : Option String

/-- What can be missing. -/
inductive Missing
  | directory
  deriving DecidableEq

/-- The text that says so. -/
def Missing.message : Missing → String
  | directory => "called `Result::unwrap()` on an `Err` value: NotPresent"

/-- The lines for the build tool, and what stopped them if something did. -/
structure Directives where
  lines : List String
  stopped : Option Missing := none
  deriving DecidableEq

/-- The link script, seen from the directory of the package. -/
def path : String := "src/linker.ld"

/-- The beginning of the names of bare targets. -/
def bareTarget : String := "riscv64"

/-- Whether programs for the target run without an operating system. -/
def isBare (target : String) : Bool :=
  bareTarget.toList.isPrefixOf target.toList

/-- The lines for the build tool. -/
def directives (settings : Settings) : Directives :=
  let watch := "cargo:rerun-if-changed=" ++ path
  if isBare (settings.target.getD "") then
    match settings.directory with
    | none => { lines := [watch], stopped := some .directory }
    | some directory =>
      { lines := [watch, "cargo:rustc-link-arg-bins=-T" ++ directory ++ "/" ++ path] }
  else { lines := [watch] }

end LinkScript
end Userland
