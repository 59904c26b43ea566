import ThingLink.CommandLine
import ThingLink.Run

/-!
# What the shell sees

A call of the program ends with an exit code, and prints lines on two streams: the
results on one, and on the other the log and what went wrong.
-/

namespace ThingLink

/-- The least severe lines that are shown; none at all if there is no level. -/
def shownFrom (level? : Option Level) (lines : List LogLine) : List LogLine :=
  let rank : Level → Nat
    | .info => 0
    | .warn => 1
    | .error => 2
  match level? with
  | none => []
  | some level => lines.filter fun line => rank level ≤ rank line.level

def logVariable : String := "RUST_LOG"

/-- The level that the value of the variable names. -/
def shownLevel : Option String → Option Level
  | some "off" => none
  | some "error" | some "" => some .error
  | some "warn" => some .warn
  | _ => some .info

structure ShellView where
  exit : Nat
  printed : List String
  noted : List String

def CliStop.view (stop : CliStop) (lookup : Variables) : ShellView :=
  let linesOf (text : String) : List String := (text.splitOn "\n").dropLast
  match stop with
  | .version => ⟨0, linesOf versionText, []⟩
  | .help => ⟨0, linesOf (helpText ((lookup configVariable).getD "")), []⟩
  | .usage error =>
      let usage := match error with
        | .unknownArgument _ => ["", "Usage: knot-thing [OPTIONS]"]
        | _ => []
      ⟨2, [], error.message :: usage ++ ["", "For more information, try '--help'."]⟩

def Report.view {σ : Type} (r : Report σ) (lookup : Variables) : ShellView :=
  let logged :=
    (shownFrom (shownLevel (lookup logVariable)) r.journal.logLines).map LogLine.long
  match r.ended with
  | some (.error e) => ⟨1, r.printed, logged ++ ["Error: " ++ e.message]⟩
  | _ => ⟨0, r.printed, logged⟩

end ThingLink
