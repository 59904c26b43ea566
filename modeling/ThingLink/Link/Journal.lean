/-!
# Journals

What a run does is kept as a journal: entries in the order in which they happen,
each with the millisecond at which it happens.
-/

namespace ThingLink

inductive Level where
  | info
  | warn
  | error
  deriving DecidableEq, Repr

def Level.name : Level → String
  | info => "INFO"
  | warn => "WARN"
  | error => "ERROR"

structure LogLine where
  level : Level
  source : String
  text : String
  deriving DecidableEq, Repr

def LogLine.short (line : LogLine) : String :=
  line.level.name ++ " " ++ line.text

def LogLine.long (line : LogLine) : String :=
  line.level.name ++ " " ++ line.source ++ ": " ++ line.text

inductive Act where
  | request (bytes : List UInt8)
  | write (bytes : List UInt8)
  | shutdown
  | log (line : LogLine)
  deriving DecidableEq, Repr

/-- Something done, and the millisecond at which it is done. -/
structure Entry where
  time : Nat
  act : Act
  deriving DecidableEq, Repr

abbrev Journal := List Entry

def Journal.logLines (j : Journal) : List LogLine :=
  j.filterMap fun e => match e.act with
    | .log line => some line
    | _ => none

def Journal.traffic (j : Journal) : Journal :=
  j.filter fun e => match e.act with
    | .log _ => false
    | _ => true

@[simp] theorem Journal.logLines_append (j k : Journal) :
    logLines (j ++ k) = logLines j ++ logLines k :=
  List.filterMap_append

end ThingLink
