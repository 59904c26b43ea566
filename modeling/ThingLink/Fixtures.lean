import ThingLink.Documents.Fixtures
import ThingLink.Files

/-!
# Fixtures

The sensors of a thing and the readings to be sent for them: a lamp by default, or
what a schema file and a data file say.  A schema declares a sensor once, and every
reading is of a declared sensor.
-/

namespace ThingLink

open Text (decimal)

structure Fixtures where
  schema : List SchemaEntry
  data : List DataEntry

inductive FixtureError where
  | missingDataFile
  | read (path : String) (cause : FileError)
  | parse (path : String) (cause : JsonFault)
  | duplicateSensor (id : UInt8)
  | unknownSensor (id : UInt8)
  deriving DecidableEq, Repr

def FixtureError.message : FixtureError → String
  | missingDataFile => "missing data file"
  | read path cause => "failed to read '" ++ path ++ "': " ++ cause.message
  | parse path cause => "failed to parse '" ++ path ++ "': " ++ cause.message
  | duplicateSensor id => "sensor " ++ decimal id.toNat ++ " is declared twice in the schema"
  | unknownSensor id => "data references unknown sensor " ++ decimal id.toNat

namespace Fixtures

def lamp : Fixtures where
  schema := [⟨253, 3, 0, 65521, "Lamp Status"⟩]
  data := [⟨253, .bool false⟩]

/-- The first of some ids that is among those before it or in `seen`. -/
def firstRepeated? (seen : List UInt8) : List UInt8 → Option UInt8
  | [] => none
  | id :: rest => if seen.contains id then some id else firstRepeated? (id :: seen) rest

/-- Checks that ids are declared once, and then that readings name declared ids. -/
def validate (f : Fixtures) : Except FixtureError Unit :=
  let declared := f.schema.map (·.sensorId)
  match firstRepeated? [] declared with
  | some id => .error (.duplicateSensor id)
  | none =>
      match f.data.find? fun d => !declared.contains d.sensorId with
      | some d => .error (.unknownSensor d.sensorId)
      | none => .ok ()

def readFile {α : Type} (files : Files) (parse : String → Except JsonFault α) (path : String) :
    Except FixtureError α :=
  match files.read path with
  | .error e => .error (.read path e)
  | .ok text =>
      match parse text with
      | .error e => .error (.parse path e)
      | .ok entries => .ok entries

/-- The fixtures in a schema file and a data file.  Without a schema file it is the
lamp, whatever the data file. -/
def load (files : Files) (schemaPath dataPath : Option String) : Except FixtureError Fixtures :=
  match schemaPath, dataPath with
  | none, _ => .ok lamp
  | some _, none => .error .missingDataFile
  | some schemaPath, some dataPath => do
      let schema ← readFile files SchemaEntry.ofDocument schemaPath
      let data ← readFile files DataEntry.ofDocument dataPath
      let fixtures : Fixtures := ⟨schema, data⟩
      fixtures.validate
      pure fixtures

end Fixtures

end ThingLink
