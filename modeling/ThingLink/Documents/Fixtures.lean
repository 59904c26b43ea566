import ThingLink.Json.Record

/-!
# Schema files and data files

A schema file lists the sensors of a thing, a data file their readings.
-/

namespace ThingLink

open Json

structure SchemaEntry where
  sensorId : UInt8
  valueType : UInt8
  unit : UInt8
  typeId : UInt16
  name : String
  deriving DecidableEq, Repr

structure DataEntry where
  sensorId : UInt8
  value : JsonValue

namespace SchemaEntry

structure Draft where
  sensorId : Option Nat := none
  valueType : Option Nat := none
  unit : Option Nat := none
  typeId : Option Nat := none
  name : Option String := none

def byte (t : Tree) : Except JsonFault Nat :=
  t.asNatural UInt8.size "u8"

def word (t : Tree) : Except JsonFault Nat :=
  t.asNatural UInt16.size "u16"

def shape : Shape Draft SchemaEntry where
  name := "SchemaEntry"
  fields :=
    [⟨"sensor_id", fun d => d.sensorId.isSome,
        fun _ t d => do pure { d with sensorId := some (← byte t) }⟩,
     ⟨"value_type", fun d => d.valueType.isSome,
        fun _ t d => do pure { d with valueType := some (← byte t) }⟩,
     ⟨"unit", fun d => d.unit.isSome,
        fun _ t d => do pure { d with unit := some (← byte t) }⟩,
     ⟨"type_id", fun d => d.typeId.isSome,
        fun _ t d => do pure { d with typeId := some (← word t) }⟩,
     ⟨"name", fun d => d.name.isSome,
        fun _ t d => do pure { d with name := some (← t.asText) }⟩]
  empty := {}
  finish d := do
    let sensorId ← required "sensor_id" d.sensorId
    let valueType ← required "value_type" d.valueType
    let unit ← required "unit" d.unit
    let typeId ← required "type_id" d.typeId
    let name ← required "name" d.name
    pure ⟨UInt8.ofNat sensorId, UInt8.ofNat valueType, UInt8.ofNat unit, UInt16.ofNat typeId, name⟩

structure FileDraft where
  schema : Option (List SchemaEntry) := none

def fileShape : Shape FileDraft (List SchemaEntry) where
  name := "SchemaFile"
  fields :=
    [⟨"schema", fun d => d.schema.isSome,
        fun room t d => do pure { d with schema := some (← t.asSequence room shape.read) }⟩]
  empty := {}
  finish d := required "schema" d.schema

def ofDocument (text : String) : Except JsonFault (List SchemaEntry) :=
  readDocument fileShape.read text

end SchemaEntry

namespace DataEntry

structure Draft where
  sensorId : Option Nat := none
  value : Option JsonValue := none

def shape : Shape Draft DataEntry where
  name := "DataEntry"
  fields :=
    [⟨"sensor_id", fun d => d.sensorId.isSome,
        fun _ t d => do pure { d with sensorId := some (← SchemaEntry.byte t) }⟩,
     ⟨"value", fun d => d.value.isSome,
        fun room t d => do pure { d with value := some (← t.value room) }⟩]
  empty := {}
  finish d := do
    let sensorId ← required "sensor_id" d.sensorId
    let value ← required "value" d.value
    pure ⟨UInt8.ofNat sensorId, value⟩

structure FileDraft where
  data : Option (List DataEntry) := none

def fileShape : Shape FileDraft (List DataEntry) where
  name := "DataFile"
  fields :=
    [⟨"data", fun d => d.data.isSome,
        fun room t d => do pure { d with data := some (← t.asSequence room shape.read) }⟩]
  empty := {}
  finish d := required "data" d.data

def ofDocument (text : String) : Except JsonFault (List DataEntry) :=
  readDocument fileShape.read text

end DataEntry

end ThingLink
