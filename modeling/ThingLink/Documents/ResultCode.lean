import ThingLink.Json.Record
import ThingLink.Wire.ResultCode

/-!
# Result codes in JSON

A result code is written as its name.  It may also be read from an object with the
name as its only key and `null` as its value.
-/

namespace ThingLink

open Json

namespace ResultCode

def document (code : ResultCode) : String :=
  quote code.name

def variantNames : String :=
  String.intercalate ", " (all.map fun code => "`" ++ code.name ++ "`")

def ofVariant (name : String) : Except JsonFault ResultCode :=
  match ofName? name with
  | some code => .ok code
  | none => .error (.unfit ("unknown variant `" ++ name ++ "`, expected one of " ++ variantNames))

def ofKey : Tree → Except JsonFault ResultCode
  | .text t => do ofVariant (← t.decode)
  | t => t.wrongKind "variant identifier"

def ofTree : Tree → Except JsonFault ResultCode
  | .text t => do ofVariant (← t.decode)
  | .missing fault => .error fault
  | .object (.finish ending) => .error (ending.getD .malformed)
  | .object (.entry key value rest) => do
      let code ← ofKey key
      match value with
      | .word .null ending => raise ending
      | value => value.wrongKind "unit"
      match rest with
      | .finish ending => raise ending
      | .entry .. => .error .malformed
      pure code
  | _ => .error .malformed

def ofDocument (text : String) : Except JsonFault ResultCode :=
  readDocument (fun _ => ofTree) text

end ResultCode

end ThingLink
