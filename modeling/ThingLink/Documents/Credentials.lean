import ThingLink.Json.Record
import ThingLink.Wire.Credentials

/-!
# Credentials in JSON

Credentials are a record of a UUID and a token; texts that are not credentials are
refused with the wording of the error that refuses them.
-/

namespace ThingLink

open Json

namespace Credentials

structure Draft where
  uuid : Option String := none
  token : Option String := none

def shape : Shape Draft (String × String) where
  name := "RawCredentials"
  fields :=
    [⟨"uuid", fun d => d.uuid.isSome, fun _ t d => do pure { d with uuid := some (← t.asText) }⟩,
     ⟨"token", fun d => d.token.isSome, fun _ t d => do pure { d with token := some (← t.asText) }⟩]
  empty := {}
  finish d := do
    let uuid ← required "uuid" d.uuid
    let token ← required "token" d.token
    pure (uuid, token)

def ofTree (room : Nat) (t : Tree) : Except JsonFault Credentials := do
  let (uuid, token) ← shape.read room t
  match make uuid token with
  | .ok c => pure c
  | .error e => .error (.unfit e.message)

def ofDocument (text : String) : Except JsonFault Credentials :=
  readDocument ofTree text

def compact (c : Credentials) : String :=
  "\x7b\"uuid\":" ++ quote c.uuid ++ ",\"token\":" ++ quote c.token ++ "\x7d"

def document (c : Credentials) : String :=
  "\x7b\n  \"uuid\": " ++ quote c.uuid ++ ",\n  \"token\": " ++ quote c.token ++ "\n\x7d\n"

end Credentials

end ThingLink
