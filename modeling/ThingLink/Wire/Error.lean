import ThingLink.Text.Integer
import ThingLink.Wire.Frame

/-!
# What can be wrong with a message

`DecodeError` lists why bytes are not a message, `ProtocolError` why a message
cannot be built.  `message` gives the wording of each.
-/

namespace ThingLink

open Text (decimal signedDecimal paddedHex)

inductive TextField where
  | deviceName
  | uuid
  | token
  deriving DecidableEq, Repr

def TextField.name : TextField → String
  | deviceName => "device name"
  | uuid => "uuid"
  | token => "token"

inductive DecodeError where
  | truncated (needed available : Nat)
  | unknownType (tag : UInt8)
  /-- A payload of this kind is never that long. -/
  | lengthMismatch (kind : MessageKind) (actual : Nat)
  | invalidText (field : TextField)
  | unknownResult (code : Int8)
  deriving DecidableEq, Repr

def DecodeError.message : DecodeError → String
  | truncated needed available =>
      "truncated message: need " ++ decimal needed ++ " bytes, have " ++ decimal available
  | unknownType tag => "unknown message type: 0x" ++ paddedHex 2 tag.toNat
  | lengthMismatch kind actual =>
      "payload length " ++ decimal actual ++ " is not valid for " ++ kind.name
  | invalidText field => "invalid text in " ++ field.name
  | unknownResult code => "unknown result code: " ++ signedDecimal code.toInt

inductive ProtocolError where
  | nameTooLong (length max : Nat)
  /-- A credential is not the fixed number of ASCII characters. -/
  | invalidCredential (field : TextField) (expected actual : Nat)
  | invalidUuid (text : String)
  | decode (cause : DecodeError)
  deriving DecidableEq, Repr

namespace ProtocolError

def message : ProtocolError → String
  | nameTooLong length max =>
      "device name too long: " ++ decimal length ++ " bytes (max " ++ decimal max ++ ")"
  | invalidCredential field expected actual =>
      "invalid " ++ field.name ++ ": expected " ++ decimal expected
        ++ " ASCII characters, got " ++ decimal actual ++ " bytes"
  | invalidUuid text => "invalid uuid: " ++ text
  | decode cause => "decode error: " ++ cause.message

/-- The wordings of the errors behind this one, outermost first. -/
def causes : ProtocolError → List String
  | decode cause => [cause.message]
  | _ => []

end ProtocolError

end ThingLink
