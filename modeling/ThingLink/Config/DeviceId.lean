import ThingLink.Text.Blank
import ThingLink.Text.Integer

/-!
# Device ids as texts

A device id is written in decimal, or in hexadecimal behind `0x`, with blanks around
it.  `readDeviceId_document` says that the form in configuration files reads back.
-/

namespace ThingLink

open Text (IntegerError isBlank trimBlank trimBlank_eq_self readUnsigned readUnsigned_paddedHex
  capacity mem_paddedDigits paddedHex)

structure DeviceIdError where
  /-- The text without the blanks around it. -/
  text : String
  cause : IntegerError
  deriving DecidableEq, Repr

def DeviceIdError.message (e : DeviceIdError) : String :=
  "invalid device id '" ++ e.text ++ "': " ++ e.cause.message

def deviceIdBound : Nat := UInt64.size

def readDeviceNumber : List Char → Except IntegerError Nat
  | '0' :: 'x' :: digits => readUnsigned 16 deviceIdBound digits
  | '0' :: 'X' :: digits => readUnsigned 16 deviceIdBound digits
  | cs => readUnsigned 10 deviceIdBound cs

def readDeviceId (text : String) : Except DeviceIdError UInt64 :=
  let cs := trimBlank text.toList
  match readDeviceNumber cs with
  | .ok n => .ok (UInt64.ofNat n)
  | .error e => .error ⟨String.ofList cs, e⟩

/-- A device id in hexadecimal with all its digits, as in configuration files. -/
def deviceIdText (id : UInt64) : String :=
  "0x" ++ paddedHex 16 id.toNat

theorem isBlank_digitChar {d : Nat} (h : d < 16) : isBlank (Nat.digitChar d) = false := by
  have table : ∀ d < 16, isBlank (Nat.digitChar d) = false := by decide
  exact table d h

theorem readDeviceId_deviceIdText (id : UInt64) : readDeviceId (deviceIdText id) = .ok id := by
  have letters : (deviceIdText id).toList = '0' :: 'x' :: (paddedHex 16 id.toNat).toList := by
    simp [deviceIdText, String.toList_append]
  have clean : ∀ c ∈ (deviceIdText id).toList, isBlank c = false := by
    intro c h
    rw [letters] at h
    simp only [paddedHex, String.toList_ofList, List.mem_cons] at h
    rcases h with rfl | rfl | h
    · decide
    · decide
    · obtain ⟨d, below, rfl⟩ := mem_paddedDigits (by decide) h
      exact isBlank_digitChar below
  have fits : id.toNat < deviceIdBound := id.toNat_lt
  have digits : readUnsigned 16 deviceIdBound (paddedHex 16 id.toNat).toList = .ok id.toNat :=
    readUnsigned_paddedHex (by decide) (by simpa [deviceIdBound, capacity] using fits) fits
  rw [readDeviceId, trimBlank_eq_self clean, letters]
  simp [readDeviceNumber, digits]

end ThingLink
