import ApiFlow.Address.Basic
import ApiFlow.Files.Tree
import ApiFlow.Pattern.Error
import ApiFlow.Yaml.Error

/-!
# Faults

A fault stops what is being done.  A failure of a step is no fault: it is part of the step's result.
-/

set_option autoImplicit false

namespace ApiFlow

/-- What cannot be gone on from. -/
inductive Fault where
  /-- A text that should be an integer is none. -/
  | integer (e : Integer.ReadError)
  /-- A pattern cannot be searched for. -/
  | pattern (r : Pattern.Refusal)
  /-- A duration is too long for a double. -/
  | durationTooLarge
  /-- An integer is too large for a double. -/
  | integerTooLarge
  /-- An infinite number has no integer part. -/
  | infiniteInteger
  /-- What is no number has no integer part. -/
  | notANumberInteger
  /-- An address cannot be split. -/
  | address (e : Address.Error)
  /-- A file cannot be read. -/
  | file (e : Files.Error)
  /-- The bytes of a file are no text. -/
  | encoding (m : Utf8.Misfit)
  /-- An integer has too many digits to be written. -/
  | integerText
  /-- A scalar of a configuration has no value. -/
  | scalar (e : Yaml.ScalarError)
  /-- A service broke down for a reason of its own. -/
  | service (message : Text)
  deriving DecidableEq, Repr

/-- The wording of what is wrong with bytes. -/
def faultKindText : Utf8.FaultKind → Text
  | .badStart => "invalid start byte"
  | .badContinuation => "invalid continuation byte"
  | .cutShort => "unexpected end of data"

/-- The place of the bytes that hold no character. -/
def misfitPlace (m : Utf8.Misfit) : Text :=
  if m.fault.width = 1 then
    "byte 0x" ++ Text.hex 2 m.byte.toNat ++ " in position " ++ Text.ofNat m.position
  else
    "bytes in position " ++ Text.ofNat m.position ++ "-" ++ Text.ofNat (m.position + m.fault.width - 1)

def misfitMessage (m : Utf8.Misfit) : Text :=
  "'utf-8' codec can't decode " ++ misfitPlace m ++ ": " ++ faultKindText m.fault.kind

def Fault.message : Fault → Text
  | integer e => e.message
  | pattern r => r.message
  | durationTooLarge => "integer division result too large for a float"
  | integerTooLarge => "int too large to convert to float"
  | infiniteInteger => "cannot convert float infinity to integer"
  | notANumberInteger => "cannot convert float NaN to integer"
  | address e => e.message
  | file e => e.message
  | encoding m => misfitMessage m
  | integerText => Integer.unwritable
  | scalar e => e.message
  | service message => message

end ApiFlow
