import VideoReceiver.Codec
import VideoReceiver.Yaml.Fault

/-!
# Faults of settings

The fields that a document can set, and what can be wrong with their entries.

## Main definitions

- `ConfigField`: the fields
- `ConfigMisfit`: what can be wrong with an entry
- `ConfigFault`: why a text gives no settings
- `ConfigMisfit.text`, `ConfigComplaint.text`, `ConfigFault.text`: the wording
-/

namespace VideoReceiver

/-- The fields of the settings. -/
inductive ConfigField where
  | codec
  | keyframeRequests
  | repairPort
  | logFilter
  deriving DecidableEq, Repr

namespace ConfigField

/-- The name of a field in a document. -/
def name : ConfigField → String
  | codec => "codec"
  | keyframeRequests => "keyframe_requests"
  | repairPort => "repair_port"
  | logFilter => "log_filter"

/-- All fields, in the order in which they are listed to the user. -/
def all : List ConfigField := [codec, keyframeRequests, repairPort, logFilter]

/-- The field with the given name. -/
def ofName? (s : String) : Option ConfigField := all.find? (·.name = s)

@[simp] theorem ofName?_name (f : ConfigField) : ofName? f.name = some f := by
  cases f <;> decide

end ConfigField

/-- What is wrong with an entry. -/
inductive ConfigMisfit where
  /-- Something of another kind than the expected one. -/
  | wrongKind (found expected : String)
  /-- Something of the right kind that is out of range, or that does not suit its tag. -/
  | wrongValue (found expected : String)
  | unknownCodec (spelling : String)
  | unknownField (name : String)
  | duplicateField (field : ConfigField)
  deriving DecidableEq, Repr

/-- A list of alternatives in words. -/
def alternatives (names : List String) : String :=
  "expected one of " ++ ", ".intercalate (names.map fun n => "\x60" ++ n ++ "\x60")

/-- The wording of a misfit. -/
def ConfigMisfit.text : ConfigMisfit → String
  | wrongKind found expected => "invalid type: " ++ found ++ ", expected " ++ expected
  | wrongValue found expected => "invalid value: " ++ found ++ ", expected " ++ expected
  | unknownCodec spelling =>
    "unknown variant \x60" ++ spelling ++ "\x60, " ++ alternatives (Codec.spellings.map (·.1))
  | unknownField name =>
    "unknown field \x60" ++ name ++ "\x60, " ++ alternatives (ConfigField.all.map (·.name))
  | duplicateField field => "duplicate field \x60" ++ field.name ++ "\x60"

/-- A misfit and where it is: the key that it belongs to, if it is a value, and a position. -/
structure ConfigComplaint where
  misfit : ConfigMisfit
  key : Option String
  mark : Yaml.Mark
  deriving DecidableEq, Repr

/-- The wording of a complaint. The very start of the text is not named as a position. -/
def ConfigComplaint.text (c : ConfigComplaint) : String :=
  c.key.elim "" (· ++ ": ") ++ c.misfit.text ++
    if c.mark.line = 0 && c.mark.column = 0 then "" else " at " ++ c.mark.text

/-- Why a text gives no settings. -/
inductive ConfigFault where
  | unreadable (fault : Yaml.Fault)
  | complaint (c : ConfigComplaint)
  deriving Repr

/-- The wording of a fault. -/
def ConfigFault.text : ConfigFault → String
  | unreadable fault => fault.text
  | complaint c => c.text

/-- A complaint about an entry, as a failure. -/
def complain {α : Type} (key : Option String) (mark : Yaml.Mark) (misfit : ConfigMisfit) :
    Except ConfigFault α :=
  .error (.complaint ⟨misfit, key, mark⟩)

end VideoReceiver
