import VideoReceiver.Codec
import VideoReceiver.Error

/-!
# Receiver settings

What a user can configure.

## Main definitions

- `ReceiverConfig`: the settings with their defaults
- `ReceiverConfig.validate`: the rule that the settings have to keep
-/

namespace VideoReceiver

/-- The port of the sender that keyframe requests go to, unless another one is set. -/
def defaultRepairPort : UInt16 := 11223

/-- The settings of a receiver. -/
structure ReceiverConfig where
  codec : Codec := .h265
  /-- Whether keyframes are requested at all. -/
  keyframeRequests : Bool := true
  repairPort : UInt16 := defaultRepairPort
  logFilter : String := "info"
  deriving DecidableEq, Repr

namespace ReceiverConfig

instance : Inhabited ReceiverConfig := ⟨{}⟩

/-- Refuses port zero, which cannot be sent to. -/
def validate (c : ReceiverConfig) : Except ReceiverError Unit :=
  if c.repairPort = 0 then .error (.config "repair_port" "port 0 is not addressable") else .ok ()

end ReceiverConfig

end VideoReceiver
