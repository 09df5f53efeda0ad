/-!
# Reasons for a keyframe request

## Main definitions

- `PendingFlag`: the two confirmations that the receiver waits for
- `RepairReason`: why a keyframe is requested, with its name, and the flag that it raises
-/

namespace VideoReceiver

/-- What a keyframe confirms: that the stream has started, or that a recording may start. -/
inductive PendingFlag where
  | stream
  | record
  deriving DecidableEq, Repr, Inhabited

/-- Why a keyframe is requested. -/
inductive RepairReason where
  | streamUp
  | rtpGap
  | decodeStall
  | integrity
  | recordStart
  | recordStartDeferred
  deriving DecidableEq, Repr, Inhabited

namespace RepairReason

/-- The name of a reason. -/
def name : RepairReason → String
  | streamUp => "stream-up"
  | rtpGap => "rtp-gap"
  | decodeStall => "decode-stall"
  | integrity => "integrity"
  | recordStart => "record-start"
  | recordStartDeferred => "record-start-deferred"

/-- All reasons. -/
def all : List RepairReason :=
  [streamUp, rtpGap, decodeStall, integrity, recordStart, recordStartDeferred]

/-- The reason with the given name. -/
def ofName? (s : String) : Option RepairReason := all.find? (·.name == s)

/-- Whether the request is for a recording. -/
def isRecording : RepairReason → Bool
  | recordStart | recordStartDeferred => true
  | _ => false

/-- The flag that a request raises; requests for a single loss raise none. -/
def tracking : RepairReason → Option PendingFlag
  | streamUp => some .stream
  | recordStart | recordStartDeferred => some .record
  | rtpGap | decodeStall | integrity => none

@[simp] theorem ofName?_name (r : RepairReason) : ofName? r.name = some r := by
  cases r <;> decide

end RepairReason

end VideoReceiver
