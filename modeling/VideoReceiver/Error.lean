import VideoReceiver.Net.Address
import VideoReceiver.Picture

/-!
# Receiver errors

Everything that can go wrong in a receiver, as causes. The wording is kept in one place.

## Main definitions

- `ReceiverError`: the causes
- `ReceiverError.message`, `ReceiverError.suggestions`, `ReceiverError.cause?`: their texts
- `ReceiverError.isRetryable`, `ReceiverError.isFatal`: what a caller may do about them
-/

namespace VideoReceiver

/-- The kind of a failed operation on a file, a socket or a thread. -/
inductive IoKind where
  | notFound
  | invalidData
  | connectionRefused
  | other (name : String)
  deriving DecidableEq, Repr, Inhabited

/-- A failed operation on a file, a socket or a thread. -/
structure IoFault where
  kind : IoKind
  text : String
  deriving DecidableEq, Repr, Inhabited

/-- What went wrong. Where an inner error is known, its text is the `cause`. -/
inductive ReceiverError where
  | poolAllocation (slot : Nat) (reason : String) (cause : Option String)
  | surfaceBinding (slot : Nat) (cause : Option String)
  | bufferRegistration (count : Nat) (cause : Option String)
  | unknownBuffer (identity : HardwareIdentity)
  | decoder (operation : String) (cause : Option String)
  | display (surface : SurfaceId) (cause : Option String)
  | source (reason : String) (cause : Option String)
  | repair (target : Net.Endpoint) (fault : IoFault)
  | config (context details : String)
  | file (path : String) (fault : IoFault)
  | noRuntime (operation : String)
  | thread (name : String) (fault : IoFault)
  deriving DecidableEq, Repr

namespace ReceiverError

/-- The one-line description of an error, without its cause. -/
def message : ReceiverError → String
  | poolAllocation slot reason _ => s!"Buffer allocation failed for slot {slot}: {reason}"
  | surfaceBinding slot _ => s!"Display surface binding failed for slot {slot}"
  | bufferRegistration count _ => s!"Decoder rejected external buffer set of {count} buffers"
  | unknownBuffer identity => "Decoded picture references unknown buffer " ++ identity.text
  | decoder operation _ => s!"Decoder error during {operation}"
  | display surface _ => "Display commit failed for " ++ surface.text
  | source reason _ => s!"Access unit source failed: {reason}"
  | repair target _ => "Keyframe request to " ++ target.text ++ " failed"
  | config context details => s!"Configuration error in {context}: {details}"
  | file path _ => s!"Config file error: {path}"
  | noRuntime operation => s!"{operation} requires a running Tokio runtime"
  | thread name _ => s!"Failed to spawn thread {name}"

/-- The text of the inner error, if there is one. -/
def cause? : ReceiverError → Option String
  | poolAllocation _ _ cause | surfaceBinding _ cause | bufferRegistration _ cause
  | decoder _ cause | display _ cause | source _ cause => cause
  | repair _ fault | file _ fault | thread _ fault => some fault.text
  | unknownBuffer _ | config _ _ | noRuntime _ => none

/-- Whether the failed operation may succeed when it is tried again. -/
def isRetryable : ReceiverError → Bool
  | decoder .. | display .. | source .. | repair .. => true
  | _ => false

/-- Whether the error leaves the decode path without buffers. -/
def isFatal : ReceiverError → Bool
  | poolAllocation .. | surfaceBinding .. | bufferRegistration .. => true
  | _ => false

/-- What a user can do about the error. -/
def suggestions : ReceiverError → List String
  | poolAllocation .. =>
    ["Check available CMA / DMA heap memory", "Lower the stream resolution", "Restart the receiver"]
  | surfaceBinding .. =>
    ["Verify the display plane supports the pixel format", "Check DRM master permissions",
      "Restart the receiver"]
  | bufferRegistration .. =>
    ["Verify the decoder supports external buffers",
      "Check buffer size against the announced strides"]
  | unknownBuffer .. =>
    ["Report a decoder contract violation", "Ensure the pool is rebuilt on every format change"]
  | decoder .. => ["Wait for the next keyframe", "Reset the decoder if errors persist"]
  | display .. => ["Check the display connector is still attached", "Retry on the next frame"]
  | source .. =>
    ["Check the radio link and network interface", "Verify the sender is streaming",
      "Reconnect the source"]
  | repair .. =>
    ["Check the sender is reachable", "Verify the repair port matches the sender configuration"]
  | config .. => ["Check configuration syntax", "Compare against the documented defaults"]
  | file .. => ["Check file exists and is readable", "Check file permissions"]
  | noRuntime .. => ["Construct the receiver from inside a Tokio runtime"]
  | thread .. => ["Check the process thread limit", "Check available memory"]

end ReceiverError

end VideoReceiver
