import Mathlib.Logic.Basic

/-!
# Result codes and image kinds shared by the H264 codecs

`HResult` keeps apart the codes the code compares with; every other failure is
`fail` and every success is `ok`.
-/

namespace WeiRtcNative.H264

set_option autoImplicit false

inductive HResult where
  | ok
  | notAccepting
  | streamChange
  | needMoreInput
  | noMoreTypes
  | shutdown
  | notInitialized
  | invalidRequest
  | invalidType
  | fail
  deriving DecidableEq, Repr

def HResult.failed (hr : HResult) : Bool := hr != .ok

/-- `ON_SUCCEEDED(act)` after a call that returned `hr`. -/
def HResult.andThen (hr act : HResult) : HResult := if hr.failed then hr else act

@[simp] theorem HResult.failed_eq_true {hr : HResult} : hr.failed = true ↔ hr ≠ .ok := by
  simp [HResult.failed]

@[simp] theorem HResult.failed_eq_false {hr : HResult} : hr.failed = false ↔ hr = .ok := by
  simp [HResult.failed]

inductive VideoFrameType where
  | key
  | delta
  | empty
  deriving DecidableEq, Repr

/-- The `WEBRTC_VIDEO_CODEC_…` values. -/
inductive CodecResult where
  | ok
  | error
  | errParameter
  | uninitialized
  deriving DecidableEq, Repr

end WeiRtcNative.H264
