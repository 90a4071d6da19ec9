import WeiRtcNative.Lib.Lifetime
import WeiRtcNative.Lib.Lines
import WeiRtcNative.Lib.Machine
import WeiRtcNative.Lib.Plane
import WeiRtcNative.Lib.Precision
import WeiRtcNative.Lib.ReusedBuffer
import WeiRtcNative.Lib.WrappingClock
import WeiRtcNative.Frame
import WeiRtcNative.VideoRender
import WeiRtcNative.DesktopCapturer
import WeiRtcNative.CaptureThread
import WeiRtcNative.SharedFrames
import WeiRtcNative.DirectTcpServer
import WeiRtcNative.WinsockResources
import WeiRtcNative.Signaling.SimpleTcpSignaling
import WeiRtcNative.Signaling.Candidates
import WeiRtcNative.Signaling.RemoteInput
import WeiRtcNative.Signaling.OfferAnswer
import WeiRtcNative.Signaling.DescriptionOwners
import WeiRtcNative.WeiRtcApp
import WeiRtcNative.VideoSource
import WeiRtcNative.VideoCapture.Formats
import WeiRtcNative.VideoCapture.CaptureState
import WeiRtcNative.H264.MediaFoundation
import WeiRtcNative.H264.MediaFoundationStartup
import WeiRtcNative.H264.Fragmentation
import WeiRtcNative.H264.AnnexB
import WeiRtcNative.H264.Decoder
import WeiRtcNative.H264.KeyFrameGate
import WeiRtcNative.H264.DecoderTimes
import WeiRtcNative.H264.DecoderReadiness
import WeiRtcNative.H264.SampleAttributeQueue
import WeiRtcNative.H264.StreamSink
import WeiRtcNative.H264.StreamDelivery
import WeiRtcNative.H264.MediaSink
import WeiRtcNative.H264.Encoder
import WeiRtcNative.H264.WriterUse
import WeiRtcNative.H264.SampleTimes
import WeiRtcNative.H264.Pipeline
import WeiRtcNative.H264.LastRates
import WeiRtcNative.H264.InFlight
import WeiRtcNative.H264.AttributeIntegrity
import WeiRtcNative.H264.Clogging
import WeiRtcNative.Audio.Transport
import WeiRtcNative.Audio.StopJoins
import WeiRtcNative.Audio.DeviceSelection
import WeiRtcNative.Audio.Activation
import WeiRtcNative.Audio.VolumeControls
import WeiRtcNative.Audio.FormatNegotiation
import WeiRtcNative.Audio.PlayoutDelay
import WeiRtcNative.Audio.SyncBuffer
import WeiRtcNative.H264.FrameCopy
import WeiRtcNative.H264.RateLimit
import WeiRtcNative.H264.ScanBounds
import WeiRtcNative.H264.StreamAtomicity
import WeiRtcNative.VideoCapture.SourceSelection
import WeiRtcNative.Audio.DeviceName
import WeiRtcNative.Audio.RecordingDelay
import WeiRtcNative.H264.AttributeExpiry
import WeiRtcNative.H264.FragmentationHeader
import WeiRtcNative.H264.FrameAlignment
import WeiRtcNative.Lib.CallChain
import WeiRtcNative.VideoCapture.CapabilityMap
import WeiRtcNative.H264.WrittenSamples
import WeiRtcNative.H264.SampleRequests
import WeiRtcNative.H264.NV12Pictures
import WeiRtcNative.H264.DecodedPictures
import WeiRtcNative.Lib.ResetQueue
import WeiRtcNative.Audio.RenderStream
import WeiRtcNative.Audio.CoreLifecycle
import WeiRtcNative.Lib.Utf16
import WeiRtcNative.VideoCapture.DeviceNames
import WeiRtcNative.VideoCapture.OpenedCamera
import WeiRtcNative.Painting
import WeiRtcNative.PaintOrder
import WeiRtcNative.VideoCapture.FrameArrival
import WeiRtcNative.VideoCapture.AsyncWait
import WeiRtcNative.Lib.LockOrder
import WeiRtcNative.H264.EncoderLocks
import WeiRtcNative.H264.SinkClock
import WeiRtcNative.VideoCapture.MediaCaptureInit
