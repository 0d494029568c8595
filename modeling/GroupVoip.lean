import GroupVoip.AllInOneIds
import GroupVoip.AllInOneQueue
import GroupVoip.AllInOneRuns
import GroupVoip.AudioDrift
import GroupVoip.AudioLockStep
import GroupVoip.AudioMixer
import GroupVoip.AudioOrder
import GroupVoip.AudioResampler
import GroupVoip.AudioTimestampMapper
import GroupVoip.AvcSequenceHeader
import GroupVoip.AvcTags
import GroupVoip.Backpressure
import GroupVoip.BitFields
import GroupVoip.BitStreamParser
import GroupVoip.BucketClock
import GroupVoip.CatchUp
import GroupVoip.ChunkBounds
import GroupVoip.ChunkDecoder
import GroupVoip.ChunkEncoder
import GroupVoip.ChunkHeader
import GroupVoip.ChunkIndependence
import GroupVoip.ChunkReading
import GroupVoip.ChunkStream
import GroupVoip.CodecInfo
import GroupVoip.Decoders
import GroupVoip.DrainCompleteness
import GroupVoip.DrainTermination
import GroupVoip.FLVDelivery
import GroupVoip.FLVOutput
import GroupVoip.FLVParser
import GroupVoip.FLVSegmentOutput
import GroupVoip.FLVSegmentParser
import GroupVoip.FLVTagFormat
import GroupVoip.FLVTimestampMapper
import GroupVoip.FrameDropping
import GroupVoip.GroupMixer
import GroupVoip.HeaderEncoding
import GroupVoip.HeaderRoundTrip
import GroupVoip.IdLookup
import GroupVoip.IdTable
import GroupVoip.InputDelivery
import GroupVoip.InputObject
import GroupVoip.InputPath
import GroupVoip.InputRoundTrip
import GroupVoip.InputWire
import GroupVoip.Instants
import GroupVoip.KaraokeClock
import GroupVoip.KaraokeDelivery
import GroupVoip.KaraokeGenerator
import GroupVoip.KaraokeParser
import GroupVoip.KaraokeProgress
import GroupVoip.KaraokeTurns
import GroupVoip.Library.BitCount
import GroupVoip.Library.Bits
import GroupVoip.Library.Buffers
import GroupVoip.Library.Checked
import GroupVoip.Library.ClearBit
import GroupVoip.Library.Emitter
import GroupVoip.Library.Eventually
import GroupVoip.Library.Extent
import GroupVoip.Library.Framer
import GroupVoip.Library.Halting
import GroupVoip.Library.Loops
import GroupVoip.Library.ObjectGraph
import GroupVoip.Library.Planes
import GroupVoip.Library.ReferenceFrames
import GroupVoip.Library.Restarting
import GroupVoip.Library.Runs
import GroupVoip.Library.WireBytes
import GroupVoip.Mesh
import GroupVoip.MixCoder
import GroupVoip.MixEncoders
import GroupVoip.MixerMask
import GroupVoip.OutputDelivery
import GroupVoip.OutputLog
import GroupVoip.OutputRoundTrip
import GroupVoip.OutputWire
import GroupVoip.PipeDelivery
import GroupVoip.PipeProgress
import GroupVoip.PlayEngine
import GroupVoip.PointerCounts
import GroupVoip.PointerSafety
import GroupVoip.ProcessPipe
import GroupVoip.PublishedNames
import GroupVoip.PublishedNamesRuns
import GroupVoip.QueueOrder
import GroupVoip.ReaderCalls
import GroupVoip.ResamplerBounds
import GroupVoip.SampleStream
import GroupVoip.SaturatedMixing
import GroupVoip.SaveBuffer
import GroupVoip.ScalerContexts
import GroupVoip.SegOutputParser
import GroupVoip.SegmentFormat
import GroupVoip.SegmentGrammar
import GroupVoip.SegmentParser
import GroupVoip.SegmentParserSteps
import GroupVoip.SegmentParserTermination
import GroupVoip.SegmentReader
import GroupVoip.SlotReuse
import GroupVoip.SmartPtr
import GroupVoip.SongSelection
import GroupVoip.StreamService
import GroupVoip.SubscriberTimeline
import GroupVoip.TagAudit
import GroupVoip.TagEffects
import GroupVoip.TagSafety
import GroupVoip.VideoEncoder
import GroupVoip.VideoLayout
import GroupVoip.VideoMixer
import GroupVoip.VideoReadiness
import GroupVoip.VideoScaling
import GroupVoip.VideoScheduler
import GroupVoip.VideoValidity
import GroupVoip.WhiteNoise
