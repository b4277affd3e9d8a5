import GraphicSurface.Types
import GraphicSurface.BufferCache
import GraphicSurface.BufferQueue
import GraphicSurface.Request
import GraphicSurface.Flush
import GraphicSurface.Consume
import GraphicSurface.Attach
import GraphicSurface.Runs
import GraphicSurface.Operations
import GraphicSurface.SlotPool
import GraphicSurface.Refinement
import GraphicSurface.RequestMoves
import GraphicSurface.ConsumeMoves
import GraphicSurface.AttachMoves
import GraphicSurface.Agreement
import GraphicSurface.Frames
import GraphicSurface.Tickets
import GraphicSurface.FrameOrder
import GraphicSurface.Room
import GraphicSurface.ReservedSlots
import GraphicSurface.Replies
import GraphicSurface.DeletionNotices
import GraphicSurface.Interleaving
import GraphicSurface.Concurrency
import GraphicSurface.ConcurrencyMoves
import GraphicSurface.Lending
import GraphicSurface.Circulation
import GraphicSurface.FlushRace
import GraphicSurface.Capacity
import GraphicSurface.Drops
import GraphicSurface.Passages
import GraphicSurface.Shrinking
import GraphicSurface.TimedAcquire
import GraphicSurface.LppSlots
import GraphicSurface.LppHolding
import GraphicSurface.DelegatedFlush
import GraphicSurface.Burials
import GraphicSurface.Settling
import GraphicSurface.LiveNotices
import GraphicSurface.HandOuts
import GraphicSurface.Condemned
import GraphicSurface.LastFlushed
import GraphicSurface.Parcel
import GraphicSurface.ConfigCodec
import GraphicSurface.ExtraDataCodec
import GraphicSurface.HandleCodec
import GraphicSurface.Producer
import GraphicSurface.ClientDeaths
import GraphicSurface.Takeover
import GraphicSurface.RequestOutcome
import GraphicSurface.RemoteRequest
import GraphicSurface.FusedCalls
import GraphicSurface.QueueLimits
import GraphicSurface.Registry
import GraphicSurface.SurfaceUtils
import GraphicSurface.NativeWindows
import GraphicSurface.SurfaceRegistry
import GraphicSurface.TransformCache
import GraphicSurface.TransformHints
import GraphicSurface.CyclicSearch
import GraphicSurface.SequenceNumbers
import GraphicSurface.BatchMode
import GraphicSurface.Edits
import GraphicSurface.Attributes
import GraphicSurface.DeletionReports
import GraphicSurface.RequestEffects
import GraphicSurface.BlockedRequests
import GraphicSurface.ListenerRequests
import GraphicSurface.TimelyFrames
import GraphicSurface.AllocationFlag
import GraphicSurface.ListenerHandOuts
import GraphicSurface.HeldBuffers
import GraphicSurface.MakingRoom
import GraphicSurface.Availability
import GraphicSurface.CleanUpReports
import GraphicSurface.PreAllocRoom
import GraphicSurface.SquareSymmetries
import GraphicSurface.TextureMatrix
import GraphicSurface.LastFlushedQuery
import GraphicSurface.FailedFlush
import GraphicSurface.CacheWrites
import GraphicSurface.ConsumeTimes
import GraphicSurface.ReleaseFences
import GraphicSurface.EntryErasures
import GraphicSurface.AttachWaits
import GraphicSurface.SourceTypes
import GraphicSurface.BatchCodec
import GraphicSurface.TunnelLayers
import GraphicSurface.TunnelHandles
import GraphicSurface.ConsumerSurface
import GraphicSurface.ProducerCacheClean
import GraphicSurface.MetadataCache
import GraphicSurface.AllProperties
import GraphicSurface.ProducerSurface
import GraphicSurface.ClientReports
import GraphicSurface.SurfaceRuns
import GraphicSurface.SurfaceCaches
import GraphicSurface.LockedBuffer
import GraphicSurface.WindowBuffers
import GraphicSurface.OmittedObjects
import GraphicSurface.SelectedBuffers
import GraphicSurface.RemoteBatch
import GraphicSurface.BatchAgreement
import GraphicSurface.GameScenes
import GraphicSurface.Histories
import GraphicSurface.SubhealthEvents
import GraphicSurface.CloneBuffer
import GraphicSurface.SequenceSearch
import GraphicSurface.BatchFlush
import GraphicSurface.FenceTracker
import GraphicSurface.RemoteFlush
import GraphicSurface.Recovery
import GraphicSurface.RemoteObjects
import GraphicSurface.RemoteAttributes
import GraphicSurface.AttributeSessions
import GraphicSurface.Custody
import GraphicSurface.SurfaceMemory
import GraphicSurface.ReclaimFlags
import GraphicSurface.UserData
import GraphicSurface.Layouts
import GraphicSurface.MetadataHelper
import GraphicSurface.TvMetadata
import GraphicSurface.WindowMetadata
import GraphicSurface.BufferMessages
import GraphicSurface.FrameContents
