import Virtio9p.Foundation.Machine
import Virtio9p.Foundation.Loop
import Virtio9p.Foundation.Ring
import Virtio9p.Foundation.Linked
import Virtio9p.Foundation.Fifo
import Virtio9p.Foundation.Paging
import Virtio9p.Protocol.Transact
import Virtio9p.Protocol.Wire
import Virtio9p.Protocol.Response
import Virtio9p.Protocol.Bounds
import Virtio9p.Protocol.Steps
import Virtio9p.Protocol.Paths
import Virtio9p.Protocol.Calls
import Virtio9p.Protocol.Sent
import Virtio9p.Protocol.ReturnCodes
import Virtio9p.Resmgr.Handlers
import Virtio9p.Resmgr.WriteChunks
import Virtio9p.Resmgr.ChunkRounds
import Virtio9p.Resmgr.HandlerSteps
import Virtio9p.Resmgr.Dirents
import Virtio9p.Server.FidTable
import Virtio9p.Server.Balance
import Virtio9p.Server.FidServer
import Virtio9p.Server.Lossy
import Virtio9p.Server.Failures
import Virtio9p.Server.DirectoryServer
import Virtio9p.Server.EntryServer
import Virtio9p.Server.TreeServer
import Virtio9p.Server.ListedServer
import Virtio9p.Server.TreeCalls
import Virtio9p.Server.TreeOpen
import Virtio9p.Transport.Virtqueue
import Virtio9p.Transport.Chains
import Virtio9p.Transport.Partition
import Virtio9p.Transport.RingDevice
import Virtio9p.Transport.Wait
import Virtio9p.Transport.Awaits
import Virtio9p.Transport.Setup
import Virtio9p.Transport.MmioTransport
import Virtio9p.Transport.PciTransport
import Virtio9p.Transport.SetupLaws
import Virtio9p.Transport.WaitFrame
import Virtio9p.Transport.Layout
import Virtio9p.Transport.Exchanges
import Virtio9p.Transport.Lifecycle
import Virtio9p.Properties.ResponseRoundTrip
import Virtio9p.Properties.RequestRoundTrip
import Virtio9p.Properties.Truncation
import Virtio9p.Properties.WritePayload
import Virtio9p.Properties.FileCursor
import Virtio9p.Properties.MessageSize
import Virtio9p.Properties.FidLifetime
import Virtio9p.Properties.Retry
import Virtio9p.Properties.AtMostOnce
import Virtio9p.Properties.FidBalance
import Virtio9p.Properties.Tags
import Virtio9p.Properties.Descriptors
import Virtio9p.Properties.RingOrder
import Virtio9p.Properties.ErrorSign
import Virtio9p.Properties.CompletionWait
import Virtio9p.Properties.ExchangeRuns
import Virtio9p.Properties.ResetState
import Virtio9p.Properties.DirectoryListing
import Virtio9p.Properties.OpenEffects
import Virtio9p.Properties.ExclusiveCreate
import Virtio9p.Properties.FirstInitialize
import Virtio9p.Properties.ChunkEnd
import Virtio9p.Properties.PartialWrite
import Virtio9p.Properties.FileSize
import Virtio9p.Properties.ParentRoute
import Virtio9p.Properties.WalkLookup
import Virtio9p.Properties.EntryKind
import Virtio9p.Properties.DecoderBounds
import Virtio9p.Properties.ReaddirLoop
import Virtio9p.Properties.DirectoryEnd
import Virtio9p.Properties.FidNumbers
import Virtio9p.Resmgr.ParseArgs
import Virtio9p.Properties.OptionOrder
import Virtio9p.Foundation.ShellWords
import Virtio9p.Scripts.QemuCommon
import Virtio9p.Scripts.RunUnderQnx
import Virtio9p.Properties.TestArguments
import Virtio9p.Properties.ForwardedEnv
import Virtio9p.Protocol.CallDepth
import Virtio9p.Properties.Recursion
import Virtio9p.Foundation.Extent
import Virtio9p.Transport.RingAccess
import Virtio9p.Properties.LegacyBlock
import Virtio9p.Transport.Refinement
import Virtio9p.Transport.MmioAccess
import Virtio9p.Properties.RegisterRegion
import Virtio9p.Foundation.Ledger
import Virtio9p.Transport.PciDiscovery
import Virtio9p.Transport.DiscoverySteps
import Virtio9p.Properties.BarBounds
import Virtio9p.Transport.PciTransportImpl
import Virtio9p.Properties.AttachedInterrupt
import Virtio9p.Transport.Accounts
import Virtio9p.Transport.AccountSteps
import Virtio9p.Transport.AccountedRuns
import Virtio9p.Transport.ShutdownSteps
import Virtio9p.Transport.DiscoveryLedger
import Virtio9p.Properties.ResourceBalance
import Virtio9p.Foundation.Attempt
import Virtio9p.Server.FileService
import Virtio9p.Resmgr.DirectFiles
import Virtio9p.Server.Tracks
import Virtio9p.Server.ServiceCalls
import Virtio9p.Resmgr.HandlerAttempts
import Virtio9p.Server.ConnectCalls
import Virtio9p.Server.FileCalls
import Virtio9p.Resmgr.IntendedCalls
import Virtio9p.Resmgr.ServedAsMeant
import Virtio9p.Properties.Transparency
import Virtio9p.Foundation.Memory
import Virtio9p.Transport.DmaDevice
import Virtio9p.Transport.WaitLaws
import Virtio9p.Transport.DmaExchange
import Virtio9p.Transport.DmaSteps
import Virtio9p.Properties.DmaDelivery
import Virtio9p.Server.DmaServer
import Virtio9p.Properties.RingTransparency
import Virtio9p.Foundation.Decimal
import Virtio9p.Foundation.Commands
import Virtio9p.Foundation.SortedDifference
import Virtio9p.Foundation.Lookup
import Virtio9p.Scripts.Share
import Virtio9p.Scripts.Runfiles
import Virtio9p.Scripts.RunTest
import Virtio9p.Scripts.GuestRuns
import Virtio9p.Scripts.Launch
import Virtio9p.Scripts.LaunchRuns
import Virtio9p.Scripts.ReturnStatus
import Virtio9p.Properties.TestVerdict
import Virtio9p.Properties.TestInputs
import Virtio9p.Properties.ShareCleanup
import Virtio9p.Properties.Runfiles
import Virtio9p.Foundation.Rounds
import Virtio9p.Foundation.Lifetime
import Virtio9p.Scripts.MountHelper
import Virtio9p.Resmgr.FsMain
import Virtio9p.Resmgr.Readiness
import Virtio9p.Scripts.Startup
import Virtio9p.Scripts.StartupRuns
import Virtio9p.Scripts.StartupProgress
import Virtio9p.Properties.MountLoop
import Virtio9p.Properties.MountedDriver
import Virtio9p.Server.RingService
