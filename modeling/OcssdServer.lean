import OcssdServer.MachineRuns
import OcssdServer.FirstFit
import OcssdServer.SocketFill
import OcssdServer.VirtualSsdCodec
import OcssdServer.ExclusiveCapacity
import OcssdServer.PoolSeparation
import OcssdServer.SharedSupply
import OcssdServer.BlockDevice
import OcssdServer.StripeSweep
import OcssdServer.Connection
import OcssdServer.ReplyLength
import OcssdServer.StripeLanes
import OcssdServer.ServeLoop
import OcssdServer.WouldBlock
import OcssdServer.DeviceEffects
import OcssdServer.RequestFraming
import OcssdServer.TenantIsolation
import OcssdServer.RequestOutcomes
import OcssdServer.SharedLevels
import OcssdServer.FailedGrants
import OcssdServer.ChunkQueue
import OcssdServer.EventLoop
import OcssdServer.ReplyStream
import OcssdServer.ConnectionTurns
import OcssdServer.StreamSync
import OcssdServer.ReplyCount
import OcssdServer.DescriptorEvents
import OcssdServer.IndexChecks
import OcssdServer.RequestCodec
import OcssdServer.DecodingBounds
import OcssdServer.RangeStripes
import OcssdServer.StripePartition
import OcssdServer.RequestRemainders
import OcssdServer.ThreadPool
import OcssdServer.PoolCapacity
import OcssdServer.PoolHandOff
import OcssdServer.ReplyPadding
import OcssdServer.ReadReplies
import OcssdServer.BlockLedger
import OcssdServer.StripeFailures
import OcssdServer.RequestRows
import OcssdServer.BlockAudit
import OcssdServer.BlockNumbering
import OcssdServer.CheckedAllocation
import OcssdServer.VblkSweep
import OcssdServer.SweepCoverage
import OcssdServer.BlockClient
import OcssdServer.CallPipe
import OcssdServer.LoopTenants
import OcssdServer.BlockCalls
import OcssdServer.RemoteAccess
import OcssdServer.RemoteProgress
import OcssdServer.ManagerSerial
import OcssdServer.PoolProgress
import OcssdServer.CapacityLoss
import OcssdServer.DirectoryMirror
import OcssdServer.AllocClient
import OcssdServer.AllocHandshake
import OcssdServer.AllocProgress
import OcssdServer.AllocatorMarks
import OcssdServer.BenchTable
import OcssdServer.RemoteSession
