import MemoryReclaim.Host.Scripted
import MemoryReclaim.Service.Monitor
import MemoryReclaim.Wire
import MemoryReclaim.Proofs.Bundle
import MemoryReclaim.Proofs.KillLevels
import MemoryReclaim.Proofs.Host
import MemoryReclaim.Proofs.Table.Lookup
import MemoryReclaim.Proofs.Table.History
import MemoryReclaim.Proofs.Table.Bindings
import MemoryReclaim.Proofs.Table.Representation
import MemoryReclaim.Proofs.Table.Freshness
import MemoryReclaim.Proofs.Table.Arrivals
import MemoryReclaim.Proofs.Table.Marking
import MemoryReclaim.Proofs.Service.Action
import MemoryReclaim.Proofs.Service.KillSafety
import MemoryReclaim.Proofs.Service.Faults
import MemoryReclaim.Proofs.Service.Choices
import MemoryReclaim.Proofs.Service.KillBounds
import MemoryReclaim.Proofs.Service.RankingWalk
import MemoryReclaim.Proofs.Service.Selection
import MemoryReclaim.Proofs.Service.Termination
import MemoryReclaim.Proofs.Service.Visibility
import MemoryReclaim.Proofs.Service.WindowReports
import MemoryReclaim.Proofs.Service.WindowTrace
import MemoryReclaim.Proofs.Table.Facts
import MemoryReclaim.Proofs.Service.Twins
import MemoryReclaim.Proofs.Service.LazyExpiry
import MemoryReclaim.Proofs.Table.Floors
import MemoryReclaim.Proofs.Table.Admissions
import MemoryReclaim.Proofs.Service.Floors
import MemoryReclaim.Proofs.Table.Standing
import MemoryReclaim.Proofs.Service.Grace
import MemoryReclaim.Proofs.Service.Requeued
import MemoryReclaim.Proofs.Service.Told
import MemoryReclaim.Proofs.Session.Deliveries
import MemoryReclaim.Proofs.Table.Locality
import MemoryReclaim.Proofs.Service.BestChoice
import MemoryReclaim.Proofs.Service.CycleReport
import MemoryReclaim.Proofs.Table.Independence
import MemoryReclaim.Proofs.Table.Undoing
import MemoryReclaim.Proofs.Service.UpdatePaths
import MemoryReclaim.Proofs.Service.Listings
import MemoryReclaim.Proofs.KillLevels.Lookup
import MemoryReclaim.Proofs.Service.AnyConfiguration
import MemoryReclaim.Proofs.Tier.Minimum
import MemoryReclaim.Proofs.Service.Refusals
import MemoryReclaim.Proofs.Subscriber.Stays
import MemoryReclaim.Proofs.ProcFile
import MemoryReclaim.Proofs.Service.PriorityFiles
import MemoryReclaim.Proofs.Service.DumpOptions
import MemoryReclaim.Proofs.Config.Document
