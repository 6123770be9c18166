import Dmw.GuardedRuns
import Dmw.KeyedTable
import Dmw.KeyedHistory
import Dmw.Identity
import Dmw.ServerPending
import Dmw.ServerCalls
import Dmw.ClaimProtocol
import Dmw.ResponseClaim
import Dmw.ServerBackpressure
import Dmw.GoalRegistry
import Dmw.GoalLife
import Dmw.GoalAccept
import Dmw.ResultRequests
import Dmw.ResultCoordination
import Dmw.TriggerHandoff
import Dmw.WaitSets
import Dmw.GuardTrigger
import Dmw.EndpointEvents
import Dmw.EventReadiness
import Dmw.LockScopes
import Dmw.WaitSetAdd
import Dmw.AddAtomicity
import Dmw.RecordVector
import Dmw.QosPolicies
import Dmw.GraphNames
import Dmw.DiscoveryGraph
import Dmw.Grouping
import Dmw.GraphCandidates
import Dmw.GraphSnapshot
import Dmw.GraphRevision
import Dmw.ViewReadings
import Dmw.GraphEvents
import Dmw.GraphRedundancy
import Dmw.GraphAnnouncements
import Dmw.GraphDepartures
import Dmw.GraphComposition
import Dmw.ActionAvailability
import Dmw.ServiceAvailability
import Dmw.Parameters
import Dmw.ParameterStore
import Dmw.ParameterCommit
import Dmw.ParameterConstraints
import Dmw.ParameterChanges
import Dmw.WakeHandoff
import Dmw.RequestCorrelation
import Dmw.CompositeDetach
import Dmw.ContextShutdown
import Dmw.Counting
import Dmw.GraphSubscriptions
import Dmw.AvailabilityWaits
import Dmw.TargetWait
import Dmw.WaitSetClose
import Dmw.RefCounting
import Dmw.TopicLifetimes
import Dmw.LinkedQueues
import Dmw.Rings
import Dmw.TicketLife
import Dmw.NativeIo
import Dmw.NativeTables
import Dmw.NativeTickets
import Dmw.NativeRuns
import Dmw.ReaderConditions
import Dmw.ReaderEffects
import Dmw.ReaderSteps
import Dmw.ReaderAnnouncements
import Dmw.ReaderMatching
import Dmw.Scripts
import Dmw.GeneratedMessages
import Dmw.ActionMessages
import Dmw.DeliveryJobs
import Dmw.EntityLeases
import Dmw.LeaseFrames
import Dmw.ContextChildren
import Dmw.ContextDrains
import Dmw.ActionProtocol
import Dmw.RequestWorks
import Dmw.NameResolution
import Dmw.ActionCreation
import Dmw.RequestDelivery
import Dmw.LaneOwnership
import Dmw.ResultDelivery
import Dmw.TaskCapacity
import Dmw.OwnerPrograms
import Dmw.StopAdmission
import Dmw.CloseRaces
import Dmw.CompletionDrain
import Dmw.TicketBackpressure
import Dmw.CancelSelection
import Dmw.QosRequestOffer
import Dmw.QosMapping
import Dmw.ArgumentVectors
import Dmw.ParameterPrecedence
import Dmw.ActionNaming
import Dmw.LocalNodeReferences
import Dmw.SnapshotAggregates
import Dmw.EventDeltas
import Dmw.SaturatingTime
import Dmw.TimerSchedule
import Dmw.ReplyStaging
import Dmw.OutboundRequests
import Dmw.OutboundProgress
import Dmw.ServiceClient
import Dmw.ResponseTables
import Dmw.ResponseCorrelation
import Dmw.EarlyResponses
import Dmw.ParameterNames
import Dmw.CheckedArithmetic
import Dmw.ParameterLiterals
import Dmw.SortedSets
import Dmw.Separators
import Dmw.ParameterListing
import Dmw.GridSaturation
import Dmw.ExpiryDeadlines
import Dmw.DeadlineWaits
import Dmw.Utf8
import Dmw.Diagnostics
import Dmw.StatusPublication
import Dmw.CancelTransactions
import Dmw.WireBuffers
import Dmw.GraphMetadata
import Dmw.CandidateSnapshots
import Dmw.InterfacePackages
import Dmw.FutureNotifications
