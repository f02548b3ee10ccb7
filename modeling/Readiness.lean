import Readiness.Scenario.FacilitySteps
import Readiness.Scenario.Handles
import Readiness.Scenario.LockSteps
import Readiness.Scenario.RosterSteps
import Readiness.Scenario.SetSteps
import Readiness.Proofs.RingLists
import Readiness.Proofs.RosterLists
import Readiness.Proofs.RosterRuns
import Readiness.Proofs.WordCounters
import Readiness.Proofs.Additions
import Readiness.Proofs.Moments
import Readiness.Proofs.CallParts
import Readiness.Proofs.MomentLists
import Readiness.Proofs.PollWindow
import Readiness.Proofs.Registry
import Readiness.Proofs.DescriptorRegistries
import Readiness.Proofs.FilterRegistry
import Readiness.Proofs.Registrations
import Readiness.Proofs.ScenarioRuns
import Readiness.Proofs.Levels
import Readiness.Proofs.PollArrays
import Readiness.Proofs.PollRounds
import Readiness.Proofs.TableRace
import Readiness.Proofs.HostInvariants
import Readiness.Proofs.RecordsInUse
import Readiness.Proofs.Room
import Readiness.Proofs.LonePolls
import Readiness.Proofs.EpollEvents
import Readiness.Proofs.RosterTwins
import Readiness.Proofs.TagPeriods
import Readiness.Proofs.TagHolders
import Readiness.Proofs.FilteredBuffers
import Readiness.Proofs.LevelFacilities
import Readiness.Proofs.Settled
import Readiness.Proofs.FilterLoops
import Readiness.Proofs.Strands
import Readiness.Proofs.FacilityTurns
import Readiness.Proofs.Scenes
import Readiness.Proofs.Served
import Readiness.Proofs.TwinSets
import Readiness.Proofs.Interchange
import Readiness.Proofs.Leftovers
import Readiness.Proofs.TracedFacilities
import Readiness.Proofs.KqueueEvents
import Readiness.Proofs.Reported
import Readiness.Proofs.ArenaGrowth
import Readiness.Proofs.GivenUp
import Readiness.Proofs.MemberMap
import Readiness.Proofs.Rollbacks
import Readiness.Proofs.WholeWatches
import Readiness.Proofs.FailedAdditions
import Readiness.Proofs.HandleLifetimes
import Readiness.Proofs.ClosedFacilities
import Readiness.Proofs.ClosedTurns
import Readiness.Proofs.ClosedForGood
import Readiness.Proofs.DestroyedSets
import Readiness.Proofs.LogBlind
import Readiness.Proofs.AlikeSets
import Readiness.Proofs.InnerCalls
import Readiness.Proofs.PoisonedLocks
import Readiness.Proofs.BrokenPromises
import Readiness.Proofs.ReclaimMarkers
import Readiness.Proofs.FreshBuffers
import Readiness.Proofs.TableMap
import Readiness.Proofs.UnwatchAgreement
import Readiness.Proofs.RoundBounds
import Readiness.Proofs.Timeouts
import Readiness.Proofs.TagPayloads
