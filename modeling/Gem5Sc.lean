import Gem5Sc.Library.Runs
import Gem5Sc.Library.Fallible
import Gem5Sc.Library.KeyedList
import Gem5Sc.Library.Tally
import Gem5Sc.Library.Row
import Gem5Sc.Library.Shortest
import Gem5Sc.Library.Woven
import Gem5Sc.Library.Fuel
import Gem5Sc.Library.PriorityQueue
import Gem5Sc.Library.BinaryHeap
import Gem5Sc.Library.Requeue
import Gem5Sc.Library.Index
import Gem5Sc.EventQueue
import Gem5Sc.EventQueue.Law
import Gem5Sc.EventQueue.Ticks
import Gem5Sc.EventQueue.Rounds
import Gem5Sc.EventQueue.Session
import Gem5Sc.EventQueue.Ties
import Gem5Sc.EventQueue.Clock
import Gem5Sc.Packet
import Gem5Sc.PortStats
import Gem5Sc.PortStats.Delays
import Gem5Sc.PortStats.Average
import Gem5Sc.VirtualChannel
import Gem5Sc.Port
import Gem5Sc.Port.Offers
import Gem5Sc.Port.Counters
import Gem5Sc.Port.Handshake
import Gem5Sc.Port.Priority
import Gem5Sc.Link
import Gem5Sc.Link.Order
import Gem5Sc.Link.Backpressure
import Gem5Sc.Link.Ownership
import Gem5Sc.Link.Latency
import Gem5Sc.Link.Books
import Gem5Sc.Modules
import Gem5Sc.Modules.Issued
import Gem5Sc.Modules.ReturnPath
import Gem5Sc.Modules.Lifetime
import Gem5Sc.Modules.Misses
import Gem5Sc.Modules.Inflight
import Gem5Sc.Modules.Custody
import Gem5Sc.Modules.Regions
import Gem5Sc.Modules.Flows
import Gem5Sc.Modules.Generator
import Gem5Sc.Simulation
import Gem5Sc.Simulation.Frame
import Gem5Sc.Simulation.Service
import Gem5Sc.Simulation.Returns
import Gem5Sc.Simulation.Delays
import Gem5Sc.Simulation.Writes
import Gem5Sc.Network
import Gem5Sc.Network.SmallSteps
import Gem5Sc.Network.Events
import Gem5Sc.Network.Traffic
import Gem5Sc.Network.Custody
import Gem5Sc.Network.Storage
import Gem5Sc.Network.Refinement
import Gem5Sc.Network.Standstill
import Gem5Sc.Network.Stranded
import Gem5Sc.Network.Served
import Gem5Sc.Network.InOrder
import Gem5Sc.Network.Delivered
import Gem5Sc.Network.Bare
import Gem5Sc.Network.Unread
import Gem5Sc.Json
import Gem5Sc.JsonIncluder
import Gem5Sc.JsonIncluder.Reference
import Gem5Sc.JsonIncluder.Resolution
import Gem5Sc.JsonIncluder.Endless
import Gem5Sc.JsonIncluder.Locality
import Gem5Sc.Selection
import Gem5Sc.Selection.Trees
import Gem5Sc.Selection.Globs
import Gem5Sc.PortManager
import Gem5Sc.PortManager.Statistics
import Gem5Sc.PortManager.Sound
import Gem5Sc.ModuleFactory
import Gem5Sc.ModuleFactory.Stable
import Gem5Sc.ModuleFactory.Instances
import Gem5Sc.ModuleFactory.Resolved
import Gem5Sc.Modules.Dispatch
import Gem5Sc.Modules.Around
import Gem5Sc.Modules.Calls
import Gem5Sc.Modules.Refusal
import Gem5Sc.Modules.Retry
import Gem5Sc.ModuleFactory.Objects
import Gem5Sc.ModuleFactory.Shape
import Gem5Sc.ModuleFactory.Connect
import Gem5Sc.ModuleFactory.PortPairs
import Gem5Sc.ModuleFactory.Exposed
import Gem5Sc.ModuleFactory.Patterns
import Gem5Sc.ModuleFactory.PortCreation
import Gem5Sc.ModuleFactory.Groups
import Gem5Sc.ModuleFactory.GroupReferences
import Gem5Sc.ModuleFactory.Pointers
import Gem5Sc.ModuleFactory.NullCalls
import Gem5Sc.ModuleFactory.Labels
import Gem5Sc.ModuleFactory.Changes
import Gem5Sc.ModuleFactory.Registered
import Gem5Sc.Network.Configured
import Gem5Sc.Streams.Buffer
import Gem5Sc.Streams.Credits
import Gem5Sc.Streams.Sequence
import Gem5Sc.Layout.Repulsion
import Gem5Sc.Layout.Placed
import Gem5Sc.Topology.Coordinates
import Gem5Sc.Topology.Edges
import Gem5Sc.Topology.Completion
import Gem5Sc.Program
