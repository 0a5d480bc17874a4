import DkPull.Reactive.Machine
import DkPull.Reactive.Calls
import DkPull.Reactive.Throwing
import DkPull.Reactive.Process
import DkPull.Types.EndOrError
import DkPull.Common.SplitString
import DkPull.Looper.Looper
import DkPull.Looper.LooperInvariants
import DkPull.Looper.LooperIterations
import DkPull.Looper.LooperExceptions
import DkPull.Looper.LooperCalls
import DkPull.Looper.LooperFunction
import DkPull.Looper.LooperTrampoline
import DkPull.PullStream.ProtocolChecker
import DkPull.PullStream.ProtocolCheckerSteps
import DkPull.PullStream.ProtocolMessages
import DkPull.PullStream.ProtocolSessions
import DkPull.PullStream.ProtocolViolations
import DkPull.PullStream.ProtocolConformance
import DkPull.PullStream.ProtocolTransparency
import DkPull.PullStream.ProtocolReferences
import DkPull.PullStream.ProtocolNullCallbacks
import DkPull.PullStream.ProtocolModes
import DkPull.PullStream.ProtocolTruth
import DkPull.Reactive.Ownership
import DkPull.PullStream.Sinks.Drain
import DkPull.PullStream.Sinks.DrainRuns
import DkPull.PullStream.Sinks.DrainExceptions
import DkPull.PullStream.Sinks.Reduce
import DkPull.PullStream.Sinks.ReduceOwnership
import DkPull.PullStream.Sinks.ReduceRuns
import DkPull.PullStream.Sinks.ReduceAnswers
import DkPull.Libuv.Timer
import DkPull.Libuv.Lifecycle
import DkPull.Structures.HeapOrder
import DkPull.Structures.Links
import DkPull.Libuv.Heap
import DkPull.Libuv.HeapLayout
import DkPull.Libuv.HeapPlaces
import DkPull.Libuv.HeapOperations
import DkPull.Libuv.TimerOrder
import DkPull.Libuv.PollTimeout
import DkPull.Libuv.LinkedLoop
import DkPull.Libuv.LinkedLoopRuns
import DkPull.Libuv.HandleLists
import DkPull.Event.UvTimer
import DkPull.Event.UvEventLoop
import DkPull.Event.TimerConsistency
import DkPull.Event.TimerLifecycle
import DkPull.Event.TimerFiring
import DkPull.Event.TimerPeriod
import DkPull.Event.TimerMoves
import DkPull.Event.TimerOrdering
import DkPull.Event.TimerPolling
import DkPull.Event.TimerPass
import DkPull.Event.LinkedEventLoop
import DkPull.Event.LoopLiveness
import DkPull.Event.HandleListRuns
import DkPull.Event.TimerTermination
import DkPull.Event.LinkedTimers
import DkPull.PullStream.Sources.Requests
import DkPull.PullStream.Sources.Answers
import DkPull.PullStream.Sources.Values
import DkPull.PullStream.Sources.Count
import DkPull.PullStream.Sources.Termination
import DkPull.PullStream.Sources.Empty
import DkPull.PullStream.Sources.Interchange
import DkPull.PullStream.Pipeline
import DkPull.PullStream.PipelineRuns
import DkPull.PullStream.CheckedDrain
import DkPull.PullStream.CheckedSource
import DkPull.PullStream.CheckerChain
import DkPull.PullStream.EagerChain
