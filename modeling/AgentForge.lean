import AgentForge.Lib.Except
import AgentForge.Lib.Json
import AgentForge.Lib.JsonText
import AgentForge.Lib.Machine
import AgentForge.Lib.Oracle
import AgentForge.Lib.Paths
import AgentForge.Lib.Program
import AgentForge.Lib.Struct
import AgentForge.Lib.Table
import AgentForge.Lib.Transaction
import AgentForge.Lib.Usage
import AgentForge.Lib.Word
import AgentForge.Operator.Backoff
import AgentForge.Operator.Outcome
import AgentForge.Operator.JobLaws
import AgentForge.Operator.SpecCodec
import AgentForge.Operator.Histories
import AgentForge.Operator.StatusLaws
import AgentForge.Operator.Retention
import AgentForge.Platform.Identity
import AgentForge.Platform.DesiredState
import AgentForge.Platform.StateMachine
import AgentForge.Platform.Transitions
import AgentForge.Platform.Eligibility
import AgentForge.Platform.Fairness
import AgentForge.Platform.Selection
import AgentForge.Platform.Assignments
import AgentForge.Platform.Admissions
import AgentForge.Platform.Releases
import AgentForge.Platform.Publications
import AgentForge.Platform.ExecutionIntent
import AgentForge.Events.Letters
import AgentForge.Events.Requested
import AgentForge.Relay.Ordering
import AgentForge.Consumer.Ladder
import AgentForge.Consumer.ProcessedEvents
import AgentForge.Handoff.Projection
import AgentForge.Handoff.Service
import AgentForge.Handoff.Redelivery
import AgentForge.Handoff.ChildNames
import AgentForge.Runner.Task
import AgentForge.Runner.Run
import AgentForge.Artifacts.Keys
import AgentForge.Lib.JsonLines
import AgentForge.Runner.Executor
import AgentForge.Runner.Trajectory
