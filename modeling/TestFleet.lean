import TestFleet.Sorting
import TestFleet.Directory
import TestFleet.Text.Quoted
import TestFleet.Text.Blank
import TestFleet.Text.Decimal
import TestFleet.Text.Hex
import TestFleet.Text.Utf8
import TestFleet.Text.Path
import TestFleet.Time.Backoff
import TestFleet.Time.Retry
import TestFleet.Json.Reader
import TestFleet.Report
import TestFleet.Queue.Strategy
import TestFleet.Queue.Split
import TestFleet.Wire.Test
import TestFleet.Wire.Strategy
import TestFleet.Wire.Message
import TestFleet.Wire.Frame
import TestFleet.Queue.Dispatcher
import TestFleet.Worker.TestRunner
import TestFleet.Worker.Revival
import TestFleet.Worker.Rehearsal
import TestFleet.Process.Call
import TestFleet.Worker.Command
import TestFleet.Shell.Machine
import TestFleet.Server.Handler
import TestFleet.Client.Client
import TestFleet.Worker.Shift
import TestFleet.Server.Stream
import TestFleet.Server.Direct
import TestFleet.Net.Address
import TestFleet.CommandLine.WorkerCount
import TestFleet.CommandLine.Usage
import TestFleet.CommandLine.Arguments
import TestFleet.Shorthand.Report
import TestFleet.Toml.Parser
import TestFleet.Time.Timer
import TestFleet.Concurrency.Shutdown
import TestFleet.Concurrency.Exclusive
import TestFleet.Server.Setup
import TestFleet.CommandLine.Settings
import TestFleet.Shorthand.Settings
import TestFleet.Log.Located
import TestFleet.CommandLine.Outcome
import TestFleet.CommandLine.Execution
import TestFleet.Shorthand.Reply
import TestFleet.Shorthand.Invocation
import TestFleet.Server.Running
import TestFleet.Main
import TestFleet.Proofs.Directory
import TestFleet.Proofs.Sorting
import TestFleet.Proofs.Queue.JobQueue
import TestFleet.Proofs.Queue.Places
import TestFleet.Proofs.Queue.Roster
import TestFleet.Proofs.Queue.Runs
import TestFleet.Proofs.Queue.Conservation
import TestFleet.Proofs.Queue.Indexes
import TestFleet.Proofs.Queue.Routing
import TestFleet.Proofs.Queue.Queues
import TestFleet.Proofs.Queue.BucketNames
import TestFleet.Proofs.Queue.Naming
import TestFleet.Proofs.Server.Runs
import TestFleet.Proofs.Server.Indexes
import TestFleet.Proofs.Queue.Precedence
import TestFleet.Proofs.Queue.Ages
import TestFleet.Proofs.Queue.Handouts
import TestFleet.Proofs.Queue.Fairness
import TestFleet.Proofs.Queue.Standing
import TestFleet.Proofs.Queue.Sweeps
import TestFleet.Proofs.Server.Sweeps
import TestFleet.Proofs.Queue.Courses
import TestFleet.Proofs.Queue.JobSteps
import TestFleet.Proofs.Queue.Chronicle
import TestFleet.Proofs.Queue.Clearance
import TestFleet.Proofs.Server.VersionGate
import TestFleet.Proofs.Queue.Activity
import TestFleet.Proofs.Queue.Verdicts
import TestFleet.Proofs.Queue.Notices
import TestFleet.Proofs.Queue.Silence
import TestFleet.Proofs.Queue.Registration
import TestFleet.Proofs.Queue.Finality
import TestFleet.Proofs.Server.Recovery
import TestFleet.Proofs.Server.Removal
import TestFleet.Proofs.Server.Scheduling
import TestFleet.Proofs.Queue.Attempts
import TestFleet.Proofs.Queue.Retries
import TestFleet.Proofs.Queue.Split
import TestFleet.Proofs.Queue.Strategy
import TestFleet.Proofs.Configuration
import TestFleet.Proofs.Queue.Grouping
import TestFleet.Proofs.Queue.Draining
import TestFleet.Proofs.Server.Conservation
import TestFleet.Proofs.Worker.Draining
import TestFleet.Proofs.Queue.Partition
import TestFleet.Proofs.Worker.Revival
import TestFleet.Proofs.Queue.Distinctness
import TestFleet.Proofs.Worker.Reports
import TestFleet.Proofs.Worker.Scripts
import TestFleet.Proofs.Text.Decimal
import TestFleet.Proofs.Json.Parser
import TestFleet.Proofs.Identity
import TestFleet.Proofs.Json.Reader
import TestFleet.Proofs.Wire.Parts
import TestFleet.Proofs.Wire.Message
import TestFleet.Proofs.Wire.Frame
import TestFleet.Proofs.Time.Backoff
import TestFleet.Proofs.Queue.Assignment
import TestFleet.Proofs.Queue.Reversal
import TestFleet.Proofs.Toml.Integers
import TestFleet.Proofs.Server.Timers
import TestFleet.Proofs.CommandLine.Intervals
