import QfwSlurm.Interaction.Program
import QfwSlurm.Interaction.Machine
import QfwSlurm.Interaction.Holdings
import QfwSlurm.Interaction.Interleaving
import QfwSlurm.Interaction.Along
import QfwSlurm.Protocol.Messages
import QfwSlurm.Protocol.StoredResponse
import QfwSlurm.Gateway.Journal
import QfwSlurm.Gateway.Effects
import QfwSlurm.Gateway.Service
import QfwSlurm.Gateway.Footprint
import QfwSlurm.Gateway.Trace
import QfwSlurm.Gateway.Attempt
import QfwSlurm.Gateway.AllOrNothing
import QfwSlurm.Gateway.Reserve
import QfwSlurm.Gateway.Evaluate
import QfwSlurm.Gateway.Release
import QfwSlurm.Gateway.Run
import QfwSlurm.Gateway.Rows
import QfwSlurm.Gateway.AcceptedSet
import QfwSlurm.Gateway.Outcomes
import QfwSlurm.Gateway.Operations
import QfwSlurm.Gateway.Verification
import QfwSlurm.Gateway.Blocked
import QfwSlurm.Gateway.Released
import QfwSlurm.Gateway.Extension
import QfwSlurm.Gateway.Stuck
import QfwSlurm.Gateway.Repeats
import QfwSlurm.Gateway.Polls
import QfwSlurm.Gateway.Tasks
import QfwSlurm.Gateway.Isolation
import QfwSlurm.Gateway.Immutable
import QfwSlurm.Gateway.Lookups
import QfwSlurm.Gateway.Vouched
import QfwSlurm.Gateway.Cancelled
import QfwSlurm.Gateway.Provenance
import QfwSlurm.Gateway.SlurmVerifier
import QfwSlurm.Gateway.Authorization
import QfwSlurm.Wire.Bytes
import QfwSlurm.Wire.Tlv
import QfwSlurm.Protocol.Encode
import QfwSlurm.Native.Decode
import QfwSlurm.Native.Operations
import QfwSlurm.Native.Classification
import QfwSlurm.Protocol.Decode
import QfwSlurm.Protocol.Contents
import QfwSlurm.Protocol.Requests
import QfwSlurm.Protocol.Responses
import QfwSlurm.Protocol.RoundTrip
import QfwSlurm.Protocol.Rewriting
import QfwSlurm.Native.Loops
import QfwSlurm.Native.Requests
import QfwSlurm.Native.Responses
import QfwSlurm.Native.Encode
import QfwSlurm.Native.Frames
import QfwSlurm.Native.RoundTrip
import QfwSlurm.Native.Values
import QfwSlurm.Native.Answers
import QfwSlurm.Native.Counterparts
import QfwSlurm.Native.Languages
import QfwSlurm.Native.Compatibility
import QfwSlurm.Protocol.Texts
import QfwSlurm.Gateway.WellFormed
import QfwSlurm.Gateway.Answerable
import QfwSlurm.Gateway.VerifiedRelease
import QfwSlurm.Gateway.ReleasePasses
import QfwSlurm.Python.Text
import QfwSlurm.Gateway.Adapter
import QfwSlurm.Slurm.Identity
import QfwSlurm.Slurm.PreRun
import QfwSlurm.Python.Json
import QfwSlurm.Python.JsonStrings
import QfwSlurm.C.Strings
import QfwSlurm.Sorting.InPlace
import QfwSlurm.Native.Environment
import QfwSlurm.Python.Lines
import QfwSlurm.Slurm.DriverOutput
import QfwSlurm.Slurm.Helper
import QfwSlurm.Slurm.AttemptLimit
import QfwSlurm.Slurm.Teardown
import QfwSlurm.Sequence.Lines
import QfwSlurm.Lua.Strings
import QfwSlurm.Slurm.Script
import QfwSlurm.Native.Options
import QfwSlurm.Slurm.Directive
import QfwSlurm.Slurm.SubmissionChecks
import QfwSlurm.Native.OptionSequences
import QfwSlurm.Native.PluginConfig
import QfwSlurm.Native.BuiltRequest
import QfwSlurm.C.Getopt
import QfwSlurm.Slurm.DriverOptions
import QfwSlurm.Shell.Words
import QfwSlurm.Lua.Values
import QfwSlurm.Slurm.HelperCommand
import QfwSlurm.Slurm.DriverCommand
import QfwSlurm.Slurm.Walltime
import QfwSlurm.Slurm.ParsedDirective
import QfwSlurm.Sequence.Groups
import QfwSlurm.Slurm.Pipeline
import QfwSlurm.Inspect.Squeue
import QfwSlurm.Wire.Cursor
import QfwSlurm.Native.TlvLayers
import QfwSlurm.Native.FrameBuilder
import QfwSlurm.Python.CodePoints
import QfwSlurm.Python.Dumps
import QfwSlurm.Protocol.StoredTexts
import QfwSlurm.Interaction.WeakLocks
import QfwSlurm.Gateway.AllocationLocks
import QfwSlurm.Sequence.Prefixes
import QfwSlurm.Python.Utf8
import QfwSlurm.Protocol.Diagnostics
import QfwSlurm.Native.QpuNames
import QfwSlurm.Gateway.Answered
import QfwSlurm.Native.Admission
import QfwSlurm.Native.Acceptance
import QfwSlurm.Native.Exchange
import QfwSlurm.Gateway.StoredAnswers
import QfwSlurm.Gateway.Decided
import QfwSlurm.Native.Agreement
import QfwSlurm.Gateway.Retained
import QfwSlurm.Gateway.Serializable
import QfwSlurm.Interaction.Transfer
import QfwSlurm.Wire.Delimited
import QfwSlurm.Native.Transport
import QfwSlurm.Interaction.Credentials
import QfwSlurm.Native.Call
import QfwSlurm.Native.Network
import QfwSlurm.Native.Undisturbed
import QfwSlurm.Gateway.Connections
import QfwSlurm.Native.Client
import QfwSlurm.Native.Truthful
import QfwSlurm.Native.Admitted
import QfwSlurm.Native.Spank
import QfwSlurm.Gateway.Cleared
import QfwSlurm.Native.ReleaseOperation
