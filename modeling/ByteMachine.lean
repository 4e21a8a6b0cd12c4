import ByteMachine.CommandLine.Dashes
import ByteMachine.CommandLine.LineEditor
import ByteMachine.CommandLine.Options
import ByteMachine.CommandLine.Run
import ByteMachine.CommandLine.Switch
import ByteMachine.Debugger.Arguments
import ByteMachine.Debugger.Command
import ByteMachine.Debugger.Execute
import ByteMachine.Debugger.Prompt
import ByteMachine.Debugger.Reply
import ByteMachine.Fault
import ByteMachine.FileAccess
import ByteMachine.Isa.Instruction
import ByteMachine.Isa.Opcode
import ByteMachine.Main
import ByteMachine.Numeral
import ByteMachine.Program
import ByteMachine.Semantics.Arithmetic
import ByteMachine.Semantics.Effect
import ByteMachine.Semantics.Execution
import ByteMachine.Semantics.Machine
import ByteMachine.Session
import ByteMachine.State.Console
import ByteMachine.State.Memory
import ByteMachine.State.Processor
import ByteMachine.Text.Blank
import ByteMachine.Text.Cluster
import ByteMachine.Text.ClusterRanges
import ByteMachine.Text.Digits
import ByteMachine.Text.GraphemeExtend
import ByteMachine.Text.Letters
import ByteMachine.Text.LineSource
import ByteMachine.Text.Lines
import ByteMachine.Text.Quoted
import ByteMachine.Text.Ranges
import ByteMachine.Text.Unprintable
import ByteMachine.Trace.Frame
import ByteMachine.Trace.Log
import ByteMachine.Proofs.CommandLine.Dashes
import ByteMachine.Proofs.CommandLine.ExitCode
import ByteMachine.Proofs.CommandLine.Start
import ByteMachine.Proofs.Debugger.Breakpoints
import ByteMachine.Proofs.Debugger.NumberForms
import ByteMachine.Proofs.Debugger.Reachability
import ByteMachine.Proofs.Debugger.Requests
import ByteMachine.Proofs.Debugger.Splitting
import ByteMachine.Proofs.Debugger.Transparency
import ByteMachine.Proofs.Program.Encoding
import ByteMachine.Proofs.Program.Listing
import ByteMachine.Proofs.Program.Loading
import ByteMachine.Proofs.Program.Rejection
import ByteMachine.Proofs.Semantics.Bounds
import ByteMachine.Proofs.Semantics.CommittedEffect
import ByteMachine.Proofs.Semantics.Disassembly
import ByteMachine.Proofs.Semantics.EffectCases
import ByteMachine.Proofs.Semantics.FaultAtomicity
import ByteMachine.Proofs.Semantics.Footprint
import ByteMachine.Proofs.Semantics.LastComparison
import ByteMachine.Proofs.Semantics.LimitedConsole
import ByteMachine.Proofs.Semantics.ModuloArithmetic
import ByteMachine.Proofs.Semantics.Runs
import ByteMachine.Proofs.Semantics.ShadowStack
import ByteMachine.Proofs.Semantics.StepCases
import ByteMachine.Proofs.Semantics.StepOutcome
import ByteMachine.Proofs.Semantics.StraightLine
import ByteMachine.Proofs.Semantics.UnreadCells
import ByteMachine.Proofs.State.Copying
import ByteMachine.Proofs.State.Description
import ByteMachine.Proofs.State.HexDump
import ByteMachine.Proofs.Text.FileLines
import ByteMachine.Proofs.Text.LineCut
import ByteMachine.Proofs.Text.LowerCase
import ByteMachine.Proofs.Text.NumeralProblems
import ByteMachine.Proofs.Text.Numerals
import ByteMachine.Proofs.Text.Words
import ByteMachine.Proofs.Trace.Capture
import ByteMachine.Proofs.Trace.Entries
import ByteMachine.Proofs.Trace.Interleaving
import ByteMachine.Proofs.Trace.Inverse
import ByteMachine.Proofs.Trace.LineRoundTrip
import ByteMachine.Proofs.Trace.Lockstep
import ByteMachine.Proofs.Trace.Readings
import ByteMachine.Proofs.Trace.Recording
import ByteMachine.Proofs.Trace.Replay
import ByteMachine.Proofs.Trace.Spacing
import ByteMachine.Proofs.Trace.Verdict
