import ByteMachine.Inspect
import ByteMachine.Main
import ByteMachine.Proofs.Text.Numbers
import ByteMachine.Proofs.Text.Quoted
import ByteMachine.Proofs.Machine.Course
import ByteMachine.Proofs.Machine.Effect
import ByteMachine.Proofs.Machine.Footprint
import ByteMachine.Proofs.Machine.Glossary
import ByteMachine.Proofs.Machine.Stack
import ByteMachine.Proofs.Machine.Comparisons
import ByteMachine.Proofs.Machine.Depth
import ByteMachine.Proofs.Machine.Code
import ByteMachine.Proofs.Machine.BoundedStore
import ByteMachine.Proofs.Source.Grammar
import ByteMachine.Proofs.Source.Content
import ByteMachine.Proofs.Source.Pieces
import ByteMachine.Proofs.Source.Joining
import ByteMachine.Proofs.Source.Layout
import ByteMachine.Proofs.Source.NormalForm
import ByteMachine.Proofs.Source.Message
import ByteMachine.Proofs.Computer.Bytewise
import ByteMachine.Proofs.Computer.Course
import ByteMachine.Proofs.Computer.Polls
import ByteMachine.Proofs.Computer.Outcome
import ByteMachine.Proofs.Computer.Guarded
import ByteMachine.Proofs.Computer.Slices
import ByteMachine.Proofs.Computer.Devices
import ByteMachine.Proofs.Computer.History
import ByteMachine.Proofs.Computer.Influence
import ByteMachine.Proofs.Computer.Rotation
import ByteMachine.Proofs.Computer.Limits
import ByteMachine.Proofs.Computer.ReadOnlyCode
import ByteMachine.Proofs.Computer.SaveRestore
import ByteMachine.Proofs.Computer.Calculation
import ByteMachine.Proofs.Computer.Beginnings
import ByteMachine.Proofs.Computer.Absences
import ByteMachine.Proofs.CommandLine.Settings
import ByteMachine.Proofs.CommandLine.Requests
import ByteMachine.Proofs.CommandLine.Composition
import ByteMachine.Proofs.CommandLine.Tracing
import ByteMachine.Proofs.CommandLine.CutShort
import ByteMachine.Proofs.CommandLine.Output
