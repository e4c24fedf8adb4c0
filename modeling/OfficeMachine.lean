import OfficeMachine.Text.Line
import OfficeMachine.Text.Encoding
import OfficeMachine.Numeral.Count
import OfficeMachine.Box
import OfficeMachine.Box.Arithmetic
import OfficeMachine.Box.Comparison
import OfficeMachine.Box.Token
import OfficeMachine.Proofs.Box.Offer
import OfficeMachine.Table
import OfficeMachine.Floor
import OfficeMachine.Program
import OfficeMachine.Program.Listing
import OfficeMachine.Script.Draft
import OfficeMachine.Script.Reader
import OfficeMachine.Machine
import OfficeMachine.Machine.Fault
import OfficeMachine.Machine.Run
import OfficeMachine.Preset
import OfficeMachine.Run
import OfficeMachine.Storage.Directory
import OfficeMachine.Journal
import OfficeMachine.Storage.Loading
import OfficeMachine.CommandLine.Settings
import OfficeMachine.CommandLine.Performance
import OfficeMachine.Main
import OfficeMachine.Proofs.Program.RoundTrip
import OfficeMachine.Proofs.Machine.Supply
import OfficeMachine.Proofs.Machine.SpareTiles
import OfficeMachine.Proofs.Machine.Bound
import OfficeMachine.Proofs.Script.Mistakes
import OfficeMachine.Proofs.Script.Rejection
import OfficeMachine.Proofs.Floor.Content
import OfficeMachine.Proofs.Machine.Rules
import OfficeMachine.Proofs.Machine.Diagnosis
import OfficeMachine.Proofs.Floor.Reference
import OfficeMachine.Proofs.Text.Rows
import OfficeMachine.Proofs.Script.Layout
import OfficeMachine.Proofs.Machine.Agreement
import OfficeMachine.Proofs.Machine.History
import OfficeMachine.Proofs.Script.Concatenation
import OfficeMachine.Proofs.Text.Encoding
import OfficeMachine.Proofs.Numeral
import OfficeMachine.Proofs.Preset
import OfficeMachine.Proofs.CommandLine.Settings
import OfficeMachine.Proofs.Storage
import OfficeMachine.Proofs.CommandLine.Performance
import OfficeMachine.Proofs.Machine.Budget
import OfficeMachine.Proofs.Script.Overlong
import OfficeMachine.Proofs.Text.Decoding
import OfficeMachine.Proofs.Storage.Loading
import OfficeMachine.Proofs.CommandLine.Loading
import OfficeMachine.Proofs.Journal.Loggers
import OfficeMachine.Proofs.Storage.Directory
import OfficeMachine.Proofs.Storage.Logbook
import OfficeMachine.Proofs.Storage.Setups
import OfficeMachine.Proofs.Machine.Termination
import OfficeMachine.Proofs.CommandLine.Listing
import OfficeMachine.Proofs.Machine.TileFrame
import OfficeMachine.Proofs.Machine.Repacking
import OfficeMachine.Proofs.Preset.Tokens
import OfficeMachine.Proofs.Storage.Floors
import OfficeMachine.Proofs.Script.Reuse
import OfficeMachine.Proofs.Box.Comparison
