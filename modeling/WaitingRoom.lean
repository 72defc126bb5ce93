import WaitingRoom.Cell
import WaitingRoom.Command.Arguments
import WaitingRoom.Command.Response
import WaitingRoom.Command.Usage
import WaitingRoom.Direction
import WaitingRoom.Layout.Adjacency
import WaitingRoom.Layout.Basic
import WaitingRoom.Layout.Builder
import WaitingRoom.Layout.Checked
import WaitingRoom.Layout.Load
import WaitingRoom.Layout.Sight
import WaitingRoom.Layout.Tally
import WaitingRoom.Log.Directive
import WaitingRoom.Log.Filter
import WaitingRoom.Log.Level
import WaitingRoom.Log.Line
import WaitingRoom.Main
import WaitingRoom.Mode
import WaitingRoom.Outcome
import WaitingRoom.Position
import WaitingRoom.Proofs.Alternation
import WaitingRoom.Proofs.Answers
import WaitingRoom.Proofs.Arithmetic
import WaitingRoom.Proofs.Brink
import WaitingRoom.Proofs.Buffers
import WaitingRoom.Proofs.Consistency
import WaitingRoom.Proofs.Crowd
import WaitingRoom.Proofs.Decoding
import WaitingRoom.Proofs.Files
import WaitingRoom.Proofs.Flips
import WaitingRoom.Proofs.Generations
import WaitingRoom.Proofs.Headcount
import WaitingRoom.Proofs.Histories
import WaitingRoom.Proofs.Likeness
import WaitingRoom.Proofs.LinesOfSight
import WaitingRoom.Proofs.Margins
import WaitingRoom.Proofs.Midway
import WaitingRoom.Proofs.Moments
import WaitingRoom.Proofs.Neighbors
import WaitingRoom.Proofs.Peeling
import WaitingRoom.Proofs.Plans
import WaitingRoom.Proofs.Reading
import WaitingRoom.Proofs.Reflections
import WaitingRoom.Proofs.Refusals
import WaitingRoom.Proofs.Relocation
import WaitingRoom.Proofs.Replay
import WaitingRoom.Proofs.Rest
import WaitingRoom.Proofs.RoundTrip
import WaitingRoom.Proofs.Runs
import WaitingRoom.Proofs.SameShown
import WaitingRoom.Proofs.Scripts
import WaitingRoom.Proofs.Seating
import WaitingRoom.Proofs.Surroundings
import WaitingRoom.Proofs.Sweep
import WaitingRoom.Proofs.Tallies
import WaitingRoom.Proofs.Ticks
import WaitingRoom.Proofs.Words
import WaitingRoom.Rule
import WaitingRoom.Simulation
import WaitingRoom.Text.Alphanumeric
import WaitingRoom.Text.Bytes
import WaitingRoom.Text.Lines
import WaitingRoom.Text.Pattern
import WaitingRoom.Text.Pattern.Atom
import WaitingRoom.Text.Pattern.CharSet
import WaitingRoom.Text.Pattern.Flags
import WaitingRoom.Text.Terminal
