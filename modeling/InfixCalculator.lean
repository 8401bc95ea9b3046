import InfixCalculator.Keypad.Window
import InfixCalculator.Machine.Instruction
import InfixCalculator.Main
import InfixCalculator.Proofs.Continuation
import InfixCalculator.Proofs.Exactness
import InfixCalculator.Proofs.Keypad.Events
import InfixCalculator.Proofs.Keypad.Requests
import InfixCalculator.Proofs.Keypad.Busy
import InfixCalculator.Proofs.Keypad.Display
import InfixCalculator.Proofs.Expression.Chain
import InfixCalculator.Proofs.Expression.Enclosure
import InfixCalculator.Proofs.Expression.Evaluation
import InfixCalculator.Proofs.Expression.Joining
import InfixCalculator.Proofs.Expression.Layout
import InfixCalculator.Proofs.Expression.Phrase
import InfixCalculator.Proofs.Expression.Printing
import InfixCalculator.Proofs.Machine.Aftermath
import InfixCalculator.Proofs.Machine.Blame
import InfixCalculator.Proofs.Machine.Comparison
import InfixCalculator.Proofs.Machine.Consumption
import InfixCalculator.Proofs.Machine.Displacement
import InfixCalculator.Proofs.Machine.Exchange
import InfixCalculator.Proofs.Machine.Effect
import InfixCalculator.Proofs.Machine.Fluency
import InfixCalculator.Proofs.Machine.Frame
import InfixCalculator.Proofs.Machine.Isolation
import InfixCalculator.Proofs.Machine.Reduction
import InfixCalculator.Proofs.Machine.Soundness
import InfixCalculator.Proofs.Location
import InfixCalculator.Proofs.Magnitude
import InfixCalculator.Proofs.Numerals
import InfixCalculator.Proofs.Operators
import InfixCalculator.Proofs.Outline
import InfixCalculator.Proofs.Readback
import InfixCalculator.Proofs.Token.Scanning
import InfixCalculator.Proofs.Rendering
import InfixCalculator.Proofs.Sessions
import InfixCalculator.Proofs.Growth
import InfixCalculator.Proofs.Faults
import InfixCalculator.Proofs.Glyphs
import InfixCalculator.Proofs.Conversion
import InfixCalculator.Proofs.Truncation
import InfixCalculator.Proofs.Token.Cutting
import InfixCalculator.Proofs.Phases
import InfixCalculator.Proofs.CommandLine.Reports
import InfixCalculator.Proofs.Queries
import InfixCalculator.Proofs.Tables
import InfixCalculator.Proofs.Descent
import InfixCalculator.Proofs.Verdicts
