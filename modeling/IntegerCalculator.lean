import IntegerCalculator.Main
import IntegerCalculator.Panel
import IntegerCalculator.Tree
import IntegerCalculator.Proofs.Calculation.Diagnosis
import IntegerCalculator.Proofs.Calculation.Substitution
import IntegerCalculator.Proofs.Calculation.Solution
import IntegerCalculator.Proofs.Calculation.Spacing
import IntegerCalculator.Proofs.Calculation.Replay
import IntegerCalculator.Proofs.Calculation.Guard
import IntegerCalculator.Proofs.Calculation.Infix
import IntegerCalculator.Proofs.Calculation.Stages
import IntegerCalculator.Proofs.Conversion.Fault
import IntegerCalculator.Proofs.Conversion.Pending
import IntegerCalculator.Proofs.Panel.Explanation
import IntegerCalculator.Proofs.Panel.Keypad
import IntegerCalculator.Proofs.Panel.Undo
import IntegerCalculator.Proofs.Panel.Focus
import IntegerCalculator.Proofs.Panel.Memory
import IntegerCalculator.Proofs.Terminal.Delivery
import IntegerCalculator.Proofs.Terminal.Transcript
import IntegerCalculator.Proofs.Submission
import IntegerCalculator.Proofs.Agreement
import IntegerCalculator.Proofs.Stack
import IntegerCalculator.Proofs.Power
import IntegerCalculator.Proofs.Calculation.Enclosure
import IntegerCalculator.Proofs.Token.Parts
import IntegerCalculator.Proofs.Calculation.Division
