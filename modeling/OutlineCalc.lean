import OutlineCalc.Main
import OutlineCalc.Shortest
import OutlineCalc.Proofs.Grammar
import OutlineCalc.Proofs.Longest
import OutlineCalc.Shares
import OutlineCalc.Proofs.Depth
import OutlineCalc.Proofs.Trailing
import OutlineCalc.Proofs.Insertion
import OutlineCalc.Proofs.Rows
import OutlineCalc.Proofs.Indentation
import OutlineCalc.Proofs.RollUp
import OutlineCalc.Proofs.Preorder
import OutlineCalc.Proofs.MaximalMunch
import OutlineCalc.Proofs.Postorder
import OutlineCalc.Proofs.DoubleBits
import OutlineCalc.Proofs.Nearest
import OutlineCalc.Proofs.WrittenNumber
import OutlineCalc.Proofs.ReadBack
import OutlineCalc.Proofs.Growth
import OutlineCalc.Proofs.Tree
import OutlineCalc.Proofs.Continuation
import OutlineCalc.Proofs.Execution
import OutlineCalc.Proofs.RowReferences
import OutlineCalc.Proofs.Containment
import OutlineCalc.Proofs.Printing
import OutlineCalc.Proofs.Dependence
import OutlineCalc.Proofs.Independence
import OutlineCalc.Proofs.ExactValue
import OutlineCalc.Proofs.SeparatedValues
import OutlineCalc.Proofs.Texts
import OutlineCalc.Proofs.Digits
import OutlineCalc.Proofs.Display
import OutlineCalc.Proofs.TypedAmount
import OutlineCalc.Proofs.Label
import OutlineCalc.Proofs.OnePass
import OutlineCalc.Proofs.Calls
import OutlineCalc.Proofs.Shape
import OutlineCalc.Proofs.CurrencyMarks
import OutlineCalc.Proofs.LeftOutTotal
import OutlineCalc.Proofs.Alignment
import OutlineCalc.Proofs.NamedDocuments
