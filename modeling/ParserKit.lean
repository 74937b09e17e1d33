import ParserKit.Text.Basic
import ParserKit.Text.Ranges
import ParserKit.Text.Alphabetic
import ParserKit.Text.Printable
import ParserKit.Text.Quoted
import ParserKit.Text.Slice
import ParserKit.Text.Name
import ParserKit.Number
import ParserKit.Kind
import ParserKit.Identity
import ParserKit.View.Basic
import ParserKit.View.Access
import ParserKit.Window.Basic
import ParserKit.Fault
import ParserKit.Window.Access
import ParserKit.Traced
import ParserKit.Outcome
import ParserKit.Value.Basic
import ParserKit.Value.Equality
import ParserKit.Value.Hash
import ParserKit.Value.Print
import ParserKit.Value.Obstacle
import ParserKit.Value.Select
import ParserKit.Value.Start
import ParserKit.Parser.Leaf
import ParserKit.Parser.Basic
import ParserKit.Parser.Argument
import ParserKit.Store
import ParserKit.Script.Callable
import ParserKit.Script.Session
import ParserKit.Script.Expr
import ParserKit.Script.Operation
import ParserKit.Script.Step
import ParserKit.Script.Record
import ParserKit.Proofs.Tree.Basic
import ParserKit.Proofs.Window.Skip
import ParserKit.Proofs.Window.Likeness
import ParserKit.Proofs.Leaf.Token
import ParserKit.Proofs.Tree.Contract
import ParserKit.Proofs.Tree.Alike
import ParserKit.Proofs.Tree.TextDetermined
import ParserKit.Proofs.Tree.Grammar
import ParserKit.Proofs.Tree.Course
import ParserKit.Proofs.Tree.Acceptance
import ParserKit.Proofs.Tree.Lookahead
import ParserKit.Proofs.Text.Quoted
import ParserKit.Proofs.Tree.Control
import ParserKit.Proofs.Tree.Print
import ParserKit.Proofs.Argument.Construction
import ParserKit.Proofs.Script.Entry
import ParserKit.Proofs.Argument.Interchange
import ParserKit.Proofs.Tree.Boundary
import ParserKit.Proofs.Tree.Sequence
import ParserKit.Proofs.Tree.Spelling
import ParserKit.Proofs.Value.Normal
import ParserKit.Proofs.Value.Key
import ParserKit.Proofs.Script.Comparison
import ParserKit.Proofs.Tree.Transform
import ParserKit.Proofs.Text.Slice
import ParserKit.Proofs.Text.Walk
import ParserKit.Proofs.Window.Access
import ParserKit.Proofs.Window.Select
import ParserKit.Proofs.Text.Numeral
import ParserKit.Proofs.Window.Preview
import ParserKit.Proofs.Argument.Places
import ParserKit.Proofs.Window.Suffix
import ParserKit.Proofs.Script.Building
import ParserKit.Proofs.Tree.Failure
import ParserKit.Proofs.Script.Escalation
import ParserKit.Proofs.Value.Unmarked
import ParserKit.Proofs.Value.Node
import ParserKit.Proofs.Value.Family
import ParserKit.Proofs.Store.Settling
import ParserKit.Proofs.Script.Carrying
import ParserKit.Proofs.Script.Growth
