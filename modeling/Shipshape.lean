import Shipshape.Check.Program
import Shipshape.Diagnostic.Report
import Shipshape.Tree.Equal
import Shipshape.Proofs.Induction
import Shipshape.Proofs.Lexical.Simulation
import Shipshape.Proofs.Checked.Node
import Shipshape.Proofs.Checked.Typing
import Shipshape.Proofs.Checked.Rule
import Shipshape.Proofs.Lexical.Typed
import Shipshape.Proofs.Checked.Open
import Shipshape.Proofs.Run.Step
import Shipshape.Proofs.Checked.Declaration
import Shipshape.Proofs.Run.Yield
import Shipshape.Proofs.Run.Outcome
import Shipshape.Proofs.Run.Stmt
import Shipshape.Proofs.Run.Trace
import Shipshape.Proofs.Members
import Shipshape.Proofs.Refusal.Tree
import Shipshape.Proofs.Blame
import Shipshape.Proofs.Report
import Shipshape.Proofs.Soundness
import Shipshape.Proofs.Source.Line
import Shipshape.Proofs.Source.Bytes
import Shipshape.Proofs.Wildcard
import Shipshape.Proofs.Tree.Site
import Shipshape.Proofs.Nesting.Computation
import Shipshape.Proofs.Nesting.Limit
import Shipshape.Proofs.Frame.Computation
import Shipshape.Proofs.Tree.Declared
import Shipshape.Proofs.Frame.Stmt
import Shipshape.Proofs.Frame.Effect
import Shipshape.Proofs.Frame.Expr
import Shipshape.Proofs.Identity.Place
import Shipshape.Proofs.Identity.Mention
import Shipshape.Proofs.Identity.Resolve
import Shipshape.Proofs.Identity.Supply
import Shipshape.Proofs.Identity.Stmt
import Shipshape.Proofs.Identity
import Shipshape.Proofs.Scope.Bounds
import Shipshape.Proofs.Tree.Walk
import Shipshape.Proofs.Checked.Cause
import Shipshape.Proofs.Position.Twin
import Shipshape.Proofs.Position.Computation
import Shipshape.Proofs.Position.Track
import Shipshape.Proofs.Position.Stmt
import Shipshape.Proofs.Position.Program
import Shipshape.Proofs.Control
import Shipshape.Proofs.Region
import Shipshape.Proofs.Checked.Relabel
import Shipshape.Proofs.Coincidence.Expr
import Shipshape.Proofs.Coincidence
import Shipshape.Proofs.Ty.Algebra
import Shipshape.Proofs.Operands
import Shipshape.Proofs.Outline
import Shipshape.Proofs.Outline.Walk
import Shipshape.Proofs.Respelling
import Shipshape.Proofs.Siblings
import Shipshape.Proofs.Arguments
import Shipshape.Proofs.Assignment
import Shipshape.Proofs.Ambiguity.Trace
import Shipshape.Proofs.Ambiguity
import Shipshape.Proofs.Mismatch.Rule
import Shipshape.Proofs.Mismatch.Run
import Shipshape.Proofs.Mismatch
import Shipshape.Proofs.Equality
import Shipshape.Proofs.Class.History
import Shipshape.Proofs.Denotation
import Shipshape.Proofs.Run.Inside
import Shipshape.Proofs.Registry
import Shipshape.Proofs.Failure
