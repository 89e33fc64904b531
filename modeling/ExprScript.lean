import ExprScript.Main
import ExprScript.Session
import ExprScript.Proofs.Program.Acceptance
import ExprScript.Proofs.Program.Balance
import ExprScript.Proofs.Program.Concatenation
import ExprScript.Proofs.Program.Linear
import ExprScript.Proofs.Program.Precedence
import ExprScript.Proofs.Program.RoundTrip
import ExprScript.Proofs.Program.Safety
import ExprScript.Proofs.Eval.Recursion
import ExprScript.Proofs.Token.Segmentation
import ExprScript.Proofs.Program.Coincidence
import ExprScript.Proofs.Program.Frame
import ExprScript.Proofs.Session.Isolation
import ExprScript.Proofs.Token.InvalidCharacter
import ExprScript.Proofs.Program.Grounding
import ExprScript.Proofs.Program.Calculation
import ExprScript.Proofs.Program.Branching
import ExprScript.Proofs.Session.Visibility
import ExprScript.Proofs.Equality
import ExprScript.Proofs.Program.Trace
import ExprScript.Proofs.Program.Legible
import ExprScript.Proofs.Program.Built
import ExprScript.Proofs.Eval.Alternatives
import ExprScript.Proofs.Source.Position
import ExprScript.Proofs.Token.Lexing
import ExprScript.Proofs.Grammar.Cursor
import ExprScript.Proofs.Program.Limit
import ExprScript.Proofs.Program.Numeral
