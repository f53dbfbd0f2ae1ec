import Condition.Main
import Condition.Proofs.CommandLine
import Condition.Proofs.Diagnostic
import Condition.Proofs.Evaluate.Algebra
import Condition.Proofs.Evaluate.ShortCircuit
import Condition.Proofs.Parse.Cursor
import Condition.Proofs.Parse.Limit
import Condition.Proofs.Parse.Locate
import Condition.Proofs.Program.Blank
import Condition.Proofs.Program.Compose
import Condition.Proofs.Program.Highlight
import Condition.Proofs.Program.Hint
import Condition.Proofs.Program.Layout
import Condition.Proofs.Program.Literal
import Condition.Proofs.Program.Place
import Condition.Proofs.Program.Quoted
import Condition.Proofs.Program.Spelling
import Condition.Proofs.Program.Unclosed
import Condition.Proofs.Text.Descent
import Condition.Proofs.Text.Unclosed
import Condition.Proofs.Token.Blanks
import Condition.Proofs.Token.MaximalMunch
import Condition.Proofs.Token.Order
