import BracketTemplate.Main
import BracketTemplate.Proofs.AllOrNothing
import BracketTemplate.Proofs.Blame
import BracketTemplate.Proofs.Budget
import BracketTemplate.Proofs.Concatenation
import BracketTemplate.Proofs.Confinement
import BracketTemplate.Proofs.Evaluation
import BracketTemplate.Proofs.Formats
import BracketTemplate.Proofs.Inlining
import BracketTemplate.Proofs.Leaves
import BracketTemplate.Proofs.LeftOut
import BracketTemplate.Proofs.Lines
import BracketTemplate.Proofs.Markup
import BracketTemplate.Proofs.Nesting
import BracketTemplate.Proofs.Provenance
import BracketTemplate.Proofs.Reach
import BracketTemplate.Proofs.Record
import BracketTemplate.Proofs.ReferenceChains
import BracketTemplate.Proofs.RoundTrip
import BracketTemplate.Proofs.Rounds
import BracketTemplate.Proofs.Scanning
import BracketTemplate.Proofs.Traps
import BracketTemplate.Proofs.Untouched
import BracketTemplate.Proofs.Verbatim
