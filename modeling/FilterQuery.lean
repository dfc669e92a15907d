import FilterQuery.Main
import FilterQuery.Session
import FilterQuery.Proofs.Grammar.Reached
import FilterQuery.Proofs.Grammar.Text
import FilterQuery.Proofs.Query.Rendering
import FilterQuery.Proofs.Predicate.Rendering
import FilterQuery.Proofs.Token.Tiling
import FilterQuery.Proofs.Predicate.WellFormed
import FilterQuery.Proofs.Query.Substitution
import FilterQuery.Proofs.Predicate.Joining
import FilterQuery.Proofs.Predicate.Options
import FilterQuery.Proofs.Predicate.Meaning
import FilterQuery.Proofs.Predicate.Desugaring
import FilterQuery.Proofs.Predicate.Blame
import FilterQuery.Proofs.Value.Order
import FilterQuery.Proofs.Predicate.Patterns
import FilterQuery.Proofs.Predicate.Negation
import FilterQuery.Proofs.Predicate.Textual
import FilterQuery.Proofs.Predicate.Places
import FilterQuery.Proofs.Predicate.Trace
import FilterQuery.Proofs.Predicate.Growth
import FilterQuery.Proofs.Predicate.AsciiCase
import FilterQuery.Proofs.Value.Coercion
import FilterQuery.Proofs.Grammar.Extension
import FilterQuery.Proofs.Predicate.Height
import FilterQuery.Proofs.Predicate.Spacing
import FilterQuery.Proofs.Schema.Declarations
import FilterQuery.Proofs.Predicate.Rearranging
import FilterQuery.Proofs.Schema.Extension
import FilterQuery.Proofs.Command
