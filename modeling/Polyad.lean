import Polyad.Number.Integer
import Polyad.Number.Binary
import Polyad.Decimal.Shortest
import Polyad.Decimal.Layout
import Polyad.Text.CodeSet
import Polyad.Text.Letter
import Polyad.Text.Word
import Polyad.Text.Printing
import Polyad.Text.Folding
import Polyad.Text.Quoted
import Polyad.Outline
import Polyad.Universe
import Polyad.Value
import Polyad.Error
import Polyad.Source
import Polyad.Store
import Polyad.Store.Types
import Polyad.Feed
import Polyad.Tuple
import Polyad.TypeList
import Polyad.Collation
import Polyad.Codec
import Polyad.Capability
import Polyad.Typed
import Polyad.Unary
import Polyad.Document
import Polyad.Standard.Kind
import Polyad.Standard.Codec
import Polyad.Standard.Capability
import Polyad.Pattern.Direction
import Polyad.Pattern.Fault
import Polyad.Pattern.Look
import Polyad.Pattern.Flags
import Polyad.Pattern.NamedClass
import Polyad.Pattern.Escape
import Polyad.Pattern.Bracket
import Polyad.Pattern.Expr
import Polyad.Pattern.Grammar
import Polyad.Pattern.ByteRun
import Polyad.Pattern.Program
import Polyad.Pattern.Sharing
import Polyad.Pattern.Trie
import Polyad.Pattern.Assembly
import Polyad.Pattern.Search
import Polyad.Pattern
import Polyad.Pattern.Engine
import Polyad.Strategy
import Polyad.Matcher
import Polyad.Reducer
import Polyad.Reducer.Counting
import Polyad.Reducer.Joining
import Polyad.Reducer.Partitioning
import Polyad.Reducer.Gathering
import Polyad.Reducer.Teeing
import Polyad.Summary.Accumulator
import Polyad.Summary.Arithmetic
import Polyad.Summary.Mean
import Polyad.Summary.Variance
import Polyad.Summary.Mode
import Polyad.Proofs.Composition
import Polyad.Proofs.Bare
import Polyad.Proofs.History
import Polyad.Proofs.Refusal
import Polyad.Proofs.Action
import Polyad.Proofs.Coercion
import Polyad.Proofs.Erasure
import Polyad.Proofs.Soundness
import Polyad.Proofs.Comparison
import Polyad.Proofs.Nesting
import Polyad.Proofs.StandardLaws
import Polyad.Proofs.TupleOrder
import Polyad.Proofs.Bytes
import Polyad.Proofs.Hashing
import Polyad.Proofs.Admission
import Polyad.Proofs.Interchange
import Polyad.Proofs.Entailment
import Polyad.Proofs.Drawing
import Polyad.Proofs.Gathering
import Polyad.Proofs.Recovery
import Polyad.Proofs.Reading
import Polyad.Proofs.RoundTrip
import Polyad.Proofs.Rotation
import Polyad.Proofs.FirstDifference
import Polyad.Proofs.TotalOrder
import Polyad.Proofs.Laziness
import Polyad.Proofs.Edits
import Polyad.Proofs.Search
import Polyad.Proofs.Join
import Polyad.Proofs.Compilation
import Polyad.Proofs.Matching
import Polyad.Proofs.Delivery
import Polyad.Proofs.Frequency
import Polyad.Proofs.Moments
import Polyad.Proofs.Asking
import Polyad.Proofs.Partition
import Polyad.Proofs.Intercalation
import Polyad.Proofs.Keyed
import Polyad.Proofs.Teeing
import Polyad.Proofs.Stepping
import Polyad.Proofs.Offset
