import Liquid.Filter.Standard
import Liquid.Node
import Liquid.Proofs.Markup.Expression
import Liquid.Proofs.Logic
import Liquid.Proofs.Frame
import Liquid.Proofs.Strictness
import Liquid.Proofs.Escaping
import Liquid.Proofs.Assembly
import Liquid.Proofs.Selection
import Liquid.Proofs.Markup.Grammar
import Liquid.Proofs.Markup.Chain
import Liquid.Proofs.Path.Navigation
import Liquid.Proofs.Path.Composition
import Liquid.Proofs.Path.Indexing
import Liquid.Proofs.Undefined
import Liquid.Proofs.Layout
import Liquid.Proofs.Markup.Joining
import Liquid.Proofs.Markup.ChainText
import Liquid.Proofs.QuotedText
import Liquid.Proofs.JoinedTruth
import Liquid.Proofs.Registration
import Liquid.Proofs.Privacy.PublicPart
import Liquid.Proofs.Privacy.Selection
import Liquid.Proofs.Privacy.Resolution
import Liquid.Proofs.Path.Binding
import Liquid.Proofs.Markup.FilterName
import Liquid.Proofs.FilterLimits
import Liquid.Proofs.Html.RoundTrip
import Liquid.Proofs.Truncation
import Liquid.Proofs.Comparability
import Liquid.Proofs.Scoping
import Liquid.Proofs.FirstConnective
import Liquid.Proofs.Guards
import Liquid.Proofs.Number.Decimal
import Liquid.Proofs.Range
import Liquid.Proofs.Path.QuotedKey
import Liquid.Proofs.Markup.Slices
import Liquid.Proofs.Number.Grouping
import Liquid.Proofs.LabelledArguments
import Liquid.Proofs.Value.Order
import Liquid.Proofs.Arithmetic
