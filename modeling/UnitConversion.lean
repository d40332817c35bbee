import UnitConversion.Main
import UnitConversion.Proofs.Conversion.Coherence
import UnitConversion.Proofs.Conversion.Transforms
import UnitConversion.Proofs.Rendering.Precision
import UnitConversion.Proofs.Server.Availability
import UnitConversion.Workspace
import UnitConversion.Proofs.Conversion.Rebuild
import UnitConversion.Proofs.Conversion.Table
import UnitConversion.Proofs.Workspace.Runs
import UnitConversion.Proofs.Binary64.Nearest
import UnitConversion.Proofs.Decimal.Value
import UnitConversion.Proofs.Decimal.Numeral
import UnitConversion.Proofs.Decimal.Layout
import UnitConversion.Proofs.Rendering.Numerals
import UnitConversion.Proofs.Server.Formatted
import UnitConversion.Proofs.Text.Utf8
import UnitConversion.Proofs.Web.Query
import UnitConversion.Proofs.Json.Numbers
import UnitConversion.Proofs.Json.RoundTrip
import UnitConversion.Proofs.Validation.Channels
import UnitConversion.Proofs.Server.Channels
import UnitConversion.Proofs.Binary64.Exact
import UnitConversion.Proofs.Binary64.Invalid
import UnitConversion.Proofs.Conversion.Invalid
import UnitConversion.Proofs.Transform.Overflow
import UnitConversion.Proofs.Conversion.Overflow
import UnitConversion.Proofs.Server.Overflow
import UnitConversion.Proofs.Json.Sorted
import UnitConversion.Proofs.Server.Envelope
import UnitConversion.Proofs.Server.Plain
import UnitConversion.Proofs.Web.Redirection
import UnitConversion.Proofs.Web.Routing
import UnitConversion.Proofs.Server.Paths
import UnitConversion.Proofs.Server.Strict
import UnitConversion.Proofs.Server.PlainQueries
import UnitConversion.Proofs.Server.Honoured
import UnitConversion.Proofs.Conversion.Outcome
import UnitConversion.Proofs.Server.Headers
import UnitConversion.Proofs.Binary64.Error
import UnitConversion.Proofs.Decimal.Rounding
import UnitConversion.Proofs.Decimal.Shortest
import UnitConversion.Proofs.Decimal.Logarithm
import UnitConversion.Proofs.Decimal.CorrectLogarithm
import UnitConversion.Proofs.Rendering.Figures
import UnitConversion.Proofs.Rendering.Early
import UnitConversion.Proofs.Rendering.Rounded
import UnitConversion.Proofs.Rendering.LaidOut
import UnitConversion.Proofs.Rendering.Places
import UnitConversion.Proofs.Rendering.General
import UnitConversion.Proofs.Rendering.Signs
import UnitConversion.Proofs.Validation.Verdict
import UnitConversion.Proofs.Catalog.Acceptance
import UnitConversion.Proofs.Server.Sections
import UnitConversion.Proofs.Json.Nesting
import UnitConversion.Proofs.Json.Same
import UnitConversion.Proofs.Server.RoundTrip
