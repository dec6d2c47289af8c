import TextTemplate.Delimiters
import TextTemplate.Engine.Basic
import TextTemplate.Engine.Debug
import TextTemplate.Engine.FileSystem
import TextTemplate.Error.Basic
import TextTemplate.Error.Picture
import TextTemplate.Expression.Basic
import TextTemplate.Expression.Masked
import TextTemplate.Expression.Parse
import TextTemplate.Failure
import TextTemplate.Filter.Basic
import TextTemplate.Filter.Extra
import TextTemplate.Filter.Markup
import TextTemplate.Filter.Standard
import TextTemplate.Literal
import TextTemplate.NameMap
import TextTemplate.Number.Decimal
import TextTemplate.Number.Double
import TextTemplate.Number.Shortest
import TextTemplate.Proofs.Engine.Catalogue
import TextTemplate.Proofs.Engine.Chains
import TextTemplate.Proofs.Engine.Confined
import TextTemplate.Proofs.Engine.Cycles
import TextTemplate.Proofs.Engine.Expansion
import TextTemplate.Proofs.Engine.Guarding
import TextTemplate.Proofs.Engine.Keeping
import TextTemplate.Proofs.Engine.Lineage
import TextTemplate.Proofs.Engine.Numbering
import TextTemplate.Proofs.Engine.Places
import TextTemplate.Proofs.Engine.Reloading
import TextTemplate.Proofs.Engine.Renumbering
import TextTemplate.Proofs.Engine.Session
import TextTemplate.Proofs.Engine.Warming
import TextTemplate.Proofs.Error.Caret
import TextTemplate.Proofs.Expression.Accepted
import TextTemplate.Proofs.Expression.CallForms
import TextTemplate.Proofs.Expression.Comparing
import TextTemplate.Proofs.Expression.Condition
import TextTemplate.Proofs.Expression.Constants
import TextTemplate.Proofs.Expression.Joining
import TextTemplate.Proofs.Expression.LiteralMask
import TextTemplate.Proofs.Expression.Masking
import TextTemplate.Proofs.Expression.Offsets
import TextTemplate.Proofs.Expression.Precedence
import TextTemplate.Proofs.Expression.Printing
import TextTemplate.Proofs.Expression.SlicedReading
import TextTemplate.Proofs.Expression.Slicing
import TextTemplate.Proofs.Expression.Splitting
import TextTemplate.Proofs.Filter.Arguments
import TextTemplate.Proofs.Filter.Escaping
import TextTemplate.Proofs.Filter.Spaceless
import TextTemplate.Proofs.Filter.Truncation
import TextTemplate.Proofs.Literal.Atom
import TextTemplate.Proofs.Literal.Grammar
import TextTemplate.Proofs.Literal.Integer
import TextTemplate.Proofs.Literal.Levels
import TextTemplate.Proofs.Literal.Nesting
import TextTemplate.Proofs.Literal.Reading
import TextTemplate.Proofs.Literal.RoundTrip
import TextTemplate.Proofs.Literal.Underscore
import TextTemplate.Proofs.Render.Alike
import TextTemplate.Proofs.Render.Branches
import TextTemplate.Proofs.Render.Chains
import TextTemplate.Proofs.Render.Constants
import TextTemplate.Proofs.Render.Correspondence
import TextTemplate.Proofs.Render.Coupling
import TextTemplate.Proofs.Render.Depth
import TextTemplate.Proofs.Render.Frame
import TextTemplate.Proofs.Render.Histories
import TextTemplate.Proofs.Render.Including
import TextTemplate.Proofs.Render.Inheritance
import TextTemplate.Proofs.Render.Loops
import TextTemplate.Proofs.Render.Markup
import TextTemplate.Proofs.Render.Places
import TextTemplate.Proofs.Render.Preserved
import TextTemplate.Proofs.Render.Ranges
import TextTemplate.Proofs.Render.Reloaded
import TextTemplate.Proofs.Render.Renumbered
import TextTemplate.Proofs.Render.SelfReference
import TextTemplate.Proofs.Render.Silent
import TextTemplate.Proofs.Render.Standalone
import TextTemplate.Proofs.Render.Steps
import TextTemplate.Proofs.Render.Termination
import TextTemplate.Proofs.Render.Turns
import TextTemplate.Proofs.Render.Uniform
import TextTemplate.Proofs.Result
import TextTemplate.Proofs.Template.Constants
import TextTemplate.Proofs.Template.Pieces
import TextTemplate.Proofs.Template.Reading
import TextTemplate.Proofs.Template.Registry
import TextTemplate.Proofs.Template.SlicedTags
import TextTemplate.Proofs.Template.Titles
import TextTemplate.Proofs.Template.TwoStacks
import TextTemplate.Proofs.Text.Encoding
import TextTemplate.Proofs.Text.Pattern
import TextTemplate.Proofs.Text.Slices
import TextTemplate.Proofs.Text.Trimming
import TextTemplate.Proofs.Text.Words
import TextTemplate.Proofs.Token.Layout
import TextTemplate.Proofs.Value.Comparison
import TextTemplate.Proofs.Value.Serialization
import TextTemplate.Proofs.Value.Stripped
import TextTemplate.Render.Basic
import TextTemplate.Render.Function
import TextTemplate.Render.Scopes
import TextTemplate.Render.Template
import TextTemplate.Template.Nesting
import TextTemplate.Template.Node
import TextTemplate.Template.Program
import TextTemplate.Template.Tag
import TextTemplate.Text.Blank
import TextTemplate.Text.Bytes
import TextTemplate.Text.Casing
import TextTemplate.Text.CodeRange
import TextTemplate.Text.Letter
import TextTemplate.Text.Quoted
import TextTemplate.Text.Segments
import TextTemplate.Text.Width
import TextTemplate.Time.Calendar
import TextTemplate.Time.Format
import TextTemplate.Token
import TextTemplate.Value.Basic
import TextTemplate.Value.Object
import TextTemplate.Value.Order
import TextTemplate.Value.Serial
import TextTemplate.Value.Text
