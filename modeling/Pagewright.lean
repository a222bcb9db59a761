import Pagewright.Element.Seed
import Pagewright.Enrichment.RecentPosts
import Pagewright.Main
import Pagewright.Markup.CharacterReference
import Pagewright.Page.Render
import Pagewright.Proofs.Css.Nesting
import Pagewright.Slot.Check
import Pagewright.Template.Print
import Pagewright.Proofs.Css.Items
import Pagewright.Proofs.Css.Tree
import Pagewright.Proofs.Template.Markup
import Pagewright.Proofs.Css.Danger
import Pagewright.Proofs.Css.Cleaning
import Pagewright.Proofs.Css.Selector
import Pagewright.Proofs.Css.Scoping
import Pagewright.Proofs.Css.Confinement
import Pagewright.Proofs.Css.Scoped
import Pagewright.Proofs.Markup.Plain
import Pagewright.Proofs.Pen.Grammar
import Pagewright.Proofs.Pen.RawFree
import Pagewright.Proofs.Pen.Leaf
import Pagewright.Proofs.Pen.Wellformed
import Pagewright.Proofs.Pen.Calls
import Pagewright.Proofs.Slot.Fitting
import Pagewright.Proofs.Markup.Reading
import Pagewright.Proofs.Page.Scope
import Pagewright.Proofs.Text.Free
import Pagewright.Proofs.Pen.Inside
import Pagewright.Proofs.Pen.Paint
import Pagewright.Proofs.Pen.Declarations
import Pagewright.Proofs.Pen.Rules
import Pagewright.Proofs.Template.Tags
import Pagewright.Proofs.Template.Pieces
import Pagewright.Proofs.Template.Blocks
import Pagewright.Proofs.Template.Strict
import Pagewright.Proofs.Template.Reprint
import Pagewright.Proofs.Css.Loss
import Pagewright.Proofs.Css.Stability
import Pagewright.Proofs.Pen.Failure
import Pagewright.Proofs.Pen.Fonts
import Pagewright.Proofs.Pen.Walk
import Pagewright.Proofs.Pen.Chain
import Pagewright.Proofs.Pen.Tables
import Pagewright.Proofs.Pen.VariableCss
import Pagewright.Proofs.Pen.Defaults
import Pagewright.Proofs.Page.Order
import Pagewright.Proofs.Page.Assembly
import Pagewright.Proofs.Page.Segments
import Pagewright.Proofs.Number.Range
import Pagewright.Proofs.Style.Lookup
import Pagewright.Proofs.Style.Range
import Pagewright.Proofs.Page.Faults
import Pagewright.Proofs.Pen.Forwarding
import Pagewright.Proofs.Pen.Places
import Pagewright.Proofs.Pen.Overriding
import Pagewright.Proofs.Pen.Components
import Pagewright.Proofs.Value.Members
import Pagewright.Proofs.Template.Sections
import Pagewright.Proofs.Template.Scopes
import Pagewright.Proofs.Template.Totality
import Pagewright.Proofs.Slot.Settling
import Pagewright.Proofs.Number.Exact
import Pagewright.Proofs.Number.Numeral
import Pagewright.Proofs.Style.ClassName
import Pagewright.Proofs.Style.Settling
import Pagewright.Proofs.Pen.Skipping
import Pagewright.Proofs.Pen.VariableNames
import Pagewright.Proofs.Slot.Declaration
import Pagewright.Proofs.Slot.UnknownTypes
import Pagewright.Proofs.Style.Values
import Pagewright.Proofs.Css.Characters
import Pagewright.Proofs.Page.Tagless
import Pagewright.Proofs.Css.Braces
import Pagewright.Proofs.Css.Rescoping
import Pagewright.Proofs.Style.Inline
import Pagewright.Proofs.Number.Written
import Pagewright.Proofs.Slot.Record
import Pagewright.Proofs.Element.Record
import Pagewright.Proofs.Json.Texts
import Pagewright.Proofs.Element.InstanceRecord
import Pagewright.Proofs.Enrichment.Excerpt
import Pagewright.Proofs.Enrichment.Provider
import Pagewright.Proofs.Number.Fraction
import Pagewright.Proofs.Pen.Quantity
import Pagewright.Proofs.CommandLine.FileTree
import Pagewright.Proofs.CommandLine.Arguments
import Pagewright.Proofs.CommandLine.Run
