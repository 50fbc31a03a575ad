import AmpMarkup.Text.Ascii
import AmpMarkup.Text.Blank
import AmpMarkup.Text.Replace
import AmpMarkup.Text.LineDiff
import AmpMarkup.Text.LineDiffForm
import AmpMarkup.Text.Bytes
import AmpMarkup.Document.Attributes
import AmpMarkup.Document.Basic
import AmpMarkup.Document.Edit
import AmpMarkup.Document.Refusal
import AmpMarkup.Markup.Vocabulary
import AmpMarkup.Markup.Entity
import AmpMarkup.Markup.Token
import AmpMarkup.Markup.Reader
import AmpMarkup.Markup.Bytewise
import AmpMarkup.Markup.EntityPass
import AmpMarkup.Document.Preorder
import AmpMarkup.Document.Html
import AmpMarkup.Document.Outline
import AmpMarkup.Document.Integrity
import AmpMarkup.Document.Fallback
import AmpMarkup.Document.Tree
import AmpMarkup.Document.TreeText
import AmpMarkup.Document.WellFormed
import AmpMarkup.Document.LinkWalk
import AmpMarkup.Document.Walk
import AmpMarkup.Document.Relink
import AmpMarkup.Document.Copy
import AmpMarkup.Document.HtmlPiece
import AmpMarkup.Document.OutlineForm
import AmpMarkup.Document.AttributeHistory
import AmpMarkup.Document.Restore
import AmpMarkup.Binary64.Basic
import AmpMarkup.Binary64.Shortest
import AmpMarkup.Conversion.Policy
import AmpMarkup.Conversion.Length
import AmpMarkup.Conversion.LengthForm
import AmpMarkup.Unicode.Table
import AmpMarkup.Unicode.CombiningClass
import AmpMarkup.Unicode.Mark
import AmpMarkup.Unicode.JoiningType
import AmpMarkup.Unicode.BidiClass
import AmpMarkup.Unicode.DomainMapping
import AmpMarkup.Unicode.Decomposition
import AmpMarkup.Unicode.Printable
import AmpMarkup.Unicode.Normalization
import AmpMarkup.Url.Percent
import AmpMarkup.Url.Punycode
import AmpMarkup.Url.DomainName
import AmpMarkup.Url.Address
import AmpMarkup.Url.Host
import AmpMarkup.Url.Basic
import AmpMarkup.Conversion.SourceUrl
import AmpMarkup.Conversion.Bytewise
import AmpMarkup.Conversion.AttributeRule
import AmpMarkup.Conversion.Report
import AmpMarkup.Conversion.AudioElement
import AmpMarkup.Conversion.Pass
import AmpMarkup.Conversion.TreeConversion
import AmpMarkup.Conversion.History
import AmpMarkup.Conversion.Handles
import AmpMarkup.Conversion.Recovery
import AmpMarkup.Toml.Reader
import AmpMarkup.Toml.DateTime
import AmpMarkup.Toml.Value
import AmpMarkup.Toml.Quoted
import AmpMarkup.Toml.Number
import AmpMarkup.Toml.Inline
import AmpMarkup.Toml.Document
import AmpMarkup.Text.Shown
import AmpMarkup.Toml.Writer
import AmpMarkup.Toml.Decode
import AmpMarkup.Conversion.PolicyFile
import AmpMarkup.Conversion.Example
import AmpMarkup.Proofs.Document.Slots
import AmpMarkup.Proofs.Document.Running
import AmpMarkup.Proofs.Document.SlotEdits
import AmpMarkup.Proofs.Document.Lineage
import AmpMarkup.Proofs.Document.Subtree
import AmpMarkup.Proofs.Document.Discard
import AmpMarkup.Proofs.Document.Copy
import AmpMarkup.Proofs.Document.Integrity
import AmpMarkup.Proofs.Document.Alike
import AmpMarkup.Proofs.Conversion.LinkInvariant
import AmpMarkup.Proofs.Conversion.Later
import AmpMarkup.Conversion.Verdict
import AmpMarkup.Conversion.Growth
import AmpMarkup.Conversion.PageWidth
import AmpMarkup.Proofs.Conversion.Gather
import AmpMarkup.Proofs.Conversion.Replacement
import AmpMarkup.Proofs.Conversion.Substitution
import AmpMarkup.Proofs.Conversion.Visits
import AmpMarkup.Proofs.Conversion.BottomUp
import AmpMarkup.Proofs.Conversion.Settled
import AmpMarkup.Proofs.Binary64.ReadBack
import AmpMarkup.Proofs.Conversion.Length
import AmpMarkup.Markup.Printable
import AmpMarkup.Proofs.Markup.Entity
import AmpMarkup.Proofs.Markup.Token
import AmpMarkup.Proofs.Document.Html
import AmpMarkup.Proofs.Markup.TreeTokens
import AmpMarkup.Proofs.Markup.Reading
import AmpMarkup.Proofs.Conversion.Preservation
import AmpMarkup.Proofs.Markup.RoundTrip
import AmpMarkup.Proofs.Markup.CreationOrder
import AmpMarkup.Proofs.Conversion.Storage
import AmpMarkup.Proofs.Conversion.ReplacementTree
import AmpMarkup.Proofs.Conversion.Inheritance
import AmpMarkup.Proofs.Conversion.Survival
import AmpMarkup.Proofs.Conversion.Standing
import AmpMarkup.Proofs.Document.Refusals
import AmpMarkup.Proofs.Conversion.ConvertedTree
import AmpMarkup.Proofs.Conversion.Growth
import AmpMarkup.Proofs.Conversion.Course
import AmpMarkup.Proofs.Conversion.Confinement
import AmpMarkup.Proofs.Conversion.Exposure
import AmpMarkup.Proofs.Conversion.StaleHandles
import AmpMarkup.Proofs.Conversion.Leniency
import AmpMarkup.Proofs.Conversion.PageWidth
import AmpMarkup.Proofs.Conversion.Filter
import AmpMarkup.Proofs.Conversion.Upgrade
import AmpMarkup.Proofs.Document.Walk
import AmpMarkup.Proofs.Document.Relink
import AmpMarkup.Proofs.Document.Outline
import AmpMarkup.Proofs.Document.FaithfulCopy
import AmpMarkup.Proofs.Document.NodeHtml
import AmpMarkup.Proofs.Conversion.NormalLength
import AmpMarkup.Proofs.Conversion.Percentage
import AmpMarkup.Proofs.Conversion.LengthText
import AmpMarkup.Proofs.Document.OutlineForm
import AmpMarkup.Proofs.Conversion.Bytewise
import AmpMarkup.Proofs.Text.LineDiff
import AmpMarkup.Proofs.Markup.EntityPass
import AmpMarkup.Proofs.Document.AttributeHistory
import AmpMarkup.Proofs.Document.Restore
import AmpMarkup.Proofs.Conversion.Recovery
