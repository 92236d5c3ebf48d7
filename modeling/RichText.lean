import RichText.Action
import RichText.Attachment
import RichText.Base64
import RichText.Color
import RichText.CommandLine
import RichText.Decimal.Binary64
import RichText.Decimal.Shortest
import RichText.Document
import RichText.Engine
import RichText.Json.Fault
import RichText.Json.Fields
import RichText.Json.Lexeme
import RichText.Json.Number
import RichText.Json.Order
import RichText.Json.Reader
import RichText.Json.Skip
import RichText.Json.Value
import RichText.Json.Writer
import RichText.Main
import RichText.Node.Basic
import RichText.Node.Leaves
import RichText.Palette
import RichText.Span.Basic
import RichText.Span.FlatText
import RichText.Span.OfValue
import RichText.Span.Reader
import RichText.Span.Writer
import RichText.Strategy.Basic
import RichText.Strategy.Full
import RichText.Strategy.Quoted
import RichText.Style.Basic
import RichText.Tag
import RichText.Text.Blank
import RichText.Text.Digits
import RichText.Text.Quoted
import RichText.Text.Split
import RichText.Text.Utf8
import RichText.Unicode.Canonical
import RichText.Unicode.CanonicalTables
import RichText.Unicode.Direction
import RichText.Unicode.DirectionTables
import RichText.Unicode.DomainTables
import RichText.Unicode.JoiningTables
import RichText.Unicode.Ranges
import RichText.Unicode.Rules
import RichText.Unicode.Visible
import RichText.Url.Address
import RichText.Url.Basic
import RichText.Url.Breaks
import RichText.Url.Domain
import RichText.Url.FilePath
import RichText.Url.Form
import RichText.Url.Host
import RichText.Url.Parse
import RichText.Url.Path
import RichText.Url.Percent
import RichText.Url.Punycode
import RichText.Url.Query
import RichText.Proofs.Json.RoundTrip
import RichText.Proofs.Json.Spelling
import RichText.Proofs.Span.Every
import RichText.Proofs.Span.RoundTrip
import RichText.Proofs.Span.Grammar
import RichText.Proofs.Span.Agreement
import RichText.Proofs.Node.Nodes
import RichText.Proofs.Node.Paths
import RichText.Proofs.Node.Leaves
import RichText.Proofs.Node.PlainText
import RichText.Proofs.Node.Empty
import RichText.Proofs.Rendering.Shape
import RichText.Proofs.Rendering.Drawing
import RichText.Proofs.Rendering.Quoting
import RichText.Proofs.Url.Action
import RichText.Proofs.Rendering.Addresses
import RichText.Proofs.Rendering.Outside
import RichText.Proofs.Rendering.Inside
import RichText.Proofs.Rendering.Reduction
import RichText.Proofs.Rendering.Truncation
import RichText.Proofs.Rendering.TextStyle
import RichText.Proofs.Span.FlatText
import RichText.Proofs.Rendering.Conservation
import RichText.Proofs.Rendering.Revealing
import RichText.Proofs.Rendering.Normal
import RichText.Proofs.Rendering.Drawn
import RichText.Proofs.Rendering.Neutral
import RichText.Proofs.Rendering.Keys
import RichText.Proofs.Rendering.Depth
import RichText.Proofs.Rendering.Sites
import RichText.Proofs.Rendering.Mentions
import RichText.Proofs.Url.Lines
import RichText.Proofs.Url.Form
import RichText.Proofs.Text.Quoted
import RichText.Proofs.Style.Text
import RichText.Proofs.Url.Page
import RichText.Proofs.Rendering.Answers
import RichText.Proofs.Payload
import RichText.Proofs.CommandLine
import RichText.Proofs.Output
import RichText.Proofs.Palette
import RichText.Proofs.Style.Writes
import RichText.Proofs.Json.Naturals
