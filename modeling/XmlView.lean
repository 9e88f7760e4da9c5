import XmlView.Text.Basic
import XmlView.CodePoint.Table
import XmlView.CodePoint.Printable
import XmlView.CodePoint.Digit
import XmlView.CodePoint.Case
import XmlView.CodePoint.Width
import XmlView.Decimal.Shortest
import XmlView.Decimal.Notation
import XmlView.Decimal.Nearest
import XmlView.Value.Basic
import XmlView.Value.Dict
import XmlView.Value.SetOrder
import XmlView.Json.Basic
import XmlView.Json.Parse
import XmlView.Markup.Char
import XmlView.Markup.Tree
import XmlView.Markup.Diagnostic
import XmlView.Markup.Uri
import XmlView.Markup.Entity
import XmlView.Markup.Reader.State
import XmlView.Markup.Reader.Name
import XmlView.Markup.Reader.Reference
import XmlView.Markup.Reader.Literal
import XmlView.Markup.Reader.Comment
import XmlView.Markup.Reader.Tag
import XmlView.Markup.Reader.Content
import XmlView.Markup.Reader.Subset
import XmlView.Markup.Reader.Prolog
import XmlView.Markup.Document
import XmlView.Conversion.Item
import XmlView.Conversion.Descriptor
import XmlView.Conversion.Registry
import XmlView.Conversion.Visit
import XmlView.Value.Display
import XmlView.Problem
import XmlView.Text.Utf8
import XmlView.Yaml.Mark
import XmlView.Yaml.Token
import XmlView.Yaml.Scanner
import XmlView.Yaml.Parser
import XmlView.Yaml.Composer
import XmlView.Yaml.Scalar
import XmlView.Yaml.Construct
import XmlView.Yaml.Load
import XmlView.Config.Mapping
import XmlView.Config.Parse
import XmlView.Files.Disk
import XmlView.Json.OfValue
import XmlView.Command.Emoji
import XmlView.Command.Console
import XmlView.Command.Convert
import XmlView.Command.Arguments
import XmlView.Command.Program
import XmlView.Main
import XmlView.Proofs.Content
import XmlView.Proofs.Simulation
import XmlView.Proofs.CallOrder
import XmlView.Proofs.TextContent
import XmlView.Proofs.Props
import XmlView.Proofs.Placement
import XmlView.Proofs.Outcome
import XmlView.Proofs.Pure
import XmlView.Proofs.Extension
import XmlView.Proofs.Configured
import XmlView.Proofs.Census
import XmlView.Proofs.StackWalk
import XmlView.Proofs.Writing
import XmlView.Proofs.Escaping
import XmlView.Proofs.StatusLines
import XmlView.Proofs.Run
import XmlView.Proofs.Command
import XmlView.Proofs.Report
import XmlView.Proofs.ConfigReading
import XmlView.Proofs.KeyPrecedence
import XmlView.Proofs.Attributes
