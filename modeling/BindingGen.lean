import BindingGen.FileTree
import BindingGen.Main
import BindingGen.ShippedTemplate
import BindingGen.Proofs.Members
import BindingGen.Proofs.Template.Flat
import BindingGen.Proofs.Template.Yield
import BindingGen.Proofs.Emission
import BindingGen.Proofs.Renderer
import BindingGen.Proofs.Schema.Apart
import BindingGen.Proofs.ShippedTemplate.Elements
import BindingGen.Proofs.ShippedTemplate.Parts
import BindingGen.Proofs.ShippedTemplate.Enums
import BindingGen.Proofs.ShippedTemplate.Structs
import BindingGen.Proofs.FileTree
import BindingGen.Proofs.ShippedTemplate.Numbering
import BindingGen.Proofs.Generation.Run
import BindingGen.Proofs.Schema.Decode
import BindingGen.Proofs.Docstring
import BindingGen.Proofs.Text.Case
import BindingGen.Proofs.Identifier.Tidy
import BindingGen.Proofs.Identifier.Stability
import BindingGen.Proofs.Identifier.Characters
import BindingGen.Proofs.Identifier.Ascii
import BindingGen.Proofs.Identifier.Letters
import BindingGen.Proofs.Identifier.NormalForm
import BindingGen.Proofs.Identifier.JoinedWords
import BindingGen.Proofs.Identifier.CamelCase
import BindingGen.Proofs.Identifier.OneLine
import BindingGen.Proofs.ShippedTemplate.Bodies
import BindingGen.Proofs.Json.Range
import BindingGen.Proofs.Schema.Form
import BindingGen.Proofs.Schema.Faithful
import BindingGen.Proofs.Schema.Accepted
import BindingGen.Proofs.Schema.Record
import BindingGen.Proofs.Namespace
import BindingGen.Proofs.Identifier.Constant
import BindingGen.Proofs.Path
import BindingGen.Proofs.FileTree.Directories
import BindingGen.Proofs.Generation.Series
import BindingGen.Proofs.Text.Quoted
import BindingGen.Proofs.Settings
import BindingGen.Proofs.Generation.Source
import BindingGen.Proofs.CommandLine
import BindingGen.Proofs.Text.Trim
import BindingGen.Proofs.Namespace.Longest
import BindingGen.Proofs.Comment.Shape
import BindingGen.Proofs.Comment.Layout
import BindingGen.Proofs.Json.Words
import BindingGen.Proofs.Json.Nesting
import BindingGen.Proofs.Json.Written
import BindingGen.Proofs.Schema.Written
import BindingGen.Proofs.ShippedTemplate.Siblings
import BindingGen.Proofs.Text.Scan
import BindingGen.Proofs.Template.Key
import BindingGen.Proofs.Template.Argument
import BindingGen.Proofs.Template.Literal
import BindingGen.Proofs.Template.Tag
import BindingGen.Proofs.Template.Loop
import BindingGen.Proofs.Template.Lookup
import BindingGen.Proofs.Vocabulary.Signature
import BindingGen.Proofs.Reference.Use
import BindingGen.Proofs.Reference.Missing
