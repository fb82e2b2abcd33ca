import ApiNotes.Annotation.Command
import ApiNotes.Annotation.Kind
import ApiNotes.Annotation.Reader
import ApiNotes.Api.Draft
import ApiNotes.Api.Edit
import ApiNotes.Api.Finish
import ApiNotes.Api.Interpret
import ApiNotes.Code.Declaration
import ApiNotes.Code.Grammar.Attribute
import ApiNotes.Code.Grammar.Basic
import ApiNotes.Code.Grammar.Bound
import ApiNotes.Code.Grammar.Expression
import ApiNotes.Code.Grammar.Function
import ApiNotes.Code.Grammar.Generics
import ApiNotes.Code.Grammar.Item
import ApiNotes.Code.Grammar.Levels
import ApiNotes.Code.Grammar.Path
import ApiNotes.Code.Grammar.Pattern
import ApiNotes.Code.Grammar.Statement
import ApiNotes.Code.Grammar.Structure
import ApiNotes.Code.Grammar.Type
import ApiNotes.Code.Grammar.Value
import ApiNotes.Code.Lexeme.Basic
import ApiNotes.Code.Lexeme.Blank
import ApiNotes.Code.Lexeme.Number
import ApiNotes.Code.Lexeme.Quoted
import ApiNotes.Code.Reading
import ApiNotes.Code.SourceUnit
import ApiNotes.Code.Token
import ApiNotes.Code.TypeExpr
import ApiNotes.CommandLine.Arguments
import ApiNotes.CommandLine.Run
import ApiNotes.Document.Basic
import ApiNotes.Document.Encoding
import ApiNotes.Document.Schema
import ApiNotes.Failure
import ApiNotes.FileTree.Basic
import ApiNotes.FileTree.Path
import ApiNotes.FileTree.Scan
import ApiNotes.FileTree.Writing
import ApiNotes.Format
import ApiNotes.Generation
import ApiNotes.Json.Basic
import ApiNotes.Json.Text
import ApiNotes.Log
import ApiNotes.Main
import ApiNotes.OrderedMap
import ApiNotes.Project
import ApiNotes.Resolution
import ApiNotes.Source
import ApiNotes.Symbol.Basic
import ApiNotes.Symbol.Exposure
import ApiNotes.Symbol.Extraction
import ApiNotes.Symbol.Shape
import ApiNotes.Symbol.Table
import ApiNotes.Text.Blank
import ApiNotes.Text.CharClass
import ApiNotes.Text.Identifier
import ApiNotes.Text.Lines
import ApiNotes.Text.Lowercase
import ApiNotes.Text.Word
import ApiNotes.TypeRef
import ApiNotes.Yaml.Meaning
import ApiNotes.Yaml.Scalar
import ApiNotes.Yaml.Text
import ApiNotes.Proofs.Document.Occurrences
import ApiNotes.Proofs.Logged
import ApiNotes.Proofs.OrderedMap
import ApiNotes.Proofs.Resolution.Levels
import ApiNotes.Proofs.Resolution.Closure
import ApiNotes.Proofs.Api.Grammar
import ApiNotes.Proofs.Api.Isolation
import ApiNotes.Proofs.Document.Nodes
import ApiNotes.Proofs.Symbol.References
import ApiNotes.Proofs.Resolution.References
import ApiNotes.Proofs.Api.Inline
import ApiNotes.Proofs.Api.Block
import ApiNotes.Proofs.Generation.References
import ApiNotes.Proofs.Api.Known
import ApiNotes.Proofs.Api.Routes
import ApiNotes.Proofs.FileTree.Entries
import ApiNotes.Proofs.FileTree.Writing
import ApiNotes.Proofs.FileTree.Artifacts
import ApiNotes.Proofs.Json.Members
import ApiNotes.Proofs.Document.Encoding
import ApiNotes.Proofs.Generation.Reading
import ApiNotes.Proofs.Annotation.Reader
import ApiNotes.Proofs.Api.Faults
import ApiNotes.Proofs.Api.Content
import ApiNotes.Proofs.Api.Subjects
import ApiNotes.Proofs.Resolution.Order
import ApiNotes.Proofs.Api.Exchange
import ApiNotes.Proofs.Yaml.Quoted
import ApiNotes.Proofs.Yaml.Scalar
import ApiNotes.Proofs.Yaml.Text
import ApiNotes.Proofs.Document.Rendering
import ApiNotes.Proofs.Resolution.Distance
import ApiNotes.Proofs.Api.Broadcast
import ApiNotes.Proofs.Generation.Leniency
import ApiNotes.Proofs.FileTree.Frame
import ApiNotes.Proofs.CommandLine.Run
import ApiNotes.Proofs.Api.Attempts
import ApiNotes.Proofs.Resolution.Seeds
import ApiNotes.Proofs.Api.Mentions
import ApiNotes.Proofs.Api.Linking
import ApiNotes.Proofs.Resolution.Passes
import ApiNotes.Proofs.Symbol.Declarations
import ApiNotes.Proofs.Symbol.Layers
import ApiNotes.Proofs.Symbol.Synonyms
import ApiNotes.Proofs.Generation.Accounting
import ApiNotes.Proofs.FileTree.Scan
import ApiNotes.Proofs.Code.Reading
import ApiNotes.Proofs.Code.Words
import ApiNotes.Proofs.Generation.Names
import ApiNotes.Proofs.Symbol.Exposure
import ApiNotes.Proofs.Api.Servers
import ApiNotes.Proofs.Annotation.Lines
import ApiNotes.Proofs.CommandLine.Sentinel
import ApiNotes.Proofs.Document.Walk
import ApiNotes.Proofs.Symbol.Spelling
