import MockSchema.Binary64.Basic
import MockSchema.Binary64.Decimal
import MockSchema.Binary64.Shortest
import MockSchema.CharSet
import MockSchema.Command.Options
import MockSchema.Command.Run
import MockSchema.Command.Setup
import MockSchema.Encode.Format
import MockSchema.Encode.Json
import MockSchema.Encode.Xml
import MockSchema.Entries
import MockSchema.Generator.Basic
import MockSchema.Generator.Definition
import MockSchema.Generator.OfYaml
import MockSchema.Generator.Person
import MockSchema.Generator.Uuid
import MockSchema.Main
import MockSchema.Pattern.ClassReader
import MockSchema.Pattern.Compiled
import MockSchema.Pattern.Error
import MockSchema.Pattern.Escape
import MockSchema.Pattern.Expr
import MockSchema.Pattern.Meaning
import MockSchema.Pattern.Parse
import MockSchema.Pattern.Reader
import MockSchema.Pattern.Sample
import MockSchema.Pattern.Settings
import MockSchema.Pattern.Syntax
import MockSchema.Proofs.ByteOrder
import MockSchema.Proofs.CharMembership
import MockSchema.Proofs.ClassSimulation
import MockSchema.Proofs.Composition
import MockSchema.Proofs.Conformance
import MockSchema.Proofs.CounterRuns
import MockSchema.Proofs.DayNumbers
import MockSchema.Proofs.DeclaredValues
import MockSchema.Proofs.DefinitionLoading
import MockSchema.Proofs.Derivation
import MockSchema.Proofs.DocumentLines
import MockSchema.Proofs.DocumentStream
import MockSchema.Proofs.Draws
import MockSchema.Proofs.EarliestToken
import MockSchema.Proofs.EndToken
import MockSchema.Proofs.ErrorPlaces
import MockSchema.Proofs.EscapeSimulation
import MockSchema.Proofs.FirstAppearance
import MockSchema.Proofs.FirstLetter
import MockSchema.Proofs.IdentifierBits
import MockSchema.Proofs.InstantBounds
import MockSchema.Proofs.IntegerText
import MockSchema.Proofs.JsonLexeme
import MockSchema.Proofs.JsonNumber
import MockSchema.Proofs.JsonReader
import MockSchema.Proofs.JsonReading
import MockSchema.Proofs.JsonSchema
import MockSchema.Proofs.KeyOrder
import MockSchema.Proofs.LiteralMeaning
import MockSchema.Proofs.MappingEntries
import MockSchema.Proofs.MemberPlaces
import MockSchema.Proofs.NestedText
import MockSchema.Proofs.NumberMatch
import MockSchema.Proofs.Numeral
import MockSchema.Proofs.Outcome
import MockSchema.Proofs.PatternCoverage
import MockSchema.Proofs.PatternForm
import MockSchema.Proofs.PatternLanguage
import MockSchema.Proofs.PatternLiteral
import MockSchema.Proofs.PatternSimulation
import MockSchema.Proofs.PropertyNames
import MockSchema.Proofs.RangeDraws
import MockSchema.Proofs.ReaderSimulation
import MockSchema.Proofs.Reading
import MockSchema.Proofs.Recording
import MockSchema.Proofs.RefusedNames
import MockSchema.Proofs.Rescanning
import MockSchema.Proofs.Respelling
import MockSchema.Proofs.Rounding
import MockSchema.Proofs.Scanning
import MockSchema.Proofs.SchemaForm
import MockSchema.Proofs.SessionHistory
import MockSchema.Proofs.ShortestDecimal
import MockSchema.Proofs.Simulation
import MockSchema.Proofs.Spans
import MockSchema.Proofs.Stalling
import MockSchema.Proofs.Tape
import MockSchema.Proofs.TemplateCut
import MockSchema.Proofs.TemplateSegments
import MockSchema.Proofs.TimestampRange
import MockSchema.Proofs.TimestampText
import MockSchema.Proofs.Totality
import MockSchema.Proofs.TreeRefinement
import MockSchema.Proofs.TrustedGeneration
import MockSchema.Proofs.TrustedRegistry
import MockSchema.Proofs.Unescaping
import MockSchema.Proofs.UnicodeSpans
import MockSchema.Proofs.UnsupportedKeys
import MockSchema.Proofs.UsableNames
import MockSchema.Proofs.Weights
import MockSchema.Proofs.XmlContent
import MockSchema.Proofs.XmlForest
import MockSchema.Proofs.XmlGrammar
import MockSchema.Proofs.XmlLayout
import MockSchema.Random.Any
import MockSchema.Random.ChaCha
import MockSchema.Random.Gen
import MockSchema.Random.Source
import MockSchema.Registry
import MockSchema.Schema.Basic
import MockSchema.Schema.Error
import MockSchema.Schema.Generate
import MockSchema.Schema.Parse
import MockSchema.Schema.Template
import MockSchema.Session
import MockSchema.Text.Integer
import MockSchema.Text.Quoted
import MockSchema.Text.Split
import MockSchema.Text.Width
import MockSchema.Timestamp.Calendar
import MockSchema.Timestamp.Instant
import MockSchema.Timestamp.Parse
import MockSchema.Token.Basic
import MockSchema.Token.Number
import MockSchema.Token.Scan
import MockSchema.Unicode.Age
import MockSchema.Unicode.Boundary
import MockSchema.Unicode.BoundaryTable
import MockSchema.Unicode.CaseChange
import MockSchema.Unicode.CaseTable
import MockSchema.Unicode.Class
import MockSchema.Unicode.Letter
import MockSchema.Unicode.Mark
import MockSchema.Unicode.Name
import MockSchema.Unicode.Property
import MockSchema.Unicode.PropertyTable
import MockSchema.Unicode.Punctuation
import MockSchema.Unicode.Script
import MockSchema.Unicode.ScriptExtension
import MockSchema.Value.Basic
import MockSchema.Value.Display
import MockSchema.Value.OfYaml
import MockSchema.Yaml.Node.Basic
import MockSchema.Yaml.Node.Parse
import MockSchema.Yaml.Token.Basic
import MockSchema.Yaml.Token.Scalar
import MockSchema.Yaml.Token.Scan
import MockSchema.Yaml.Token.Scanner
import MockSchema.Yaml.Value.Basic
import MockSchema.Yaml.Value.Load
import MockSchema.Yaml.Value.Scalar

/-!
# Schemas for mock data

A schema is a text that describes random data: objects, lists, ranges, templates, patterns and named
generators. This library reads schemas, draws values from them, and writes the values as JSON or XML.
-/
