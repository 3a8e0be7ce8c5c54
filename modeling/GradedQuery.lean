import GradedQuery.Attribute
import GradedQuery.Attribute.Json
import GradedQuery.CommandLine.Invocation
import GradedQuery.CommandLine.Log
import GradedQuery.CommandLine.Options
import GradedQuery.CommandLine.Report
import GradedQuery.CommandLine.Run
import GradedQuery.Compile
import GradedQuery.Config
import GradedQuery.Config.Directory
import GradedQuery.Config.Load
import GradedQuery.Config.Shape
import GradedQuery.Config.Variables
import GradedQuery.Config.Yaml
import GradedQuery.Dataset
import GradedQuery.Dataset.Object
import GradedQuery.Decimal.Binary
import GradedQuery.Decimal.Fixed
import GradedQuery.Decimal.Numeral
import GradedQuery.Decimal.Read
import GradedQuery.Decimal.Shortest
import GradedQuery.Demo
import GradedQuery.Display.Color
import GradedQuery.Display.Score
import GradedQuery.Dnf
import GradedQuery.Dnf.OfFormula
import GradedQuery.Environment
import GradedQuery.Evaluate
import GradedQuery.FileError
import GradedQuery.Files.Host
import GradedQuery.Files.Path
import GradedQuery.Files.Tree
import GradedQuery.Formula
import GradedQuery.Formula.Parser
import GradedQuery.Formula.Token
import GradedQuery.Grade
import GradedQuery.Grade.Extended
import GradedQuery.Json.Document
import GradedQuery.Json.Number
import GradedQuery.Json.Reader
import GradedQuery.Json.Refusal
import GradedQuery.Json.Skip
import GradedQuery.Literal
import GradedQuery.Main
import GradedQuery.Normalize
import GradedQuery.OrderedMap
import GradedQuery.OrderedSet
import GradedQuery.Overlap
import GradedQuery.Proofs.Absorption
import GradedQuery.Proofs.Built
import GradedQuery.Proofs.CaseSplit
import GradedQuery.Proofs.CharacterClass
import GradedQuery.Proofs.CompactDocument
import GradedQuery.Proofs.Cofactors
import GradedQuery.Proofs.Compilation
import GradedQuery.Proofs.Conversion
import GradedQuery.Proofs.CrispMeaning
import GradedQuery.Proofs.CrispScores
import GradedQuery.Proofs.CrispWeights
import GradedQuery.Proofs.DatasetCodec
import GradedQuery.Proofs.DatasetLines
import GradedQuery.Proofs.DatasetRoundTrip
import GradedQuery.Proofs.DepthLimit
import GradedQuery.Proofs.Disagreement
import GradedQuery.Proofs.Dnf
import GradedQuery.Proofs.ExactScores
import GradedQuery.Proofs.FormulaHeight
import GradedQuery.Proofs.Grammar
import GradedQuery.Proofs.Idempotence
import GradedQuery.Proofs.Inclusion
import GradedQuery.Proofs.LatticeLaws
import GradedQuery.Proofs.Layout
import GradedQuery.Proofs.LinearRewriting
import GradedQuery.Proofs.NormalizedFormula
import GradedQuery.Proofs.NumberText
import GradedQuery.Proofs.OpenAtoms
import GradedQuery.Proofs.OrderedSet
import GradedQuery.Proofs.Outcome
import GradedQuery.Proofs.OverlapFree
import GradedQuery.Proofs.PartialTruth
import GradedQuery.Proofs.PlainDistribution
import GradedQuery.Proofs.Polarity
import GradedQuery.Proofs.ReadOnceScores
import GradedQuery.Proofs.ReadableDataset
import GradedQuery.Proofs.Reading
import GradedQuery.Proofs.RelevantAtoms
import GradedQuery.Proofs.RelevantAttributes
import GradedQuery.Proofs.Rendering
import GradedQuery.Proofs.Satisfiability
import GradedQuery.Proofs.StableRanking
import GradedQuery.Proofs.Taking
import GradedQuery.Proofs.Term
import GradedQuery.Proofs.TermCount
import GradedQuery.Proofs.Tokenization
import GradedQuery.Proofs.ViablePrefix
import GradedQuery.Proofs.WeightExpansion
import GradedQuery.Proofs.WeightedRefusal
import GradedQuery.Proofs.WrittenObject
import GradedQuery.Proofs.WrittenText
import GradedQuery.QueryError
import GradedQuery.Ranking
import GradedQuery.Ranking.Json
import GradedQuery.Setting
import GradedQuery.Term
import GradedQuery.Text.Blank
import GradedQuery.Text.Quoted
import GradedQuery.Text.Unshown
import GradedQuery.Text.Upper
import GradedQuery.Text.Utf8
import GradedQuery.Trace
import GradedQuery.Yaml.Glyph
import GradedQuery.Yaml.Node
import GradedQuery.Yaml.Reader
import GradedQuery.Yaml.Scalar
import GradedQuery.Yaml.Writer
