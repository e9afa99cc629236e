import ClassMetrics.Analyzer
import ClassMetrics.Artifact
import ClassMetrics.ClassFile.Basic
import ClassMetrics.ClassFile.Code
import ClassMetrics.ClassFile.ConstantPool
import ClassMetrics.ClassFile.Decode
import ClassMetrics.ClassFile.Descriptor
import ClassMetrics.ClassFile.FormatError
import ClassMetrics.ClassFile.ModifiedUtf8
import ClassMetrics.ClassFile.Reader
import ClassMetrics.Cohesion.Analysis
import ClassMetrics.Cohesion.MethodGraph
import ClassMetrics.CommandLine.Arguments
import ClassMetrics.CommandLine.Options
import ClassMetrics.Coupling.Analysis
import ClassMetrics.Coupling.Extraction
import ClassMetrics.Coupling.Graph
import ClassMetrics.Data.Adjacency
import ClassMetrics.Data.ArcTable
import ClassMetrics.Data.Lists
import ClassMetrics.Data.NameTable
import ClassMetrics.Data.Partition
import ClassMetrics.Data.Slots
import ClassMetrics.Decimal.Binary
import ClassMetrics.Decimal.Shortest
import ClassMetrics.Dependency.Analysis
import ClassMetrics.Dependency.Cycle
import ClassMetrics.Dependency.Graph
import ClassMetrics.Dependency.Ordering
import ClassMetrics.Dependency.Source
import ClassMetrics.Dot.Read
import ClassMetrics.Dot.Write
import ClassMetrics.Failure
import ClassMetrics.Files.ClassFiles
import ClassMetrics.Files.FileSystem
import ClassMetrics.Files.IoError
import ClassMetrics.Files.Path
import ClassMetrics.Main
import ClassMetrics.Pattern.Basic
import ClassMetrics.Pattern.Read
import ClassMetrics.Proofs.ClassFile.AttributeFrames
import ClassMetrics.Proofs.ClassFile.AttributeTrace
import ClassMetrics.Proofs.ClassFile.CodeArray
import ClassMetrics.Proofs.ClassFile.CodeGrammar
import ClassMetrics.Proofs.ClassFile.Constants
import ClassMetrics.Proofs.ClassFile.Encode
import ClassMetrics.Proofs.ClassFile.FillingLoop
import ClassMetrics.Proofs.ClassFile.InstructionShape
import ClassMetrics.Proofs.ClassFile.Keys
import ClassMetrics.Proofs.ClassFile.Lookups
import ClassMetrics.Proofs.ClassFile.ParameterTypes
import ClassMetrics.Proofs.ClassFile.Prefixes
import ClassMetrics.Proofs.ClassFile.Reads
import ClassMetrics.Proofs.ClassFile.RoundTrip
import ClassMetrics.Proofs.ClassFile.Simulation
import ClassMetrics.Proofs.ClassFile.SlotLayout
import ClassMetrics.Proofs.ClassFile.Spellings
import ClassMetrics.Proofs.ClassFile.StoredConstants
import ClassMetrics.Proofs.ClassFile.TextConstants
import ClassMetrics.Proofs.ClassFile.TextUnits
import ClassMetrics.Proofs.ClassFile.UnusedConstants
import ClassMetrics.Proofs.Cohesion.Components
import ClassMetrics.Proofs.Cohesion.Growth
import ClassMetrics.Proofs.Cohesion.Scores
import ClassMetrics.Proofs.Cohesion.Usage
import ClassMetrics.Proofs.Coupling.Exclusion
import ClassMetrics.Proofs.Coupling.Extraction
import ClassMetrics.Proofs.Coupling.FirstFault
import ClassMetrics.Proofs.Coupling.Graph
import ClassMetrics.Proofs.Coupling.History
import ClassMetrics.Proofs.Coupling.Occurrences
import ClassMetrics.Proofs.Coupling.PlatformStarts
import ClassMetrics.Proofs.Coupling.Totals
import ClassMetrics.Proofs.Data.ArcTable
import ClassMetrics.Proofs.Data.Distinct
import ClassMetrics.Proofs.Data.Keyed
import ClassMetrics.Proofs.Data.Pairs
import ClassMetrics.Proofs.Data.Partition
import ClassMetrics.Proofs.Data.Ranking
import ClassMetrics.Proofs.Dependency.Changes
import ClassMetrics.Proofs.Dependency.Circuit
import ClassMetrics.Proofs.Dependency.CycleSearch
import ClassMetrics.Proofs.Dependency.CyclicCore
import ClassMetrics.Proofs.Dependency.Digraph
import ClassMetrics.Proofs.Dependency.DisjointCycles
import ClassMetrics.Proofs.Dependency.FeedbackArcs
import ClassMetrics.Proofs.Dependency.Frame
import ClassMetrics.Proofs.Dependency.Graph
import ClassMetrics.Proofs.Dependency.Ordering
import ClassMetrics.Proofs.Dependency.OrderingLoops
import ClassMetrics.Proofs.Dependency.Reachable
import ClassMetrics.Proofs.Dependency.Records
import ClassMetrics.Proofs.Dependency.Verdicts
import ClassMetrics.Proofs.Dependency.Walk
import ClassMetrics.Proofs.Dot.Grammar
import ClassMetrics.Proofs.Dot.RoundTrip
import ClassMetrics.Proofs.Dot.Statements
import ClassMetrics.Proofs.Dot.Unambiguous
import ClassMetrics.Proofs.Files.Collecting
import ClassMetrics.Proofs.Files.Directories
import ClassMetrics.Proofs.Files.Listing
import ClassMetrics.Proofs.Files.Reading
import ClassMetrics.Proofs.Files.Writing
import ClassMetrics.Proofs.Reordering
import ClassMetrics.Proofs.Report.PlainText
import ClassMetrics.Proofs.Report.TextTable
import ClassMetrics.Proofs.Run.Combined
import ClassMetrics.Proofs.Run.Failures
import ClassMetrics.Proofs.Run.Limits
import ClassMetrics.Proofs.Run.MethodGraphFiles
import ClassMetrics.Proofs.Run.Reporting
import ClassMetrics.Proofs.Run.ResultFiles
import ClassMetrics.Proofs.Run.Stages
import ClassMetrics.Proofs.SharedClasses
import ClassMetrics.Proofs.Text.Blank
import ClassMetrics.Proofs.Text.Utf8
import ClassMetrics.Proofs.Violations
import ClassMetrics.Report.Cell
import ClassMetrics.Report.Format
import ClassMetrics.Report.Markdown
import ClassMetrics.Report.PlainText
import ClassMetrics.Report.TextTable
import ClassMetrics.Run
import ClassMetrics.Settings.Basic
import ClassMetrics.Settings.DefaultText
import ClassMetrics.Settings.Environment
import ClassMetrics.Settings.Load
import ClassMetrics.Settings.Toml.Document
import ClassMetrics.Settings.Toml.Scalar
import ClassMetrics.Settings.Toml.Table
import ClassMetrics.Text.Blank
import ClassMetrics.Text.Moment
import ClassMetrics.Text.Quoted
import ClassMetrics.Text.UpperCase
import ClassMetrics.Value.Basic
import ClassMetrics.Value.Json
import ClassMetrics.Violation
