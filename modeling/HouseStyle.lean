import HouseStyle.Artifact
import HouseStyle.Candidate
import HouseStyle.Classifier
import HouseStyle.CommandLine
import HouseStyle.Convention.BackingField
import HouseStyle.Convention.Basic
import HouseStyle.Convention.Directives
import HouseStyle.Convention.FieldNaming
import HouseStyle.Convention.MemberAccess
import HouseStyle.Convention.Rule
import HouseStyle.Declaration
import HouseStyle.Disk
import HouseStyle.EditorConfig.File
import HouseStyle.EditorConfig.Lookup
import HouseStyle.Engine
import HouseStyle.Exclusion
import HouseStyle.Failure
import HouseStyle.Generated
import HouseStyle.Glob.Marked
import HouseStyle.Glob.Matching
import HouseStyle.Glob.Nesting
import HouseStyle.Glob.Reading
import HouseStyle.Glob.Token
import HouseStyle.Json.Basic
import HouseStyle.Json.Printer
import HouseStyle.Main
import HouseStyle.Member.Basic
import HouseStyle.Member.Table
import HouseStyle.Modifier
import HouseStyle.Outcome.Json
import HouseStyle.Path
import HouseStyle.Pool.Basic
import HouseStyle.Pool.Session
import HouseStyle.Preference
import HouseStyle.Reference
import HouseStyle.Report
import HouseStyle.Scope
import HouseStyle.Search
import HouseStyle.Syntax.Kind
import HouseStyle.Syntax.Node
import HouseStyle.Syntax.Site
import HouseStyle.Syntax.Traversal
import HouseStyle.Syntax.Tree
import HouseStyle.Tally
import HouseStyle.Text.Blank
import HouseStyle.Text.Case
import HouseStyle.Text.Hidden
import HouseStyle.Text.Quoted
import HouseStyle.Text.Slice
import HouseStyle.Text.Split
import HouseStyle.Trees.Basic
import HouseStyle.Trees.Source
import HouseStyle.Trees.Stored
import HouseStyle.Verdict
import HouseStyle.Workspace
import HouseStyle.Proofs.Evidence
import HouseStyle.Proofs.Syntax.Preorder
import HouseStyle.Proofs.Syntax.Searches
import HouseStyle.Proofs.Declaration.Names
import HouseStyle.Proofs.Declaration.Modifiers
import HouseStyle.Proofs.Scope.Shadowing
import HouseStyle.Proofs.Member.Cache
import HouseStyle.Proofs.Classifier.Locality
import HouseStyle.Proofs.Convention.Locality
import HouseStyle.Proofs.Convention.Qualification
import HouseStyle.Proofs.Candidate.Rank
import HouseStyle.Proofs.Search.Settling
import HouseStyle.Proofs.Search.Nearest
import HouseStyle.Proofs.Search.Keeping
import HouseStyle.Proofs.Search.Renumbering
import HouseStyle.Proofs.Engine.History
import HouseStyle.Proofs.Member.Requests
import HouseStyle.Proofs.Pool.Isolation
import HouseStyle.Proofs.Text.Cutting
import HouseStyle.Proofs.EditorConfig.Grammar
import HouseStyle.Proofs.Path.Parents
import HouseStyle.Proofs.EditorConfig.Survey
import HouseStyle.Proofs.EditorConfig.Precedence
import HouseStyle.Proofs.Search.Irrelevance
import HouseStyle.Proofs.EditorConfig.Reach
import HouseStyle.Proofs.EditorConfig.Freezing
import HouseStyle.Proofs.Engine.Snapshot
import HouseStyle.Proofs.Search.Cancellation
import HouseStyle.Proofs.Engine.Configuration
import HouseStyle.Proofs.Scope.PatternVariables
import HouseStyle.Proofs.Scope.Deconstruction
import HouseStyle.Proofs.Convention.Exclusivity
import HouseStyle.Proofs.Declaration.Arguments
import HouseStyle.Proofs.Member.Denotation
import HouseStyle.Proofs.Text.BlankLines
import HouseStyle.Proofs.Convention.Adjacency
import HouseStyle.Proofs.Scope.Comments
import HouseStyle.Proofs.Convention.Comments
import HouseStyle.Proofs.Convention.FieldNames
import HouseStyle.Proofs.Convention.Placement
import HouseStyle.Proofs.Candidate.Order
import HouseStyle.Proofs.Text.Lines
import HouseStyle.Proofs.EditorConfig.Acceptance
import HouseStyle.Proofs.Generated.Header
import HouseStyle.Proofs.Generated.Marks
import HouseStyle.Proofs.Text.Bytes
import HouseStyle.Proofs.Glob.Meaning
import HouseStyle.Proofs.Glob.Signs
import HouseStyle.Proofs.Glob.NamePatterns
import HouseStyle.Proofs.Glob.Stems
import HouseStyle.Proofs.Exclusion.Usual
import HouseStyle.Proofs.EditorConfig.FileNames
import HouseStyle.Proofs.Disk.Tree
import HouseStyle.Proofs.Workspace.Walk
import HouseStyle.Proofs.Workspace.Loading
import HouseStyle.Proofs.Artifact.NormalForm
import HouseStyle.Proofs.Disk.Spelling
import HouseStyle.Proofs.Workspace.Spelling
import HouseStyle.Proofs.Engine.Failures
import HouseStyle.Proofs.Workspace.RootName
import HouseStyle.Proofs.Json.Unambiguous
import HouseStyle.Proofs.Report.Lossless
import HouseStyle.Proofs.Classifier.Offers
import HouseStyle.Proofs.Scope.Searching
import HouseStyle.Proofs.Tally.Summary
import HouseStyle.Proofs.Trees.Materialization
import HouseStyle.Proofs.Text.Slices
import HouseStyle.Proofs.Convention.Gaps
