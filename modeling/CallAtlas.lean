import CallAtlas.CallGraph
import CallAtlas.Callable
import CallAtlas.CodeBase
import CallAtlas.Command.Arguments
import CallAtlas.Command.Execute
import CallAtlas.Command.Switch
import CallAtlas.Command.Usage
import CallAtlas.Documentation.Block
import CallAtlas.Documentation.Extract
import CallAtlas.Documentation.Margin
import CallAtlas.Documentation.Part
import CallAtlas.Documentation.Structure
import CallAtlas.Extent
import CallAtlas.Files.Digest
import CallAtlas.Files.Discovery
import CallAtlas.Files.FileName
import CallAtlas.Files.Note
import CallAtlas.Files.Path
import CallAtlas.Files.Tree
import CallAtlas.Log
import CallAtlas.Main
import CallAtlas.Markup.NameChar
import CallAtlas.Markup.Reader
import CallAtlas.Markup.Tree
import CallAtlas.Note.Render
import CallAtlas.Note.Section
import CallAtlas.Number.Amount
import CallAtlas.Number.Decimal
import CallAtlas.Number.Double
import CallAtlas.Number.Integer
import CallAtlas.Plan
import CallAtlas.Proofs.Answer
import CallAtlas.Proofs.CallGraph
import CallAtlas.Proofs.Gaps
import CallAtlas.Proofs.Order
import CallAtlas.Proofs.Survey
import CallAtlas.Referent
import CallAtlas.Run
import CallAtlas.Source.Codec
import CallAtlas.Source.CodecNames
import CallAtlas.Source.Definition
import CallAtlas.Source.Encoding
import CallAtlas.Source.Grammar.Basic
import CallAtlas.Source.Grammar.Expression
import CallAtlas.Source.Grammar.Pattern
import CallAtlas.Source.Grammar.Statement
import CallAtlas.Source.Lexer
import CallAtlas.Source.Literal
import CallAtlas.Source.Position
import CallAtlas.Source.Render
import CallAtlas.Source.Token
import CallAtlas.Source.Tree
import CallAtlas.Source.Walk
import CallAtlas.Survey
import CallAtlas.Terminal
import CallAtlas.Text.Blank
import CallAtlas.Text.Case
import CallAtlas.Text.CharacterName
import CallAtlas.Text.CharacterNameData
import CallAtlas.Text.Digit
import CallAtlas.Text.Identifier
import CallAtlas.Text.Normal
import CallAtlas.Text.NormalData
import CallAtlas.Text.Piece
import CallAtlas.Text.Printable
import CallAtlas.Text.Quoted
import CallAtlas.Text.Ranges
import CallAtlas.Text.Utf8
import CallAtlas.Text.Word
import CallAtlas.Workspace.Builtins
import CallAtlas.Workspace.Hierarchy
import CallAtlas.Workspace.Imports
import CallAtlas.Workspace.Index
import CallAtlas.Workspace.Load
import CallAtlas.Workspace.Lookup
import CallAtlas.Workspace.Resolve
import CallAtlas.Proofs.Links
import CallAtlas.Proofs.Discovery
import CallAtlas.Proofs.Declared
import CallAtlas.Proofs.Resolution
import CallAtlas.Proofs.WorkspaceSurvey
import CallAtlas.Proofs.Modes
import CallAtlas.Proofs.FileTree
import CallAtlas.Proofs.Paths
import CallAtlas.Proofs.Phases
import CallAtlas.Proofs.Reload
import CallAtlas.Proofs.Rerun
import CallAtlas.Proofs.GraphEdits
import CallAtlas.Proofs.Guesses
import CallAtlas.Proofs.Pool
import CallAtlas.Proofs.Enumeration
import CallAtlas.Proofs.WorkspaceUnits
import CallAtlas.Proofs.Receivers
import CallAtlas.Proofs.OwnMethods
import CallAtlas.Proofs.Spacing
import CallAtlas.Proofs.Extraction
import CallAtlas.Proofs.Reading
import CallAtlas.Proofs.Entries
import CallAtlas.Proofs.Conventions
import CallAtlas.Proofs.Tagged
import CallAtlas.Proofs.Dialects
import CallAtlas.Proofs.Merging
import CallAtlas.Proofs.Linearization
import CallAtlas.Proofs.ImportChains
import CallAtlas.Proofs.Spellings
import CallAtlas.Proofs.OrderTable
import CallAtlas.Proofs.ReExports
import CallAtlas.Proofs.Walks
import CallAtlas.Proofs.Grammar.Judgements
import CallAtlas.Proofs.Grammar.Targets
import CallAtlas.Proofs.Grammar.Expressions
import CallAtlas.Proofs.Grammar.Patterns
import CallAtlas.Proofs.Grammar.Places
import CallAtlas.Proofs.Grammar.Statements
import CallAtlas.Proofs.SourceOrder
import CallAtlas.Proofs.CandidateOrder
import CallAtlas.Proofs.Scopes
import CallAtlas.Proofs.Shadowing
import CallAtlas.Proofs.FreeText
import CallAtlas.Proofs.Indentation
import CallAtlas.Proofs.ParameterNames
import CallAtlas.Proofs.Addresses
import CallAtlas.Proofs.CallSites
import CallAtlas.Proofs.CallForms
import CallAtlas.Proofs.Loading
import CallAtlas.Proofs.Locality
import CallAtlas.Proofs.Finding
import CallAtlas.Proofs.PathsBelow
import CallAtlas.Proofs.ReadingBack
import CallAtlas.Proofs.CommandLines
import CallAtlas.Proofs.RelativeImports
import CallAtlas.Proofs.NestedPhases
import CallAtlas.Proofs.NoteNames
