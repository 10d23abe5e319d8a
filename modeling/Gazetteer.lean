import Gazetteer.Disk
import Gazetteer.Disk.Index
import Gazetteer.Eligibility
import Gazetteer.Entry
import Gazetteer.Failure
import Gazetteer.Fault
import Gazetteer.Greeting
import Gazetteer.Ignore.Glob
import Gazetteer.Ignore.Rules
import Gazetteer.JavaScript.Grammar.Definition
import Gazetteer.JavaScript.Grammar.Expression
import Gazetteer.JavaScript.Grammar.Goal
import Gazetteer.JavaScript.Grammar.Lexeme
import Gazetteer.JavaScript.Grammar.Markup
import Gazetteer.JavaScript.Grammar.Pattern
import Gazetteer.JavaScript.Grammar.Statement
import Gazetteer.JavaScript.Symbols
import Gazetteer.Journal
import Gazetteer.Language
import Gazetteer.Language.Cabinet
import Gazetteer.Language.Parse
import Gazetteer.Listing
import Gazetteer.Machine
import Gazetteer.Naming
import Gazetteer.Outline
import Gazetteer.Path
import Gazetteer.Proofs.Clues
import Gazetteer.Proofs.Disk.Descent
import Gazetteer.Proofs.Disk.LinkFree
import Gazetteer.Proofs.Disk.Subtree
import Gazetteer.Proofs.Eligibility
import Gazetteer.Proofs.Ignore.Anchors
import Gazetteer.Proofs.Ignore.Globs
import Gazetteer.Proofs.Ignore.Pruning
import Gazetteer.Proofs.JavaScript.Exports
import Gazetteer.Proofs.JavaScript.Order
import Gazetteer.Proofs.JavaScript.Spans
import Gazetteer.Proofs.JavaScript.Variables
import Gazetteer.Proofs.Language.Cabinet
import Gazetteer.Proofs.Language.Functions
import Gazetteer.Proofs.Language.Holdings
import Gazetteer.Proofs.Language.Methods
import Gazetteer.Proofs.Language.Order
import Gazetteer.Proofs.Language.Owners
import Gazetteer.Proofs.Language.Positions
import Gazetteer.Proofs.Language.Quotes
import Gazetteer.Proofs.Language.TopLevel
import Gazetteer.Proofs.Listing.Counts
import Gazetteer.Proofs.Listing.Lines
import Gazetteer.Proofs.Naming
import Gazetteer.Proofs.Outline.Blocks
import Gazetteer.Proofs.Outline.Indentation
import Gazetteer.Proofs.Outline.Marks
import Gazetteer.Proofs.Outline.Notes
import Gazetteer.Proofs.Outline.Reading
import Gazetteer.Proofs.Path.Descent
import Gazetteer.Proofs.Path.Reduction
import Gazetteer.Proofs.Path.Relocation
import Gazetteer.Proofs.Path.Suffix
import Gazetteer.Proofs.Path.Top
import Gazetteer.Proofs.Python.Order
import Gazetteer.Proofs.Python.Spans
import Gazetteer.Proofs.Regex.Matches
import Gazetteer.Proofs.Regex.Notation
import Gazetteer.Proofs.Request.Attempt
import Gazetteer.Proofs.Request.Outcome
import Gazetteer.Proofs.Request.Patterns
import Gazetteer.Proofs.Request.RootGuard
import Gazetteer.Proofs.Request.Totals
import Gazetteer.Proofs.Service
import Gazetteer.Proofs.Significance
import Gazetteer.Proofs.Storage
import Gazetteer.Proofs.Survey.Agreement
import Gazetteer.Proofs.Survey.Difference
import Gazetteer.Proofs.Survey.Faults
import Gazetteer.Proofs.Survey.IgnoreFiles
import Gazetteer.Proofs.Survey.Independence
import Gazetteer.Proofs.Survey.Isolation
import Gazetteer.Proofs.Survey.Legibility
import Gazetteer.Proofs.Survey.Loops
import Gazetteer.Proofs.Survey.Record
import Gazetteer.Proofs.Survey.Relocation
import Gazetteer.Proofs.Survey.Rendering
import Gazetteer.Proofs.Survey.Tower
import Gazetteer.Proofs.Survey.Traversal
import Gazetteer.Proofs.Survey.Visibility
import Gazetteer.Proofs.Survey.Walk
import Gazetteer.Proofs.Syntax.Addresses
import Gazetteer.Proofs.Syntax.Bounds
import Gazetteer.Proofs.Syntax.Cut
import Gazetteer.Proofs.Syntax.Nesting
import Gazetteer.Proofs.Syntax.Nodes
import Gazetteer.Proofs.Syntax.Preorder
import Gazetteer.Proofs.Syntax.Search
import Gazetteer.Proofs.Syntax.Tops
import Gazetteer.Proofs.Tally
import Gazetteer.Proofs.Text.Blank
import Gazetteer.Proofs.Text.Encoding
import Gazetteer.Proofs.Text.Lines
import Gazetteer.Proofs.Text.OneLine
import Gazetteer.Proofs.Text.Replace
import Gazetteer.Proofs.Text.Utf8
import Gazetteer.Python.Grammar.Expression
import Gazetteer.Python.Grammar.Goal
import Gazetteer.Python.Grammar.Lexeme
import Gazetteer.Python.Grammar.Statement
import Gazetteer.Python.Grammar.Strings
import Gazetteer.Python.Symbols
import Gazetteer.Reading.Reader
import Gazetteer.Regex
import Gazetteer.Regex.Notation
import Gazetteer.Regex.Stars
import Gazetteer.Request
import Gazetteer.Service
import Gazetteer.Significance
import Gazetteer.Storage
import Gazetteer.Summary
import Gazetteer.Survey.Findings
import Gazetteer.Survey.Traversal
import Gazetteer.Survey.Visible
import Gazetteer.Syntax.Node
import Gazetteer.Syntax.Source
import Gazetteer.Tally
import Gazetteer.Text.Blank
import Gazetteer.Text.Cased
import Gazetteer.Text.CodePage
import Gazetteer.Text.Encoding
import Gazetteer.Text.Escaped
import Gazetteer.Text.LetterCase
import Gazetteer.Text.Lines
import Gazetteer.Text.Quoted
import Gazetteer.Text.Replace
import Gazetteer.Text.Unprintable
import Gazetteer.Text.Utf8
