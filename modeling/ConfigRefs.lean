import ConfigRefs.CommandLine.Request
import ConfigRefs.CommandLine.Run
import ConfigRefs.CommandLine.Token
import ConfigRefs.Configuration.Documents
import ConfigRefs.Configuration.FileSystem
import ConfigRefs.Configuration.Loading
import ConfigRefs.Declaration.Index
import ConfigRefs.Declaration.Kind
import ConfigRefs.Declaration.PathTree
import ConfigRefs.Declaration.Scope
import ConfigRefs.Entries
import ConfigRefs.Expr.Assembly
import ConfigRefs.Expr.Basic
import ConfigRefs.Expr.OfReference
import ConfigRefs.Hcl.Body
import ConfigRefs.Hcl.BodyReader
import ConfigRefs.Hcl.Expression
import ConfigRefs.Hcl.ExpressionReader
import ConfigRefs.Hcl.Lexical
import ConfigRefs.Hcl.Scanner
import ConfigRefs.Hcl.Template
import ConfigRefs.Hcl.Transcript
import ConfigRefs.Interpolation.Body
import ConfigRefs.Interpolation.Nesting
import ConfigRefs.Json.Quoted
import ConfigRefs.Json.Reader
import ConfigRefs.Json.Writer
import ConfigRefs.Main
import ConfigRefs.Number.Basic
import ConfigRefs.Number.Binary
import ConfigRefs.Number.Numeral
import ConfigRefs.Number.Shortest
import ConfigRefs.Proofs.Checked.Access
import ConfigRefs.Proofs.Checked.Assembly
import ConfigRefs.Proofs.Checked.Comprehension
import ConfigRefs.Proofs.Checked.Documents
import ConfigRefs.Proofs.Checked.Interpolation
import ConfigRefs.Proofs.Checked.Reference
import ConfigRefs.Proofs.Checked.Token
import ConfigRefs.Proofs.Checked.Traversal
import ConfigRefs.Proofs.Configuration.Latest
import ConfigRefs.Proofs.Configuration.LoadOrder
import ConfigRefs.Proofs.Configuration.Loading
import ConfigRefs.Proofs.Configuration.Naming
import ConfigRefs.Proofs.Configuration.Wrapping
import ConfigRefs.Proofs.Declaration.Growth
import ConfigRefs.Proofs.Declaration.Index
import ConfigRefs.Proofs.Declaration.Lookup
import ConfigRefs.Proofs.Declaration.Matching
import ConfigRefs.Proofs.Declaration.Run
import ConfigRefs.Proofs.Declaration.Scope
import ConfigRefs.Proofs.Entries
import ConfigRefs.Proofs.Expr.Coverage
import ConfigRefs.Proofs.Expr.Name
import ConfigRefs.Proofs.Expr.Output
import ConfigRefs.Proofs.Expr.ReadBack
import ConfigRefs.Proofs.Expr.Restore
import ConfigRefs.Proofs.Interpolation.Balance
import ConfigRefs.Proofs.Interpolation.Insertion
import ConfigRefs.Proofs.Interpolation.Locality
import ConfigRefs.Proofs.Interpolation.Nesting
import ConfigRefs.Proofs.Interpolation.Partition
import ConfigRefs.Proofs.Interpolation.Place
import ConfigRefs.Proofs.Interpolation.Quoted
import ConfigRefs.Proofs.Reference.Formatting
import ConfigRefs.Proofs.Reference.Growth
import ConfigRefs.Proofs.Reference.Identifier
import ConfigRefs.Proofs.Reference.Matching
import ConfigRefs.Proofs.Reference.Path
import ConfigRefs.Proofs.Reference.Place
import ConfigRefs.Proofs.Reference.Resolution
import ConfigRefs.Proofs.Reference.Spelling
import ConfigRefs.Proofs.Results
import ConfigRefs.Proofs.Text.CamelCase
import ConfigRefs.Proofs.Text.Dotted
import ConfigRefs.Proofs.Text.Encoding
import ConfigRefs.Proofs.Text.Letters
import ConfigRefs.Proofs.Text.Place
import ConfigRefs.Proofs.Text.Spelling
import ConfigRefs.Proofs.Text.Word
import ConfigRefs.Proofs.Token.Coverage
import ConfigRefs.Proofs.Token.Nesting
import ConfigRefs.Proofs.Token.Path
import ConfigRefs.Proofs.Token.Place
import ConfigRefs.Proofs.Token.Quoted
import ConfigRefs.Proofs.Token.Seam
import ConfigRefs.Proofs.Token.Spelling
import ConfigRefs.Proofs.Traversal.Chain
import ConfigRefs.Proofs.Traversal.Collection
import ConfigRefs.Proofs.Traversal.Division
import ConfigRefs.Proofs.Traversal.Group
import ConfigRefs.Proofs.Traversal.Insertion
import ConfigRefs.Proofs.Traversal.Locality
import ConfigRefs.Proofs.Traversal.Name
import ConfigRefs.Proofs.Traversal.Path
import ConfigRefs.Proofs.Traversal.Place
import ConfigRefs.Proofs.Traversal.SetAside
import ConfigRefs.Proofs.Traversal.Spelling
import ConfigRefs.Proofs.Value.Address
import ConfigRefs.Proofs.Value.Calls
import ConfigRefs.Proofs.Value.Discovery
import ConfigRefs.Proofs.Value.Encoding
import ConfigRefs.Proofs.Value.Failure
import ConfigRefs.Proofs.Value.Leaves
import ConfigRefs.Proofs.Value.LoopScope
import ConfigRefs.Proofs.Value.LoopVariable
import ConfigRefs.Proofs.Value.Placement
import ConfigRefs.Proofs.Value.References
import ConfigRefs.Reference.Basic
import ConfigRefs.Reference.Resolution
import ConfigRefs.Report.Data
import ConfigRefs.Text.Bytes
import ConfigRefs.Text.CamelCase
import ConfigRefs.Text.CharClass
import ConfigRefs.Text.CodeRanges
import ConfigRefs.Text.Diagnostic
import ConfigRefs.Text.Dotted
import ConfigRefs.Text.Hexadecimal
import ConfigRefs.Text.LetterCase
import ConfigRefs.Text.Property.Alphabetic
import ConfigRefs.Text.Property.CaseIgnorable
import ConfigRefs.Text.Property.GraphemeExtend
import ConfigRefs.Text.Property.LetterCase
import ConfigRefs.Text.Property.Numeric
import ConfigRefs.Text.Property.Unprintable
import ConfigRefs.Text.Reader
import ConfigRefs.Token.Basic
import ConfigRefs.Token.Lexer
import ConfigRefs.Traversal.Basic
import ConfigRefs.Traversal.Comprehension
import ConfigRefs.Value.Basic
import ConfigRefs.Value.DynamicBlock
import ConfigRefs.Value.Walk
import ConfigRefs.Yaml.Scalar
import ConfigRefs.Yaml.Writer
