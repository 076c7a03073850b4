import RestQuery.Cli.Args
import RestQuery.Cli.Log
import RestQuery.Cli.Session
import RestQuery.Cli.Workdir
import RestQuery.Filter.Clause
import RestQuery.Filter.Token
import RestQuery.GroupList
import RestQuery.Json.Decode
import RestQuery.Json.Document
import RestQuery.Json.Error
import RestQuery.Json.Reader
import RestQuery.Json.Shape
import RestQuery.Json.Value
import RestQuery.Main
import RestQuery.Naming
import RestQuery.Number.Arithmetic
import RestQuery.Number.Binary64
import RestQuery.Number.Literal
import RestQuery.Number.Shortest
import RestQuery.Plan.Filter
import RestQuery.Plan.IncludeTree
import RestQuery.Plan.Json
import RestQuery.Plan.Query
import RestQuery.Reference
import RestQuery.Request.Aggregate
import RestQuery.Request.Build
import RestQuery.Request.Ordering
import RestQuery.Request.Pagination
import RestQuery.Request.Params
import RestQuery.Request.Path
import RestQuery.Request.Projection
import RestQuery.Request.Translate
import RestQuery.Request.Where
import RestQuery.RequestError
import RestQuery.Schema.Access
import RestQuery.Schema.Config
import RestQuery.Schema.ConfigFile
import RestQuery.Schema.Model
import RestQuery.Sql.Compile
import RestQuery.Sql.Render
import RestQuery.Sql.Syntax
import RestQuery.Sql.Value
import RestQuery.Text.Blank
import RestQuery.Text.Case.Lower
import RestQuery.Text.Case.Run
import RestQuery.Text.Case.Upper
import RestQuery.Text.FormUrl
import RestQuery.Text.Quoted
import RestQuery.Text.Similarity
import RestQuery.Text.Split
import RestQuery.Text.Utf8
import RestQuery.Proofs.TreeShape
import RestQuery.Proofs.BuildTriple
import RestQuery.Proofs.Resolve
import RestQuery.Proofs.Parameters
import RestQuery.Proofs.Translation
import RestQuery.Proofs.CompiledShape
import RestQuery.Proofs.TableAliases
import RestQuery.Proofs.RequestText
import RestQuery.Proofs.CompileErrors
import RestQuery.Proofs.Window
import RestQuery.Proofs.DroppedFilter
import RestQuery.Proofs.FilterGrammar
import RestQuery.Proofs.InRewrite
import RestQuery.Proofs.PathWalk
import RestQuery.Proofs.DistinctAliases
import RestQuery.Proofs.CompiledWindow
import RestQuery.Proofs.InBounds
import RestQuery.Proofs.FilterGroups
import RestQuery.Proofs.ConditionOutcome
import RestQuery.Proofs.TokenLayout
import RestQuery.Proofs.FailedParse
import RestQuery.Proofs.Registry
import RestQuery.Proofs.Projection
import RestQuery.Proofs.SelectedColumns
import RestQuery.Proofs.Evaluation
import RestQuery.Proofs.RowCount
import RestQuery.Proofs.OperandBinding
import RestQuery.Proofs.Authorization
import RestQuery.Proofs.FaultPosition
import RestQuery.Proofs.IncludeJson
import RestQuery.Proofs.ColumnNames
import RestQuery.Proofs.RequestLines
import RestQuery.Proofs.BuiltTrees
