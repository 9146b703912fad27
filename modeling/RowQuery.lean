import RowQuery.Main
import RowQuery.Source.Memory
import RowQuery.Proofs.Cache
import RowQuery.Proofs.CompoundMode
import RowQuery.Proofs.Depth
import RowQuery.Proofs.Description
import RowQuery.Proofs.Digits
import RowQuery.Proofs.Failure
import RowQuery.Proofs.Frame
import RowQuery.Proofs.GroupBy
import RowQuery.Proofs.Having
import RowQuery.Proofs.Identity
import RowQuery.Proofs.Index.Transparent
import RowQuery.Proofs.JoinChain
import RowQuery.Proofs.JoinKinds
import RowQuery.Proofs.Json.Lines
import RowQuery.Proofs.NoNaN
import RowQuery.Proofs.Number.Exact
import RowQuery.Proofs.OrderBy
import RowQuery.Proofs.Population
import RowQuery.Proofs.Representation
import RowQuery.Proofs.SelectList
import RowQuery.Proofs.SetOperation
import RowQuery.Proofs.Spelling
import RowQuery.Proofs.Statement.ColumnName
import RowQuery.Proofs.Statement.Faithful
import RowQuery.Proofs.Statement.Layout
import RowQuery.Proofs.TableExpression
import RowQuery.Proofs.Token.Cover
import RowQuery.Proofs.Extremes
import RowQuery.Proofs.Window.PartitionKey
import RowQuery.Proofs.Window.RowNumber
import RowQuery.Proofs.Window.SortKey
import RowQuery.Proofs.Total
import RowQuery.Proofs.Window
import RowQuery.Proofs.Merge
import RowQuery.Proofs.Schema
import RowQuery.Proofs.Statement.Negation
