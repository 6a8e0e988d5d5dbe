import TableLake.Text.Blank
import TableLake.Text.Integer
import TableLake.Text.Numeral
import TableLake.Text.Quoted
import TableLake.Text.Split
import TableLake.Text.Unprintable
import TableLake.Text.Width
import TableLake.Number.Double
import TableLake.Number.Shortest
import TableLake.OrderedMap
import TableLake.Column.Cast
import TableLake.Batch
import TableLake.Schema.Change
import TableLake.Table
import TableLake.Catalog
import TableLake.Store
import TableLake.Namespace
import TableLake.Procedure
import TableLake.Procedure.Binding
import TableLake.Loader
import TableLake.Action
import TableLake.Mount
import TableLake.Call
import TableLake.Session
import TableLake.Session.Statement
import TableLake.Grid
import TableLake.Document
import TableLake.CommandLine
import TableLake.Main
import TableLake.Proofs.Outcome
import TableLake.Proofs.OrderedMap
import TableLake.Proofs.Signature
import TableLake.Proofs.Binding
import TableLake.Proofs.Resolution
import TableLake.Proofs.CatalogEntry
import TableLake.Proofs.EntryStep
import TableLake.Proofs.StoreOutcome
import TableLake.Proofs.Operation
import TableLake.Proofs.Lineage
import TableLake.Proofs.History
import TableLake.Proofs.Permanence
import TableLake.Proofs.Refusal
import TableLake.Proofs.HostRun
import TableLake.Proofs.SchemaKeys
import TableLake.Proofs.TimeTravel
import TableLake.Proofs.ColumnNames
import TableLake.Proofs.Alignment
import TableLake.Proofs.ColumnRename
import TableLake.Proofs.RunRecord
import TableLake.Proofs.Scan
import TableLake.Proofs.ColumnStep
import TableLake.Proofs.UntouchedColumns
import TableLake.Proofs.CommitLog
import TableLake.Proofs.ColumnOrigin
import TableLake.Proofs.Readability
import TableLake.Proofs.RollbackTravel
import TableLake.Proofs.WrittenColumns
import TableLake.Proofs.MarkerBinding
import TableLake.Proofs.ProcedureEffect
import TableLake.Proofs.CallEffect
import TableLake.Proofs.CommitTime
import TableLake.Proofs.InstantTravel
import TableLake.Proofs.Isolation
import TableLake.Proofs.MountOutcome
import TableLake.Proofs.SchemaDrop
import TableLake.Proofs.CombinedSchema
import TableLake.Proofs.Trimming
import TableLake.Proofs.CompactionWords
import TableLake.Proofs.SharedStores
import TableLake.Proofs.RegisterAmid
import TableLake.Proofs.KeyLedger
import TableLake.Proofs.BindingFault
import TableLake.Proofs.CallingStyle
import TableLake.Proofs.ChangeList
import TableLake.Proofs.ColumnPlace
import TableLake.Proofs.UndoneChange
import TableLake.Proofs.ColumnFault
import TableLake.Proofs.CompactionReads
import TableLake.Proofs.RollbackAlgebra
import TableLake.Proofs.NestedPath
import TableLake.Proofs.Registration
import TableLake.Proofs.WrittenRequest
import TableLake.Proofs.SolidParts
import TableLake.Proofs.WholeTable
import TableLake.Proofs.SortColumns
import TableLake.Proofs.TableName
import TableLake.Proofs.TagName
import TableLake.Proofs.VersionNumber
import TableLake.Proofs.Placement
import TableLake.Proofs.CallName
import TableLake.Proofs.CatalogFault
import TableLake.Proofs.HostWords
import TableLake.Proofs.TableComment
import TableLake.Proofs.NumeralSyntax
import TableLake.Proofs.ArgumentGrammar
