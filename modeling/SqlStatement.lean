import SqlStatement.Server.Scripted
import SqlStatement.Session.Step
import SqlStatement.Proofs.Sql.JoinedRows
import SqlStatement.Proofs.Sql.Structure
import SqlStatement.Proofs.Session.EscapeModes
import SqlStatement.Proofs.Statement.SequentialBatch
import SqlStatement.Proofs.Session.Watched
import SqlStatement.Proofs.Server.History
import SqlStatement.Proofs.Statement.WellFormed
import SqlStatement.Proofs.Session.WellFormed
import SqlStatement.Proofs.Statement.Failing
import SqlStatement.Proofs.Session.Failing
import SqlStatement.Proofs.Session.LongData
import SqlStatement.Proofs.Sql.FurtherRows
import SqlStatement.Proofs.Session.EditHistory
import SqlStatement.Proofs.Statement.Interruption
import SqlStatement.Proofs.Server.Offers
import SqlStatement.Proofs.Statement.BatchStrategy
import SqlStatement.Proofs.Session.Locks
import SqlStatement.Proofs.Session.Outcome
import SqlStatement.Proofs.Pools
import SqlStatement.Proofs.Session.Closing
import SqlStatement.Proofs.Sql.Grammar
import SqlStatement.Proofs.Statement.Discovery
import SqlStatement.Proofs.Session.Discovery
import SqlStatement.Proofs.Session.Parameters
import SqlStatement.Proofs.Value.Spelling
import SqlStatement.Proofs.Sql.Cutting
import SqlStatement.Proofs.Sql.Lexing
import SqlStatement.Proofs.Sql.SingleRow
import SqlStatement.Proofs.Sql.Groups
import SqlStatement.Proofs.Sql.RowsApart
import SqlStatement.Proofs.Sql.PlainInserts
import SqlStatement.Proofs.Statement.BatchOfOne
import SqlStatement.Proofs.Statement.TimeLimit
import SqlStatement.Proofs.Session.ProbeFailures
import SqlStatement.Proofs.Columns
import SqlStatement.Proofs.Results
import SqlStatement.Proofs.Server.InsertIds
import SqlStatement.Proofs.Session.InsertIds
import SqlStatement.Proofs.Statement.NarrowCounts
