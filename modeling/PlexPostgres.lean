import PlexPostgres.Bind.Bindings
import PlexPostgres.Bind.Destructors
import PlexPostgres.Bind.Shadow
import PlexPostgres.Cache.Integrity
import PlexPostgres.Cache.Statements
import PlexPostgres.Column.Current
import PlexPostgres.Column.DeclTypes
import PlexPostgres.Column.Whole
import PlexPostgres.Conn.Prepared
import PlexPostgres.Conn.Recency
import PlexPostgres.Conn.Settings
import PlexPostgres.Exec.Budget
import PlexPostgres.Exec.Isolation
import PlexPostgres.Pool.Fork
import PlexPostgres.Pool.Lifetime
import PlexPostgres.Pool.RetryRuns
import PlexPostgres.Pool.Sharing
import PlexPostgres.Preprocess.Hoist
import PlexPostgres.Routing.Guides
import PlexPostgres.Routing.Literals
import PlexPostgres.Routing.Registration
import PlexPostgres.Routing.Transactions
import PlexPostgres.Step.AtMostOnce
import PlexPostgres.Step.Atomicity
import PlexPostgres.Step.Rows
import PlexPostgres.Translate.Distinct
import PlexPostgres.Translate.EmptyIn
import PlexPostgres.Translate.Functions
import PlexPostgres.Translate.Like
import PlexPostgres.Translate.NullTests
import PlexPostgres.Translate.TransactionControl
import PlexPostgres.Translate.Upsert
import PlexPostgres.Txn.Agreement
import PlexPostgres.Txn.Nesting
