import Polystore.Condition.Meaning
import Polystore.Engine
import Polystore.Writer.Interruption
import Polystore.Proofs.Json.Text
import Polystore.Proofs.Cluster.Connection
import Polystore.Proofs.Cluster.Online
import Polystore.Proofs.Filter.Operators
import Polystore.Proofs.Json.Apart
import Polystore.Proofs.Json.Order
import Polystore.Proofs.Query.Pages
import Polystore.Proofs.Sorting
import Polystore.Proofs.Store.Client
import Polystore.Proofs.Store.Cursor
import Polystore.Proofs.Store.Paging
import Polystore.Proofs.Store.Recorded
import Polystore.Proofs.Store.Sharding
import Polystore.Proofs.Writer.Durability
import Polystore.Proofs.Cluster.Commit
import Polystore.Proofs.Filter.Cache
import Polystore.Proofs.Store.Moves
import Polystore.Proofs.Store.Walks
import Polystore.Proofs.Store.Rollback
import Polystore.Proofs.Double.Shortest
import Polystore.Proofs.Double.Text
import Polystore.Proofs.Query.Signature
import Polystore.Proofs.Store.Uncached
import Polystore.Proofs.Filter.Cursor
import Polystore.Proofs.Disk.Writable
import Polystore.Proofs.Disk.Removal
import Polystore.Proofs.Store.Collections
import Polystore.Proofs.Json.Reading
import Polystore.Proofs.Cluster.Shared
import Polystore.Proofs.Store.OneMap
import Polystore.Proofs.Store.Written
import Polystore.Proofs.Store.Interchange
import Polystore.Proofs.Writer.Batches
import Polystore.Proofs.Writer.Files
import Polystore.Proofs.Memory.Sharding
import Polystore.Proofs.Connection.Credentials
import Polystore.Proofs.Cluster.Drops
import Polystore.Proofs.Cluster.Homes
import Polystore.Proofs.Store.Occurrences
import Polystore.Proofs.Writer.Independence
import Polystore.Proofs.Writer.Accounts
import Polystore.Proofs.Pool.Selections
import Polystore.Proofs.Query.Boundaries
import Polystore.Proofs.Writer.Bulk
import Polystore.Proofs.Filter.Recency
import Polystore.Proofs.Transaction.History
import Polystore.Proofs.Transaction.Fate
import Polystore.Proofs.Connection.Grammar
import Polystore.Proofs.Memory.Counters
import Polystore.Proofs.Connection.Security
import Polystore.Proofs.Store.Listing
import Polystore.Proofs.Memory.Wildcards
import Polystore.Proofs.Memory.Readers
import Polystore.Proofs.Store.Distinct
import Polystore.Proofs.Json.Integers
import Polystore.Proofs.Disk.Containment
import Polystore.Proofs.Disk.Resolution
import Polystore.Proofs.Pool.Construction
