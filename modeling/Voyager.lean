import Voyager.Optimizer.FoldSound
import Voyager.Session.BulkCreate
import Voyager.Session.AsyncFlush
import Voyager.Session.AtMostOnce
import Voyager.Postgres.AgeDelivery
import Voyager.Postgres.Agtype
import Voyager.Postgres.DecodeSafety
import Voyager.Optimizer.PushdownStatement
import Voyager.Bridge.Positional
import Voyager.Bolt.DecodeSafety
import Voyager.Bolt.Framing
import Voyager.Postgres.ResultSets
import Voyager.Redis.Pairing
import Voyager.Bolt.Pairing
import Voyager.Net.PoolClose
import Voyager.Net.CircuitHistory
import Voyager.Net.CircuitProbes
import Voyager.Redis.Columns
import Voyager.Postgres.Columns
import Voyager.Redis.Segmentation
import Voyager.Transaction.Savepoints
import Voyager.Cache.LeastRecent
import Voyager.Net.Uri
import Voyager.Python.Transparency
import Voyager.Builder.Predicates
import Voyager.Builder.Contents
import Voyager.Builder.Imported
import Voyager.Emit.WherePlaces
import Voyager.Builder.Order
import Voyager.Redis.Transaction
import Voyager.Optimizer.DynamicSums
import Voyager.Redis.Params
import Voyager.Schema.CreateDrop
import Voyager.Schema.PropertyGraph
import Voyager.Schema.IndexNames
import Voyager.Topology.GraphTable
import Voyager.Bolt.Duration
import Voyager.Bolt.DateTime
import Voyager.Emit.Like
import Voyager.Emit.PgqColumns
import Voyager.Builder.LabelSafety
import Voyager.Emit.Upsert
import Voyager.Hybrid.Traversal
