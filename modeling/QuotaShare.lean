import QuotaShare.ByName
import QuotaShare.Cluster.Membership
import QuotaShare.Cluster.View
import QuotaShare.CommandLine
import QuotaShare.Decimal.Layout
import QuotaShare.Decimal.Numeral
import QuotaShare.Decimal.Shortest
import QuotaShare.Document.Format
import QuotaShare.Document.Json
import QuotaShare.Document.Layered
import QuotaShare.Document.LayeredFile
import QuotaShare.Document.Settings
import QuotaShare.Document.Yaml
import QuotaShare.Entity
import QuotaShare.Error
import QuotaShare.Event
import QuotaShare.HitCounter
import QuotaShare.Identifier
import QuotaShare.Json.Reader
import QuotaShare.Json.Value
import QuotaShare.Limiter
import QuotaShare.Loading
import QuotaShare.Log
import QuotaShare.Main
import QuotaShare.Manager.Admission
import QuotaShare.Manager.Basic
import QuotaShare.Manager.Builder
import QuotaShare.Manager.Pass
import QuotaShare.Manager.Registration
import QuotaShare.Manager.Watch
import QuotaShare.Network.Address
import QuotaShare.Registry
import QuotaShare.Scalar
import QuotaShare.Serving
import QuotaShare.Settings
import QuotaShare.Startup
import QuotaShare.Store
import QuotaShare.Table.Name
import QuotaShare.Table.Quota
import QuotaShare.Text.Blank
import QuotaShare.Text.Hidden
import QuotaShare.Text.Quoted
import QuotaShare.Time
import QuotaShare.Word
import QuotaShare.Yaml.Cursor
import QuotaShare.Yaml.Dialect
import QuotaShare.Yaml.Fault
import QuotaShare.Yaml.Node
import QuotaShare.Yaml.Node.Anchors
import QuotaShare.Yaml.Node.Reader
import QuotaShare.Yaml.Text.Block
import QuotaShare.Yaml.Text.Plain
import QuotaShare.Yaml.Text.Quoted
import QuotaShare.Yaml.Token
import QuotaShare.Yaml.Token.Lexer
import QuotaShare.Yaml.Token.Lexer.Basic
import QuotaShare.Yaml.Token.Name
import QuotaShare.Yaml.Typed
import QuotaShare.Proofs.Limiter.Run
import QuotaShare.Proofs.Limiter.Window
import QuotaShare.Proofs.Float.Packing
import QuotaShare.Proofs.Limiter.Bucket
import QuotaShare.Proofs.Float.Division
import QuotaShare.Proofs.Float.Share
import QuotaShare.Proofs.Manager.Tables
import QuotaShare.Proofs.Manager.Run
import QuotaShare.Proofs.Manager.Rate
import QuotaShare.Proofs.Manager.Convergence
import QuotaShare.Proofs.HitCounter.Count
import QuotaShare.Proofs.Manager.Isolation
import QuotaShare.Proofs.Manager.Effect
import QuotaShare.Proofs.Manager.Gate
import QuotaShare.Proofs.Limiter.Conformance
import QuotaShare.Proofs.Cluster.Budget
import QuotaShare.Proofs.Manager.Charging
import QuotaShare.Proofs.Manager.Provenance
import QuotaShare.Proofs.Limiter.Throughput
import QuotaShare.Proofs.Limiter.Tokens
import QuotaShare.Proofs.Limiter.Wait
import QuotaShare.Proofs.Float.Word
import QuotaShare.Proofs.Limiter.Start
import QuotaShare.Proofs.Manager.Registration
import QuotaShare.Proofs.Manager.Repetition
import QuotaShare.Proofs.Manager.Order
import QuotaShare.Proofs.Manager.Report
import QuotaShare.Proofs.Cluster.Succession
import QuotaShare.Proofs.Store.Log
import QuotaShare.Proofs.Cluster.Publication
import QuotaShare.Proofs.Table.Variants
import QuotaShare.Proofs.HitCounter.Late
import QuotaShare.Proofs.Float.Underflow
import QuotaShare.Proofs.Manager.Usable
import QuotaShare.Proofs.Manager.Building
import QuotaShare.Proofs.Document.Tables
