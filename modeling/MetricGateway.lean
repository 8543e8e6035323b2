import MetricGateway.Bytes
import MetricGateway.CommandLine.Option
import MetricGateway.CommandLine.Reading
import MetricGateway.Config.Basic
import MetricGateway.Config.Error
import MetricGateway.Config.Producer
import MetricGateway.Config.Reading
import MetricGateway.Config.Rendering
import MetricGateway.Config.Settings
import MetricGateway.Digest.Fnv
import MetricGateway.Digest.Md5
import MetricGateway.Gateway.Announcement
import MetricGateway.Gateway.Program
import MetricGateway.Log.Event
import MetricGateway.Log.Filter
import MetricGateway.Log.Format
import MetricGateway.Log.Level
import MetricGateway.Main
import MetricGateway.Metric
import MetricGateway.Novelty.Age
import MetricGateway.Novelty.CacheConfig
import MetricGateway.Novelty.KeyCache
import MetricGateway.Novelty.OrgCache
import MetricGateway.Novelty.Shard
import MetricGateway.Number.Binary64
import MetricGateway.Number.Decimal
import MetricGateway.Number.Natural
import MetricGateway.Organization
import MetricGateway.Pattern.Automaton
import MetricGateway.Pattern.Basic
import MetricGateway.Pattern.Bracket
import MetricGateway.Pattern.Escape
import MetricGateway.Pattern.Expr
import MetricGateway.Pattern.PropertyName
import MetricGateway.Pattern.Reader
import MetricGateway.Pattern.Regular
import MetricGateway.Plaintext.Intake
import MetricGateway.Plaintext.Line
import MetricGateway.Publish.Buffer
import MetricGateway.Publish.Error
import MetricGateway.Publish.Event
import MetricGateway.Publish.Publisher
import MetricGateway.Routing.Broker
import MetricGateway.Routing.Partitioner
import MetricGateway.Series
import MetricGateway.Stats.Address
import MetricGateway.Stats.Measurement
import MetricGateway.Storage.Retention
import MetricGateway.Storage.Schema
import MetricGateway.Text.Blank
import MetricGateway.Text.CharSet
import MetricGateway.Text.Outline
import MetricGateway.Text.Quoted
import MetricGateway.Text.Scan
import MetricGateway.Text.Split
import MetricGateway.Text.Unicode.Category
import MetricGateway.Text.Unicode.Folding
import MetricGateway.Text.Unicode.Property
import MetricGateway.Text.Unicode.Script
import MetricGateway.Time
import MetricGateway.Wire.Message
import MetricGateway.Wire.MessagePack
import MetricGateway.Wire.Point
import MetricGateway.Yaml.Character
import MetricGateway.Yaml.Cursor
import MetricGateway.Yaml.Decode
import MetricGateway.Yaml.Error
import MetricGateway.Yaml.Node
import MetricGateway.Yaml.Printer
import MetricGateway.Yaml.Property
import MetricGateway.Yaml.Scalar
import MetricGateway.Yaml.Token
import MetricGateway.Proofs.Bytes
import MetricGateway.Proofs.Novelty.Cache
import MetricGateway.Proofs.Novelty.Known
import MetricGateway.Proofs.Novelty.Sighting
import MetricGateway.Proofs.Novelty.Slot
import MetricGateway.Proofs.Novelty.Window
import MetricGateway.Proofs.Publish.Batch
import MetricGateway.Proofs.Publish.Description
import MetricGateway.Proofs.Publish.Encoding
import MetricGateway.Proofs.Publish.Exchange
import MetricGateway.Proofs.Publish.Routing
import MetricGateway.Proofs.Publish.Settlement
import MetricGateway.Proofs.Tags
import MetricGateway.Proofs.Novelty.Moment
import MetricGateway.Proofs.Publish.Choices
import MetricGateway.Proofs.Novelty.Freshness
import MetricGateway.Proofs.Publish.Retry
import MetricGateway.Proofs.Publish.Validity
import MetricGateway.Proofs.Publish.Pools
import MetricGateway.Proofs.Publish.Window
import MetricGateway.Proofs.Novelty.Threads
import MetricGateway.Proofs.Novelty.Races
import MetricGateway.Proofs.Publish.Calls
import MetricGateway.Proofs.Publish.Overlap
import MetricGateway.Proofs.Novelty.Exactness
import MetricGateway.Proofs.Novelty.Isolation
import MetricGateway.Proofs.Plaintext.Batching
import MetricGateway.Proofs.Wire.Field
import MetricGateway.Proofs.Wire.Grammar
import MetricGateway.Proofs.Wire.Message
import MetricGateway.Proofs.Wire.Point
import MetricGateway.Proofs.Publish.Attribution
import MetricGateway.Proofs.Wire.Recognition
import MetricGateway.Proofs.Novelty.Order
import MetricGateway.Proofs.Publish.Order
import MetricGateway.Proofs.Number.Order
import MetricGateway.Proofs.Result
import MetricGateway.Proofs.Storage.Schema
import MetricGateway.Proofs.Config.Validation
import MetricGateway.Proofs.Plaintext.Identity
import MetricGateway.Proofs.Novelty.Count
import MetricGateway.Proofs.Novelty.Callers
import MetricGateway.Proofs.Publish.Reports
import MetricGateway.Proofs.Novelty.Pruning
import MetricGateway.Proofs.Novelty.Prunes
import MetricGateway.Proofs.Novelty.Lateness
import MetricGateway.Proofs.Identity
import MetricGateway.Proofs.Routing.Partitioner
import MetricGateway.Proofs.Text.Blank
import MetricGateway.Proofs.Number.Natural
import MetricGateway.Proofs.Number.Word
import MetricGateway.Proofs.Series.Spelling
import MetricGateway.Proofs.Storage.Retention
import MetricGateway.Proofs.Storage.Matching
import MetricGateway.Proofs.Plaintext.Line
import MetricGateway.Proofs.Routing.PartitionCount
import MetricGateway.Proofs.Publish.Normalization
import MetricGateway.Proofs.Plaintext.Spelling
