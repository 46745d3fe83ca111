import RangeCatalog.Calendar.Date
import RangeCatalog.Calendar.Instant
import RangeCatalog.Calendar.Stamp
import RangeCatalog.Catalog.Baseline
import RangeCatalog.Catalog.Basic
import RangeCatalog.Catalog.Build
import RangeCatalog.Catalog.Difference
import RangeCatalog.Catalog.Stored
import RangeCatalog.Command.Basic
import RangeCatalog.Command.Check
import RangeCatalog.Command.Listing
import RangeCatalog.Command.Update
import RangeCatalog.CommandLine.Basic
import RangeCatalog.CommandLine.Reader
import RangeCatalog.CommandLine.Run
import RangeCatalog.CommandLine.Usage
import RangeCatalog.Decimal.Binary64
import RangeCatalog.Decimal.Shortest
import RangeCatalog.Digest.Sha256
import RangeCatalog.Extraction
import RangeCatalog.Failure
import RangeCatalog.Fetch.Allowance
import RangeCatalog.Fetch.Client
import RangeCatalog.Fetch.Error
import RangeCatalog.Fetch.Payload
import RangeCatalog.Fetch.Response
import RangeCatalog.Growth
import RangeCatalog.Host.Domain
import RangeCatalog.Host.Label
import RangeCatalog.Host.Punycode
import RangeCatalog.Json.Basic
import RangeCatalog.Json.Reader
import RangeCatalog.Json.Token
import RangeCatalog.Json.Writer
import RangeCatalog.Label
import RangeCatalog.Lock
import RangeCatalog.Main
import RangeCatalog.Network.Address
import RangeCatalog.Network.AddressText
import RangeCatalog.Network.Block
import RangeCatalog.Network.RangeSet
import RangeCatalog.Program
import RangeCatalog.Proofs.Calendar.Date
import RangeCatalog.Proofs.Calendar.Instant
import RangeCatalog.Proofs.Calendar.LeapSecond
import RangeCatalog.Proofs.Calendar.Marks
import RangeCatalog.Proofs.Calendar.Reading
import RangeCatalog.Proofs.Calendar.Rendering
import RangeCatalog.Proofs.Calendar.Shape
import RangeCatalog.Proofs.Calendar.Spelling
import RangeCatalog.Proofs.Calendar.Stamp
import RangeCatalog.Proofs.Catalog.Agreement
import RangeCatalog.Proofs.Catalog.Arrangement
import RangeCatalog.Proofs.Catalog.Build
import RangeCatalog.Proofs.Catalog.CheckedForm
import RangeCatalog.Proofs.Catalog.Clock
import RangeCatalog.Proofs.Catalog.Content
import RangeCatalog.Proofs.Catalog.Counts
import RangeCatalog.Proofs.Catalog.Document
import RangeCatalog.Proofs.Catalog.Entry
import RangeCatalog.Proofs.Catalog.FirstFailure
import RangeCatalog.Proofs.Catalog.History
import RangeCatalog.Proofs.Catalog.Independence
import RangeCatalog.Proofs.Catalog.Keys
import RangeCatalog.Proofs.Catalog.Looking
import RangeCatalog.Proofs.Catalog.Override
import RangeCatalog.Proofs.Catalog.Refresh
import RangeCatalog.Proofs.Catalog.Rendering
import RangeCatalog.Proofs.Catalog.Report
import RangeCatalog.Proofs.Catalog.Stored
import RangeCatalog.Proofs.Catalog.Verify
import RangeCatalog.Proofs.Catalog.Writing
import RangeCatalog.Proofs.Command.Crew
import RangeCatalog.Proofs.Command.Stages
import RangeCatalog.Proofs.Command.Update
import RangeCatalog.Proofs.Extraction
import RangeCatalog.Proofs.Fetch.Body
import RangeCatalog.Proofs.Fetch.Limit
import RangeCatalog.Proofs.Fetch.Redirects
import RangeCatalog.Proofs.Fetch.SizeLimit
import RangeCatalog.Proofs.Fetch.Spelling
import RangeCatalog.Proofs.Growth
import RangeCatalog.Proofs.Host.LowerCase
import RangeCatalog.Proofs.Json.Fields
import RangeCatalog.Proofs.Json.RoundTrip
import RangeCatalog.Proofs.Json.TokenText
import RangeCatalog.Proofs.Keyed
import RangeCatalog.Proofs.Label
import RangeCatalog.Proofs.Lock
import RangeCatalog.Proofs.Network.AddressGrammar
import RangeCatalog.Proofs.Network.AddressText
import RangeCatalog.Proofs.Network.BlockOrder
import RangeCatalog.Proofs.Network.BlockText
import RangeCatalog.Proofs.Network.CanonicalList
import RangeCatalog.Proofs.Network.HostNetwork
import RangeCatalog.Proofs.Network.RangeSet
import RangeCatalog.Proofs.Network.StrictReading
import RangeCatalog.Proofs.Outcome
import RangeCatalog.Proofs.Registry
import RangeCatalog.Proofs.ShapeFault
import RangeCatalog.Proofs.Storage.Disk
import RangeCatalog.Proofs.Storage.Files
import RangeCatalog.Proofs.Storage.Lawful
import RangeCatalog.Proofs.Storage.LockFile
import RangeCatalog.Proofs.Storage.LockPath
import RangeCatalog.Proofs.Storage.Locks
import RangeCatalog.Proofs.Storage.Memory
import RangeCatalog.Proofs.Storage.Recorded
import RangeCatalog.Proofs.Storage.Tree
import RangeCatalog.Proofs.Text.Blank
import RangeCatalog.Proofs.Text.Numeral
import RangeCatalog.Proofs.Text.Octets
import RangeCatalog.Proofs.Url.Authority
import RangeCatalog.Proofs.Url.Lowered
import RangeCatalog.Proofs.Url.ShownHost
import RangeCatalog.Registry
import RangeCatalog.Settings.Basic
import RangeCatalog.Settings.Reader
import RangeCatalog.Settings.Stored
import RangeCatalog.Source
import RangeCatalog.Storage.Basic
import RangeCatalog.Storage.Disk
import RangeCatalog.Storage.Memory
import RangeCatalog.Storage.Path
import RangeCatalog.Storage.Recorded
import RangeCatalog.Storage.Tree
import RangeCatalog.Text.Blank
import RangeCatalog.Text.Numeral
import RangeCatalog.Text.Quoted
import RangeCatalog.Unicode.CombiningClassTable
import RangeCatalog.Unicode.CompositionTable
import RangeCatalog.Unicode.DirectionTable
import RangeCatalog.Unicode.HiddenTable
import RangeCatalog.Unicode.JoiningTable
import RangeCatalog.Unicode.MappingTable
import RangeCatalog.Unicode.MarkTable
import RangeCatalog.Unicode.Normal
import RangeCatalog.Unicode.Table
import RangeCatalog.Unicode.ValidityTable
import RangeCatalog.Url.Basic
import RangeCatalog.Url.Host
import RangeCatalog.Url.Percent
import RangeCatalog.Url.Reader
import RangeCatalog.Url.Segments
import RangeCatalog.Yaml.Layout
import RangeCatalog.Yaml.Node
import RangeCatalog.Yaml.Property
import RangeCatalog.Yaml.Scalar
import RangeCatalog.Yaml.Text
import RangeCatalog.Yaml.Token
