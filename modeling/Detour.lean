import Detour.Classifier.Basic
import Detour.Classifier.Lists
import Detour.Classifier.Record
import Detour.Classifier.Session
import Detour.CommandLine.Footprint
import Detour.CommandLine.Grammar
import Detour.CommandLine.Help
import Detour.CommandLine.Program
import Detour.CommandLine.Task
import Detour.Config.Basic
import Detour.Config.Environment
import Detour.Config.Reader
import Detour.Config.Storage
import Detour.Config.Writer
import Detour.DomainList.Kind
import Detour.DomainList.Storage
import Detour.DomainSet
import Detour.ExpiringSet
import Detour.Failure
import Detour.Files.Disk
import Detour.Files.Fault
import Detour.Files.Path
import Detour.Files.Refusal
import Detour.Files.Tree
import Detour.Flusher
import Detour.Host.Address
import Detour.Host.Name
import Detour.Http.Client
import Detour.Http.Octets
import Detour.Http.Url
import Detour.Instant
import Detour.International.Composition
import Detour.International.Encoder
import Detour.International.Label
import Detour.International.Property
import Detour.International.Punycode
import Detour.Interval
import Detour.Json.Display
import Detour.Json.Printer
import Detour.Json.Reader
import Detour.Json.Value
import Detour.Lock
import Detour.Log.Entry
import Detour.Log.Level
import Detour.Log.Logger
import Detour.Log.Masking
import Detour.Main
import Detour.Notification.Router
import Detour.Notification.Webhook
import Detour.Number.Basic
import Detour.Number.Binary64
import Detour.Number.Reader
import Detour.Number.Shortest
import Detour.Outcome
import Detour.Table
import Detour.Target
import Detour.Text.Basic
import Detour.Text.Digits
import Detour.Text.LowerCase
import Detour.Text.Numeral
import Detour.Text.Quoted
import Detour.Text.Utf8
import Detour.Proofs.Text.Splitting
import Detour.Proofs.Text.Utf8
import Detour.Proofs.Host.Encoders
import Detour.Proofs.International.Characters
import Detour.Proofs.Files.Reading
import Detour.Proofs.Files.Walking
import Detour.Proofs.Files.Paths
import Detour.Proofs.Files.Changes
import Detour.Proofs.DomainList.AtomicStore
import Detour.Proofs.DomainList.Debris
import Detour.Proofs.Classifier.Effects
import Detour.Proofs.Classifier.Consistency
import Detour.Proofs.Classifier.Precedence
import Detour.Proofs.DomainList.Encoding
import Detour.Proofs.Files.Naming
import Detour.Proofs.DomainList.Contents
import Detour.Proofs.DomainList.Rereading
import Detour.Proofs.DomainSet.Refinement
import Detour.Proofs.Classifier.Loading
import Detour.Proofs.Classifier.Durability
import Detour.Proofs.Number.Order
import Detour.Proofs.Number.Range
import Detour.Proofs.ExpiringSet.Refinement
import Detour.Proofs.Classifier.Persisting
import Detour.Proofs.Classifier.Outcomes
import Detour.Proofs.Classifier.Restart
import Detour.Proofs.Classifier.Reloading
import Detour.Proofs.Classifier.History
import Detour.Proofs.Classifier.Windows
import Detour.Proofs.Text.LowerCase
import Detour.Proofs.Text.Numerals
import Detour.Proofs.Host.Addresses
import Detour.Proofs.Host.Canonical
import Detour.Proofs.Target.Parts
import Detour.Proofs.Target.RoundTrip
import Detour.Proofs.Target.Spelling
import Detour.Proofs.Target.Refusals
import Detour.Proofs.Host.Domains
import Detour.Proofs.Target.WellFormed
import Detour.Proofs.CommandLine.Lookup
import Detour.Proofs.CommandLine.Setup
import Detour.Proofs.CommandLine.Recording
import Detour.Proofs.Classifier.Targets
import Detour.Proofs.Json.Strings
import Detour.Proofs.Json.Numbers
import Detour.Proofs.Json.RoundTrip
import Detour.Proofs.Json.Limits
import Detour.Proofs.Json.OneLine
import Detour.Proofs.Config.Reading
import Detour.Proofs.Config.RoundTrip
import Detour.Proofs.Config.Usable
import Detour.Proofs.Config.Overriding
import Detour.Proofs.Config.Loading
import Detour.Proofs.Log.History
import Detour.Proofs.Log.Masking
import Detour.Proofs.Log.Outline
import Detour.Proofs.Log.Failures
import Detour.Proofs.Log.Lines
import Detour.Proofs.Notification.FanOut
import Detour.Proofs.Flusher.Schedule
import Detour.Proofs.Lock.Admission
import Detour.Proofs.Lock.Invariant
import Detour.Proofs.ExpiringSet.Bounded
import Detour.Proofs.ExpiringSet.Locality
import Detour.Proofs.Classifier.Locality
import Detour.Proofs.Classifier.Batches
import Detour.Proofs.Classifier.Writing
