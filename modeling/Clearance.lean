import Clearance.AttributeSet
import Clearance.BoundedCache
import Clearance.Codec.Key
import Clearance.Codec.LabelList
import Clearance.Expr.Eval
import Clearance.Filter
import Clearance.Label.Validation
import Clearance.Loading
import Clearance.Node.Canonical
import Clearance.Node.Reader
import Clearance.Pattern
import Clearance.SourceCache
import Clearance.Store.Host
import Clearance.Proofs.BoundedCache.Contents
import Clearance.Proofs.Request.Session
import Clearance.Proofs.Filter.Decision
import Clearance.Proofs.Codec.TableGrowth
import Clearance.Proofs.PersistentStore.Writing
import Clearance.Proofs.SharedStore.FailedCommit
import Clearance.Proofs.Node.Term
import Clearance.Proofs.PersistentStore.SavedTable
import Clearance.Proofs.SharedStore.Agreement
import Clearance.Proofs.PersistentStore.Answers
import Clearance.Proofs.PersistentStore.Coherence
import Clearance.Proofs.PersistentStore.Alike
import Clearance.Proofs.SharedStore.Restart
import Clearance.Proofs.Bytes.Utf8
import Clearance.Proofs.Codec.Reads
import Clearance.Proofs.Codec.Writes
import Clearance.Proofs.Codec.ByNodeId
import Clearance.Proofs.Codec.ByString
import Clearance.Proofs.Codec.LabelList
import Clearance.Proofs.Digest.Length
import Clearance.Proofs.Codec.Keys
import Clearance.Proofs.PersistentStore.PatternKeys
import Clearance.Proofs.Keeping
import Clearance.Proofs.PersistentStore.Mirror
import Clearance.Proofs.SharedStore.Pending
import Clearance.Proofs.SharedStore.Backends
import Clearance.Proofs.PersistentStore.OneByOne
import Clearance.Proofs.SharedStore.Replay
import Clearance.Proofs.SharedStore.Protocol
import Clearance.Proofs.SharedStore.MostSpecific
import Clearance.Proofs.PersistentStore.Soundness
import Clearance.Proofs.SharedStore.Lifetime
import Clearance.Proofs.SharedStore.FastPath
import Clearance.Proofs.SharedStore.NodeNumbers
import Clearance.Proofs.PersistentStore.Recached
import Clearance.Proofs.SharedStore.CacheSize
import Clearance.Proofs.Label.Validation
import Clearance.Proofs.PersistentStore.Rows
import Clearance.Proofs.Filter.ReadableLabels
import Clearance.Proofs.SharedStore.ReadableLabels
import Clearance.Proofs.PersistentStore.Contents
import Clearance.Proofs.PersistentStore.Repetition
import Clearance.Proofs.SharedStore.Taken
import Clearance.Proofs.SharedStore.Merging
import Clearance.Proofs.Node.Canonical
import Clearance.Proofs.Dump
import Clearance.Proofs.PersistentStore.Listing
import Clearance.Proofs.SharedStore.Restoring
import Clearance.Proofs.Lexeme.Layout
import Clearance.Proofs.Lexeme.Token
import Clearance.Proofs.Grammar.Relation
import Clearance.Proofs.Grammar.Label
import Clearance.Proofs.Hierarchy
import Clearance.Proofs.AttributeSet
import Clearance.Proofs.Request.Unordered
import Clearance.Proofs.Request.Transparency
import Clearance.Proofs.Filter.Usage
import Clearance.Proofs.Filter.Granting
import Clearance.Proofs.Filter.Raising
import Clearance.Proofs.Text.Blank
import Clearance.Proofs.Grammar.Printed
import Clearance.Proofs.Grammar.Stalling
import Clearance.Proofs.Grammar.Meaning
import Clearance.Proofs.SharedStore.Reading
import Clearance.Proofs.Host.Beside
import Clearance.Proofs.Host.Registry
import Clearance.Proofs.Disk.Directories
import Clearance.Proofs.Host.OneStore
import Clearance.Proofs.Codec.Exactness
import Clearance.Proofs.Codec.Records
import Clearance.Proofs.Codec.TextKeys
import Clearance.Proofs.Codec.HashedKeys
import Clearance.Proofs.NodeTable.TwoWay
import Clearance.Proofs.Codec.NumberedKeys
import Clearance.Proofs.Node.Figures
import Clearance.Proofs.Node.Values
import Clearance.Proofs.Codec.Overflow
import Clearance.Proofs.Codec.Lossless
import Clearance.Proofs.Filter.Recoding
import Clearance.Proofs.Grammar.Items
import Clearance.Proofs.AttributeSet.Merging
import Clearance.Proofs.AttributeSet.Text
import Clearance.Proofs.Roster
import Clearance.Proofs.Hierarchy.Text
import Clearance.Proofs.Request.Difference
import Clearance.Proofs.Distinct
import Clearance.Proofs.BoundedCache.Keys
import Clearance.Proofs.BoundedCache.Eviction
import Clearance.Proofs.BoundedCache.WellFormed
import Clearance.Proofs.BoundedCache.History
import Clearance.Proofs.NodeTable.Loading
import Clearance.Proofs.MemoryStore.Batches
import Clearance.Proofs.SourceCache
import Clearance.Proofs.Request.Inquiry
import Clearance.Proofs.Request.Economy
import Clearance.Proofs.Evaluation
