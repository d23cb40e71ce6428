import WideColumn.Charset.Lookup
import WideColumn.Clock
import WideColumn.Dispatcher.Timer
import WideColumn.Filter.Attributes
import WideColumn.Filter.Conversion
import WideColumn.Inspect.Request
import WideColumn.Log.Render
import WideColumn.Number.Decimal
import WideColumn.Proofs.Backoff
import WideColumn.Proofs.Charset.Unicode
import WideColumn.Proofs.Deferred.Barrier
import WideColumn.Proofs.Deferred.Conversation
import WideColumn.Proofs.Escaping
import WideColumn.Proofs.Filter.Agreement
import WideColumn.Proofs.Filter.Construction
import WideColumn.Proofs.Filter.Evaluation
import WideColumn.Proofs.Filter.PatternCache
import WideColumn.Proofs.Filter.Patterns
import WideColumn.Proofs.Pipeline.Attempts
import WideColumn.Proofs.Pipeline.Backpressure
import WideColumn.Proofs.Pipeline.Batches
import WideColumn.Proofs.Pipeline.Conservation
import WideColumn.Proofs.Pipeline.Outcomes
import WideColumn.Proofs.Pipeline.Reads
import WideColumn.Proofs.Pipeline.Serial
import WideColumn.Proofs.Pipeline.Shutdown
import WideColumn.Proofs.Pipeline.Triggers
import WideColumn.Proofs.Request.Execution
import WideColumn.Proofs.Request.Refusal
import WideColumn.Proofs.Request.Removal
import WideColumn.Proofs.Request.Transfer
import WideColumn.Proofs.Retry
import WideColumn.Proofs.Settings.Sections
import WideColumn.Proofs.Store.Filtering
import WideColumn.Proofs.Store.Formula
import WideColumn.Proofs.Store.History
import WideColumn.Proofs.Store.Prefixes
import WideColumn.Proofs.Store.Refusal
import WideColumn.Proofs.Store.Rows
import WideColumn.Proofs.Store.Scanning
import WideColumn.Proofs.Store.Substring
import WideColumn.Proofs.Triggers
import WideColumn.Request.Build
import WideColumn.Session.Basic
import WideColumn.Settings.Load
import WideColumn.Store.Faults
import WideColumn.Trigger
