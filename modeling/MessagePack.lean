import MessagePack.Version
import MessagePack.Kind
import MessagePack.Fault
import MessagePack.Direction
import MessagePack.Ieee
import MessagePack.Bytes.BigEndian
import MessagePack.Bytes.Field
import MessagePack.Text.Utf8
import MessagePack.Header.Basic
import MessagePack.Header.Order
import MessagePack.Header.Sort
import MessagePack.Header.Table
import MessagePack.Json.Defect
import MessagePack.Json.Numeral
import MessagePack.Json.Quoted
import MessagePack.Json.Token
import MessagePack.Json.Skip
import MessagePack.Settings.Basic
import MessagePack.Settings.Document
import MessagePack.Event
import MessagePack.Step
import MessagePack.Latch
import MessagePack.Nesting.Allocator
import MessagePack.Nesting.Violation
import MessagePack.Nesting.Basic
import MessagePack.Monitor
import MessagePack.Proofs.Machine
import MessagePack.Proofs.Bytes.Digits
import MessagePack.Proofs.Bytes.Codec
import MessagePack.Proofs.Json.Numeral
import MessagePack.Proofs.Json.Spelling
import MessagePack.Proofs.Json.Layout
import MessagePack.Proofs.Settings.RoundTrip
import MessagePack.Proofs.Settings.Reading
import MessagePack.Proofs.Settings.Arrangement
import MessagePack.Proofs.Header.Lawful
import MessagePack.Proofs.Header.Reference
import MessagePack.Proofs.Header.Entries
import MessagePack.Proofs.Header.History
import MessagePack.Proofs.Header.Consistency
import MessagePack.Proofs.Text.Spelling
import MessagePack.Proofs.Text.WellFormed
import MessagePack.Proofs.Latch.Delivery
import MessagePack.Proofs.Latch.Assertion
import MessagePack.Proofs.Latch.FirstFault
import MessagePack.Proofs.Nesting.Accepts
import MessagePack.Proofs.Nesting.Session
import MessagePack.Proofs.Nesting.Conservation
import MessagePack.Proofs.Nesting.Plain
import MessagePack.Proofs.Nesting.Room
import MessagePack.Proofs.Nesting.Exactness
import MessagePack.Proofs.Nesting.Growth
import MessagePack.Proofs.Nesting.Unbounded
import MessagePack.Proofs.Nesting.Transparency
import MessagePack.Proofs.Nesting.Reports
import MessagePack.Proofs.Monitor.Turn
import MessagePack.Proofs.Monitor.Refinement
import MessagePack.Proofs.Monitor.Assertion
import MessagePack.Proofs.Monitor.Verdict
import MessagePack.Proofs.Monitor.Enclosure
import MessagePack.Proofs.Monitor.Room
import MessagePack.Proofs.Monitor.Unbounded
import MessagePack.Proofs.Monitor.Mirror
import MessagePack.Proofs.Monitor.Accounting
import MessagePack.Proofs.Document.Basic
import MessagePack.Proofs.Document.Walk
import MessagePack.Proofs.Bytes.Overwriting
import MessagePack.Proofs.Header.Sorting
import MessagePack.Proofs.Header.Floating
import MessagePack.Proofs.Text.Splitting
import MessagePack.Proofs.Text.Null
import MessagePack.Proofs.Version.Components
import MessagePack.Proofs.Version.Precedence
