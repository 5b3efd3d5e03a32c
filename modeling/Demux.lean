import Demux.Bytes
import Demux.Document
import Demux.Fields
import Demux.Frame.Basic
import Demux.Frame.Block
import Demux.Frame.ResetCode
import Demux.Message.Basic
import Demux.Message.Opening
import Demux.Message.Origin
import Demux.Revision
import Demux.Session.Basic
import Demux.Session.Calls
import Demux.Session.Endpoint
import Demux.Session.Event
import Demux.Session.Lemmas
import Demux.Session.Opening
import Demux.Session.Run
import Demux.StartLine.Fault
import Demux.StartLine.Field
import Demux.StartLine.Method
import Demux.StartLine.Protocol
import Demux.StartLine.Status
import Demux.Store.Basic
import Demux.Store.Bounded
import Demux.Store.Maps
import Demux.Store.Operation
import Demux.Store.Packed
import Demux.StreamId
import Demux.Terms
import Demux.Text.Class
import Demux.Text.Decimal
import Demux.Text.Fold
import Demux.Text.Quoted
import Demux.Text.Trim
import Demux.Text.Unprintable
import Demux.Proofs.Slot.Basic
import Demux.Proofs.Slot.Opening
import Demux.Proofs.Slot.Event
import Demux.Proofs.Slot.Turn
import Demux.Proofs.StartLine.Text
import Demux.Proofs.Store.Size
import Demux.Proofs.Store.Alike
import Demux.Proofs.Store.Nesting
import Demux.Proofs.Fields
import Demux.Proofs.Message.Fault
import Demux.Proofs.Message.Headers
import Demux.Proofs.Message.Origin
import Demux.Proofs.Message.Translation
import Demux.Proofs.Message.StartLine
import Demux.Proofs.Session.Reassembly
import Demux.Proofs.Session.Isolation
import Demux.Proofs.Session.Conservation
import Demux.Proofs.Session.Lasting
import Demux.Proofs.Session.Limit
import Demux.Proofs.Session.Provenance
import Demux.Proofs.Session.Lifetime
import Demux.Proofs.Session.Headers
import Demux.Proofs.Session.Origin
import Demux.Proofs.Session.Rejection
import Demux.Proofs.Session.Alike
import Demux.Proofs.Session.Capacity
import Demux.Proofs.Session.Refusal
import Demux.Proofs.Session.Interchange
import Demux.Proofs.Session.Framing
import Demux.Proofs.Session.Delivery
import Demux.Proofs.Session.Answers
import Demux.Proofs.Session.Batch
import Demux.Proofs.Session.Log
import Demux.Proofs.StartLine.Status
import Demux.Proofs.Fields.Write
import Demux.Proofs.Fields.Edit
import Demux.Proofs.StartLine.Protocol
import Demux.Proofs.StartLine.Method
import Demux.Proofs.Message.Setters
import Demux.Proofs.Message.Record
