import RemoteCall.Value
import RemoteCall.Limits
import RemoteCall.Typed.Conversion
import RemoteCall.Compression.Compress
import RemoteCall.Outbound.Request
import RemoteCall.Frame.Reader
import RemoteCall.Frame.Packet
import RemoteCall.Codec.Encoder
import RemoteCall.Codec.Decoder
import RemoteCall.Stream.Sink
import RemoteCall.Stream.Source
import RemoteCall.Text.Quoted
import RemoteCall.Number.Decimal
import RemoteCall.Client.Invoker
import RemoteCall.Sample.Server
import RemoteCall.Settings.Validation
import RemoteCall.Settings.Reading
import RemoteCall.Settings.Writing
import RemoteCall.Proofs.Bytes
import RemoteCall.Proofs.Codec.Admission
import RemoteCall.Proofs.Stream.Buffered
import RemoteCall.Proofs.Stream.Source
import RemoteCall.Proofs.Codec.Encoding
import RemoteCall.Proofs.Codec.Decoding
import RemoteCall.Proofs.Codec.Message
import RemoteCall.Proofs.Codec.RoundTrip
import RemoteCall.Proofs.Codec.WireForm
import RemoteCall.Proofs.Codec.Ceilings
import RemoteCall.Proofs.Codec.Stream
import RemoteCall.Proofs.Codec.Narrowing
import RemoteCall.Proofs.Codec.Truncation
import RemoteCall.Proofs.Codec.Accounting
import RemoteCall.Proofs.Frame.Chunks
import RemoteCall.Proofs.Frame.Cutting
import RemoteCall.Proofs.Frame.Intake
import RemoteCall.Proofs.Frame.Chunked
import RemoteCall.Proofs.Frame.Header
import RemoteCall.Proofs.Frame.Reader
import RemoteCall.Proofs.Frame.Acceptance
import RemoteCall.Proofs.Frame.Queue
import RemoteCall.Proofs.Frame.Narrowing
import RemoteCall.Proofs.Frame.Spelling
import RemoteCall.Proofs.Frame.Waiting
import RemoteCall.Proofs.Stream.Guarded
import RemoteCall.Proofs.Stream.Bounded
import RemoteCall.Proofs.Stream.Operation
import RemoteCall.Proofs.Stream.Capacity
import RemoteCall.Proofs.Frame.Underway
import RemoteCall.Proofs.Frame.Clipping
import RemoteCall.Proofs.Frame.Framing
import RemoteCall.Proofs.Outbound.Entity
import RemoteCall.Proofs.Outbound.Request
import RemoteCall.Proofs.Outbound.Delivered
import RemoteCall.Proofs.Outbound.Undelivered
import RemoteCall.Proofs.Message
import RemoteCall.Proofs.Fields.Taking
import RemoteCall.Proofs.Fields.Repeated
import RemoteCall.Proofs.Message.Rearranged
import RemoteCall.Proofs.Typed
import RemoteCall.Proofs.Typed.Alike
import RemoteCall.Proofs.Typed.RoundTrip
import RemoteCall.Proofs.Server.Gating
import RemoteCall.Proofs.Server.Wrapping
import RemoteCall.Proofs.Server.Resolving
import RemoteCall.Proofs.Server.Rebuilding
import RemoteCall.Proofs.Server.Answering
import RemoteCall.Proofs.Server.Calling
import RemoteCall.Proofs.Client.Loopback
import RemoteCall.Proofs.Client.Invoker
import RemoteCall.Proofs.Client.Exchange
import RemoteCall.Proofs.Client.Interface
import RemoteCall.Proofs.Client.Privileged
import RemoteCall.Proofs.Codec.Prefixes
import RemoteCall.Proofs.Client.Session
import RemoteCall.Proofs.Compression.Collecting
import RemoteCall.Proofs.Compression.Limited
import RemoteCall.Proofs.Compression.Stored
import RemoteCall.Proofs.Limits
import RemoteCall.Proofs.Number.Binary
import RemoteCall.Proofs.Stream.TokenBucket
import RemoteCall.Proofs.Stream.Charged
import RemoteCall.Proofs.Settings.Saving
