import ThingLink.Documents.ResultCode
import ThingLink.Handshake.Session
import ThingLink.Main
import ThingLink.Proofs.Handshake.Noise
import ThingLink.Proofs.Link.Conservation
import ThingLink.Proofs.Wire.RoundTrip
import ThingLink.Proofs.Link.Calls
import ThingLink.Proofs.Link.Turns
import ThingLink.Proofs.Link.Oversized
import ThingLink.Proofs.Handshake.Course
import ThingLink.Proofs.Handshake.Attribution
import ThingLink.Proofs.Json.Quoted
import ThingLink.Proofs.Documents.Stored
import ThingLink.Proofs.Run.Consecutive
import ThingLink.Proofs.Link.Deadline
import ThingLink.Proofs.Handshake.Abandonment
import ThingLink.Proofs.Handshake.Strictness
import ThingLink.Proofs.Run.Effects
import ThingLink.Proofs.Wire.Increments
import ThingLink.Proofs.Documents.Gates
import ThingLink.Proofs.Link.Writing
import ThingLink.Proofs.Handshake.Reports
import ThingLink.Proofs.Handshake.Invocation
import ThingLink.Proofs.Config.FrameLimit
import ThingLink.Proofs.Config.Fields
import ThingLink.Proofs.Config.Layering
import ThingLink.Proofs.Yaml.Entries
import ThingLink.Proofs.Config.Document
import ThingLink.Proofs.Fixtures.Validation
import ThingLink.Proofs.Handshake.Chains
import ThingLink.Proofs.Config.DeviceId
import ThingLink.Proofs.Link.BareFrames
import ThingLink.Proofs.Link.Reads
