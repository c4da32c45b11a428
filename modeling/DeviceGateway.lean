import DeviceGateway.Forward.Outbox
import DeviceGateway.Http.Api
import DeviceGateway.Main
import DeviceGateway.Proofs.DeviceLog.Demand
import DeviceGateway.Proofs.DeviceLog.Interference
import DeviceGateway.Proofs.DeviceLog.Readback
import DeviceGateway.Proofs.DeviceLog.Record
import DeviceGateway.Proofs.DeviceLog.Secrecy
import DeviceGateway.Proofs.DeviceLog.Truncation
import DeviceGateway.Proofs.Gate.Addressing
import DeviceGateway.Proofs.Gate.Breadth
import DeviceGateway.Proofs.Gate.Commute
import DeviceGateway.Proofs.Gate.Downlink
import DeviceGateway.Proofs.Gate.Envelope
import DeviceGateway.Proofs.Gate.FailClosed
import DeviceGateway.Proofs.Gate.Operation
import DeviceGateway.Proofs.Gate.Privileged
import DeviceGateway.Proofs.Gate.Publish
import DeviceGateway.Proofs.Gate.StoreRefusal
import DeviceGateway.Proofs.Gate.Tally
import DeviceGateway.Proofs.Http.Publish
import DeviceGateway.Proofs.Identity.Credentials
import DeviceGateway.Proofs.Mapping.Envelope
import DeviceGateway.Proofs.Mapping.Exactness
import DeviceGateway.Proofs.Mapping.Fallback
import DeviceGateway.Proofs.Mapping.Invalidation
import DeviceGateway.Proofs.Mapping.Priority
import DeviceGateway.Proofs.Mapping.ReadThrough
import DeviceGateway.Proofs.Mapping.Selection
import DeviceGateway.Proofs.Mapping.Stock
import DeviceGateway.Proofs.Plugin
import DeviceGateway.Proofs.Redis.Agreement
import DeviceGateway.Proofs.Settings
import DeviceGateway.Proofs.Store.Typing
import DeviceGateway.Proofs.Topic.Filling
import DeviceGateway.Proofs.Topic.Greedy
import DeviceGateway.Proofs.Topic.Overlap
import DeviceGateway.Proofs.Topic.PatternCache
import DeviceGateway.Proofs.Topic.Tokens
import DeviceGateway.Redis.Client
