import ZohoIotSdk.Client.ConnectionString
import ZohoIotSdk.Client.OsDetails
import ZohoIotSdk.Client.Ownership
import ZohoIotSdk.Command.AckObject
import ZohoIotSdk.Command.CloudLogging
import ZohoIotSdk.Command.Dropped
import ZohoIotSdk.Command.Interleaving
import ZohoIotSdk.Command.OtaEffect
import ZohoIotSdk.Http.Upload
import ZohoIotSdk.Log.CloudLog
import ZohoIotSdk.Log.Compress
import ZohoIotSdk.Log.Handle
import ZohoIotSdk.Mqtt.Broker
import ZohoIotSdk.Mqtt.Delivery
import ZohoIotSdk.Mqtt.SendBuffer
import ZohoIotSdk.Process.Port
import ZohoIotSdk.Process.Trim
import ZohoIotSdk.Retry.AckStore
import ZohoIotSdk.Retry.EventReplay
import ZohoIotSdk.Retry.EventStore
import ZohoIotSdk.Retry.Interleaving
import ZohoIotSdk.Session.Clock
import ZohoIotSdk.Session.Guard
import ZohoIotSdk.Session.Lost
import ZohoIotSdk.Session.Resubscribe
import ZohoIotSdk.Staging.Apart
import ZohoIotSdk.Staging.Distinct
import ZohoIotSdk.Tls.Transfer
import ZohoIotSdk.Tls.Verification
import ZohoIotSdk.Atomic.Loop
import ZohoIotSdk.Atomic.Monitor
import ZohoIotSdk.Codec.Decoder
import ZohoIotSdk.Codec.Framing
import ZohoIotSdk.Codec.Peer
import ZohoIotSdk.Keyed.Slots
import ZohoIotSdk.Mqtt.Broker
import ZohoIotSdk.Mqtt.Delivery
