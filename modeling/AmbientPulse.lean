import AmbientPulse.Main
import AmbientPulse.WakeLock.Program
import AmbientPulse.Proofs.World
import AmbientPulse.Proofs.Outlook
import AmbientPulse.Proofs.Registration
import AmbientPulse.Proofs.Act
import AmbientPulse.Proofs.Step
import AmbientPulse.Proofs.Alternation
import AmbientPulse.Proofs.Flight
import AmbientPulse.Proofs.Guard
import AmbientPulse.Proofs.Policy
import AmbientPulse.Proofs.Subscription
import AmbientPulse.Proofs.Settlement
import AmbientPulse.Proofs.Seat
import AmbientPulse.Proofs.Product
import AmbientPulse.Proofs.Attention
import AmbientPulse.Proofs.Overtaken
import AmbientPulse.Proofs.Orphan
import AmbientPulse.Proofs.Emission
import AmbientPulse.Proofs.Queue
import AmbientPulse.Proofs.Refusal
import AmbientPulse.Proofs.Bookkeeping
import AmbientPulse.Proofs.Shutdown
import AmbientPulse.Proofs.Device
import AmbientPulse.Proofs.Holding
import AmbientPulse.Proofs.Json.Object
import AmbientPulse.Proofs.Recovery
import AmbientPulse.Proofs.Verdict
import AmbientPulse.Proofs.Json.RoundTrip
import AmbientPulse.Proofs.Heeding
import AmbientPulse.Proofs.Repetition
import AmbientPulse.Proofs.Subtype.Grammar
import AmbientPulse.Proofs.Subtype.Reading
import AmbientPulse.Proofs.Subtype.Spelling
import AmbientPulse.Proofs.Json.Grammar
import AmbientPulse.Proofs.Json.Array
import AmbientPulse.Proofs.Config.Document
import AmbientPulse.Proofs.Config.Precedence
import AmbientPulse.Proofs.History
import AmbientPulse.Proofs.Notification
import AmbientPulse.Proofs.OneShot
import AmbientPulse.Proofs.Audience
import AmbientPulse.Proofs.Number.Value
import AmbientPulse.Proofs.Number.Truncation
import AmbientPulse.Proofs.Number.Ladder
import AmbientPulse.Proofs.Number.Shortest
import AmbientPulse.Proofs.Number.Positional
import AmbientPulse.Proofs.EventText
import AmbientPulse.Proofs.Simulator
