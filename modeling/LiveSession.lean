import LiveSession.Connection.Multiplexer
import LiveSession.Connection.Hub
import LiveSession.Http.Redirect
import LiveSession.Http.Form
import LiveSession.Scenario.Servers
import LiveSession.Scenario.Run
import LiveSession.Script.Run
import LiveSession.Client.Dispatch
import LiveSession.Client.Watch
import LiveSession.Client.Connect
import LiveSession.Client.Crawl
import LiveSession.Client.Request
import LiveSession.Client.Basic
import LiveSession.Session.Basic
import LiveSession.Http.Exchange
import LiveSession.Channel.Race
import LiveSession.Channel.Listeners
import LiveSession.Channel.State
import LiveSession.Assets.References
import LiveSession.Action.Listing
import LiveSession.Config.Profile
import LiveSession.Cookie.Jar
import LiveSession.Packet.Engine
import LiveSession.Script.Basic
import LiveSession.Url.Parse
import LiveSession.Proofs.Channel.Listeners
import LiveSession.Proofs.Client.Tab
import LiveSession.Proofs.Client.Acts
import LiveSession.Proofs.Client.Steps
import LiveSession.Proofs.Client.Wiring
import LiveSession.Proofs.Client.InFlight
import LiveSession.Proofs.Client.Charting
import LiveSession.Proofs.Client.Attempts
import LiveSession.Proofs.Client.Fates
import LiveSession.Proofs.Client.Pages
import LiveSession.Proofs.Channel.Race
import LiveSession.Proofs.Client.Hearing
import LiveSession.Proofs.Client.Watching
import LiveSession.Proofs.Client.Verdicts
import LiveSession.Proofs.Action.Decoding
import LiveSession.Proofs.Connection.Attendance
import LiveSession.Proofs.Connection.Shutdown
import LiveSession.Proofs.Connection.Reuse
import LiveSession.Proofs.Json.Reading
import LiveSession.Proofs.Text.Digits
import LiveSession.Proofs.Packet.RoundTrip
import LiveSession.Proofs.Packet.Grammar
import LiveSession.Proofs.Connection.Outbox
import LiveSession.Proofs.Connection.Buffers
import LiveSession.Proofs.Connection.Emits
import LiveSession.Proofs.Client.Compounds
import LiveSession.Proofs.Client.Trials
import LiveSession.Proofs.Client.Alike
import LiveSession.Proofs.Client.Sequels
import LiveSession.Proofs.Http.Redirects
import LiveSession.Proofs.Client.Alone
import LiveSession.Proofs.Client.Failures
import LiveSession.Proofs.Script.Performance
import LiveSession.Proofs.Text.Percent
import LiveSession.Proofs.Url.Addresses
import LiveSession.Proofs.Idna.SentForm
import LiveSession.Proofs.Url.Hosts
import LiveSession.Proofs.Url.Origins
import LiveSession.Proofs.Url.Rereading
import LiveSession.Proofs.Assets.Locality
import LiveSession.Proofs.Client.Crawls
import LiveSession.Proofs.Client.Harvest
import LiveSession.Proofs.Script.Exclusion
import LiveSession.Proofs.Connection.Farewell
import LiveSession.Proofs.Connection.Requests
import LiveSession.Proofs.Client.Chronicle
import LiveSession.Proofs.Client.Sharing
import LiveSession.Proofs.Script.Sequence
import LiveSession.Proofs.Cookie.Presented
import LiveSession.Proofs.Connection.Lifecycle
import LiveSession.Proofs.Connection.Displaced
import LiveSession.Proofs.Connection.Listening
import LiveSession.Proofs.Connection.Isolation
import LiveSession.Proofs.Client.FirstFailure
import LiveSession.Proofs.Client.Breakdowns
import LiveSession.Proofs.Json.Writing
import LiveSession.Proofs.Packet.Respelling
import LiveSession.Proofs.Connection.Offers
import LiveSession.Proofs.Connection.Latest
import LiveSession.Proofs.Cookie.Chronology
import LiveSession.Proofs.Cookie.Lifetime
import LiveSession.Proofs.Action.Conditions
import LiveSession.Proofs.Client.Answers
import LiveSession.Proofs.Script.Decoding
import LiveSession.Proofs.Assets.Extraction
import LiveSession.Proofs.Channel.Happenings
import LiveSession.Proofs.Channel.Reentrancy
import LiveSession.Proofs.Url.Authorities
import LiveSession.Proofs.Config.BaseUrl
import LiveSession.Proofs.Channel.Schedules
import LiveSession.Proofs.Http.Forms
