import LiveSession.Scenario.Servers
import LiveSession.Script.Run

/-!
# Tabs

A tab is a client with all actions and scripts that were started on it, those in flight and those
that have ended. `Tab.step` is what can happen next, in any order: something starts, something in
flight is carried on, a channel dispatches an event, the transports go on by themselves, or the
program that drives the tab acts on it. `Tab.Reachable` are the tabs that come about so.

What is in flight holds listeners and channels of the client, which `Flight.held` lists.
-/

namespace LiveSession

/-- Listeners on a channel: the race that they feed, and their events. -/
structure Subscription where
  race : RaceId
  channel : ChannelId
  events : List String
  deriving DecidableEq

/-- What an action in flight holds: listeners, or a channel that is opened but not recorded. -/
inductive Held where
  | listeners (s : Subscription)
  | channel (p : PendingChannel)

namespace Held

def subscription? : Held → Option Subscription
  | listeners s => some s
  | channel _ => none

def pending? : Held → Option PendingChannel
  | listeners _ => none
  | channel p => some p

end Held

def Watch.subscription (w : Watch) (channel : ChannelId) : Subscription :=
  ⟨w.race, channel, [w.event]⟩

/-- The two listeners of an attempt to connect. -/
def PendingChannel.subscription (p : PendingChannel) (race : RaceId) : Subscription :=
  ⟨race, p.channel.handle, [connectEvent, connectErrorEvent]⟩

/-- The listener of a watch that is still to follow on a channel. -/
def heldNext (channel : ChannelId) (next : Option Watch) : List Held :=
  next.elim [] fun w => [.listeners (w.subscription channel)]

def Job.held : Job → List Held
  | .request .. | .crawl _ => []
  | .connect p race _ _ next =>
    .listeners (p.subscription race) :: .channel p :: heldNext p.channel.handle next
  | .watch channel w _ => [.listeners (w.subscription channel)]

def Progress.held : Progress → List Held
  | .done _ => []
  | .waiting job => job.held

/-- What a script in flight holds: what its current action does. -/
def ScriptRun.held (run : ScriptRun) : List Held :=
  match run.phase with
  | .delay .. => []
  | .act job => job.held

def ScriptProgress.held : ScriptProgress → List Held
  | .done _ => []
  | .waiting run => run.held

/-- An action or a script on a tab: in flight, or how it ended and when. -/
inductive Flight where
  | action (job : Job)
  | script (run : ScriptRun)
  | actionEnded (result : ActionResult) (time : Nat)
  | scriptEnded (result : ScriptResult) (time : Nat)

namespace Flight

def held : Flight → List Held
  | action job => job.held
  | script run => run.held
  | actionEnded .. | scriptEnded .. => []

/-- An action that was started or carried on by the time `now`. -/
def ofProgress (now : Nat) : Progress → Flight
  | .done result => actionEnded result now
  | .waiting job => action job

def ofScript (now : Nat) : ScriptProgress → Flight
  | .done result => scriptEnded result now
  | .waiting run => script run

end Flight

/-- A client with all actions and scripts that were started on it. -/
structure Tab (ω : Type) where
  client : Client ω
  flights : List Flight := []
  /-- The listeners that others have on the channels of the client. -/
  guests : List Subscription := []

/-- What can happen on a tab. -/
inductive TabEvent (ω : Type) where
  | dispatch (action : Action)
  | run (script : Script)
  /-- What is in flight under this number is carried on. -/
  | poll (flight : Nat)
  | fire (channel : ChannelId) (s : Signal)
  /-- Time passes, and the transports go on by themselves. -/
  | pass (world : ω) (today : Int)
  | clear
  | clearCache
  | setCookie (name value : String)
  | removeCookie (name : String)
  /-- Somebody else starts to listen on a channel. -/
  | listen (channel : ChannelId) (event : String)
  | unlisten (guest : Nat)

namespace Tab

variable {ω : Type} [Transports ω]

def held (t : Tab ω) : List Held :=
  t.flights.flatMap Flight.held ++ t.guests.map .listeners

def launch (t : Tab ω) (r : Client ω × Progress) : Tab ω :=
  { t with client := r.1, flights := t.flights ++ [.ofProgress r.1.now r.2] }

def launchScript (t : Tab ω) (r : Client ω × ScriptProgress) : Tab ω :=
  { t with client := r.1, flights := t.flights ++ [.ofScript r.1.now r.2] }

def poll (t : Tab ω) (flight : Nat) : Tab ω :=
  match t.flights[flight]? with
  | some (.action job) =>
    let (c, progress) := t.client.poll job
    { t with client := c, flights := t.flights.set flight (.ofProgress c.now progress) }
  | some (.script run) =>
    let (c, progress) := t.client.pollScript run
    { t with client := c, flights := t.flights.set flight (.ofScript c.now progress) }
  | _ => t

def listen (t : Tab ω) (channel : ChannelId) (event : String) : Tab ω :=
  if channel < t.client.channels.length then
    let (c, race) := t.client.install channel [event]
    { t with client := c, guests := t.guests ++ [⟨race, channel, [event]⟩] }
  else t

/-- The listener of somebody else is removed. -/
def unlisten (t : Tab ω) (guest : Nat) : Tab ω :=
  match t.guests[guest]? with
  | some s => { t with client := t.client.release s.race, guests := t.guests.eraseIdx guest }
  | none => t

/-- The tab after an event; one that cannot happen changes nothing. -/
def step (t : Tab ω) : TabEvent ω → Tab ω
  | .dispatch action => t.launch (t.client.dispatch action)
  | .run script => t.launchScript (t.client.runScript script)
  | .poll flight => t.poll flight
  | .fire channel s => { t with client := t.client.deliver channel s }
  | .pass world today => { t with client := { t.client with world, today } }
  | .clear => { t with client := t.client.clear }
  | .clearCache => { t with client := t.client.clearCache }
  | .setCookie name value =>
    { t with client := { t.client with cookies := t.client.cookies.set name value } }
  | .removeCookie name =>
    { t with client := { t.client with cookies := t.client.cookies.remove name } }
  | .listen channel event => t.listen channel event
  | .unlisten guest => t.unlisten guest

def run (t : Tab ω) (events : List (TabEvent ω)) : Tab ω :=
  events.foldl step t

/-- The tabs that come about from one without pages, channels and cookies. -/
inductive Reachable : Tab ω → Prop where
  | fresh (profile : Profile) (world : ω) (today : Int) (sources : Sources) :
      Reachable { client := { profile, world, today, sources } }
  | step {t : Tab ω} (event : TabEvent ω) : Reachable t → Reachable (t.step event)

theorem Reachable.run {t : Tab ω} (h : Reachable t) (events : List (TabEvent ω)) :
    Reachable (t.run events) := by
  induction events generalizing t with
  | nil => exact h
  | cons event events ih => exact ih (h.step event)

/-- A tab on servers that answer at once: its page is loaded, and the channel of its root is
connected. -/
def connected : Tab Scenario.Servers :=
  let baseUrl : Url := { scheme := "http", host := some (.domain "localhost"), path := .segments [""] }
  run { client := { profile := { identity := "visitor", level := .off, baseUrl }, world := {} } }
    [.dispatch (.get "/"), .dispatch (.connect {})]

theorem connected_reachable : Reachable connected :=
  Reachable.run (.fresh _ _ _ _) _

end Tab

end LiveSession
