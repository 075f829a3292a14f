import LiveSession.Scenario.Servers
import LiveSession.Script.Run

/-!
# Scenarios

A scenario drives a client against scripted servers, step by step or with several steps in flight at
once. The clock moves only while all work waits: then it is set to the next time at which something
happens, what is due happens, and the work goes on in the order in which it was started.
-/

namespace LiveSession.Scenario

inductive Step where
  | dispatch (action : Except Error Action)
  | run (script : Except Error Script)
  | running
  | sleep (ms : Nat)
  | clear
  | clearCache
  | setCookie (name value : String)
  | removeCookie (name : String)
  | cookie (name : String)
  | cached (key : String)
  | channelState (ns : String)
  | route (r : Route)
  | behavior (b : Behavior)
  | echo (e : Echo)
  /-- An event on the channel opened last for a namespace, now or later. -/
  | fire (ns : String) (s : Signal) (ms : Option Nat)
  | serverClose (ns : String)
  | failEmit (ns : String) (on : Bool)

inductive StepResult where
  | nothing
  | noChannel
  | action (r : ActionResult)
  | script (r : ScriptResult)
  | flag (b : Bool)
  | text (t : Option String)
  | asset (isCached : Bool) (body : Option String)
  | state (s : Option ChannelState)
  | count (n : Nat)

/-- A step in flight, or its result and the time at which it ended. -/
inductive Work where
  | start (due : Nat) (step : Step)
  | sleep (due : Nat)
  | action (job : Job)
  | script (run : ScriptRun)
  | done (result : StepResult) (time : Nat)

abbrev Stage := Client Servers

namespace Stage

def modifyServers (c : Stage) (f : Servers → Servers) : Stage :=
  { c with world := f c.world }

def ends (c : Stage) (result : StepResult) : Stage × Work :=
  (c, .done result c.now)

def ofProgress : Stage × Progress → Stage × Work
  | (c, .done r) => ends c (.action r)
  | (c, .waiting job) => (c, .action job)

def ofScriptProgress : Stage × ScriptProgress → Stage × Work
  | (c, .done r) => ends c (.script r)
  | (c, .waiting run) => (c, .script run)

/-- A step on the channel opened last for a namespace. -/
def onChannel (c : Stage) (ns : String) (f : ChannelId → Stage × StepResult) : Stage × Work :=
  match c.world.latest? ns with
  | none => ends c .noChannel
  | some channel =>
    let (c, result) := f channel
    ends c result

def begin (c : Stage) : Step → Stage × Work
  | .dispatch (.error e) => ends c (.action (.error e))
  | .dispatch (.ok action) => ofProgress (c.dispatch action)
  | .run (.error e) => ends c (.script (.error e))
  | .run (.ok script) => ofScriptProgress (c.runScript script)
  | .running => ends c (.flag c.running)
  | .sleep ms => if ms = 0 then ends c .nothing else (c, .sleep (c.now + ms))
  | .clear => ends c.clear .nothing
  | .clearCache => ends c.clearCache .nothing
  | .setCookie name value => ends { c with cookies := c.cookies.set name value } .nothing
  | .removeCookie name =>
    ends { c with cookies := c.cookies.remove name } (.flag (c.cookies.contains name))
  | .cookie name => ends c (.text (c.cookies.get? name))
  | .cached key => ends c (.asset (c.session.cache.holds key) (c.session.cache.find? key))
  | .channelState ns => ends c (.state (c.channelState? ns))
  | .route r => ends (modifyServers c fun s => { s with routes := r :: s.routes }) .nothing
  | .behavior b => ends (modifyServers c fun s => { s with behavior := b }) .nothing
  | .echo e => ends (modifyServers c fun s => { s with echoes := s.echoes ++ [e] }) .nothing
  | .fire ns s ms =>
    onChannel c ns fun channel =>
      match ms with
      | none => (Client.deliver channel c s, .count ((c.listenersOn channel).count s.event))
      | some ms => (modifyServers c fun w => w.plan ms channel (.signal s), .nothing)
  | .serverClose ns =>
    onChannel c ns fun channel =>
      (Client.deliver channel (modifyServers c fun w => w.setState channel .closed)
        ⟨disconnectEvent, [.str serverReason]⟩, .nothing)
  | .failEmit ns on =>
    onChannel c ns fun channel =>
      (modifyServers c fun w => w.modify channel fun ch => { ch with failEmit := on }, .nothing)

/-! ### Work in flight -/

def isReady (c : Stage) : Work → Bool
  | .start due _ | .sleep due => due ≤ c.now
  | .action job => Client.isReady c job
  | .script run =>
    match run.phase with
    | .delay _ due => due ≤ c.now
    | .act job => Client.isReady c job
  | .done .. => false

def carryOn (c : Stage) : Work → Stage × Work
  | .start _ step => begin c step
  | .sleep _ => ends c .nothing
  | .action job => ofProgress (c.poll job)
  | .script run => ofScriptProgress (c.pollScript run)
  | .done result time => (c, .done result time)

/-- Carries on the work that can go on, in order, and tells whether there was any. -/
def pass (c : Stage) : List Work → Stage × List Work × Bool
  | [] => (c, [], false)
  | w :: rest =>
    if isReady c w then
      let (c, w) := carryOn c w
      let (c, rest, _) := pass c rest
      (c, w :: rest, true)
    else
      let (c, rest, moved) := pass c rest
      (c, w :: rest, moved)

/-! ### The clock -/

def answerTime? (c : Stage) (ticket : Ticket) : Option Nat :=
  (c.world.promises[ticket]?).map PromisedAnswer.due

def fetchTime? (c : Stage) (f : Fetch) : Option Nat :=
  match f.status with
  | .pending ticket => answerTime? c ticket
  | _ => none

/-- When a job goes on at the latest, as far as it is known. -/
def jobTimes (c : Stage) : Job → List Nat
  | .request _ ticket => (answerTime? c ticket).toList
  | .crawl crawl => crawl.fetches.filterMap (fetchTime? c)
  | job => job.deadline?.toList

/-- When work goes on at the latest, as far as it is known. -/
def workTimes (c : Stage) : Work → List Nat
  | .start due _ | .sleep due => [due]
  | .action job => jobTimes c job
  | .script run =>
    match run.phase with
    | .delay _ due => [due]
    | .act job => jobTimes c job
  | .done .. => []

def nextTime? (c : Stage) (work : List Work) : Option Nat :=
  ((c.world.agenda.head?.map Appointment.due).toList ++ work.flatMap (workTimes c)).min?

def happen (c : Stage) (a : Appointment) : Stage :=
  match a.what with
  | .signal s => Client.deliver a.channel c s
  | .answer =>
    let (world, signals) := c.world.answerAttempt a.channel
    Client.deliverAll a.channel signals { c with world }

def happenDue (c : Stage) : Stage :=
  let due := c.world.agenda.takeWhile fun a => a.due ≤ c.now
  due.foldl happen
    (modifyServers c fun s => { s with agenda := s.agenda.dropWhile fun a => a.due ≤ s.now })

/-- Sets the clock, which never goes back, and carries out what is due. -/
def setClock (c : Stage) (time : Nat) : Stage :=
  happenDue (modifyServers c fun s => { s with now := max s.now time })

def isDone : Work → Bool
  | .done .. => true
  | _ => false

/-- Carries work on to its end, over at most `turns` passes. -/
def finish : (turns : Nat) → Stage → List Work → Stage × List Work
  | 0, c, work => (c, work)
  | turns + 1, c, work =>
    match pass c work with
    | (c, work, true) => finish turns c work
    | (c, work, false) =>
      if work.all isDone then (c, work)
      else match nextTime? c work with
        | none => (c, work)
        | some time => finish turns (setClock c time) work

/-- More passes than any scenario takes. -/
def maxTurns : Nat := 0x100000000

/-- Carries some steps to their end, each started after its own time. Afterwards all that is due
happens. -/
def perform (c : Stage) (steps : List (Nat × Step)) : Stage × List (StepResult × Nat) :=
  let (c, work) := finish maxTurns c (steps.map fun (ms, step) => .start (c.now + ms) step)
  (happenDue c, work.map fun
    | .done result time => (result, time)
    | _ => (.nothing, c.now))

end Stage

/-! ### What can be seen -/

structure ChannelView where
  ns : String
  state : ChannelState
  listeners : Nat
  /-- How often the client closed it. -/
  closings : Nat
  /-- What the client sent over it. -/
  emitted : List (List Json)

def emitted (channel : ChannelId) (log : List TransportCall) : List (List Json) :=
  log.filterMap fun
    | .emit ch args true => if ch = channel then some args else none
    | _ => none

/-- The channels, in the order in which they were opened; `log` is that of the last step. -/
def Stage.channelViews (c : Stage) (log : List TransportCall) : List ChannelView :=
  c.world.channels.zipIdx.map fun (ch, i) =>
    { ns := ch.ns
      state := ch.state
      listeners := (c.listenersOn i).size
      closings := closings i c.log
      emitted := emitted i log }

end LiveSession.Scenario
