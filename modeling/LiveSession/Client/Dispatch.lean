import LiveSession.Client.Connect
import LiveSession.Client.Crawl
import LiveSession.Client.Watch

/-!
# Dispatch

`Client.dispatch` starts an action and carries it on to its end, or to the point where it has to
wait. What it then waits for is a `Job`; `Client.poll` carries a job on. Any number of jobs may be
in flight on one client.
-/

namespace LiveSession

/-- What an action in flight waits for. -/
inductive Job where
  | request (r : RequestAction) (ticket : Ticket)
  | crawl (crawl : Crawl)
  /-- The channel is watched next, if there is a watch. -/
  | connect (pending : PendingChannel) (race : RaceId) (limit deadline : Nat) (next : Option Watch)
  | watch (channel : ChannelId) (w : Watch) (deadline : Nat)

def Job.deadline? : Job → Option Nat
  | .connect _ _ _ deadline _ | .watch _ _ deadline => some deadline
  | .request .. | .crawl _ => none

inductive Progress where
  | done (result : ActionResult)
  | waiting (job : Job)

namespace Client

variable {ω : Type} [Transports ω]

def ended (r : Client ω × ActionResult) : Client ω × Progress :=
  (r.1, .done r.2)

/-! ### Waiting -/

def isFetchReady (c : Client ω) (f : Fetch) : Bool :=
  match f.status with
  | .unsent => true
  | .pending ticket => (Transports.answer? ticket c.world).isSome
  | .loaded | .failed _ => false

def isReady (c : Client ω) : Job → Bool
  | .request _ ticket => (Transports.answer? ticket c.world).isSome
  | .crawl crawl => crawl.fetches.any c.isFetchReady
  | .connect _ race _ deadline _ => (c.judge race deadline connectVerdict).isSome
  | .watch _ w deadline => (c.judge w.race deadline w.kind.accept).isSome

/-! ### Carrying on -/

def pollRequest (c : Client ω) (r : RequestAction) (ticket : Ticket) : Client ω × Progress :=
  match c.finishRequest? r ticket with
  | some done => ended done
  | none => (c, .waiting (.request r ticket))

def pollCrawlJob (c : Client ω) (crawl : Crawl) : Client ω × Progress :=
  match c.pollCrawl crawl with
  | (c, .inl result) => (c, .done result)
  | (c, .inr crawl) => (c, .waiting (.crawl crawl))

def pollWatch (c : Client ω) (channel : ChannelId) (w : Watch) (deadline : Nat) :
    Client ω × Progress :=
  match c.finishWatch? w deadline with
  | some done => ended done
  | none => (c, .waiting (.watch channel w deadline))

/-- Goes on after an attempt to connect: a failure ends the action and the watch that was to follow;
after a success the time of the watch begins. -/
def afterConnect (c : Client ω) (channel : SocketChannel) (next : Option Watch) :
    Except Error Unit → Client ω × Progress
  | .error e => (next.elim c fun w => c.release w.race, .done (.error e))
  | .ok () =>
    match next with
    | none => (c, .done (.ok (.connected channel.ns)))
    | some w => c.pollWatch channel.handle w (c.now + w.limit)

def pollConnect (c : Client ω) (p : PendingChannel) (race : RaceId) (limit deadline : Nat)
    (next : Option Watch) : Client ω × Progress :=
  match c.judge race deadline connectVerdict with
  | none => (c, .waiting (.connect p race limit deadline next))
  | some result =>
    let (c, recorded) := (c.release race).finishConnect p limit result
    c.afterConnect p.channel next recorded

def poll (c : Client ω) : Job → Client ω × Progress
  | .request r ticket => c.pollRequest r ticket
  | .crawl crawl => c.pollCrawlJob crawl
  | .connect p race limit deadline next => c.pollConnect p race limit deadline next
  | .watch channel w deadline => c.pollWatch channel w deadline

/-! ### Starting -/

def dispatchRequest (c : Client ω) (kind : HttpKind) (r : RequestAction) : Client ω × Progress :=
  match c.startRequest kind r with
  | (c, .error e) => (c, .done (.error e))
  | (c, .ok ticket) => c.pollRequest r ticket

def establish (c : Client ω) (p : PendingChannel) (limit : Nat) (next : Option Watch) :
    Client ω × Progress :=
  match c.startConnect p with
  | (c, none) =>
    let (c, recorded) := c.recordChannel p
    c.afterConnect p.channel next recorded
  | (c, some race) => c.pollConnect p race limit (c.now + limit) next

def dispatchConnect (c : Client ω) (a : ConnectAction) : Client ω × Progress :=
  let ns := c.profile.namespaceOf a.ns
  let (c, limit) := c.draw (c.profile.timeout a.timeout)
  match c.openChannel .channelConnect ns with
  | (c, .error e) => (c, .done (.error e))
  | (c, .ok p) => c.establish p limit none

def dispatchWatch (c : Client ω) (action : ActionKind) (kind : WatchKind) (w : WatchAction) :
    Client ω × Progress :=
  let ns := c.profile.namespaceOf w.ns
  let (c, limit) := c.draw (c.profile.timeout w.timeout)
  match c.session.channel action.name ns with
  | .error e => (c, .done (.error e))
  | .ok channel =>
    let (c, race) := c.install channel.handle [w.event]
    c.pollWatch channel.handle { kind, ns, event := w.event, race, limit } (c.now + limit)

/-- Starts a connect and watch. The limit of the connect is its own, else that of the watch. -/
def dispatchConnectWatch (c : Client ω) (action : ActionKind) (kind : WatchKind)
    (a : ConnectWatchAction) : Client ω × Progress :=
  let ns := c.profile.namespaceOf a.ns
  let (c, connectLimit) := c.draw (c.profile.timeout (a.connectTimeout <|> a.timeout))
  let (c, limit) := c.draw (c.profile.timeout a.timeout)
  match c.openChannel action ns with
  | (c, .error e) => (c, .done (.error e))
  | (c, .ok p) =>
    let (c, race) := c.install p.channel.handle [a.event]
    c.establish p connectLimit (some { kind, ns, event := a.event, race, limit })

def dispatch (c : Client ω) : Action → Client ω × Progress
  | .http kind r => c.dispatchRequest kind (kind.force r)
  | .pageUnload => (c.unloadPage, .done (.ok .none))
  | .loadStaticAssets a => c.pollCrawlJob (c.crawlOf a)
  | .connect a => c.dispatchConnect a
  | .emit e => ended (c.emit e)
  | .awaitEmit w => c.dispatchWatch .awaitEmit .expect w
  | .confirmNoEmit w => c.dispatchWatch .confirmNoEmit (.forbid fun _ => true) w
  | .confirmNoMatchingEmit w counts => c.dispatchWatch .confirmNoMatchingEmit (.forbid counts) w
  | .connectAndAwaitEmit a => c.dispatchConnectWatch .connectAndAwaitEmit .expect a
  | .connectAndConfirmNoEmit a =>
    c.dispatchConnectWatch .connectAndConfirmNoEmit (.forbid fun _ => true) a

def dispatchJson (c : Client ω) (v : Json) : Client ω × Progress :=
  match Action.ofJson v with
  | .error e => (c, .done (.error e))
  | .ok action => c.dispatch action

end Client

end LiveSession
