import LiveSession.Client.Basic

/-!
# Opening of channels

A channel is opened for the current page, with the cookies of the session, and then connected. The
first channel of a page starts a new connection. A channel that connects in time is recorded on its
page, if that is still the current one; every other channel is closed.
-/

namespace LiveSession

/-- A channel that is opened but not recorded. -/
structure PendingChannel where
  /-- The page that it was opened for. -/
  page : PageId
  channel : SocketChannel
  deriving Repr

namespace Client

variable {ω : Type} [Transports ω]

def openChannel (c : Client ω) (kind : ActionKind) (ns : String) :
    Client ω × Except Error PendingChannel :=
  match c.session.requirePage kind.name with
  | .error e => (c, .error e)
  | .ok page =>
    let config : ChannelConfig := { forceNew := page.channels.isEmpty, cookie := c.cookies.header? }
    match c.profile.resolve ns with
    | .error e => (c, .error e)
    | .ok url =>
      let c := c.logged (.openChannel url config)
      match Transports.openChannel url config c.world with
      | .error e => (c, .error e)
      | .ok world =>
        let channel : SocketChannel := { ns, config, handle := c.channels.length }
        ({ c with
            world
            channels := c.channels ++ [{}]
            history := c.history ++ [.opened page.id channel] },
          .ok { page := page.id, channel })

/-- Starts to connect a channel. The race waits for the outcome; there is none if the channel is
connected at once. -/
def startConnect (c : Client ω) (p : PendingChannel) : Client ω × Option RaceId :=
  let handle := p.channel.handle
  let (c, race) := c.install handle [connectEvent, connectErrorEvent]
  let (world, signals) := Transports.connect handle c.world
  let c := deliverAll handle signals { c.logged (.connect handle) with world }
  if Transports.stateOf handle c.world = .connected then (c.release race, none)
  else (c, some race)

def describeFailure : List Json → String
  | .str m :: _ => m
  | v :: _ => v.render
  | [] => "connection refused"

/-- What an occurrence says about an attempt: success, or a failure with its message. -/
def connectVerdict (o : Occurrence) : Option (Except String Unit) :=
  some (if o.event = connectEvent then .ok () else .error (describeFailure o.args))

def abandon (c : Client ω) (p : PendingChannel) (e : Error) : Client ω × Except Error Unit :=
  (c.disconnect p.channel.handle, .error e)

/-- Records a connected channel on its page, or closes it if that is no longer the current one. -/
def recordChannel (c : Client ω) (p : PendingChannel) : Client ω × Except Error Unit :=
  if c.session.page.any fun page => page.id = p.page then
    ({ c with
        session := c.session.record p.channel
        history := c.history ++ [.recorded p.page p.channel] },
      .ok ())
  else c.abandon p (.noPageLoaded ActionKind.channelConnect.name)

/-- Ends an attempt that was to take at most `limit`. -/
def finishConnect (c : Client ω) (p : PendingChannel) (limit : Nat) :
    RaceResult (Except String Unit) → Client ω × Except Error Unit
  | .resolved (.ok ()) => c.recordChannel p
  | .resolved (.error m) => c.abandon p (.connectFailed p.channel.ns m)
  | .elapsed => c.abandon p (.connectTimeout p.channel.ns limit)

end Client

end LiveSession
