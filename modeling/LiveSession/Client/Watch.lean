import LiveSession.Client.Basic

/-!
# Sending of events and watching for them

A watch is a race for one event. It either expects the event, and fails when the time is over, or
forbids it, and fails when it arrives. An occurrence that is reported becomes the current event of
the session.
-/

namespace LiveSession

inductive WatchKind where
  | expect
  /-- Only occurrences with such arguments count. -/
  | forbid (counts : ArgsPredicate)

structure Watch where
  kind : WatchKind
  ns : String
  event : String
  race : RaceId
  /-- In milliseconds. -/
  limit : Nat

def WatchKind.accept (k : WatchKind) (o : Occurrence) : Option (List Json) :=
  match k with
  | expect => some o.args
  | forbid counts => if counts o.args then some o.args else none

namespace Client

variable {ω : Type} [Transports ω]

def capture (c : Client ω) (e : SocketEvent) : Client ω :=
  { c with session := { c.session with event := some e } }

def endWatch (c : Client ω) (w : Watch) : RaceResult (List Json) → Client ω × ActionResult
  | .resolved args =>
    let e : SocketEvent := { ns := w.ns, name := w.event, args }
    (c.capture e,
      match w.kind with
      | .expect => .ok (.event e)
      | .forbid _ => .error (.unexpectedEmit e))
  | .elapsed =>
    (c,
      match w.kind with
      | .expect => .error (.awaitTimeout w.event w.ns w.limit)
      | .forbid _ => .ok .none)

/-- Ends a watch with this deadline, if its race is over. -/
def finishWatch? (c : Client ω) (w : Watch) (deadline : Nat) : Option (Client ω × ActionResult) :=
  (c.judge w.race deadline w.kind.accept).map fun result => (c.release w.race).endWatch w result

def namelessEmit : Error :=
  .invalidArgument "emit requires a non-empty argument list starting with the event name"

def emit (c : Client ω) (e : EmitAction) : Client ω × ActionResult :=
  match c.session.channel ActionKind.emit.name (c.profile.namespaceOf e.ns) with
  | .error err => (c, .error err)
  | .ok channel =>
    match e.args with
    | .str _ :: _ =>
      match Transports.emit channel.handle e.args c.world with
      | .ok world => ({ c.logged (.emit channel.handle e.args true) with world }, .ok .none)
      | .error err => (c.logged (.emit channel.handle e.args false), .error err)
    | _ => (c, .error namelessEmit)

end Client

end LiveSession
