import LiveSession.Error
import LiveSession.Json.Read
import LiveSession.Text.Blank

/-!
# Socket packets

A packet of the channel protocol is written as a digit for its kind, the namespace with a comma
unless it is the root, the number of the acknowledgement, and the JSON text of its data, with
nothing between the parts. `SocketPacket.decode` finds the parts again.
-/

namespace LiveSession

def rootNamespace : String := "/"

/-- A client's namespace on the wire, where the root is not empty. -/
def wireNamespace (ns : String) : String :=
  if ns.isEmpty then rootNamespace else ns

inductive PacketKind where
  | connect
  | disconnect
  | event
  | ack
  | error
  deriving DecidableEq, Repr

def PacketKind.digit : PacketKind → Char
  | connect => '0'
  | disconnect => '1'
  | event => '2'
  | ack => '3'
  | error => '4'

def PacketKind.ofDigit (c : Char) : Except Error PacketKind :=
  if c = '0' then .ok connect
  else if c = '1' then .ok disconnect
  else if c = '2' then .ok event
  else if c = '3' then .ok ack
  else if c = '4' then .ok error
  else if c = '5' ∨ c = '6' then .error (.protocol "binary packets are not supported")
  else .error (.protocol ("unknown socket packet type " ++ Text.quotedChar c))

/-- One packet of the channel protocol. -/
structure SocketPacket where
  kind : PacketKind
  /-- The namespace on the wire. -/
  ns : String
  /-- The number of the acknowledgement, below `2 ^ 64`. -/
  id : Option Nat := none
  data : Option Json := none

namespace SocketPacket

def connect (ns : String) : SocketPacket := { kind := .connect, ns }

def disconnect (ns : String) : SocketPacket := { kind := .disconnect, ns }

def event (ns : String) (args : List Json) : SocketPacket :=
  { kind := .event, ns, data := some (.arr args) }

def nsText (ns : String) : String :=
  if ns = rootNamespace then "" else ns ++ ","

def encode (p : SocketPacket) : String :=
  String.singleton p.kind.digit ++ nsText p.ns ++ (p.id.elim "" toString) ++
    (p.data.elim "" Json.render)

def cutNamespace (cs : List Char) : String × List Char :=
  match cs with
  | '/' :: _ =>
    match Text.cut? ',' cs with
    | some (ns, rest) => (String.ofList ns, rest)
    | none => (String.ofList cs, [])
  | _ => (rootNamespace, cs)

def idLimit : Nat := Json.wordLimit

/-- The number at the start of a text, if it starts with a digit, and what follows it. -/
def cutId? (cs : List Char) : Option (Option Nat × List Char) :=
  match Document.spanDigits cs with
  | ([], _) => some (none, cs)
  | (ds, rest) =>
    let n := Literal.digitsValue ds
    if n < idLimit then some (some n, rest) else none

/-- The data that the rest of a text stands for, if there is any rest. -/
def readData : List Char → Except Error (Option Json)
  | [] => .ok none
  | rest =>
    match Json.parse? (String.ofList rest) with
    | some v => .ok (some v)
    | none => .error .malformed

def decode (text : String) : Except Error SocketPacket :=
  match text.toList with
  | [] => .error (.protocol "empty socket packet")
  | c :: rest => do
    let kind ← PacketKind.ofDigit c
    let (ns, afterNs) := cutNamespace rest
    match cutId? afterNs with
    | none => .error (.protocol ("bad ack id in " ++ Text.quoted text))
    | some (id, afterId) => return { kind, ns, id, data := ← readData afterId }

/-- The name and the arguments of an event: an array that begins with a string. -/
def eventParts? (p : SocketPacket) : Option (String × List Json) :=
  match p.data with
  | some (.arr (.str name :: args)) => some (name, args)
  | _ => none

/-- The message of an error packet: its text, its member `message`, or its JSON text. -/
def errorMessage (p : SocketPacket) : String :=
  match p.data with
  | some (.str m) => m
  | some (.obj members) =>
    match Entries.find? "message" members with
    | some (.str m) => m
    | _ => (Json.obj members).render
  | some v => v.render
  | none => "namespace connect refused"

end SocketPacket

end LiveSession
