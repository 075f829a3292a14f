import LiveSession.Connection.Multiplexer
import LiveSession.Proofs.Url.Rereading

/-!
# The server of a URL

A connection is shared by the URLs of one server: those that agree on being secure, on the host and on
the port that counts. `handshake_text_iff` says that the URLs of the handshakes tell the servers apart,
and `handshakeUrl_eq` that there is a handshake for every URL whose host is read again.
-/

namespace LiveSession

/-- What of a URL a connection depends on. -/
structure Server where
  secure : Option Bool
  host : Option Url.Host
  port : Option Nat
  deriving DecidableEq, Repr

def wireScheme (secure : Bool) : String :=
  if secure then "wss" else "ws"

/-- The URL of the handshake with a server. -/
def Server.handshake (s : Server) : Url :=
  let scheme := wireScheme (s.secure = some true)
  { scheme
    host := s.host
    port := if s.port = Url.defaultPort? scheme then none else s.port
    path := .segments ["socket.io", ""]
    query := some "EIO=3&transport=websocket" }

namespace Url

open Text

/-- Schemes of URLs for which channels can be opened. -/
def IsServed (scheme : String) : Prop :=
  scheme = "http" ∨ scheme = "ws" ∨ scheme = "https" ∨ scheme = "wss"

def secure? (u : Url) : Option Bool :=
  if u.scheme = "http" ∨ u.scheme = "ws" then some false
  else if u.scheme = "https" ∨ u.scheme = "wss" then some true
  else none

def server (u : Url) : Server :=
  { secure := u.secure?, host := u.host, port := u.effectivePort? }

/-- A URL with a supported scheme as it is read: it has a host, and a port that is no default. -/
structure Served (u : Url) : Prop where
  scheme : IsServed u.scheme
  host : ∃ h, u.host = some h ∧ h.Canonical
  port : ∀ p ∈ u.port, p < 65536 ∧ defaultPort? u.scheme ≠ some p

/-- The text of the host is read as that host. -/
def Rereads (u : Url) : Prop :=
  ∃ h, u.host = some h ∧ readHost true h.text.toList = .ok h

variable {u v : Url} {h h' : Host} {cs rest : List Char} {scheme s : String} {fault : Fault}

/-! ### URLs that were read -/

theorem IsServed.isSpecial (served : IsServed scheme) : isSpecial scheme = true ∧ scheme ≠ "file" := by
  rcases served with rfl | rfl | rfl | rfl <;> decide

theorem ports_withPort? (portless : u.port = none) {port : Option Nat} (small : ∀ p ∈ port, p < 65536) :
    ∀ p ∈ (u.withPort? port).port, p < 65536 ∧ defaultPort? u.scheme ≠ some p := by
  cases port with
  | none =>
    intro p kept
    rw [withPort?, Option.elim_none, portless] at kept
    cases kept
  | some q =>
    intro p kept
    simp only [withPort?, Option.elim_some, withPort] at kept
    split at kept
    · cases kept
    · rename_i other
      cases kept
      exact ⟨small q rfl, other⟩

theorem served_of_readFromHost {hadUser : Bool} (scheme : IsServed u.scheme) (portless : u.port = none)
    (read : readFromHost u hadUser cs = .ok v) : v.Served := by
  obtain ⟨h, host, after⟩ := readFromHost_cases read
  rw [scheme.isSpecial.1] at host
  have canonical := canonical_of_readHost host
  have served (port : Option Nat) (small : ∀ p ∈ port, p < 65536) (cs : List Char) :
      (readPathAfterHost ({ u with host := some h }.withPort? port) cs).Served := by
    have beside := readPathAfterHost_beside ({ u with host := some h }.withPort? port) cs
    have ports := ports_withPort? (u := { u with host := some h }) portless small
    have kept : ({ u with host := some h }.withPort? port).scheme = u.scheme ∧
        ({ u with host := some h }.withPort? port).host = some h := by
      cases port <;> exact ⟨rfl, rfl⟩
    refine ⟨?_, ⟨h, beside.host.trans kept.2, canonical⟩, ?_⟩
    · rw [beside.scheme, kept.1]
      exact scheme
    · rw [beside.port, beside.scheme, kept.1]
      exact ports
  obtain ⟨after, port, rest, _, ported, rfl⟩ | ⟨_, rfl⟩ := after
  · exact served port (lt_of_readPort ported) rest
  · exact served none nofun _

theorem served_of_parse (read : parse s = .ok u) (served : IsServed u.scheme) : u.Served := by
  unfold parse Url.read at read
  dsimp only at read
  split at read
  · rename_i scheme rest _
    split at read
    · exact absurd (scheme_of_readFile read) served.isSpecial.2
    · unfold readWithScheme at read
      split at read
      · have same : u.scheme = scheme := scheme_of_readAfterSlashes read
        obtain ⟨_, _, read | ⟨_, read⟩⟩ := readAfterSlashes_cases read
        · exact served_of_readFromHost (same ▸ served) rfl read
        · exact served_of_readFromHost (same ▸ served) rfl read
      · rename_i other
        rw [scheme_of_readOther read] at served
        exact absurd served.isSpecial.1 other
  · cases read

/-! ### Hosts by themselves -/

theorem cutUser_of_not_mem (special : Bool) (plain : '@' ∉ cs) : cutUser special cs = none := by
  have absent : '@' ∉ (cs.takeWhile fun c => !(isSlash special c || endsPath c)).reverse := fun member =>
    plain ((List.takeWhile_prefix _).subset (List.mem_reverse.mp member))
  unfold cutUser
  simp only [cut?_eq_none.mpr absent]

theorem readAfterSlashes_of_not_mem (plain : '@' ∉ cs) :
    readAfterSlashes u cs = readFromHost u false cs := by
  unfold readAfterSlashes
  simp only [cutUser_of_not_mem _ plain]

/-- Nothing but a host is read as a URL with that host, if it is. -/
theorem readFromHost_text (special : isSpecial u.scheme = true) (canonical : h.Canonical) :
    readFromHost u false h.text.toList =
      (readHost true h.text.toList).map fun h' => readPathAfterHost { u with host := some h' } [] := by
  have ends : EndsHost [] := nofun
  have length := canonical.hostLength_text ends
  rw [List.append_nil] at length
  have some_ : h.text.toList.length ≠ 0 := by simpa using canonical.text_ne_nil
  unfold readFromHost
  simp only [special, length, List.take_length, List.drop_length]
  rw [if_neg fun both => some_ both.1]
  cases readHost true h.text.toList <;> rfl

theorem parse_host (secure : Bool) (canonical : h.Canonical) :
    parse (wireScheme secure ++ "://" ++ h.text) =
      (readHost true h.text.toList).map fun h' =>
        readPathAfterHost { bare (wireScheme secure) with host := some h' } [] := by
  have special : isSpecial (wireScheme secure) = true := by cases secure <;> decide
  have notFile : wireScheme secure ≠ "file" := by cases secure <;> decide
  have cut (cs : List Char) :
      cutScheme? ((wireScheme secure).toList ++ ':' :: cs) = some (wireScheme secure, cs) := by
    cases secure <;> rfl
  have within : ∀ c ∈ h.text.toList, isWithinHost c = true := fun c => canonical.mem_text
  have plain : '@' ∉ h.text.toList := fun member => absurd (within _ member) (by decide)
  have slashless : ∀ c ∈ h.text.toList.head?, isSlash true c = false := fun c head =>
    not_isSlash (within c (List.mem_of_head? head)) true
  have visible : ∀ c ∈ (wireScheme secure).toList ++ ':' :: '/' :: '/' :: h.text.toList,
      isEdge c = false := by
    have front : ((wireScheme secure).toList ++ [':', '/', '/']).any isEdge = false := by
      cases secure <;> rfl
    intro c member
    rw [List.mem_append, List.mem_cons, List.mem_cons, List.mem_cons] at member
    rcases member with scheme | rfl | rfl | rfl | host
    · exact Bool.eq_false_iff.mpr (List.any_eq_false.mp front c (List.mem_append_left _ scheme))
    · decide
    · decide
    · decide
    · exact not_isEdge (within c host)
  have written : (wireScheme secure ++ "://" ++ h.text).toList =
      (wireScheme secure).toList ++ ':' :: '/' :: '/' :: h.text.toList := by simp
  have counts : significant (stripWhile isEdge (wireScheme secure ++ "://" ++ h.text).toList) =
      (wireScheme secure).toList ++ ':' :: '/' :: '/' :: h.text.toList := by
    have shown := shown_append visible (by simp) []
    rw [List.append_nil] at shown
    rw [written, shown]
    exact List.append_nil _
  unfold parse Url.read
  simp only [counts, cut, if_neg notFile, readWithScheme_authority special _ slashless]
  rw [readAfterSlashes_of_not_mem plain]
  exact readFromHost_text (u := bare (wireScheme secure)) special canonical

/-! ### Handshakes -/

theorem Served.secure? (served : u.Served) : ∃ secure, u.secure? = some secure ∧
    socketScheme u = .ok (wireScheme secure) ∧ defaultPort? (wireScheme secure) = defaultPort? u.scheme := by
  have cases := served.scheme
  unfold Url.secure? socketScheme
  rcases cases with scheme | scheme | scheme | scheme <;> rw [scheme]
  · exact ⟨false, rfl, rfl, rfl⟩
  · exact ⟨false, rfl, rfl, rfl⟩
  · exact ⟨true, rfl, rfl, rfl⟩
  · exact ⟨true, rfl, rfl, rfl⟩

/-- A handshake keeps the port of the URL, because the default ports are the same. -/
theorem Served.handshake_eq (served : u.Served) {secure : Bool} (secured : u.secure? = some secure)
    (standard : defaultPort? (wireScheme secure) = defaultPort? u.scheme) :
    u.server.handshake =
      { scheme := wireScheme secure
        host := u.host
        port := u.port
        path := .segments ["socket.io", ""]
        query := some "EIO=3&transport=websocket" } := by
  have wire : wireScheme (u.secure? = some true) = wireScheme secure := by
    rw [secured]
    cases secure <;> rfl
  have port : (if u.effectivePort? = defaultPort? u.scheme then none else u.effectivePort?) = u.port := by
    unfold effectivePort?
    cases kept : u.port with
    | none => exact if_pos rfl
    | some p => exact if_neg fun same => (served.port p kept).2 same.symm
  unfold Server.handshake server
  dsimp only
  rw [wire, standard, port]

theorem hostText?_eq (host : u.host = some h) (canonical : h.Canonical) : u.hostText? = some h.text := by
  have named : h ≠ .domain "" := by
    rintro rfl
    exact canonical.text_ne_nil rfl
  unfold hostText?
  rw [host]
  split
  · contradiction
  · rename_i same
    exact absurd (Option.some.inj same) named
  · rename_i same
    cases same
    rfl

/-- A URL with nothing but a host ends where its host does. -/
theorem readPathAfterHost_nil (secure : Bool) (h : Host) :
    readPathAfterHost { bare (wireScheme secure) with host := some h } [] =
      { bare (wireScheme secure) with host := some h, path := .segments [""] } := by
  cases secure <;> rfl

/-- There is a handshake for every URL whose host is read again; only a name may not be. -/
theorem handshakeUrl_eq (served : u.Served) :
    (u.Rereads ∧ handshakeUrl u = .ok u.server.handshake) ∨
      (¬ u.Rereads ∧ ∃ name fault, u.host = some (.domain name) ∧ Idna.toAscii? name.toList = none ∧
        handshakeUrl u = .error (.url fault)) := by
  obtain ⟨h, host, canonical⟩ := served.host
  obtain ⟨secure, secured, scheme, standard⟩ := served.secure?
  have parsed := parse_host secure canonical
  cases read : readHost true h.text.toList with
  | error fault =>
    obtain ⟨name, rfl, unread⟩ := canonical.unread read
    refine .inr ⟨?_, name, fault, host, unread, ?_⟩
    · rintro ⟨h', host', read'⟩
      cases host.symm.trans host'
      rw [read] at read'
      cases read'
    · rw [read] at parsed
      simp only [handshakeUrl, scheme, hostText?_eq host canonical, parsed, bind, Except.bind, Except.map]
  | ok h' =>
    cases canonical.readHost_text read
    refine .inl ⟨⟨h, host, read⟩, ?_⟩
    rw [read] at parsed
    rw [served.handshake_eq secured standard]
    simp only [handshakeUrl, scheme, hostText?_eq host canonical, parsed, bind, Except.bind, Except.map,
      readPathAfterHost_nil, host]
    cases kept : u.port with
    | none => rfl
    | some p =>
      have other : ¬ defaultPort? (wireScheme secure) = some p := fun same =>
        (served.port p kept).2 (standard ▸ same)
      simp only [Option.elim_some, withPort, bare, if_neg other]
      rfl

/-! ### Servers told apart -/

theorem toList_handshake (served : u.Served) {secure : Bool} (secured : u.secure? = some secure)
    (standard : defaultPort? (wireScheme secure) = defaultPort? u.scheme) (host : u.host = some h) :
    u.server.handshake.text.toList = (wireScheme secure).toList ++ ':' :: '/' :: '/' ::
      (hostPort h u.port ++ '/' :: "socket.io/?EIO=3&transport=websocket".toList) := by
  have ported : (u.port.elim "" fun p => ":" ++ toString p).toList =
      u.port.elim [] fun p => ':' :: Nat.toDigits 10 p := by
    cases u.port <;> simp
  rw [served.handshake_eq secured standard]
  simp only [text, authorityText, userText, pathText, host, hostPort, String.toList_append, ported]
  simp

theorem endsHost_ports (port : Option Nat) : EndsHost (port.elim [] fun p => ':' :: Nat.toDigits 10 p) := by
  cases port with
  | none => exact nofun
  | some p =>
    intro c head
    cases head
    exact .inl rfl

theorem hostPort_inj {port port' : Option Nat} (canonical : h.Canonical) (canonical' : h'.Canonical)
    (read : readHost true h.text.toList = .ok h) (same : hostPort h port = hostPort h' port') :
    h = h' ∧ port = port' := by
  have length := canonical.hostLength_text (endsHost_ports port)
  have length' := canonical'.hostLength_text (endsHost_ports port')
  unfold hostPort at same
  rw [same, length'] at length
  obtain ⟨texts, ports⟩ := List.append_inj same length.symm
  constructor
  · rw [texts] at read
    exact canonical'.readHost_text read
  · cases port with
    | none =>
      cases port' with
      | none => rfl
      | some p' => cases ports
    | some p =>
      cases port' with
      | none => cases ports
      | some p' =>
        have digits : Nat.toDigits 10 p = Nat.toDigits 10 p' := (List.cons.inj ports).2
        have value (n : Nat) : Nat.ofDigitChars 10 (Nat.toDigits 10 n) 0 = n :=
          Nat.ofDigitChars_toDigits (by decide) (by decide)
        rw [← value p, digits, value p']

/-- The URLs of two handshakes are the same text exactly if the URLs are of one server. -/
theorem handshake_text_iff (served : u.Served) (served' : v.Served) (rereads : u.Rereads) :
    u.server.handshake.text = v.server.handshake.text ↔ u.server = v.server := by
  refine ⟨fun same => ?_, fun same => by rw [same]⟩
  obtain ⟨h, host, read⟩ := rereads
  obtain ⟨h₁, host₁, canonical⟩ := served.host
  cases host.symm.trans host₁
  obtain ⟨h', host', canonical'⟩ := served'.host
  obtain ⟨secure, secured, _, standard⟩ := served.secure?
  obtain ⟨secure', secured', _, standard'⟩ := served'.secure?
  have chars := congrArg String.toList same
  rw [toList_handshake served secured standard host,
    toList_handshake served' secured' standard' host'] at chars
  -- The schemes differ in their third character.
  obtain ⟨rfl, rest⟩ : secure = secure' ∧ hostPort h u.port = hostPort h' v.port := by
    cases secure <;> cases secure' <;> simp [wireScheme] at chars <;> exact ⟨rfl, chars⟩
  obtain ⟨rfl, port⟩ := hostPort_inj canonical canonical' read rest
  simp only [server, secured, secured', host, host', effectivePort?, port, ← standard, ← standard']

end Url

end LiveSession
