import LiveSession.Proofs.Connection.Buffers

/-!
# What a channel says of its connection

A channel dispatches three events of its own beside those of the application. The notes of a channel
are its attempts to connect and what it dispatches, as its calls come in: from the client, from the hub
at any time, and with anything else going on on the hub in between. `lifecycle` is the order that they
keep.
-/

namespace LiveSession

/-- What happens to a channel: the client acts on it, or the hub tells it something. `elsewhere` puts
any other hub around it, with whatever has happened there. -/
inductive ChannelCall where
  | connect
  | disconnect
  | emit (args : List Json)
  | connected
  | refused (message : String)
  | closed (reason : String)
  | event (name : String) (args : List Json)
  | elsewhere (hub : Hub)

/-- An event that a channel does not dispatch of itself. -/
def IsApplicationEvent (name : String) : Prop :=
  name ≠ connectEvent ∧ name ≠ connectErrorEvent ∧ name ≠ disconnectEvent

/-- The events that arrive are the application's. -/
def ChannelCall.IsPlain : ChannelCall → Prop
  | event name _ => IsApplicationEvent name
  | _ => True

inductive ChannelNote where
  /-- A call to connect has started an attempt. -/
  | attempt
  | told (event : String)
  deriving DecidableEq

namespace ChannelNote

variable {notes : List ChannelNote} {note : ChannelNote} {name : String}

/-- A connect was told, and neither an error nor a disconnect since. -/
def Connected (notes : List ChannelNote) : Prop :=
  ∃ early late, notes = early ++ told connectEvent :: late ∧
    told connectErrorEvent ∉ late ∧ told disconnectEvent ∉ late

/-- An attempt was started, and no connect told since. -/
def Attempting (notes : List ChannelNote) : Prop :=
  ∃ early late, notes = early ++ attempt :: late ∧ told connectEvent ∉ late

theorem connected_append (connected : Connected notes) (application : IsApplicationEvent name) :
    Connected (notes ++ [told name]) := by
  obtain ⟨early, late, rfl, failed, closed⟩ := connected
  obtain ⟨-, error, disconnect⟩ := application
  refine ⟨early, late ++ [told name], by simp, ?_, ?_⟩
  · simp [failed, Ne.symm error]
  · simp [closed, Ne.symm disconnect]

end ChannelNote

open ChannelNote

/-- What a channel in the state `s` may tell, and its state then. -/
inductive ChannelState.Tells : ChannelState → ChannelState → String → Prop
  | connected : Tells .connecting .connected connectEvent
  | failed (s : ChannelState) : Tells s .errored connectErrorEvent
  | closed : Tells .connected .closed disconnectEvent
  | heard {name : String} (application : IsApplicationEvent name) : Tells .connected .connected name

/-- The notes of a channel in the state `s` are in order. -/
structure Orderly (s : ChannelState) (notes : List ChannelNote) : Prop where
  up : s = .connected → Connected notes
  trying : s = .connecting → Attempting notes
  events : ∀ before name after, notes = before ++ told name :: after → IsApplicationEvent name →
    Connected before
  connects : ∀ before after, notes = before ++ told connectEvent :: after → Attempting before

namespace Orderly

variable {s s' : ChannelState} {notes : List ChannelNote} {note : ChannelNote} {name : String}

theorem fresh : Orderly .idle [] :=
  ⟨nofun, nofun, fun before _ after split => by simp at split, fun before after split => by simp at split⟩

theorem silent (orderly : Orderly s notes) (same : s' = s ∨ s' = .closed) : Orderly s' notes := by
  rcases same with rfl | rfl
  · exact orderly
  · exact ⟨nofun, nofun, orderly.events, orderly.connects⟩

/-- A note splits notes with one more at their end where it split them before, or it is the new one. -/
theorem split_concat {before after : List ChannelNote} {last : ChannelNote}
    (split : notes ++ [last] = before ++ note :: after) :
    (∃ earlier, notes = before ++ note :: earlier) ∨ note = last ∧ before = notes := by
  rcases List.eq_nil_or_concat after with rfl | ⟨earlier, final, rfl⟩
  · obtain ⟨same, one⟩ := List.append_inj' split rfl
    exact .inr ⟨(List.cons.inj one).1.symm, same.symm⟩
  · rw [List.concat_eq_append, ← List.cons_append, ← List.append_assoc] at split
    exact .inl ⟨earlier, List.append_inj_left' split rfl⟩

theorem attempt (orderly : Orderly s notes) : Orderly .connecting (notes ++ [.attempt]) where
  up := nofun
  trying := fun _ => ⟨notes, [], rfl, List.not_mem_nil⟩
  events := fun before name after split application => by
    rcases split_concat split with ⟨earlier, split⟩ | ⟨same, -⟩
    · exact orderly.events before name earlier split application
    · cases same
  connects := fun before after split => by
    rcases split_concat split with ⟨earlier, split⟩ | ⟨same, -⟩
    · exact orderly.connects before earlier split
    · cases same

theorem tell (orderly : Orderly s notes) (tells : s.Tells s' name) :
    Orderly s' (notes ++ [.told name]) where
  up := fun now => by
    cases tells with
    | connected => exact ⟨notes, [], rfl, List.not_mem_nil, List.not_mem_nil⟩
    | heard application => exact connected_append (orderly.up rfl) application
    | failed | closed => cases now
  trying := fun now => by cases tells <;> cases now
  events := fun before other after split application => by
    rcases split_concat split with ⟨earlier, split⟩ | ⟨same, rfl⟩
    · exact orderly.events before other earlier split application
    -- The new note is an event of the application, so the channel was connected.
    · cases same
      cases tells with
      | heard => exact orderly.up rfl
      | connected => exact absurd rfl application.1
      | failed => exact absurd rfl application.2.1
      | closed => exact absurd rfl application.2.2
  connects := fun before after split => by
    rcases split_concat split with ⟨earlier, split⟩ | ⟨same, rfl⟩
    · exact orderly.connects before earlier split
    · have name_eq : name = connectEvent := (ChannelNote.told.inj same).symm
      cases tells with
      | connected => exact orderly.trying rfl
      | failed | closed => exact absurd name_eq (by decide)
      | heard application => exact absurd name_eq application.1

end Orderly

namespace HubChannel

variable {c c' : HubChannel}

/-- What one call makes of a channel: it tells one event, or none and is closed at most. -/
inductive Says (c c' : HubChannel) : Prop
  | silent (state : c'.state = c.state ∨ c.state ≠ .connected ∧ c'.state = .closed)
      (dispatched : c'.dispatched = c.dispatched)
  | tells {name : String} {args : List Json} {count : Nat} (tells : c.state.Tells c'.state name)
      (dispatched : c'.dispatched = c.dispatched ++ [(name, args, count)])

theorem Says.of_eq (same : c' = c) : Says c c' := by
  rw [same]
  exact .silent (.inl rfl) rfl

end HubChannel

namespace Hub

variable {h : Hub} {id : ChannelId}

def around (h : Hub) (id : ChannelId) (hub : Hub) : Hub :=
  if id < hub.channels.length then { hub with channels := hub.channels.set id (h.channel id) } else h

def call (h : Hub) (id : ChannelId) : ChannelCall → Hub
  | .connect => h.connect id
  | .disconnect => h.disconnect id
  | .emit args => h.emitted id args
  | .connected => h.onConnected id
  | .refused message => h.onConnectError id message
  | .closed reason => h.onClosed id reason
  | .event name args => h.onEvent id name args
  | .elsewhere hub => h.around id hub

def calls (h : Hub) (id : ChannelId) (cs : List ChannelCall) : Hub :=
  cs.foldl (fun h c => h.call id c) h

def attempts (h : Hub) (id : ChannelId) : ChannelCall → Bool
  | .connect => (h.channel id).state ≠ .connecting && (h.channel id).state ≠ .connected
  | _ => false

def told (h : Hub) (id : ChannelId) (c : ChannelCall) : List String :=
  (((h.call id c).channel id).dispatched.drop (h.channel id).dispatched.length).map Prod.fst

def notesOf (h : Hub) (id : ChannelId) (c : ChannelCall) : List ChannelNote :=
  (if h.attempts id c then [.attempt] else []) ++ (h.told id c).map .told

def notes (h : Hub) (id : ChannelId) : List ChannelCall → List ChannelNote
  | [] => []
  | c :: cs => h.notesOf id c ++ (h.call id c).notes id cs

/-! ### One call -/

theorem says_onConnected (below : id < h.channels.length) :
    (h.channel id).Says ((h.onConnected id).channel id) := by
  by_cases waits : (h.channel id).state = .connecting
  · rw [channel_onConnected below waits]
    refine .tells ?_ rfl
    rw [waits]
    exact .connected
  · have same : h.onConnected id = h := if_pos waits
    exact .of_eq (by rw [same])

theorem says_onConnectError (below : id < h.channels.length) (message : String) :
    (h.channel id).Says ((h.onConnectError id message).channel id) := by
  unfold onConnectError Hub.dispatch
  split
  · exact .of_eq rfl
  · rw [channel_modify_twice below]
    exact .tells (.failed _) rfl

theorem says_onClosed (below : id < h.channels.length) (reason : String) :
    (h.channel id).Says ((h.onClosed id reason).channel id) := by
  unfold onClosed Hub.dispatch
  split
  · rename_i connected
    rw [channel_modify_twice below]
    refine .tells ?_ rfl
    rw [connected]
    exact .closed
  · rw [channel_modify_twice below]
    exact .tells (.failed _) rfl
  · exact .of_eq rfl

theorem says_onEvent (below : id < h.channels.length) {name : String} (args : List Json)
    (application : IsApplicationEvent name) :
    (h.channel id).Says ((h.onEvent id name args).channel id) := by
  unfold onEvent Hub.dispatch
  split
  · rename_i connected
    rw [channel_modify_self below]
    refine .tells ?_ rfl
    show ChannelState.Tells _ (h.channel id).state _
    rw [connected]
    exact .heard application
  · exact .of_eq rfl

theorem says_disconnect (below : id < h.channels.length) :
    (h.channel id).Says ((h.disconnect id).channel id) := by
  by_cases closed : (h.channel id).state = .closed
  · rw [disconnect_closed closed]
    exact .of_eq rfl
  · rw [channel_disconnect below closed]
    split
    · rename_i connected
      refine .tells ?_ rfl
      rw [connected]
      exact .closed
    · rename_i other
      exact .silent (.inr ⟨other, rfl⟩) rfl

theorem says_emitted (args : List Json) : (h.channel id).Says ((h.emitted id args).channel id) := by
  unfold emitted
  split
  · rename_i taken
    rcases emit_cases taken with ⟨_, channels, _⟩ | ⟨_, _, kept⟩
    · exact .of_eq (channel_of_channels channels id)
    · rw [kept, channel_modify]
      split
      · exact .silent (.inl rfl) rfl
      · exact .of_eq rfl
  · exact .of_eq rfl

/-- A call to connect is an attempt first, whose end the hub may tell at once. -/
theorem says_connect (below : id < h.channels.length) (starts : h.attempts id .connect = true) :
    ({ h.channel id with state := .connecting } : HubChannel).Says ((h.connect id).channel id) := by
  let h₁ := h.modify id fun c => { c with state := .connecting }
  have below₁ : id < h₁.channels.length := by
    unfold h₁ modify
    rw [List.length_modify]
    exact below
  have marked : h₁.channel id = { h.channel id with state := .connecting } :=
    channel_modify_self below _
  have open_ : (h.channel id).state ≠ .connecting ∧ (h.channel id).state ≠ .connected := by
    simpa [attempts] using starts
  rw [← marked, connect_attaches open_]
  rcases h₁.attach_cases id with ⟨channels, _⟩ | connected | refused
  · exact .of_eq (channel_of_channels channels id)
  · rw [connected]
    exact says_onConnected (h := h₁.withAttached id) below₁
  · rw [refused]
    exact says_onConnectError (h := h₁.withAttached id) below₁ _

theorem connect_stays (stays : h.attempts id .connect = false) : h.connect id = h := by
  unfold connect
  cases state : (h.channel id).state with
  | connecting | connected => rfl
  | _ => simp [attempts, state] at stays

theorem channel_around (below : id < h.channels.length) (hub : Hub) :
    (h.around id hub).channel id = h.channel id ∧ id < (h.around id hub).channels.length := by
  unfold around
  split
  · rename_i within
    refine ⟨?_, by simpa using within⟩
    unfold channel
    simp [within]
  · exact ⟨rfl, below⟩

theorem length_call (below : id < h.channels.length) (c : ChannelCall) :
    id < (h.call id c).channels.length := by
  have only {h' : Hub} (o : Only id h h') : id < h'.channels.length := o.count ▸ below
  cases c with
  | connect => exact only (only_connect h id)
  | disconnect => exact only (only_disconnect h id)
  | emit args => exact only (alone_emitted h id args).only
  | connected => exact only (only_onConnected h id)
  | refused message => exact only (only_onConnectError h id message)
  | closed reason => exact only (only_onClosed h id reason)
  | event name args => exact only (only_onEvent h id name args)
  | elsewhere hub => exact (channel_around below hub).2

/-- What a call makes of a channel, which is connecting before an attempt is answered. -/
theorem says_call (below : id < h.channels.length) {c : ChannelCall} (plain : c.IsPlain) :
    (if h.attempts id c then { h.channel id with state := .connecting } else h.channel id).Says
      ((h.call id c).channel id) := by
  cases c with
  | connect =>
    split
    · rename_i starts
      exact says_connect below starts
    · rename_i stays
      exact .of_eq (congrArg (channel · id) (connect_stays (Bool.eq_false_iff.mpr stays)))
  | disconnect => exact says_disconnect below
  | emit args => exact says_emitted args
  | connected => exact says_onConnected below
  | refused message => exact says_onConnectError below message
  | closed reason => exact says_onClosed below reason
  | event name args => exact says_onEvent below args plain
  | elsewhere hub => exact .of_eq (channel_around below hub).1

theorem told_of_says (before : HubChannel) {c : ChannelCall}
    (same : before.dispatched = (h.channel id).dispatched)
    (speaks : before.Says ((h.call id c).channel id)) :
    (h.told id c = [] ∧ (((h.call id c).channel id).state = before.state ∨
        before.state ≠ .connected ∧ ((h.call id c).channel id).state = .closed)) ∨
      ∃ name, h.told id c = [name] ∧ before.state.Tells ((h.call id c).channel id).state name := by
  unfold told
  cases speaks with
  | silent state dispatched =>
    rw [dispatched, same, List.drop_length]
    exact .inl ⟨rfl, state⟩
  | tells tells dispatched =>
    rw [dispatched, same, List.drop_left]
    exact .inr ⟨_, rfl, tells⟩

theorem orderly_call {notes : List ChannelNote} (below : id < h.channels.length) {c : ChannelCall}
    (plain : c.IsPlain) (orderly : Orderly (h.channel id).state notes) :
    Orderly ((h.call id c).channel id).state (notes ++ h.notesOf id c) := by
  have speaks := says_call below plain
  unfold notesOf
  split at speaks
  · rename_i starts
    rw [if_pos starts, ← List.append_assoc]
    have trying : Orderly .connecting (notes ++ [.attempt]) := orderly.attempt
    rcases told_of_says { h.channel id with state := .connecting } rfl speaks with ⟨nothing, state⟩ | ⟨name, one, tells⟩
    · rw [nothing, List.map_nil, List.append_nil]
      exact trying.silent (state.imp_right And.right)
    · rw [one]
      exact trying.tell tells
  · rename_i stays
    rw [if_neg stays, List.nil_append]
    rcases told_of_says (h.channel id) rfl speaks with ⟨nothing, state⟩ | ⟨name, one, tells⟩
    · rw [nothing, List.map_nil, List.append_nil]
      exact orderly.silent (state.imp_right And.right)
    · rw [one]
      exact orderly.tell tells

theorem told_departing (below : id < h.channels.length) {c : ChannelCall} (plain : c.IsPlain)
    (was : (h.channel id).state = .connected) (now : ((h.call id c).channel id).state ≠ .connected) :
    h.told id c = [disconnectEvent] ∨ h.told id c = [connectErrorEvent] := by
  have stays : h.attempts id c = false := by
    cases c <;> simp [attempts, was]
  have speaks := says_call below plain
  rw [if_neg (Bool.eq_false_iff.mp stays)] at speaks
  rcases told_of_says (h.channel id) rfl speaks with ⟨-, same | ⟨other, -⟩⟩ | ⟨name, one, tells⟩
  · exact absurd (same.trans was) now
  · exact absurd was other
  · rw [one]
    rw [was] at tells
    generalize ((h.call id c).channel id).state = s at now tells
    cases tells with
    | failed => exact .inr rfl
    | closed => exact .inl rfl
    | heard => exact absurd rfl now

theorem channel_call_closed (below : id < h.channels.length)
    (closed : (h.channel id).state = .closed) {c : ChannelCall} (other : c ≠ .connect) :
    (h.call id c).channel id = h.channel id := by
  cases c with
  | connect => exact absurd rfl other
  | disconnect => exact congrArg (channel · id) (disconnect_closed closed)
  | emit args =>
    show (h.emitted id args).channel id = _
    unfold emitted
    split
    · rename_i taken
      rcases emit_cases taken with ⟨connected, _⟩ | ⟨buffers, _⟩
      · rw [closed] at connected
        cases connected
      · rw [closed] at buffers
        cases buffers
    · rfl
  | connected => exact congrArg (channel · id) (if_pos (by rw [closed]; exact nofun))
  | refused message => exact congrArg (channel · id) (if_pos closed)
  | closed reason =>
    show (h.onClosed id reason).channel id = _
    unfold onClosed
    rw [closed]
  | event name args => exact congrArg (channel · id) (if_neg (by rw [closed]; exact nofun))
  | elsewhere hub => exact (channel_around below hub).1

/-! ### Sequences of calls -/

theorem length_calls (below : id < h.channels.length) (cs : List ChannelCall) :
    id < (h.calls id cs).channels.length := by
  induction cs generalizing h with
  | nil => exact below
  | cons c cs ih => exact ih (length_call below c)

theorem orderly_calls {notes : List ChannelNote} (below : id < h.channels.length)
    {cs : List ChannelCall} (plain : ∀ c ∈ cs, c.IsPlain)
    (orderly : Orderly (h.channel id).state notes) :
    Orderly ((h.calls id cs).channel id).state (notes ++ h.notes id cs) := by
  induction cs generalizing h notes with
  | nil =>
    rw [Hub.notes, List.append_nil]
    exact orderly
  | cons c cs ih =>
    obtain ⟨first, rest⟩ := List.forall_mem_cons.mp plain
    rw [Hub.notes, ← List.append_assoc]
    exact ih (length_call below c) rest (orderly_call below first orderly)

theorem channel_calls_closed (below : id < h.channels.length)
    (closed : (h.channel id).state = .closed) {cs : List ChannelCall}
    (none_ : ChannelCall.connect ∉ cs) : (h.calls id cs).channel id = h.channel id := by
  induction cs generalizing h with
  | nil => rfl
  | cons c cs ih =>
    obtain ⟨other, none_⟩ := not_or.mp (mt List.mem_cons.mpr none_)
    have same := channel_call_closed below closed (Ne.symm other)
    exact (ih (length_call below c) (by rw [same]; exact closed) none_).trans same

/-- The life of a channel, whatever happens to it: it dispatches an event of the application only while
it has said that it is connected, and says so at most once for each attempt. When it is not connected
any more it says so once, with an error or a disconnect. After the client has disconnected it, it stays
as it is until it is told to connect again. -/
theorem lifecycle (h : Hub) (ns : String) (cs : List ChannelCall) (plain : ∀ c ∈ cs, c.IsPlain) :
    let id := h.channels.length
    let h₀ := h.create ns
    let h₁ := h₀.calls id cs
    (∀ before name after, h₀.notes id cs = before ++ .told name :: after →
        IsApplicationEvent name → Connected before) ∧
      (∀ before after, h₀.notes id cs = before ++ .told connectEvent :: after →
        Attempting before) ∧
      (∀ c : ChannelCall, c.IsPlain → (h₁.channel id).state = .connected →
        ((h₁.call id c).channel id).state ≠ .connected →
          h₁.told id c = [disconnectEvent] ∨ h₁.told id c = [connectErrorEvent]) ∧
      ∀ later, ChannelCall.connect ∉ later →
        let left := h₁.call id .disconnect
        (left.calls id later).channel id = left.channel id ∧
          (left.calls id later).call id .disconnect = left.calls id later := by
  intro id h₀ h₁
  have below : id < h₀.channels.length := by simp [h₀, create, id]
  have below₁ : id < h₁.channels.length := length_calls below cs
  have new : h₀.channel id = { ns } := by
    unfold channel h₀ create
    rw [List.getElem?_concat_length]
    rfl
  have fresh : Orderly (h₀.channel id).state [] := by
    rw [new]
    exact .fresh
  have orderly := orderly_calls below plain fresh
  rw [List.nil_append] at orderly
  refine ⟨orderly.events, orderly.connects, fun c plain was now => ?_, fun later none_ => ?_⟩
  · exact told_departing below₁ plain was now
  · intro left
    have closed : (left.channel id).state = .closed := state_disconnect below₁
    have same := channel_calls_closed (length_call below₁ .disconnect) closed none_
    exact ⟨same, disconnect_closed (by rw [same]; exact closed)⟩

/-- A channel that is connected, hears of something, loses its connection and gets another one. -/
def reconnected : List ChannelCall :=
  [.connect, .connected, .event "news" [.str "first"], .closed "transport close", .connect, .connected]

/-- The event of the application comes after a connect, the second connect after an attempt of its own;
a refusal of the namespace is then told as an error, once, and a disconnect is the last thing told. -/
theorem lifecycle_reconnected :
    let url : Url := { scheme := "ws", host := some (.domain "localhost"), path := .segments [""] }
    let h₀ := Hub.create { url } "/chat"
    let h₁ := h₀.calls 0 reconnected
    let left := h₁.call 0 .disconnect
    (∀ c ∈ reconnected, c.IsPlain) ∧
      h₀.notes 0 reconnected = [.attempt, .told "connect", .told "news", .told "disconnect", .attempt,
        .told "connect"] ∧
      Connected [.attempt, .told "connect"] ∧
      Attempting [.attempt, .told "connect", .told "news", .told "disconnect", .attempt] ∧
      h₁.told 0 (.refused "no") ≠ [] ∧
      (left.calls 0 [.connected, .event "news" [], .disconnect]).channel 0 = left.channel 0 := by
  intro url h₀ h₁ left
  have plain : ∀ c ∈ reconnected, c.IsPlain := by
    simp [reconnected, ChannelCall.IsPlain, IsApplicationEvent, connectEvent, connectErrorEvent,
      disconnectEvent]
  have told : h₀.notes 0 reconnected = [.attempt, .told "connect", .told "news", .told "disconnect",
      .attempt, .told "connect"] := by decide +kernel
  obtain ⟨events, connects, departing, quiet⟩ := lifecycle { url } "/chat" reconnected plain
  refine ⟨plain, told, ?_, ?_, ?_, ?_⟩
  · exact events _ "news" _ told (by simp [IsApplicationEvent, connectEvent, connectErrorEvent,
      disconnectEvent])
  · exact connects [.attempt, .told "connect", .told "news", .told "disconnect", .attempt] [] told
  · have connected : (h₁.channel 0).state = .connected := by decide +kernel
    have errored : ((h₁.call 0 (.refused "no")).channel 0).state ≠ .connected := by decide +kernel
    rcases departing (.refused "no") trivial connected errored with one | one
    all_goals exact fun none_ => List.cons_ne_nil _ _ (one.symm.trans none_)
  · exact (quiet [.connected, .event "news" [], .disconnect] (by simp)).1

end Hub

end LiveSession
