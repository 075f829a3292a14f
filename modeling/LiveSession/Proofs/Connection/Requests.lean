import Mathlib.Logic.Function.Basic
import LiveSession.Proofs.Connection.Farewell

/-!
# Namespaces are asked for once

A hub asks the server for a namespace when a channel attaches to the open connection, and when the
server opens the session, for all that have attached by then. The marks of a run, which its events
tell, count how often a namespace had been asked for when one or the other happened last. `Asked`
says that a channel which waits on an open connection has been asked for once since.
-/

namespace LiveSession

def Command.request? : Command → Option String
  | .send (.message { kind := .connect, ns, .. }) => some ns
  | _ => none

namespace Hub

def requests (h : Hub) : List String :=
  h.queue.filterMap Command.request?

def asked (h : Hub) (wire : String) : Nat :=
  h.requests.count wire

/-- What an event asks the server for. -/
def asks (h : Hub) : HubEvent → List String
  | .connect id =>
    if h.joins id ∧ h.state = .opened ∧ (h.channel id).wire ∉ h.confirmed ∧ h.accepting then
      [(h.channel id).wire]
    else []
  | .receive (.opened _) => if h.phase = .running ∧ h.accepting then h.namespaces else []
  | _ => []

/-- A channel that attaches marks its namespace, and the server that opens the session marks all. -/
def mark (h : Hub) (marks : String → Nat) : HubEvent → String → Nat
  | .connect id =>
    if h.joins id then Function.update marks (h.channel id).wire (h.asked (h.channel id).wire)
    else marks
  | .receive (.opened _) => if h.phase = .running then h.asked else marks
  | _ => marks

def marking (h : Hub) (marks : String → Nat) : List HubEvent → String → Nat
  | [] => marks
  | event :: events => (h.step event).marking (h.mark marks event) events

/-- The channel that is attached under a namespace waits for the server. -/
def Waits (h : Hub) (wire : String) (id : ChannelId) : Prop :=
  h.attached.find? wire = some id ∧ (h.channel id).state = .connecting

variable {h h' h'' : Hub} {id : ChannelId} {r : Attendance} {marks : String → Nat}
  {g : ChannelState → ChannelState} {event : HubEvent}

/-! ### What is asked for -/

theorem requests_enqueue (h : Hub) (command : Command) :
    (h.enqueue command).requests =
      h.requests ++ if h.accepting then command.request?.toList else [] := by
  unfold enqueue requests
  split
  · rw [List.filterMap_append]
    cases request : command.request? <;> simp [request]
  · exact (List.append_nil _).symm

/-- Nothing more is asked for. -/
def Silent (h h' : Hub) : Prop :=
  h'.requests = h.requests

theorem Silent.refl (h : Hub) : Silent h h := rfl

theorem Silent.trans (q₁ : Silent h h') (q₂ : Silent h' h'') : Silent h h'' := Eq.trans q₂ q₁

theorem Silent.guarded {p : Prop} [Decidable p] (silent : Silent h h') :
    Silent h (if p then h' else h) := by
  split
  · exact silent
  · exact .refl h

theorem silent_enqueue (h : Hub) {command : Command} (other : command.request? = none) :
    Silent h (h.enqueue command) := by
  unfold Silent
  rw [requests_enqueue, other]
  split <;> exact List.append_nil _

theorem silent_sendEvents (id : ChannelId) (events : List (List Json)) (h : Hub) :
    Silent h (events.foldl (fun h args => h.sendEvent id args) h) := by
  induction events generalizing h with
  | nil => exact .refl h
  | cons args events ih => exact (silent_enqueue h rfl).trans (ih _)

theorem silent_onConnected (h : Hub) (id : ChannelId) : Silent h (h.onConnected id) := by
  unfold onConnected
  dsimp only
  split
  · exact .refl h
  · exact silent_sendEvents id _ (h.modify id fun c => { c with state := .connected, buffer := [] })

theorem silent_onConnectError (h : Hub) (id : ChannelId) (message : String) :
    Silent h (h.onConnectError id message) := by
  unfold onConnectError
  split <;> exact .refl h

theorem silent_onClosed (h : Hub) (id : ChannelId) (reason : String) :
    Silent h (h.onClosed id reason) := by
  unfold onClosed
  split <;> exact .refl h

theorem silent_detach (h : Hub) (id : ChannelId) : Silent h (h.detach id) := by
  unfold detach
  dsimp only
  split
  · exact .refl h
  · split
    · have told (h : Hub) : Silent h (h.enqueue .shutdown) := silent_enqueue h rfl
      exact told _
    · exact .refl h

theorem silent_disconnect (h : Hub) (id : ChannelId) : Silent h (h.disconnect id) := by
  unfold disconnect
  dsimp only
  split
  · exact .refl h
  · let h₁ := h.modify id fun c => { c with state := .closed, buffer := [] }
    split
    · have sent : Silent h₁ (h₁.enqueue (.send (.message (.disconnect (h.channel id).wire)))) :=
        silent_enqueue h₁ rfl
      exact sent.trans (silent_detach _ id)
    · exact silent_detach h₁ id

theorem silent_drop (h : Hub) (id : ChannelId) : Silent h (h.drop id) := by
  unfold drop
  split
  · exact .refl h
  · dsimp only
    split
    · exact .refl h
    · exact silent_detach (h.modify id fun c => { c with dropped := true }) id

theorem silent_emitted (h : Hub) (id : ChannelId) (args : List Json) :
    Silent h (h.emitted id args) := by
  unfold emitted emit
  split
  · rename_i after emitted
    split at emitted
    · cases emitted
    · split at emitted
      · unfold send at emitted
        split at emitted
        · cases emitted
          exact silent_enqueue h rfl
        · cases emitted
      · cases emitted
        exact .refl h
      · cases emitted
        exact .refl h
      · cases emitted
      · cases emitted
  · exact .refl h

theorem silent_hand (h : Hub) (id : ChannelId) (p : SocketPacket) : Silent h (h.hand id p) := by
  unfold hand
  split
  · exact silent_onConnected h id
  · exact silent_onClosed h id _
  · exact silent_onConnectError h id _
  · split
    · unfold onEvent
      split <;> exact .refl h
    · exact .refl h
  · exact .refl h

theorem silent_receivePacket (h : Hub) (p : SocketPacket) : Silent h (h.receivePacket p) := by
  have noted : Silent h (h.note p) := by
    obtain ⟨_, noted⟩ := h.note_eq p
    rw [noted]
    exact .refl h
  unfold receivePacket
  dsimp only
  split
  · exact noted.trans (silent_hand _ _ p)
  · exact noted

theorem silent_finish (h : Hub) (failure : Option String) : Silent h (h.finish failure) := by
  have all (ids : List ChannelId) (h : Hub) : Silent h (ids.foldl (tell failure) h) := by
    induction ids generalizing h with
    | nil => exact .refl h
    | cons id ids ih =>
      refine Silent.trans ?_ (ih _)
      unfold tell
      split
      · exact .refl h
      · cases failure with
        | some message => exact silent_onConnectError h id message
        | none => exact silent_onClosed h id _
  rw [finish_eq]
  exact all _ h.closing

theorem requests_connect (joins : h.joins id = true) :
    (h.connect id).requests =
      h.requests ++ if h.state = .opened ∧ (h.channel id).wire ∉ h.confirmed ∧ h.accepting then
        [(h.channel id).wire] else [] := by
  let h₁ := h.modify id fun c => { c with state := .connecting }
  have wire : (h₁.channel id).wire = (h.channel id).wire := wire_modify h id id _ fun _ => rfl
  rw [connect_attaches (joins_iff.mp joins).2]
  show (h₁.attach id).requests = _
  cases state : h.state with
  | idle => rw [attach_idle (h := h₁) state, if_neg nofun, List.append_nil]; rfl
  | connecting => rw [attach_connecting (h := h₁) state, if_neg nofun, List.append_nil]; rfl
  | closed =>
    rw [attach_closed (h := h₁) state, if_neg nofun, List.append_nil]
    exact silent_onConnectError (h₁.withAttached id) id _
  | opened =>
    rw [attach_opened (h := h₁) state, wire]
    by_cases confirmed : (h.channel id).wire ∈ h.confirmed
    · have known : h₁.confirmed.contains (h.channel id).wire = true :=
        List.contains_iff_mem.mpr confirmed
      rw [if_pos known, if_neg fun all => all.2.1 confirmed, List.append_nil]
      exact silent_onConnected (h₁.withAttached id) id
    · have unknown : ¬ h₁.confirmed.contains (h.channel id).wire = true := fun known =>
        confirmed (List.contains_iff_mem.mp known)
      rw [if_neg unknown, requests_enqueue]
      simp only [confirmed, not_false_eq_true, true_and]
      rfl

/-- A channel that joins the open connection under a confirmed namespace is connected at once. -/
theorem state_connect_confirmed (joins : h.joins id = true) (opened : h.state = .opened)
    (confirmed : (h.channel id).wire ∈ h.confirmed) :
    ((h.connect id).channel id).state = .connected := by
  obtain ⟨held, closed⟩ := joins_iff.mp joins
  have below := Attended.lt_of_isHeld held
  let h₁ := h.modify id fun c => { c with state := .connecting }
  have turned : Turns id (fun _ => .connecting) h h₁ := turns_modify below _ (fun _ => rfl) rfl
  have known : h₁.confirmed.contains (h₁.channel id).wire = true := by
    rw [turned.wires id below]
    exact List.contains_iff_mem.mpr confirmed
  have attaches : h.connect id = (h₁.withAttached id).onConnected id := by
    rw [connect_attaches closed]
    exact (attach_opened (h := h₁) opened).trans (if_pos known)
  have connects := (turns_onConnected (h := h₁.withAttached id)
    (Nat.lt_of_lt_of_le below turned.count)).turned
  rw [attaches, connects]
  exact congrArg ChannelState.connects turned.turned

theorem requests_sendFrames (wires : List String) (h : Hub) :
    (wires.foldl (fun h wire => h.enqueue (.send (.message (.connect wire)))) h).requests =
      h.requests ++ if h.accepting then wires else [] := by
  induction wires generalizing h with
  | nil => split <;> exact (List.append_nil _).symm
  | cons wire wires ih =>
    have still := (calm_enqueue h (.send (.message (.connect wire)))).accepting
    rw [List.foldl_cons, ih, still, requests_enqueue, List.append_assoc]
    split <;> rfl

theorem requests_step (h : Hub) (event : HubEvent) :
    (h.step event).requests = h.requests ++ h.asks event := by
  have silent (nothing : h.asks event = []) (silent : Silent h (h.step event)) :
      (h.step event).requests = h.requests ++ h.asks event := by
    rw [nothing, List.append_nil]
    exact silent
  cases event with
  | create ns => exact silent rfl (.refl h)
  | listen id e | unlisten id e number => exact silent rfl (Silent.guarded (.refl h))
  | disconnect id => exact silent rfl (silent_disconnect h id).guarded
  | emit id args => exact silent rfl (silent_emitted h id args).guarded
  | drop id => exact silent rfl (silent_drop h id).guarded
  | accepted => exact silent rfl (Silent.guarded (.refl h))
  | finish failure => exact silent rfl (silent_finish h failure).guarded
  | connect id =>
    cases joins : h.joins id with
    | false =>
      refine silent ?_ ?_
      · exact if_neg fun all => Bool.eq_false_iff.mp joins all.1
      · rw [step_connect_stays joins]
        exact .refl h
    | true =>
      rw [step_connect_joins joins, requests_connect joins]
      simp only [asks, joins, true_and]
  | receive frame =>
    cases frame with
    | opened info =>
      show (if h.phase = .running then (h.receive (.opened info)).1 else h).requests =
        h.requests ++ if h.phase = .running ∧ h.accepting then h.namespaces else []
      by_cases running : h.phase = .running
      · rw [if_pos running]
        simp only [running, true_and]
        exact requests_sendFrames h.namespaces { h with state := .opened }
      · rw [if_neg running, if_neg fun both => running both.1, List.append_nil]
    | message p => exact silent rfl (silent_receivePacket h p).guarded
    | close => exact silent rfl (Silent.guarded (silent_enqueue h rfl))
    | ping | pong | upgrade | noop => exact silent rfl (Silent.guarded (.refl h))

/-! ### Who waits -/

/-- The hub does not open, takes no more than before, and no channel comes to wait. -/
structure Recedes (h h' : Hub) : Prop where
  opened : h'.state = .opened → h.state = .opened
  accepting : h'.accepting = true → h.accepting = true
  waits : ∀ wire id, h'.Waits wire id → h.Waits wire id

theorem Recedes.refl (h : Hub) : Recedes h h :=
  ⟨fun opened => opened, fun accepting => accepting, fun _ _ waits => waits⟩

theorem Recedes.trans (r₁ : Recedes h h') (r₂ : Recedes h' h'') : Recedes h h'' where
  opened := fun opened => r₁.opened (r₂.opened opened)
  accepting := fun accepting => r₁.accepting (r₂.accepting accepting)
  waits := fun wire id waits => r₁.waits wire id (r₂.waits wire id waits)

theorem Recedes.guarded {p : Prop} [Decidable p] (recedes : p → Recedes h h') :
    Recedes h (if p then h' else h) := by
  split
  · rename_i holds
    exact recedes holds
  · exact .refl h

theorem Roster.lt_of_find? {wire : String} (roster : Roster h r)
    (attached : h.attached.find? wire = some id) : id < h.channels.length :=
  roster.below _ (Entries.mem_of_find? attached)

theorem Roster.recedes_keeps (roster : Roster h r) (keeps : Keeps h h')
    (states : ∀ id < h.channels.length,
      (h'.channel id).state = .connecting → (h.channel id).state = .connecting) :
    Recedes h h' where
  opened := fun opened => keeps.state.symm.trans opened
  accepting := fun accepting => keeps.accepting.symm.trans accepting
  waits := fun wire id waits => by
    have attached := waits.1
    rw [keeps.attached] at attached
    exact ⟨attached, states id (roster.lt_of_find? attached) waits.2⟩

theorem Roster.recedes_calm (roster : Roster h r) (calm : Calm h h') : Recedes h h' :=
  roster.recedes_keeps calm.toKeeps fun id below connecting =>
    (calm.states id below).symm.trans connecting

theorem Roster.recedes_turns (roster : Roster h r) (turns : Turns id g h h')
    (waits : g (h.channel id).state = .connecting → (h.channel id).state = .connecting) :
    Recedes h h' := by
  refine roster.recedes_keeps turns.toKeeps fun other below connecting => ?_
  by_cases same : other = id
  · rw [same, turns.turned] at connecting
    rw [same]
    exact waits connecting
  · exact (turns.others other below same).symm.trans connecting

theorem recedes_detach (h : Hub) (id : ChannelId) : Recedes h (h.detach id) := by
  have channels := channels_detach h id
  rcases h.detach_cases id with ⟨_, after⟩ | ⟨_, accepting, nobody, after⟩ | ⟨_, _, after⟩
  · rw [after]
    exact .refl h
  · rw [after]
    exact ⟨nofun, fun _ => accepting, fun _ _ waits => nomatch waits.1⟩
  · refine ⟨?_, ?_, fun wire other waits => ?_⟩
    · rw [after]
      exact fun opened => opened
    · rw [after]
      exact fun accepting => accepting
    · obtain ⟨attached, connecting⟩ := waits
      rw [channel_of_channels channels] at connecting
      rw [after] at attached
      have different : wire ≠ (h.channel id).wire := by
        rintro rfl
        exact nomatch (Entries.find?_erase_self _ _).symm.trans attached
      exact ⟨(Entries.find?_erase_other _ different).symm.trans attached, connecting⟩

theorem Roster.recedes_disconnect (roster : Roster h r) (below : id < h.channels.length) :
    Recedes h (h.disconnect id) := by
  let h₁ := h.modify id fun c => { c with state := .closed, buffer := [] }
  have turned : Turns id (fun _ => .closed) h h₁ := turns_modify below _ (fun _ => rfl) rfl
  have marked : Recedes h h₁ := roster.recedes_turns turned nofun
  unfold disconnect
  dsimp only
  split
  · exact .refl h
  · split
    · let h₂ := h₁.enqueue (.send (.message (.disconnect (h.channel id).wire)))
      have sent : Turns id (fun _ => .closed) h h₂ := turned.then_calm below (calm_enqueue _ _)
      have gone : Recedes h (h₂.detach id) :=
        (roster.recedes_turns sent nofun).trans (recedes_detach h₂ id)
      refine gone.trans ⟨fun opened => opened, fun accepting => accepting, ?_⟩
      rintro wire other ⟨attached, connecting⟩
      refine ⟨attached, ?_⟩
      rw [dispatch, channel_modify] at connecting
      split at connecting <;> exact connecting
    · exact marked.trans (recedes_detach h₁ id)

theorem Roster.recedes_drop (roster : Roster h r) (id : ChannelId) : Recedes h (h.drop id) := by
  let h₁ := h.modify id fun c => { c with dropped := true }
  have dropped : Recedes h h₁ := roster.recedes_calm (calm_modify h id _ (fun _ => rfl) fun _ => rfl)
  unfold drop
  split
  · exact .refl h
  · dsimp only
    split
    · exact dropped
    · exact dropped.trans (recedes_detach h₁ id)

theorem Roster.recedes_receivePacket (roster : Roster h r) (p : SocketPacket) :
    Recedes h (h.receivePacket p) := by
  have noted := roster.recedes_calm (calm_note h p)
  have roster' := roster.calm (calm_note h p)
  cases addressed : (h.note p).addressee? p.ns with
  | none =>
    rw [receivePacket_of_nobody addressed]
    exact noted
  | some id =>
    have below := roster'.lt_of_find? (Option.filter_eq_some_iff.mp addressed).1
    rw [receivePacket_of_addressee addressed]
    refine noted.trans ?_
    -- Whatever the packet says, the channel leaves the state in which it waits, or stays.
    unfold hand
    split
    · refine roster'.recedes_turns (turns_onConnected below) ?_
      cases ((h.note p).channel id).state <;> nofun
    · refine roster'.recedes_turns (turns_onClosed below _) ?_
      cases ((h.note p).channel id).state <;> nofun
    · refine roster'.recedes_turns (turns_onConnectError below _) ?_
      cases ((h.note p).channel id).state <;> nofun
    · split
      · exact roster'.recedes_calm (calm_onEvent _ id _ _)
      · exact .refl _
    · exact .refl _

/-! ### What is waited for has been asked for -/

/-- A channel that waits on an open connection has been asked for once, since it attached or since
the server opened the session. The root is connected by the server itself. -/
def Asked (h : Hub) (marks : String → Nat) : Prop :=
  h.state = .opened → h.accepting = true → ∀ wire id, h.Waits wire id → wire ≠ rootNamespace →
    h.asked wire = marks wire + 1

namespace Asked

theorem recede (asked : Asked h marks) (recedes : Recedes h h') (silent : Silent h h') :
    Asked h' marks := by
  intro opened accepting wire id waits other
  have before := asked (recedes.opened opened) (recedes.accepting accepting) wire id
    (recedes.waits wire id waits) other
  rwa [Hub.asked, silent]

theorem nodup_namespaces (roster : Roster h r) : h.namespaces.Nodup :=
  roster.names.filter _

theorem of_shut (shut : h.state ≠ .opened) : Asked h marks := fun opened => absurd opened shut

/-- A channel that attaches to the open connection is connected at once if the server has confirmed
its namespace already, and asked for otherwise. -/
theorem join (asked : Asked h marks) (roster : Roster h r) (joins : h.joins id = true)
    (state : h.state = .opened) :
    Asked (h.connect id)
      (Function.update marks (h.channel id).wire (h.asked (h.channel id).wire)) := by
  have joined := joined_of_joins joins
  obtain ⟨_, _, accepting_eq, _⟩ := joined.later (by rw [state]; nofun)
  have requests := requests_connect joins
  intro _ accepting wire other ⟨attached, connecting⟩ outer
  rw [accepting_eq] at accepting
  simp only [state, accepting, true_and, and_true] at requests
  rw [joined.attached] at attached
  by_cases same : wire = (h.channel id).wire
  · subst same
    rw [Entries.find?_set_self] at attached
    cases attached
    have unconfirmed : (h.channel id).wire ∉ h.confirmed := by
      intro confirmed
      have connected := state_connect_confirmed joins state confirmed
      rw [connecting] at connected
      cases connected
    rw [if_pos unconfirmed] at requests
    rw [Function.update_self, Hub.asked, requests, List.count_append, List.count_singleton_self]
    rfl
  · rw [Entries.find?_set_other _ _ same] at attached
    have different : other ≠ id := by
      rintro rfl
      exact same (roster.own _ (Entries.mem_of_find? attached)).symm
    have within := roster.lt_of_find? attached
    have before := asked state accepting wire other
      ⟨attached, (joined.apart.others other within different).symm.trans connecting⟩ outer
    rw [Function.update_of_ne same, Hub.asked, requests, List.count_append]
    have elsewhere : (if (h.channel id).wire ∉ h.confirmed then [(h.channel id).wire] else []).count
        wire = 0 := by
      refine List.count_eq_zero.mpr fun member => same ?_
      split at member
      · exact List.mem_singleton.mp member
      · cases member
    rw [elsewhere]
    exact before

/-- The server that opens the session is asked for everybody who has attached. -/
theorem opened (roster : Roster h r) (info : OpenInfo) :
    Asked (h.receive (.opened info)).1 h.asked := by
  let h₁ : Hub := { h with state := .opened }
  have calm : Calm h₁ (h.receive (.opened info)).1 :=
    calm_sendFrames (fun wire => .message (.connect wire)) h.namespaces h₁
  have roster₁ : Roster h₁ r := roster.of_same rfl rfl rfl rfl
  intro _ accepting wire id waits outer
  rw [calm.accepting] at accepting
  have attached : h.attached.find? wire = some id := ((roster₁.recedes_calm calm).waits _ _ waits).1
  have requests : (h.receive (.opened info)).1.requests = h.requests ++ h.namespaces := by
    refine (requests_sendFrames h.namespaces h₁).trans ?_
    rw [if_pos accepting]
    rfl
  have listed : wire ∈ h.namespaces :=
    List.mem_filter.mpr ⟨Entries.mem_names_of_find? attached, decide_eq_true outer⟩
  rw [Hub.asked, requests, List.count_append,
    List.count_eq_one_of_mem (nodup_namespaces roster) listed]
  rfl

theorem step (asked : Asked h marks) (a : Attended h r) (event : HubEvent) :
    Asked (h.step event) (h.mark marks event) := by
  have roster := a.roster
  have stay (recedes : Recedes h (h.step event)) (nothing : h.asks event = []) :
      Asked (h.step event) marks :=
    asked.recede recedes ((requests_step h event).trans (by rw [nothing, List.append_nil]))
  cases event with
  | create ns => exact stay (roster.recedes_calm (calm_create h ns)) rfl
  | listen id e =>
    exact stay (.guarded fun _ => roster.recedes_calm (calm_listen h id e)) rfl
  | unlisten id e number =>
    exact stay (.guarded fun _ => roster.recedes_calm (calm_unlisten h id e number)) rfl
  | disconnect id =>
    refine stay (.guarded fun held => ?_) rfl
    exact roster.recedes_disconnect (Attended.lt_of_isHeld held)
  | drop id => exact stay (.guarded fun _ => roster.recedes_drop id) rfl
  | emit id args =>
    refine stay (.guarded fun _ => ?_) rfl
    split
    · rename_i emitted
      exact roster.recedes_calm (calm_emit emitted)
    · exact .refl h
  | accepted =>
    refine stay (.guarded fun _ => ⟨?_, ?_, ?_⟩) rfl
    · exact fun opened => opened
    · exact fun accepting => accepting
    · exact fun _ _ waits => waits
  | finish failure =>
    refine stay (.guarded fun _ => ?_) rfl
    have keeps := a.keeps_finish failure
    refine ⟨fun opened => ?_, fun accepting => ?_, fun wire id waits => ?_⟩
    · exact nomatch keeps.state.symm.trans opened
    · exact nomatch keeps.accepting.symm.trans accepting
    · have attached := waits.1
      rw [keeps.attached] at attached
      cases attached
  | connect id =>
    cases joins : h.joins id with
    | false =>
      rw [step_connect_stays joins, mark, if_neg (Bool.eq_false_iff.mp joins)]
      exact asked
    | true =>
      rw [step_connect_joins joins, mark, if_pos joins]
      have joined := joined_of_joins joins
      cases state : h.state with
      | opened => exact asked.join roster joins state
      | idle => exact of_shut (by rw [(joined.first state).1]; nofun)
      | connecting | closed =>
        refine of_shut ?_
        rw [(joined.later (by rw [state]; nofun)).1, state]
        nofun
  | receive frame =>
    by_cases running : h.phase = .running
    · have received : h.step (.receive frame) = (h.receive frame).1 := if_pos running
      cases frame with
      | opened info =>
        rw [received, mark, if_pos running]
        exact opened roster info
      | message p =>
        refine stay ?_ rfl
        rw [received]
        exact roster.recedes_receivePacket p
      | close =>
        refine stay ?_ rfl
        rw [received]
        have sent := roster.recedes_calm (calm_enqueue h .shutdown)
        exact ⟨sent.opened, nofun, sent.waits⟩
      | ping | pong | upgrade | noop =>
        refine stay ?_ rfl
        rw [received]
        exact .refl h
    · have same : h.step (.receive frame) = h := if_neg running
      rw [same]
      cases frame with
      | opened info =>
        rw [mark, if_neg running]
        exact asked
      | _ => exact asked

theorem run (asked : Asked h marks) (a : Attended h r) (events : List HubEvent) :
    Asked (h.run events) (h.marking marks events) := by
  induction events generalizing h r marks with
  | nil => exact asked
  | cons event events ih => exact ih (asked.step a event) (a.step event)

end Asked

/-! ### When nothing is taken -/

/-- Until the loop has ended, the queue takes commands or has been told to shut down. -/
def Takes (h : Hub) : Prop :=
  h.IsLive → h.accepting = true ∨ .shutdown ∈ h.queue

namespace Takes

theorem keeps (takes : Takes h) (keeps : Keeps h h') : Takes h' := by
  intro live
  rw [keeps.accepting]
  exact (takes (live.of_phase keeps.phase.symm)).imp_right (keeps.queue _)

theorem guarded {p : Prop} [Decidable p] (takes : Takes h) (after : p → Takes h') :
    Takes (if p then h' else h) := by
  split
  · rename_i holds
    exact after holds
  · exact takes

theorem shutDown (takes : Takes h) : Takes h.shutDown := by
  intro live
  refine .inr ?_
  cases accepting : h.accepting with
  | true =>
    unfold Hub.shutDown enqueue
    rw [if_pos accepting]
    exact List.mem_append_right _ List.mem_cons_self
  | false =>
    have told := (takes (live.of_phase (calm_enqueue h .shutdown).phase.symm)).resolve_left
      (by simp [accepting])
    exact (calm_enqueue h .shutdown).queue _ told

theorem detach (takes : Takes h) (id : ChannelId) : Takes (h.detach id) := by
  rcases h.detach_cases id with ⟨_, after⟩ | ⟨_, _, _, after⟩ | ⟨_, _, after⟩
  · rw [after]
    exact takes
  · rw [after]
    exact fun _ => .inr (List.mem_append_right _ List.mem_cons_self)
  · rw [after]
    exact takes

theorem disconnect (takes : Takes h) (id : ChannelId) : Takes (h.disconnect id) := by
  have marked := takes.keeps
    (keeps_modify h id (fun c => { c with state := .closed, buffer := [] }) fun _ => rfl)
  unfold Hub.disconnect
  dsimp only
  split
  · exact takes
  · split
    · have sent := calm_enqueue (h.modify id fun c => { c with state := .closed, buffer := [] })
        (.send (.message (.disconnect (h.channel id).wire)))
      exact ((marked.keeps sent.toKeeps).detach id).keeps (calm_dispatch _ _ _ _).toKeeps
    · exact marked.detach id

theorem drop (takes : Takes h) (id : ChannelId) : Takes (h.drop id) := by
  have dropped := takes.keeps (keeps_modify h id (fun c => { c with dropped := true }) fun _ => rfl)
  unfold Hub.drop
  split
  · exact takes
  · dsimp only
    split
    · exact dropped
    · exact dropped.detach id

theorem receive (takes : Takes h) (a : Attended h r) (frame : EnginePacket) :
    Takes (h.receive frame).1 := by
  cases frame with
  | opened info =>
    have opened : Takes { h with state := .opened } := takes
    exact opened.keeps (calm_sendFrames _ _ _).toKeeps
  | close => exact takes.shutDown
  | message p => exact takes.keeps (keeps_receivePacket a.roster p)
  | ping | pong | upgrade | noop => exact takes

theorem step (takes : Takes h) (a : Attended h r) (event : HubEvent) : Takes (h.step event) := by
  cases event with
  | create ns => exact takes.keeps (calm_create h ns).toKeeps
  | listen id e => exact takes.guarded fun _ => takes.keeps (calm_listen h id e).toKeeps
  | unlisten id e number =>
    exact takes.guarded fun _ => takes.keeps (calm_unlisten h id e number).toKeeps
  | disconnect id => exact takes.guarded fun _ => takes.disconnect id
  | drop id => exact takes.guarded fun _ => takes.drop id
  | receive frame => exact takes.guarded fun _ => takes.receive a frame
  | emit id args =>
    refine takes.guarded fun _ => ?_
    split
    · rename_i emitted
      exact takes.keeps (calm_emit emitted).toKeeps
    · exact takes
  | accepted => exact takes.guarded fun handshake _ => takes (.inl handshake)
  | finish failure =>
    refine takes.guarded fun _ live => ?_
    exact absurd (a.keeps_finish failure).phase live.ne_ended
  | connect id =>
    cases joins : h.joins id with
    | false =>
      rw [step_connect_stays joins]
      exact takes
    | true =>
      rw [step_connect_joins joins]
      have joined := joined_of_joins joins
      intro live
      by_cases idle : h.state = .idle
      · exact .inl (joined.first idle).2.2
      · obtain ⟨_, phase, accepting, queue⟩ := joined.later idle
        rw [accepting]
        exact (takes (live.of_phase phase.symm)).imp_right (queue _)

theorem run (takes : Takes h) (a : Attended h r) (events : List HubEvent) :
    Takes (h.run events) := by
  induction events generalizing h r with
  | nil => exact takes
  | cons event events ih => exact ih (takes.step a event) (a.step event)

end Takes

theorem Attended.isLive_of_opened (a : Attended h r) (opened : h.state = .opened) : h.IsLive := by
  cases a.stage with
  | unstarted _ state | shut _ state | finished _ state => simp [opened] at state
  | active live | adrift live => exact live

/-- The server is asked for the root only when a channel attaches to the open connection. -/
theorem connect_of_asks_root (asks : rootNamespace ∈ h.asks event) :
    ∃ id, event = .connect id ∧ h.joins id = true ∧ (h.channel id).wire = rootNamespace ∧
      h.state = .opened := by
  cases event with
  | connect id =>
    rw [Hub.asks] at asks
    split at asks
    · rename_i attaches
      exact ⟨id, rfl, attaches.1, (List.mem_singleton.mp asks).symm, attaches.2.1⟩
    · cases asks
  | receive frame =>
    cases frame with
    | opened info =>
      rw [Hub.asks] at asks
      split at asks
      · exact absurd rfl (of_decide_eq_true (List.mem_filter.mp asks).2)
      · cases asks
    | _ => cases asks
  | _ => cases asks

/-- Until the queue has been told to shut down, a channel that waits on an open connection under a
namespace other than the root has been asked for exactly once since it attached, or since the server
opened the session if that was later. The root is asked for only when a channel attaches under it
once the connection is open. -/
theorem requested_once (url : Url) (cookie : Option String) (events : List HubEvent) :
    (.shutdown ∉ (run { url, cookie } events).queue →
      (run { url, cookie } events).state = .opened →
      ∀ wire id, (run { url, cookie } events).Waits wire id → wire ≠ rootNamespace →
        (run { url, cookie } events).asked wire =
          marking { url, cookie } (fun _ => 0) events wire + 1) ∧
    ∀ event, (run { url, cookie } events).asked rootNamespace <
        ((run { url, cookie } events).step event).asked rootNamespace →
      ∃ id, event = .connect id ∧ (run { url, cookie } events).joins id = true ∧
        ((run { url, cookie } events).channel id).wire = rootNamespace ∧
        (run { url, cookie } events).state = .opened := by
  have fresh := Attended.fresh url cookie
  refine ⟨fun going opened => ?_, fun event grows => connect_of_asks_root ?_⟩
  · have live := (fresh.run events).isLive_of_opened opened
    have takes : Takes { url, cookie } := fun live => by simp [IsLive] at live
    have accepting := ((takes.run fresh events) live).resolve_right going
    have unopened : Asked { url, cookie } fun _ => 0 := fun opened => nomatch opened
    exact unopened.run fresh events opened accepting
  · rw [asked, asked, requests_step, List.count_append] at grows
    exact List.count_pos_iff.mp (Nat.lt_add_right_iff_pos.mp grows)

/-- One channel attaches before the server opens the session and one after it. The root attaches
before as well; it is asked for when another channel attaches under it. -/
theorem requested_once_around_opened :
    let url : Url := { scheme := "ws", host := some (.domain "localhost"), path := .segments [""] }
    let h := run { url }
      [.create "/news", .create "/chat", .create "", .create "", .connect 0, .connect 2, .accepted,
        .receive (.opened { sid := "s", pingInterval := 25000, pingTimeout := 5000 }), .connect 1]
    h.Waits "/news" 0 ∧ h.Waits "/chat" 1 ∧ h.asked "/news" = 1 ∧ h.asked "/chat" = 1 ∧
      h.asked rootNamespace = 0 ∧ (h.step (.connect 3)).asked rootNamespace = 1 ∧ h.state = .opened := by
  intro url h
  have going : .shutdown ∉ h.queue := by
    intro told
    have listed : none ∈ h.queue.map Command.request? := List.mem_map.mpr ⟨_, told, rfl⟩
    exact absurd listed (by decide +kernel)
  have news : h.Waits "/news" 0 := ⟨by decide +kernel, by decide +kernel⟩
  have chat : h.Waits "/chat" 1 := ⟨by decide +kernel, by decide +kernel⟩
  have before : h.asked rootNamespace = 0 := by decide +kernel
  have after : (h.step (.connect 3)).asked rootNamespace = 1 := by decide +kernel
  obtain ⟨once, root⟩ := requested_once url none
    [.create "/news", .create "/chat", .create "", .create "", .connect 0, .connect 2, .accepted,
      .receive (.opened { sid := "s", pingInterval := 25000, pingTimeout := 5000 }), .connect 1]
  have all := once going (by decide +kernel)
  obtain ⟨_, _, _, _, opened⟩ := root (.connect 3) (by rw [before, after]; exact Nat.one_pos)
  refine ⟨news, chat, ?_, ?_, before, after, opened⟩
  · exact (all "/news" 0 news (by decide)).trans (by decide +kernel)
  · exact (all "/chat" 1 chat (by decide)).trans (by decide +kernel)

end Hub

end LiveSession
