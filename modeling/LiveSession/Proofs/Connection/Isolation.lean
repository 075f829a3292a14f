import LiveSession.Proofs.Connection.Displaced
import LiveSession.Proofs.Connection.Listening

/-!
# Whom an incoming packet reaches

All namespaces of a connection share one table of channels. `receive_isolated` says of every run that a
packet for a namespace reaches at most the channel that attached last under it, and what an event does
there; all other channels and namespaces are left alone.
-/

namespace LiveSession

namespace Hub

/-- The channel that attached last under a namespace, unless it was disconnected or dropped since. -/
def recipient? (url : Url) (cookie : Option String) (events : List HubEvent) (wire : String) :
    Option ChannelId :=
  ((seating { url, cookie } [] events).find? wire).filter fun id =>
    (run { url, cookie } events).isHeld id &&
      (attendance { url, cookie } {} events).users.contains id

variable {h h' : Hub} {id : ChannelId} {wire : String} {seats : Seats} {r : Attendance}
  {p : SocketPacket}

theorem recipient?_eq_some {url : Url} {cookie : Option String} {events : List HubEvent} :
    recipient? url cookie events wire = some id ↔
      (seating { url, cookie } [] events).find? wire = some id ∧
        (run { url, cookie } events).isHeld id = true ∧
          id ∈ (attendance { url, cookie } {} events).users := by
  simp [recipient?, Option.filter_eq_some_iff]

/-! ### What a packet leaves alone -/

theorem spares_sendEvents (id : ChannelId) (events : List (List Json)) (h : Hub) :
    Spares id h (events.foldl (fun h args => h.sendEvent id args) h) := by
  induction events generalizing h with
  | nil => exact .refl id h
  | cons args events ih => exact (Spares.enqueue h id _).trans (ih _)

theorem spares_onConnected (h : Hub) (id : ChannelId) : Spares id h (h.onConnected id) := by
  unfold onConnected
  dsimp only
  split
  · exact .refl id h
  · exact (Spares.mark h id .connected).trans ((spares_sendEvents id _ _).trans (.dispatch _ id _ _))

theorem spares_onConnectError (h : Hub) (id : ChannelId) (message : String) :
    Spares id h (h.onConnectError id message) := by
  unfold onConnectError
  split
  · exact .refl id h
  · exact (Spares.mark h id .errored).trans (.dispatch _ id _ _)

theorem spares_onClosed (h : Hub) (id : ChannelId) (reason : String) :
    Spares id h (h.onClosed id reason) := by
  unfold onClosed
  split
  · exact (Spares.mark h id .closed).trans (.dispatch _ id _ _)
  · exact (Spares.mark h id .errored).trans (.dispatch _ id _ _)
  · exact .refl id h

theorem spares_onEvent (h : Hub) (id : ChannelId) (event : String) (args : List Json) :
    Spares id h (h.onEvent id event args) := by
  unfold onEvent
  split
  · exact .dispatch h id event args
  · exact .refl id h

theorem spares_hand (h : Hub) (id : ChannelId) (p : SocketPacket) : Spares id h (h.hand id p) := by
  unfold hand
  split
  · exact spares_onConnected h id
  · exact spares_onClosed h id _
  · exact spares_onConnectError h id _
  · split
    · exact spares_onEvent h id _ _
    · exact .refl id h
  · exact .refl id h

theorem mem_confirmed_note (different : wire ≠ p.ns) :
    wire ∈ (h.note p).confirmed ↔ wire ∈ h.confirmed := by
  unfold note
  split
  · split
    · rfl
    · simp [different]
  · exact List.mem_erase_of_ne different
  · exact List.mem_erase_of_ne different
  · rfl
  · rfl

theorem mem_confirmed_receivePacket (different : wire ≠ p.ns) :
    wire ∈ (h.receivePacket p).confirmed ↔ wire ∈ h.confirmed := by
  cases addressed : (h.note p).addressee? p.ns with
  | none =>
    rw [receivePacket_of_nobody addressed]
    exact mem_confirmed_note different
  | some id =>
    rw [receivePacket_of_addressee addressed, (spares_hand _ id p).confirmed]
    exact mem_confirmed_note different

theorem hand_closed (closed : (h.channel id).state = .closed) (p : SocketPacket) : h.hand id p = h := by
  unfold hand
  split
  · exact if_pos (by rw [closed]; exact nofun)
  · unfold onClosed
    rw [closed]
  · exact if_pos closed
  · split
    · exact if_neg (by rw [closed]; exact nofun)
    · rfl
  · rfl

/-! ### Who is addressed -/

theorem addressee?_note (h : Hub) (p : SocketPacket) (wire : String) :
    (h.note p).addressee? wire = h.addressee? wire := by
  obtain ⟨_, noted⟩ := h.note_eq p
  rw [noted]
  rfl

theorem addressee?_eq_some : h.addressee? wire = some id ↔
    h.attached.find? wire = some id ∧ (h.channel id).dropped = false := by
  simp [addressee?, Option.filter_eq_some_iff]

/-- A packet changes no channel but the one that is addressed, and that one only if it is not closed. -/
theorem channel_receivePacket (h : Hub) (p : SocketPacket) (id : ChannelId) :
    (h.receivePacket p).channel id = h.channel id ∨
      h.addressee? p.ns = some id ∧ (h.channel id).state ≠ .closed := by
  have noted : (h.note p).channel id = h.channel id := channel_of_channels (channels_note h p) id
  cases addressed : h.addressee? p.ns with
  | none =>
    rw [← addressee?_note h p] at addressed
    rw [receivePacket_of_nobody addressed]
    exact .inl noted
  | some other =>
    rw [← addressee?_note h p] at addressed
    rw [receivePacket_of_addressee addressed]
    by_cases same : id = other
    · subst same
      by_cases closed : (h.channel id).state = .closed
      · rw [hand_closed (by rw [noted]; exact closed)]
        exact .inl noted
      · exact .inr ⟨rfl, closed⟩
    · exact .inl (((only_hand _ other p).others id same).trans noted)

theorem channel_receiveEvent (below : id < h.channels.length) (event : p.kind = .event)
    (addressed : h.addressee? p.ns = some id) {name : String} {args : List Json}
    (parts : p.data = some (.arr (.str name :: args))) :
    (h.receivePacket p).channel id =
      if (h.channel id).state = .connected then (h.channel id).dispatch name args
      else h.channel id := by
  have noted : h.note p = h := by
    unfold note
    rw [event]
  have parted : p.eventParts? = some (name, args) := by
    unfold SocketPacket.eventParts?
    rw [parts]
  rw [receivePacket_of_addressee (by rw [noted]; exact addressed), noted]
  unfold hand
  rw [event, parted]
  dsimp only
  unfold onEvent
  split
  · exact channel_modify_self below _
  · rfl

theorem channel_receiveNameless (event : p.kind = .event)
    (nameless : ∀ name args, p.data ≠ some (.arr (.str name :: args))) :
    (h.receivePacket p).channel id = h.channel id := by
  have noted : h.note p = h := by
    unfold note
    rw [event]
  have parted : p.eventParts? = none := by
    unfold SocketPacket.eventParts?
    split
    · rename_i name args parts
      exact absurd parts (nameless name args)
    · rfl
  cases addressed : (h.note p).addressee? p.ns with
  | none => rw [receivePacket_of_nobody addressed, noted]
  | some other =>
    rw [receivePacket_of_addressee addressed, noted]
    unfold hand
    rw [event, parted]

theorem own_seating {events : List HubEvent}
    (own : ∀ {wire id}, seats.find? wire = some id →
      id < h.channels.length ∧ (h.channel id).wire = wire)
    (seat : (h.seating seats events).find? wire = some id) :
    id < (h.run events).channels.length ∧ ((h.run events).channel id).wire = wire := by
  induction events generalizing h seats with
  | nil => exact own seat
  | cons event events ih =>
    refine ih (fun {wire id} found => ?_) seat
    have kept {wire id} (found : seats.find? wire = some id) :
        id < (h.step event).channels.length ∧ ((h.step event).channel id).wire = wire := by
      obtain ⟨below, named⟩ := own found
      have moved := wire_move below (.event event)
      exact ⟨moved.1, moved.2.trans named⟩
    cases event with
    | connect other =>
      change (if h.joins other then seats.set (h.channel other).wire other else seats).find? wire =
        some id at found
      split at found
      · rename_i joins
        by_cases same : wire = (h.channel other).wire
        · rw [same, Entries.find?_set_self] at found
          cases found
          rw [same]
          exact wire_move (Attended.lt_of_isHeld (joins_iff.mp joins).1) (.event (.connect id))
        · rw [Entries.find?_set_other _ _ same] at found
          exact kept found
      · exact kept found
    | _ => exact kept found

/-- A packet for a namespace reaches at most the channel that attached last under it, if that one was
neither disconnected nor dropped since; all others stay as they are, and what the server has confirmed
changes for that namespace only. An event calls the listeners of that channel for its name, once each and
with the arguments that follow the name, exactly if the channel is connected and the event has a name. -/
theorem receive_isolated (url : Url) (cookie : Option String) (events : List HubEvent)
    (p : SocketPacket) :
    let h := run { url, cookie } events
    let h' := h.step (.receive (.message p))
    (∀ id, recipient? url cookie events p.ns ≠ some id → h'.channel id = h.channel id) ∧
      (h.attached.find? p.ns = none → ∀ id, h'.channel id = h.channel id) ∧
      h'.attached = h.attached ∧
      (∀ wire, wire ≠ p.ns → (wire ∈ h'.confirmed ↔ wire ∈ h.confirmed)) ∧
      (p.kind = .event → h.phase = .running →
        ∀ id, recipient? url cookie events p.ns = some id →
          (∀ name args, p.data = some (.arr (.str name :: args)) → (h.channel id).state = .connected →
            ∃ targets, (h.channel id).Hears (h'.channel id) name args targets) ∧
          ((h.channel id).state ≠ .connected ∨
              (∀ name args, p.data ≠ some (.arr (.str name :: args))) →
            h'.channel id = h.channel id)) := by
  intro h h'
  have a : Attended h (attendance { url, cookie } {} events) :=
    (Attended.fresh url cookie).run events
  obtain ⟨-, seated⟩ := run_seated url cookie events
  have stepped : h' = if h.phase = .running then h.receivePacket p else h := rfl
  -- Whoever changes is addressed and not closed, so it is attached and in use.
  have reached (id : ChannelId) (changed : h'.channel id ≠ h.channel id) :
      h.attached.find? p.ns = some id ∧ recipient? url cookie events p.ns = some id := by
    rw [stepped] at changed
    split at changed
    · obtain ⟨addressed, open_⟩ := (channel_receivePacket h p id).resolve_left changed
      obtain ⟨attached, present⟩ := addressee?_eq_some.mp addressed
      have entry := Entries.mem_of_find? attached
      have below : id < h.channels.length := a.roster.below _ entry
      have held : h.isHeld id = true := by
        unfold channel at present
        unfold isHeld
        rw [List.getElem?_eq_getElem below] at present ⊢
        simpa using present
      exact ⟨attached, recipient?_eq_some.mpr
        ⟨seated.newest attached, held, a.roster.used _ entry open_⟩⟩
    · exact absurd rfl changed
  refine ⟨fun id other => ?_, fun nobody id => ?_, ?_, fun wire different => ?_,
    fun event running id seat => ?_⟩
  · by_contra changed
    exact other (reached id changed).2
  · by_contra changed
    rw [(reached id changed).1] at nobody
    cases nobody
  · exact attached_guarded fun _ => (receive_attached a (.message p)).1
  · rw [stepped]
    split
    · exact mem_confirmed_receivePacket different
    · rfl
  · obtain ⟨seat, held, -⟩ := recipient?_eq_some.mp seat
    obtain ⟨below, named⟩ : id < h.channels.length ∧ (h.channel id).wire = p.ns :=
      own_seating (h := { url, cookie }) (fun found => by cases found) seat
    rw [stepped, if_pos running]
    refine ⟨fun name args parts connected => ?_, fun deaf => ?_⟩
    · have present := Attended.dropped_of_isHeld held
      have attached := seated.kept (by rw [running]; exact nofun) id ⟨present, .inr connected⟩
        (by rw [named]; exact seat)
      rw [named] at attached
      have heard := channel_receiveEvent below event (addressee?_eq_some.mpr ⟨attached, present⟩) parts
      rw [heard, if_pos connected]
      exact ⟨_, HubChannel.hears_dispatch (ordered_run url cookie events id) name args⟩
    · by_cases named : ∃ name args, p.data = some (.arr (.str name :: args))
      · obtain ⟨name, args, parts⟩ := named
        have apart := deaf.resolve_right fun nameless => nameless name args parts
        rcases channel_receivePacket h p id with same | ⟨addressed, -⟩
        · exact same
        · rw [channel_receiveEvent below event addressed parts, if_neg apart]
      · exact channel_receiveNameless event fun name args parts => named ⟨name, args, parts⟩

/-- Two channels of a namespace are connected: an event calls both listeners for it of the one that
attached last. -/
theorem receive_isolated_shared :
    let url : Url := { scheme := "ws", host := some (.domain "localhost"), path := .segments [""] }
    let events := shared ++ [.listen 0 "news", .listen 1 "news", .listen 1 "away", .listen 1 "news"]
    let h := run { url } events
    let p : SocketPacket :=
      { kind := .event, ns := "/chat", data := some (.arr [.str "news", .str "first"]) }
    let h' := h.step (.receive (.message p))
    recipient? url none events "/chat" = some 1 ∧
      h'.channel 0 = h.channel 0 ∧
      (h'.channel 1).dispatched = (h.channel 1).dispatched ++ [("news", [.str "first"], 2)] ∧
      (h'.channel 1).called = (h.channel 1).called ++
        [(⟨0, "news", ()⟩, [.str "first"]), (⟨2, "news", ()⟩, [.str "first"])] := by
  intro url events h p h'
  have recipient : recipient? url none events "/chat" = some 1 := by decide +kernel
  have connected : (h.channel 1).state = .connected := by decide +kernel
  have registered : (h.channel 1).listeners.entries =
      [⟨0, "news", ()⟩, ⟨1, "away", ()⟩, ⟨2, "news", ()⟩] := by decide +kernel
  obtain ⟨others, -, -, -, heard⟩ := receive_isolated url none events p
  obtain ⟨targets, hears⟩ := (heard rfl (by decide +kernel) 1 recipient).1 "news" [.str "first"] rfl connected
  have both : targets = [⟨0, "news", ()⟩, ⟨2, "news", ()⟩] := by
    rw [hears.registered, registered]
    rfl
  obtain ⟨dispatched, called⟩ := hears.noted
  rw [both] at dispatched called
  refine ⟨recipient, others 0 fun seat => ?_, dispatched, called⟩
  exact absurd (recipient.symm.trans seat) (by decide)

end Hub

end LiveSession
