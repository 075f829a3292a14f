import LiveSession.Proofs.Connection.Outbox

/-!
# How the queue of a hub is fed

Whatever happens on a hub, its queue changes in one of four ways: not at all, by a frame, by the
command to shut down, and by the first channel that attaches. `Feeds` composes them, and `InOrder`
says what they keep: the command to shut down is the last one, and no command is taken after it.
-/

namespace LiveSession

def Command.frame? : Command → Option EnginePacket
  | .send frame => some frame
  | .shutdown => none

/-- A queue whose only command to shut down is its last has frames before it alone. -/
theorem Command.exists_frames {queue : List Command}
    (last : ∀ n : Nat, queue[n]? = some .shutdown → n + 1 = queue.length) :
    ∃ frames : List EnginePacket, queue = frames.map .send ∨ queue = frames.map .send ++ [.shutdown] := by
  induction queue with
  | nil => exact ⟨[], .inl rfl⟩
  | cons command queue ih =>
    cases command with
    | shutdown =>
      have alone : queue = [] := by simpa using last 0 rfl
      exact ⟨[], .inr (by rw [alone]; rfl)⟩
    | send frame =>
      obtain ⟨frames, rest⟩ := ih fun n told => by simpa using last (n + 1) told
      refine ⟨frame :: frames, rest.imp ?_ ?_⟩
      · exact congrArg (Command.send frame :: ·)
      · exact congrArg (Command.send frame :: ·)

/-- A frame that no command to shut down precedes keeps its place among the frames. -/
theorem Command.getElem?_frames {queue : List Command} {frame : EnginePacket} {n k : Nat}
    (queued : queue[n]? = some (.send frame)) (before : ∀ m : Nat, queue[m]? = some .shutdown → n < m)
    (below : n < k) : ((queue.take k).filterMap Command.frame?)[n]? = some frame := by
  induction queue generalizing n k with
  | nil => cases queued
  | cons command queue ih =>
    obtain ⟨k, rfl⟩ : ∃ j, k = j + 1 := ⟨k - 1, by omega⟩
    cases command with
    | shutdown => exact absurd (before 0 rfl) (Nat.not_lt_zero n)
    | send first =>
      have kept : ((Command.send first :: queue).take (k + 1)).filterMap frame? =
          first :: (queue.take k).filterMap frame? :=
        List.filterMap_cons_some rfl
      rw [kept]
      cases n with
      | zero =>
        cases queued
        rfl
      | succ n =>
        refine ih queued (fun m told => ?_) (Nat.lt_of_succ_lt_succ below)
        exact Nat.lt_of_succ_lt_succ (before (m + 1) told)

namespace Hub

/-- The loop has begun and has not ended. -/
def IsUnderway (h : Hub) : Prop :=
  h.phase = .handshake ∨ h.phase = .running

/-- What a change of a hub means to its queue. -/
inductive Feeds : Hub → Hub → Prop
  | still {h h' : Hub} (queue : h'.queue = h.queue) (accepting : h'.accepting = h.accepting)
    (idle : h'.state = .idle → h.state = .idle) (phase : h'.phase = h.phase)
    (site : h'.url = h.url ∧ h'.cookie = h.cookie) : Feeds h h'
  | send (h : Hub) (frame : EnginePacket) : Feeds h (h.enqueue (.send frame))
  | shut (h : Hub) : Feeds h h.shutDown
  | start {h : Hub} (idle : h.state = .idle) :
    Feeds h { h with state := .connecting, phase := .handshake, accepting := true }
  | trans {h h' h'' : Hub} : Feeds h h' → Feeds h' h'' → Feeds h h''

/-- No command follows the one to shut down, and none will. -/
structure InOrder (h : Hub) : Prop where
  fresh : h.state = .idle → h.queue = [] ∧ h.accepting = false
  plain : h.accepting = true → .shutdown ∉ h.queue
  last : ∀ n : Nat, h.queue[n]? = some .shutdown → n + 1 = h.queue.length
  told : h.IsUnderway → h.accepting = true ∨ .shutdown ∈ h.queue

variable {h h' h'' : Hub} {id : ChannelId} {frame : EnginePacket}

/-! ### What is kept -/

theorem InOrder.send (o : h.InOrder) (frame : EnginePacket) : (h.enqueue (.send frame)).InOrder := by
  cases accepting : h.accepting with
  | false =>
    have same : h.enqueue (.send frame) = h := if_neg (by simp [accepting])
    rw [same]
    exact o
  | true =>
    have same : h.enqueue (.send frame) = { h with queue := h.queue ++ [.send frame] } :=
      if_pos accepting
    have plain : .shutdown ∉ h.queue ++ [Command.send frame] := by
      intro member
      rcases List.mem_append.mp member with before | now
      · exact o.plain accepting before
      · cases List.mem_singleton.mp now
    rw [same]
    refine ⟨fun idle => ?_, fun _ => plain, fun n found => ?_, fun _ => .inl accepting⟩
    · have closed := (o.fresh idle).2
      rw [accepting] at closed
      cases closed
    · exact absurd (List.mem_of_getElem? found) plain

theorem InOrder.shut (o : h.InOrder) : h.shutDown.InOrder := by
  cases accepting : h.accepting with
  | false =>
    have same : h.shutDown = h := by
      unfold shutDown
      rw [enqueue, if_neg (by simp [accepting])]
      cases h
      cases accepting
      rfl
    rw [same]
    exact o
  | true =>
    have same : h.shutDown = { h with queue := h.queue ++ [.shutdown], accepting := false } := by
      unfold shutDown
      rw [enqueue, if_pos accepting]
    rw [same]
    refine ⟨fun idle => ?_, fun now => absurd now Bool.false_ne_true, fun n found => ?_,
      fun _ => .inr (by simp)⟩
    · have closed := (o.fresh idle).2
      rw [accepting] at closed
      cases closed
    · -- Any other place of the command would be in the queue before.
      rcases Nat.lt_trichotomy n h.queue.length with below | same | above
      · rw [List.getElem?_append_left below] at found
        exact absurd (List.mem_of_getElem? found) (o.plain accepting)
      · simp [same]
      · rw [List.getElem?_eq_none (by simp; omega)] at found
        cases found

theorem Feeds.inOrder (feeds : Feeds h h') (o : h.InOrder) : h'.InOrder := by
  induction feeds with
  | still queue accepting idle phase =>
    refine ⟨fun now => ?_, fun now => ?_, ?_, fun underway => ?_⟩
    · rw [queue, accepting]
      exact o.fresh (idle now)
    · rw [queue]
      exact o.plain (accepting ▸ now)
    · rw [queue]
      exact o.last
    · rw [queue, accepting]
      exact o.told (by simpa only [IsUnderway, phase] using underway)
  | send h frame => exact o.send frame
  | shut => exact o.shut
  | start idle =>
    have empty := (o.fresh idle).1
    refine ⟨nofun, fun _ => ?_, fun n found => ?_, fun _ => .inl rfl⟩
    · rw [empty]
      exact nofun
    · rw [empty] at found
      cases found
  | trans _ _ first second => exact second (first o)

theorem Feeds.grows (feeds : Feeds h h') : h.queue <+: h'.queue := by
  induction feeds with
  | still queue => exact queue ▸ List.prefix_rfl
  | send h frame => exact ⟨_, (queue_enqueue h _).symm⟩
  | shut h => exact ⟨_, (queue_enqueue h _).symm⟩
  | start => exact List.prefix_rfl
  | trans _ _ first second => exact first.trans second

theorem Feeds.running (feeds : Feeds h h') (o : h.InOrder) (running : h.phase = .running) :
    h'.phase = .running := by
  induction feeds with
  | still _ _ _ phase => exact phase.trans running
  | send h frame =>
    unfold enqueue
    split <;> exact running
  | shut h =>
    unfold shutDown enqueue
    split <;> exact running
  | @start h idle =>
    have ⟨empty, closed⟩ := o.fresh idle
    rcases o.told (.inr running) with accepting | told
    · rw [accepting] at closed
      cases closed
    · rw [empty] at told
      cases told
  | trans first _ ih ih' => exact ih' (first.inOrder o) (ih o running)

theorem Feeds.closed (feeds : Feeds h h') (closed : h.accepting = false) (started : h.state ≠ .idle) :
    h'.queue = h.queue ∧ h'.accepting = false ∧ h'.state ≠ .idle := by
  have refused (h : Hub) (closed : h.accepting = false) (command : Command) : h.enqueue command = h :=
    if_neg (by simp [closed])
  induction feeds with
  | still queue accepting idle phase => exact ⟨queue, accepting.trans closed, fun now => started (idle now)⟩
  | send h frame =>
    rw [refused h closed]
    exact ⟨rfl, closed, started⟩
  | shut h =>
    unfold shutDown
    rw [refused h closed]
    exact ⟨rfl, rfl, started⟩
  | start idle => exact absurd idle started
  | trans _ _ first second =>
    obtain ⟨queue, closed', started'⟩ := first closed started
    obtain ⟨queue', rest⟩ := second closed' started'
    exact ⟨queue'.trans queue, rest⟩

theorem Feeds.site (feeds : Feeds h h') : h'.url = h.url ∧ h'.cookie = h.cookie := by
  induction feeds with
  | still _ _ _ _ site => exact site
  | send h frame =>
    unfold enqueue
    split <;> exact ⟨rfl, rfl⟩
  | shut h =>
    unfold shutDown enqueue
    split <;> exact ⟨rfl, rfl⟩
  | start => exact ⟨rfl, rfl⟩
  | trans _ _ first second => exact ⟨second.1.trans first.1, second.2.trans first.2⟩

/-! ### The operations of a hub -/

theorem Feeds.refl (h : Hub) : Feeds h h :=
  .still rfl rfl id rfl ⟨rfl, rfl⟩

theorem Feeds.guarded {p : Prop} [Decidable p] (feeds : Feeds h h') : Feeds h (if p then h' else h) := by
  split
  · exact feeds
  · exact .refl h

theorem feeds_modify (h : Hub) (id : ChannelId) (f : HubChannel → HubChannel) : Feeds h (h.modify id f) :=
  .still rfl rfl (fun idle => idle) rfl ⟨rfl, rfl⟩

theorem feeds_dispatch (h : Hub) (id : ChannelId) (event : String) (args : List Json) :
    Feeds h (h.dispatch id event args) :=
  feeds_modify h id _

theorem feeds_sendEvents (id : ChannelId) (events : List (List Json)) (h : Hub) :
    Feeds h (events.foldl (fun h args => h.sendEvent id args) h) := by
  induction events generalizing h with
  | nil => exact .refl h
  | cons args events ih => exact (Feeds.send h _).trans (ih _)

theorem feeds_onConnected (h : Hub) (id : ChannelId) : Feeds h (h.onConnected id) := by
  unfold onConnected
  dsimp only
  split
  · exact .refl h
  · exact ((feeds_modify h id _).trans (feeds_sendEvents id _ _)).trans (feeds_dispatch _ id _ _)

theorem feeds_onConnectError (h : Hub) (id : ChannelId) (message : String) :
    Feeds h (h.onConnectError id message) := by
  unfold onConnectError
  split
  · exact .refl h
  · exact (feeds_modify h id _).trans (feeds_dispatch _ id _ _)

theorem feeds_onClosed (h : Hub) (id : ChannelId) (reason : String) : Feeds h (h.onClosed id reason) := by
  unfold onClosed
  split
  · exact (feeds_modify h id _).trans (feeds_dispatch _ id _ _)
  · exact (feeds_modify h id _).trans (feeds_dispatch _ id _ _)
  · exact .refl h

theorem feeds_withAttached (h : Hub) (id : ChannelId) : Feeds h (h.withAttached id) :=
  .still rfl rfl (fun idle => idle) rfl ⟨rfl, rfl⟩

theorem feeds_attach (h : Hub) (id : ChannelId) : Feeds h (h.attach id) := by
  have joined := feeds_withAttached h id
  cases state : h.state with
  | idle =>
    rw [attach_idle state]
    exact joined.trans (.start state)
  | connecting =>
    rw [attach_connecting state]
    exact joined
  | opened =>
    rw [attach_opened state]
    split
    · exact joined.trans (feeds_onConnected _ id)
    · exact joined.trans (.send _ _)
  | closed =>
    rw [attach_closed state]
    exact joined.trans (feeds_onConnectError _ id _)

theorem feeds_detach (h : Hub) (id : ChannelId) : Feeds h (h.detach id) := by
  unfold detach
  dsimp only
  split
  · exact .refl h
  · have away (attached : Entries ChannelId) (confirmed : List String) :
        Feeds h { h with attached, confirmed } :=
      .still rfl rfl (fun idle => idle) rfl ⟨rfl, rfl⟩
    split
    · have closed (h : Hub) : Feeds h { h with state := .closed } := .still rfl rfl nofun rfl ⟨rfl, rfl⟩
      exact ((away _ _).trans (.shut _)).trans (closed _)
    · exact away _ _

theorem feeds_connect (h : Hub) (id : ChannelId) : Feeds h (h.connect id) := by
  unfold connect
  split
  · exact .refl h
  · exact .refl h
  · exact (feeds_modify h id _).trans (feeds_attach _ id)

theorem feeds_disconnect (h : Hub) (id : ChannelId) : Feeds h (h.disconnect id) := by
  unfold disconnect
  dsimp only
  split
  · exact .refl h
  · have marked := feeds_modify h id fun c => { c with state := .closed, buffer := [] }
    split
    · exact ((marked.trans (.send _ _)).trans (feeds_detach _ id)).trans (feeds_dispatch _ id _ _)
    · exact marked.trans (feeds_detach _ id)

theorem feeds_drop (h : Hub) (id : ChannelId) : Feeds h (h.drop id) := by
  unfold drop
  split
  · exact .refl h
  · have marked := feeds_modify h id fun c => { c with dropped := true }
    dsimp only
    split
    · exact marked
    · exact marked.trans (feeds_detach _ id)

theorem send_eq (h : Hub) (frame : EnginePacket) :
    h.send frame = if h.accepting then .ok { h with queue := h.queue ++ [.send frame] }
      else .error .connectionClosed := by
  unfold send enqueue
  split <;> rfl

theorem feeds_send (sent : h.send frame = .ok h') : Feeds h h' := by
  unfold send at sent
  split at sent
  · cases sent
    exact .send h frame
  · cases sent

theorem feeds_emitted (h : Hub) (id : ChannelId) (args : List Json) : Feeds h (h.emitted id args) := by
  unfold emitted
  split
  · rename_i taken
    unfold emit at taken
    split at taken
    · cases taken
    · split at taken
      · exact feeds_send taken
      · cases taken
        exact feeds_modify h id _
      · cases taken
        exact feeds_modify h id _
      · cases taken
      · cases taken
  · exact .refl h

theorem feeds_note (h : Hub) (p : SocketPacket) : Feeds h (h.note p) := by
  obtain ⟨_, noted⟩ := h.note_eq p
  rw [noted]
  exact .still rfl rfl (fun idle => idle) rfl ⟨rfl, rfl⟩

theorem feeds_hand (h : Hub) (id : ChannelId) (p : SocketPacket) : Feeds h (h.hand id p) := by
  unfold hand
  split
  · exact feeds_onConnected h id
  · exact feeds_onClosed h id _
  · exact feeds_onConnectError h id _
  · split
    · unfold onEvent
      split
      · exact feeds_dispatch h id _ _
      · exact .refl h
    · exact .refl h
  · exact .refl h

theorem feeds_receivePacket (h : Hub) (p : SocketPacket) : Feeds h (h.receivePacket p) := by
  unfold receivePacket
  dsimp only
  split
  · exact (feeds_note h p).trans (feeds_hand _ _ p)
  · exact feeds_note h p

theorem feeds_sendFrames (frame : String → EnginePacket) (wires : List String) (h : Hub) :
    Feeds h (wires.foldl (fun h wire => h.enqueue (.send (frame wire))) h) := by
  induction wires generalizing h with
  | nil => exact .refl h
  | cons wire wires ih => exact (Feeds.send h _).trans (ih _)

theorem feeds_receive (h : Hub) (frame : EnginePacket) : Feeds h (h.receive frame).1 := by
  cases frame with
  | opened info =>
    have opened : Feeds h { h with state := .opened } := .still rfl rfl nofun rfl ⟨rfl, rfl⟩
    exact opened.trans (feeds_sendFrames _ _ _)
  | close => exact .shut h
  | message p => exact feeds_receivePacket h p
  | ping payload => exact .refl h
  | pong payload => exact .refl h
  | upgrade => exact .refl h
  | noop => exact .refl h

theorem feeds_tellAll (failure : Option String) (ids : List ChannelId) (h : Hub) :
    Feeds h (ids.foldl (tell failure) h) := by
  induction ids generalizing h with
  | nil => exact .refl h
  | cons id ids ih =>
    refine Feeds.trans ?_ (ih _)
    unfold tell
    split
    · exact .refl h
    · cases failure with
      | some message => exact feeds_onConnectError h id message
      | none => exact feeds_onClosed h id _

/-! ### The end of the loop -/

theorem InOrder.closing (o : h.InOrder) : h.closing.InOrder :=
  ⟨nofun, nofun, o.last, fun underway => by rcases underway with begun | begun <;> cases begun⟩

theorem InOrder.finish (o : h.InOrder) (failure : Option String) : (h.finish failure).InOrder := by
  rw [finish_eq]
  exact (feeds_tellAll failure _ h.closing).inOrder o.closing

theorem queue_finish (h : Hub) (failure : Option String) :
    (h.finish failure).queue = h.queue ∧ (h.finish failure).accepting = false ∧
      (h.finish failure).state ≠ .idle := by
  rw [finish_eq]
  exact (feeds_tellAll failure _ h.closing).closed rfl nofun

end Hub

end LiveSession
