import LiveSession.Connection.Loop
import LiveSession.Proofs.Connection.Feeding

/-!
# What the loop offers to the socket

A frame that was sent is in the queue before the command to shut down, and the loop takes the queue in
order. `queue_in_order` says that the frame is offered to the socket before the goodbye, unless the
socket ends by itself first, and that nothing is sent once the hub has been told to shut down.
-/

namespace LiveSession

/-- What may happen to a loop: what happens on its hub, at any time and in any order, and what the
loop itself comes to. -/
inductive LoopEvent where
  | move (m : HubMove)
  | send (frame : EnginePacket)
  | attach (id : ChannelId)
  | detach (id : ChannelId)
  | take
  | beat
  | lose

def LoopEvent.isTake : LoopEvent → Bool
  | take => true
  | _ => false

def Offer.queued? : Offer → Option EnginePacket
  | queued frame => some frame
  | reply _ | heartbeat | goodbye => none

namespace Loop

def start (url : Url) (cookie : Option String) : Loop :=
  { hub := { url, cookie } }

/-- A move on the hub; those that the loop makes go through it. -/
def move (l : Loop) : HubMove → Loop
  | .event .accepted => l.shake none
  | .event (.receive frame) => l.hear frame
  | .event (.finish (some failure)) => l.shake (some failure)
  | .event (.finish none) => l.finish
  | m => { l with hub := l.hub.move m }

def step (l : Loop) : LoopEvent → Loop
  | .move m => l.move m
  | .send frame => { l with hub := (l.hub.send frame).toOption.getD l.hub }
  | .attach id => { l with hub := l.hub.attach id }
  | .detach id => { l with hub := l.hub.detach id }
  | .take => l.take
  | .beat => l.beat
  | .lose => l.lose

def run (l : Loop) (events : List LoopEvent) : Loop :=
  events.foldl step l

/-- The frame that an event sends, by itself or as an event of a connected channel, and what comes
of it. -/
def sending? (l : Loop) : LoopEvent → Option (EnginePacket × Except Error Hub)
  | .send frame => some (frame, l.hub.send frame)
  | .move (.event (.emit id args)) =>
    if l.hub.isHeld id ∧ (l.hub.channel id).state = .connected ∧ args ≠ [] then
      some (.message (.event (l.hub.channel id).wire args), l.hub.emit id args)
    else none
  | _ => none

/-- The frames of the queue that have been offered. -/
def sent (l : Loop) : List EnginePacket :=
  l.offered.filterMap Offer.queued?

/-- The loop was left without a goodbye, because the socket ended. -/
def EndedAlone (l : Loop) : Prop :=
  l.left = true ∧ .goodbye ∉ l.offered

/-- The loop has said goodbye, after all that was queued. -/
structure Parted (l : Loop) : Prop where
  left : l.left = true
  closed : l.hub.accepting = false
  started : l.hub.state ≠ .idle
  drained : l.taken = l.hub.queue.length
  last : ∃ front, l.offered = front ++ [.goodbye] ∧ .goodbye ∉ front

structure Sound (l : Loop) : Prop where
  order : l.hub.InOrder
  taken : l.taken ≤ l.hub.queue.length
  sent : l.sent = (l.hub.queue.take l.taken).filterMap Command.frame?
  goodbye : .goodbye ∈ l.offered → l.Parted

variable {l : Loop} {h : Hub} {frame : EnginePacket} {e : LoopEvent} {n : Nat}

/-! ### What one step keeps -/

theorem isWaiting_iff : l.isWaiting = true ↔ l.hub.phase = .running ∧ l.left = false := by
  simp [isWaiting]

theorem Sound.silent (sound : l.Sound) (waiting : l.isWaiting = true) : .goodbye ∉ l.offered := by
  intro said
  have left := (sound.goodbye said).left
  rw [(isWaiting_iff.mp waiting).2] at left
  cases left

theorem Sound.started (sound : l.Sound) (waiting : l.isWaiting = true) : l.hub.state ≠ .idle := by
  intro idle
  have ⟨empty, closed⟩ := sound.order.fresh idle
  rcases sound.order.told (.inr (isWaiting_iff.mp waiting).1) with accepting | told
  · rw [accepting] at closed
    cases closed
  · rw [empty] at told
    cases told

/-- The hub may change as long as its queue only grows, and does not once it is closed. -/
theorem Sound.replace (sound : l.Sound) (order : h.InOrder) (grows : l.hub.queue <+: h.queue)
    (closed : l.hub.accepting = false → l.hub.state ≠ .idle →
      h.queue = l.hub.queue ∧ h.accepting = false ∧ h.state ≠ .idle) : { l with hub := h }.Sound where
  order := order
  taken := Nat.le_trans sound.taken grows.length_le
  sent := by
    obtain ⟨tail, whole⟩ := grows
    have same : h.queue.take l.taken = l.hub.queue.take l.taken := by
      rw [← whole, List.take_append_of_le_length sound.taken]
    rw [same]
    exact sound.sent
  goodbye := fun said => by
    have parted := sound.goodbye said
    obtain ⟨queue, closed', started⟩ := closed parted.closed parted.started
    exact ⟨parted.left, closed', started, parted.drained.trans (congrArg List.length queue.symm),
      parted.last⟩

theorem Sound.feed (sound : l.Sound) (feeds : l.hub.Feeds h) : { l with hub := h }.Sound :=
  sound.replace (feeds.inOrder sound.order) feeds.grows feeds.closed

theorem Sound.offer (sound : l.Sound) (waiting : l.isWaiting = true) {offers : List Offer}
    (other : ∀ o ∈ offers, o.queued? = none ∧ o ≠ .goodbye) :
    { l with offered := l.offered ++ offers }.Sound where
  order := sound.order
  taken := sound.taken
  sent := by
    have nothing : offers.filterMap Offer.queued? = [] :=
      List.filterMap_eq_nil_iff.mpr fun o member => (other o member).1
    refine Eq.trans ?_ sound.sent
    rw [Loop.sent, List.filterMap_append, nothing, List.append_nil]
    rfl
  goodbye := fun said => by
    rcases List.mem_append.mp said with before | now
    · exact absurd before (sound.silent waiting)
    · exact absurd rfl (other _ now).2

theorem Sound.hear (sound : l.Sound) (frame : EnginePacket) : (l.hear frame).Sound := by
  unfold Loop.hear
  split
  · rename_i waiting
    have fed := sound.feed (Hub.feeds_receive l.hub frame)
    have waiting' : { l with hub := (l.hub.receive frame).1 }.isWaiting = true := by
      have ⟨running, here⟩ := isWaiting_iff.mp waiting
      exact isWaiting_iff.mpr ⟨(Hub.feeds_receive l.hub frame).running sound.order running, here⟩
    have plain : ∀ o ∈ ((l.hub.receive frame).2.map Offer.reply).toList,
        o.queued? = none ∧ o ≠ .goodbye := by
      intro o member
      rw [Option.mem_toList, Option.map_eq_some_iff] at member
      obtain ⟨reply, _, rfl⟩ := member
      exact ⟨rfl, nofun⟩
    have answered := fed.offer waiting' plain
    exact ⟨answered.order, answered.taken, answered.sent, fun said =>
      let ⟨left, closed, started, drained, last⟩ := answered.goodbye said
      ⟨left, closed, started, drained, last⟩⟩
  · exact sound

theorem Sound.shutDown (sound : l.Sound) (waiting : l.isWaiting = true) (closed : l.hub.accepting = false)
    (drained : l.taken = l.hub.queue.length) : l.shutDown.Sound where
  order := sound.order
  taken := sound.taken
  sent := by
    refine Eq.trans ?_ sound.sent
    rw [Loop.sent, Loop.shutDown, List.filterMap_append]
    exact List.append_nil _
  goodbye := fun _ =>
    ⟨rfl, closed, sound.started waiting, drained, l.offered, rfl, sound.silent waiting⟩

theorem Sound.take (sound : l.Sound) : l.take.Sound := by
  unfold Loop.take
  split
  · rename_i waiting
    split
    · rename_i frame next
      have below := (List.getElem?_eq_some_iff.mp next).1
      refine ⟨sound.order, below, ?_, fun said => ?_⟩
      · rw [Loop.sent, List.filterMap_append, List.take_add_one, List.filterMap_append, next]
        exact congrArg (· ++ [frame]) sound.sent
      · rcases List.mem_append.mp said with before | now
        · exact absurd before (sound.silent waiting)
        · cases List.mem_singleton.mp now
    · rename_i told
      have below := (List.getElem?_eq_some_iff.mp told).1
      have closed : l.hub.accepting = false := by
        cases accepting : l.hub.accepting with
        | false => rfl
        | true => exact absurd (List.mem_of_getElem? told) (sound.order.plain accepting)
      have counted : { l with taken := l.taken + 1 }.Sound := by
        refine ⟨sound.order, below, ?_, fun said => absurd said (sound.silent waiting)⟩
        rw [List.take_add_one, List.filterMap_append, told]
        exact sound.sent.trans (List.append_nil _).symm
      exact counted.shutDown waiting closed (sound.order.last _ told)
    · rename_i nothing
      split
      · exact sound
      · rename_i refuses
        refine sound.shutDown waiting (by simpa using refuses) ?_
        exact Nat.le_antisymm sound.taken (List.getElem?_eq_none_iff.mp nothing)
  · exact sound

theorem Sound.beat (sound : l.Sound) : l.beat.Sound := by
  unfold Loop.beat
  split
  · rename_i due
    refine sound.offer due.1 fun o member => ?_
    cases List.mem_singleton.mp member
    exact ⟨rfl, nofun⟩
  · exact sound

theorem Sound.lose (sound : l.Sound) : l.lose.Sound := by
  unfold Loop.lose
  split
  · rename_i waiting
    exact ⟨sound.order, sound.taken, sound.sent, fun said => absurd said (sound.silent waiting)⟩
  · exact sound

theorem Sound.end_ (sound : l.Sound) (failure : Option String) :
    { l with hub := l.hub.finish failure }.Sound := by
  obtain ⟨queue, closed, started⟩ := l.hub.queue_finish failure
  exact sound.replace (sound.order.finish failure) (queue ▸ List.prefix_rfl)
    fun _ _ => ⟨queue, closed, started⟩

theorem Sound.shake (sound : l.Sound) (failure : Option String) : (l.shake failure).Sound := by
  unfold Loop.shake
  split
  · rename_i begun
    cases failure with
    | none =>
      have order : { l.hub with phase := .running }.InOrder :=
        ⟨sound.order.fresh, sound.order.plain, sound.order.last, fun _ => sound.order.told (.inl begun)⟩
      exact sound.replace order List.prefix_rfl fun closed started => ⟨rfl, closed, started⟩
    | some failure => exact sound.end_ (some failure)
  · exact sound

theorem Sound.finish (sound : l.Sound) : l.finish.Sound := by
  unfold Loop.finish
  split
  · exact sound.end_ none
  · exact sound

/-! ### Runs -/

/-- What one event may come to: the loop does something, or the hub alone changes. -/
inductive Advances (l : Loop) : Loop → Prop
  | hear (frame : EnginePacket) : Advances l (l.hear frame)
  | shake (failure : Option String) : Advances l (l.shake failure)
  | finish : Advances l l.finish
  | take : Advances l l.take
  | beat : Advances l l.beat
  | lose : Advances l l.lose
  | feed (h : Hub) (feeds : l.hub.Feeds h) : Advances l { l with hub := h }

theorem advances_move (l : Loop) (m : HubMove) : l.Advances (l.move m) := by
  have guarded {p : Prop} [Decidable p] {h : Hub} (feeds : l.hub.Feeds h) :
      l.Advances { l with hub := if p then h else l.hub } :=
    .feed _ feeds.guarded
  cases m with
  | connected id => exact guarded (Hub.feeds_onConnected _ id)
  | refused id message => exact guarded (Hub.feeds_onConnectError _ id _)
  | closed id reason => exact guarded (Hub.feeds_onClosed _ id _)
  | event event =>
    cases event with
    | create ns => exact .feed _ (.still rfl rfl (fun idle => idle) rfl ⟨rfl, rfl⟩)
    | listen id event | unlisten id event number => exact guarded (Hub.feeds_modify _ id _)
    | connect id => exact guarded (Hub.feeds_connect _ id)
    | disconnect id => exact guarded (Hub.feeds_disconnect _ id)
    | emit id args => exact guarded (Hub.feeds_emitted _ id args)
    | drop id => exact guarded (Hub.feeds_drop _ id)
    | accepted => exact .shake none
    | receive frame => exact .hear frame
    | finish failure =>
      cases failure with
      | none => exact .finish
      | some failure => exact .shake (some failure)

theorem advances_step (l : Loop) (e : LoopEvent) : l.Advances (l.step e) := by
  cases e with
  | move m => exact l.advances_move m
  | send frame =>
    refine .feed _ ?_
    cases sent : l.hub.send frame with
    | ok h => exact Hub.feeds_send sent
    | error _ => exact .refl l.hub
  | attach id => exact .feed _ (Hub.feeds_attach _ id)
  | detach id => exact .feed _ (Hub.feeds_detach _ id)
  | take => exact .take
  | beat => exact .beat
  | lose => exact .lose

variable {l' : Loop}

theorem Advances.sound (advances : l.Advances l') (sound : l.Sound) : l'.Sound := by
  cases advances with
  | hear frame => exact sound.hear frame
  | shake failure => exact sound.shake failure
  | finish => exact sound.finish
  | take => exact sound.take
  | beat => exact sound.beat
  | lose => exact sound.lose
  | feed h feeds => exact sound.feed feeds

theorem hub_take (l : Loop) : l.take.hub = l.hub := by
  unfold take
  split
  · split
    · rfl
    · rfl
    · split <;> rfl
  · rfl

theorem Advances.grows (advances : l.Advances l') : l.hub.queue <+: l'.hub.queue := by
  have ended (failure : Option String) : l.hub.queue <+: (l.hub.finish failure).queue :=
    (l.hub.queue_finish failure).1 ▸ List.prefix_rfl
  cases advances with
  | hear frame =>
    unfold Loop.hear
    split
    · exact (Hub.feeds_receive l.hub frame).grows
    · exact List.prefix_rfl
  | shake failure =>
    unfold Loop.shake
    split
    · cases failure with
      | none => exact List.prefix_rfl
      | some failure => exact ended (some failure)
    · exact List.prefix_rfl
  | finish =>
    unfold Loop.finish
    split
    · exact ended none
    · exact List.prefix_rfl
  | take => exact l.hub_take ▸ List.prefix_rfl
  | beat =>
    unfold Loop.beat
    split <;> exact List.prefix_rfl
  | lose =>
    unfold Loop.lose
    split <;> exact List.prefix_rfl
  | feed h feeds => exact feeds.grows

theorem Advances.left (advances : l.Advances l') (left : l.left = true) : l'.left = true := by
  have idle : ¬ l.isWaiting = true := by simp [isWaiting, left]
  cases advances with
  | hear frame => rwa [Loop.hear, if_neg idle]
  | shake failure =>
    unfold Loop.shake
    split
    · cases failure <;> exact left
    · exact left
  | finish =>
    unfold Loop.finish
    split <;> exact left
  | take => rwa [Loop.take, if_neg idle]
  | beat => rwa [Loop.beat, if_neg fun due => idle due.1]
  | lose => rwa [Loop.lose, if_neg idle]
  | feed h feeds => exact left

/-- A command that is left in the queue is taken, or the loop is left. -/
theorem take_progress (waiting : l.isWaiting = true) :
    l.take.left = true ∨
      (l.take.isWaiting = true ∧ min (l.taken + 1) l.hub.queue.length ≤ l.take.taken) := by
  unfold Loop.take
  rw [if_pos waiting]
  split
  · exact .inr ⟨waiting, Nat.min_le_left _ _⟩
  · exact .inl rfl
  · rename_i nothing
    have drained := List.getElem?_eq_none_iff.mp nothing
    split
    · exact .inr ⟨waiting, Nat.le_trans (Nat.min_le_right _ _) drained⟩
    · exact .inl rfl

/-- A loop that waits goes on to wait, or it is left. -/
theorem Advances.progress (advances : l.Advances l') (sound : l.Sound) (waiting : l.isWaiting = true) :
    l'.left = true ∨ (l'.isWaiting = true ∧ l.taken ≤ l'.taken) := by
  have ⟨running, here⟩ := isWaiting_iff.mp waiting
  cases advances with
  | hear frame =>
    refine .inr ?_
    rw [Loop.hear, if_pos waiting]
    exact ⟨isWaiting_iff.mpr ⟨(Hub.feeds_receive l.hub frame).running sound.order running, here⟩,
      Nat.le_refl _⟩
  | shake failure =>
    unfold Loop.shake
    rw [if_neg (by rw [running]; nofun)]
    exact .inr ⟨waiting, Nat.le_refl _⟩
  | finish =>
    rw [Loop.finish, if_neg (by simp [here])]
    exact .inr ⟨waiting, Nat.le_refl _⟩
  | take =>
    rcases take_progress waiting with left | ⟨waiting', taken⟩
    · exact .inl left
    · have bound := sound.taken
      exact .inr ⟨waiting', by omega⟩
  | beat =>
    unfold Loop.beat
    split <;> exact .inr ⟨waiting, Nat.le_refl _⟩
  | lose =>
    rw [Loop.lose, if_pos waiting]
    exact .inl rfl
  | feed h feeds =>
    exact .inr ⟨isWaiting_iff.mpr ⟨feeds.running sound.order running, here⟩, Nat.le_refl _⟩

theorem Sound.run (sound : l.Sound) (events : List LoopEvent) : (l.run events).Sound := by
  induction events generalizing l with
  | nil => exact sound
  | cons e events ih => exact ih ((l.advances_step e).sound sound)

theorem grows_run (l : Loop) (events : List LoopEvent) :
    l.hub.queue <+: (l.run events).hub.queue := by
  induction events generalizing l with
  | nil => exact List.prefix_rfl
  | cons e events ih => exact (l.advances_step e).grows.trans (ih _)

theorem left_run (left : l.left = true) (events : List LoopEvent) : (l.run events).left = true := by
  induction events generalizing l with
  | nil => exact left
  | cons e events ih => exact ih ((l.advances_step e).left left)

/-- How often the loop is to take a command. -/
def takes (events : List LoopEvent) : Nat :=
  events.countP LoopEvent.isTake

theorem run_progress (sound : l.Sound) (waiting : l.isWaiting = true) (events : List LoopEvent) :
    (l.run events).left = true ∨ ((l.run events).isWaiting = true ∧
      min (l.taken + takes events) l.hub.queue.length ≤ (l.run events).taken) := by
  induction events generalizing l with
  | nil => exact .inr ⟨waiting, Nat.min_le_left _ _⟩
  | cons e events ih =>
    have advances := l.advances_step e
    have first : (l.step e).left = true ∨ ((l.step e).isWaiting = true ∧
        min (l.taken + if e.isTake then 1 else 0) l.hub.queue.length ≤ (l.step e).taken) := by
      cases e with
      | take => exact take_progress waiting
      | _ =>
        rcases advances.progress sound waiting with left | ⟨waiting', taken⟩
        · exact .inl left
        · exact .inr ⟨waiting', Nat.le_trans (Nat.min_le_left _ _) taken⟩
    rcases first with left | ⟨waiting', taken⟩
    · exact .inl (left_run left events)
    · rcases ih (advances.sound sound) waiting' with left | ⟨waiting'', taken'⟩
      · exact .inl left
      · refine .inr ⟨waiting'', ?_⟩
        have counted : takes (e :: events) = takes events + if e.isTake then 1 else 0 :=
          List.countP_cons ..
        have grows := advances.grows.length_le
        rw [counted]
        change _ ≤ ((l.step e).run events).taken
        omega

/-! ### Frames that are sent -/

/-- What a run has made of the frame at a place of the queue: it is there, no command to shut down
is before it, and it is offered at its place before any goodbye. -/
structure Handed (l : Loop) (n : Nat) (frame : EnginePacket) : Prop where
  queued : l.hub.queue[n]? = some (.send frame)
  before : ∀ m : Nat, l.hub.queue[m]? = some .shutdown → n < m
  offered : .goodbye ∈ l.offered →
    ∃ front, l.offered = front ++ [.goodbye] ∧ (front.filterMap Offer.queued?)[n]? = some frame

theorem Sound.before (sound : l.Sound) (queued : l.hub.queue[n]? = some (.send frame)) (m : Nat)
    (told : l.hub.queue[m]? = some .shutdown) : n < m := by
  have last := sound.order.last m told
  have below := (List.getElem?_eq_some_iff.mp queued).1
  have apart : n ≠ m := by
    rintro rfl
    rw [queued] at told
    cases told
  omega

theorem Sound.sent_at (sound : l.Sound) (queued : l.hub.queue[n]? = some (.send frame))
    (taken : n < l.taken) : l.sent[n]? = some frame := by
  rw [sound.sent]
  exact Command.getElem?_frames queued (sound.before queued) taken

theorem Sound.handed (sound : l.Sound) (queued : l.hub.queue[n]? = some (.send frame)) :
    l.Handed n frame where
  queued := queued
  before := sound.before queued
  offered := fun said => by
    have parted := sound.goodbye said
    obtain ⟨front, offered, _⟩ := parted.last
    have below := (List.getElem?_eq_some_iff.mp queued).1
    have sent := sound.sent_at queued (parted.drained ▸ below)
    rw [Loop.sent, offered, List.filterMap_append] at sent
    exact ⟨front, offered, by rwa [← List.append_nil (front.filterMap Offer.queued?)]⟩

theorem sound_start (url : Url) (cookie : Option String) : (start url cookie).Sound where
  order := ⟨fun _ => ⟨rfl, rfl⟩, nofun, nofun, fun underway => by rcases underway with begun | begun <;> cases begun⟩
  taken := Nat.le_refl _
  sent := rfl
  goodbye := nofun

theorem emit_connected {id : ChannelId} {args : List Json} (connected : (h.channel id).state = .connected)
    (named : args ≠ []) : h.emit id args = h.send (.message (.event (h.channel id).wire args)) := by
  unfold Hub.emit
  rw [if_neg (by simpa using named)]
  simp only [connected]

theorem sending_connected (l : Loop) (id : ChannelId) (args : List Json) (held : l.hub.isHeld id = true)
    (connected : (l.hub.channel id).state = .connected) (named : args ≠ [])
    (accepting : l.hub.accepting = true) : ∃ h, l.sending? (.move (.event (.emit id args))) =
      some (.message (.event (l.hub.channel id).wire args), .ok h) := by
  have emitted := emit_connected connected named
  rw [Hub.send_eq, if_pos accepting] at emitted
  have sends : l.sending? (.move (.event (.emit id args))) =
      some (.message (.event (l.hub.channel id).wire args), l.hub.emit id args) :=
    if_pos ⟨held, connected, named⟩
  exact ⟨_, sends.trans (by rw [emitted])⟩

/-- What is sent goes through the hub, also as an event of a connected channel. -/
theorem result_of_sending {result : Except Error Hub} (sends : l.sending? e = some (frame, result)) :
    result = l.hub.send frame ∧ (l.step e).hub = result.toOption.getD l.hub := by
  cases e with
  | send frame' =>
    cases sends
    exact ⟨rfl, rfl⟩
  | move m =>
    cases m with
    | event event =>
      cases event with
      | emit id args =>
        unfold sending? at sends
        dsimp only at sends
        split at sends
        · rename_i holds
          cases sends
          have stepped : (l.step (.move (.event (.emit id args)))).hub =
              if l.hub.isHeld id then l.hub.emitted id args else l.hub := rfl
          refine ⟨emit_connected holds.2.1 holds.2.2, ?_⟩
          rw [stepped, if_pos holds.1, Hub.emitted]
          cases l.hub.emit id args <;> rfl
        · cases sends
      | _ => cases sends
    | _ => cases sends
  | _ => cases sends

/-- A frame is sent exactly if it is put into the queue and no command to shut down has been. -/
theorem Sound.sends_iff (sound : l.Sound) {result : Except Error Hub}
    (sends : l.sending? e = some (frame, result)) :
    ((∃ h, result = .ok h) ↔
        (l.step e).hub.queue = l.hub.queue ++ [.send frame] ∧ .shutdown ∉ l.hub.queue) ∧
      ∀ fault, result = .error fault → fault = .connectionClosed ∧ (l.step e).hub = l.hub := by
  obtain ⟨through, after⟩ := result_of_sending sends
  by_cases accepting : l.hub.accepting = true
  · obtain rfl : result = .ok { l.hub with queue := l.hub.queue ++ [.send frame] } :=
      through.trans ((l.hub.send_eq frame).trans (if_pos accepting))
    exact ⟨iff_of_true ⟨_, rfl⟩ ⟨congrArg Hub.queue after, sound.order.plain accepting⟩, nofun⟩
  · obtain rfl : result = .error .connectionClosed :=
      through.trans ((l.hub.send_eq frame).trans (if_neg accepting))
    have still : (l.step e).hub.queue = l.hub.queue := congrArg Hub.queue after
    constructor
    · constructor
      · rintro ⟨h, same⟩
        cases same
      · intro queued
        simp [still] at queued
    · intro fault same
      cases same
      exact ⟨rfl, after⟩

/-- What becomes of the frame at a place of the queue, whatever happens later: it is offered before
any goodbye, and unless the socket ends by itself once as many commands have been taken. -/
def Delivers (l : Loop) (n : Nat) (frame : EnginePacket) : Prop :=
  ∀ later, (l.run later).Handed n frame ∧
    ((l.run later).isWaiting = true → ∀ more, n < (l.run later).taken + takes more →
      ((l.run later).run more).sent[n]? = some frame ∨ ((l.run later).run more).EndedAlone)

theorem Sound.delivers (sound : l.Sound) (queued : l.hub.queue[n]? = some (.send frame)) :
    l.Delivers n frame := by
  have kept (l : Loop) (queued : l.hub.queue[n]? = some (.send frame)) (events : List LoopEvent) :
      (l.run events).hub.queue[n]? = some (.send frame) := by
    obtain ⟨tail, whole⟩ := l.grows_run events
    have below := (List.getElem?_eq_some_iff.mp queued).1
    rw [← whole, List.getElem?_append_left below]
    exact queued
  intro later
  have sound₁ := sound.run later
  have queued₁ := kept l queued later
  refine ⟨sound₁.handed queued₁, fun waiting more enough => ?_⟩
  have sound₂ := sound₁.run more
  have queued₂ := kept _ queued₁ more
  by_cases said : .goodbye ∈ ((l.run later).run more).offered
  · refine .inl (sound₂.sent_at queued₂ ?_)
    rw [(sound₂.goodbye said).drained]
    exact (List.getElem?_eq_some_iff.mp queued₂).1
  · rcases run_progress sound₁ waiting more with left | ⟨_, taken⟩
    · exact .inr ⟨left, said⟩
    · have below := (List.getElem?_eq_some_iff.mp queued₁).1
      exact .inl (sound₂.sent_at queued₂ (by omega))

/-- In every run the queue has one command to shut down at most, and it is the last. A frame is sent
exactly if it is put into the queue and no such command has been before; then it is offered to the
socket before any goodbye, unless the socket ends by itself first. -/
theorem queue_in_order (url : Url) (cookie : Option String) (events : List LoopEvent) :
    let l := (start url cookie).run events
    (∃ frames : List EnginePacket,
      l.hub.queue = frames.map .send ∨ l.hub.queue = frames.map .send ++ [.shutdown]) ∧
    ∀ e frame result, l.sending? e = some (frame, result) →
      ((∃ h, result = .ok h) ↔
        (l.step e).hub.queue = l.hub.queue ++ [.send frame] ∧ .shutdown ∉ l.hub.queue) ∧
      (∀ fault, result = .error fault → fault = .connectionClosed ∧ (l.step e).hub = l.hub) ∧
      ∀ h, result = .ok h → (l.step e).Delivers l.hub.queue.length frame := by
  intro l
  have sound : l.Sound := (sound_start url cookie).run events
  refine ⟨Command.exists_frames sound.order.last, fun e frame result sends => ?_⟩
  obtain ⟨sent, refused⟩ := sound.sends_iff sends
  refine ⟨sent, refused, fun h taken => ?_⟩
  have queued := (sent.mp ⟨h, taken⟩).1
  refine ((l.advances_step e).sound sound).delivers ?_
  rw [queued, List.getElem?_concat_length]

/-- The last channel leaves after an event: the event is offered before the goodbye. -/
theorem queue_in_order_leaving :
    let url : Url := { scheme := "ws", host := some (.domain "localhost"), path := .segments [""] }
    let joined : List LoopEvent :=
      [.move (.event (.create "/chat")), .move (.event (.connect 0)), .move (.event .accepted),
        .move (.event (.receive (.opened { sid := "s", pingInterval := 25000, pingTimeout := 5000 }))),
        .move (.event (.receive (.message (.connect "/chat"))))]
    let emit : LoopEvent := .move (.event (.emit 0 [.str "hi"]))
    let l := (((start url none).run joined).step emit).run [.detach 0, .take, .take, .take]
    l.hub.queue.length = 3 ∧ ∃ front, l.offered = front ++ [.goodbye] ∧
      (front.filterMap Offer.queued?)[1]? = some (.message (.event "/chat" [.str "hi"])) := by
  intro url joined emit l
  obtain ⟨h, sends⟩ := sending_connected ((start url none).run joined) 0 [.str "hi"]
    (by decide +kernel) (by decide +kernel) nofun (by decide +kernel)
  have wire : (((start url none).run joined).hub.channel 0).wire = "/chat" := by decide +kernel
  have length : ((start url none).run joined).hub.queue.length = 1 := by decide +kernel
  have delivers := ((queue_in_order url none joined).2 emit _ _ sends).2.2 h rfl
  have handed := (delivers [.detach 0, .take, .take, .take]).1
  rw [wire, length] at handed
  have goodbye : l.offered.any (fun o => match o with | .goodbye => true | _ => false) = true := by
    decide +kernel
  obtain ⟨o, member, last⟩ := List.any_eq_true.mp goodbye
  cases o with
  | goodbye => exact ⟨by decide +kernel, handed.offered member⟩
  | _ => cases last

end Loop

end LiveSession
