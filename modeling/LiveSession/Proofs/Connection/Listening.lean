import LiveSession.Proofs.Channel.Reentrancy
import LiveSession.Proofs.Connection.Buffers

/-!
# What the listeners of a channel hear

A hub puts down which listeners of a channel have been called. `HubChannel.Hears` says which ones these
are when an event reaches the channel, and that the registry itself calls the same ones, whatever they do
to it when they are called. `ordered_run` says of every run that no listener is called twice.
-/

namespace LiveSession

open Machine

/-- An event reaches a channel: the listeners `targets` are called with its arguments, and all else of
the channel stays as it is. -/
structure HubChannel.Hears (c c' : HubChannel) (event : String) (args : List Json)
    (targets : List (Registration Unit)) : Prop where
  registered : targets = c.listeners.entries.filter fun r => r.event = event
  /-- Each is called once, in the order of registration. -/
  once : targets.Pairwise fun r r' => r.id < r'.id
  channel : c' =
    { c with
      dispatched := c.dispatched ++ [(event, args, targets.length)]
      called := c.called ++ targets.map fun r => (r, args) }
  /-- A program that takes over the registry and dispatches the event calls them from the first on, and
  all of them when the dispatch answers, however its listeners react. The log begins with the entries of
  the registry, and the dispatch comes right after them. -/
  registry : ∀ {κ σ : Type} (p : Program Unit κ σ) (memory : σ) (k : κ) (next : Nat → κ),
    (p.move k memory).1 = .dispatch event args next → ∀ n,
      let log := ((resume c.listeners memory k).run p (n + 1)).log
      let number := c.listeners.entries.length
      ∃ before after, targets = before ++ after ∧
        calls number log = before.map (fun r => (r, args)) ∧
        (answers number log = [] ∨ after = [] ∧ answers number log = [targets.length])

theorem HubChannel.Hears.noted {c c' : HubChannel} {event : String} {args : List Json}
    {targets : List (Registration Unit)} (hears : c.Hears c' event args targets) :
    c'.dispatched = c.dispatched ++ [(event, args, targets.length)] ∧
      c'.called = c.called ++ targets.map fun r => (r, args) := by
  rw [hears.channel]
  exact ⟨rfl, rfl⟩

theorem HubChannel.hears_dispatch {c : HubChannel} (ordered : c.listeners.Ordered) (event : String)
    (args : List Json) : c.Hears (c.dispatch event args) event args (c.listeners.on event) where
  registered := List.filter_congr fun r _ => by rw [Bool.eq_iff_iff, beq_iff_eq, decide_eq_true_iff]
  once := ordered.ascending.sublist List.filter_sublist
  channel := rfl
  registry p memory k next move n := by
    obtain ⟨before, after, parts, called, answered⟩ := resume_dispatches ordered move n
    refine ⟨before, after, parts, called, answered.imp_right fun ⟨all, answer⟩ => ⟨all, ?_⟩⟩
    rw [answer, parts, all, List.append_nil]

namespace Hub

variable {h h' : Hub} {id : ChannelId}

/-! ### The listeners of all channels -/

/-- The listeners of each channel stand in the order of their registration. -/
def Ordered (h : Hub) : Prop :=
  ∀ id, (h.channel id).listeners.Ordered

theorem Ordered.of_channels (ordered : h.Ordered) (channels : h'.channels = h.channels) : h'.Ordered :=
  fun id => channel_of_channels channels id ▸ ordered id

theorem Ordered.only (ordered : h.Ordered) (only : Only id h h') : h'.Ordered := by
  intro other
  by_cases same : other = id
  · rw [same]
    exact only.listeners (ordered id)
  · rw [only.others other same]
    exact ordered other

theorem Ordered.guarded {p : Prop} [Decidable p] (ordered : h.Ordered) (ordered' : h'.Ordered) :
    (if p then h' else h).Ordered := by
  split
  · exact ordered'
  · exact ordered

theorem ordered_create (ordered : h.Ordered) (ns : String) : (h.create ns).Ordered := by
  intro id
  unfold channel create
  by_cases below : id < h.channels.length
  · rw [List.getElem?_append_left below]
    exact ordered id
  · rw [List.getElem?_append_right (Nat.le_of_not_lt below)]
    cases id - h.channels.length with
    | zero | succ => exact Listeners.ordered_empty

theorem ordered_drop (ordered : h.Ordered) (id : ChannelId) : (h.drop id).Ordered := by
  let h₁ := h.modify id fun c => { c with dropped := true }
  have marked : h₁.Ordered :=
    ordered.only (only_modify h id _ (fun _ => rfl) fun _ ordered => ordered)
  unfold drop
  dsimp only
  split
  · exact ordered
  · split
    · exact marked
    · exact marked.of_channels (channels_detach h₁ id)

theorem ordered_receive (ordered : h.Ordered) (frame : EnginePacket) : (h.receive frame).1.Ordered := by
  cases frame with
  | message p =>
    have noted : (h.note p).Ordered := ordered.of_channels (channels_note h p)
    show (h.receivePacket p).Ordered
    unfold receivePacket
    dsimp only
    split
    · exact noted.only (only_hand _ _ p)
    · exact noted
  | opened info => exact ordered.of_channels (channels_sendFrames _ _ _)
  | close => exact ordered.of_channels (channels_enqueue h _)
  | ping | pong | upgrade | noop => exact ordered

theorem ordered_tellAll (ordered : h.Ordered) (failure : Option String) (ids : List ChannelId) :
    (ids.foldl (tell failure) h).Ordered := by
  induction ids generalizing h with
  | nil => exact ordered
  | cons id ids ih => exact ih (ordered.only (only_tell failure h id))

theorem ordered_step (ordered : h.Ordered) (event : HubEvent) : (h.step event).Ordered := by
  cases event with
  | create ns => exact ordered_create ordered ns
  | listen id event =>
    have listening := only_modify h id (fun c => { c with listeners := c.listeners.add event () })
      (fun _ => rfl) fun _ ordered => ordered.add event ()
    exact ordered.guarded (ordered.only listening)
  | unlisten id event number =>
    have leaving := only_modify h id (fun c => { c with listeners := c.listeners.remove event number })
      (fun _ => rfl) fun _ ordered => ordered.remove event number
    exact ordered.guarded (ordered.only leaving)
  | connect id => exact ordered.guarded (ordered.only (only_connect h id))
  | disconnect id => exact ordered.guarded (ordered.only (only_disconnect h id))
  | emit id args => exact ordered.guarded (ordered.only (alone_emitted h id args).only)
  | drop id => exact ordered.guarded (ordered_drop ordered id)
  | accepted => exact ordered.guarded (ordered.of_channels rfl)
  | receive frame => exact ordered.guarded (ordered_receive ordered frame)
  | finish failure =>
    have told := ordered_tellAll (h := h.closing) (ordered.of_channels rfl) failure
    exact ordered.guarded (told (h.attached.map Prod.snd))

theorem ordered_run (url : Url) (cookie : Option String) (events : List HubEvent) :
    (run { url, cookie } events).Ordered := by
  have all {h : Hub} (ordered : h.Ordered) : (h.run events).Ordered := by
    induction events generalizing h with
    | nil => exact ordered
    | cons event events ih => exact ih (ordered_step ordered event)
  exact all fun _ => Listeners.ordered_empty

end Hub

end LiveSession
