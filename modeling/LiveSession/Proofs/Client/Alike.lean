import LiveSession.Proofs.Client.Trials

/-!
# Clients that are alike

Two clients that see the same and have seen the same, whoever listens on their channels. What is
done to both keeps them so, and an attempt to connect that both have in flight ends alike. The second
of them may have drawn fewer spans; what it draws next is known from its profile and sources.
-/

namespace LiveSession

variable {ω : Type}

structure Alike (profile : Profile) (sources : Sources) (c c' : Client ω) : Prop where
  world : c'.world = c.world
  history : c'.history = c.history
  page : c'.session.page = c.session.page
  profile : c'.profile = profile
  sources : c'.sources = sources

namespace Alike

variable [Transports ω] {profile : Profile} {sources : Sources} {c c' : Client ω}
  {p : PendingChannel}

theorem now (alike : Alike profile sources c c') : c'.now = c.now :=
  congrArg Transports.now alike.world

theorem ahead {c₁ c₁' : Client ω} {sources' : Sources} (alike : Alike profile sources c c')
    (after : Alike profile sources' c₁ c₁') (ahead : c.now ≤ c₁.now) : c'.now ≤ c₁'.now := by
  rw [alike.now, after.now]
  exact ahead

omit [Transports ω] in
theorem release (alike : Alike profile sources c c') (race race' : RaceId) :
    Alike profile sources (c.release race) (c'.release race') := by
  obtain ⟨_, _, after⟩ := c.release_eq race
  obtain ⟨_, _, after'⟩ := c'.release_eq race'
  rw [after, after']
  exact ⟨alike.world, alike.history, alike.page, alike.profile, alike.sources⟩

theorem deliver (alike : Alike profile sources c c') (channel : ChannelId) (s : Signal) :
    Alike profile sources (c.deliver channel s) (c'.deliver channel s) := by
  rw [Client.deliver_eq, Client.deliver_eq]
  refine ⟨alike.world, ?_, alike.page, alike.profile, alike.sources⟩
  show c'.history ++ [.dispatched channel ⟨s.event, s.args, c'.now⟩] = c.history ++ _
  rw [alike.history, alike.now]

theorem deliverAll (alike : Alike profile sources c c') (channel : ChannelId)
    (signals : List Signal) :
    Alike profile sources (Client.deliverAll channel signals c)
      (Client.deliverAll channel signals c') := by
  induction signals generalizing c c' with
  | nil => exact alike
  | cons s signals ih => exact ih (alike.deliver channel s)

/-! ### Closing -/

theorem disconnect (alike : Alike profile sources c c') (channel : ChannelId) :
    Alike profile sources (c.disconnect channel) (c'.disconnect channel) := by
  unfold Client.disconnect
  rw [alike.world]
  have called : Alike profile sources
      { c.logged (.disconnect channel) with world := (Transports.disconnect channel c.world).1 }
      { c'.logged (.disconnect channel) with world := (Transports.disconnect channel c.world).1 } :=
    ⟨rfl, alike.history, alike.page, alike.profile, alike.sources⟩
  exact called.deliverAll channel _

theorem disconnectAll (alike : Alike profile sources c c') (channels : List SocketChannel) :
    Alike profile sources (c.disconnectAll channels) (c'.disconnectAll channels) := by
  induction channels generalizing c c' with
  | nil => exact alike
  | cons channel channels ih => exact ih (alike.disconnect channel.handle)

theorem clear (alike : Alike profile sources c c') : Alike profile sources c.clear c'.clear := by
  have same : c'.session.channels = c.session.channels := by
    unfold Session.channels
    rw [alike.page]
  have left : Alike profile sources { c with session := c.session.unload }
      { c' with session := c'.session.unload } :=
    ⟨alike.world, alike.history, rfl, alike.profile, alike.sources⟩
  have unloaded := left.disconnectAll c.session.channels
  unfold Client.clear Client.unloadPage
  rw [same]
  exact ⟨unloaded.world, unloaded.history, unloaded.page, unloaded.profile, unloaded.sources⟩

/-! ### Attempts to connect -/

theorem recordChannel (alike : Alike profile sources c c') (p : PendingChannel) :
    (c'.recordChannel p).2 = (c.recordChannel p).2 ∧
      Alike profile sources (c.recordChannel p).1 (c'.recordChannel p).1 := by
  unfold Client.recordChannel
  rw [alike.page]
  split
  · refine ⟨rfl, alike.world, ?_, ?_, alike.profile, alike.sources⟩
    · show c'.history ++ _ = c.history ++ _
      rw [alike.history]
    · show c'.session.page.map _ = c.session.page.map _
      rw [alike.page]
  · exact ⟨rfl, alike.disconnect p.channel.handle⟩

theorem finishConnect (alike : Alike profile sources c c') (p : PendingChannel) (limit : Nat)
    (result : RaceResult (Except String Unit)) :
    (c'.finishConnect p limit result).2 = (c.finishConnect p limit result).2 ∧
      Alike profile sources (c.finishConnect p limit result).1
        (c'.finishConnect p limit result).1 := by
  match result with
  | .resolved (.ok ()) => exact alike.recordChannel p
  | .resolved (.error m) => exact ⟨rfl, alike.disconnect p.channel.handle⟩
  | .elapsed => exact ⟨rfl, alike.disconnect p.channel.handle⟩

/-- An attempt that both have in flight, and have heard the same of, ends for both or for neither. -/
theorem attempt? (alike : Alike profile sources c c') {k k' : List Held} {race race' : RaceId}
    {base : List ChannelEvent} {opened opened' : Nat} (limit deadline : Nat)
    (h : Wired c k) (holds : .listeners (p.subscription race) ∈ k)
    (hears : c.Overhears (p.subscription race) base opened)
    (h' : Wired c' k') (holds' : .listeners (p.subscription race') ∈ k')
    (hears' : c'.Overhears (p.subscription race') base opened') :
    c.attempt? p race limit deadline = none ∧ c'.attempt? p race' limit deadline = none ∨
      ∃ c₁ c₁' recorded, c.attempt? p race limit deadline = some (c₁, recorded) ∧
        c'.attempt? p race' limit deadline = some (c₁', recorded) ∧
        Alike profile sources c₁ c₁' := by
  have judged : c'.judge race' deadline Client.connectVerdict =
      c.judge race deadline Client.connectVerdict := by
    refine (hears'.judge h' holds' _ _).trans (Eq.symm ((hears.judge h holds _ _).trans ?_))
    rw [alike.now, alike.history]
    rfl
  unfold Client.attempt?
  rw [judged]
  cases c.judge race deadline Client.connectVerdict with
  | none => exact .inl ⟨rfl, rfl⟩
  | some result =>
    obtain ⟨same, after⟩ := (alike.release race race').finishConnect p limit result
    refine .inr ⟨_, _, ((c.release race).finishConnect p limit result).2, rfl, ?_, after⟩
    rw [Option.map_some, ← same]

theorem connecting (alike : Alike profile sources c c') (p : PendingChannel) :
    Alike profile sources (c.connecting p) (c'.connecting p) := by
  unfold Client.connecting
  rw [alike.world]
  refine deliverAll ?_ _ _
  exact ⟨rfl, alike.history, alike.page, alike.profile, alike.sources⟩

/-- An attempt that both start, with as much heard, goes on for both or for neither. -/
theorem tryConnect (alike : Alike profile sources c c') (forward : Transports.Forward ω)
    {k k' : List Held} {base more : List ChannelEvent} (limit : Nat)
    (h : Wired c (.channel p :: k)) (h' : Wired c' (.channel p :: k'))
    (history : c.history = base ++ more) (silent : dispatches more = []) :
    ∃ c₁ c₁' outcome, c.tryConnect p limit = (c₁, outcome) ∧ c'.tryConnect p limit = (c₁', outcome) ∧
      Alike profile sources c₁ c₁' := by
  have called := alike.connecting p
  have hears := Client.overhears_connecting forward h history silent
  have hears' := Client.overhears_connecting forward h' (alike.history.trans history) silent
  have acts := Client.startConnect_acts (k := .channel p :: k) c p List.mem_cons_self
  have acts' := Client.startConnect_acts (k := .channel p :: k') c' p List.mem_cons_self
  unfold Client.tryConnect
  rw [Client.startConnect_eq] at acts acts' ⊢
  rw [Client.startConnect_eq]
  rw [called.world] at acts' ⊢
  by_cases connected : Transports.stateOf p.channel.handle (c.connecting p).world = .connected
  · rw [if_pos connected, if_pos connected]
    obtain ⟨same, recorded⟩ := (called.release c.started c'.started).recordChannel p
    dsimp only
    rw [same]
    exact ⟨_, _, _, rfl, rfl, recorded⟩
  · rw [if_neg connected] at acts acts'
    rw [if_neg connected, if_neg connected]
    dsimp only at acts acts' ⊢
    rw [called.now]
    rcases called.attempt? limit ((c.connecting p).now + limit) (h.acts acts) List.mem_cons_self
      hears (h'.acts acts') List.mem_cons_self hears' with
      ⟨going, going'⟩ | ⟨c₁, c₁', recorded, settled, settled', after⟩
    · rw [going, going']
      exact ⟨_, _, none, rfl, rfl, called⟩
    · rw [settled, settled']
      exact ⟨c₁, c₁', some recorded, rfl, rfl, after⟩

end Alike

theorem Client.alike_openChannel [Transports ω] (c : Client ω) (sources sources' : Sources)
    (kind kind' : ActionKind) (ns : String) :
    (∃ c₁ c₁' e e', { c with sources }.openChannel kind ns = (c₁, .error e) ∧
        { c with sources := sources' }.openChannel kind' ns = (c₁', .error e')) ∨
      ∃ c₁ c₁' p, { c with sources }.openChannel kind ns = (c₁, .ok p) ∧
        { c with sources := sources' }.openChannel kind' ns = (c₁', .ok p) ∧
        p.channel.ns = ns ∧ Alike c.profile sources' c₁ c₁' := by
  unfold openChannel Session.requirePage
  cases c.session.page with
  | none => exact .inl ⟨_, _, _, _, rfl, rfl⟩
  | some page =>
    dsimp only
    cases c.profile.resolve ns with
    | error e => exact .inl ⟨_, _, _, _, rfl, rfl⟩
    | ok url =>
      dsimp only [logged]
      cases Transports.openChannel url ⟨page.channels.isEmpty, false, c.cookies.header?⟩ c.world with
      | error e => exact .inl ⟨_, _, _, _, rfl, rfl⟩
      | ok world => exact .inr ⟨_, _, _, rfl, rfl, rfl, rfl, rfl, rfl, rfl, rfl⟩

end LiveSession
