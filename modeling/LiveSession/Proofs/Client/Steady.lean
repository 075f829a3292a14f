import LiveSession.Proofs.Client.Effects
import LiveSession.Script.Run

/-!
# What actions leave alone

An action, however it is carried on, changes neither the profile of its client nor the mark that a
script is executing; only the start and the end of a script change that mark.
-/

namespace LiveSession.Client

variable {ω : Type} {c c' c'' : Client ω}

structure Steady (c c' : Client ω) : Prop where
  profile : c'.profile = c.profile
  running : c'.running = c.running

theorem Steady.refl (c : Client ω) : Steady c c := ⟨rfl, rfl⟩

theorem Steady.trans (h₁ : Steady c c') (h₂ : Steady c' c'') : Steady c c'' :=
  ⟨h₂.profile.trans h₁.profile, h₂.running.trans h₁.running⟩

theorem steady_release (c : Client ω) (race : RaceId) : Steady c (c.release race) := by
  obtain ⟨_, _, after⟩ := c.release_eq race
  rw [after]
  exact ⟨rfl, rfl⟩

theorem steady_receive (c : Client ω) (path : String) (a : Answer) :
    Steady c (c.receive path a).1 := by
  unfold receive
  cases a.result <;> exact ⟨rfl, rfl⟩

theorem steady_endWatch (c : Client ω) (w : Watch) (result : RaceResult (List Json)) :
    Steady c (c.endWatch w result).1 := by
  cases result <;> exact ⟨rfl, rfl⟩

variable [Transports ω]

/-! ### Deliveries and closings -/

theorem steady_deliver (c : Client ω) (channel : ChannelId) (s : Signal) :
    Steady c (c.deliver channel s) := by
  rw [deliver_eq]
  exact ⟨rfl, rfl⟩

theorem steady_deliverAll (channel : ChannelId) (signals : List Signal) (c : Client ω) :
    Steady c (deliverAll channel signals c) := by
  induction signals generalizing c with
  | nil => exact .refl c
  | cons s signals ih => exact (c.steady_deliver channel s).trans (ih _)

theorem steady_disconnect (c : Client ω) (channel : ChannelId) : Steady c (c.disconnect channel) := by
  have called : Steady c
      { c.logged (.disconnect channel) with
        world := (Transports.disconnect channel c.world).1 } := ⟨rfl, rfl⟩
  exact called.trans (steady_deliverAll channel _ _)

theorem steady_disconnectAll (channels : List SocketChannel) (c : Client ω) :
    Steady c (c.disconnectAll channels) := by
  induction channels generalizing c with
  | nil => exact .refl c
  | cons channel channels ih => exact (c.steady_disconnect channel.handle).trans (ih _)

theorem steady_unloadPage (c : Client ω) : Steady c c.unloadPage := by
  have unloaded : Steady c { c with session := c.session.unload } := ⟨rfl, rfl⟩
  exact unloaded.trans (steady_disconnectAll _ _)

theorem steady_clear (c : Client ω) : Steady c c.clear :=
  ⟨c.steady_unloadPage.profile, c.steady_unloadPage.running⟩

/-! ### HTTP actions -/

theorem steady_send (c : Client ω) (r : RequestAction) : Steady c (c.send r).1 := by
  unfold send
  split <;> exact ⟨rfl, rfl⟩

theorem steady_place (c : Client ω) (r : RequestAction) (response : HttpResponse) :
    Steady c (c.place r response).1 := by
  unfold place
  split
  · exact .refl c
  · split
    · exact ⟨rfl, rfl⟩
    · have replaced : Steady c
          { c with
            session := c.session.replacePage (Page.ofResponse c.pages response)
            pages := c.pages + 1 } := ⟨rfl, rfl⟩
      exact replaced.trans (steady_disconnectAll _ _)

theorem steady_pollRequest (c : Client ω) (r : RequestAction) (ticket : Ticket) :
    Steady c (c.pollRequest r ticket).1 := by
  unfold pollRequest finishRequest?
  cases Transports.answer? ticket c.world with
  | none => exact .refl c
  | some a =>
    have received := c.steady_receive r.path a
    dsimp only [Option.map_some, ended]
    generalize c.receive r.path a = result at received
    obtain ⟨c', e | response⟩ := result
    · exact received
    · exact received.trans (c'.steady_place r response)

theorem steady_dispatchRequest (c : Client ω) (kind : HttpKind) (r : RequestAction) :
    Steady c (c.dispatchRequest kind r).1 := by
  have started : Steady c (c.startRequest kind r).1 := by
    unfold startRequest
    split
    · exact .refl c
    · exact c.steady_send r
  unfold dispatchRequest
  generalize c.startRequest kind r = result at started
  obtain ⟨c', e | ticket⟩ := result
  · exact started
  · exact started.trans (c'.steady_pollRequest r ticket)

/-! ### Crawls -/

theorem steady_pollPending (c : Client ω) (cache : Bool) (f : Fetch) (ticket : Ticket) :
    Steady c (c.pollPending cache f ticket).1 := by
  unfold pollPending
  cases Transports.answer? ticket c.world with
  | none => exact .refl c
  | some a =>
    have received := c.steady_receive f.url.text a
    dsimp only
    generalize c.receive f.url.text a = result at received
    obtain ⟨c', e | response⟩ := result
    · exact received
    · cases cache
      · exact received
      · exact received.trans ⟨rfl, rfl⟩

theorem steady_pollFetch (c : Client ω) (cache : Bool) (f : Fetch) :
    Steady c (c.pollFetch cache f).1 := by
  unfold pollFetch
  cases f.status with
  | unsent =>
    have sent := c.steady_send f.request
    dsimp only
    generalize c.send f.request = result at sent
    obtain ⟨c', e | ticket⟩ := result
    · exact sent
    · exact sent.trans (c'.steady_pollPending cache f ticket)
  | pending ticket => exact c.steady_pollPending cache f ticket
  | loaded | failed e => exact .refl c

theorem steady_pollFetches (c : Client ω) (cache : Bool) (before rest : List Fetch) :
    Steady c (c.pollFetches cache before rest).1 := by
  induction rest generalizing c before with
  | nil => exact .refl c
  | cons f rest ih =>
    have fetched := c.steady_pollFetch cache f
    unfold pollFetches
    dsimp only
    split
    · exact fetched
    · exact fetched.trans (ih _ _)

theorem steady_pollCrawlJob (c : Client ω) (crawl : Crawl) : Steady c (c.pollCrawlJob crawl).1 := by
  have fetched := c.steady_pollFetches crawl.cache [] crawl.fetches
  unfold pollCrawlJob pollCrawl
  generalize c.pollFetches crawl.cache [] crawl.fetches = result at fetched
  obtain ⟨c', e | fetches⟩ := result
  · exact fetched
  · dsimp only
    by_cases loaded : fetches.all Fetch.isLoaded = true
    · rw [if_pos loaded]
      exact fetched
    · rw [if_neg loaded]
      exact fetched

/-! ### Watches and emits -/

theorem steady_pollWatch (c : Client ω) (channel : ChannelId) (w : Watch) (deadline : Nat) :
    Steady c (c.pollWatch channel w deadline).1 := by
  unfold pollWatch finishWatch?
  cases c.judge w.race deadline w.kind.accept with
  | none => exact .refl c
  | some result => exact (c.steady_release w.race).trans (steady_endWatch _ w result)

theorem steady_dispatchWatch (c : Client ω) (action : ActionKind) (kind : WatchKind)
    (w : WatchAction) : Steady c (c.dispatchWatch action kind w).1 := by
  have drawn : Steady c (c.draw (c.profile.timeout w.timeout)).1 := ⟨rfl, rfl⟩
  unfold dispatchWatch
  dsimp only
  split
  · exact drawn
  · rename_i channel _
    have installed : Steady c
        ((c.draw (c.profile.timeout w.timeout)).1.install channel.handle [w.event]).1 := ⟨rfl, rfl⟩
    exact installed.trans (steady_pollWatch _ _ _ _)

theorem steady_emit (c : Client ω) (e : EmitAction) : Steady c (c.emit e).1 := by
  unfold emit
  split
  · exact .refl c
  · split
    · split <;> exact ⟨rfl, rfl⟩
    · exact .refl c

/-! ### Attempts to connect -/

theorem steady_recordChannel (c : Client ω) (p : PendingChannel) :
    Steady c (c.recordChannel p).1 := by
  unfold recordChannel
  split
  · exact ⟨rfl, rfl⟩
  · exact c.steady_disconnect _

theorem steady_finishConnect (c : Client ω) (p : PendingChannel) (limit : Nat)
    (result : RaceResult (Except String Unit)) : Steady c (c.finishConnect p limit result).1 := by
  match result with
  | .resolved (.ok ()) => exact c.steady_recordChannel p
  | .resolved (.error m) => exact c.steady_disconnect _
  | .elapsed => exact c.steady_disconnect _

theorem steady_afterConnect (c : Client ω) (channel : SocketChannel) (next : Option Watch)
    (recorded : Except Error Unit) : Steady c (c.afterConnect channel next recorded).1 := by
  cases recorded with
  | error e =>
    cases next with
    | none => exact .refl c
    | some w => exact c.steady_release w.race
  | ok _ =>
    cases next with
    | none => exact .refl c
    | some w => exact c.steady_pollWatch _ w _

theorem steady_pollConnect (c : Client ω) (p : PendingChannel) (race : RaceId)
    (limit deadline : Nat) (next : Option Watch) :
    Steady c (c.pollConnect p race limit deadline next).1 := by
  unfold pollConnect
  cases c.judge race deadline connectVerdict with
  | none => exact .refl c
  | some result =>
    have finished := (c.steady_release race).trans (steady_finishConnect _ p limit result)
    exact finished.trans (steady_afterConnect _ _ _ _)

theorem steady_openChannel (c : Client ω) (kind : ActionKind) (ns : String) :
    Steady c (c.openChannel kind ns).1 := by
  unfold openChannel
  split
  · exact .refl c
  · dsimp only
    split
    · exact .refl c
    · split <;> exact ⟨rfl, rfl⟩

theorem steady_startConnect (c : Client ω) (p : PendingChannel) : Steady c (c.startConnect p).1 := by
  let called : Client ω :=
    { (c.install p.channel.handle [connectEvent, connectErrorEvent]).1.logged
        (.connect p.channel.handle) with world := (Transports.connect p.channel.handle c.world).1 }
  have same : Steady c called := ⟨rfl, rfl⟩
  have heard : Steady c (deliverAll p.channel.handle
      (Transports.connect p.channel.handle c.world).2 called) :=
    same.trans (steady_deliverAll _ _ _)
  unfold startConnect
  dsimp only
  split
  · exact heard.trans (steady_release _ _)
  · exact heard

theorem steady_establish (c : Client ω) (p : PendingChannel) (limit : Nat) (next : Option Watch) :
    Steady c (c.establish p limit next).1 := by
  have started := c.steady_startConnect p
  unfold establish
  generalize c.startConnect p = result at started
  obtain ⟨c', race⟩ := result
  cases race with
  | none =>
    exact (started.trans (c'.steady_recordChannel p)).trans (steady_afterConnect _ _ _ _)
  | some race => exact started.trans (c'.steady_pollConnect p race limit _ next)

theorem steady_dispatchConnect (c : Client ω) (a : ConnectAction) :
    Steady c (c.dispatchConnect a).1 := by
  have drawn : Steady c (c.draw (c.profile.timeout a.timeout)).1 := ⟨rfl, rfl⟩
  unfold dispatchConnect
  generalize c.draw (c.profile.timeout a.timeout) = result at drawn
  obtain ⟨c', limit⟩ := result
  have opened := drawn.trans (c'.steady_openChannel .channelConnect (c.profile.namespaceOf a.ns))
  dsimp only at opened ⊢
  generalize c'.openChannel .channelConnect (c.profile.namespaceOf a.ns) = result at opened
  obtain ⟨c'', e | p⟩ := result
  · exact opened
  · exact opened.trans (c''.steady_establish p limit none)

theorem steady_dispatchConnectWatch (c : Client ω) (action : ActionKind) (kind : WatchKind)
    (a : ConnectWatchAction) : Steady c (c.dispatchConnectWatch action kind a).1 := by
  have drawn (c : Client ω) (s : Span) : Steady c (c.draw s).1 := ⟨rfl, rfl⟩
  have first := drawn c (c.profile.timeout (a.connectTimeout <|> a.timeout))
  unfold dispatchConnectWatch
  generalize c.draw (c.profile.timeout (a.connectTimeout <|> a.timeout)) = result at first ⊢
  obtain ⟨c₁, connectLimit⟩ := result
  have second := first.trans (drawn c₁ (c₁.profile.timeout a.timeout))
  dsimp only at second ⊢
  generalize c₁.draw (c₁.profile.timeout a.timeout) = result at second ⊢
  obtain ⟨c₂, limit⟩ := result
  have opened := second.trans (c₂.steady_openChannel action (c.profile.namespaceOf a.ns))
  dsimp only at opened ⊢
  generalize c₂.openChannel action (c.profile.namespaceOf a.ns) = result at opened ⊢
  obtain ⟨c₃, e | p⟩ := result
  · exact opened
  · have installed : Steady c₃ (c₃.install p.channel.handle [a.event]).1 := ⟨rfl, rfl⟩
    exact (opened.trans installed).trans (steady_establish _ p connectLimit _)

/-! ### Actions -/

theorem steady_dispatch (c : Client ω) (action : Action) : Steady c (c.dispatch action).1 := by
  cases action with
  | http kind r => exact c.steady_dispatchRequest kind _
  | pageUnload => exact c.steady_unloadPage
  | loadStaticAssets a => exact c.steady_pollCrawlJob _
  | connect a => exact c.steady_dispatchConnect a
  | emit e => exact c.steady_emit e
  | awaitEmit w => exact c.steady_dispatchWatch _ _ w
  | confirmNoEmit w => exact c.steady_dispatchWatch _ _ w
  | confirmNoMatchingEmit w counts => exact c.steady_dispatchWatch _ _ w
  | connectAndAwaitEmit a => exact c.steady_dispatchConnectWatch _ _ a
  | connectAndConfirmNoEmit a => exact c.steady_dispatchConnectWatch _ _ a

theorem steady_poll (c : Client ω) (job : Job) : Steady c (c.poll job).1 := by
  cases job with
  | request r ticket => exact c.steady_pollRequest r ticket
  | crawl crawl => exact c.steady_pollCrawlJob crawl
  | connect p race limit deadline next => exact c.steady_pollConnect p race limit deadline next
  | watch channel w deadline => exact c.steady_pollWatch channel w deadline

omit [Transports ω] in
theorem steady_drawDelay (c : Client ω) (s : Script) (step : ScriptStep) :
    Steady c (c.drawDelay s step).1 := by
  unfold drawDelay
  split <;> exact ⟨rfl, rfl⟩

end LiveSession.Client
