import LiveSession.Proofs.Client.Effects
import LiveSession.Proofs.Client.Tab
import LiveSession.Proofs.Entries

/-!
# Acts of a client

Whatever an action does, it does by a few elementary acts: it registers or removes the listeners of
a race, it opens, records or closes a channel, it replaces the page, or it changes nothing of these.
`Act` lists them together with what the action holds before and after. `dispatch_acts`, `poll_acts`
and their like for scripts say that all work is made of acts, and `Tab.step_acts` that every step of
a tab is; an invariant of tabs is then one case for each act.
-/

namespace LiveSession

/-- The world after a call of the transports. -/
inductive Transports.Called {ω : Type} [Transports ω] : ω → ω → Prop where
  | send (request : HttpRequest) (cookie : Option String) (w : ω) :
      Called w (Transports.send request cookie w).1
  | openChannel {url : Url} {config : ChannelConfig} {w w' : ω}
      (opened : Transports.openChannel url config w = .ok w') : Called w w'
  | connect (channel : ChannelId) (w : ω) : Called w (Transports.connect channel w).1
  | disconnect (channel : ChannelId) (w : ω) : Called w (Transports.disconnect channel w).1
  | emit {channel : ChannelId} {args : List Json} {w w' : ω}
      (sent : Transports.emit channel args w = .ok w') : Called w w'

/-- Listeners, channels and pages are the same in two clients. -/
structure Still {ω : Type} (c c' : Client ω) : Prop where
  channels : c'.channels = c.channels
  races : c'.races = c.races
  started : c'.started = c.started
  pages : c'.pages = c.pages
  page : c'.session.page = c.session.page
  history : c'.history = c.history
  closings : ∀ channel, closings channel c'.log = closings channel c.log

variable {ω : Type} [Transports ω]

/-- A channel that can be listened on: it is held, recorded on the page, or opened by now. -/
inductive Known (c : Client ω) (k : List Held) : ChannelId → Prop where
  | held {p : PendingChannel} (holds : .channel p ∈ k) : Known c k p.channel.handle
  | recorded {channel : SocketChannel} (current : channel ∈ c.session.channels) :
      Known c k channel.handle
  | opened {channel : ChannelId} (opened : channel < c.channels.length) : Known c k channel

/-- One elementary act, with what is held before and after. -/
inductive Act : Client ω → List Held → Client ω → List Held → Prop where
  | quiet (still : Still c c') (world : c'.world = c.world ∨ Transports.Called c.world c'.world) :
      Act c k c' k
  | deliver (channel : ChannelId) (s : Signal) : Act c k (c.deliver channel s) k
  | install {channel : ChannelId} {events : List String} (known : Known c k channel)
      (distinct : events.Nodup) :
      Act c k (c.install channel events).1 (.listeners ⟨c.started, channel, events⟩ :: k)
  | release (s : Subscription) : Act c (.listeners s :: k) (c.release s.race) k
  | opened {page : Page} {channel : SocketChannel} {world : ω} (current : c.session.page = some page)
      (next : channel.handle = c.channels.length)
      (chosen : channel.config.forceNew = page.channels.isEmpty ∧ channel.config.autoConnect = false)
      (called : Transports.Called c.world world) :
      Act c k
        { c with
          world
          channels := c.channels ++ [{}]
          history := c.history ++ [.opened page.id channel] }
        (.channel ⟨page.id, channel⟩ :: k)
  | recorded {page : Page} {p : PendingChannel} (current : c.session.page = some page)
      (same : page.id = p.page) :
      Act c (.channel p :: k)
        { c with
          session := c.session.record p.channel
          history := c.history ++ [.recorded p.page p.channel] }
        k
  | abandoned (p : PendingChannel) : Act c (.channel p :: k) (c.disconnect p.channel.handle) k
  | unloaded : Act c k c.unloadPage k
  | loaded (response : HttpResponse) : Act c k (c.loadPage response) k
  | swap (a b : Held) : Act c (a :: b :: k) c (b :: a :: k)

/-- Any number of acts. -/
inductive Acts : Client ω → List Held → Client ω → List Held → Prop where
  | refl : Acts c k c k
  | step (act : Act c k c' k') (rest : Acts c' k' c'' k'') : Acts c k c'' k''

variable {c c' c'' : Client ω} {k k' k'' : List Held}

namespace Acts

theorem single (act : Act c k c' k') : Acts c k c' k' := .step act .refl

theorem trans (h₁ : Acts c k c' k') (h₂ : Acts c' k' c'' k'') : Acts c k c'' k'' := by
  induction h₁ with
  | refl => exact h₂
  | step act _ ih => exact .step act (ih h₂)

theorem then_act (h : Acts c k c' k') (act : Act c' k' c'' k'') : Acts c k c'' k'' :=
  h.trans (single act)

end Acts

omit [Transports ω] in
theorem Known.frame {channel : ChannelId} (known : Known c k channel) (others : List Held) :
    Known c (k ++ others) channel := by
  cases known with
  | held holds => exact .held (List.mem_append_left _ holds)
  | recorded current => exact .recorded current
  | opened below => exact .opened below

/-- What else is held does not matter to an act. -/
theorem Act.frame (act : Act c k c' k') (others : List Held) :
    Act c (k ++ others) c' (k' ++ others) := by
  cases act with
  | quiet still world => exact .quiet still world
  | deliver channel s => exact .deliver channel s
  | install known distinct => exact .install (known.frame others) distinct
  | release s => exact .release s
  | opened current next chosen called => exact .opened current next chosen called
  | recorded current same => exact .recorded current same
  | abandoned p => exact .abandoned p
  | unloaded => exact .unloaded
  | loaded response => exact .loaded response
  | swap a b => exact .swap a b

theorem Acts.frame (acts : Acts c k c' k') (others : List Held) :
    Acts c (k ++ others) c' (k' ++ others) := by
  induction acts with
  | refl => exact .refl
  | step act _ ih => exact .step (act.frame others) ih

namespace Client

/-! ### What is made of quiet acts -/

theorem quiet_acts (still : Still c c') (world : c'.world = c.world) : Acts c k c' k :=
  .single (.quiet still (.inl world))

omit [Transports ω] in
theorem draw_still (c : Client ω) (s : Span) : Still c (c.draw s).1 :=
  ⟨rfl, rfl, rfl, rfl, rfl, rfl, fun _ => rfl⟩

theorem draw_acts (c : Client ω) (s : Span) : Acts c k (c.draw s).1 k :=
  quiet_acts (draw_still c s) rfl

omit [Transports ω] in
theorem called_still (c : Client ω) (sources : Sources) (world : ω) {call : TransportCall}
    (open_ : ∀ channel, closings channel [call] = 0) :
    Still c { c.logged call with sources, world } :=
  ⟨rfl, rfl, rfl, rfl, rfl, rfl, fun channel => by
    show closings channel (c.log ++ [call]) = _
    rw [closings_append, open_, Nat.add_zero]⟩

theorem send_acts (c : Client ω) (r : RequestAction) : Acts c k (c.send r).1 k := by
  unfold send
  cases c.profile.resolve r.path with
  | error e => exact .refl
  | ok url => exact .single (.quiet (called_still c _ _ fun _ => rfl) (.inr (.send _ _ _)))

theorem receive_acts (c : Client ω) (path : String) (a : Answer) :
    Acts c k (c.receive path a).1 k := by
  unfold receive
  cases a.result <;> exact quiet_acts ⟨rfl, rfl, rfl, rfl, rfl, rfl, fun _ => rfl⟩ rfl

theorem emit_acts (c : Client ω) (e : EmitAction) : Acts c k (c.emit e).1 k := by
  unfold emit
  cases c.session.channel ActionKind.emit.name (c.profile.namespaceOf e.ns) with
  | error err => exact .refl
  | ok channel =>
    dsimp only
    split
    · split
      · rename_i world sent
        exact .single (.quiet (called_still c c.sources world fun _ => rfl) (.inr (.emit sent)))
      · exact quiet_acts (called_still c c.sources c.world fun _ => rfl) rfl
    · exact .refl

/-! ### Deliveries and closings -/

theorem deliverAll_acts (channel : ChannelId) (signals : List Signal) (c : Client ω) :
    Acts c k (deliverAll channel signals c) k := by
  induction signals generalizing c with
  | nil => exact .refl
  | cons s signals ih => exact .step (.deliver channel s) (ih (c.deliver channel s))

/-! ### HTTP actions -/

theorem place_acts (c : Client ω) (r : RequestAction) (response : HttpResponse) :
    Acts c k (c.place r response).1 k := by
  unfold place
  split
  · exact .refl
  · split
    · exact quiet_acts ⟨rfl, rfl, rfl, rfl, rfl, rfl, fun _ => rfl⟩ rfl
    · exact .single (.loaded response)

theorem startRequest_acts (c : Client ω) (kind : HttpKind) (r : RequestAction) :
    Acts c k (c.startRequest kind r).1 k := by
  unfold startRequest
  split
  · exact .refl
  · exact send_acts c r

theorem pollRequest_acts (c : Client ω) (r : RequestAction) (ticket : Ticket) :
    Acts c k (c.pollRequest r ticket).1 ((c.pollRequest r ticket).2.held ++ k) := by
  unfold pollRequest finishRequest?
  cases Transports.answer? ticket c.world with
  | none => exact .refl
  | some a =>
    have received := receive_acts (k := k) c r.path a
    dsimp only [Option.map_some, ended]
    generalize c.receive r.path a = result at received
    obtain ⟨c', e | response⟩ := result
    · exact received
    · exact received.trans (place_acts c' r response)

theorem dispatchRequest_acts (c : Client ω) (kind : HttpKind) (r : RequestAction) :
    Acts c k (c.dispatchRequest kind r).1 ((c.dispatchRequest kind r).2.held ++ k) := by
  have started := startRequest_acts (k := k) c kind r
  unfold dispatchRequest
  generalize c.startRequest kind r = result at started
  obtain ⟨c', e | ticket⟩ := result
  · exact started
  · exact started.trans (pollRequest_acts c' r ticket)

/-! ### Crawls -/

theorem pollPending_acts (c : Client ω) (cache : Bool) (f : Fetch) (ticket : Ticket) :
    Acts c k (c.pollPending cache f ticket).1 k := by
  unfold pollPending
  cases Transports.answer? ticket c.world with
  | none => exact .refl
  | some a =>
    have received := receive_acts (k := k) c f.url.text a
    dsimp only
    generalize c.receive f.url.text a = result at received
    obtain ⟨c', e | response⟩ := result
    · exact received
    · cases cache
      · exact received
      · exact received.trans (quiet_acts ⟨rfl, rfl, rfl, rfl, rfl, rfl, fun _ => rfl⟩ rfl)

theorem pollFetch_acts (c : Client ω) (cache : Bool) (f : Fetch) :
    Acts c k (c.pollFetch cache f).1 k := by
  unfold pollFetch
  cases f.status with
  | unsent =>
    have sent := send_acts (k := k) c f.request
    dsimp only
    generalize c.send f.request = result at sent
    obtain ⟨c', e | ticket⟩ := result
    · exact sent
    · exact sent.trans (pollPending_acts c' cache f ticket)
  | pending ticket => exact pollPending_acts c cache f ticket
  | loaded | failed e => exact .refl

theorem pollFetches_acts (c : Client ω) (cache : Bool) (before rest : List Fetch) :
    Acts c k (c.pollFetches cache before rest).1 k := by
  induction rest generalizing c before with
  | nil => exact .refl
  | cons f rest ih =>
    have fetched := pollFetch_acts (k := k) c cache f
    unfold pollFetches
    dsimp only
    split
    · exact fetched
    · exact fetched.trans (ih _ _)

theorem pollCrawlJob_acts (c : Client ω) (crawl : Crawl) :
    Acts c k (c.pollCrawlJob crawl).1 ((c.pollCrawlJob crawl).2.held ++ k) := by
  have fetched := pollFetches_acts (k := k) c crawl.cache [] crawl.fetches
  unfold pollCrawlJob pollCrawl
  generalize c.pollFetches crawl.cache [] crawl.fetches = result at fetched
  obtain ⟨c', e | fetches⟩ := result
  · exact fetched
  · dsimp only
    by_cases loaded : fetches.all Fetch.isLoaded = true
    · rw [if_pos loaded]
      exact fetched
    · rw [if_neg loaded]
      exact fetched

/-! ### Watches -/

theorem endWatch_acts (c : Client ω) (w : Watch) (result : RaceResult (List Json)) :
    Acts c k (c.endWatch w result).1 k := by
  cases result with
  | resolved args => exact quiet_acts ⟨rfl, rfl, rfl, rfl, rfl, rfl, fun _ => rfl⟩ rfl
  | elapsed => exact .refl

theorem pollWatch_acts (c : Client ω) (channel : ChannelId) (w : Watch) (deadline : Nat) :
    Acts c (.listeners (w.subscription channel) :: k) (c.pollWatch channel w deadline).1
      ((c.pollWatch channel w deadline).2.held ++ k) := by
  unfold pollWatch finishWatch?
  cases c.judge w.race deadline w.kind.accept with
  | none => exact .refl
  | some result => exact .step (.release (w.subscription channel)) (endWatch_acts _ w result)

omit [Transports ω] in
theorem channel_current {action ns : String} {channel : SocketChannel}
    (found : c.session.channel action ns = .ok channel) : channel ∈ c.session.channels := by
  unfold Session.channel Session.requirePage at found
  cases page : c.session.page with
  | none => simp [page, bind, Except.bind] at found
  | some p =>
    simp only [page, bind, Except.bind] at found
    cases entry : p.channels.find? ns with
    | none => simp [entry] at found
    | some other =>
      simp only [entry, Except.ok.injEq] at found
      subst other
      simp only [Session.channels, page]
      exact List.mem_map.mpr ⟨(ns, channel), Entries.mem_of_find? entry, rfl⟩

theorem dispatchWatch_acts (c : Client ω) (action : ActionKind) (kind : WatchKind)
    (w : WatchAction) :
    Acts c k (c.dispatchWatch action kind w).1 ((c.dispatchWatch action kind w).2.held ++ k) := by
  have drawn := draw_acts (k := k) c (c.profile.timeout w.timeout)
  unfold dispatchWatch
  generalize c.draw (c.profile.timeout w.timeout) = result at drawn ⊢
  obtain ⟨c', limit⟩ := result
  dsimp only at drawn ⊢
  cases current : c'.session.channel action.name (c.profile.namespaceOf w.ns) with
  | error e => exact drawn
  | ok channel =>
    have known : Known c' k channel.handle := .recorded (channel_current current)
    have installed := drawn.then_act (.install known (List.nodup_singleton w.event))
    exact installed.trans (pollWatch_acts (c'.install channel.handle [w.event]).1 channel.handle
      ⟨kind, c.profile.namespaceOf w.ns, w.event, c'.started, limit⟩ (c'.now + limit))

/-! ### Attempts to connect -/

theorem abandon_acts (c : Client ω) (p : PendingChannel) (e : Error) :
    Acts c (.channel p :: k) (c.abandon p e).1 k :=
  .single (.abandoned p)

theorem recordChannel_acts (c : Client ω) (p : PendingChannel) :
    Acts c (.channel p :: k) (c.recordChannel p).1 k := by
  unfold recordChannel
  cases current : c.session.page with
  | none => exact abandon_acts c p _
  | some page =>
    dsimp only [Option.any_some]
    by_cases same : page.id = p.page
    · rw [if_pos (by simpa using same)]
      exact .single (.recorded current same)
    · rw [if_neg (by simpa using same)]
      exact abandon_acts c p _

theorem finishConnect_acts (c : Client ω) (p : PendingChannel) (limit : Nat)
    (result : RaceResult (Except String Unit)) :
    Acts c (.channel p :: k) (c.finishConnect p limit result).1 k := by
  cases result with
  | resolved answer =>
    cases answer with
    | error m => exact abandon_acts c p _
    | ok _ => exact recordChannel_acts c p
  | elapsed => exact abandon_acts c p _

theorem afterConnect_acts (c : Client ω) (channel : SocketChannel) (next : Option Watch)
    (recorded : Except Error Unit) :
    Acts c (heldNext channel.handle next ++ k) (c.afterConnect channel next recorded).1
      ((c.afterConnect channel next recorded).2.held ++ k) := by
  cases recorded with
  | error e =>
    cases next with
    | none => exact .refl
    | some w => exact .single (.release (w.subscription channel.handle))
  | ok _ =>
    cases next with
    | none => exact .refl
    | some w => exact pollWatch_acts c channel.handle w _

theorem pollConnect_acts (c : Client ω) (p : PendingChannel) (race : RaceId)
    (limit deadline : Nat) (next : Option Watch) :
    Acts c (.listeners (p.subscription race) :: .channel p :: heldNext p.channel.handle next ++ k)
      (c.pollConnect p race limit deadline next).1
      ((c.pollConnect p race limit deadline next).2.held ++ k) := by
  unfold pollConnect
  cases c.judge race deadline connectVerdict with
  | none => exact .refl
  | some result =>
    have finished := finishConnect_acts (k := heldNext p.channel.handle next ++ k) (c.release race) p limit result
    exact .step (.release (p.subscription race)) (finished.trans (afterConnect_acts _ _ _ _))

theorem openChannel_acts (c : Client ω) (kind : ActionKind) (ns : String) :
    match c.openChannel kind ns with
    | (c', .error _) => Acts c k c' k
    | (c', .ok p) => Acts c k c' (.channel p :: k) := by
  unfold openChannel Session.requirePage
  cases current : c.session.page with
  | none => exact .refl
  | some page =>
    dsimp only
    cases c.profile.resolve ns with
    | error e => exact .refl
    | ok url =>
      dsimp only
      generalize same : ({ forceNew := page.channels.isEmpty, cookie := c.cookies.header? } :
        ChannelConfig) = config
      have chosen : config.forceNew = page.channels.isEmpty ∧ config.autoConnect = false := by
        rw [← same]
        exact ⟨rfl, rfl⟩
      have logged : Acts c k (c.logged (.openChannel url config)) k :=
        quiet_acts (called_still c c.sources c.world fun _ => rfl) rfl
      cases called : Transports.openChannel url config (c.logged (.openChannel url config)).world with
      | error e => exact logged
      | ok world => exact logged.then_act (.opened current rfl chosen (.openChannel called))

theorem connectEvents_nodup : [connectEvent, connectErrorEvent].Nodup := by decide

theorem startConnect_acts (c : Client ω) (p : PendingChannel) (holds : .channel p ∈ k) :
    match c.startConnect p with
    | (c', none) => Acts c k c' k
    | (c', some race) => Acts c k c' (.listeners (p.subscription race) :: k) := by
  have installed := Acts.single (Act.install (c := c) (.held holds) connectEvents_nodup)
  unfold startConnect
  dsimp only
  generalize (c.install p.channel.handle [connectEvent, connectErrorEvent]).1 = c' at installed ⊢
  have race_eq : (c.install p.channel.handle [connectEvent, connectErrorEvent]).2 = c.started := rfl
  rw [race_eq]
  have called : Act c' (.listeners (p.subscription c.started) :: k)
      { c'.logged (.connect p.channel.handle) with
        world := (Transports.connect p.channel.handle c'.world).1 }
      (.listeners (p.subscription c.started) :: k) :=
    .quiet (called_still c' c'.sources _ fun _ => rfl) (.inr (.connect p.channel.handle c'.world))
  have heard := (installed.then_act called).trans
    (deliverAll_acts p.channel.handle (Transports.connect p.channel.handle c'.world).2 _)
  split
  · rename_i answer
    split at answer
    · cases answer
      exact heard.then_act (.release (p.subscription c.started))
    · cases answer
  · rename_i answer
    split at answer
    · cases answer
    · cases answer
      exact heard

theorem establish_acts (c : Client ω) (p : PendingChannel) (limit : Nat) (next : Option Watch) :
    Acts c (.channel p :: heldNext p.channel.handle next ++ k) (c.establish p limit next).1
      ((c.establish p limit next).2.held ++ k) := by
  have started := startConnect_acts (k := .channel p :: heldNext p.channel.handle next ++ k) c p (by simp)
  unfold establish
  generalize c.startConnect p = result at started ⊢
  obtain ⟨c', race⟩ := result
  cases race with
  | none =>
    exact started.trans ((recordChannel_acts (k := heldNext p.channel.handle next ++ k) c' p).trans
      (afterConnect_acts _ _ _ _))
  | some race => exact started.trans (pollConnect_acts c' p race limit _ next)

theorem dispatchConnect_acts (c : Client ω) (a : ConnectAction) :
    Acts c k (c.dispatchConnect a).1 ((c.dispatchConnect a).2.held ++ k) := by
  have drawn := draw_acts (k := k) c (c.profile.timeout a.timeout)
  unfold dispatchConnect
  generalize c.draw (c.profile.timeout a.timeout) = result at drawn ⊢
  obtain ⟨c', limit⟩ := result
  have opened := openChannel_acts (k := k) c' .channelConnect (c.profile.namespaceOf a.ns)
  dsimp only at drawn ⊢
  generalize c'.openChannel .channelConnect (c.profile.namespaceOf a.ns) = result at opened ⊢
  obtain ⟨c'', e | p⟩ := result
  · exact drawn.trans opened
  · exact (drawn.trans opened).trans (establish_acts c'' p limit none)

theorem dispatchConnectWatch_acts (c : Client ω) (action : ActionKind) (kind : WatchKind)
    (a : ConnectWatchAction) :
    Acts c k (c.dispatchConnectWatch action kind a).1
      ((c.dispatchConnectWatch action kind a).2.held ++ k) := by
  have drawn := draw_acts (k := k) c (c.profile.timeout (a.connectTimeout <|> a.timeout))
  unfold dispatchConnectWatch
  generalize c.draw (c.profile.timeout (a.connectTimeout <|> a.timeout)) = result at drawn ⊢
  obtain ⟨c₁, connectLimit⟩ := result
  have drawn := drawn.trans (draw_acts c₁ (c₁.profile.timeout a.timeout))
  dsimp only at drawn ⊢
  generalize c₁.draw (c₁.profile.timeout a.timeout) = result at drawn ⊢
  obtain ⟨c₂, limit⟩ := result
  have opened := openChannel_acts (k := k) c₂ action (c.profile.namespaceOf a.ns)
  dsimp only at drawn ⊢
  generalize c₂.openChannel action (c.profile.namespaceOf a.ns) = result at opened ⊢
  obtain ⟨c₃, e | p⟩ := result
  · exact drawn.trans opened
  · have holds : Held.channel p ∈ .channel p :: k := List.mem_cons_self
    have installed := Acts.step
      (Act.install (c := c₃) (.held holds) (List.nodup_singleton a.event))
      (.single (.swap _ (.channel p)))
    have established := establish_acts (k := k) (c₃.install p.channel.handle [a.event]).1 p
      connectLimit (some ⟨kind, c.profile.namespaceOf a.ns, a.event,
        (c₃.install p.channel.handle [a.event]).2, limit⟩)
    exact ((drawn.trans opened).trans installed).trans established

/-! ### Actions -/

theorem dispatch_acts (c : Client ω) (action : Action) :
    Acts c k (c.dispatch action).1 ((c.dispatch action).2.held ++ k) := by
  cases action with
  | http kind r => exact dispatchRequest_acts c kind _
  | pageUnload => exact .single .unloaded
  | loadStaticAssets a => exact pollCrawlJob_acts c _
  | connect a => exact dispatchConnect_acts c a
  | emit e => exact emit_acts c e
  | awaitEmit w => exact dispatchWatch_acts c _ _ w
  | confirmNoEmit w => exact dispatchWatch_acts c _ _ w
  | confirmNoMatchingEmit w counts => exact dispatchWatch_acts c _ _ w
  | connectAndAwaitEmit a => exact dispatchConnectWatch_acts c _ _ a
  | connectAndConfirmNoEmit a => exact dispatchConnectWatch_acts c _ _ a

theorem poll_acts (c : Client ω) (job : Job) :
    Acts c (job.held ++ k) (c.poll job).1 ((c.poll job).2.held ++ k) := by
  cases job with
  | request r ticket => exact pollRequest_acts c r ticket
  | crawl crawl => exact pollCrawlJob_acts c crawl
  | connect p race limit deadline next => exact pollConnect_acts c p race limit deadline next
  | watch channel w deadline => exact pollWatch_acts c channel w deadline

/-! ### Scripts -/

theorem clear_acts (c : Client ω) : Acts c k c.clear k :=
  .step .unloaded (quiet_acts ⟨rfl, rfl, rfl, rfl, rfl, rfl, fun _ => rfl⟩ rfl)

theorem endScript_acts (c : Client ω) (result : ScriptResult) :
    Acts c k (c.endScript result).1 k :=
  (clear_acts c).trans (quiet_acts ⟨rfl, rfl, rfl, rfl, rfl, rfl, fun _ => rfl⟩ rfl)

theorem drawDelay_acts (c : Client ω) (s : Script) (step : ScriptStep) :
    Acts c k (c.drawDelay s step).1 k := by
  unfold drawDelay
  cases s.delayFor step with
  | none => exact .refl
  | some span => exact draw_acts c span

theorem runSteps_acts (c : Client ω) (s : Script) (outcomes : List Outcome)
    (steps : List ScriptStep) :
    Acts c k (c.runSteps s outcomes steps).1 ((c.runSteps s outcomes steps).2.held ++ k) := by
  induction steps generalizing c outcomes with
  | nil => exact endScript_acts c _
  | cons step rest ih =>
    have drawn := drawDelay_acts (k := k) c s step
    unfold runSteps
    generalize c.drawDelay s step = result at drawn ⊢
    obtain ⟨c', delay⟩ := result
    dsimp only at drawn ⊢
    split
    · exact drawn
    · have started := drawn.trans (dispatch_acts c' step.action)
      generalize c'.dispatch step.action = result at started ⊢
      obtain ⟨c'', (e | o) | job⟩ := result
      · exact started.trans (endScript_acts c'' _)
      · exact started.trans (ih c'' _)
      · exact started

theorem afterStep_acts (r : ScriptRun) (c : Client ω) (progress : Progress) :
    Acts c (progress.held ++ k) (afterStep r (c, progress)).1
      ((afterStep r (c, progress)).2.held ++ k) := by
  obtain (e | o) | job := progress
  · exact endScript_acts c _
  · exact runSteps_acts c _ _ _
  · exact .refl

theorem pollScript_acts (c : Client ω) (r : ScriptRun) :
    Acts c (r.held ++ k) (c.pollScript r).1 ((c.pollScript r).2.held ++ k) := by
  unfold pollScript ScriptRun.held
  cases phase : r.phase with
  | delay action due =>
    dsimp only
    split
    · exact (dispatch_acts c action).trans (afterStep_acts r _ _)
    · have held : (ScriptProgress.waiting r).held = [] := by
        simp only [ScriptProgress.held, ScriptRun.held, phase]
      rw [held]
      exact .refl
  | act job => exact (poll_acts c job).trans (afterStep_acts r _ _)

theorem runScript_acts (c : Client ω) (s : Script) :
    Acts c k (c.runScript s).1 ((c.runScript s).2.held ++ k) := by
  unfold runScript
  split
  · exact .refl
  · split
    · exact .refl
    · have running : Acts c k { c with running := true } k :=
        quiet_acts ⟨rfl, rfl, rfl, rfl, rfl, rfl, fun _ => rfl⟩ rfl
      exact running.trans (runSteps_acts { c with running := true } s [] s.steps)

end Client

end LiveSession
