import LiveSession.Proofs.Client.Underway

/-!
# Coherence of a session

In a coherent session an ajax result belongs to a current page, and so does the current event, whose
namespace has a channel there. One action at a time keeps it so: whatever the action waits for,
`Job.Fits` says what it relies on in the session, and nothing else changes the session meanwhile.
-/

namespace LiveSession

/-- What a session remembers fits together. -/
structure Session.Coherent (s : Session) : Prop where
  ajax : s.ajax.isSome = true → s.page.isSome = true
  event : ∀ e, s.event = some e → ∃ page, s.page = some page ∧ e.ns ∈ page.channels.names

/-- Bodies that are cached stay. -/
def Session.Retains (s s' : Session) : Prop :=
  ∀ key body, s.cache.find? key = some body → s'.cache.find? key = some body

namespace Session

variable {s s' s'' : Session}

theorem Retains.refl (s : Session) : Retains s s := fun _ _ found => found

theorem Retains.trans (h₁ : Retains s s') (h₂ : Retains s' s'') : Retains s s'' :=
  fun key body found => h₂ key body (h₁ key body found)

theorem retains_of_extends (kept : Client.Extends s.cache s'.cache) : Retains s s' := by
  obtain ⟨added, cache, -⟩ := kept
  intro key body found
  rw [cache]
  exact Entries.find?_append found

namespace Coherent

theorem unload (s : Session) : Coherent s.unload := ⟨nofun, nofun⟩

theorem replacePage (s : Session) (page : Page) : Coherent (s.replacePage page) :=
  ⟨fun _ => rfl, nofun⟩

theorem of_cache (h : Coherent s) (cache : Entries String) : Coherent { s with cache } :=
  ⟨h.ajax, h.event⟩

theorem record (h : Coherent s) (channel : SocketChannel) : Coherent (s.record channel) := by
  refine ⟨fun ajax => ?_, fun e current => ?_⟩
  · exact (Option.isSome_map ..).trans (h.ajax ajax)
  · obtain ⟨page, isPage, member⟩ := h.event e current
    refine ⟨_, congrArg (Option.map _) isPage, ?_⟩
    show e.ns ∈ (page.channels.set channel.ns channel).names
    rw [Entries.names_set]
    split
    · exact member
    · exact List.mem_append_left _ member

end Coherent

end Session

namespace Client

variable {ω : Type} {c c₁ c₂ : Client ω}

/-- The session is coherent after some work, and bodies are not lost. -/
structure Sound (c c₁ : Client ω) : Prop where
  coherent : c₁.session.Coherent
  retains : c.session.Retains c₁.session

theorem Sound.trans (h₁ : Sound c c₁) (h₂ : Sound c₁ c₂) : Sound c c₂ :=
  ⟨h₂.coherent, h₁.retains.trans h₂.retains⟩

theorem sound_of_session (coherent : c.session.Coherent) (same : c₁.session = c.session) :
    Sound c c₁ := by
  refine ⟨same ▸ coherent, ?_⟩
  rw [same]
  exact .refl _

/-- The fetches of a crawl rely on nothing but what is not cached. -/
theorem Crawling.rebase {fetches : List Fetch} (crawling : Crawling c c₁ fetches)
    (cache : ∀ name ∈ c₂.session.cache.names, name ∈ c₁.session.cache.names) :
    Crawling c₂ c₂ fetches :=
  ⟨rfl, rfl, .refl _, crawling.distinct,
    fun f member unloaded cached => crawling.missing f member unloaded (cache _ cached),
    crawling.failures⟩

end Client

variable {ω : Type}

/-- What an action in flight relies on. -/
def Job.Fits (c : Client ω) : Job → Prop
  | .request r _ => r.ajax = true → c.session.page.isSome = true
  | .crawl work => Client.Crawling c c work.fetches
  | .connect p _ _ _ next => ∀ w ∈ next, w.ns = p.channel.ns
  | .watch _ w _ => ∃ page, c.session.page = some page ∧ w.ns ∈ page.channels.names

def Progress.Fits (c : Client ω) : Progress → Prop
  | .done _ => True
  | .waiting job => job.Fits c

/-- An action has been started or carried on soundly, and can go on in the same way. -/
structure Client.Carried (c : Client ω) (r : Client ω × Progress) : Prop where
  sound : Client.Sound c r.1
  fits : r.2.Fits r.1

theorem Client.Sound.carried {c c₁ : Client ω} {r : Client ω × Progress} (sound : Client.Sound c c₁)
    (carried : Client.Carried c₁ r) : Client.Carried c r :=
  ⟨sound.trans carried.sound, carried.fits⟩

/-- Only the cache may lose entries. -/
theorem Job.Fits.of_page {c c₁ : Client ω} {job : Job} (fits : job.Fits c)
    (page : c₁.session.page = c.session.page)
    (cache : ∀ name ∈ c₁.session.cache.names, name ∈ c.session.cache.names) : job.Fits c₁ := by
  cases job with
  | request r ticket =>
    intro ajax
    rw [page]
    exact fits ajax
  | crawl work => exact Client.Crawling.rebase fits cache
  | connect => exact fits
  | watch channel w deadline =>
    obtain ⟨p, current, member⟩ := fits
    exact ⟨p, page.trans current, member⟩

namespace Client

variable [Transports ω] {c c₁ : Client ω}

/-! ### HTTP actions -/

theorem sound_place (coherent : c.session.Coherent) {r : RequestAction}
    (fits : r.ajax = true → c.session.page.isSome = true) (response : HttpResponse) :
    Sound c (c.place r response).1 := by
  unfold place
  split
  · exact sound_of_session coherent rfl
  · split
    · rename_i ajax
      exact ⟨⟨fun _ => fits ajax, coherent.event⟩, .refl _⟩
    · have session := (c.closes_loadPage response).session
      refine ⟨?_, ?_⟩
      · show (c.loadPage response).session.Coherent
        rw [session]
        exact .replacePage _ _
      · show c.session.Retains (c.loadPage response).session
        rw [session]
        exact .refl _

theorem carried_pollRequest (coherent : c.session.Coherent) {r : RequestAction}
    (fits : r.ajax = true → c.session.page.isSome = true) (ticket : Ticket) :
    Carried c (c.pollRequest r ticket) := by
  unfold pollRequest finishRequest?
  cases Transports.answer? ticket c.world with
  | none => exact ⟨sound_of_session coherent rfl, fits⟩
  | some a =>
    have same := (c.unmoved_receive r.path a).1.session
    dsimp only [Option.map_some, ended]
    generalize c.receive r.path a = result at same ⊢
    obtain ⟨c₁, e | response⟩ := result
    · exact ⟨sound_of_session coherent same, trivial⟩
    · have received := sound_of_session coherent same
      exact ⟨received.trans (sound_place received.coherent (same ▸ fits) response), trivial⟩

theorem carried_dispatchRequest (coherent : c.session.Coherent) (kind : HttpKind) (r : RequestAction) :
    Carried c (c.dispatchRequest kind r) := by
  unfold dispatchRequest startRequest
  by_cases missing : (needsPage r && c.session.page.isNone) = true
  · rw [if_pos missing]
    exact ⟨sound_of_session coherent rfl, trivial⟩
  · rw [if_neg missing]
    have fits : r.ajax = true → c.session.page.isSome = true := by
      intro ajax
      simpa [needsPage, ajax, Option.isSome_iff_ne_none] using missing
    have same := (c.unmoved_send r).1.session
    generalize c.send r = result at same ⊢
    obtain ⟨c₁, e | ticket⟩ := result
    · exact ⟨sound_of_session coherent same, trivial⟩
    · have sent := sound_of_session coherent same
      exact sent.carried (carried_pollRequest sent.coherent (same ▸ fits) ticket)

/-! ### Crawls -/

theorem carried_pollCrawlJob (coherent : c.session.Coherent) {crawl : Crawl}
    (fits : Crawling c c crawl.fetches) :
    Carried c (c.pollCrawlJob crawl) := by
  have all : Crawling c c ([] ++ crawl.fetches) := fits
  obtain ⟨fetches, after, outcome⟩ := crawling_pollFetches crawl.cache all
  unfold pollCrawlJob pollCrawl
  generalize c.pollFetches crawl.cache [] crawl.fetches = result at after outcome ⊢
  have sound : Sound c result.1 := by
    refine ⟨?_, Session.retains_of_extends after.kept⟩
    rw [after.session]
    exact coherent.of_cache _
  obtain ⟨c₁, e | fetches'⟩ := result
  · exact ⟨sound, trivial⟩
  · dsimp only at outcome ⊢
    subst outcome
    by_cases loaded : fetches'.all Fetch.isLoaded = true
    · rw [if_pos loaded]
      exact ⟨sound, trivial⟩
    · rw [if_neg loaded]
      exact ⟨sound, after.rebase fun _ member => member⟩

/-! ### Watches -/

theorem carried_pollWatch (coherent : c.session.Coherent) (channel : ChannelId) {w : Watch}
    (fits : ∃ page, c.session.page = some page ∧ w.ns ∈ page.channels.names) (deadline : Nat) :
    Carried c (c.pollWatch channel w deadline) := by
  unfold pollWatch finishWatch?
  cases c.judge w.race deadline w.kind.accept with
  | none => exact ⟨sound_of_session coherent rfl, fits⟩
  | some result =>
    have same := (c.background_release w.race).session
    refine ⟨?_, trivial⟩
    dsimp only [Option.map_some, ended]
    have released := sound_of_session coherent same
    cases result with
    | elapsed => exact released
    | resolved args =>
      refine released.trans ⟨⟨released.coherent.ajax, fun e captured => ?_⟩, .refl _⟩
      cases captured
      rw [← same] at fits
      exact fits

omit [Transports ω] in
theorem names_of_channel {action ns : String} {channel : SocketChannel}
    (found : c.session.channel action ns = .ok channel) :
    ∃ page, c.session.page = some page ∧ ns ∈ page.channels.names := by
  unfold Session.channel Session.requirePage at found
  cases current : c.session.page with
  | none => simp [current, bind, Except.bind] at found
  | some page =>
    simp only [current, bind, Except.bind] at found
    split at found
    · rename_i entry
      exact ⟨page, rfl, Entries.mem_names_of_find? entry⟩
    · cases found

theorem carried_dispatchWatch (coherent : c.session.Coherent) (action : ActionKind) (kind : WatchKind)
    (w : WatchAction) :
    Carried c (c.dispatchWatch action kind w) := by
  have drawn := (c.background_draw (c.profile.timeout w.timeout)).session
  unfold dispatchWatch
  generalize c.draw (c.profile.timeout w.timeout) = result at drawn ⊢
  obtain ⟨c₁, limit⟩ := result
  dsimp only at drawn ⊢
  cases found : c₁.session.channel action.name (c.profile.namespaceOf w.ns) with
  | error e => exact ⟨sound_of_session coherent drawn, trivial⟩
  | ok channel =>
    have same := (c₁.background_install channel.handle [w.event]).session.trans drawn
    have installed := sound_of_session coherent same
    have fits := names_of_channel found
    rw [← (c₁.background_install channel.handle [w.event]).session] at fits
    exact installed.carried (carried_pollWatch installed.coherent channel.handle fits _)

theorem session_emit (c : Client ω) (e : EmitAction) : (c.emit e).1.session = c.session := by
  unfold emit
  split
  · rfl
  · split
    · split <;> rfl
    · rfl

/-! ### Attempts to connect -/

/-- How an attempt on `c` can end: the channel is recorded on a page that is still current, or it is
closed. -/
inductive AttemptEnds (c : Client ω) (p : PendingChannel) : Client ω × Except Error Unit → Prop
  | recorded (current : c.pageId? = some p.page) :
      AttemptEnds c p
        ({ c with
            session := c.session.record p.channel
            history := c.history ++ [.recorded p.page p.channel] }, .ok ())
  | closed (e : Error) : AttemptEnds c p (c.disconnect p.channel.handle, .error e)

theorem attemptEnds_recordChannel (c : Client ω) (p : PendingChannel) :
    AttemptEnds c p (c.recordChannel p) := by
  rcases c.recordChannel_cases p with ⟨current, same⟩ | ⟨_, e, _, same⟩ <;> rw [same]
  · exact .recorded current
  · exact .closed e

theorem attemptEnds_finishConnect (c : Client ω) (p : PendingChannel) (limit : Nat)
    (result : RaceResult (Except String Unit)) : AttemptEnds c p (c.finishConnect p limit result) := by
  rcases c.finishConnect_cases p limit result with ⟨⟨_, current⟩, same⟩ | ⟨_, e, _, same⟩ <;> rw [same]
  · exact .recorded current
  · exact .closed e

/-- A watch that follows is on the namespace of the channel that has just been recorded. -/
theorem carried_afterConnect (coherent : c.session.Coherent) {p : PendingChannel}
    {next : Option Watch} (fits : ∀ w ∈ next, w.ns = p.channel.ns)
    {r : Client ω × Except Error Unit} (ends : AttemptEnds c p r) :
    Carried c (r.1.afterConnect p.channel next r.2) := by
  cases ends with
  | recorded current =>
    obtain ⟨page, isPage, -⟩ := Option.map_eq_some_iff.mp current
    have sound : Sound c
        { c with
          session := c.session.record p.channel
          history := c.history ++ [.recorded p.page p.channel] } :=
      ⟨coherent.record p.channel, .refl _⟩
    cases next with
    | none => exact ⟨sound, trivial⟩
    | some w =>
      have named : ∃ page, (c.session.record p.channel).page = some page ∧
          w.ns ∈ page.channels.names := by
        refine ⟨_, congrArg (Option.map _) isPage, ?_⟩
        rw [fits w rfl]
        exact Entries.mem_names_of_find? (Entries.find?_set_self _ _ _)
      exact sound.carried (carried_pollWatch sound.coherent p.channel.handle named _)
  | closed e =>
    have closed := (c.closes_disconnect p.channel.handle).session
    cases next with
    | none => exact ⟨sound_of_session coherent closed, trivial⟩
    | some w =>
      have released := ((c.disconnect p.channel.handle).background_release w.race).session
      exact ⟨sound_of_session coherent (released.trans closed), trivial⟩

theorem carried_pollConnect (coherent : c.session.Coherent) {p : PendingChannel}
    {next : Option Watch} (fits : ∀ w ∈ next, w.ns = p.channel.ns) (race : RaceId)
    (limit deadline : Nat) :
    Carried c (c.pollConnect p race limit deadline next) := by
  unfold pollConnect
  cases c.judge race deadline connectVerdict with
  | none => exact ⟨sound_of_session coherent rfl, fits⟩
  | some result =>
    have released := sound_of_session coherent (c.background_release race).session
    exact released.carried (carried_afterConnect released.coherent fits
      (attemptEnds_finishConnect (c.release race) p limit result))

theorem carried_establish (coherent : c.session.Coherent) {p : PendingChannel} {next : Option Watch}
    (fits : ∀ w ∈ next, w.ns = p.channel.ns) (limit : Nat) :
    Carried c (c.establish p limit next) := by
  have connecting := sound_of_session coherent (c.unmoved_connecting p).session
  unfold establish
  rw [startConnect_eq]
  by_cases connected : Transports.stateOf p.channel.handle (c.connecting p).world = .connected
  · rw [if_pos connected]
    have released := connecting.trans
      (sound_of_session connecting.coherent ((c.connecting p).background_release c.started).session)
    exact released.carried (carried_afterConnect released.coherent fits
      (attemptEnds_recordChannel ((c.connecting p).release c.started) p))
  · rw [if_neg connected]
    exact connecting.carried (carried_pollConnect connecting.coherent fits c.started limit _)

theorem session_openChannel (c : Client ω) (kind : ActionKind) (ns : String) :
    (c.openChannel kind ns).1.session = c.session ∧
      ∀ p, (c.openChannel kind ns).2 = .ok p → p.channel.ns = ns := by
  unfold openChannel
  split
  · exact ⟨rfl, nofun⟩
  · dsimp only
    split
    · exact ⟨rfl, nofun⟩
    · split
      · exact ⟨rfl, nofun⟩
      · exact ⟨rfl, fun p opened => by cases opened; rfl⟩

theorem carried_dispatchConnect (coherent : c.session.Coherent) (a : ConnectAction) :
    Carried c (c.dispatchConnect a) := by
  have drawn := (c.background_draw (c.profile.timeout a.timeout)).session
  unfold dispatchConnect
  generalize c.draw (c.profile.timeout a.timeout) = result at drawn ⊢
  obtain ⟨c₁, limit⟩ := result
  dsimp only at drawn ⊢
  have ⟨same, _⟩ := c₁.session_openChannel .channelConnect (c.profile.namespaceOf a.ns)
  generalize c₁.openChannel .channelConnect (c.profile.namespaceOf a.ns) = result at same ⊢
  have opened := sound_of_session coherent (same.trans drawn)
  obtain ⟨c₂, e | p⟩ := result
  · exact ⟨opened, trivial⟩
  · have follows : ∀ w ∈ (none : Option Watch), w.ns = p.channel.ns := nofun
    exact opened.carried (carried_establish opened.coherent follows limit)

theorem carried_dispatchConnectWatch (coherent : c.session.Coherent) (action : ActionKind)
    (kind : WatchKind) (a : ConnectWatchAction) :
    Carried c (c.dispatchConnectWatch action kind a) := by
  have drawn := (c.background_draw (c.profile.timeout (a.connectTimeout <|> a.timeout))).session
  unfold dispatchConnectWatch
  generalize c.draw (c.profile.timeout (a.connectTimeout <|> a.timeout)) = result at drawn ⊢
  obtain ⟨c₁, connectLimit⟩ := result
  have drawn := (c₁.background_draw (c₁.profile.timeout a.timeout)).session.trans drawn
  dsimp only at drawn ⊢
  generalize c₁.draw (c₁.profile.timeout a.timeout) = result at drawn ⊢
  obtain ⟨c₂, limit⟩ := result
  dsimp only at drawn ⊢
  have ⟨same, named⟩ := c₂.session_openChannel action (c.profile.namespaceOf a.ns)
  generalize c₂.openChannel action (c.profile.namespaceOf a.ns) = result at same named ⊢
  have opened := sound_of_session coherent (same.trans drawn)
  obtain ⟨c₃, e | p⟩ := result
  · exact ⟨opened, trivial⟩
  · have installed := opened.trans <| sound_of_session opened.coherent
      (c₃.background_install p.channel.handle [a.event]).session
    have follows : ∀ w ∈ (some ⟨kind, c.profile.namespaceOf a.ns, a.event, c₃.started, limit⟩ :
        Option Watch), w.ns = p.channel.ns := by
      rintro w ⟨⟩
      exact (named p rfl).symm
    exact installed.carried (carried_establish installed.coherent follows connectLimit)

/-! ### Actions -/

theorem sound_unloadPage (c : Client ω) : Sound c c.unloadPage := by
  have session := c.closes_unloadPage.session
  refine ⟨?_, ?_⟩
  · rw [session]
    exact .unload _
  · rw [session]
    exact .refl _

theorem sound_clear (c : Client ω) : Sound c c.clear :=
  ⟨c.sound_unloadPage.coherent, c.sound_unloadPage.retains⟩

theorem carried_dispatch (coherent : c.session.Coherent) (action : Action) :
    Carried c (c.dispatch action) := by
  cases action with
  | http kind r => exact carried_dispatchRequest coherent kind _
  | pageUnload => exact ⟨c.sound_unloadPage, trivial⟩
  | loadStaticAssets a => exact carried_pollCrawlJob coherent (c.crawling_crawlOf a)
  | connect a => exact carried_dispatchConnect coherent a
  | emit e => exact ⟨sound_of_session coherent (c.session_emit e), trivial⟩
  | awaitEmit w => exact carried_dispatchWatch coherent _ _ w
  | confirmNoEmit w => exact carried_dispatchWatch coherent _ _ w
  | confirmNoMatchingEmit w counts => exact carried_dispatchWatch coherent _ _ w
  | connectAndAwaitEmit a => exact carried_dispatchConnectWatch coherent _ _ a
  | connectAndConfirmNoEmit a => exact carried_dispatchConnectWatch coherent _ _ a

theorem carried_poll (coherent : c.session.Coherent) {job : Job} (fits : job.Fits c) :
    Carried c (c.poll job) := by
  cases job with
  | request r ticket => exact carried_pollRequest coherent fits ticket
  | crawl crawl => exact carried_pollCrawlJob coherent fits
  | connect p race limit deadline next => exact carried_pollConnect coherent fits race limit deadline
  | watch channel w deadline => exact carried_pollWatch coherent channel fits deadline

end Client

end LiveSession
