import LiveSession.Proofs.Assets.Candidates
import LiveSession.Proofs.Client.Alone
import LiveSession.Proofs.Client.Compounds

/-!
# An action and the session

What an action alone on its tab has done to the session, at any time: nothing, or a channel is
recorded that it watches next, or bodies are cached. `Underway` says so for an action in flight and
for one that has failed; each part of an action keeps it.
-/

namespace LiveSession

namespace Error

/-- The action was refused before anything was done. -/
def isRefusal : Error → Bool
  | noPageLoaded _ | noSuchChannel _ | unknownActionKind _ => true
  | _ => false

def captured? : Error → Option SocketEvent
  | unexpectedEmit e => some e
  | _ => none

/-- The error is no refusal and reports no event. -/
structure Plain (e : Error) : Prop where
  accepted : e.isRefusal = false
  uncaptured : e.captured? = none

end Error

/-- The call sends something that the server gets. -/
def TransportCall.delivers : TransportCall → Bool
  | send .. => true
  | emit _ _ accepted => accepted
  | openChannel .. | connect _ | disconnect _ => false

def Page.bare (p : Page) : Page := { p with channels := [] }

/-- Only transports, and no watch, could report an event that was not to arrive from these calls. -/
structure Transports.Unwatching (ω : Type) [Transports ω] : Prop where
  openChannel : ∀ (url : Url) (config : ChannelConfig) (w : ω) (e : Error),
    Transports.openChannel url config w = .error e → e.captured? = none
  emit : ∀ (channel : ChannelId) (args : List Json) (w : ω) (e : Error),
    Transports.emit channel args w = .error e → e.captured? = none

namespace Client

variable {ω : Type}

/-- Some entries are added to a cache, and that is all. -/
def Extends (cache cache' : Entries String) : Prop :=
  ∃ added : Entries String, cache' = cache ++ added ∧ ∀ name ∈ added.names, name ∉ cache.names

/-- What an action that failed with `e` has left. -/
structure FailsWith (action? : Option Action) (e : Error) (c c' : Client ω) : Prop where
  page : c'.session.page.map Page.bare = c.session.page.map Page.bare
  ajax : c'.session.ajax = c.session.ajax
  event : c'.session.event = e.captured?.or c.session.event
  channels : c'.session.page.map Page.channels = c.session.page.map Page.channels ∧
      c'.recordings = c.recordings ∨
    ∃ action kind a page channel, action? = some action ∧ action.compound? = some (kind, a) ∧
      c.pageId? = some page ∧ channel.ns = c.profile.namespaceOf a.ns ∧
      c'.recordings = c.recordings ++ [(page, channel)] ∧
      c'.session.page.map Page.channels =
        c.session.page.map fun p => p.channels.set channel.ns channel
  cache : c'.session.cache = c.session.cache ∨
    (∃ a, action? = some (.loadStaticAssets a)) ∧ Extends c.session.cache c'.session.cache
  refused : e.isRefusal = true → (∃ calls, c'.log = c.log ++ calls ∧
      ∀ call ∈ calls, call.delivers = false) ∧
    c'.openings = c.openings ∧ c'.cookies = c.cookies

/-- Nothing has happened to what the session remembers. -/
structure Unmoved (c c' : Client ω) : Prop where
  session : c'.session = c.session
  recordings : c'.recordings = c.recordings

/-- What an action has done so far to the session and its recordings. -/
inductive Leaves (action? : Option Action) (c : Client ω) : Session → List PagedChannel → Prop
  | nothing : Leaves action? c c.session c.recordings
  | recorded {action : Action} {kind : WatchKind} {a : ConnectWatchAction} {page : PageId}
      {channel : SocketChannel} (is : action? = some action)
      (compound : action.compound? = some (kind, a)) (current : c.pageId? = some page)
      (ns : channel.ns = c.profile.namespaceOf a.ns) :
      Leaves action? c (c.session.record channel) (c.recordings ++ [(page, channel)])
  | cached {a : CrawlAction} {cache : Entries String} (is : action? = some (.loadStaticAssets a))
      (kept : Extends c.session.cache cache) :
      Leaves action? c { c.session with cache } c.recordings

/-- The fetches of a crawl: what was fetched is cached, and nothing else. -/
structure Crawling (c c' : Client ω) (fetches : List Fetch) : Prop where
  session : c'.session = { c.session with cache := c'.session.cache }
  recordings : c'.recordings = c.recordings
  kept : Extends c.session.cache c'.session.cache
  distinct : (fetches.map Fetch.key).Nodup
  missing : ∀ f ∈ fetches, f.isLoaded = false → f.key ∉ c'.session.cache.names
  failures : ∀ f ∈ fetches, ∀ e, f.failure? = some e → e.Plain

/-- The watch that is to follow on a channel, if any: that of a compound action on its namespace. -/
def MayFollow (action? : Option Action) (c : Client ω) (channel : SocketChannel)
    (next : Option Watch) : Prop :=
  next.isSome → ∃ action kind a, action? = some action ∧ action.compound? = some (kind, a) ∧
    channel.ns = c.profile.namespaceOf a.ns

/-- What holds of an action that was started on `c`, in flight or ended. -/
inductive Underway (action? : Option Action) (c : Client ω) : Client ω → Progress → Prop
  | requests {c' : Client ω} {r : RequestAction} {ticket : Ticket} (unmoved : Unmoved c c') :
      Underway action? c c' (.waiting (.request r ticket))
  | crawls {c' : Client ω} {crawl : Crawl} {a : CrawlAction}
      (is : action? = some (.loadStaticAssets a)) (crawling : Crawling c c' crawl.fetches) :
      Underway action? c c' (.waiting (.crawl crawl))
  | connects {c' : Client ω} {p : PendingChannel} {race : RaceId} {limit deadline : Nat}
      {next : Option Watch} (unmoved : Unmoved c c') (current : c.pageId? = some p.page)
      (follows : MayFollow action? c p.channel next) :
      Underway action? c c' (.waiting (.connect p race limit deadline next))
  | watches {c' : Client ω} {channel : ChannelId} {w : Watch} {deadline : Nat}
      (leaves : Leaves action? c c'.session c'.recordings) :
      Underway action? c c' (.waiting (.watch channel w deadline))
  | succeeds {c' : Client ω} {o : Outcome} : Underway action? c c' (.done (.ok o))
  | fails {c' : Client ω} {e : Error} {session : Session}
      (leaves : Leaves action? c session c'.recordings)
      (after : c'.session = { session with event := e.captured?.or session.event })
      (refused : e.isRefusal = true → (∃ calls, c'.log = c.log ++ calls ∧
          ∀ call ∈ calls, call.delivers = false) ∧
        c'.openings = c.openings ∧ c'.cookies = c.cookies) :
      Underway action? c c' (.done (.error e))

variable {c c₀ c₁ c' : Client ω} {action? : Option Action}

theorem Extends.refl (cache : Entries String) : Extends cache cache :=
  ⟨[], (List.append_nil _).symm, by simp [Entries.names]⟩

theorem Extends.set {cache cache' : Entries String} {key body : String} (h : Extends cache cache')
    (absent : key ∉ cache'.names) : Extends cache (cache'.set key body) := by
  obtain ⟨added, rfl, fresh⟩ := h
  refine ⟨added ++ [(key, body)], ?_, ?_⟩
  · rw [Entries.set_of_not_mem absent, List.append_assoc]
  · simp only [Entries.names, List.map_append, List.mem_append, not_or] at absent fresh ⊢
    rintro name (old | new)
    · exact fresh name old
    · simp only [List.map_cons, List.map_nil, List.mem_singleton] at new
      exact new ▸ absent.1

theorem Unmoved.trans (h₁ : Unmoved c c₁) (h₂ : Unmoved c₁ c') : Unmoved c c' :=
  ⟨h₂.session.trans h₁.session, h₂.recordings.trans h₁.recordings⟩

theorem Background.unmoved (h : Background c c') : Unmoved c c' := ⟨h.session, h.recordings⟩

theorem Closes.unmoved {closed : List ChannelId} (h : Closes closed c c') : Unmoved c c' :=
  ⟨h.session, h.recordings_eq⟩

theorem Unmoved.pageId (h : Unmoved c c') : c'.pageId? = c.pageId? := by
  unfold pageId?
  rw [h.session]

theorem Unmoved.leaves (h : Unmoved c c') : Leaves action? c c'.session c'.recordings := by
  rw [h.session, h.recordings]
  exact .nothing

theorem Underway.refused (c : Client ω) {e : Error} (quiet : e.captured? = none) :
    Underway action? c c (.done (.error e)) := by
  refine .fails .nothing ?_ fun _ => ⟨⟨[], (List.append_nil _).symm, by simp⟩, rfl, rfl⟩
  rw [quiet]
  rfl

theorem Underway.plain {e : Error} (plain : e.Plain)
    (leaves : Leaves action? c c'.session c'.recordings) : Underway action? c c' (.done (.error e)) := by
  refine .fails leaves ?_ fun refusal => ?_
  · rw [plain.uncaptured]
    rfl
  · rw [plain.accepted] at refusal
    cases refusal

theorem Underway.background {progress : Progress} (background : Background c' c₁)
    (underway : Underway action? c c' progress) : Underway action? c c₁ progress := by
  cases underway with
  | requests unmoved => exact .requests (unmoved.trans background.unmoved)
  | crawls is crawling =>
    refine .crawls is ⟨?_, ?_, ?_, crawling.distinct, ?_, crawling.failures⟩
    · rw [background.session]
      exact crawling.session
    · exact background.recordings.trans crawling.recordings
    · rw [background.session]
      exact crawling.kept
    · rw [background.session]
      exact crawling.missing
  | connects unmoved current follows =>
    exact .connects (unmoved.trans background.unmoved) current follows
  | watches leaves =>
    refine .watches ?_
    rw [background.session, background.recordings]
    exact leaves
  | succeeds => exact .succeeds
  | fails leaves after refused =>
    refine .fails (background.recordings.symm ▸ leaves) (background.session.trans after) fun refusal => ?_
    obtain ⟨⟨calls, log, idle⟩, openings, cookies⟩ := refused refusal
    exact ⟨⟨calls, background.log.trans log, idle⟩, background.openings.trans openings,
      background.cookies.trans cookies⟩

/-- A failure leaves what the action has done so far, and the event that it reports. -/
theorem Underway.failsWith {e : Error} (underway : Underway action? c c' (.done (.error e))) :
    FailsWith action? e c c' := by
  cases underway with
  | fails leaves after refused =>
    generalize same : c'.recordings = recordings at leaves
    cases leaves with
    | nothing =>
      exact ⟨by rw [after], by rw [after], by rw [after], .inl ⟨by rw [after], same⟩,
        .inl (by rw [after]), refused⟩
    | recorded is compound current ns =>
      refine ⟨?_, by rw [after]; rfl, by rw [after]; rfl, .inr ⟨_, _, _, _, _, is, compound, current, ns,
        same, ?_⟩, .inl (by rw [after]; rfl), refused⟩
      · rw [after]
        show (c.session.page.map _).map _ = _
        rw [Option.map_map]
        rfl
      · rw [after]
        show (c.session.page.map _).map _ = _
        rw [Option.map_map]
        rfl
    | cached is kept =>
      exact ⟨by rw [after], by rw [after], by rw [after], .inl ⟨by rw [after], same⟩,
        .inr ⟨⟨_, is⟩, by rw [after]; exact kept⟩, refused⟩

variable [Transports ω]

/-! ### HTTP actions -/

omit [Transports ω] in
theorem unmoved_receive (c : Client ω) (path : String) (a : Answer) :
    Unmoved c (c.receive path a).1 ∧ ∀ e, (c.receive path a).2 = .error e → e.Plain := by
  unfold receive
  cases a.result with
  | ok response => exact ⟨⟨rfl, rfl⟩, nofun⟩
  | error e => exact ⟨⟨rfl, rfl⟩, fun e same => by cases same; exact ⟨rfl, rfl⟩⟩

theorem unmoved_send (c : Client ω) (r : RequestAction) :
    Unmoved c (c.send r).1 ∧ ∀ e, (c.send r).2 = .error e → e.Plain := by
  unfold send Profile.resolve
  cases c.profile.baseUrl.join r.path with
  | ok url => exact ⟨⟨rfl, rfl⟩, nofun⟩
  | error fault => exact ⟨⟨rfl, rfl⟩, fun e same => by cases same; exact ⟨rfl, rfl⟩⟩

theorem underway_pollRequest (unmoved : Unmoved c c₁) (r : RequestAction) (ticket : Ticket) :
    Underway action? c (c₁.pollRequest r ticket).1 (c₁.pollRequest r ticket).2 := by
  unfold pollRequest finishRequest?
  cases Transports.answer? ticket c₁.world with
  | none => exact .requests unmoved
  | some a =>
    have ⟨received, plain⟩ := c₁.unmoved_receive r.path a
    dsimp only [Option.map_some, ended]
    generalize c₁.receive r.path a = result at received plain ⊢
    obtain ⟨c₂, e | response⟩ := result
    · exact .plain (plain e rfl) (unmoved.trans received).leaves
    · exact .succeeds

theorem underway_dispatchRequest (c : Client ω) (kind : HttpKind) (r : RequestAction) :
    Underway action? c (c.dispatchRequest kind r).1 (c.dispatchRequest kind r).2 := by
  unfold dispatchRequest startRequest
  by_cases missing : (needsPage r && c.session.page.isNone) = true
  · rw [if_pos missing]
    exact .refused c rfl
  · rw [if_neg missing]
    have ⟨sent, plain⟩ := c.unmoved_send r
    generalize c.send r = result at sent plain ⊢
    obtain ⟨c₁, e | ticket⟩ := result
    · exact .plain (plain e rfl) sent.leaves
    · exact underway_pollRequest sent r ticket

/-! ### Watches -/

omit [Transports ω] in
theorem background_draw (c : Client ω) (s : Span) : Background c (c.draw s).1 :=
  ⟨rfl, rfl, rfl, rfl, rfl, rfl⟩

theorem underway_pollWatch (leaves : Leaves action? c c₁.session c₁.recordings) (channel : ChannelId)
    (w : Watch) (deadline : Nat) :
    Underway action? c (c₁.pollWatch channel w deadline).1 (c₁.pollWatch channel w deadline).2 := by
  have released := (c₁.background_release w.race).unmoved
  rw [← released.session, ← released.recordings] at leaves
  unfold pollWatch finishWatch?
  cases c₁.judge w.race deadline w.kind.accept with
  | none => exact .watches (released.session ▸ released.recordings ▸ leaves)
  | some result =>
    cases result with
    | resolved args =>
      cases kind : w.kind with
      | expect =>
        simp only [Option.map_some, ended, endWatch, kind]
        exact .succeeds
      | forbid counts =>
        simp only [Option.map_some, ended, endWatch, kind]
        refine @Underway.fails _ action? c ((c₁.release w.race).capture _) _ _ leaves rfl ?_
        intro refusal
        cases refusal
    | elapsed =>
      cases kind : w.kind with
      | expect =>
        simp only [Option.map_some, ended, endWatch, kind]
        exact .plain ⟨rfl, rfl⟩ leaves
      | forbid counts =>
        simp only [Option.map_some, ended, endWatch, kind]
        exact .succeeds

omit [Transports ω] in
theorem captured_channel {action ns : String} {e : Error}
    (refused : c.session.channel action ns = .error e) : e.captured? = none := by
  unfold Session.channel Session.requirePage at refused
  cases page : c.session.page with
  | none =>
    rw [page] at refused
    cases refused
    rfl
  | some page' =>
    rw [page] at refused
    simp only [bind, Except.bind] at refused
    split at refused
    · cases refused
    · cases refused
      rfl

theorem underway_dispatchWatch (c : Client ω) (action : ActionKind) (kind : WatchKind)
    (w : WatchAction) :
    Underway action? c (c.dispatchWatch action kind w).1 (c.dispatchWatch action kind w).2 := by
  have drawn := c.background_draw (c.profile.timeout w.timeout)
  unfold dispatchWatch
  generalize c.draw (c.profile.timeout w.timeout) = result at drawn ⊢
  obtain ⟨c₁, limit⟩ := result
  dsimp only at drawn ⊢
  cases found : c₁.session.channel action.name (c.profile.namespaceOf w.ns) with
  | error e => exact (Underway.refused c (captured_channel found)).background drawn
  | ok channel =>
    have installed := drawn.trans (c₁.background_install channel.handle [w.event])
    exact underway_pollWatch installed.unmoved.leaves _ _ _

/-! ### Emits -/

omit [Transports ω] in
/-- A call that reaches nobody may have been made before a refusal. -/
theorem Underway.rejected {call : TransportCall} {e : Error} (quiet : e.captured? = none)
    (unheard : call.delivers = false) (drawn : Background c c₁) :
    Underway action? c (c₁.logged call) (.done (.error e)) := by
  have leaves : Leaves action? c c₁.session c₁.recordings := drawn.unmoved.leaves
  refine .fails leaves ?_ fun _ => ⟨⟨[call], ?_, ?_⟩, ?_, ?_⟩
  · rw [quiet]
    rfl
  · exact congrArg (· ++ [call]) drawn.log
  · simpa using unheard
  · exact drawn.openings
  · exact drawn.cookies

theorem underway_emit (unwatching : Transports.Unwatching ω) (c : Client ω) (a : EmitAction) :
    Underway action? c (c.emit a).1 (.done (c.emit a).2) := by
  unfold emit
  cases found : c.session.channel ActionKind.emit.name (c.profile.namespaceOf a.ns) with
  | error e => exact .refused c (captured_channel found)
  | ok channel =>
    dsimp only
    split
    · split
      · exact .succeeds
      · rename_i e rejected
        exact .rejected (unwatching.emit _ _ _ e rejected) rfl ⟨rfl, rfl, rfl, rfl, rfl, rfl⟩
    · exact .refused c rfl

/-! ### Attempts to connect -/

theorem underway_afterConnect {p : PendingChannel} {next : Option Watch} {c₂ : Client ω}
    {recorded : Except Error Unit}
    (follows : MayFollow action? c p.channel next)
    (unmoved : Unmoved c c₁) (current : c.pageId? = some p.page)
    (ended : (c₂, recorded) =
        ({ c₁ with
            session := c₁.session.record p.channel
            history := c₁.history ++ [.recorded p.page p.channel] }, .ok ()) ∨
      ∃ e : Error, e.Plain ∧ (c₂, recorded) = (c₁.disconnect p.channel.handle, .error e)) :
    Underway action? c (c₂.afterConnect p.channel next recorded).1
      (c₂.afterConnect p.channel next recorded).2 := by
  obtain done | ⟨e, plain, done⟩ := ended
  · cases done
    cases next with
    | none => exact .succeeds
    | some w =>
      obtain ⟨action, kind, a, is, compound, ns⟩ := follows rfl
      refine underway_pollWatch ?_ p.channel.handle w _
      have leaves := Leaves.recorded is compound current ns
      rw [← unmoved.session, ← unmoved.recordings] at leaves
      show Leaves action? c _ (recordingsOf (_ ++ [_]))
      rw [recordingsOf_append]
      exact leaves
  · cases done
    have closed := unmoved.trans (c₁.closes_disconnect p.channel.handle).unmoved
    cases next with
    | none => exact .plain plain closed.leaves
    | some w => exact .plain plain (closed.trans (background_release _ w.race).unmoved).leaves

theorem underway_pollConnect {p : PendingChannel} {next : Option Watch} (unmoved : Unmoved c c₁)
    (current : c.pageId? = some p.page)
    (follows : MayFollow action? c p.channel next)
    (race : RaceId) (limit deadline : Nat) :
    Underway action? c (c₁.pollConnect p race limit deadline next).1
      (c₁.pollConnect p race limit deadline next).2 := by
  unfold pollConnect
  cases c₁.judge race deadline connectVerdict with
  | none => exact .connects unmoved current follows
  | some result =>
    have released := unmoved.trans (c₁.background_release race).unmoved
    refine underway_afterConnect follows released current ?_
    match result with
    | .resolved (.ok ()) =>
      rcases (c₁.release race).recordChannel_cases p with ⟨_, recorded⟩ | ⟨gone, _⟩
      · exact .inl recorded
      · exact absurd (released.pageId.trans current) gone
    | .resolved (.error m) => exact .inr ⟨_, ⟨rfl, rfl⟩, rfl⟩
    | .elapsed => exact .inr ⟨_, ⟨rfl, rfl⟩, rfl⟩

theorem unmoved_connecting (c : Client ω) (p : PendingChannel) : Unmoved c (c.connecting p) := by
  let called : Client ω :=
    { (c.install p.channel.handle [connectEvent, connectErrorEvent]).1.logged
        (.connect p.channel.handle) with world := (Transports.connect p.channel.handle c.world).1 }
  have quiet : Unmoved c called := ⟨rfl, rfl⟩
  exact quiet.trans (closes_deliverAll _ _ _).unmoved

theorem underway_establish {p : PendingChannel} {next : Option Watch} (unmoved : Unmoved c c₁)
    (current : c.pageId? = some p.page)
    (follows : MayFollow action? c p.channel next)
    (limit : Nat) :
    Underway action? c (c₁.establish p limit next).1 (c₁.establish p limit next).2 := by
  have connecting := unmoved.trans (c₁.unmoved_connecting p)
  unfold establish
  rw [startConnect_eq]
  split
  · rename_i started
    split at started
    · cases started
      have released := connecting.trans (background_release _ c₁.started).unmoved
      refine underway_afterConnect follows released current ?_
      rcases ((c₁.connecting p).release c₁.started).recordChannel_cases p with
        ⟨_, recorded⟩ | ⟨gone, _⟩
      · exact .inl recorded
      · exact absurd (released.pageId.trans current) gone
    · cases started
  · rename_i started
    split at started
    · cases started
    · cases started
      exact underway_pollConnect connecting current follows _ _ _

theorem underway_openChannel (unwatching : Transports.Unwatching ω) (action? : Option Action)
    (drawn : Background c c₁) (kind : ActionKind) (ns : String) :
    (∃ c₂ e, c₁.openChannel kind ns = (c₂, .error e) ∧
        Underway action? c c₂ (.done (.error e))) ∨
      ∃ c₂ p, c₁.openChannel kind ns = (c₂, .ok p) ∧ Unmoved c c₂ ∧ c.pageId? = some p.page ∧
        p.channel.ns = ns := by
  unfold openChannel Session.requirePage
  cases page : c₁.session.page with
  | none => exact .inl ⟨_, _, rfl, (Underway.refused c rfl).background drawn⟩
  | some page' =>
    have current : c.pageId? = some page'.id := by
      rw [← drawn.unmoved.pageId, pageId?, page]
      rfl
    dsimp only [Profile.resolve]
    cases c₁.profile.baseUrl.join ns with
    | error fault => exact .inl ⟨_, _, rfl, (Underway.refused c rfl).background drawn⟩
    | ok url =>
      dsimp only
      split
      · rename_i e rejected
        exact .inl ⟨_, e, rfl, .rejected (unwatching.openChannel _ _ _ e rejected) rfl drawn⟩
      · refine .inr ⟨_, _, rfl, ⟨drawn.session, ?_⟩, current, rfl⟩
        show recordingsOf (_ ++ [_]) = _
        rw [recordingsOf_append]
        exact (List.append_nil _).trans drawn.recordings

theorem underway_dispatchConnect (unwatching : Transports.Unwatching ω) (c : Client ω)
    (a : ConnectAction) :
    Underway action? c (c.dispatchConnect a).1 (c.dispatchConnect a).2 := by
  have drawn := c.background_draw (c.profile.timeout a.timeout)
  unfold dispatchConnect
  generalize c.draw (c.profile.timeout a.timeout) = result at drawn ⊢
  obtain ⟨c₁, limit⟩ := result
  dsimp only at drawn ⊢
  obtain ⟨c₂, e, opened, underway⟩ | ⟨c₂, p, opened, unmoved, current, -⟩ :=
    underway_openChannel unwatching action? drawn .channelConnect
      (c.profile.namespaceOf a.ns)
  · rw [opened]
    exact underway
  · rw [opened]
    exact underway_establish unmoved current (by simp [MayFollow]) limit

theorem underway_dispatchConnectWatch (unwatching : Transports.Unwatching ω) (c : Client ω)
    {act : Action} {watch kind : WatchKind} {a : ConnectWatchAction} (is : action? = some act)
    (compound : act.compound? = some (watch, a)) (action : ActionKind) :
    Underway action? c (c.dispatchConnectWatch action kind a).1
      (c.dispatchConnectWatch action kind a).2 := by
  have drawn := c.background_draw (c.profile.timeout (a.connectTimeout <|> a.timeout))
  unfold dispatchConnectWatch
  generalize c.draw (c.profile.timeout (a.connectTimeout <|> a.timeout)) = result at drawn ⊢
  obtain ⟨c₁, connectLimit⟩ := result
  have drawn := drawn.trans (c₁.background_draw (c₁.profile.timeout a.timeout))
  dsimp only at drawn ⊢
  generalize c₁.draw (c₁.profile.timeout a.timeout) = result at drawn ⊢
  obtain ⟨c₂, limit⟩ := result
  dsimp only at drawn ⊢
  obtain ⟨c₃, e, opened, underway⟩ | ⟨c₃, p, opened, unmoved, current, ns⟩ :=
    underway_openChannel unwatching action? drawn action (c.profile.namespaceOf a.ns)
  · rw [opened]
    exact underway
  · rw [opened]
    have installed := unmoved.trans (c₃.background_install p.channel.handle [a.event]).unmoved
    exact underway_establish installed current (fun _ => ⟨act, watch, a, is, compound, ns⟩) _

/-! ### Crawls -/

section Crawls

variable {before rest : List Fetch} {f f' : Fetch} {c₂ : Client ω}

omit [Transports ω] in
/-- One fetch has gone on, and nothing is cached. -/
theorem Crawling.unmoved (crawling : Crawling c c₁ (before ++ f :: rest)) (moved : Unmoved c₁ c₂)
    (key : f'.key = f.key) (loaded : f.isLoaded = true → f'.isLoaded = true)
    (plain : ∀ e, f'.failure? = some e → e.Plain) : Crawling c c₂ (before ++ f' :: rest) := by
  have distinct := crawling.distinct
  have missing := crawling.missing
  have failures := crawling.failures
  simp only [List.mem_append, List.mem_cons] at missing failures
  refine ⟨?_, moved.recordings.trans crawling.recordings, ?_, by simpa [key] using distinct, ?_, ?_⟩
  · rw [moved.session]
    exact crawling.session
  · rw [moved.session]
    exact crawling.kept
  · intro g member unloaded
    rw [moved.session]
    simp only [List.mem_append, List.mem_cons] at member
    rcases member with member | rfl | member
    · exact missing g (.inl member) unloaded
    · rw [key]
      refine missing f (.inr (.inl rfl)) (Bool.eq_false_iff.mpr fun was => ?_)
      rw [loaded was] at unloaded
      cases unloaded
    · exact missing g (.inr (.inr member)) unloaded
  · intro g member
    simp only [List.mem_append, List.mem_cons] at member
    rcases member with member | rfl | member
    · exact failures g (.inl member)
    · exact plain
    · exact failures g (.inr (.inr member))

omit [Transports ω] in
/-- The body of a fetch has arrived and is cached. -/
theorem Crawling.arrived (crawling : Crawling c c₁ (before ++ f :: rest)) (body : String)
    (unloaded : f.isLoaded = false) (session : c₂.session = c₁.session.keep f.key body)
    (recordings : c₂.recordings = c₁.recordings) :
    Crawling c c₂ (before ++ { f with status := .loaded } :: rest) := by
  have distinct := crawling.distinct
  have missing := crawling.missing
  have failures := crawling.failures
  simp only [List.mem_append, List.mem_cons] at missing failures
  have absent : f.key ∉ c₁.session.cache.names := missing f (.inr (.inl rfl)) unloaded
  have cache : c₂.session.cache = c₁.session.cache.set f.key body := by rw [session]; rfl
  have others (g : Fetch) (member : g ∈ before ∨ g ∈ rest) (waits : g.isLoaded = false) :
      g.key ∉ c₂.session.cache.names := by
    have different : g.key ≠ f.key := by
      simp only [List.map_append, List.map_cons, List.nodup_append, List.nodup_cons] at distinct
      obtain ⟨_, ⟨notLater, _⟩, apart⟩ := distinct
      rcases member with member | member
      · exact apart _ (List.mem_map_of_mem member) _ List.mem_cons_self
      · exact fun same => notLater (same ▸ List.mem_map_of_mem member)
    rw [cache, Entries.names_set, if_neg absent, List.mem_append, List.mem_singleton]
    rintro (cached | same)
    · exact missing g (member.imp_right .inr) waits cached
    · exact different same
  refine ⟨?_, recordings.trans crawling.recordings, ?_, by simpa using distinct, ?_, ?_⟩
  · rw [session, crawling.session]
    rfl
  · rw [cache]
    exact crawling.kept.set absent
  · intro g member waits
    simp only [List.mem_append, List.mem_cons] at member
    rcases member with member | rfl | member
    · exact others g (.inl member) waits
    · cases waits
    · exact others g (.inr member) waits
  · intro g member
    simp only [List.mem_append, List.mem_cons] at member
    rcases member with member | rfl | member
    · exact failures g (.inl member)
    · exact nofun
    · exact failures g (.inr (.inr member))

theorem crawling_pollPending (crawling : Crawling c c₁ (before ++ f :: rest))
    (unloaded : f.isLoaded = false) (cache : Bool) (ticket : Ticket) :
    Crawling c (c₁.pollPending cache f ticket).1
      (before ++ (c₁.pollPending cache f ticket).2 :: rest) := by
  have unloaded' : f.isLoaded = true → ∀ {P : Prop}, P := by simp [unloaded]
  unfold pollPending
  cases Transports.answer? ticket c₁.world with
  | none => exact crawling.unmoved ⟨rfl, rfl⟩ rfl (fun was => unloaded' was) nofun
  | some a =>
    have ⟨received, plain⟩ := c₁.unmoved_receive f.url.text a
    dsimp only
    generalize c₁.receive f.url.text a = result at received plain ⊢
    obtain ⟨c₂, e | response⟩ := result
    · refine crawling.unmoved received rfl (fun was => unloaded' was) fun e' failed => ?_
      cases failed
      exact plain e rfl
    · cases cache with
      | false => exact crawling.unmoved received rfl (fun _ => rfl) nofun
      | true =>
        exact crawling.arrived response.body unloaded
          (congrArg (Session.keep · f.key response.body) received.session) received.recordings

theorem crawling_pollFetch (crawling : Crawling c c₁ (before ++ f :: rest)) (cache : Bool) :
    Crawling c (c₁.pollFetch cache f).1 (before ++ (c₁.pollFetch cache f).2 :: rest) := by
  unfold pollFetch
  cases status : f.status with
  | unsent =>
    have ⟨sent, plain⟩ := c₁.unmoved_send f.request
    dsimp only
    generalize c₁.send f.request = result at sent plain ⊢
    have unloaded : f.isLoaded = false := by simp [Fetch.isLoaded, status]
    obtain ⟨c₂, e | ticket⟩ := result
    · refine crawling.unmoved sent rfl (by simp [unloaded]) fun e' failed => ?_
      cases failed
      exact plain e rfl
    · refine crawling_pollPending (crawling.unmoved sent rfl id ?_) unloaded cache ticket
      intro e failed
      simp [Fetch.failure?, status] at failed
  | pending ticket =>
    exact crawling_pollPending crawling (by simp [Fetch.isLoaded, status]) cache ticket
  | loaded | failed e => exact crawling

theorem plain_failure {fetches : List Fetch} {cache : Bool} {e : Error}
    (crawling : Crawling c c₁ fetches) (failed : Crawl.failure? ω ⟨fetches, cache⟩ = some e) :
    e.Plain := by
  obtain ⟨i, _, failed⟩ := Option.bind_eq_some_iff.mp failed
  obtain ⟨f, at_, failed⟩ := Option.bind_eq_some_iff.mp failed
  exact crawling.failures f (List.mem_of_getElem? at_) e failed

/-- The induction is on the fetches that are still to be looked at. -/
theorem crawling_pollFetches (cache : Bool) (crawling : Crawling c c₁ (before ++ rest)) :
    ∃ fetches, Crawling c (c₁.pollFetches cache before rest).1 fetches ∧
      match (c₁.pollFetches cache before rest).2 with
      | .ok fetches' => fetches' = fetches
      | .error e => e.Plain := by
  induction rest generalizing c₁ before with
  | nil =>
    rw [List.append_nil] at crawling
    exact ⟨before, crawling, rfl⟩
  | cons f rest ih =>
    have polled := crawling_pollFetch crawling cache
    unfold pollFetches
    dsimp only
    cases failed : Crawl.failure? ω ⟨before ++ (c₁.pollFetch cache f).2 :: rest, cache⟩ with
    | some e => exact ⟨_, polled, plain_failure polled failed⟩
    | none => exact ih (by simpa using polled)

omit [Transports ω] in
theorem Crawling.leaves {a : CrawlAction} {fetches : List Fetch}
    (is : action? = some (.loadStaticAssets a)) (crawling : Crawling c c₁ fetches) :
    Leaves action? c c₁.session c₁.recordings := by
  rw [crawling.session, crawling.recordings]
  exact .cached is crawling.kept

theorem underway_pollCrawlJob {a : CrawlAction} {crawl : Crawl}
    (is : action? = some (.loadStaticAssets a)) (crawling : Crawling c c₁ crawl.fetches) :
    Underway action? c (c₁.pollCrawlJob crawl).1 (c₁.pollCrawlJob crawl).2 := by
  have all : Crawling c c₁ ([] ++ crawl.fetches) := crawling
  obtain ⟨fetches, after, outcome⟩ := crawling_pollFetches crawl.cache all
  unfold pollCrawlJob pollCrawl
  generalize c₁.pollFetches crawl.cache [] crawl.fetches = result at after outcome ⊢
  obtain ⟨c₂, e | fetches'⟩ := result
  · exact .plain outcome (after.leaves is)
  · dsimp only at outcome ⊢
    subst outcome
    by_cases loaded : fetches'.all Fetch.isLoaded = true
    · rw [if_pos loaded]
      exact .succeeds
    · rw [if_neg loaded]
      exact .crawls is after

omit [Transports ω] in
theorem crawling_crawlOf (c : Client ω) (a : CrawlAction) : Crawling c c (c.crawlOf a).fetches := by
  have nothing : Crawling c c [] :=
    ⟨rfl, rfl, .refl _, List.nodup_nil, by simp, by simp⟩
  unfold crawlOf
  cases c.session.page with
  | none => exact nothing
  | some page =>
    dsimp only
    split
    · exact nothing
    · refine ⟨rfl, rfl, .refl _, ?_, ?_, ?_⟩
      · simpa [Function.comp_def] using Assets.candidates_nodup _ _ _ _
      · intro f member _ cached
        obtain ⟨⟨key, url⟩, candidate, rfl⟩ := List.mem_map.mp member
        have uncached := Assets.candidate_uncached candidate
        obtain ⟨entry, present, same⟩ := List.mem_map.mp cached
        have holds : c.session.cache.holds key = true :=
          List.any_eq_true.mpr ⟨entry, present, by simpa using same⟩
        rw [holds] at uncached
        cases uncached
      · intro f member e failed
        obtain ⟨_, _, rfl⟩ := List.mem_map.mp member
        cases failed

end Crawls

/-! ### Actions -/

theorem underway_dispatch (unwatching : Transports.Unwatching ω) (c : Client ω) (action : Action) :
    Underway (some action) c (c.dispatch action).1 (c.dispatch action).2 := by
  cases action with
  | http kind r => exact underway_dispatchRequest c kind _
  | pageUnload => exact .succeeds
  | loadStaticAssets a => exact underway_pollCrawlJob rfl (c.crawling_crawlOf a)
  | connect a => exact underway_dispatchConnect unwatching c a
  | emit e => exact underway_emit unwatching c e
  | awaitEmit w => exact underway_dispatchWatch c _ _ w
  | confirmNoEmit w => exact underway_dispatchWatch c _ _ w
  | confirmNoMatchingEmit w counts => exact underway_dispatchWatch c _ _ w
  | connectAndAwaitEmit a => exact underway_dispatchConnectWatch unwatching c rfl rfl _
  | connectAndConfirmNoEmit a => exact underway_dispatchConnectWatch unwatching c rfl rfl _

theorem underway_poll (underway : Underway action? c c₁ (.waiting job)) :
    Underway action? c (c₁.poll job).1 (c₁.poll job).2 := by
  cases underway with
  | requests unmoved => exact underway_pollRequest unmoved _ _
  | crawls is crawling => exact underway_pollCrawlJob is crawling
  | connects unmoved current follows => exact underway_pollConnect unmoved current follows _ _ _
  | watches leaves => exact underway_pollWatch leaves _ _ _

end Client

end LiveSession
