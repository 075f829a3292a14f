import LiveSession.Proofs.Client.Alike
import LiveSession.Proofs.Client.Compounds

/-!
# Watches that follow a connect

To connect and then watch can be one action or two, the second of which starts as soon as the first
has succeeded. On one schedule both ways make the same attempt, and when it succeeds the two watches
have the same time; only what was dispatched before is heard by the one action alone. `Paced` is what
the two tabs are to each other at any time.
-/

namespace LiveSession

variable {ω : Type}

/-- What happens on a tab with one action or two in a row. -/
inductive Beat (ω : Type) where
  | fire (channel : ChannelId) (s : Signal)
  | pass (world : ω) (today : Int)
  | clear
  /-- The action that was dispatched last is carried on. -/
  | carryOn

def Beat.event (flight : Nat) : Beat ω → TabEvent ω
  | fire channel s => .fire channel s
  | pass world today => .pass world today
  | clear => .clear
  | carryOn => .poll flight

namespace ConnectWatchAction

def connect (a : ConnectWatchAction) : ConnectAction :=
  { ns := a.ns, timeout := a.connectTimeout <|> a.timeout }

def watch (a : ConnectWatchAction) : WatchAction :=
  { ns := a.ns, event := a.event, timeout := a.timeout }

end ConnectWatchAction

def Flight.succeeded : Flight → Bool
  | actionEnded result _ => result.isOk
  | _ => false

namespace Tab

variable [Transports ω]

omit [Transports ω] in
def succeeds (t : Tab ω) (flight : Nat) : Bool :=
  (t.flights[flight]?).any Flight.succeeded

/-- The action `next` is dispatched if the last action, which is `flight`, has succeeded. -/
def follow (t : Tab ω) (flight : Nat) (next : Action) : Tab ω :=
  if t.flights.length = flight + 1 ∧ t.succeeds flight then t.step (.dispatch next) else t

/-- The tab after an action and a schedule. -/
def inOne (t : Tab ω) (action : Action) (beats : List (Beat ω)) : Tab ω :=
  (t.step (.dispatch action)).run (beats.map (Beat.event t.flights.length))

/-- The tab after an action that is followed by another, and a schedule. -/
def inTwo (t : Tab ω) (action next : Action) (beats : List (Beat ω)) : Tab ω :=
  beats.foldl
    (fun t' beat => (t'.step (beat.event (t'.flights.length - 1))).follow t.flights.length next)
    ((t.step (.dispatch action)).follow t.flights.length next)

/-- Two tabs on one schedule. On the first one action connects and watches; on the second the watch
follows the connect. -/
inductive Paced (profile : Profile) (sources : Sources) (w : Watch) (flight : Nat) (a b : Tab ω) :
    Prop
  | trying {p : PendingChannel} {race race' : RaceId} {limit deadline opened opened' : Nat}
      {base : List ChannelEvent} (alike : Alike profile sources a.client b.client)
      (first : a.Trying flight p race limit deadline (some w) base opened)
      (second : b.Trying flight p race' limit deadline none base opened')
      (last : b.flights.length = flight + 1) (named : p.channel.ns = w.ns)
  | refused {e e' : Error} {time time' : Nat}
      (first : a.flights[flight]? = some (.actionEnded (.error e) time))
      (second : b.flights[flight]? = some (.actionEnded (.error e') time'))
      (last : b.flights.length = flight + 1)
  /-- The first watch has heard something before the second one starts. -/
  | caught {o : Occurrence} {time : Nat}
      (first : a.flights[flight]? = some (.actionEnded (w.verdict (some o)) time))
  | watching {channel : ChannelId} {race : RaceId} {deadline start start' : Nat}
      {base : List ChannelEvent} {drawn : Sources} (alike : Alike profile drawn a.client b.client)
      (first : a.flights[flight]? = some (.action (.watch channel w deadline)))
      (second : b.flights[flight + 1]? =
        some (.action (.watch channel { w with race } deadline)))
      (hears : a.client.Overhears (w.subscription channel) base start)
      (hears' : b.client.Overhears ({ w with race }.subscription channel) base start')
      (last : b.flights.length = flight + 2)
  | ended {result : ActionResult} {time time' : Nat}
      (first : a.flights[flight]? = some (.actionEnded result time))
      (second : b.flights[flight + 1]? = some (.actionEnded result time'))

variable {t a b : Tab ω} {profile : Profile} {sources : Sources} {w : Watch} {flight : Nat}
  {next : Action} {kind : WatchKind} {act : WatchAction}

/-! ### What follows -/

omit [Transports ω] in
theorem succeeds_eq {f : Flight} (found : t.flights[flight]? = some f) :
    t.succeeds flight = f.succeeded := by
  unfold succeeds
  rw [found, Option.any_some]

theorem follow_later (later : t.flights.length = flight + 2) : t.follow flight next = t :=
  if_neg fun both => by omega

theorem follow_unless {f : Flight} (found : t.flights[flight]? = some f)
    (fails : f.succeeded = false) : t.follow flight next = t := by
  refine if_neg fun both => ?_
  rw [succeeds_eq found, fails] at both
  exact Bool.false_ne_true both.2

theorem follow_ended {other : Nat} {result : ActionResult} {time : Nat}
    (found : t.flights[other]? = some (.actionEnded result time)) :
    (t.follow flight next).flights[other]? = some (.actionEnded result time) := by
  unfold follow
  split
  · exact flights_step_ended found
  · exact found

theorem length_beat (t : Tab ω) (flight : Nat) (beat : Beat ω) :
    (t.step (beat.event flight)).flights.length = t.flights.length := by
  cases beat with
  | carryOn =>
    rcases t.poll_cases flight with same | ⟨_, _, _, _, after⟩
    · show (t.poll flight).flights.length = _
      rw [same]
    · show (t.poll flight).flights.length = _
      rw [after]
      exact List.length_set
  | _ => rfl

theorem Reachable.follow (reachable : Reachable t) (flight : Nat) (next : Action) :
    Reachable (t.follow flight next) := by
  unfold Tab.follow
  split
  · exact reachable.step _
  · exact reachable

/-! ### Beats -/

section Beats

variable {beat : Beat ω}

omit [Transports ω] in
theorem event_ne_poll (other : beat ≠ .carryOn) (flight polled : Nat) :
    beat.event flight ≠ .poll polled := by
  cases beat with
  | carryOn => exact absurd rfl other
  | _ => exact nofun

theorem alike_beat (alike : Alike profile sources a.client b.client) (other : beat ≠ .carryOn)
    (flight flight' : Nat) :
    Alike profile sources (a.step (beat.event flight)).client
      (b.step (beat.event flight')).client := by
  cases beat with
  | fire channel s => exact alike.deliver channel s
  | pass world today => exact ⟨rfl, alike.history, alike.page, alike.profile, alike.sources⟩
  | clear => exact alike.clear
  | carryOn => exact absurd rfl other

end Beats

/-! ### The end of the attempt -/

theorem alike_afterConnect {c c' : Client ω} (alike : Alike profile sources c c')
    (channel : SocketChannel) : Alike profile sources
      (c.afterConnect channel (some w) (.ok ())).1 c' := by
  show Alike profile sources (c.pollWatch channel.handle w (c.now + w.limit)).1 c'
  unfold Client.pollWatch Client.finishWatch?
  cases c.judge w.race (c.now + w.limit) w.kind.accept with
  | none => exact alike
  | some result =>
    obtain ⟨_, _, after⟩ := c.release_eq w.race
    cases result with
    | resolved | elapsed =>
      simp only [Option.map_some, Client.ended, Client.endWatch, Client.capture, after]
      exact ⟨alike.world, alike.history, alike.page, alike.profile, alike.sources⟩

/-! ### The watches -/

theorem poll_overheard {channel : ChannelId} {deadline opened : Nat} {base : List ChannelEvent}
    (reachable : Reachable t)
    (found : t.flights[flight]? = some (.action (.watch channel w deadline)))
    (hears : t.client.Overhears (w.subscription channel) base opened) :
    let first := w.before? deadline
      (occurrences channel [w.event] (t.client.history.drop base.length))
    ((first.isSome ∨ deadline ≤ t.client.now) → ∃ time,
        (t.step (.poll flight)).flights[flight]? = some (.actionEnded (w.verdict first) time)) ∧
      (¬ (first.isSome ∨ deadline ≤ t.client.now) → t.step (.poll flight) = t) := by
  intro first
  have polled := hears.pollWatch reachable.wired (holds_watch found) deadline
  obtain ⟨below, same⟩ := List.getElem?_eq_some_iff.mp found
  rw [step, poll_action found, Client.poll, polled]
  constructor
  · intro settled
    rw [if_pos settled]
    exact ⟨_, List.getElem?_set_self below⟩
  · intro going
    have kept : t.flights.set flight (.action (.watch channel w deadline)) = t.flights := by
      rw [← same, List.set_getElem_self]
    rw [if_neg going, Flight.ofProgress, kept]

/-- When the time of the first watch begins, the second one is launched. It has heard nothing; the
first one goes on if it has not either. -/
theorem paced_launch {channel : ChannelId} {base : List ChannelEvent} (reachable : Reachable b)
    (alike : Alike profile sources a.client b.client) (begun : Begun w channel flight base a)
    (last : b.flights.length = flight + 1) (act : WatchAction) :
    Paced profile sources w flight a (b.launch
      (if w.limit = 0 then
        ((b.client.watching act channel).closeWatch { w with race := b.client.started } none,
          .done (w.verdict none))
      else
        (b.client.watching act channel, .waiting (.watch channel
          { w with race := b.client.started } (b.client.now + w.limit))))) := by
  have launched (r : Client ω × Progress) :
      (b.launch r).flights[flight + 1]? = some (.ofProgress r.1.now r.2) := by
    rw [← last]
    exact List.getElem?_concat_length
  cases begun with
  | ended history found why past =>
    rename_i added
    cases heard : w.before? (a.client.now + w.limit) (occurrences channel [w.event] added) with
    | some o =>
      rw [heard] at found
      exact .caught found
    | none =>
      rw [heard] at found why
      have instant : w.limit = 0 := why.resolve_left nofun
      rw [if_pos instant]
      exact .ended found (launched _)
  | going history nothing time found unqueued =>
    rw [if_neg time, alike.now]
    let race := b.client.started
    let c := b.client.watching act channel
    have started : Alike profile (b.client.draw (b.client.profile.timeout act.timeout)).1.sources
        a.client c :=
      ⟨alike.world, alike.history, alike.page, alike.profile, rfl⟩
    have empty : c.Heard race [] := queue_watching reachable.wired act channel
    have hears : c.Overhears ({ w with race }.subscription channel) a.client.history c.now := by
      rw [← started.history]
      exact .of_heard empty
    exact .watching started found (launched _) (.of_heard unqueued) hears
      (List.length_append.trans (congrArg (· + 1) last))

theorem paced_watching {channel : ChannelId} {race : RaceId} {deadline start start' : Nat}
    {base : List ChannelEvent} {drawn : Sources} {beat : Beat ω} (forward : Transports.Forward ω)
    (reachable : Reachable a) (reachable' : Reachable b)
    (ahead : a.client.now ≤ (a.step (beat.event flight)).client.now)
    (alike : Alike profile drawn a.client b.client)
    (first : a.flights[flight]? = some (.action (.watch channel w deadline)))
    (second : b.flights[flight + 1]? = some (.action (.watch channel { w with race } deadline)))
    (hears : a.client.Overhears (w.subscription channel) base start)
    (hears' : b.client.Overhears ({ w with race }.subscription channel) base start')
    (last : b.flights.length = flight + 2) :
    Paced profile sources w flight (a.step (beat.event flight))
      (b.step (beat.event (flight + 1))) := by
  by_cases polled : beat = .carryOn
  · subst polled
    have ends := poll_overheard reachable first hears
    have ends' := poll_overheard reachable' second hears'
    rw [alike.history, alike.now] at ends'
    by_cases settled : (w.before? deadline (occurrences channel [w.event]
        (a.client.history.drop base.length))).isSome ∨ deadline ≤ a.client.now
    · obtain ⟨_, ended⟩ := ends.1 settled
      obtain ⟨_, ended'⟩ := ends'.1 settled
      exact .ended ended ended'
    · show Paced profile sources w flight (a.step (.poll flight)) (b.step (.poll (flight + 1)))
      rw [ends.2 settled, ends'.2 settled]
      exact .watching alike first second hears hears' last
  · have after := alike_beat alike polled flight (flight + 1)
    obtain ⟨_, grows⟩ := a.grows forward reachable.wired _ ahead
    obtain ⟨_, grows'⟩ := b.grows forward reachable'.wired _ (alike.ahead after ahead)
    obtain ⟨below, _⟩ := List.getElem?_eq_some_iff.mp first
    obtain ⟨below', _⟩ := List.getElem?_eq_some_iff.mp second
    exact .watching after
      ((flights_step_other (subject_ne below (event_ne_poll polled _ _))).trans first)
      ((flights_step_other (subject_ne below' (event_ne_poll polled _ _))).trans second)
      (hears.grows reachable.wired (holds_watch first) grows)
      (hears'.grows reachable'.wired (holds_watch second) grows')
      ((length_beat b (flight + 1) beat).trans last)

section Lockstep

variable (all : ∀ o, w.kind.counts o = true) (watches : next.watch? = some (kind, act))
  (fits : ∀ c : Client ω, c.profile = profile → c.sources = sources →
    c.watchFor kind act = { w with race := c.started })

include all watches fits

/-! ### The attempts -/

/-- When the attempt is over for both, both have failed or the watch of the second follows. -/
theorem paced_of_over {p : PendingChannel} {c c' : Client ω} {k : List Held}
    {base : List ChannelEvent} {opened : Nat} {recorded : Except Error Unit}
    (reachable : Reachable b) (alike : Alike profile sources c c')
    (h : Wired c k) (holds : .listeners (w.subscription p.channel.handle) ∈ k)
    (hears : c.Overhears (w.subscription p.channel.handle) base opened)
    (concludes : c'.Concludes p recorded) (named : p.channel.ns = w.ns)
    (client : a.client = (c.afterConnect p.channel (some w) recorded).1)
    (found : a.flights[flight]? = some (.ofProgress a.client.now
      (c.afterConnect p.channel (some w) recorded).2))
    (client' : b.client = (c'.afterConnect p.channel none recorded).1)
    (found' : b.flights[flight]? = some (.ofProgress b.client.now
      (c'.afterConnect p.channel none recorded).2))
    (last : b.flights.length = flight + 1) :
    Paced profile sources w flight a (b.follow flight next) := by
  cases recorded with
  | error e =>
    rw [follow_unless found' rfl]
    exact .refused found found' last
  | ok =>
    have begun := begun_of_poll h holds hears all client found
    have alike : Alike profile sources a.client b.client := by
      rw [client, client']
      exact alike_afterConnect alike p.channel
    have follows : b.follow flight next = b.step (.dispatch next) :=
      if_pos ⟨last, succeeds_eq found'⟩
    -- The second watch finds the channel that has just been recorded.
    obtain ⟨page, isPage, entry⟩ := concludes.2
    have current : b.client.session.page = some page := by
      rw [client']
      exact isPage
    have watch := fits b.client alike.profile alike.sources
    have ns : b.client.profile.namespaceOf act.ns = p.channel.ns :=
      (congrArg Watch.ns watch).trans named.symm
    rw [← ns] at entry
    have started := reachable.start_watch watches current entry
    rw [watch] at started
    rw [follows, started]
    exact paced_launch reachable alike begun last act

variable (forward : Transports.Forward ω)

include forward

theorem paced_trying {p : PendingChannel} {race race' : RaceId}
    {limit deadline opened opened' : Nat} {base : List ChannelEvent} {beat : Beat ω}
    (reachable : Reachable a) (reachable' : Reachable b)
    (ahead : a.client.now ≤ (a.step (beat.event flight)).client.now)
    (alike : Alike profile sources a.client b.client)
    (first : a.Trying flight p race limit deadline (some w) base opened)
    (second : b.Trying flight p race' limit deadline none base opened')
    (last : b.flights.length = flight + 1) (named : p.channel.ns = w.ns) :
    Paced profile sources w flight (a.step (beat.event flight))
      ((b.step (beat.event flight)).follow flight next) := by
  -- Only a poll can end the attempts; the other events keep both of them in flight.
  by_cases polled : beat = .carryOn
  · subst polled
    rcases alike.attempt? limit deadline reachable.wired first.holds first.hears
      reachable'.wired second.holds second.hears with
      ⟨going, going'⟩ | ⟨c, c', recorded, settled, settled', after⟩
    · show Paced profile sources w flight (a.step (.poll flight))
        ((b.step (.poll flight)).follow flight next)
      rw [first.poll_going going, second.poll_going going', follow_unless second.found rfl]
      exact .trying alike first second last named
    · obtain ⟨others, wired⟩ := first.wired_over reachable settled
      obtain ⟨client, found⟩ := first.poll_over settled
      obtain ⟨client', found'⟩ := second.poll_over settled'
      exact paced_of_over all watches fits (reachable'.step _) after wired List.mem_cons_self
        (first.watches_over reachable forward rfl settled) (Client.concludes_attempt settled') named
        client found client' found' ((length_beat b flight .carryOn).trans last)
  · have after := alike_beat alike polled flight flight
    have second := second.step_other reachable' forward (alike.ahead after ahead)
      (event_ne_poll polled flight flight)
    rw [follow_unless second.found rfl]
    exact .trying after
      (first.step_other reachable forward ahead (event_ne_poll polled flight flight)) second
      ((length_beat b flight beat).trans last) named

/-! ### Runs of both -/

theorem Paced.beat (reachable : Reachable a) (reachable' : Reachable b) (beat : Beat ω)
    (ahead : a.client.now ≤ (a.step (beat.event flight)).client.now)
    (paced : Paced profile sources w flight a b) :
    Paced profile sources w flight (a.step (beat.event flight))
      ((b.step (beat.event (b.flights.length - 1))).follow flight next) := by
  cases paced with
  | trying alike first second last named =>
    have latest : b.flights.length - 1 = flight := by omega
    rw [latest]
    exact paced_trying all watches fits forward reachable reachable' ahead alike first second last
      named
  | watching alike first second hears hears' last =>
    have latest : b.flights.length - 1 = flight + 1 := by omega
    rw [latest, follow_later ((length_beat b (flight + 1) beat).trans last)]
    exact paced_watching forward reachable reachable' ahead alike first second hears hears' last
  | refused first second last =>
    rw [follow_unless (flights_step_ended second) rfl]
    exact .refused (flights_step_ended first) (flights_step_ended second)
      ((length_beat b _ beat).trans last)
  | caught first => exact .caught (flights_step_ended first)
  | ended first second =>
    exact .ended (flights_step_ended first) (follow_ended (flights_step_ended second))

theorem Paced.run (reachable : Reachable a) (reachable' : Reachable b) (beats : List (Beat ω))
    (ahead : Forward a (beats.map (Beat.event flight)))
    (paced : Paced profile sources w flight a b) :
    Paced profile sources w flight (a.run (beats.map (Beat.event flight)))
      (beats.foldl (fun t beat => (t.step (beat.event (t.flights.length - 1))).follow flight next)
        b) := by
  induction beats generalizing a b with
  | nil => exact paced
  | cons beat beats ih =>
    have onward := paced.beat all watches fits forward reachable reachable' beat ahead.1
    exact ih (reachable.step _) ((reachable'.step _).follow flight next) ahead.2 onward

end Lockstep

/-! ### The start of both -/

section Start

variable {action : Action} {a : ConnectWatchAction} (reachable : Reachable t)
  (forward : Transports.Forward ω) (compound : action.compound? = some (kind, a))
  (all : ∀ o, kind.counts o = true) (watches : next.watch? = some (kind, a.watch))

omit [Transports ω] in
theorem watchFor_eq (c₀ c : Client ω) (kind : WatchKind) (a : ConnectWatchAction)
    (profile : c.profile = c₀.profile)
    (sources : c.sources =
      (c₀.draw (c₀.profile.timeout (a.connectTimeout <|> a.timeout))).1.sources) :
    c.watchFor kind a.watch = { c₀.compoundWatch kind a with race := c.started } := by
  unfold Client.watchFor Client.compoundWatch ConnectWatchAction.watch
  rw [profile]
  unfold Client.draw at sources ⊢
  rw [sources]

include reachable forward compound all watches

theorem paced_start :
    Paced t.client.profile
      (t.client.draw (t.client.profile.timeout (a.connectTimeout <|> a.timeout))).1.sources
      (t.client.compoundWatch kind a) t.flights.length (t.step (.dispatch action))
      ((t.step (.dispatch (.connect a.connect))).follow t.flights.length next) := by
  have last : (t.step (.dispatch (.connect a.connect))).flights.length = t.flights.length + 1 :=
    List.length_append
  rcases t.client.alike_openChannel (t.client.compoundDrawn a).sources
    (t.client.draw (t.client.profile.timeout a.connect.timeout)).1.sources action.kind
    .channelConnect (t.client.profile.namespaceOf a.ns) with
    ⟨c, c', e, e', failed, failed'⟩ | ⟨c, c', p, opened, opened', named, alike⟩
  · have dispatched : t.client.dispatch action = (c, .done (.error e)) := by
      have unopened : (t.client.compoundDrawn a).openChannel action.kind
        (t.client.profile.namespaceOf a.ns) = (c, .error e) := failed
      rw [Client.dispatch_compound compound, unopened]
    have dispatched' : t.client.dispatch (.connect a.connect) = (c', .done (.error e')) := by
      have unopened : (t.client.draw (t.client.profile.timeout a.connect.timeout)).1.openChannel
        .channelConnect (t.client.profile.namespaceOf a.connect.ns) = (c', .error e') := failed'
      rw [Client.dispatch_connect, unopened]
    have found : (t.step (.dispatch action)).flights[t.flights.length]? =
        some (.actionEnded (.error e) c.now) := by
      rw [step, dispatched]
      exact List.getElem?_concat_length
    have found' : (t.step (.dispatch (.connect a.connect))).flights[t.flights.length]? =
        some (.actionEnded (.error e') c'.now) := by
      rw [step, dispatched']
      exact List.getElem?_concat_length
    rw [follow_unless found' rfl]
    exact .refused found found' last
  · have first := opens_compound reachable compound opened
    have second := opens_connect reachable a.connect opened'
    have alike : Alike t.client.profile
        (t.client.draw (t.client.profile.timeout a.connect.timeout)).1.sources
        (c.install p.channel.handle [a.event]).1 c' :=
      ⟨alike.world, alike.history, alike.page, alike.profile, alike.sources⟩
    obtain ⟨c₁, c₁', outcome, tried, tried', after⟩ := alike.tryConnect forward
      (t.client.draw (t.client.profile.timeout a.connect.timeout)).2 first.wired second.wired
      first.history rfl
    cases outcome with
    | none =>
      have going := first.trying forward tried
      have going' := second.trying forward tried'
      have clients : Alike t.client.profile
          (t.client.draw (t.client.profile.timeout a.connect.timeout)).1.sources
          (t.step (.dispatch action)).client (t.step (.dispatch (.connect a.connect))).client := by
        rw [first.launched_going tried, second.launched_going tried']
        exact after
      rw [after.now] at going'
      rw [follow_unless going'.found rfl]
      exact .trying clients going going' last named
    | some recorded =>
      obtain ⟨client, found⟩ := first.launched tried
      obtain ⟨client', found'⟩ := second.launched tried'
      exact paced_of_over all watches (fun c => watchFor_eq t.client c kind a) (reachable.step _)
        after (first.wired_over tried) List.mem_cons_self (first.watches_over tried forward rfl)
        (Client.concludes_tryConnect tried') named client found client' found' last

theorem paced_run (beats : List (Beat ω))
    (ahead : Forward (t.step (.dispatch action)) (beats.map (Beat.event t.flights.length))) :
    Paced t.client.profile
      (t.client.draw (t.client.profile.timeout (a.connectTimeout <|> a.timeout))).1.sources
      (t.client.compoundWatch kind a) t.flights.length (t.inOne action beats)
      (t.inTwo (.connect a.connect) next beats) :=
  (paced_start reachable forward compound all watches).run all watches
    (fun c => watchFor_eq t.client c kind a) forward (reachable.step _)
    ((reachable.step _).follow t.flights.length next) beats ahead

end Start

/-- What a watch that expects its event makes of the second way, it makes of the first. -/
theorem Paced.expect (paced : Paced profile sources w flight a b) (expects : w.kind = .expect)
    (second : b.succeeds (flight + 1) = true) : a.succeeds flight = true := by
  have nothing (last : b.flights.length = flight + 1) : b.succeeds (flight + 1) = false := by
    unfold succeeds
    rw [List.getElem?_eq_none (Nat.le_of_eq last)]
    rfl
  cases paced with
  | trying _ _ _ last => cases (nothing last).symm.trans second
  | refused _ _ last => cases (nothing last).symm.trans second
  | caught first =>
    rw [succeeds_eq first, Watch.verdict, expects]
    rfl
  | watching _ _ waits => cases (succeeds_eq waits).symm.trans second
  | ended first ended =>
    rw [succeeds_eq first]
    exact (succeeds_eq ended).symm.trans second

theorem Paced.forbid (paced : Paced profile sources w flight a b) {counts : ArgsPredicate}
    (forbids : w.kind = .forbid counts) (first : a.succeeds flight = true) :
    b.succeeds (flight + 1) = true := by
  cases paced with
  | trying _ trying => cases (succeeds_eq trying.found).symm.trans first
  | refused ended => cases (succeeds_eq ended).symm.trans first
  | caught caught =>
    rw [Watch.verdict, forbids] at caught
    cases (succeeds_eq caught).symm.trans first
  | watching _ waits => cases (succeeds_eq waits).symm.trans first
  | ended ended second =>
    rw [succeeds_eq second]
    exact (succeeds_eq ended).symm.trans first

/-- An action that connects a channel and watches it misses nothing. If the channel is recorded at
some time, whatever has happened since it was opened, the watch ends with the first occurrence of its
event that the channel has dispatched since the opening and before the time of the watch is over,
counted from the recording; else with the end of its time. So, on one schedule, where a connect and
then an `await-emit` succeed the one action does, and where the one action succeeds that forbids an
event a connect and then a `confirm-no-emit` do. -/
theorem Reachable.watch_from_opening (reachable : Reachable t) (forward : Transports.Forward ω)
    (a : ConnectWatchAction) :
    (∀ action kind, action.compound? = some (kind, a) →
      let flight := t.flights.length
      let handle := t.client.channels.length
      let opened := t.step (.dispatch action)
      handle < opened.client.channels.length →
      ∀ early, Forward opened early → FirstAfter (Records handle) opened early →
      let started := opened.run early
      ∀ late, Forward started late →
      let t' := started.run late
      let w := t.client.compoundWatch kind a
      let start := started.client.now
      let first := w.before? (start + w.limit)
        (occurrences handle [a.event] (t'.client.history.drop t.client.history.length))
      t'.EndsAt flight (w.verdict first) (max start (first.elim (start + w.limit) Occurrence.time))
        (Prompt flight started late)) ∧
    (∀ beats,
      Forward (t.step (.dispatch (.connectAndAwaitEmit a)))
        (beats.map (Beat.event t.flights.length)) →
      (t.inTwo (.connect a.connect) (.awaitEmit a.watch) beats).succeeds (t.flights.length + 1) →
      (t.inOne (.connectAndAwaitEmit a) beats).succeeds t.flights.length) ∧
    ∀ beats,
      Forward (t.step (.dispatch (.connectAndConfirmNoEmit a)))
        (beats.map (Beat.event t.flights.length)) →
      (t.inOne (.connectAndConfirmNoEmit a) beats).succeeds t.flights.length →
      (t.inTwo (.connect a.connect) (.confirmNoEmit a.watch) beats).succeeds
        (t.flights.length + 1) := by
  refine ⟨?_, ?_, ?_⟩
  · intro action kind compound flight handle opened opens early ahead records started late later
    have all : ∀ o, kind.counts o = true := by
      cases action with
      | connectAndAwaitEmit | connectAndConfirmNoEmit =>
        cases compound
        exact fun _ => rfl
      | _ => cases compound
    have begun := reachable.begun forward compound all opens ahead records
    exact begun.endsAt ((reachable.step _).run early) forward later
  · intro beats ahead
    exact (paced_run reachable forward rfl (fun _ => rfl) rfl beats ahead).expect rfl
  · intro beats ahead
    exact (paced_run reachable forward rfl (fun _ => rfl) rfl beats ahead).forbid rfl

/-- A tab whose servers dispatch `hello` on every channel that connects. -/
def welcomed : Tab Scenario.Servers :=
  connected.step
    (.pass { connected.client.world with behavior := { welcome := [⟨"hello", []⟩] } } 0)

/-- A welcome inside the call to connect ends the watch at once. One more, on the same schedule, is
what a second action waits for; nothing else is dispatched in the time of the watches. -/
theorem watch_from_opening_welcome :
    let greeted : ConnectWatchAction := { event := "hello", timeout := some (.fixed 10) }
    let quiet : ConnectWatchAction := { event := "bye", timeout := some (.fixed 10) }
    let later : Scenario.Servers := { welcomed.client.world with now := 10 }
    (∃ e : SocketEvent, e.name = "hello" ∧
      (welcomed.step (.dispatch (.connectAndAwaitEmit greeted))).flights[2]? =
        some (.actionEnded (.ok (.event e)) 0)) ∧
    (welcomed.inOne (.connectAndAwaitEmit greeted) [.fire 1 ⟨"hello", []⟩, .carryOn]).succeeds 2 ∧
    (welcomed.inTwo (.connect quiet.connect) (.confirmNoEmit quiet.watch)
      [.pass later 0, .carryOn]).succeeds 3 := by
  intro greeted quiet later
  have reachable : Reachable welcomed := connected_reachable.step _
  have number : welcomed.flights.length = 2 := by decide +kernel
  obtain ⟨verdict, expects, -⟩ := reachable.watch_from_opening servers_forward greeted
  obtain ⟨-, -, forbids⟩ := reachable.watch_from_opening servers_forward quiet
  refine ⟨?_, ?_, ?_⟩
  · let opened := welcomed.step (.dispatch (.connectAndAwaitEmit greeted))
    let w := welcomed.client.compoundWatch .expect greeted
    have records : FirstAfter (Records welcomed.client.channels.length) opened [] := by
      show _ ∈ _
      decide +kernel
    have ends := verdict _ _ rfl (by decide +kernel) [] trivial records [] trivial
    have heard : ((w.before? (opened.client.now + w.limit)
        (occurrences welcomed.client.channels.length ["hello"]
          (opened.client.history.drop welcomed.client.history.length))).map
        fun o => (o.event, o.time)) = some ("hello", 0) := by decide +kernel
    obtain ⟨o, first, named⟩ := Option.map_eq_some_iff.mp heard
    obtain ⟨name, arrived⟩ := Prod.mk.inj named
    have start : opened.client.now = 0 := by decide +kernel
    rcases ends with ⟨time, found, -, prompt⟩ | ⟨job, found, -⟩
    · have due := prompt trivial
      have known : w.before? (((opened.run []).client.now) + w.limit)
          (occurrences welcomed.client.channels.length [greeted.event]
            (((opened.run []).run []).client.history.drop welcomed.client.history.length)) =
          some o := first
      rw [known] at due found
      rw [number] at found
      have now : time = 0 := by
        rw [due, Option.elim_some, arrived]
        exact (Nat.max_zero _).trans start
      rw [now] at found
      exact ⟨w.report o, name, found⟩
    · have settled : (opened.flights[welcomed.flights.length]?.any
          fun | .action _ => false | _ => true) = true := by decide +kernel
      have same : opened.flights[welcomed.flights.length]? = some (.action job) := found
      rw [same] at settled
      cases settled
  · have arrives := expects [.fire 1 ⟨"hello", []⟩, .carryOn]
      ⟨by decide +kernel, by decide +kernel, trivial⟩ (by decide +kernel)
    rw [number] at arrives
    exact arrives
  · have stays := forbids [.pass later 0, .carryOn]
      ⟨by decide +kernel, by decide +kernel, trivial⟩ (by decide +kernel)
    rw [number] at stays
    exact stays

end Tab

end LiveSession
