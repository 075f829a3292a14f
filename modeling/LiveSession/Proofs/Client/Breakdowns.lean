import LiveSession.Proofs.Client.FirstFailure
import LiveSession.Proofs.Client.Harvest
import LiveSession.Proofs.Url.Rereading

/-!
# Crawls that break down

A crawl sends its requests all at once, and their answers come at any times and in any order. If the
transports fail fast, the first failure in time ends the crawl at that moment: what was answered before is
cached, and what is answered later is not. `crawl_breaks_down` says so of every run in which the crawl is
alone on its tab and nothing holds it up.
-/

namespace LiveSession

/-- The world behind an event: it changes as time passes. -/
def TabEvent.onto {ω : Type} (w : ω) : TabEvent ω → ω
  | .pass world _ => world
  | _ => w

/-- What had no answer for the action, and when it failed on that. -/
def Flight.unavailable? : Flight → Option (String × Nat)
  | .actionEnded (.error (.transportUnavailable path _)) time => some (path, time)
  | _ => none

namespace Tab

open Client Transports

variable {ω : Type} [Transports ω] {w : ω} {t s : Tab ω} {event : TabEvent ω} {events : List (TabEvent ω)}
  {flight count : Nat} {gets : List (Get ω)} {g : Get ω} {a a' : Answer} {time time' : Nat}
  {cache : Entries String} {page : Page} {e : Error} {arrives arrives' : Arrivals ω}
  {times : Nat → Prop}

/-! ### Fair runs -/

def worldAfter (w : ω) (events : List (TabEvent ω)) : ω :=
  events.foldl TabEvent.onto w

/-- Time does not go back, and no answer that is there is lost. -/
def Onward : ω → List (TabEvent ω) → Prop
  | _, [] => True
  | w, event :: events =>
    now w ≤ now (event.onto w) ∧ Keeps w (event.onto w) ∧ Onward (event.onto w) events

/-- The action is alone, nothing holds it up, and the world goes on as time does. -/
structure Fair (flight : Nat) (t : Tab ω) (events : List (TabEvent ω)) : Prop where
  alone : ∀ event ∈ events, event.Alone flight
  onward : Onward t.client.world events
  prompt : Prompt flight t events

theorem run_concat (t : Tab ω) (events : List (TabEvent ω)) (event : TabEvent ω) :
    t.run (events ++ [event]) = (t.run events).step event := by
  unfold run
  rw [List.foldl_concat]

omit [Transports ω] in
theorem worldAfter_concat (w : ω) (events : List (TabEvent ω)) (event : TabEvent ω) :
    worldAfter w (events ++ [event]) = event.onto (worldAfter w events) := by
  unfold worldAfter
  rw [List.foldl_concat]

theorem onward_concat : Onward w (events ++ [event]) ↔ Onward w events ∧
    now (worldAfter w events) ≤ now (event.onto (worldAfter w events)) ∧
      Keeps (worldAfter w events) (event.onto (worldAfter w events)) := by
  induction events generalizing w with
  | nil =>
    constructor
    · exact fun ⟨ahead, keeps, _⟩ => ⟨trivial, ahead, keeps⟩
    · exact fun ⟨_, ahead, keeps⟩ => ⟨ahead, keeps, trivial⟩
  | cons first events ih =>
    refine (and_congr_right fun _ => and_congr_right fun _ => ih).trans ?_
    constructor
    · exact fun ⟨ahead, keeps, onward, last⟩ => ⟨⟨ahead, keeps, onward⟩, last⟩
    · exact fun ⟨⟨ahead, keeps, onward⟩, last⟩ => ⟨ahead, keeps, onward, last⟩

theorem prompt_concat : Prompt flight t (events ++ [event]) ↔
    Prompt flight t events ∧ KeepsTime flight (t.run events) event := by
  induction events generalizing t with
  | nil => exact and_comm
  | cons first events ih => exact (and_congr_right fun _ => ih).trans and_assoc.symm

theorem Fair.init (fair : Fair flight t (events ++ [event])) : Fair flight t events where
  alone := fun event member => fair.alone event (List.mem_append_left _ member)
  onward := (onward_concat.mp fair.onward).1
  prompt := (prompt_concat.mp fair.prompt).1

/-- Behind an action that is alone only the world changes, and only by itself. -/
theorem alone_onto (t : Tab ω) (alone : event.Alone flight) :
    event = .poll flight ∨ (t.step event).client.world = event.onto t.client.world ∧
      t.client.Background (t.step event).client ∧ (t.step event).flights = t.flights := by
  have cases_ := t.alone_cases alone
  cases alone with
  | poll => exact .inl rfl
  | pass world today => exact .inr ⟨rfl, cases_.resolve_left nofun⟩
  | fire channel s =>
    refine .inr ⟨?_, cases_.resolve_left nofun⟩
    show (t.client.deliver channel s).world = t.client.world
    rw [t.client.deliver_eq channel s]
  | listen channel event =>
    refine .inr ⟨?_, cases_.resolve_left nofun⟩
    show (t.listen channel event).client.world = t.client.world
    unfold listen
    split <;> rfl
  | unlisten guest =>
    refine .inr ⟨?_, cases_.resolve_left nofun⟩
    show (t.unlisten guest).client.world = t.client.world
    unfold unlisten
    split
    · rename_i guest _
      obtain ⟨_, _, after⟩ := t.client.release_eq guest.race
      show (t.client.release guest.race).world = t.client.world
      rw [after]
    · rfl

/-! ### Arrivals -/

/-- The answers that are there as the world goes on, with the times at which they are. -/
def Arrives (w : ω) (events : List (TabEvent ω)) : Arrivals ω := fun g a time =>
  ∃ past, past <+: events ∧ now (worldAfter w past) = time ∧
    answer? g.ticket (worldAfter w past) = some a

theorem arrives_nil : Arrives w [] g a time ↔ now w = time ∧ answer? g.ticket w = some a := by
  constructor
  · rintro ⟨past, before, punctual, answered⟩
    cases List.prefix_nil.mp before
    exact ⟨punctual, answered⟩
  · exact fun ⟨punctual, answered⟩ => ⟨[], List.nil_prefix, punctual, answered⟩

theorem arrives_concat : Arrives w (events ++ [event]) g a time ↔
    Arrives w events g a time ∨ now (event.onto (worldAfter w events)) = time ∧
      answer? g.ticket (event.onto (worldAfter w events)) = some a := by
  rw [← worldAfter_concat]
  constructor
  · rintro ⟨past, before, punctual, answered⟩
    rcases List.prefix_concat_iff.mp before with rfl | before
    · exact .inr ⟨punctual, answered⟩
    · exact .inl ⟨past, before, punctual, answered⟩
  · rintro (⟨past, before, punctual, answered⟩ | ⟨punctual, answered⟩)
    · exact ⟨past, before.trans (List.prefix_append _ _), punctual, answered⟩
    · exact ⟨_, List.prefix_rfl, punctual, answered⟩

theorem arrives_present (world : t.client.world = worldAfter w events)
    (answered : answer? g.ticket t.client.world = some a) :
    Arrives w events g a t.client.now := by
  rw [world] at answered
  exact ⟨events, List.prefix_rfl, congrArg Transports.now world.symm, answered⟩

theorem Arrives.still (arrived : Arrives w events g a time) (onward : Onward w events) :
    answer? g.ticket (worldAfter w events) = some a ∧ time ≤ now (worldAfter w events) := by
  induction events using List.reverseRecOn with
  | nil =>
    obtain ⟨rfl, answered⟩ := arrives_nil.mp arrived
    exact ⟨answered, Nat.le_refl _⟩
  | append_singleton events event ih =>
    obtain ⟨onward, ahead, keeps⟩ := onward_concat.mp onward
    rw [worldAfter_concat]
    rcases arrives_concat.mp arrived with before | ⟨rfl, answered⟩
    · obtain ⟨answered, past⟩ := ih before onward
      exact ⟨keeps _ _ answered, Nat.le_trans past ahead⟩
    · exact ⟨answered, Nat.le_refl _⟩

theorem Arrives.there (arrived : Arrives w events g a time) (onward : Onward w events)
    (world : t.client.world = worldAfter w events) :
    answer? g.ticket t.client.world = some a ∧ time ≤ t.client.now := by
  rw [Client.now, world]
  exact arrived.still onward

theorem Arrives.agree (arrived : Arrives w events g a time) (arrived' : Arrives w events g a' time')
    (onward : Onward w events) : a = a' :=
  Option.some.inj ((arrived.still onward).1.symm.trans (arrived'.still onward).1)

theorem arrives_poll : Arrives w (events ++ [.poll flight]) = Arrives w events := by
  funext g a time
  refine propext (arrives_concat.trans ⟨fun arrived => ?_, .inl⟩)
  rcases arrived with arrived | ⟨punctual, answered⟩
  · exact arrived
  · exact ⟨events, List.prefix_rfl, punctual, answered⟩

/-! ### The course of a crawl -/

/-- A crawl has ended at `time` with the failure of `g`. -/
structure Broken (arrives : Arrivals ω) (flight : Nat) (cache : Entries String) (gets : List (Get ω))
    (g : Get ω) (e : Error) (time : Nat) (t : Tab ω) : Prop where
  member : g ∈ gets
  answered : ∃ a, arrives g a time ∧ a.result = .error e
  /-- No request has failed before. -/
  first : ∀ g' ∈ gets, ∀ a e' time', arrives g' a time' → a.result = .error e' → time ≤ time'
  ended : t.flights[flight]? =
    some (.actionEnded (.error (.transportUnavailable g.url.text e.message)) time)
  /-- What was answered before is cached. -/
  earlier : ∀ g' ∈ gets, ∀ a response time', arrives g' a time' → a.result = .ok response →
    time' < time → t.client.session.cache.find? g'.key = some response.body
  fetched : Fetched (fun g a time' => arrives g a time' ∧ time' ≤ time) gets cache
    t.client.session.cache

/-- A crawl that was started with `cache`: it goes on, or it has succeeded or broken down. Answers that it
waits for are there at some times only. -/
inductive Course (arrives : Arrivals ω) (times : Nat → Prop) (flight count : Nat) (cache : Entries String)
    (gets : List (Get ω)) (t : Tab ω) : Prop
  | going (fs : List Fetch) (found : t.flights[flight]? = some (.action (.crawl ⟨fs, true⟩)))
      (complete : gets.length = count)
      (tracked : List.Forall₂ (Get.Tracked arrives times t.client.session.cache) gets fs)
      (fetched : Fetched arrives gets cache t.client.session.cache)
  | succeeded (o : Outcome) (time : Nat) (found : t.flights[flight]? = some (.actionEnded (.ok o) time))
      (taken : ∀ g ∈ gets, ∃ a response time, arrives g a time ∧ a.result = .ok response)
  | broken (g : Get ω) (e : Error) (time : Nat) (broken : Broken arrives flight cache gets g e time t)

/-! ### A step -/

theorem tracked_later {c : Client ω} {now now' : Nat} {fs : List Fetch}
    (still : now' = now ∨ ∀ f ∈ fs, c.isFetchReady f = false)
    (there : ∀ g a time, arrives g a time → answer? g.ticket c.world = some a)
    (more : ∀ g a time, arrives g a time → arrives' g a time)
    (new : ∀ g a time, arrives' g a time → arrives g a time ∨ now' = time)
    (tracked : List.Forall₂ (Get.Tracked arrives (· = now) cache) gets fs) :
    List.Forall₂ (Get.Tracked arrives' (· = now') cache) gets fs := by
  induction tracked with
  | nil => exact .nil
  | @cons g _ gets _ first _ ih =>
    refine .cons ?_ (ih (still.imp_right fun unready f member => unready f (List.mem_cons_of_mem _ member)))
    cases first with
    | taken taken =>
      obtain ⟨a, response, time, arrived, ok, found⟩ := taken
      exact .taken ⟨a, response, time, more g a time arrived, ok, found⟩
    | waits fresh =>
      refine .waits fun a time arrived' => ?_
      rcases new g a time arrived' with arrived | same
      · rcases still with same | unready
        · exact (fresh a time arrived).trans same.symm
        -- An answer that is there makes the fetch ready.
        · have ready := unready _ List.mem_cons_self
          rw [isFetchReady] at ready
          dsimp only at ready
          rw [there g a time arrived] at ready
          cases ready
      · exact same.symm

theorem Broken.later {t' : Tab ω} (broken : Broken arrives flight cache gets g e time t)
    (session : t'.client.session = t.client.session) (flights : t'.flights = t.flights)
    (past : time ≤ t'.client.now) (more : ∀ g a time, arrives g a time → arrives' g a time)
    (new : ∀ g a time, arrives' g a time → arrives g a time ∨ t'.client.now = time) :
    Broken arrives' flight cache gets g e time t' where
  member := broken.member
  answered := by
    obtain ⟨a, arrived, failed⟩ := broken.answered
    exact ⟨a, more g a time arrived, failed⟩
  first := fun g' member a e' time' arrived failed => by
    rcases new g' a time' arrived with before | rfl
    · exact broken.first g' member a e' time' before failed
    · exact past
  ended := flights ▸ broken.ended
  earlier := fun g' member a response time' arrived ok early => by
    rw [session]
    rcases new g' a time' arrived with before | rfl
    · exact broken.earlier g' member a response time' before ok early
    · exact absurd early (Nat.not_lt.mpr past)
  fetched := by
    rw [session]
    exact broken.fetched.mono fun g a time' both => ⟨more g a time' both.1, both.2⟩

theorem Course.later (onward : Onward w (events ++ [event]))
    (course : Course (Arrives w events) (· = t.client.now) flight count cache gets t)
    (world : t.client.world = worldAfter w events)
    (onto : (t.step event).client.world = event.onto t.client.world)
    (behind : t.client.Background (t.step event).client) (flights : (t.step event).flights = t.flights)
    (keeps : KeepsTime flight t event) :
    Course (Arrives w (events ++ [event])) (· = (t.step event).client.now) flight count cache gets
      (t.step event) := by
  obtain ⟨onward, ahead, -⟩ := onward_concat.mp onward
  have now_eq : (t.step event).client.now = now (event.onto (worldAfter w events)) := by
    rw [Client.now, onto, world]
  have there (g : Get ω) (a : Answer) (time : Nat) (arrived : Arrives w events g a time) :=
    arrived.there onward world
  have more (g : Get ω) (a : Answer) (time : Nat) (arrived : Arrives w events g a time) :
      Arrives w (events ++ [event]) g a time := arrives_concat.mpr (.inl arrived)
  have new (g : Get ω) (a : Answer) (time : Nat) (arrived : Arrives w (events ++ [event]) g a time) :
      Arrives w events g a time ∨ (t.step event).client.now = time := by
    rcases arrives_concat.mp arrived with before | ⟨punctual, -⟩
    · exact .inl before
    · exact .inr (now_eq.trans punctual)
  cases course with
  | going fs found complete tracked fetched =>
    refine .going fs (flights ▸ found) complete ?_ ?_
    · rw [behind.session]
      have still : (t.step event).client.now = t.client.now ∨
          ∀ f ∈ fs, t.client.isFetchReady f = false := by
        rcases keeps _ found with same | ⟨-, unready, -⟩
        · exact .inl same
        · refine .inr fun f member => ?_
          exact Bool.eq_false_iff.mpr (List.any_eq_false.mp unready f member)
      exact tracked_later still (fun g a time arrived => (there g a time arrived).1) more new tracked
    · rw [behind.session]
      exact fetched.mono more
  | succeeded o time found taken =>
    refine .succeeded o time (flights ▸ found) fun g member => ?_
    obtain ⟨a, response, time, arrived, ok⟩ := taken g member
    exact ⟨a, response, time, more g a time arrived, ok⟩
  | broken g e time broken =>
    obtain ⟨a, arrived, -⟩ := broken.answered
    have past : time ≤ (t.step event).client.now := by
      rw [now_eq]
      exact Nat.le_trans (arrived.still onward).2 ahead
    exact .broken g e time (broken.later behind.session flights past more new)

omit [Transports ω] in
theorem cached_of_taken {cache' : Entries String} (distinct : (gets.map Get.key).Nodup)
    (agree : ∀ g a a' time time', arrives g a time → arrives g a' time' → a = a')
    (fetched : Fetched arrives gets cache cache') (member : g ∈ gets) (taken : g.Taken arrives cache)
    {response : HttpResponse} (arrived : arrives g a time) (ok : a.result = .ok response) :
    cache'.find? g.key = some response.body := by
  have body {cache : Entries String} (taken : g.Taken arrives cache) :
      cache.find? g.key = some response.body := by
    -- What was taken is the body of the same answer.
    obtain ⟨a', response', time', arrived', ok', found⟩ := taken
    cases agree g a a' time time' arrived arrived'
    cases ok.symm.trans ok'
    exact found
  rcases fetched g.key with same | ⟨g', member', named, taken'⟩
  · exact same.trans (body taken)
  · cases List.inj_on_of_nodup_map distinct member' member named
    exact body taken'

omit [Transports ω] in
theorem broken_of_fails {now : Nat} {cache' : Entries String} {result : Except Error (List Fetch)}
    (distinct : (gets.map Get.key).Nodup)
    (agree : ∀ g a a' time time', arrives g a time → arrives g a' time' → a = a')
    (past : ∀ g a time, arrives g a time → time ≤ now)
    (known : ∀ g ∈ gets, (∀ a time, arrives g a time → time = now) ∨ g.Taken arrives cache')
    (before : Fetched arrives gets cache cache') (fetched : Fetched arrives gets cache' t.client.session.cache)
    (fails : Fails arrives now gets result)
    (ended : ∀ e, result = .error e → t.flights[flight]? = some (.actionEnded (.error e) now)) :
    ∃ g e, Broken arrives flight cache gets g e now t := by
  obtain ⟨g, member, a, e, arrived, failed, is⟩ := fails
  refine ⟨g, e, member, ⟨a, arrived, failed⟩, ?_, ended _ is, ?_, ?_⟩
  · intro g' member' a' e' time' arrived' failed'
    rcases known g' member' with fresh | ⟨a'', response, time'', there, ok, -⟩
    · exact Nat.le_of_eq (fresh a' time' arrived').symm
    · cases agree g' a' a'' time' time'' arrived' there
      cases failed'.symm.trans ok
  · intro g' member' a' response time' arrived' ok early
    rcases known g' member' with fresh | taken
    · exact absurd (fresh a' time' arrived') (Nat.ne_of_lt early)
    · exact cached_of_taken distinct agree fetched member' taken arrived' ok
  · exact (before.trans fetched).mono fun g a time arrived => ⟨arrived, past g a time arrived⟩

omit [Transports ω] in
theorem course_leftOf {fs : List Fetch} {now : Nat}
    (found : t.flights[flight]? = some (.ofProgress now (leftOf true (.ok fs))))
    (complete : gets.length = count)
    (tracked : List.Forall₂ (Get.Tracked arrives times t.client.session.cache) gets fs)
    (fetched : Fetched arrives gets cache t.client.session.cache) :
    Course arrives times flight count cache gets t := by
  unfold leftOf at found
  dsimp only at found
  split at found
  · rename_i loaded
    refine .succeeded _ now found fun g member => ?_
    obtain ⟨a, response, time, arrived, ok, -⟩ := taken_of_tracked tracked loaded g member
    exact ⟨a, response, time, arrived, ok⟩
  · exact .going fs found complete tracked fetched

theorem Course.poll (fast : FailsFast ω count) (distinct : (gets.map Get.key).Nodup)
    (onward : Onward w events) (world : t.client.world = worldAfter w events)
    (course : Course (Arrives w events) (· = t.client.now) flight count cache gets t) :
    (t.step (.poll flight)).client.world = t.client.world ∧
      Course (Arrives w events) (fun _ => False) flight count cache gets (t.step (.poll flight)) := by
  cases course with
  | succeeded o time found taken =>
    rw [step, poll_ended found]
    exact ⟨rfl, .succeeded o time found taken⟩
  | broken g e time broken =>
    rw [step, poll_ended broken.ended]
    exact ⟨rfl, .broken g e time broken⟩
  | going fs found complete tracked fetched =>
    have there (g : Get ω) (a : Answer) (time : Nat) (arrived : Arrives w events g a time) :=
      arrived.there onward world
    have length : fs.length = count := tracked.length_eq.symm.trans complete
    have polled : t.client.poll (.crawl ⟨fs, true⟩) = _ :=
      pollCrawlJob_eq true (length ▸ fast) (unfailed_of_tracked tracked)
    have client : (t.step (.poll flight)).client = (t.client.pollToFailure true fs).1 := by
      rw [step, poll_action found, polled]
    have after : (t.step (.poll flight)).flights[flight]? = some (.ofProgress
        (t.step (.poll flight)).client.now (leftOf true (t.client.pollToFailure true fs).2)) := by
      rw [client, step, poll_action found, polled]
      exact List.getElem?_set_self (List.getElem?_eq_some_iff.mp found).1
    obtain ⟨same, fetched', outcome⟩ := pollToFailure_tracked distinct (fun g a => arrives_present world)
      (fun g a time arrived => (there g a time arrived).1) tracked
    rw [← client] at same fetched' outcome
    refine ⟨same, ?_⟩
    rcases outcome with ⟨fs', all, tracked'⟩ | fails
    · rw [all] at after
      exact course_leftOf after complete tracked' (fetched.trans fetched')
    · have punctual : (t.step (.poll flight)).client.now = t.client.now := congrArg Transports.now same
      have ended (e : Error) (failed : (t.client.pollToFailure true fs).2 = .error e) :
          (t.step (.poll flight)).flights[flight]? = some (.actionEnded (.error e) t.client.now) := by
        rw [after, failed, punctual]
        rfl
      obtain ⟨g, e, broken⟩ := broken_of_fails distinct
        (fun _ _ _ _ _ arrived arrived' => arrived.agree arrived' onward)
        (fun g a time arrived => (there g a time arrived).2) (fun g member => tracked_cases tracked member)
        fetched fetched' fails ended
      exact .broken g e _ broken

/-! ### A run -/

omit [Transports ω] in
theorem Course.anytime (course : Course arrives (fun _ => False) flight count cache gets t) :
    Course arrives times flight count cache gets t := by
  cases course with
  | going fs found complete tracked fetched =>
    refine .going fs found complete (tracked.imp fun g f tracked => ?_) fetched
    cases tracked with
    | waits fresh => exact .waits fun a time arrived => (fresh a time arrived).elim
    | taken taken => exact .taken taken
  | succeeded o time found taken => exact .succeeded o time found taken
  | broken g e time broken => exact .broken g e time broken

theorem Course.run (fast : FailsFast ω count) (distinct : (gets.map Get.key).Nodup)
    (fair : Fair flight s events)
    (course : Course (Arrives s.client.world []) (· = s.client.now) flight count cache gets s) :
    (s.run events).client.world = worldAfter s.client.world events ∧
      Course (Arrives s.client.world events) (· = (s.run events).client.now) flight count cache gets
        (s.run events) := by
  induction events using List.reverseRecOn with
  | nil => exact ⟨rfl, course⟩
  | append_singleton events event ih =>
    -- A poll leaves the world as it is, anything else the session.
    obtain ⟨world, before⟩ := ih fair.init
    rw [run_concat, worldAfter_concat, ← world]
    rcases (s.run events).alone_onto (fair.alone event (by simp)) with rfl | ⟨onto, behind, flights⟩
    · obtain ⟨same, polled⟩ := before.poll fast distinct fair.init.onward world
      rw [arrives_poll]
      exact ⟨same, polled.anytime⟩
    · have keeps := (prompt_concat.mp fair.prompt).2
      exact ⟨onto, before.later fair.onward world onto behind flights keeps⟩

omit [Transports ω] in
theorem Course.exists_broken (course : Course arrives (fun _ => False) flight count cache gets t)
    (agree : ∀ g a a' time time', arrives g a time → arrives g a' time' → a = a') (member : g ∈ gets)
    (arrived : arrives g a time) (failed : a.result = .error e) :
    ∃ g e time, Broken arrives flight cache gets g e time t := by
  have untaken {a' : Answer} {response : HttpResponse} {time' : Nat} (arrived' : arrives g a' time')
      (ok : a'.result = .ok response) : False := by
    cases agree g a a' time time' arrived arrived'
    cases failed.symm.trans ok
  -- A poll leaves no fetch waiting for an answer that is there.
  cases course with
  | going fs found complete tracked fetched =>
    rcases tracked_cases tracked member with fresh | ⟨a', response, time', arrived', ok, -⟩
    · exact (fresh a time arrived).elim
    · exact (untaken arrived' ok).elim
  | succeeded o ended found taken =>
    obtain ⟨a', response, time', arrived', ok⟩ := taken g member
    exact (untaken arrived' ok).elim
  | broken g e time broken => exact ⟨g, e, time, broken⟩

/-! ### The start -/

/-- What a crawl of these candidates has sent, `s` being the tab when it was started: a request for each of
them, in their order, unless one failed at once. -/
structure Sent (t : Tab ω) (candidates : List Assets.Candidate) (gets : List (Get ω)) (s : Tab ω) : Prop where
  targets : gets.map (fun g => (g.key, g.url)) <+: candidates
  are : ∀ g ∈ gets, g.IsFor t.client.profile.baseUrl
  issued : Get.Issued t.client.world gets
  complete : gets.length = candidates.length ∨
    ∃ g ∈ gets, ∃ a e, Arrives s.client.world [] g a t.client.now ∧ a.result = .error e

theorem Sent.distinct {b : CrawlAction} (sent : Sent t (t.client.candidates page b) gets s) :
    (gets.map Get.key).Nodup := by
  have keys := sent.targets.sublist.map Prod.fst
  rw [List.map_map] at keys
  exact keys.nodup (Assets.candidates_nodup _ _ _ _)

/-- A candidate has a URL whose text cannot be read again, so that no request can be sent for it. -/
def Unreadable (base : Url) (candidates : List Assets.Candidate) (fault : Url.Fault) : Prop :=
  ∃ f ∈ candidates, base.join f.2.text = .error fault

/-- A candidate is on a host whose name, as it is sent, is not read again. -/
def Unnamed (candidates : List Assets.Candidate) : Prop :=
  ∃ f ∈ candidates, ∃ name, f.2.host = some (.domain name) ∧ Idna.toAscii? name.toList = none

omit [Transports ω] in
/-- On a page over HTTP only such a host keeps a text from being read again. -/
theorem Unreadable.unnamed {b : CrawlAction} {base : Url} {fault : Url.Fault}
    (unreadable : Unreadable base (t.client.candidates page b) fault) (canonical : page.url.Canonical) :
    Unnamed (t.client.candidates page b) := by
  obtain ⟨f, member, unread⟩ := unreadable
  obtain ⟨reference, referenced, joined⟩ := Assets.candidate_referenced member
  have kept := (List.mem_filter.mp (Assets.mem_of_mem_firstsBy referenced)).2
  have resolved := Assets.canonical_join canonical (Bool.and_eq_true_iff.mp kept).1 joined
  exact ⟨f, member, Url.unread_text resolved unread⟩

theorem course_start {b : CrawlAction} (caches : b.cache = true)
    (current : t.client.session.page = some page) (instant : Instant ω)
    (fast : FailsFast ω (t.client.candidates page b).length)
    (started : t.step (.dispatch (.loadStaticAssets b)) = s) :
    (∃ fault, Unreadable t.client.profile.baseUrl (t.client.candidates page b) fault ∧
        s.flights[t.flights.length]? = some (.actionEnded (.error (.url fault)) t.client.now)) ∨
      ∃ gets, Sent t (t.client.candidates page b) gets s ∧
        Course (Arrives s.client.world []) (· = s.client.now) t.flights.length (t.client.candidates page b).length
          t.client.session.cache gets s := by
  let fs : List Fetch := t.client.fetches page b
  have length : fs.length = (t.client.candidates page b).length := List.length_map _
  have pairs : fs.map (fun f => (f.key, f.url)) = t.client.candidates page b := t.client.map_fetches page b
  have unsent : ∀ f ∈ fs, f.status = .unsent := fun _ => unsent_of_mem_fetches
  have sound : ∀ f ∈ fs, f.failure? = none := fun f member => by
    rw [Fetch.failure?, unsent f member]
  have launched : t.launch (t.client.pollCrawlJob ⟨fs, true⟩) = s := by
    rw [← started]
    show _ = t.launch (t.client.pollCrawlJob (t.client.crawlOf b))
    rw [crawlOf_page current, caches]
  rw [pollCrawlJob_eq true (length ▸ fast) sound] at launched
  have client : s.client = (t.client.pollToFailure true fs).1 := by rw [← launched]; rfl
  have found : s.flights[t.flights.length]? =
      some (.ofProgress s.client.now (leftOf true (t.client.pollToFailure true fs).2)) := by
    rw [client, ← launched]
    exact List.getElem?_concat_length
  have fresh (g : Get ω) (a : Answer) (time : Nat) (arrived : Arrives s.client.world [] g a time) :
      time = s.client.now := (arrives_nil.mp arrived).1.symm
  have present (g : Get ω) (a : Answer)
      (answered : answer? g.ticket (t.client.pollToFailure true fs).1.world = some a) :
      Arrives s.client.world [] g a s.client.now := by
    rw [← client] at answered
    exact arrives_nil.mpr ⟨rfl, answered⟩
  obtain ⟨punctual, -, outcome⟩ := pollToFailure_unsent instant unsent (t.client.nodup_fetches page b)
    fresh present
  have punctual : s.client.now = t.client.now := by
    rwa [← client] at punctual
  rcases outcome with ⟨f, member, fault, unread, failed⟩ | ⟨gets, requested⟩
  · have among : (f.key, f.url) ∈ fs.map fun f => (f.key, f.url) := List.mem_map_of_mem member
    rw [pairs] at among
    refine .inl ⟨fault, ⟨_, among, unread⟩, ?_⟩
    rw [found, failed, punctual]
    rfl
  · have targets := requested.targets
    have fetched := requested.fetched
    rw [pairs] at targets
    rw [← client] at fetched
    refine .inr ⟨gets, ?_⟩
    rcases requested.outcome with ⟨all, fs', after, tracked⟩ | fails
    · have complete := all.trans length
      rw [after] at found
      rw [← client] at tracked
      exact ⟨⟨targets, requested.are, requested.issued, .inl complete⟩,
        course_leftOf found complete tracked fetched⟩
    · have failing : ∃ g ∈ gets, ∃ a e, Arrives s.client.world [] g a t.client.now ∧ a.result = .error e := by
        obtain ⟨g, member, a, e, arrived, failed, -⟩ := fails
        rw [punctual] at arrived
        exact ⟨g, member, a, e, arrived, failed⟩
      have sent : Sent t (t.client.candidates page b) gets s :=
        ⟨targets, requested.are, requested.issued, .inr failing⟩
      have ended (e : Error) (failed : (t.client.pollToFailure true fs).2 = .error e) :
          s.flights[t.flights.length]? = some (.actionEnded (.error e) s.client.now) := by
        rw [found, failed]
        rfl
      obtain ⟨g, e, broken⟩ := broken_of_fails sent.distinct
        (fun _ _ _ _ _ arrived arrived' => arrived.agree arrived' trivial)
        (fun g a time arrived => Nat.le_of_eq (fresh g a time arrived)) (fun g _ => .inl (fresh g))
        (.refl _ _) fetched fails ended
      exact ⟨sent, .broken g e s.client.now broken⟩

/-! ### Breakdowns -/

/-- What a crawl of these candidates that was started on `t` has done to it when it broke down. -/
structure BreaksDown (arrives : Arrivals ω) (t : Tab ω) (candidates : List Assets.Candidate)
    (gets : List (Get ω)) (g : Get ω) (e : Error) (time : Nat) (t' : Tab ω) : Prop
    extends Broken arrives t.flights.length t.client.session.cache gets g e time t' where
  /-- What is answered later, or never, is not cached. -/
  later : ∀ f ∈ candidates,
    (∀ g' ∈ gets, g'.key = f.1 → ∀ a time', arrives g' a time' → time < time') →
      t'.client.session.cache.find? f.1 = none
  /-- What was cached before still is. -/
  kept : ∀ name body, t.client.session.cache.find? name = some body →
    t'.client.session.cache.find? name = some body

omit [Transports ω] in
theorem uncached_of_candidate {b : CrawlAction} {f : Assets.Candidate}
    (member : f ∈ t.client.candidates page b) : t.client.session.cache.find? f.1 = none := by
  have uncached := Assets.candidate_uncached member
  by_contra found
  rw [holds_iff.mpr found] at uncached
  cases uncached

theorem Broken.breaksDown {b : CrawlAction} {t' : Tab ω}
    (sent : Sent t (t.client.candidates page b) gets s)
    (broken : Broken arrives t.flights.length t.client.session.cache gets g e time t') :
    BreaksDown arrives t (t.client.candidates page b) gets g e time t' where
  toBroken := broken
  later := fun f member late => by
    rcases broken.fetched f.1 with same | ⟨g', among, named, a, response, time', ⟨arrived, early⟩, -⟩
    · exact same.trans (uncached_of_candidate member)
    · exact absurd early (Nat.not_le.mpr (late g' among named a time' arrived))
  kept := fun name body cached => by
    rcases broken.fetched name with same | ⟨g', among, rfl, -⟩
    · exact same.trans cached
    · have candidate := sent.targets.subset (List.mem_map_of_mem among)
      rw [uncached_of_candidate candidate] at cached
      cases cached

/-- A crawl that caches, alone on its tab, over transports that fail fast: if one of its requests has failed
by the end of a run, the crawl has broken down with one that failed first, when it did. That transports fail
fast is an assumption on how many requests there are: `Servers`, which waits for more than `groupLimit` of them
in their order, fails fast up to that number and no further, by `Servers.failsFast_iff`. -/
theorem crawl_breaks_down (t : Tab ω) (b : CrawlAction) (caches : b.cache = true)
    (current : t.client.session.page = some page) (instant : Instant ω)
    (fast : FailsFast ω (t.client.candidates page b).length) (events : List (TabEvent ω))
    (fair : Fair t.flights.length (t.step (.dispatch (.loadStaticAssets b))) events) :
    let s := t.step (.dispatch (.loadStaticAssets b))
    (∃ fault, Unreadable t.client.profile.baseUrl (t.client.candidates page b) fault ∧
        (page.url.Canonical → Unnamed (t.client.candidates page b)) ∧
        s.flights[t.flights.length]? = some (.actionEnded (.error (.url fault)) t.client.now)) ∨
      ∃ gets, Sent t (t.client.candidates page b) gets s ∧
        ∀ g ∈ gets, ∀ a e time, Arrives s.client.world events g a time → a.result = .error e →
          ∃ g e time, BreaksDown (Arrives s.client.world events) t (t.client.candidates page b) gets g e time
            ((s.run events).step (.poll t.flights.length)) := by
  intro s
  rcases course_start caches current instant fast (s := s) rfl with
    ⟨fault, unreadable, ended⟩ | ⟨gets, sent, course⟩
  · exact .inl ⟨fault, unreadable, unreadable.unnamed, ended⟩
  · refine .inr ⟨gets, sent, fun g member a e time arrived failed => ?_⟩
    obtain ⟨world, course⟩ := course.run fast sent.distinct fair
    obtain ⟨-, polled⟩ := course.poll fast sent.distinct fair.onward world
    obtain ⟨g, e, time, broken⟩ := polled.exists_broken
      (fun _ _ _ _ _ arrived arrived' => arrived.agree arrived' fair.onward) member arrived failed
    exact ⟨g, e, time, broken.breaksDown sent⟩

open Scenario in
/-- Three scripts; the second is refused after 7 ms, when the first has come but not the third. -/
theorem crawl_breaks_down_refused :
    let t₀ := visiting "<script src='/a.js'></script><script src='/b.js'></script><script src='/c.js'></script>"
    let routes : List Route := [{ path := "/a.js", ms := some 5 },
      { path := "/b.js", ms := some 7, down := true }, { path := "/c.js", ms := some 9 }]
    let t := t₀.step (.pass { t₀.client.world with routes } 0)
    let flight := t.flights.length
    let s := t.step (.dispatch (.loadStaticAssets {}))
    let events : List (TabEvent Servers) :=
      [.pass { s.client.world with now := 5 } 0, .poll flight, .pass { s.client.world with now := 7 } 0,
        .poll flight, .pass { s.client.world with now := 9 } 0]
    ∃ page gets g e, t.client.session.page = some page ∧ g.url.text = "http://localhost/b.js" ∧
      BreaksDown (Arrives s.client.world events) t (t.client.candidates page {}) gets g e 7
        ((s.run events).step (.poll flight)) := by
  intro t₀ routes t flight s events
  have loaded : (t.client.session.page.any fun page =>
      decide ((t.client.candidates page {}).length = 3)) = true := by decide +kernel
  obtain ⟨page, current, three⟩ := (Option.any_eq_true _ _).mp loaded
  have three : (t.client.candidates page {}).length = 3 := of_decide_eq_true three
  have fast : FailsFast Servers (t.client.candidates page {}).length := by
    rw [three]
    exact (Servers.failsFast_iff 3).mpr (by decide)
  let at_ (time : Nat) : Servers := { s.client.world with now := time }
  have keeps {now₁ now₂ : Nat} (later : now₁ ≤ now₂) : Keeps (at_ now₁) (at_ now₂) :=
    Servers.keeps_of_later rfl later
  let idle (t : Tab Servers) : Bool := t.flights[flight]?.all fun
    | .action job => !t.client.isReady job && job.deadline?.isNone
    | _ => true
  -- All that is computed, in one go.
  obtain ⟨start, idle₀, same₁, idle₂, same₃, idle₄, refused, going, ended⟩ :
      s.client.world.now = 0 ∧ idle s = true ∧
        (s.run (events.take 2)).client.now = (s.run (events.take 1)).client.now ∧
        idle (s.run (events.take 2)) = true ∧
        (s.run (events.take 4)).client.now = (s.run (events.take 3)).client.now ∧
        idle (s.run (events.take 4)) = true ∧
        ((answer? (t.client.world.promises.length + 1) (at_ 7)).any fun a => !a.result.toBool) = true ∧
        (s.flights[flight]?.any fun | .action _ => true | _ => false) = true ∧
        (((s.run events).step (.poll flight)).flights[flight]?.bind Flight.unavailable?) =
          some ("http://localhost/b.js", 7) := by decide +kernel
  have onward : Onward s.client.world events := by
    have ahead : s.client.world.now ≤ 5 := by omega
    exact ⟨ahead, Servers.keeps_of_later rfl ahead, Nat.le_refl 5, keeps (by decide), by decide,
      keeps (by decide), Nat.le_refl 7, keeps (by decide), by decide, keeps (by decide), trivial⟩
  have prompt : Prompt flight s events := by
    have waits (t : Tab Servers) (world : Servers) (rests : idle t = true) :
        KeepsTime flight t (.pass world 0) := by
      intro job found
      dsimp only [idle] at rests
      rw [found] at rests
      obtain ⟨unready, endless⟩ := Bool.and_eq_true_iff.mp rests
      refine .inr ⟨⟨world, 0, rfl⟩, by simpa using unready, fun deadline due => ?_⟩
      rw [Option.mem_def.mp due] at endless
      cases endless
    exact ⟨waits _ _ idle₀, fun _ _ => .inl same₁, waits _ _ idle₂, fun _ _ => .inl same₃,
      waits _ _ idle₄, trivial⟩
  have alone : ∀ event ∈ events, event.Alone flight := by
    intro event member
    simp only [events, List.mem_cons, List.not_mem_nil, or_false] at member
    rcases member with rfl | rfl | rfl | rfl | rfl
    · exact .pass _ _
    · exact .poll
    · exact .pass _ _
    · exact .poll
    · exact .pass _ _
  rcases crawl_breaks_down t {} rfl current Servers.instant fast events ⟨alone, onward, prompt⟩ with
    ⟨fault, -, -, stopped⟩ | ⟨gets, sent, breaks⟩
  · rw [stopped] at going
    cases going
  · obtain ⟨g, member, a, e, time, arrived, failed⟩ : ∃ g ∈ gets, ∃ a e time,
        Arrives s.client.world events g a time ∧ a.result = .error e := by
      rcases sent.complete with all | ⟨g, member, a, e, ⟨past, before, punctual, answered⟩, failed⟩
      · have within : 1 < gets.length := by omega
        have second : gets[1].ticket = t.client.world.promises.length + 1 :=
          Servers.ticket_of_issued sent.issued (List.getElem?_eq_getElem within)
        obtain ⟨a, answered, failed⟩ := (Option.any_eq_true _ _).mp refused
        cases result : a.result with
        | ok response => simp [result, Except.toBool] at failed
        | error e =>
          rw [← second] at answered
          exact ⟨gets[1], List.getElem_mem within, a, e, 7,
            ⟨events.take 3, List.take_prefix _ _, rfl, answered⟩, result⟩
      · exact ⟨g, member, a, e, _, ⟨past, before.trans List.nil_prefix, punctual, answered⟩, failed⟩
    obtain ⟨g, e, time, broken⟩ := breaks g member a e time arrived failed
    rw [broken.ended] at ended
    obtain ⟨path, rfl⟩ := Prod.mk.inj (Option.some.inj ended)
    exact ⟨page, gets, g, e, current, path, broken⟩

end Tab

end LiveSession
