import LiveSession.Proofs.Client.Chronicle
import LiveSession.Proofs.Client.Coherence

/-!
# One thing after another

On a tab where nothing starts before the last action or script has ended, the session is coherent at
any time. `InOrder` is the invariant: besides a coherent session it says that at most one flight is
not over, and that what it relies on is there. Scripts keep it because their actions do, and because
a script that ends leaves a cleared session.
-/

namespace LiveSession

variable {ω : Type}

namespace Flight

/-- What the flight waits for finds what it relies on. -/
def Fits (c : Client ω) (f : Flight) : Prop := ∀ job, f.job? = some job → job.Fits c

def isOver : Flight → Bool
  | actionEnded .. | scriptEnded .. => true
  | action _ | script _ => false

theorem Fits.of_page {c c' : Client ω} {f : Flight} (fits : f.Fits c)
    (page : c'.session.page = c.session.page)
    (cache : ∀ name ∈ c'.session.cache.names, name ∈ c.session.cache.names) : f.Fits c' :=
  fun job waits => (fits job waits).of_page page cache

theorem fits_ofProgress {c : Client ω} {progress : Progress} (fits : progress.Fits c) (now : Nat) :
    (ofProgress now progress).Fits c := by
  cases progress with
  | done result =>
    intro job waits
    cases waits
  | waiting job =>
    rintro _ ⟨⟩
    exact fits

end Flight

def ScriptProgress.Fits (c : Client ω) : ScriptProgress → Prop
  | .done _ => True
  | .waiting run => (Flight.script run).Fits c

theorem Flight.fits_ofScript {c : Client ω} {progress : ScriptProgress} (fits : progress.Fits c)
    (now : Nat) : (ofScript now progress).Fits c := by
  cases progress with
  | done result =>
    intro job waits
    cases waits
  | waiting run => exact fits

namespace Client

/-- A script has been started or carried on soundly, and can go on in the same way. -/
structure Performed (c : Client ω) (r : Client ω × ScriptProgress) : Prop where
  sound : Sound c r.1
  fits : r.2.Fits r.1

variable {c c' : Client ω}

theorem Sound.performed {r : Client ω × ScriptProgress} (sound : Sound c c')
    (performed : Performed c' r) : Performed c r :=
  ⟨sound.trans performed.sound, performed.fits⟩

theorem session_drawDelay (c : Client ω) (s : Script) (step : ScriptStep) :
    (c.drawDelay s step).1.session = c.session := by
  unfold drawDelay
  split <;> rfl

variable [Transports ω]

theorem performed_endScript (c : Client ω) (result : ScriptResult) :
    Performed c (c.endScript result) :=
  ⟨⟨c.sound_clear.coherent, c.sound_clear.retains⟩, trivial⟩

/-- The induction is on the steps that are still to be taken. -/
theorem performed_runSteps (coherent : c.session.Coherent) (s : Script) (outcomes : List Outcome)
    (steps : List ScriptStep) : Performed c (c.runSteps s outcomes steps) := by
  induction steps generalizing c outcomes with
  | nil => exact c.performed_endScript _
  | cons step rest ih =>
    have drawn := sound_of_session coherent (c.session_drawDelay s step)
    unfold runSteps
    generalize c.drawDelay s step = result at drawn ⊢
    obtain ⟨c₁, delay⟩ := result
    dsimp only at drawn ⊢
    split
    · exact ⟨drawn, fun _ waits => by cases waits⟩
    · obtain ⟨started, fits⟩ := drawn.carried (carried_dispatch drawn.coherent step.action)
      generalize c₁.dispatch step.action = result at started fits ⊢
      obtain ⟨c₂, (e | o) | job⟩ := result
      · exact started.performed (c₂.performed_endScript _)
      · exact started.performed (ih started.coherent _)
      · exact ⟨started, fun _ waits => by cases waits; exact fits⟩

theorem performed_afterStep {r : ScriptRun} {after : Client ω × Progress} (carried : Carried c after) :
    Performed c (afterStep r after) := by
  obtain ⟨c₁, (e | o) | job⟩ := after
  · exact carried.sound.performed (c₁.performed_endScript _)
  · exact carried.sound.performed (performed_runSteps carried.sound.coherent _ _ _)
  · exact ⟨carried.sound, fun _ waits => by cases waits; exact carried.fits⟩

theorem performed_pollScript (coherent : c.session.Coherent) {r : ScriptRun}
    (fits : (Flight.script r).Fits c) : Performed c (c.pollScript r) := by
  unfold pollScript
  cases phase : r.phase with
  | delay action due =>
    dsimp only
    split
    · exact performed_afterStep (carried_dispatch coherent action)
    · exact ⟨sound_of_session coherent rfl, fits⟩
  | act job =>
    have waits : (Flight.script r).job? = some job := by simp only [Flight.job?, phase]
    exact performed_afterStep (carried_poll coherent (fits job waits))

theorem performed_runScript (coherent : c.session.Coherent) (s : Script) :
    Performed c (c.runScript s) := by
  unfold runScript
  split
  · exact ⟨sound_of_session coherent rfl, trivial⟩
  · split
    · exact ⟨sound_of_session coherent rfl, trivial⟩
    · have marked : Sound c { c with running := true } := sound_of_session coherent rfl
      exact marked.performed (performed_runSteps marked.coherent s [] s.steps)

end Client

/-- The event starts something on the session, or clears it. -/
def TabEvent.begins : TabEvent ω → Bool
  | .dispatch _ | .run _ | .clear => true
  | _ => false

namespace Tab

/-- All actions and scripts that were started have ended. -/
def Idle (t : Tab ω) : Prop := ∀ f ∈ t.flights, f.isOver = true

instance (t : Tab ω) : Decidable t.Idle :=
  inferInstanceAs (Decidable (∀ f ∈ t.flights, f.isOver = true))

/-- Nothing begins before everything else has ended. -/
def OneByOne [Transports ω] (t : Tab ω) : List (TabEvent ω) → Prop
  | [] => True
  | event :: events => (event.begins = true → t.Idle) ∧ (t.step event).OneByOne events

instance decidableOneByOne [Transports ω] (t : Tab ω) :
    (events : List (TabEvent ω)) → Decidable (t.OneByOne events)
  | [] => .isTrue trivial
  | event :: events =>
    have := decidableOneByOne (t.step event) events
    inferInstanceAs (Decidable ((event.begins = true → t.Idle) ∧ (t.step event).OneByOne events))

/-- The session is coherent, and fits the only flight that is not over, if there is one. -/
structure InOrder (t : Tab ω) : Prop where
  coherent : t.client.session.Coherent
  current : ∃ flight, ∀ (i : Nat) (f : Flight), t.flights[i]? = some f → f.isOver = false →
    i = flight ∧ f.Fits t.client

variable {t t' : Tab ω} {f : Flight}

namespace InOrder

theorem of_page (h : InOrder t) (coherent : t'.client.session.Coherent)
    (flights : t'.flights = t.flights) (page : t'.client.session.page = t.client.session.page)
    (cache : ∀ name ∈ t'.client.session.cache.names, name ∈ t.client.session.cache.names) :
    InOrder t' := by
  obtain ⟨flight, only⟩ := h.current
  refine ⟨coherent, flight, fun i f found waits => ?_⟩
  rw [flights] at found
  obtain ⟨same, fits⟩ := only i f found waits
  exact ⟨same, fits.of_page page cache⟩

theorem of_session (h : InOrder t) (flights : t'.flights = t.flights)
    (session : t'.client.session = t.client.session) : InOrder t' := by
  refine h.of_page ?_ flights ?_ ?_ <;> rw [session]
  · exact h.coherent
  · exact fun _ member => member

theorem concat {c : Client ω} {guests : List Subscription} (idle : t.Idle)
    (coherent : c.session.Coherent) (fits : f.Fits c) : InOrder ⟨c, t.flights ++ [f], guests⟩ := by
  refine ⟨coherent, t.flights.length, fun i g found waits => ?_⟩
  rw [List.getElem?_append] at found
  split at found
  · rw [idle g (List.mem_of_getElem? found)] at waits
    cases waits
  · obtain ⟨last, rfl⟩ := List.getElem?_eq_some_iff.mp found
    simp only [List.length_singleton, Nat.lt_one_iff] at last
    refine ⟨by omega, ?_⟩
    simpa [last] using fits

theorem set (h : InOrder t) {flight : Nat} {before : Flight}
    (found : t.flights[flight]? = some before) (waits : before.isOver = false) {c : Client ω}
    {guests : List Subscription} (coherent : c.session.Coherent) (fits : f.Fits c) :
    InOrder ⟨c, t.flights.set flight f, guests⟩ := by
  obtain ⟨current, only⟩ := h.current
  obtain ⟨rfl, -⟩ := only flight before found waits
  refine ⟨coherent, flight, fun i g present goes => ?_⟩
  by_cases same : i = flight
  · subst same
    rw [List.getElem?_set_self (List.getElem?_eq_some_iff.mp found).1] at present
    cases present
    exact ⟨rfl, fits⟩
  · rw [List.getElem?_set_ne (Ne.symm same)] at present
    exact absurd (only i g present goes).1 same

variable [Transports ω]

theorem poll (h : InOrder t) (flight : Nat) :
    InOrder (t.poll flight) ∧ t.client.session.Retains (t.poll flight).client.session := by
  obtain ⟨current, only⟩ := h.current
  unfold Tab.poll
  split
  · rename_i job found
    obtain ⟨sound, fits⟩ := Client.carried_poll h.coherent ((only flight _ found rfl).2 job rfl)
    exact ⟨h.set found rfl sound.coherent (Flight.fits_ofProgress fits _), sound.retains⟩
  · rename_i run found
    obtain ⟨sound, fits⟩ := Client.performed_pollScript h.coherent (only flight _ found rfl).2
    exact ⟨h.set found rfl sound.coherent (Flight.fits_ofScript fits _), sound.retains⟩
  · exact ⟨h, .refl _⟩

theorem step (h : InOrder t) {event : TabEvent ω} (idle : event.begins = true → t.Idle) :
    InOrder (t.step event) ∧
      (event ≠ .clearCache → t.client.session.Retains (t.step event).client.session) := by
  have unseen (flight : Nat) (alone : event.Alone flight) (other : event ≠ .poll flight) :
      InOrder (t.step event) ∧
        (event ≠ .clearCache → t.client.session.Retains (t.step event).client.session) := by
    obtain ⟨behind, flights⟩ := (t.alone_cases alone).resolve_left other
    refine ⟨h.of_session flights behind.session, fun _ => ?_⟩
    rw [behind.session]
    exact .refl _
  cases event with
  | dispatch action =>
    obtain ⟨sound, fits⟩ := Client.carried_dispatch h.coherent action
    exact ⟨concat (idle rfl) sound.coherent (Flight.fits_ofProgress fits _), fun _ => sound.retains⟩
  | run script =>
    obtain ⟨sound, fits⟩ := Client.performed_runScript h.coherent script
    exact ⟨concat (idle rfl) sound.coherent (Flight.fits_ofScript fits _), fun _ => sound.retains⟩
  | poll flight => exact (h.poll flight).imp_right fun retains _ => retains
  | clear =>
    have cleared := t.client.sound_clear
    refine ⟨⟨cleared.coherent, t.flights.length, fun i f found waits => ?_⟩, fun _ => cleared.retains⟩
    rw [idle rfl f (List.mem_of_getElem? found)] at waits
    cases waits
  | clearCache =>
    refine ⟨h.of_page (h.coherent.of_cache []) rfl rfl nofun, fun other => ?_⟩
    exact absurd rfl other
  | setCookie | removeCookie => exact ⟨h.of_session rfl rfl, fun _ => .refl _⟩
  | fire channel s => exact unseen t.flights.length (.fire channel s) nofun
  | pass world today => exact unseen t.flights.length (.pass world today) nofun
  | listen channel e => exact unseen t.flights.length (.listen channel e) nofun
  | unlisten guest => exact unseen t.flights.length (.unlisten guest) nofun

theorem run (h : InOrder t) {events : List (TabEvent ω)} (oneByOne : t.OneByOne events) :
    InOrder (t.run events) ∧
      (.clearCache ∉ events → t.client.session.Retains (t.run events).client.session) := by
  induction events generalizing t with
  | nil => exact ⟨h, fun _ => .refl _⟩
  | cons event events ih =>
    obtain ⟨idle, oneByOne⟩ := oneByOne
    obtain ⟨first, kept⟩ := h.step idle
    obtain ⟨all, retains⟩ := ih first oneByOne
    refine ⟨all, fun uncleared => ?_⟩
    rw [List.mem_cons, not_or] at uncleared
    exact (kept (Ne.symm uncleared.1)).trans (retains uncleared.2)

end InOrder

variable [Transports ω]

/-- The tabs that come about from one without pages, channels and cookies, where nothing begins
before everything else has ended. -/
inductive Sequential : Tab ω → Prop where
  | fresh (profile : Profile) (world : ω) (today : Int) (sources : Sources) :
      Sequential { client := { profile, world, today, sources } }
  | step {t : Tab ω} (event : TabEvent ω) (idle : event.begins = true → t.Idle) :
      Sequential t → Sequential (t.step event)

namespace Sequential

theorem reachable (h : Sequential t) : Reachable t := by
  induction h with
  | fresh profile world today sources => exact .fresh profile world today sources
  | step event _ _ ih => exact ih.step event

theorem inOrder (h : Sequential t) : InOrder t := by
  induction h with
  | fresh => exact ⟨⟨nofun, nofun⟩, 0, fun _ _ found => by cases found⟩
  | step event idle _ ih => exact (ih.step idle).1

theorem run (h : Sequential t) {events : List (TabEvent ω)} (oneByOne : t.OneByOne events) :
    Sequential (t.run events) := by
  induction events generalizing t with
  | nil => exact h
  | cons event events ih => exact ih (h.step event oneByOne.1) oneByOne.2

/-- What a session remembers, if one thing is done after another on its tab. -/
theorem session_coherent (h : Sequential t) :
    (t.client.session.ajax.isSome = true → t.client.session.page.isSome = true) ∧
      (∀ e, t.client.session.event = some e → ∃ page channel,
        t.client.session.page = some page ∧ page.channels.find? e.ns = some channel) ∧
      (∀ page, t.client.session.page = some page → ∀ entry ∈ page.channels,
        entry.1 = entry.2.ns ∧ (page.id, entry.2) ∈ t.client.openings ∧
          entry.2.config.autoConnect = false) ∧
      ∀ later, t.OneByOne later → .clearCache ∉ later → ∀ key body,
        t.client.session.cache.find? key = some body →
          (t.run later).client.session.cache.find? key = some body := by
  have coherent := h.inOrder.coherent
  have charted := h.reachable.charted
  refine ⟨coherent.ajax, ?_, ?_, fun later oneByOne uncleared => ?_⟩
  · intro e captured
    obtain ⟨page, current, named⟩ := coherent.event e captured
    obtain ⟨channel, found⟩ := Entries.exists_of_mem_names named
    exact ⟨page, channel, current, found⟩
  · intro page current entry member
    rw [(charted.page page current).2] at member
    obtain ⟨recorded, own⟩ := mem_of_mem_channelsOf member
    have opened := charted.recorded _ recorded
    obtain ⟨before, after, history⟩ := exists_opened opened
    have told := h.reachable.chronicled.told
    rw [history] at told
    exact ⟨own, opened, told.follows.1⟩
  · exact (h.inOrder.run oneByOne).2 uncleared

/-- A server with a page that has an asset, and with a welcome on every channel. -/
def welcoming : Tab Scenario.Servers :=
  let baseUrl : Url := { scheme := "http", host := some (.domain "localhost"), path := .segments [""] }
  let world : Scenario.Servers :=
    { routes :=
        [{ path := "/", body := "<script src='/a.js'></script>" }, { path := "/a.js", body := "go" }]
      behavior := { welcome := [⟨"hello", []⟩] } }
  { client := { profile := { identity := "visitor", level := .off, baseUrl }, world } }

def visit : List (TabEvent Scenario.Servers) :=
  [.dispatch (.get "/"), .dispatch (.loadStaticAssets {}),
    .dispatch (.connectAndAwaitEmit { event := "hello" })]

def visited : Tab Scenario.Servers := welcoming.run visit

/-- After the visit and an ajax call all that a session can remember is there. -/
theorem session_coherent_visited :
    let t := visited.run [.dispatch (.ajax .get "/status")]
    Sequential visited ∧
      (∃ page channel, visited.client.session.page = some page ∧
        page.channels.find? "" = some channel ∧ (page.id, channel) ∈ visited.client.openings ∧
        channel.config.autoConnect = false) ∧
      t.client.session.ajax.isSome = true ∧ t.client.session.page.isSome = true ∧
      t.client.session.cache.find? "/a.js" = some "go" := by
  intro t
  have fresh : Sequential welcoming := .fresh _ _ _ _
  have oneByOne : welcoming.OneByOne visit := by decide +kernel
  have sequential : Sequential visited := fresh.run oneByOne
  have goesOn : visited.OneByOne [.dispatch (.ajax .get "/status")] := by decide +kernel
  have captured : visited.client.session.event.map SocketEvent.ns = some "" := by decide +kernel
  have cached : visited.client.session.cache.find? "/a.js" = some "go" := by decide +kernel
  have called : t.client.session.ajax.isSome = true := by decide +kernel
  obtain ⟨-, event, channels, kept⟩ := sequential.session_coherent
  obtain ⟨ajax, -⟩ := (sequential.run goesOn).session_coherent
  obtain ⟨e, current, ns⟩ := Option.map_eq_some_iff.mp captured
  obtain ⟨page, channel, isPage, found⟩ := event e current
  rw [ns] at found
  obtain ⟨-, opened, manual⟩ := channels page isPage _ (Entries.mem_of_find? found)
  refine ⟨sequential, ⟨page, channel, isPage, found, opened, manual⟩, called, ajax called, ?_⟩
  exact kept _ goesOn (by simp) "/a.js" "go" cached

end Sequential

end Tab

end LiveSession
