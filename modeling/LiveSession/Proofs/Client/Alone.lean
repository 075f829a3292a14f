import LiveSession.Proofs.Client.Pages
import LiveSession.Proofs.Client.Verdicts

/-!
# One action alone

An action is alone on its tab when no other is started or carried on and nobody else acts on the
session: only time passes, channels dispatch events, and others listen for them. What the action does
to the session is then what its start and its polls do, and `Carrying` is the induction for that.
-/

namespace LiveSession

variable {ω : Type}

/-- An event that leaves the flight alone on its tab. -/
inductive TabEvent.Alone (flight : Nat) : TabEvent ω → Prop
  | poll : Alone flight (.poll flight)
  | fire (channel : ChannelId) (s : Signal) : Alone flight (.fire channel s)
  | pass (world : ω) (today : Int) : Alone flight (.pass world today)
  | listen (channel : ChannelId) (event : String) : Alone flight (.listen channel event)
  | unlisten (guest : Nat) : Alone flight (.unlisten guest)

namespace Client

/-- No action has touched the session: what it remembers is the same, and nothing was called. -/
structure Background (c c' : Client ω) : Prop where
  profile : c'.profile = c.profile
  session : c'.session = c.session
  cookies : c'.cookies = c.cookies
  log : c'.log = c.log
  openings : c'.openings = c.openings
  recordings : c'.recordings = c.recordings

theorem background_install (c : Client ω) (channel : ChannelId) (events : List String) :
    Background c (c.install channel events).1 :=
  ⟨rfl, rfl, rfl, rfl, rfl, rfl⟩

theorem background_release (c : Client ω) (race : RaceId) : Background c (c.release race) := by
  obtain ⟨_, _, after⟩ := c.release_eq race
  rw [after]
  exact ⟨rfl, rfl, rfl, rfl, rfl, rfl⟩

theorem Background.trans {c c' c'' : Client ω} (h₁ : Background c c') (h₂ : Background c' c'') :
    Background c c'' :=
  ⟨h₂.profile.trans h₁.profile, h₂.session.trans h₁.session, h₂.cookies.trans h₁.cookies,
    h₂.log.trans h₁.log, h₂.openings.trans h₁.openings, h₂.recordings.trans h₁.recordings⟩

theorem background_deliver [Transports ω] (c : Client ω) (channel : ChannelId) (s : Signal) :
    Background c (c.deliver channel s) := by
  have closes := c.closes_deliver channel s
  have after := c.deliver_eq channel s
  refine ⟨?_, closes.session, ?_, ?_, closes.openings_eq, closes.recordings_eq⟩ <;> rw [after]

end Client

namespace Tab

variable [Transports ω] {t : Tab ω} {event : TabEvent ω} {events : List (TabEvent ω)} {flight : Nat}
  {P : Client ω → Progress → Prop}

theorem alone_cases (t : Tab ω) (alone : event.Alone flight) :
    event = .poll flight ∨
      t.client.Background (t.step event).client ∧ (t.step event).flights = t.flights := by
  cases alone with
  | poll => exact .inl rfl
  | fire channel s => exact .inr ⟨t.client.background_deliver channel s, rfl⟩
  | pass world today => exact .inr ⟨⟨rfl, rfl, rfl, rfl, rfl, rfl⟩, rfl⟩
  | listen channel event =>
    refine .inr ⟨?_, t.flights_listen channel event⟩
    show t.client.Background (t.listen channel event).client
    unfold listen
    split
    · exact t.client.background_install channel [event]
    · exact ⟨rfl, rfl, rfl, rfl, rfl, rfl⟩
  | unlisten guest =>
    refine .inr ⟨?_, t.flights_unlisten guest⟩
    show t.client.Background (t.unlisten guest).client
    unfold unlisten
    split
    · exact t.client.background_release _
    · exact ⟨rfl, rfl, rfl, rfl, rfl, rfl⟩

/-- An action is in flight or has ended, and the client and the action are related by `P`. -/
def Carrying (P : Client ω → Progress → Prop) (flight : Nat) (t : Tab ω) : Prop :=
  ∃ progress time, t.flights[flight]? = some (.ofProgress time progress) ∧ P t.client progress

theorem carrying_launch {r : Client ω × Progress} (started : P r.1 r.2) :
    Carrying P t.flights.length (t.launch r) :=
  ⟨r.2, r.1.now, List.getElem?_concat_length, started⟩

variable (polled : ∀ c job, P c (.waiting job) → P (c.poll job).1 (c.poll job).2)
  (background : ∀ c c' progress, c.Background c' → P c progress → P c' progress)

include polled background

theorem Carrying.step (carrying : Carrying P flight t) (alone : event.Alone flight) :
    Carrying P flight (t.step event) := by
  obtain ⟨progress, time, found, related⟩ := carrying
  rcases t.alone_cases alone with rfl | ⟨behind, flights⟩
  · cases progress with
    | done result =>
      rw [Tab.step, poll_ended found]
      exact ⟨_, time, found, related⟩
    | waiting job =>
      rw [Tab.step, poll_action found]
      exact ⟨_, _, List.getElem?_set_self (List.getElem?_eq_some_iff.mp found).1, polled _ _ related⟩
  · exact ⟨progress, time, flights ▸ found, background _ _ _ behind related⟩

theorem Carrying.run (carrying : Carrying P flight t) (alone : ∀ event ∈ events, event.Alone flight) :
    Carrying P flight (t.run events) := by
  induction events generalizing t with
  | nil => exact carrying
  | cons event events ih =>
    have ⟨first, rest⟩ := List.forall_mem_cons.mp alone
    exact ih (carrying.step polled background first) rest

end Tab

end LiveSession
