import LiveSession.Action.Decode
import LiveSession.Proofs.Client.Sequels
import LiveSession.Proofs.Client.Underway

/-!
# What a failed action leaves

An action that fails leaves the session as it was, but for what it says it has done: an event that
was not to arrive is captured, a channel that has connected stays recorded, bodies that have arrived
stay cached. An action that is refused has done nothing at all.
-/

namespace LiveSession

/-- An action as it is handed to a client: itself, or in JSON. -/
inductive Submission where
  | action (a : Action)
  | json (v : Json)

def Submission.action? : Submission → Option Action
  | .action a => some a
  | .json v => (Action.ofJson v).toOption

/-! ### Actions in JSON -/

/-- If there is an error, it reports no event. -/
def Uncaptured {α : Type} (x : Except Error α) : Prop :=
  ∀ e, x = .error e → e.captured? = none

namespace Uncaptured

variable {α β : Type} {x : Except Error α}

theorem ok (v : α) : Uncaptured (.ok v : Except Error α) := nofun

theorem error {e : Error} (quiet : e.captured? = none) : Uncaptured (.error e : Except Error α) := by
  intro e' same
  cases same
  exact quiet

theorem bind {f : α → Except Error β} (first : Uncaptured x) (rest : ∀ v, Uncaptured (f v)) :
    Uncaptured (x >>= f) := by
  cases x with
  | ok v => exact rest v
  | error e => exact error (first e rfl)

theorem map {f : α → β} (first : Uncaptured x) : Uncaptured (f <$> x) := by
  cases x with
  | ok v => exact ok _
  | error e => exact error (first e rfl)

theorem request (f : ActionFields) (kind : HttpKind) (method : Method) :
    Uncaptured (f.request kind method) := by
  unfold ActionFields.request Method.read
  cases f.path with
  | none => exact error rfl
  | some path =>
    cases f.method with
    | none => exact ok _
    | some m =>
      refine bind (ok path) fun path => bind ?_ fun method => ok _
      split
      · exact ok _
      · exact error rfl

theorem watched (f : ActionFields) (kind : ActionKind) : Uncaptured (f.watched kind) := by
  unfold ActionFields.watched ActionFields.watched.missing
  split
  · split
    · exact error rfl
    · exact ok _
  · exact error rfl

theorem action (f : ActionFields) (kind : ActionKind) : Uncaptured (f.action kind) := by
  have watch (kind : ActionKind) : Uncaptured (f.watch kind) := bind (watched f kind) fun _ => ok _
  have connectWatch (kind : ActionKind) : Uncaptured (f.connectWatch kind) :=
    bind (watched f kind) fun _ => ok _
  have predicate : Uncaptured f.predicate := by
    unfold ActionFields.predicate
    split
    · exact ok _
    · exact ok _
    · exact error rfl
  cases kind with
  | request | ajax | get | post => exact map (request f _ _)
  | pageUnload | loadStaticAssets | channelConnect | emit => exact ok _
  | awaitEmit | confirmNoEmit => exact map (watch _)
  | confirmNoMatchingEmit => exact bind (watch _) fun _ => bind predicate fun _ => ok _
  | connectAndAwaitEmit | connectAndConfirmNoEmit => exact map (connectWatch _)

theorem ofJson (v : Json) : Uncaptured (Action.ofJson v) := by
  unfold Action.ofJson
  split
  · exact ok _
  · refine bind ?_ fun kind => ?_
    · unfold ActionKind.ofMembers ActionKind.read
      split
      · exact ok _
      · exact ok _
      · split
        · exact ok _
        · exact error rfl
      · exact error rfl
    · split
      · exact error rfl
      · exact action _ kind
  · exact error rfl

end Uncaptured

variable {ω : Type} [Transports ω]

namespace Client

def execute (c : Client ω) : Submission → Client ω × Progress
  | .action a => c.dispatch a
  | .json v => c.dispatchJson v

theorem underway_execute (unwatching : Transports.Unwatching ω) (c : Client ω) (submission : Submission) :
    Underway submission.action? c (c.execute submission).1 (c.execute submission).2 := by
  cases submission with
  | action a => exact underway_dispatch unwatching c a
  | json v =>
    show Underway (Action.ofJson v).toOption c (c.dispatchJson v).1 (c.dispatchJson v).2
    unfold dispatchJson
    cases read : Action.ofJson v with
    | error e => exact .refused c (Uncaptured.ofJson v e read)
    | ok action => exact underway_dispatch unwatching c action

end Client

/-! ### A failure -/

namespace Tab

/-- Whatever the transports answer and whatever the channels dispatch meanwhile, an action alone on
its tab that fails leaves of itself only what `FailsWith` lists. -/
theorem failure_atomic (unwatching : Transports.Unwatching ω) (t : Tab ω) (submission : Submission)
    {events : List (TabEvent ω)} (alone : ∀ event ∈ events, event.Alone t.flights.length)
    {e : Error} {time : Nat}
    (failed : ((t.launch (t.client.execute submission)).run events).flights[t.flights.length]? =
      some (.actionEnded (.error e) time)) :
    Client.FailsWith submission.action? e t.client
      ((t.launch (t.client.execute submission)).run events).client := by
  have started : Carrying (Client.Underway submission.action? t.client) t.flights.length
      (t.launch (t.client.execute submission)) :=
    carrying_launch (t.client.underway_execute unwatching submission)
  have polled (c : Client ω) (job : Job)
      (underway : Client.Underway submission.action? t.client c (.waiting job)) :
      Client.Underway submission.action? t.client (c.poll job).1 (c.poll job).2 :=
    Client.underway_poll underway
  obtain ⟨progress, time', found, underway⟩ :=
    started.run polled (fun _ _ _ behind underway => underway.background behind) alone
  cases progress with
  | waiting job => cases failed.symm.trans found
  | done result =>
    cases failed.symm.trans found
    exact underway.failsWith

theorem servers_unwatching : Transports.Unwatching Scenario.Servers where
  openChannel url config w e refused := by
    simp only [Transports.openChannel, Scenario.Servers.openChannel] at refused
    split at refused
    · cases refused
      rfl
    · cases refused
  emit channel args w e refused := by
    simp only [Transports.emit, Scenario.Servers.emit] at refused
    split at refused
    · cases refused
      rfl
    · split at refused <;> cases refused

omit [Transports ω] in
theorem exists_failure (t : Tab ω) (flight : Nat)
    (ended : ((t.flights[flight]?).any fun
      | .actionEnded (.error _) _ => true
      | _ => false) = true) :
    ∃ e time, t.flights[flight]? = some (.actionEnded (.error e) time) := by
  obtain ⟨f, found, failed⟩ := (Option.any_eq_true _ _).mp ended
  cases f with
  | actionEnded result time =>
    cases result with
    | error e => exact ⟨e, time, found⟩
    | ok o => cases failed
  | _ => cases failed

/-- The watch of a compound is over in vain: the channel that it has connected stays recorded. -/
theorem failure_atomic_awaiting :
    let patient : ConnectWatchAction := { event := "bye", timeout := some (.fixed 10) }
    let later : Scenario.Servers := { welcomed.client.world with now := 10 }
    ∃ t, (welcomed.launch (welcomed.client.execute (.action (.connectAndAwaitEmit patient)))).run
        [.fire 1 ⟨"hello", []⟩, .pass later 0, .poll welcomed.flights.length] = t ∧
      t.client.recordings.length = 2 ∧
      ∃ e time, t.flights[welcomed.flights.length]? = some (.actionEnded (.error e) time) ∧
        Client.FailsWith (some (.connectAndAwaitEmit patient)) e welcomed.client t.client := by
  intro patient later
  refine ⟨_, rfl, by decide +kernel, ?_⟩
  have alone : ∀ event ∈ [TabEvent.fire 1 ⟨"hello", []⟩, .pass later 0, .poll welcomed.flights.length],
      event.Alone welcomed.flights.length := by
    simp only [List.forall_mem_cons]
    exact ⟨.fire _ _, .pass _ _, .poll, by simp⟩
  obtain ⟨e, time, failed⟩ := exists_failure
    ((welcomed.launch (welcomed.client.execute (.action (.connectAndAwaitEmit patient)))).run
      [.fire 1 ⟨"hello", []⟩, .pass later 0, .poll welcomed.flights.length]) welcomed.flights.length
    (by decide +kernel)
  exact ⟨e, time, failed, failure_atomic servers_unwatching welcomed _ alone failed⟩

end Tab

end LiveSession
