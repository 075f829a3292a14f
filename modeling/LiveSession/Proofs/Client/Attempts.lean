import LiveSession.Proofs.Client.Charting

/-!
# Attempts to connect

An attempt ends in one of two ways: the channel is recorded, when it has connected in time and its
page is still the current one, or it is closed, and the attempt ends with an error of its own. What
the action does afterwards records nothing and closes nothing.
-/

namespace LiveSession

/-- The errors that an attempt to connect ends with. -/
def Error.endsAttempt : Error → Bool
  | connectTimeout .. | connectFailed .. | noPageLoaded _ => true
  | _ => false

def Job.pending? : Job → Option PendingChannel
  | .connect p .. => some p
  | .request .. | .crawl _ | .watch .. => none

namespace Flight

def job? : Flight → Option Job
  | action job => some job
  | script run =>
    match run.phase with
    | .delay .. => none
    | .act job => some job
  | actionEnded .. | scriptEnded .. => none

def pending? (f : Flight) : Option PendingChannel := f.job?.bind Job.pending?

theorem held_of_job {f : Flight} {job : Job} (waits : f.job? = some job) : f.held = job.held := by
  cases f with
  | action job' =>
    cases waits
    rfl
  | script run =>
    unfold job? at waits
    unfold held ScriptRun.held
    cases phase : run.phase with
    | delay action due =>
      simp only [phase] at waits
      cases waits
    | act job' =>
      simp only [phase] at waits ⊢
      cases waits
      rfl
  | _ => cases waits

theorem held_of_no_job {f : Flight} (ended : f.job? = none) : f.held = [] := by
  cases f with
  | action job => cases ended
  | script run =>
    unfold job? at ended
    unfold held ScriptRun.held
    cases phase : run.phase with
    | delay action due => simp only [phase]
    | act job =>
      simp only [phase] at ended
      cases ended
  | _ => rfl

theorem channel_mem_held {f : Flight} {p : PendingChannel} :
    .channel p ∈ f.held ↔ f.pending? = some p := by
  unfold pending?
  cases waits : f.job? with
  | none =>
    rw [held_of_no_job waits]
    simp
  | some job =>
    rw [held_of_job waits, Option.bind_some]
    cases job with
    | connect p' race limit deadline next => cases next <;> simp [Job.held, Job.pending?, heldNext, eq_comm]
    | watch channel w deadline => simp [Job.held, Job.pending?]
    | _ => simp [Job.held, Job.pending?]

end Flight

namespace Client

variable {ω : Type} [Transports ω]

/-! ### Recordings -/

omit [Transports ω] in
theorem recordings_release (c : Client ω) (race : RaceId) :
    (c.release race).recordings = c.recordings := by
  obtain ⟨_, _, after⟩ := c.release_eq race
  rw [after]
  rfl

omit [Transports ω] in
theorem pageId_release (c : Client ω) (race : RaceId) : (c.release race).pageId? = c.pageId? := by
  obtain ⟨_, _, after⟩ := c.release_eq race
  rw [after]
  rfl

theorem pollWatch_error {c : Client ω} {channel : ChannelId} {w : Watch} {deadline : Nat}
    {e : Error} (failed : (c.pollWatch channel w deadline).2 = .done (.error e)) :
    e.endsAttempt = false := by
  unfold pollWatch finishWatch? at failed
  cases reached : c.judge w.race deadline w.kind.accept with
  | none =>
    rw [reached] at failed
    cases failed
  | some result =>
    rw [reached] at failed
    cases result <;> cases kind : w.kind <;>
      simp only [Option.map_some, endWatch, ended, kind, Progress.done.injEq, Except.error.injEq,
        reduceCtorEq] at failed <;>
      rw [← failed] <;> rfl

/-! ### The end of an attempt -/

theorem recordChannel_cases (c : Client ω) (p : PendingChannel) :
    c.pageId? = some p.page ∧
      c.recordChannel p =
        ({ c with
            session := c.session.record p.channel
            history := c.history ++ [.recorded p.page p.channel] },
          .ok ()) ∨
    c.pageId? ≠ some p.page ∧
      ∃ e, e.endsAttempt = true ∧
        c.recordChannel p = (c.disconnect p.channel.handle, .error e) := by
  have same : (c.session.page.any fun page => decide (page.id = p.page)) = true ↔
      c.pageId? = some p.page := by
    unfold pageId?
    cases c.session.page <;> simp
  unfold recordChannel
  by_cases current : c.pageId? = some p.page
  · rw [if_pos (same.mpr current)]
    exact .inl ⟨current, rfl⟩
  · rw [if_neg (mt same.mp current)]
    exact .inr ⟨current, _, rfl, rfl⟩

theorem finishConnect_cases (c : Client ω) (p : PendingChannel) (limit : Nat)
    (result : RaceResult (Except String Unit)) :
    (result = .resolved (.ok ()) ∧ c.pageId? = some p.page) ∧
      c.finishConnect p limit result =
        ({ c with
            session := c.session.record p.channel
            history := c.history ++ [.recorded p.page p.channel] },
          .ok ()) ∨
    ¬ (result = .resolved (.ok ()) ∧ c.pageId? = some p.page) ∧
      ∃ e, e.endsAttempt = true ∧
        c.finishConnect p limit result = (c.disconnect p.channel.handle, .error e) := by
  match result with
  | .resolved (.ok ()) =>
    rcases c.recordChannel_cases p with ⟨current, recorded⟩ | ⟨gone, e, ends, closed⟩
    · exact .inl ⟨⟨rfl, current⟩, recorded⟩
    · exact .inr ⟨fun both => gone both.2, e, ends, closed⟩
  | .resolved (.error m) => exact .inr ⟨nofun, _, rfl, rfl⟩
  | .elapsed => exact .inr ⟨nofun, _, rfl, rfl⟩

theorem recordings_abandon (c : Client ω) (channel : ChannelId) (next : Option Watch)
    (socket : SocketChannel) (e : Error) :
    ((c.disconnect channel).afterConnect socket next (.error e)).1.recordings = c.recordings := by
  have closed := (closes_disconnect c channel).recordings_eq
  cases next with
  | none => exact closed
  | some w => exact (recordings_release _ w.race).trans closed

theorem recordings_afterConnect_error {c : Client ω} {socket : SocketChannel}
    {next : Option Watch} {recorded : Except Error Unit} {e : Error}
    (failed : (c.afterConnect socket next recorded).2 = .done (.error e))
    (ends : e.endsAttempt = true) : recorded ≠ .ok () := by
  rintro rfl
  cases next with
  | none => cases failed
  | some w => exact absurd ends (by rw [pollWatch_error failed]; exact Bool.false_ne_true)

theorem recordings_pollConnect {c : Client ω} {p : PendingChannel} {race : RaceId}
    {limit deadline : Nat} {next : Option Watch} {e : Error}
    (failed : (c.pollConnect p race limit deadline next).2 = .done (.error e))
    (ends : e.endsAttempt = true) :
    (c.pollConnect p race limit deadline next).1.recordings = c.recordings := by
  unfold pollConnect at failed ⊢
  cases reached : c.judge race deadline connectVerdict with
  | none => rfl
  | some result =>
    rw [reached] at failed
    dsimp only at failed ⊢
    rcases (c.release race).finishConnect_cases p limit result with ⟨_, recorded⟩ | ⟨_, e', _, closed⟩
    · rw [recorded] at failed
      exact absurd rfl (recordings_afterConnect_error failed ends)
    · rw [closed]
      exact (recordings_abandon _ _ _ _ _).trans (recordings_release c race)

/-! ### The start of an attempt -/

theorem recordings_startConnect (c : Client ω) (p : PendingChannel) :
    (c.startConnect p).1.recordings = c.recordings := by
  have heard := closes_deliverAll p.channel.handle
    (Transports.connect p.channel.handle
      (c.install p.channel.handle [connectEvent, connectErrorEvent]).1.world).2
    { (c.install p.channel.handle [connectEvent, connectErrorEvent]).1.logged
        (.connect p.channel.handle) with
      world := (Transports.connect p.channel.handle
        (c.install p.channel.handle [connectEvent, connectErrorEvent]).1.world).1 }
  unfold startConnect
  dsimp only
  split
  · exact (recordings_release _ _).trans heard.recordings_eq
  · exact heard.recordings_eq

theorem recordings_establish {c : Client ω} {p : PendingChannel} {limit : Nat}
    {next : Option Watch} {e : Error} (failed : (c.establish p limit next).2 = .done (.error e))
    (ends : e.endsAttempt = true) : (c.establish p limit next).1.recordings = c.recordings := by
  have started := c.recordings_startConnect p
  unfold establish at failed ⊢
  generalize c.startConnect p = result at started failed ⊢
  obtain ⟨c', race⟩ := result
  cases race with
  | none =>
    dsimp only at failed ⊢
    rcases c'.recordChannel_cases p with ⟨_, recorded⟩ | ⟨_, e', _, closed⟩
    · rw [recorded] at failed
      exact absurd rfl (recordings_afterConnect_error failed ends)
    · rw [closed]
      exact (recordings_abandon _ _ _ _ _).trans started
  | some race => exact (recordings_pollConnect failed ends).trans started

theorem recordings_openChannel (c : Client ω) (kind : ActionKind) (ns : String) :
    (c.openChannel kind ns).1.recordings = c.recordings := by
  unfold openChannel
  split
  · rfl
  · dsimp only
    split
    · rfl
    · split
      · rfl
      · exact (recordingsOf_append _ _).trans (List.append_nil _)

theorem recordings_dispatchConnect {c : Client ω} {a : ConnectAction} {e : Error}
    (failed : (c.dispatchConnect a).2 = .done (.error e)) (ends : e.endsAttempt = true) :
    (c.dispatchConnect a).1.recordings = c.recordings := by
  have opened := (c.draw (c.profile.timeout a.timeout)).1.recordings_openChannel .channelConnect
    (c.profile.namespaceOf a.ns)
  unfold dispatchConnect at failed ⊢
  dsimp only at failed ⊢
  generalize (c.draw (c.profile.timeout a.timeout)).1.openChannel .channelConnect
    (c.profile.namespaceOf a.ns) = result at opened failed ⊢
  obtain ⟨c', e' | p⟩ := result
  · exact opened
  · exact (recordings_establish failed ends).trans opened

theorem recordings_dispatchConnectWatch {c : Client ω} {action : ActionKind} {kind : WatchKind}
    {a : ConnectWatchAction} {e : Error}
    (failed : (c.dispatchConnectWatch action kind a).2 = .done (.error e))
    (ends : e.endsAttempt = true) :
    (c.dispatchConnectWatch action kind a).1.recordings = c.recordings := by
  unfold dispatchConnectWatch at failed ⊢
  dsimp only at failed ⊢
  generalize drawn : ((c.draw (c.profile.timeout (a.connectTimeout <|> a.timeout))).1.draw
    ((c.draw (c.profile.timeout (a.connectTimeout <|> a.timeout))).1.profile.timeout
      a.timeout)).1 = c' at failed ⊢
  have same : c'.recordings = c.recordings := drawn ▸ rfl
  have opened := c'.recordings_openChannel action (c.profile.namespaceOf a.ns)
  generalize c'.openChannel action (c.profile.namespaceOf a.ns) = result at opened failed ⊢
  obtain ⟨c'', e' | p⟩ := result
  · exact opened.trans same
  · exact ((recordings_establish failed ends).trans opened).trans same

end Client

def Action.connects : Action → Bool
  | connect _ | connectAndAwaitEmit _ | connectAndConfirmNoEmit _ => true
  | _ => false

theorem Client.recordings_dispatch {ω : Type} [Transports ω] {c : Client ω} {action : Action}
    {e : Error} (connects : action.connects = true)
    (failed : (c.dispatch action).2 = .done (.error e)) (ends : e.endsAttempt = true) :
    (c.dispatch action).1.recordings = c.recordings := by
  cases action with
  | connect a => exact recordings_dispatchConnect failed ends
  | connectAndAwaitEmit a => exact recordings_dispatchConnectWatch failed ends
  | connectAndConfirmNoEmit a => exact recordings_dispatchConnectWatch failed ends
  | _ => cases connects

/-! ### Attempts in flight -/

namespace Tab

variable {ω : Type} [Transports ω] {t : Tab ω} {flight : Nat} {f : Flight} {job : Job}

/-- Whatever the job of a flight goes on with, the flight goes on with. -/
theorem poll_job_acts (found : t.flights[flight]? = some f) (waits : f.job? = some job)
    {c : Client ω} {k : List Held}
    (acts : Acts c k (t.client.poll job).1 (t.client.poll job).2.held) :
    Acts c k (t.poll flight).client ((t.poll flight).heldBy flight) := by
  obtain ⟨below, _⟩ := List.getElem?_eq_some_iff.mp found
  cases f with
  | action job' =>
    cases waits
    rw [poll_action found, heldBy_of_flight (List.getElem?_set_self below),
      Flight.held_ofProgress]
    exact acts
  | script run =>
    have phase : run.phase = .act job := by
      unfold Flight.job? at waits
      dsimp only at waits
      split at waits
      · cases waits
      · rename_i job' phase
        cases waits
        exact phase
    have went : t.client.pollScript run = Client.afterStep run (t.client.poll job) := by
      unfold Client.pollScript
      rw [phase]
    have rest := Client.afterStep_acts (k := []) run (t.client.poll job).1 (t.client.poll job).2
    simp only [List.append_nil] at rest
    rw [poll_script found, went, heldBy_of_flight (List.getElem?_set_self below),
      Flight.held_ofScript]
    exact acts.trans rest
  | _ => cases waits

theorem poll_waiting (found : t.flights[flight]? = some f) (waits : f.job? = some job)
    {job' : Job} (waiting : (t.client.poll job).2 = .waiting job') :
    ∃ f', (t.poll flight).flights[flight]? = some f' ∧ f'.job? = some job' := by
  obtain ⟨below, _⟩ := List.getElem?_eq_some_iff.mp found
  cases f with
  | action job =>
    cases waits
    rw [poll_action found, waiting]
    exact ⟨_, List.getElem?_set_self below, rfl⟩
  | script run =>
    unfold Flight.job? at waits
    dsimp only at waits
    split at waits
    · cases waits
    · rename_i _ phase
      cases waits
      rw [poll_script found]
      refine ⟨_, List.getElem?_set_self below, ?_⟩
      unfold Client.pollScript
      rw [phase]
      dsimp only
      have split_ : t.client.poll job = ((t.client.poll job).1, .waiting job') := by
        rw [← waiting]
      rw [split_]
      rfl
  | _ => cases waits

end Tab

end LiveSession
