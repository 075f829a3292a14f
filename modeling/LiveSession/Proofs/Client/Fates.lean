import LiveSession.Proofs.Client.Pages

/-!
# What becomes of a channel

Every channel that a client has opened is being connected, or it is one of the current page, or
another one took its place, or it was closed once. `Reachable.fates` says so for every tab that can
be reached, and how a channel gets from one situation to another.
-/

namespace LiveSession

variable {ω : Type} {c c' : Client ω} {k k' : List Held} {handle : ChannelId}

/-- The channel was opened, and it was given up without ever being recorded. -/
structure Lost (c : Client ω) (k : List Held) (handle : ChannelId) : Prop where
  opened : handle < c.channels.length
  free : handle ∉ pendingHandles k
  unrecorded : handle ∉ c.recordings.map PagedChannel.handle

namespace Lost

theorem of_eq (h : Lost c k handle) (length : c'.channels.length = c.channels.length)
    (recordings : c'.recordings = c.recordings)
    (held : ∀ p, .channel p ∈ k' → .channel p ∈ k) : Lost c' k' handle := by
  refine ⟨length ▸ h.opened, ?_, recordings ▸ h.unrecorded⟩
  intro pending
  obtain ⟨p, holds, same⟩ := mem_pendingHandles.mp pending
  exact h.free (mem_pendingHandles.mpr ⟨p, held p holds, same⟩)

theorem perm (h : Lost c k handle) (perm : k.Perm k') : Lost c k' handle :=
  h.of_eq rfl rfl fun _ holds => perm.mem_iff.mpr holds

theorem closes (h : Lost c k handle) {closed : List ChannelId} {c₁ : Client ω}
    (closes : Client.Closes closed c₁ c') (channels : c₁.channels = c.channels)
    (history : c₁.history = c.history) : Lost c' k handle :=
  h.of_eq (congrArg List.length (closes.channels.trans channels))
    (closes.recordings_eq.trans (congrArg recordingsOf history)) fun _ holds => holds

theorem act [Transports ω] (h : Lost c k handle) (act : Act c k c' k') : Lost c' k' handle := by
  cases act with
  | quiet still world =>
    exact h.of_eq (congrArg List.length still.channels) (congrArg recordingsOf still.history)
      fun _ holds => holds
  | deliver channel s => exact h.closes (Client.closes_deliver c channel s) rfl rfl
  | install known distinct =>
    exact h.of_eq List.length_set rfl fun p holds => (List.mem_cons.mp holds).resolve_left nofun
  | release s =>
    obtain ⟨_, length, after⟩ := c.release_eq s.race
    rw [after]
    exact h.of_eq length rfl fun p holds => List.mem_cons_of_mem _ holds
  | opened current next chosen called =>
    refine ⟨Nat.lt_of_lt_of_le h.opened (by simp), ?_, ?_⟩
    · intro pending
      obtain ⟨p, holds, rfl⟩ := mem_pendingHandles.mp pending
      rcases List.mem_cons.mp holds with new | old
      · cases new
        exact Nat.ne_of_lt h.opened next
      · exact h.free (mem_pendingHandles.mpr ⟨p, old, rfl⟩)
    · show _ ∉ (recordingsOf _).map _
      rw [recordingsOf_append]
      exact (List.append_nil _).symm ▸ h.unrecorded
  | recorded current same =>
    rename_i page p
    refine ⟨h.opened, ?_, ?_⟩
    · intro pending
      exact h.free (List.mem_cons_of_mem _ pending)
    · show _ ∉ (recordingsOf _).map _
      rw [recordingsOf_append, List.map_append]
      intro member
      rcases List.mem_append.mp member with old | new
      · exact h.unrecorded old
      · have own : handle = p.channel.handle := List.mem_singleton.mp new
        exact h.free (own ▸ List.mem_cons_self)
  | abandoned p =>
    have less : Lost c k' handle := h.of_eq rfl rfl fun _ holds => List.mem_cons_of_mem _ holds
    exact less.closes (Client.closes_disconnect c p.channel.handle) rfl rfl
  | unloaded => exact h.closes (Client.closes_unloadPage c) rfl rfl
  | loaded response => exact h.closes (Client.closes_loadPage c response) rfl rfl
  | swap a b => exact h.perm (.swap b a _)

theorem acts [Transports ω] (h : Lost c k handle) (acts : Acts c k c' k') :
    Lost c' k' handle := by
  induction acts with
  | refl => exact h
  | step act _ ih => exact ih (h.act act)

theorem closings_eq_one (h : Lost c k handle) (charted : Charted c k) :
    closings handle c.log = 1 :=
  charted.abandoned handle h.opened h.free h.unrecorded

end Lost

theorem Act.recordings_prefix [Transports ω] (act : Act c k c' k') :
    c.recordings <+: c'.recordings := by
  have closes {closed : List ChannelId} {c₁ : Client ω} (closes : Client.Closes closed c₁ c')
      (history : c₁.history = c.history) : c.recordings <+: c'.recordings := by
    rw [closes.recordings_eq]
    exact ⟨[], (List.append_nil _).trans (congrArg recordingsOf history).symm⟩
  have extends_ {event : ChannelEvent} (history : c'.history = c.history ++ [event]) :
      c.recordings <+: c'.recordings := by
    unfold Client.recordings
    rw [history, recordingsOf_append]
    exact List.prefix_append _ _
  cases act with
  | quiet still world => exact ⟨[], (List.append_nil _).trans (congrArg recordingsOf still.history).symm⟩
  | deliver channel s => exact closes (Client.closes_deliver c channel s) rfl
  | release s => exact ⟨[], (List.append_nil _).trans (Client.recordings_release ..).symm⟩
  | opened current next chosen called => exact extends_ rfl
  | recorded current same => exact extends_ rfl
  | abandoned p => exact closes (Client.closes_disconnect c p.channel.handle) rfl
  | unloaded => exact closes (Client.closes_unloadPage c) rfl
  | loaded response => exact closes (Client.closes_loadPage c response) rfl
  | _ => exact List.prefix_refl _

theorem Acts.recordings_prefix [Transports ω] (acts : Acts c k c' k') :
    c.recordings <+: c'.recordings := by
  induction acts with
  | refl => exact List.prefix_refl _
  | step act _ ih => exact act.recordings_prefix.trans ih

/-! ### Situations -/

/-- Where a channel stands: it is being connected, it is the one of its namespace on the current
page, another one took its place on its page, or it was closed. -/
inductive Situation where
  | pending
  | current
  | superseded
  | closed
  deriving DecidableEq

instance (rs : List PagedChannel) (r : PagedChannel) : Decidable (Standing rs r) :=
  inferInstanceAs (Decidable (_ = _))

namespace Tab

/-- A channel is in a situation: nobody has closed it, or it was closed exactly once. -/
def Finds (t : Tab ω) (handle : ChannelId) : Situation → Prop
  | .pending => closings handle t.client.log = 0 ∧
      ∃ f ∈ t.flights, ∃ p, f.pending? = some p ∧ p.channel.handle = handle
  | .current => closings handle t.client.log = 0 ∧
      ∃ page channel, t.client.session.page = some page ∧
        page.channels.find? channel.ns = some channel ∧ channel.handle = handle ∧
        (page.id, channel) ∈ t.client.openings
  | .superseded => ∃ page channel,
      Superseded t.client.recordings page channel ∧ channel.handle = handle
  | .closed => closings handle t.client.log = 1

/-- The situation of a channel, told from the history. -/
def situation (t : Tab ω) (handle : ChannelId) : Situation :=
  if closings handle t.client.log = 1 then .closed
  else if handle ∈ pendingHandles t.held then .pending
  else if ∃ r ∈ t.client.recordings, r.handle = handle ∧ Standing t.client.recordings r then .current
  else .superseded

theorem channel_mem_held {t : Tab ω} {p : PendingChannel} :
    .channel p ∈ t.held ↔ ∃ f ∈ t.flights, f.pending? = some p := by
  constructor
  · intro member
    rcases List.mem_append.mp member with flying | guest
    · obtain ⟨f, present, holds⟩ := List.mem_flatMap.mp flying
      exact ⟨f, present, Flight.channel_mem_held.mp holds⟩
    · obtain ⟨_, _, same⟩ := List.mem_map.mp guest
      cases same
  · rintro ⟨f, present, pending⟩
    exact List.mem_append_left _
      (List.mem_flatMap.mpr ⟨f, present, Flight.channel_mem_held.mpr pending⟩)

theorem mem_pendingHandles_held {t : Tab ω} :
    handle ∈ pendingHandles t.held ↔
      ∃ f ∈ t.flights, ∃ p, f.pending? = some p ∧ p.channel.handle = handle := by
  rw [mem_pendingHandles]
  constructor
  · rintro ⟨p, holds, same⟩
    obtain ⟨f, present, pending⟩ := channel_mem_held.mp holds
    exact ⟨f, present, p, pending, same⟩
  · rintro ⟨f, present, p, pending, same⟩
    exact ⟨p, channel_mem_held.mpr ⟨f, present, pending⟩, same⟩

theorem situation_of_finds {t : Tab ω} (charted : Charted t.client t.held) {s : Situation}
    (finds : t.Finds handle s) : t.situation handle = s := by
  have not_pending {page : PageId} {channel : SocketChannel}
      (recorded : (page, channel) ∈ t.client.recordings) :
      channel.handle ∉ pendingHandles t.held := fun pending =>
    charted.not_recorded pending (List.mem_map.mpr ⟨_, recorded, rfl⟩)
  unfold situation
  cases s with
  | pending =>
    obtain ⟨never, pending⟩ := finds
    rw [if_neg (by rw [never]; exact Nat.zero_ne_one),
      if_pos (mem_pendingHandles_held.mpr pending)]
  | current =>
    obtain ⟨never, page, channel, isPage, found, rfl, _⟩ := finds
    obtain ⟨_, channels⟩ := charted.page page isPage
    rw [channels] at found
    have recorded := (mem_of_find?_channelsOf found).1
    rw [if_neg (by rw [never]; exact Nat.zero_ne_one), if_neg (not_pending recorded),
      if_pos ⟨_, recorded, rfl, found⟩]
  | superseded =>
    obtain ⟨page, channel, superseded, rfl⟩ := finds
    have recorded : (page, channel) ∈ t.client.recordings := by
      obtain ⟨before, after, _, split, _⟩ := superseded
      rw [split]
      exact List.mem_append_right _ List.mem_cons_self
    have replaced := (superseded_iff charted.recordings_nodup recorded).mp superseded
    have never := charted.kept _ recorded fun standing => absurd standing replaced
    have no_other : ¬ ∃ r ∈ t.client.recordings,
        r.handle = channel.handle ∧ Standing t.client.recordings r := by
      rintro ⟨r, member, same, standing⟩
      have one := eq_of_handle charted.recordings_nodup member recorded same
      rw [one] at standing
      exact replaced standing
    have open_ : closings channel.handle t.client.log = 0 := never
    rw [if_neg (by rw [open_]; exact Nat.zero_ne_one), if_neg (not_pending recorded),
      if_neg no_other]
  | closed => exact if_pos finds

theorem finds_situation {t : Tab ω} (charted : Charted t.client t.held)
    (opened : handle < t.client.channels.length) : t.Finds handle (t.situation handle) := by
  unfold situation
  split
  · assumption
  · rename_i not_closed
    split
    · rename_i pending
      exact ⟨charted.held handle pending, mem_pendingHandles_held.mp pending⟩
    · rename_i free
      split
      · rename_i standing
        obtain ⟨r, recorded, rfl, standing⟩ := standing
        by_cases current : t.client.pageId? = some r.1
        · obtain ⟨page, isPage, id⟩ := Option.map_eq_some_iff.mp current
          refine ⟨charted.kept r recorded fun _ => current, page, r.2, isPage, ?_, rfl, ?_⟩
          · rw [(charted.page page isPage).2, id]
            exact standing
          · rw [id]
            exact charted.recorded r recorded
        · exact absurd (charted.left r recorded standing current) not_closed
      · rename_i none_stands
        by_cases recorded : handle ∈ t.client.recordings.map PagedChannel.handle
        · obtain ⟨r, member, rfl⟩ := List.mem_map.mp recorded
          refine ⟨r.1, r.2, ?_, rfl⟩
          apply (superseded_iff charted.recordings_nodup member).mpr
          exact fun standing => none_stands ⟨r, member, rfl, standing⟩
        · exact absurd (charted.abandoned handle opened free recorded) not_closed

theorem unique_situation {t : Tab ω} (charted : Charted t.client t.held) {r : PagedChannel}
    (opened : r ∈ t.client.openings) : ∃! s, t.Finds r.handle s :=
  ⟨t.situation r.handle, finds_situation charted (charted.lt_of_opened opened),
    fun _ finds => (situation_of_finds charted finds).symm⟩

/-! ### The ends of attempts -/

variable [Transports ω] {t : Tab ω} {event : TabEvent ω} {flight : Nat} {f : Flight}
  {p : PendingChannel}

theorem lost_step (lost : Lost t.client t.held handle) (event : TabEvent ω) :
    Lost (t.step event).client (t.step event).held handle := by
  rcases t.step_cases event with ⟨world, today, rfl⟩ | ⟨_, others, before, acts, after⟩
  · exact lost.of_eq rfl rfl fun _ holds => holds
  · exact ((lost.perm before).acts (acts.frame others)).perm after.symm

theorem lost_run (lost : Lost t.client t.held handle) (events : List (TabEvent ω)) :
    Lost (t.run events).client (t.run events).held handle := by
  induction events generalizing t with
  | nil => exact lost
  | cons event events ih => exact ih (lost_step lost event)

/-- The channel is closed and was never recorded, now and whatever happens next. -/
def GivenUp (t : Tab ω) (handle : ChannelId) : Prop :=
  ∀ events, (t.run events).Finds handle .closed ∧
    handle ∉ (t.run events).client.recordings.map PagedChannel.handle

theorem givenUp_of_lost (reachable : Reachable t) (lost : Lost t.client t.held handle) :
    t.GivenUp handle := fun events =>
  ⟨(lost_run lost events).closings_eq_one (reachable.run events).charted,
    (lost_run lost events).unrecorded⟩

/-- How the attempt of a flight has ended by now, if it has. -/
def verdict? (t : Tab ω) (f : Flight) : Option (RaceResult (Except String Unit)) :=
  match f.job? with
  | some (.connect _ race _ deadline _) => t.client.judge race deadline Client.connectVerdict
  | _ => none

theorem connect_of_pending (pending : f.pending? = some p) :
    ∃ race limit deadline next, f.job? = some (.connect p race limit deadline next) := by
  unfold Flight.pending? at pending
  obtain ⟨job, waits, connects⟩ := Option.bind_eq_some_iff.mp pending
  cases job with
  | connect p' race limit deadline next =>
    cases connects
    exact ⟨race, limit, deadline, next, waits⟩
  | _ => cases connects

theorem Reachable.attempt_poll (reachable : Reachable t) (found : t.flights[flight]? = some f)
    (pending : f.pending? = some p) :
    (∃ f', (t.poll flight).flights[flight]? = some f' ∧ f'.pending? = some p) ∨
      (t.verdict? f = some (.resolved (.ok ())) ∧ t.client.pageId? = some p.page ∧
        (p.page, p.channel) ∈ (t.poll flight).client.recordings) ∨
      (t.poll flight).GivenUp p.channel.handle := by
  obtain ⟨race, limit, deadline, next, waits⟩ := connect_of_pending pending
  have verdict : t.verdict? f = t.client.judge race deadline Client.connectVerdict := by
    unfold verdict?
    rw [waits]
  cases reached : t.client.judge race deadline Client.connectVerdict with
  | none =>
    have waiting : (t.client.poll (.connect p race limit deadline next)).2 =
        .waiting (.connect p race limit deadline next) := by
      show (t.client.pollConnect p race limit deadline next).2 = _
      unfold Client.pollConnect
      rw [reached]
    obtain ⟨f', found', waits'⟩ := poll_waiting found waits waiting
    refine .inl ⟨f', found', ?_⟩
    unfold Flight.pending?
    rw [waits']
    rfl
  | some result =>
    have polled : t.client.poll (.connect p race limit deadline next) =
        ((t.client.release race).finishConnect p limit result).1.afterConnect p.channel next
          ((t.client.release race).finishConnect p limit result).2 := by
      show t.client.pollConnect p race limit deadline next = _
      unfold Client.pollConnect
      rw [reached]
    have rest (c : Client ω) (recorded : Except Error Unit) :=
      Client.afterConnect_acts (k := []) c p.channel next recorded
    simp only [List.append_nil] at rest
    rcases (t.client.release race).finishConnect_cases p limit result with
      ⟨⟨rfl, current⟩, recorded⟩ | ⟨_, e, _, closed⟩
    · rw [Client.pageId_release] at current
      rw [recorded] at polled
      have acts := poll_job_acts found waits (polled ▸ rest _ _)
      refine .inr (.inl ⟨verdict.trans reached, current, acts.recordings_prefix.subset ?_⟩)
      show _ ∈ recordingsOf _
      rw [recordingsOf_append]
      exact List.mem_append_right _ List.mem_cons_self
    · rw [closed] at polled
      have acts := poll_job_acts found waits (polled ▸ rest _ _)
      obtain ⟨others, before, after⟩ := t.held_poll flight
      have charted := reachable.charted.perm before
      rw [heldBy_of_flight found, Flight.held_of_job waits] at charted
      have lost : Lost ((t.client.release race).disconnect p.channel.handle)
          (heldNext p.channel.handle next ++ others) p.channel.handle := by
        have own : p.channel.handle ∈ pendingHandles
            ((Job.connect p race limit deadline next).held ++ others) := List.mem_cons_self
        refine Lost.closes ⟨?_, ?_, ?_⟩
          (Client.closes_disconnect (t.client.release race) p.channel.handle) rfl rfl
        · obtain ⟨_, length, released⟩ := t.client.release_eq race
          rw [released]
          exact length ▸ charted.lt_of_opened (charted.pending p (List.mem_cons_of_mem _ List.mem_cons_self))
        · have distinct := (List.nodup_append.mp charted.distinct).1
          exact (List.nodup_cons.mp distinct).1
        · rw [Client.recordings_release]
          exact charted.not_recorded own
      exact .inr (.inr (givenUp_of_lost (reachable.step (.poll flight))
        ((lost.acts (acts.frame others)).perm after.symm)))

theorem ended_of_ofProgress {now time : Nat} {progress : Progress} {result : ActionResult}
    (ended : Flight.ofProgress now progress = .actionEnded result time) :
    progress = .done result := by
  cases progress with
  | done r =>
    cases ended
    rfl
  | waiting job => cases ended

theorem Reachable.refused_at_once (reachable : Reachable t) {action : Action} {err : Error}
    {time : Nat} (connects : action.connects = true)
    (ended : (t.step (.dispatch action)).flights[t.flights.length]? =
      some (.actionEnded (.error err) time))
    (ends : err.endsAttempt = true) {r : PagedChannel}
    (opened : r ∈ (t.step (.dispatch action)).client.openings)
    (new : r ∉ t.client.openings) : (t.step (.dispatch action)).GivenUp r.handle := by
  have charted := (reachable.step (.dispatch action)).charted
  have failed : (t.client.dispatch action).2 = .done (.error err) := by
    have launched : (t.step (.dispatch action)).flights[t.flights.length]? =
        some (.ofProgress (t.client.dispatch action).1.now (t.client.dispatch action).2) :=
      List.getElem?_concat_length
    exact ended_of_ofProgress (Option.some.inj (launched.symm.trans ended))
  have same : (t.step (.dispatch action)).client.recordings = t.client.recordings :=
    Client.recordings_dispatch connects failed ends
  refine givenUp_of_lost (reachable.step (.dispatch action))
    ⟨charted.lt_of_opened opened, ?_, ?_⟩
  · intro pending
    obtain ⟨f, present, p, isPending, handle⟩ := mem_pendingHandles_held.mp pending
    obtain ⟨other, found⟩ := List.mem_iff_getElem?.mp present
    have own := charted.pending p (channel_mem_held.mpr ⟨f, present, isPending⟩)
    have one := charted.eq_of_opened own opened handle
    -- The flight of the action has ended, and the others hold only what was opened before.
    by_cases last : other = t.flights.length
    · subst last
      rw [ended] at found
      cases found
      cases isPending
    · have different : t.subject (.dispatch action) ≠ some other := fun same =>
        last (Option.some.inj same).symm
      rw [flights_step_other different] at found
      have before := channel_mem_held.mpr ⟨f, List.mem_of_getElem? found, isPending⟩
      exact new (one ▸ reachable.charted.pending p before)
  · rw [same]
    intro recorded
    obtain ⟨r', member, handle⟩ := List.mem_map.mp recorded
    have own := charted.recorded r' (same ▸ member)
    have one := charted.eq_of_opened own opened handle
    exact new (one ▸ reachable.charted.recorded r' member)

theorem Reachable.refused (reachable : Reachable t) (found : t.flights[flight]? = some f)
    (pending : f.pending? = some p) {err : Error} {time : Nat}
    (ended : (t.step (.poll flight)).flights[flight]? = some (.actionEnded (.error err) time))
    (ends : err.endsAttempt = true) : (t.step (.poll flight)).GivenUp p.channel.handle := by
  rcases reachable.attempt_poll found pending with
    ⟨f', found', pending'⟩ | ⟨_, _, recorded⟩ | givenUp
  · have same := found'.symm.trans ended
    cases same
    cases pending'
  · obtain ⟨race, limit, deadline, next, waits⟩ := connect_of_pending pending
    obtain ⟨below, _⟩ := List.getElem?_eq_some_iff.mp found
    have unrecorded := reachable.charted.not_recorded
      (mem_pendingHandles_held.mpr ⟨f, List.mem_of_getElem? found, p, pending, rfl⟩)
    cases f with
    | action job =>
      cases waits
      rw [Tab.step, poll_action found] at ended
      have failed := ended_of_ofProgress
        (Option.some.inj ((List.getElem?_set_self below).symm.trans ended))
      rw [poll_action found] at recorded
      have same : (t.client.poll (.connect p race limit deadline next)).1.recordings =
          t.client.recordings := Client.recordings_pollConnect failed ends
      exact absurd (List.mem_map.mpr ⟨_, same ▸ recorded, rfl⟩) unrecorded
    | script run =>
      rw [Tab.step, poll_script found, List.getElem?_set_self below] at ended
      cases progress : (t.client.pollScript run).2 <;> rw [progress] at ended <;> cases ended
    | _ => cases waits
  · exact givenUp

theorem Reachable.attempt_step (reachable : Reachable t) (found : t.flights[flight]? = some f)
    (pending : f.pending? = some p) (event : TabEvent ω) :
    (∃ f', (t.step event).flights[flight]? = some f' ∧ f'.pending? = some p) ∨
      (t.verdict? f = some (.resolved (.ok ())) ∧ t.client.pageId? = some p.page ∧
        (p.page, p.channel) ∈ (t.step event).client.recordings) ∨
      (t.step event).GivenUp p.channel.handle := by
  obtain ⟨below, _⟩ := List.getElem?_eq_some_iff.mp found
  by_cases moves : t.subject event = some flight
  · cases event with
    | dispatch action => exact absurd (Option.some.inj moves).symm (Nat.ne_of_lt below)
    | run script => exact absurd (Option.some.inj moves).symm (Nat.ne_of_lt below)
    | poll polled =>
      cases moves
      exact reachable.attempt_poll found pending
    | _ => cases moves
  · rw [flights_step_other moves]
    exact .inl ⟨f, found, pending⟩

theorem Reachable.outcome (reachable : Reachable t) {r : PagedChannel}
    (opened : r ∈ t.client.openings) :
    t.Finds r.handle .pending ∨ r ∈ t.client.recordings ∨ t.GivenUp r.handle := by
  have charted := reachable.charted
  by_cases pending : r.handle ∈ pendingHandles t.held
  · exact .inl ⟨charted.held _ pending, mem_pendingHandles_held.mp pending⟩
  by_cases recorded : r.handle ∈ t.client.recordings.map PagedChannel.handle
  · obtain ⟨r', member, same⟩ := List.mem_map.mp recorded
    have one := charted.eq_of_opened (charted.recorded r' member) opened same
    exact .inr (.inl (one ▸ member))
  · exact .inr (.inr (givenUp_of_lost reachable ⟨charted.lt_of_opened opened, pending, recorded⟩))

/-! ### Pages that go -/

theorem Reachable.left (reachable : Reachable t) {r : PagedChannel}
    (recorded : r ∈ t.client.recordings)
    (standing : ¬ Superseded t.client.recordings r.1 r.2)
    (gone : t.client.pageId? ≠ some r.1) : t.Finds r.handle .closed := by
  refine reachable.charted.left r recorded ?_ gone
  by_contra replaced
  exact standing ((superseded_iff reachable.charted.recordings_nodup recorded).mpr replaced)

theorem recordings_step (t : Tab ω) (event : TabEvent ω) :
    t.client.recordings <+: (t.step event).client.recordings := by
  rcases t.step_cases event with ⟨world, today, rfl⟩ | ⟨_, _, _, acts, _⟩
  · exact List.prefix_refl _
  · exact acts.recordings_prefix

theorem Reachable.leaves (reachable : Reachable t) (event : TabEvent ω)
    (current : t.Finds handle .current)
    (gone : (t.step event).client.pageId? ≠ t.client.pageId?) :
    (t.step event).Finds handle .closed ∨
      (t.step event).Finds handle .superseded ∧
        (t.step event).client.recordings ≠ t.client.recordings := by
  obtain ⟨_, page, channel, isPage, found, rfl, _⟩ := current
  rw [(reachable.charted.page page isPage).2] at found
  have recorded := (mem_of_find?_channelsOf found).1
  have isCurrent : t.client.pageId? = some page.id := by
    unfold Client.pageId?
    rw [isPage, Option.map_some]
  by_cases superseded : Superseded (t.step event).client.recordings page.id channel
  · refine .inr ⟨⟨page.id, channel, superseded, rfl⟩, ?_⟩
    intro same
    rw [same, superseded_iff reachable.charted.recordings_nodup recorded] at superseded
    exact superseded found
  · exact .inl ((reachable.step event).left ((recordings_step t event).subset recorded) superseded
      (isCurrent ▸ gone))

theorem pageId_step (t : Tab ω) (event : TabEvent ω) {page : PageId}
    (current : (t.step event).client.pageId? = some page) :
    t.client.pageId? = some page ∨ t.client.pages ≤ page := by
  rcases t.step_cases event with ⟨world, today, rfl⟩ | ⟨_, _, _, acts, _⟩
  · exact .inl current
  · exact acts.pageId_or_new current

/-- The events of a tab that load or unload its page and record nothing. -/
inductive Turns (t : Tab ω) : TabEvent ω → Prop where
  | clear : Turns t .clear
  | unload : Turns t (.dispatch .pageUnload)
  | dispatch (kind : HttpKind) (r : RequestAction) : Turns t (.dispatch (.http kind r))
  | poll {flight : Nat} {r : RequestAction} {ticket : Ticket}
      (found : t.flights[flight]? = some (.action (.request r ticket))) : Turns t (.poll flight)

theorem Turns.recordings_eq (turns : t.Turns event) :
    (t.step event).client.recordings = t.client.recordings := by
  cases turns with
  | clear => exact t.client.recordings_clear
  | unload => exact (Client.closes_unloadPage t.client).recordings_eq
  | dispatch kind r => exact t.client.recordings_dispatchRequest kind (kind.force r)
  | poll found =>
    rename_i flight r ticket
    rw [Tab.step, poll_action found]
    exact t.client.recordings_pollRequest r ticket

/-- A script has ended, other than by being refused. -/
inductive Finishes (t : Tab ω) : TabEvent ω → Prop where
  | poll {flight : Nat} {run : ScriptRun} {result : ScriptResult} {time : Nat}
      (found : t.flights[flight]? = some (.script run))
      (ended : (t.poll flight).flights[flight]? = some (.scriptEnded result time)) :
      Finishes t (.poll flight)
  | run {script : Script} {result : ScriptResult} {time : Nat}
      (idle : t.client.running = false) (named : Text.isBlankText script.name = false)
      (ended : (t.step (.run script)).flights[t.flights.length]? =
        some (.scriptEnded result time)) :
      Finishes t (.run script)

theorem ended_of_ofScript {now time : Nat} {progress : ScriptProgress} {result : ScriptResult}
    (ended : Flight.ofScript now progress = .scriptEnded result time) :
    progress = .done result := by
  cases progress with
  | done r =>
    cases ended
    rfl
  | waiting run => cases ended

theorem Finishes.page_eq_none (finishes : t.Finishes event) :
    (t.step event).client.session.page = none := by
  cases finishes with
  | poll found ended =>
    rename_i flight run result time
    obtain ⟨below, _⟩ := List.getElem?_eq_some_iff.mp found
    rw [poll_script found] at ended
    have done := ended_of_ofScript (Option.some.inj ((List.getElem?_set_self below).symm.trans ended))
    rw [Tab.step, poll_script found]
    exact Client.page_pollScript done
  | run idle named ended =>
    rename_i script result time
    have launched : (t.step (.run script)).flights[t.flights.length]? =
        some (.ofScript (t.client.runScript script).1.now (t.client.runScript script).2) :=
      List.getElem?_concat_length
    have done := ended_of_ofScript (Option.some.inj (launched.symm.trans ended))
    exact Client.page_runScript idle named done

/-! ### All channels -/

/-- What becomes of the channels of a tab. -/
structure Fates (t : Tab ω) : Prop where
  /-- Every channel has a number of its own. -/
  handles : t.client.openings.map PagedChannel.handle = List.range t.client.channels.length
  situation : ∀ r ∈ t.client.openings, ∃! s, t.Finds r.handle s
  /-- What is no longer being connected was recorded on its page, or it is given up. -/
  outcome : ∀ r ∈ t.client.openings, t.Finds r.handle .pending ∨ r ∈ t.client.recordings ∨
    t.GivenUp r.handle
  /-- An attempt that has not succeeded in time, or whose page is gone, is given up. -/
  attempt : ∀ (flight : Nat) (f : Flight) (p : PendingChannel),
    t.flights[flight]? = some f → f.pending? = some p → ∀ event,
    (∃ f' : Flight, (t.step event).flights[flight]? = some f' ∧ f'.pending? = some p) ∨
      (t.verdict? f = some (.resolved (.ok ())) ∧ t.client.pageId? = some p.page ∧
        (p.page, p.channel) ∈ (t.step event).client.recordings) ∨
      (t.step event).GivenUp p.channel.handle
  /-- So is one that an action has returned an error for. -/
  refused : ∀ (flight : Nat) (f : Flight) (p : PendingChannel) err time,
    t.flights[flight]? = some f → f.pending? = some p →
    (t.step (.poll flight)).flights[flight]? = some (.actionEnded (.error err) time) →
    err.endsAttempt = true → (t.step (.poll flight)).GivenUp p.channel.handle
  refused_at_once : ∀ (action : Action) (err : Error) time, action.connects = true →
    (t.step (.dispatch action)).flights[t.flights.length]? =
      some (.actionEnded (.error err) time) →
    err.endsAttempt = true → ∀ r ∈ (t.step (.dispatch action)).client.openings,
      r ∉ t.client.openings → (t.step (.dispatch action)).GivenUp r.handle
  /-- Such an action records nothing, whoever dispatches it. -/
  refused_anywhere : ∀ (c : Client ω) (action : Action) (err : Error), action.connects = true →
    (c.dispatch action).2 = .done (.error err) → err.endsAttempt = true →
    (c.dispatch action).1.recordings = c.recordings
  /-- The channels of a page that is gone are closed. -/
  left : ∀ r ∈ t.client.recordings, ¬ Superseded t.client.recordings r.1 r.2 →
    t.client.pageId? ≠ some r.1 → t.Finds r.handle .closed
  /-- They are closed when the page goes; a script may put others in their places before that. -/
  leaves : ∀ event handle, t.Finds handle .current →
    (t.step event).client.pageId? ≠ t.client.pageId? →
    (t.step event).Finds handle .closed ∨
      (t.step event).Finds handle .superseded ∧
        (t.step event).client.recordings ≠ t.client.recordings
  turns : ∀ event handle, t.Turns event → t.Finds handle .current →
    (t.step event).client.pageId? ≠ t.client.pageId? → (t.step event).Finds handle .closed
  cleared : (t.step .clear).client.pageId? = none
  unloaded : (t.step (.dispatch .pageUnload)).client.pageId? = none
  finished : ∀ event, t.Finishes event → (t.step event).client.pageId? = none
  /-- A page that takes the place of another is a new one. -/
  replaced : ∀ event page, (t.step event).client.pageId? = some page →
    t.client.pageId? = some page ∨ ∀ r ∈ t.client.recordings, r.1 < page

theorem Reachable.fates (reachable : Reachable t) : Fates t where
  handles := reachable.charted.openings
  situation := fun _ opened => unique_situation reachable.charted opened
  outcome := fun _ opened => reachable.outcome opened
  attempt := fun _ _ _ found pending event => reachable.attempt_step found pending event
  refused := fun _ _ _ _ _ found pending ended ends => reachable.refused found pending ended ends
  refused_at_once := fun _ _ _ connects ended ends _ opened new =>
    reachable.refused_at_once connects ended ends opened new
  refused_anywhere := fun _ _ _ connects failed ends =>
    Client.recordings_dispatch connects failed ends
  left := fun _ recorded standing gone => reachable.left recorded standing gone
  leaves := fun event _ current gone => reachable.leaves event current gone
  turns := by
    intro event handle turns current gone
    rcases reachable.leaves event current gone with closed | ⟨_, more⟩
    · exact closed
    · exact absurd turns.recordings_eq more
  cleared := congrArg (Option.map Page.id) t.client.page_clear
  unloaded := congrArg (Option.map Page.id) t.client.page_clear
  finished := fun _ finishes => congrArg (Option.map Page.id) finishes.page_eq_none
  replaced := by
    intro event page current
    rcases pageId_step t event current with before | new
    · exact .inl before
    · exact .inr fun r recorded => Nat.lt_of_lt_of_le (reachable.charted.pages r recorded) new

theorem fates_connected :
    connected.Finds 0 .current ∧ (connected.step (.dispatch .pageUnload)).Finds 0 .closed := by
  have opened : 0 < connected.client.channels.length := by decide +kernel
  have stands : connected.situation 0 = .current := by decide +kernel
  have current : connected.Finds 0 .current :=
    stands ▸ finds_situation connected_reachable.charted opened
  have fates := Reachable.fates connected_reachable
  have gone : (connected.step (.dispatch .pageUnload)).client.pageId? ≠ connected.client.pageId? := by
    rw [fates.unloaded]
    decide +kernel
  exact ⟨current, fates.turns _ 0 .unload current gone⟩

end Tab

end LiveSession
