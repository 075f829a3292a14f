import LiveSession.Proofs.Client.Hearing
import Mathlib.Data.List.Find

/-!
# Watches

A watch is told by what its channel dispatches in its time: the first occurrence that counts ends
it, else the end of its time does. When it is carried on, and what else happens on the tab, makes no
difference to that. If nothing holds it up, it ends at the very moment.
-/

namespace LiveSession

def Action.watch? : Action → Option (WatchKind × WatchAction)
  | .awaitEmit a => some (.expect, a)
  | .confirmNoEmit a => some (.forbid fun _ => true, a)
  | .confirmNoMatchingEmit a counts => some (.forbid counts, a)
  | _ => none

def WatchKind.counts (k : WatchKind) (o : Occurrence) : Bool :=
  match k with
  | expect => true
  | forbid counts => counts o.args

theorem WatchKind.accept_eq (k : WatchKind) (o : Occurrence) :
    k.accept o = if k.counts o then some o.args else none := by
  cases k <;> rfl

namespace Watch

variable {w : Watch} {start now : Nat} {heard more : List Occurrence}

def report (w : Watch) (o : Occurrence) : SocketEvent :=
  { ns := w.ns, name := o.event, args := o.args }

def verdict (w : Watch) : Option Occurrence → ActionResult
  | some o =>
    match w.kind with
    | .expect => .ok (.event (w.report o))
    | .forbid _ => .error (.unexpectedEmit (w.report o))
  | none =>
    match w.kind with
    | .expect => .error (.awaitTimeout w.event w.ns w.limit)
    | .forbid _ => .ok .none

/-- The first occurrence that counts in the time of a watch. -/
def first? (w : Watch) (start : Nat) (heard : List Occurrence) : Option Occurrence :=
  heard.find? fun o => start ≤ o.time && o.time < start + w.limit && w.kind.counts o

def due (w : Watch) (start : Nat) (first : Option Occurrence) : Nat :=
  first.elim (start + w.limit) Occurrence.time

theorem first?_eq_winner? (since : ∀ o ∈ heard, start ≤ o.time) :
    w.first? start heard = Race.winner? (start + w.limit) w.kind.accept heard := by
  refine List.find?_congr fun o member => ?_
  rw [w.kind.accept_eq o, decide_eq_true (since o member), Bool.true_and]
  cases w.kind.counts o <;> rfl

theorem first?_append_of_some {o : Occurrence} (first : w.first? start heard = some o) :
    w.first? start (heard ++ more) = some o := by
  unfold first? at first ⊢
  rw [List.find?_append, first, Option.some_or]

theorem first?_append_of_none (first : w.first? start heard = none) :
    w.first? start (heard ++ more) = w.first? start more := by
  unfold first? at first ⊢
  rw [List.find?_append, first, Option.none_or]

theorem first?_mem {o : Occurrence} (first : w.first? start heard = some o) : o ∈ heard :=
  List.mem_of_find?_eq_some first

theorem first?_stable (reached : w.due start (w.first? start heard) ≤ now)
    (later : ∀ o ∈ more, now ≤ o.time) :
    w.first? start (heard ++ more) = w.first? start heard := by
  cases first : w.first? start heard with
  | some o => exact first?_append_of_some first
  | none =>
    rw [first] at reached
    rw [first?_append_of_none first]
    refine List.find?_eq_none.mpr fun o member => ?_
    have late : start + w.limit ≤ o.time := Nat.le_trans reached (later o member)
    rw [decide_eq_false (Nat.not_lt.mpr late), Bool.and_false, Bool.false_and]
    exact Bool.false_ne_true

theorem due_append (before : now ≤ w.due start (w.first? start heard))
    (later : ∀ o ∈ more, now ≤ o.time) :
    now ≤ w.due start (w.first? start (heard ++ more)) := by
  cases first : w.first? start heard with
  | some o =>
    rw [first?_append_of_some first, ← first]
    exact before
  | none =>
    rw [first?_append_of_none first]
    rw [first] at before
    cases next : w.first? start more with
    | some o => exact later o (first?_mem next)
    | none => exact before

end Watch

namespace Client

variable {ω : Type}

/-- The client when a watch has ended: an occurrence becomes the current event. -/
def closeWatch (c : Client ω) (w : Watch) (first : Option Occurrence) : Client ω :=
  first.elim (c.release w.race) fun o => (c.release w.race).capture (w.report o)

theorem history_closeWatch (c : Client ω) (w : Watch) (first : Option Occurrence) :
    (c.closeWatch w first).history = c.history := by
  obtain ⟨_, _, released⟩ := c.release_eq w.race
  unfold closeWatch
  rw [released]
  cases first <;> rfl

theorem world_closeWatch (c : Client ω) (w : Watch) (first : Option Occurrence) :
    (c.closeWatch w first).world = c.world := by
  obtain ⟨_, _, released⟩ := c.release_eq w.race
  unfold closeWatch
  rw [released]
  cases first <;> rfl

theorem event_closeWatch (c : Client ω) (w : Watch) (first : Option Occurrence) :
    (c.closeWatch w first).session.event =
      first.elim c.session.event fun o => some (w.report o) := by
  obtain ⟨_, _, released⟩ := c.release_eq w.race
  unfold closeWatch
  rw [released]
  cases first <;> rfl

variable [Transports ω] {c : Client ω} {w : Watch} {start : Nat} {heard : List Occurrence}

/-- What a race has collected for a watch is known to be over as soon as the watch is due. -/
theorem judge_watch
    (queue : (c.races.find? fun r => r.id = w.race).elim [] OpenRace.queue = heard)
    (ordered : Race.Ordered heard) (span : ∀ o ∈ heard, start ≤ o.time ∧ o.time ≤ c.now) :
    c.judge w.race (start + w.limit) w.kind.accept =
      if w.due start (w.first? start heard) ≤ c.now then
        some ((w.first? start heard).elim .elapsed fun o => .resolved o.args)
      else none := by
  unfold judge
  rw [queue, Race.poll_eq ordered fun o member => (span o member).2,
    ← Watch.first?_eq_winner? fun o member => (span o member).1]
  cases first : w.first? start heard with
  | some o =>
    have counted : w.kind.counts o = true := by
      have found := List.find?_some first
      simp only [Bool.and_eq_true] at found
      exact found.2
    have reached : w.due start (some o) ≤ c.now := (span o (Watch.first?_mem first)).2
    rw [if_pos reached]
    simp only [w.kind.accept_eq o, counted, if_true, Option.map_some, Option.elim_some]
  | none => rfl

omit [Transports ω] in
theorem endWatch_eq (first : Option Occurrence) (named : ∀ o ∈ first, o.event = w.event) :
    (c.release w.race).endWatch w (first.elim .elapsed fun o => .resolved o.args) =
      (c.closeWatch w first, w.verdict first) := by
  cases first with
  | some o =>
    have same : o.event = w.event := named o rfl
    cases kind : w.kind with
    | expect | forbid counts =>
      simp only [endWatch, closeWatch, Watch.verdict, Watch.report, Option.elim_some, kind, same]
  | none =>
    cases kind : w.kind with
    | expect | forbid counts => simp only [endWatch, closeWatch, Watch.verdict, Option.elim_none, kind]

theorem pollWatch_eq (channel : ChannelId)
    (queue : (c.races.find? fun r => r.id = w.race).elim [] OpenRace.queue = heard)
    (ordered : Race.Ordered heard) (span : ∀ o ∈ heard, start ≤ o.time ∧ o.time ≤ c.now)
    (named : ∀ o ∈ heard, o.event = w.event) :
    c.pollWatch channel w (start + w.limit) =
      if w.due start (w.first? start heard) ≤ c.now then
        (c.closeWatch w (w.first? start heard), .done (w.verdict (w.first? start heard)))
      else (c, .waiting (.watch channel w (start + w.limit))) := by
  have mine : ∀ o ∈ w.first? start heard, o.event = w.event :=
    fun o first => named o (Watch.first?_mem first)
  unfold pollWatch finishWatch?
  rw [judge_watch queue ordered span]
  by_cases reached : w.due start (w.first? start heard) ≤ c.now
  · rw [if_pos reached, if_pos reached, Option.map_some, endWatch_eq _ mine]
    rfl
  · rw [if_neg reached, if_neg reached]
    rfl

theorem isReady_watch (channel : ChannelId)
    (queue : (c.races.find? fun r => r.id = w.race).elim [] OpenRace.queue = heard)
    (ordered : Race.Ordered heard) (span : ∀ o ∈ heard, start ≤ o.time ∧ o.time ≤ c.now) :
    c.isReady (.watch channel w (start + w.limit)) =
      decide (w.due start (w.first? start heard) ≤ c.now) := by
  unfold isReady
  dsimp only
  rw [judge_watch queue ordered span]
  by_cases reached : w.due start (w.first? start heard) ≤ c.now
  · rw [if_pos reached, decide_eq_true reached]
    rfl
  · rw [if_neg reached, decide_eq_false reached]
    rfl

def watchFor (c : Client ω) (kind : WatchKind) (a : WatchAction) : Watch :=
  { kind
    ns := c.profile.namespaceOf a.ns
    event := a.event
    race := c.started
    limit := (c.draw (c.profile.timeout a.timeout)).2 }

def watching (c : Client ω) (a : WatchAction) (channel : ChannelId) : Client ω :=
  ((c.draw (c.profile.timeout a.timeout)).1.install channel [a.event]).1

theorem dispatch_watch {action : Action} {kind : WatchKind} {a : WatchAction}
    (watches : action.watch? = some (kind, a)) {page : Page} {channel : SocketChannel}
    (current : c.session.page = some page)
    (recorded : page.channels.find? (c.profile.namespaceOf a.ns) = some channel) :
    c.dispatch action = (c.watching a channel.handle).pollWatch channel.handle (c.watchFor kind a)
      (c.now + (c.watchFor kind a).limit) := by
  have found (name : String) :
      (c.draw (c.profile.timeout a.timeout)).1.session.channel name
        (c.profile.namespaceOf a.ns) = .ok channel := by
    show c.session.channel name _ = _
    unfold Session.channel Session.requirePage
    simp only [current, recorded, bind, Except.bind]
  cases action with
  | awaitEmit | confirmNoEmit | confirmNoMatchingEmit =>
    cases watches
    simp only [dispatch, dispatchWatch, found]
    rfl
  | _ => cases watches

end Client

end LiveSession
