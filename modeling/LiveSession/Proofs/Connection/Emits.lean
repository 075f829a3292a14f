import Mathlib.Data.List.Infix
import LiveSession.Proofs.Connection.Buffers

/-!
# What becomes of the emits of a channel

A channel that is not connected yet keeps its emits, and sends them when it is; when connecting
fails, or the channel is closed before, they are dropped. `Hub.emits_delivered` says of every run
which of the accepted emits are put into the queue, and in which order.
-/

namespace LiveSession

/-- What a move means for the emits of a channel. -/
inductive EmitNote where
  /-- An emit is accepted, and kept or sent. -/
  | accepted (args : List Json) (kept : Bool)
  /-- The channel stops keeping its emits, as it is connected. -/
  | connected
  /-- The channel stops keeping its emits, as it fails or is closed. -/
  | failed

/-- What becomes of an accepted emit. -/
inductive EmitFate where
  | sent
  | dropped
  | waiting
  deriving DecidableEq

namespace EmitNote

/-- What becomes of the emits that are kept when the notes begin. -/
def ending : List EmitNote → EmitFate
  | [] => .waiting
  | .accepted .. :: notes => ending notes
  | .connected :: _ => .sent
  | .failed :: _ => .dropped

/-- The accepted emits in the order of their acceptance, with what becomes of them: one that is kept
shares the end of the time in which it is kept. -/
def fates : List EmitNote → List (List Json × EmitFate)
  | [] => []
  | .accepted args kept :: notes => (args, if kept then ending notes else .sent) :: fates notes
  | .connected :: notes | .failed :: notes => fates notes

def withFate (fate : EmitFate) (emits : List (List Json × EmitFate)) : List (List Json) :=
  (emits.filter fun e => e.2 = fate).map Prod.fst

theorem withFate_append (fate : EmitFate) (xs ys : List (List Json × EmitFate)) :
    withFate fate (xs ++ ys) = withFate fate xs ++ withFate fate ys := by
  unfold withFate
  rw [List.filter_append, List.map_append]

theorem withFate_same (fate : EmitFate) (buffer : List (List Json)) :
    withFate fate (buffer.map fun args => (args, fate)) = buffer := by
  unfold withFate
  rw [List.filter_eq_self.mpr]
  · rw [List.map_map]
    exact List.map_id _
  · intro e member
    obtain ⟨args, _, rfl⟩ := List.mem_map.mp member
    exact decide_eq_true rfl

theorem withFate_other {fate other : EmitFate} (different : other ≠ fate)
    (buffer : List (List Json)) : withFate fate (buffer.map fun args => (args, other)) = [] := by
  unfold withFate
  rw [List.filter_eq_nil_iff.mpr]
  · rfl
  · intro e member
    obtain ⟨args, _, rfl⟩ := List.mem_map.mp member
    exact fun same => different (of_decide_eq_true same)

end EmitNote

/-- The time in which a channel keeps its emits ends between these states. -/
def ChannelState.passage (before after : ChannelState) : Option EmitNote :=
  if before.buffers then
    match after with
    | .connected => some .connected
    | .errored | .closed => some .failed
    | .idle | .connecting => none
  else none

theorem ChannelState.passage_eq_none {before after : ChannelState}
    (goes_on : after.buffers = true ∨ before.buffers = false) : before.passage after = none := by
  unfold passage
  cases keeps : before.buffers with
  | false => rfl
  | true =>
    have still : after.buffers = true := goes_on.resolve_right (by rw [keeps]; exact nofun)
    cases after with
    | idle | connecting => rfl
    | connected | errored | closed => cases still

namespace HubChannel

open EmitNote

variable {c c' : HubChannel} {sent : List (String × List Json)}

/-- The emits that a channel keeps and those of the notes, with their fates. -/
def pending (c : HubChannel) (notes : List EmitNote) : List (List Json × EmitFate) :=
  (c.buffer.map fun args => (args, ending notes)) ++ fates notes

/-- The emits that leave a channel are settled: they are sent now, or dropped. -/
structure Settles (c c' : HubChannel) (note : Option EmitNote)
    (sent : List (String × List Json)) : Prop where
  kept : c'.state.buffers = false → c'.buffer = []
  settled : ∀ notes, ∃ done, c.pending (note.toList ++ notes) = done ++ c'.pending notes ∧
    withFate .waiting done = [] ∧ (withFate .sent done).map (fun args => (c.wire, args)) = sent

theorem Passes.settles (kept : c.state.buffers = false → c.buffer = [])
    (passes : c.Passes c' sent) : c.Settles c' (c.state.passage c'.state) sent := by
  -- A channel that keeps nothing has nothing to settle.
  have nothing (stopped : c.state.buffers = false) (buffer : c'.buffer = []) (notes) :
      c.pending ((c.state.passage c'.state).toList ++ notes) = [] ++ c'.pending notes := by
    rw [ChannelState.passage_eq_none (.inr stopped), pending, pending, kept stopped, buffer]
    rfl
  cases passes with
  | still buffer state =>
    constructor
    case kept =>
      intro stopped
      rw [buffer]
      exact kept (state.resolve_left (by rw [stopped]; exact nofun))
    case settled =>
      intro notes
      refine ⟨[], ?_, rfl, rfl⟩
      rw [ChannelState.passage_eq_none state, pending, pending, buffer]
      rfl
  | flushed state buffer =>
    refine ⟨fun _ => buffer, fun notes => ?_⟩
    cases stopped : c.state.buffers with
    | false =>
      refine ⟨[], nothing stopped buffer notes, rfl, ?_⟩
      rw [kept stopped]
      rfl
    | true =>
      refine ⟨c.buffer.map fun args => (args, .sent), ?_, withFate_other (by decide) _, ?_⟩
      · rw [state, ChannelState.passage, if_pos stopped, pending, pending, buffer]
        rfl
      · rw [withFate_same]
  | failed state buffer =>
    refine ⟨fun _ => buffer, fun notes => ?_⟩
    cases stopped : c.state.buffers with
    | false => exact ⟨[], nothing stopped buffer notes, rfl, rfl⟩
    | true =>
      have failed : c.state.passage c'.state = some .failed := by
        rcases state with state | state <;> rw [state, ChannelState.passage, if_pos stopped]
      refine ⟨c.buffer.map fun args => (args, .dropped), ?_, withFate_other (by decide) _, ?_⟩
      · rw [failed, pending, pending, buffer]
        rfl
      · have nobody : withFate .sent (c.buffer.map fun args => (args, EmitFate.dropped)) = [] :=
          withFate_other (by decide) _
        rw [nobody]
        rfl

theorem settles_sent (connected : c.state = .connected) (args : List Json)
    (kept : c.buffer = []) :
    c.Settles c (some (.accepted args c.state.buffers)) [(c.wire, args)] := by
  refine ⟨fun _ => kept, fun notes => ⟨[(args, .sent)], ?_, rfl, rfl⟩⟩
  rw [connected, pending, pending, kept]
  rfl

theorem settles_kept (waits : c.state.buffers = true) (args : List Json) :
    c.Settles { c with buffer := c.buffer ++ [args] } (some (.accepted args c.state.buffers)) [] := by
  constructor
  case kept =>
    intro stopped
    rw [waits] at stopped
    cases stopped
  case settled =>
    intro notes
    refine ⟨[], ?_, rfl, rfl⟩
    rw [waits, pending, pending, List.map_append, List.nil_append, List.append_assoc]
    rfl

end HubChannel

namespace Hub

open EmitNote

variable {h h' : Hub} {id : ChannelId} {m : HubMove}

def emitNote? (h : Hub) (id : ChannelId) (m : HubMove) : Option EmitNote :=
  match h.accepted? id m with
  | some args => some (.accepted args (h.channel id).state.buffers)
  | none => (h.channel id).state.passage ((h.move m).channel id).state

def emitNotes (h : Hub) (id : ChannelId) : List HubMove → List EmitNote
  | [] => []
  | m :: moves => (h.emitNote? id m).toList ++ (h.move m).emitNotes id moves

def eventsOf (id : ChannelId) (box : List (ChannelId × String × List Json)) :
    List (String × List Json) :=
  (box.filter fun e => e.1 = id).map Prod.snd

theorem eventsOf_append (id : ChannelId) (xs ys : List (ChannelId × String × List Json)) :
    eventsOf id (xs ++ ys) = eventsOf id xs ++ eventsOf id ys := by
  unfold eventsOf
  rw [List.filter_append, List.map_append]

theorem eventsOf_puts_self (about : h.subject? m = some id) {sent : List (String × List Json)}
    (events : (h.move m).events = h.events ++ sent) : eventsOf id (h.puts m) = sent := by
  unfold eventsOf puts
  rw [about, events]
  simp [List.filter_map, Function.comp_def]

theorem eventsOf_puts_other (about : h.subject? m ≠ some id) : eventsOf id (h.puts m) = [] := by
  unfold eventsOf puts
  cases subject : h.subject? m with
  | none => rfl
  | some other =>
    have different : other ≠ id := fun same => about (by rw [subject, same])
    refine List.map_eq_nil_iff.mpr (List.filter_eq_nil_iff.mpr fun e member => ?_)
    obtain ⟨_, _, rfl⟩ := List.mem_map.mp member
    exact fun same => different (of_decide_eq_true same)

/-- A channel keeps emits only until it is connected or has failed. -/
structure Keeping (id : ChannelId) (h : Hub) : Prop where
  below : id < h.channels.length
  kept : (h.channel id).state.buffers = false → (h.channel id).buffer = []

theorem wire_move (below : id < h.channels.length) (m : HubMove) :
    id < (h.move m).channels.length ∧ ((h.move m).channel id).wire = (h.channel id).wire := by
  cases subject : h.subject? m with
  | none =>
    have quiet := quiet_of_nobody subject
    exact ⟨Nat.lt_of_lt_of_le below quiet.count, (quiet.fails id below).wire⟩
  | some other =>
    have only := (alone_of_subject subject).only
    refine ⟨by rw [only.count]; exact below, ?_⟩
    by_cases same : id = other
    · rw [same]
      exact only.wire
    · rw [only.others id same]

theorem settles_accepted (keeping : Keeping id h) {args : List Json}
    (accepted : h.accepted? id m = some args) :
    (h.channel id).Settles ((h.move m).channel id) (h.emitNote? id m)
      (eventsOf id (h.puts m)) := by
  have note : h.emitNote? id m = some (.accepted args (h.channel id).state.buffers) := by
    rw [emitNote?, accepted]
  rw [note]
  unfold accepted? at accepted
  split at accepted
  · rename_i other args'
    split at accepted
    · rename_i emits
      obtain ⟨rfl, held, taken⟩ := emits
      cases accepted
      cases answer : h.emit other args with
      | error e =>
        rw [answer] at taken
        cases taken
      | ok h' =>
        have moved : h.move (.event (.emit other args)) = h' := by
          have tried : h.move (.event (.emit other args)) = h.emitted other args := if_pos held
          rw [tried, emitted, answer]
        rcases emit_cases answer with ⟨connected, channels, events⟩ | ⟨waits, events, kept⟩
        · rw [eventsOf_puts_self rfl (by rw [moved]; exact events), moved,
            channel_of_channels channels]
          refine HubChannel.settles_sent connected args (keeping.kept ?_)
          rw [connected]
          rfl
        · have nothing : (h.move (.event (.emit other args))).events = h.events ++ [] := by
            rw [moved, events, List.append_nil]
          rw [eventsOf_puts_self rfl nothing, moved, kept, channel_modify_self keeping.below]
          exact HubChannel.settles_kept waits args
    · cases accepted
  · cases accepted

theorem settles_move (keeping : Keeping id h) (accepts : (h.move m).Accepts id) :
    (h.channel id).Settles ((h.move m).channel id) (h.emitNote? id m)
      (eventsOf id (h.puts m)) := by
  cases accepted : h.accepted? id m with
  | some args => exact settles_accepted keeping accepted
  | none =>
    have note : h.emitNote? id m =
        (h.channel id).state.passage ((h.move m).channel id).state := by
      rw [emitNote?, accepted]
    rw [note]
    by_cases about : h.subject? m = some id
    · obtain ⟨sent, events, passes⟩ := serves_move keeping.below about accepted accepts
      rw [eventsOf_puts_self about events]
      exact passes.settles keeping.kept
    · rw [eventsOf_puts_other about]
      refine HubChannel.Passes.settles keeping.kept (HubChannel.Fails.passes ?_)
      cases subject : h.subject? m with
      | none => exact (quiet_of_nobody subject).fails id keeping.below
      | some other =>
        have different : id ≠ other := fun same => about (by rw [subject, same])
        exact .of_eq ((alone_of_subject subject).only.others id different)

/-- Of the emits that a channel keeps and those that it accepts in a run, the ones that are sent are
put into the queue, and those that still wait are kept, both in the order of their acceptance. -/
theorem run_emits (keeping : Keeping id h) (moves : List HubMove)
    (accepts : ∀ past, past <+: moves → (h.walk past).Accepts id) :
    eventsOf id (h.outbox moves) =
        (withFate .sent ((h.channel id).pending (h.emitNotes id moves))).map
          (fun args => ((h.channel id).wire, args)) ∧
      ((h.walk moves).channel id).buffer =
        withFate .waiting ((h.channel id).pending (h.emitNotes id moves)) := by
  induction moves generalizing h with
  | nil =>
    have pending : (h.channel id).pending [] =
        (h.channel id).buffer.map fun args => (args, EmitFate.waiting) := List.append_nil _
    constructor
    · have nobody : withFate .sent
          ((h.channel id).buffer.map fun args => (args, EmitFate.waiting)) = [] :=
        withFate_other (by decide) _
      rw [emitNotes, pending, nobody]
      rfl
    · rw [emitNotes, pending, withFate_same]
      rfl
  | cons m moves ih =>
    -- What this move settles comes before what the others settle, and `Keeping` holds after it.
    have settles := settles_move keeping (accepts [m] (by simp))
    obtain ⟨below, wire⟩ := wire_move keeping.below m
    obtain ⟨sent, left⟩ := ih ⟨below, settles.kept⟩ fun past early =>
      accepts (m :: past) (List.prefix_cons_inj m |>.mpr early)
    obtain ⟨done, pending, settled, now⟩ := settles.settled ((h.move m).emitNotes id moves)
    rw [emitNotes, pending, withFate_append, withFate_append, settled, List.nil_append,
      List.map_append, now, outbox, eventsOf_append, sent, wire]
    exact ⟨rfl, left⟩

/-- In a run of a new channel, on a hub whose queue takes commands whenever the channel is
connected, its event frames in the queue are the emits that are accepted, each once and in the order
of their acceptance, but for those that it keeps while it is not connected: if that ends without a
connection, they are dropped, and as long as it does not end, they wait. -/
theorem emits_delivered (h : Hub) (ns : String) (moves : List HubMove)
    (accepts : ∀ past, past <+: moves →
      ((h.create ns).walk past).Accepts h.channels.length) :
    let id := h.channels.length
    let h₀ := h.create ns
    let emits := fates (h₀.emitNotes id moves)
    (h₀.walk moves).events = h₀.events ++ (h₀.outbox moves).map Prod.snd ∧
      eventsOf id (h₀.outbox moves) =
        (withFate .sent emits).map (fun args => (wireNamespace ns, args)) ∧
      ((h₀.walk moves).channel id).buffer = withFate .waiting emits := by
  intro id h₀ emits
  have new : h₀.channel id = { ns } := by
    unfold channel h₀ create
    rw [List.getElem?_concat_length]
    rfl
  have keeping : Keeping id h₀ := by
    refine ⟨by simp [h₀, create, id], fun _ => ?_⟩
    rw [new]
  obtain ⟨sent, waiting⟩ := run_emits keeping moves accepts
  rw [new] at sent waiting
  exact ⟨h₀.events_walk moves, sent, waiting⟩

instance (id : ChannelId) (h : Hub) : Decidable (h.Accepts id) :=
  inferInstanceAs (Decidable (_ → _))

/-- Emits before the first connection and after it are sent; one before a refused connection is not,
and one after it is. -/
theorem emits_delivered_twice :
    let hub : Hub := { url := { scheme := "http", host := none, path := .segments [""] } }
    let emit (name : String) : HubMove := .event (.emit 0 [.str name])
    let hears (p : SocketPacket) : HubMove := .event (.receive (.message p))
    let moves : List HubMove :=
      [emit "a", .event (.connect 0), emit "b", .event .accepted, hears (.connect "/"), emit "c",
        hears (.disconnect "/"), .event (.connect 0), emit "d", .refused 0 "no", emit "e",
        .event (.connect 0), emit "f", .connected 0]
    eventsOf 0 ((hub.create "").outbox moves) =
      [("/", [.str "a"]), ("/", [.str "b"]), ("/", [.str "c"]), ("/", [.str "f"])] := by
  intro hub emit hears moves
  have accepts : ∀ past ∈ moves.inits, ((hub.create "").walk past).Accepts 0 := by
    decide +kernel
  have sent := (emits_delivered hub "" moves fun past early =>
    accepts past (List.mem_inits past moves |>.mpr early)).2.1
  refine sent.trans ?_
  unfold moves emit hears hub
  rfl

end Hub

end LiveSession
