import LiveSession.Proofs.Connection.Feeding
import LiveSession.Proofs.Connection.Placement
import LiveSession.Proofs.Connection.Servers
import Mathlib.Data.List.Dedup

/-!
# The latest connection of each server

A multiplexer files its connections under the URLs of their handshakes. `Filed` says that the file
agrees with the channels that have been opened in a run: it holds one connection for each server, the
one on which a channel was opened last. `open_latest` says what that means to the next channel.
-/

namespace LiveSession

namespace Server

/-- There is a URL of the server for which a handshake can be made. -/
def IsReachable (s : Server) : Prop :=
  ∃ url : Url, url.Served ∧ url.Rereads ∧ url.server = s

theorem IsReachable.text_iff {s s' : Server} (reachable : s.IsReachable) (reachable' : s'.IsReachable) :
    s.handshake.text = s'.handshake.text ↔ s = s' := by
  obtain ⟨url, served, rereads, rfl⟩ := reachable
  obtain ⟨url', served', -, rfl⟩ := reachable'
  exact Url.handshake_text_iff served served' rereads

end Server

namespace Hub

def fresh (url : Url) (cookie : Option String) : Hub :=
  { url, cookie }

/-- The hub with one more channel, which connects if it is told to. -/
def welcome (h : Hub) (url : Url) (config : ChannelConfig) : Hub :=
  let h' := h.create url.channelNamespace
  if config.autoConnect then h'.connect h.channels.length else h'

theorem site_create (h : Hub) (ns : String) : (h.create ns).url = h.url ∧ (h.create ns).cookie = h.cookie :=
  ⟨rfl, rfl⟩

theorem site_welcome (h : Hub) (url : Url) (config : ChannelConfig) :
    (h.welcome url config).url = h.url ∧ (h.welcome url config).cookie = h.cookie := by
  unfold welcome
  dsimp only
  split
  · exact (feeds_connect (h.create url.channelNamespace) _).site
  · exact h.site_create _

theorem channels_welcome (h : Hub) (url : Url) (config : ChannelConfig) :
    h.channels <+: (h.welcome url config).channels := by
  have created : h.channels <+: (h.create url.channelNamespace).channels := List.prefix_append _ _
  unfold welcome
  dsimp only
  split
  · have only := (h.create url.channelNamespace).only_connect h.channels.length
    refine List.prefix_iff_getElem?.mpr fun i below => ?_
    have within : i < (h.create url.channelNamespace).channels.length :=
      Nat.lt_of_lt_of_le below created.length_le
    have same := only.others i (Nat.ne_of_lt below)
    unfold channel at same
    rw [List.getElem?_eq_getElem (only.count.symm ▸ within), List.getElem?_eq_getElem within] at same
    rw [List.getElem?_eq_getElem (only.count.symm ▸ within)]
    exact congrArg some (same.trans (created.getElem below).symm)
  · exact created

theorem site_finish (h : Hub) (failure : Option String) :
    (h.finish failure).url = h.url ∧ (h.finish failure).cookie = h.cookie := by
  rw [finish_eq]
  exact (feeds_tellAll failure _ h.closing).site

theorem site_step (h : Hub) (event : HubEvent) :
    (h.step event).url = h.url ∧ (h.step event).cookie = h.cookie := by
  have guarded {p : Prop} [Decidable p] {h' : Hub} (feeds : Feeds h h') :
      (if p then h' else h).url = h.url ∧ (if p then h' else h).cookie = h.cookie :=
    feeds.guarded.site
  cases event with
  | create ns => exact h.site_create ns
  | listen id event | unlisten id event number => exact guarded (h.feeds_modify id _)
  | connect id => exact guarded (h.feeds_connect id)
  | disconnect id => exact guarded (h.feeds_disconnect id)
  | emit id args => exact guarded (h.feeds_emitted id args)
  | drop id => exact guarded (h.feeds_drop id)
  | accepted =>
    unfold step
    dsimp only
    split <;> exact ⟨rfl, rfl⟩
  | receive frame => exact guarded (h.feeds_receive frame)
  | finish failure =>
    unfold step
    dsimp only
    split
    · exact h.site_finish failure
    · exact ⟨rfl, rfl⟩

end Hub

def latestFor (server : Server) (opens : List (Server × Nat)) : Option Nat :=
  (opens.reverse.find? fun o => o.1 = server).map Prod.snd

def urlsOf (events : List MultiplexerEvent) : List Url :=
  events.filterMap fun
    | .openChannel url _ => some url
    | .event .. => none

theorem latestFor_append (server server' : Server) (opens : List (Server × Nat)) (i : Nat) :
    latestFor server (opens ++ [(server', i)]) =
      if server = server' then some i else latestFor server opens := by
  unfold latestFor
  rw [List.reverse_append, List.reverse_singleton, List.singleton_append, List.find?_cons]
  by_cases same : server = server'
  · simp [same]
  · simp [same, Ne.symm same]

theorem mem_of_latestFor {server : Server} {opens : List (Server × Nat)} {i : Nat}
    (latest : latestFor server opens = some i) : (server, i) ∈ opens := by
  obtain ⟨⟨server', j⟩, found, rfl⟩ := Option.map_eq_some_iff.mp latest
  have same : server' = server := by simpa using List.find?_some found
  rw [← same]
  exact List.mem_reverse.mp (List.mem_of_find?_eq_some found)

theorem exists_latestFor {server : Server} {opens : List (Server × Nat)}
    (member : server ∈ opens.map Prod.fst) : ∃ i, latestFor server opens = some i := by
  obtain ⟨o, among, same⟩ := List.mem_map.mp member
  have found : (opens.reverse.find? fun o => o.1 = server).isSome = true :=
    List.find?_isSome.mpr ⟨o, List.mem_reverse.mpr among, by simp [same]⟩
  obtain ⟨o', found⟩ := Option.isSome_iff_exists.mp found
  exact ⟨o'.2, by rw [latestFor, found, Option.map_some]⟩

namespace Multiplexer

def opened (m : Multiplexer) : List MultiplexerEvent → List (Server × Nat)
  | [] => []
  | .openChannel url config :: events =>
    match m.openChannel url config with
    | .ok (m', place) => (url.server, place.hub) :: m'.opened events
    | .error _ => m.opened events
  | .event i event :: events => (m.step (.event i event)).opened events

def extend (m : Multiplexer) (handshake : Url) (h : Hub) : Multiplexer :=
  { hubs := m.hubs ++ [h], latest := m.latest.set handshake.text m.hubs.length }

def replace (m : Multiplexer) (i : Nat) (h : Hub) : Multiplexer :=
  { m with hubs := m.hubs.set i h }

/-- The file of a multiplexer agrees with the channels that have been opened. -/
structure Filed (m : Multiplexer) (opens : List (Server × Nat)) : Prop where
  distinct : m.latest.names.Nodup
  keys : ∀ key ∈ m.latest.names, ∃ o ∈ opens, o.1.handshake.text = key
  found : ∀ server : Server, server.IsReachable →
    m.latest.find? server.handshake.text = latestFor server opens
  reachable : ∀ o ∈ opens, o.1.IsReachable
  site : ∀ o ∈ opens, ∃ h, m.hub? o.2 = some h ∧ h.url = o.1.handshake

variable {m m' : Multiplexer} {opens : List (Server × Nat)} {server : Server} {url handshake : Url}
  {config : ChannelConfig} {place : ChannelPlace} {events : List MultiplexerEvent} {i : Nat} {h : Hub}

/-! ### One channel -/

theorem lt_of_hub? (found : m.hub? i = some h) : i < m.hubs.length :=
  (List.getElem?_eq_some_iff.mp found).1

theorem hub?_extend (found : m.hub? i = some h) (handshake : Url) (new : Hub) :
    (m.extend handshake new).hub? i = some h :=
  (List.getElem?_append_left (lt_of_hub? found)).trans found

theorem hub?_extend_self (m : Multiplexer) (handshake : Url) (h : Hub) :
    (m.extend handshake h).hub? m.hubs.length = some h :=
  List.getElem?_concat_length

theorem hub?_replace_self (found : m.hub? i = some h) (new : Hub) : (m.replace i new).hub? i = some new :=
  List.getElem?_set_self (lt_of_hub? found)

theorem hub?_replace_other (m : Multiplexer) {i j : Nat} (other : j ≠ i) (new : Hub) :
    (m.replace i new).hub? j = m.hub? j :=
  List.getElem?_set_ne other.symm

theorem replace_replace (m : Multiplexer) (i : Nat) (h h' : Hub) :
    (m.replace i h).replace i h' = m.replace i h' := by
  unfold replace
  rw [List.set_set]

theorem modify_eq_replace (found : m.hub? i = some h) (f : Hub → Hub) : m.modify i f = m.replace i (f h) := by
  unfold hub? at found
  unfold modify replace
  rw [List.modify_eq_set_getElem?, found]
  rfl

theorem extend_replace (m : Multiplexer) (handshake : Url) (h h' : Hub) :
    (m.extend handshake h).replace m.hubs.length h' = m.extend handshake h' := by
  unfold extend replace
  simp

theorem isUsable_eq_true : m.isUsable i = true ↔ ∃ h, m.hub? i = some h ∧ h.isClosed = false := by
  unfold isUsable
  rw [Option.any_eq_true]
  simp

theorem hubFor_fresh
    (fresh : config.forceNew = true ∨
      ∀ i, m.latest.find? handshake.text = some i → m.isUsable i = false) :
    m.hubFor handshake config =
      (m.extend handshake (Hub.fresh handshake config.cookie), m.hubs.length) := by
  rcases fresh with forced | closed
  · exact hubFor_forced forced m handshake
  · unfold hubFor
    dsimp only
    split
    · rename_i i latest
      rw [closed i latest, Bool.and_false, if_neg Bool.false_ne_true]
      rfl
    · rfl

theorem withChannel_eq (found : m.hub? i = some h) (url : Url) (config : ChannelConfig) :
    m.withChannel i url config =
      (m.replace i (h.welcome url config), { hub := i, id := h.channels.length }) := by
  have created := modify_eq_replace found fun h => h.create url.channelNamespace
  have there := hub?_replace_self found (h.create url.channelNamespace)
  unfold withChannel Hub.welcome
  simp only [found, Option.map_some, Option.getD_some, created]
  split
  · rw [modify_eq_replace there, replace_replace]
  · rfl

theorem openChannel_shared (shaken : handshakeUrl url = .ok handshake) (shares : config.forceNew = false)
    (latest : m.latest.find? handshake.text = some i) (found : m.hub? i = some h)
    (live : h.isClosed = false) :
    m.openChannel url config =
      .ok (m.replace i (h.welcome url config), { hub := i, id := h.channels.length }) := by
  have usable : m.isUsable i = true := isUsable_eq_true.mpr ⟨h, found, live⟩
  rw [openChannel_eq shaken, hubFor_shared shares latest usable, withChannel_eq found]

theorem openChannel_fresh (shaken : handshakeUrl url = .ok handshake)
    (fresh : config.forceNew = true ∨
      ∀ i, m.latest.find? handshake.text = some i → m.isUsable i = false) :
    m.openChannel url config =
      .ok (m.extend handshake ((Hub.fresh handshake config.cookie).welcome url config),
        { hub := m.hubs.length, id := 0 }) := by
  have there := m.hub?_extend_self handshake (Hub.fresh handshake config.cookie)
  rw [openChannel_eq shaken, hubFor_fresh fresh, withChannel_eq there, extend_replace]
  rfl

theorem openChannel_unread (served : url.Served) (unread : ¬ url.Rereads) (m : Multiplexer)
    (config : ChannelConfig) :
    ∃ name fault, url.host = some (.domain name) ∧ Idna.toAscii? name.toList = none ∧
      m.openChannel url config = .error (.url fault) := by
  rcases Url.handshakeUrl_eq served with ⟨rereads, _⟩ | ⟨_, name, fault, host, long, failed⟩
  · exact absurd rereads unread
  · refine ⟨name, fault, host, long, ?_⟩
    rw [openChannel, failed]
    rfl

theorem sharing_cases (m : Multiplexer) (config : ChannelConfig) (latest : Option Nat) :
    (config.forceNew = true ∨ ∀ i, latest = some i → m.isUsable i = false) ∨
      (config.forceNew = false ∧ ∃ i h, latest = some i ∧ m.hub? i = some h ∧ h.isClosed = false) := by
  cases forced : config.forceNew with
  | true => exact .inl (.inl rfl)
  | false =>
    cases latest with
    | none => exact .inl (.inr nofun)
    | some i =>
      cases usable : m.isUsable i with
      | false => exact .inl (.inr fun j same => Option.some.inj same ▸ usable)
      | true =>
        obtain ⟨h, found, live⟩ := isUsable_eq_true.mp usable
        exact .inr ⟨rfl, i, h, rfl, found, live⟩

theorem not_fresh_of_shares {latest : Option Nat} (shares : config.forceNew = false)
    (last : latest = some i) (found : m.hub? i = some h) (live : h.isClosed = false) :
    ¬ (config.forceNew = true ∨ ∀ i, latest = some i → m.isUsable i = false) := by
  rintro (forced | closed)
  · rw [forced] at shares
    cases shares
  · have usable := isUsable_eq_true.mpr ⟨h, found, live⟩
    rw [closed i last] at usable
    cases usable

/-- What a channel that is opened after others means to the hubs. -/
structure OpensOn (m m' : Multiplexer) (opens : List (Server × Nat)) (url : Url) (config : ChannelConfig)
    (place : ChannelPlace) : Prop where
  /-- The latest hub of the server is shared unless it is closed or a new one is forced. -/
  shared : ∀ i h, config.forceNew = false → latestFor url.server opens = some i → m.hub? i = some h →
    h.isClosed = false →
      place = { hub := i, id := h.channels.length } ∧ m'.hubs = m.hubs.set i (h.welcome url config)
  /-- In all other cases there is one more hub. -/
  fresh : (config.forceNew = true ∨
      ∀ i, latestFor url.server opens = some i → m.isUsable i = false) →
    place = { hub := m.hubs.length, id := 0 } ∧
      m'.hubs = m.hubs ++ [(Hub.fresh url.server.handshake config.cookie).welcome url config]
  /-- The channels that were opened before stay where they are, on the same connections. -/
  earlier : ∀ i h, m.hub? i = some h → ∃ h', m'.hub? i = some h' ∧ h'.url = h.url ∧
    h'.cookie = h.cookie ∧ h.channels <+: h'.channels
  /-- The latest hubs of other servers are left alone. -/
  others : ∀ server i, server ≠ url.server → latestFor server opens = some i →
    i ≠ place.hub ∧ m'.hub? i = m.hub? i

/-! ### The file -/

theorem filed_empty : Filed {} [] where
  distinct := List.nodup_nil
  keys := nofun
  found := fun _ _ => rfl
  reachable := nofun
  site := nofun

theorem Filed.keeps (filed : m.Filed opens) (latest : m'.latest = m.latest)
    (kept : ∀ i h, m.hub? i = some h → ∃ h', m'.hub? i = some h' ∧ h'.url = h.url) : m'.Filed opens where
  distinct := latest ▸ filed.distinct
  keys := latest ▸ filed.keys
  found := latest ▸ filed.found
  reachable := filed.reachable
  site := fun o member => by
    obtain ⟨h, found, url⟩ := filed.site o member
    obtain ⟨h', found', url'⟩ := kept o.2 h found
    exact ⟨h', found', url'.trans url⟩

theorem Filed.apart (filed : m.Filed opens) {o o' : Server × Nat} (member : o ∈ opens)
    (member' : o' ∈ opens) (same : o.2 = o'.2) : o.1 = o'.1 := by
  obtain ⟨h, found, url⟩ := filed.site o member
  obtain ⟨h', found', url'⟩ := filed.site o' member'
  rw [same, found'] at found
  cases found
  exact ((filed.reachable o member).text_iff (filed.reachable o' member')).mp (by rw [← url, url'])

theorem Filed.again (filed : m.Filed opens) (latest : latestFor server opens = some i) :
    m.Filed (opens ++ [(server, i)]) := by
  have old : ∀ o ∈ opens ++ [(server, i)], o ∈ opens := by
    intro o member
    rcases List.mem_append.mp member with before | now
    · exact before
    · rw [List.mem_singleton.mp now]
      exact mem_of_latestFor latest
  refine ⟨filed.distinct, fun key member => ?_, fun server' reachable => ?_,
    fun o member => filed.reachable o (old o member), fun o member => filed.site o (old o member)⟩
  · obtain ⟨o, before, text⟩ := filed.keys key member
    exact ⟨o, List.mem_append_left _ before, text⟩
  · rw [latestFor_append, filed.found server' reachable]
    split
    · rename_i same
      rw [same, latest]
    · rfl

theorem Filed.extend (filed : m.Filed opens) (reachable : server.IsReachable)
    (url : h.url = server.handshake) :
    (m.extend server.handshake h).Filed (opens ++ [(server, m.hubs.length)]) := by
  have members {P : Server × Nat → Prop} (before : ∀ o ∈ opens, P o) (now : P (server, m.hubs.length)) :
      ∀ o ∈ opens ++ [(server, m.hubs.length)], P o := by
    intro o member
    rcases List.mem_append.mp member with old | new
    · exact before o old
    · exact List.mem_singleton.mp new ▸ now
  refine ⟨Entries.nodup_set filed.distinct _ _, fun key member => ?_, fun server' reachable' => ?_,
    members filed.reachable reachable,
    members (fun o member => ?_) ⟨h, m.hub?_extend_self server.handshake h, url⟩⟩
  · rw [Multiplexer.extend, Entries.names_set] at member
    split at member
    · obtain ⟨o, before, text⟩ := filed.keys key member
      exact ⟨o, List.mem_append_left _ before, text⟩
    · rcases List.mem_append.mp member with before | now
      · obtain ⟨o, before, text⟩ := filed.keys key before
        exact ⟨o, List.mem_append_left _ before, text⟩
      · exact ⟨(server, m.hubs.length), by simp, (List.mem_singleton.mp now).symm⟩
  · rw [latestFor_append]
    by_cases same : server' = server
    · rw [if_pos same, same]
      exact Entries.find?_set_self _ _ _
    · rw [if_neg same, ← filed.found server' reachable']
      exact Entries.find?_set_other _ _ fun text => same ((reachable'.text_iff reachable).mp text)
  · obtain ⟨h', found, url'⟩ := filed.site o member
    exact ⟨h', hub?_extend found server.handshake h, url'⟩

/-! ### Steps and runs -/

theorem Filed.event (filed : m.Filed opens) (i : Nat) (event : HubEvent) :
    (m.step (.event i event)).Filed opens := by
  refine filed.keeps rfl fun j h found => ?_
  by_cases same : i = j
  · subst same
    refine ⟨h.step event, ?_, (h.site_step event).1⟩
    rw [step, hub?_modify_self, found, Option.map_some]
  · exact ⟨h, (hub?_modify_other m same _).trans found, rfl⟩

theorem Filed.opensFresh (filed : m.Filed opens)
    (fresh : config.forceNew = true ∨ ∀ i, latestFor url.server opens = some i → m.isUsable i = false) :
    m.OpensOn
      (m.extend url.server.handshake ((Hub.fresh url.server.handshake config.cookie).welcome url config))
      opens url config { hub := m.hubs.length, id := 0 } where
  shared := fun _ _ shares last found live => absurd fresh (not_fresh_of_shares shares last found live)
  fresh := fun _ => ⟨rfl, rfl⟩
  earlier := fun _ h found => ⟨h, hub?_extend found _ _, rfl, rfl, List.prefix_rfl⟩
  others := fun server i _ last => by
    obtain ⟨h, found, _⟩ := filed.site _ (mem_of_latestFor last)
    exact ⟨Nat.ne_of_lt (lt_of_hub? found), (hub?_extend found _ _).trans found.symm⟩

theorem earlier_replace (found : m.hub? i = some h) (url : Url) (config : ChannelConfig) {j : Nat} {k : Hub}
    (found' : m.hub? j = some k) :
    ∃ k', (m.replace i (h.welcome url config)).hub? j = some k' ∧ k'.url = k.url ∧
      k'.cookie = k.cookie ∧ k.channels <+: k'.channels := by
  by_cases same : j = i
  · subst same
    cases found.symm.trans found'
    obtain ⟨site, cookie⟩ := h.site_welcome url config
    exact ⟨_, hub?_replace_self found _, site, cookie, h.channels_welcome url config⟩
  · exact ⟨k, (hub?_replace_other m same _).trans found', rfl, rfl, List.prefix_rfl⟩

theorem Filed.opensShared (filed : m.Filed opens) (shares : config.forceNew = false)
    (last : latestFor url.server opens = some i) (found : m.hub? i = some h) (live : h.isClosed = false) :
    m.OpensOn (m.replace i (h.welcome url config)) opens url config { hub := i, id := h.channels.length } where
  shared := fun _ _ _ last' found' _ => by
    cases last.symm.trans last'
    cases found.symm.trans found'
    exact ⟨rfl, rfl⟩
  fresh := fun fresh => absurd fresh (not_fresh_of_shares shares last found live)
  earlier := fun _ _ found' => earlier_replace found url config found'
  others := fun server j different last' => by
    have apart : j ≠ i := fun same =>
      different (filed.apart (mem_of_latestFor last') (mem_of_latestFor last) same)
    exact ⟨apart, hub?_replace_other m apart _⟩

theorem Filed.openChannel (filed : m.Filed opens) (served : url.Served) (rereads : url.Rereads)
    (config : ChannelConfig) :
    ∃ m' place, m.openChannel url config = .ok (m', place) ∧ m.OpensOn m' opens url config place ∧
      m'.Filed (opens ++ [(url.server, place.hub)]) := by
  have shaken : handshakeUrl url = .ok url.server.handshake := by
    rcases Url.handshakeUrl_eq served with ⟨_, shaken⟩ | ⟨unread, _⟩
    · exact shaken
    · exact absurd rereads unread
  have reachable : url.server.IsReachable := ⟨url, served, rereads, rfl⟩
  have latest := filed.found url.server reachable
  rcases m.sharing_cases config (latestFor url.server opens) with fresh | ⟨shares, i, h, last, found, live⟩
  · refine ⟨_, _, openChannel_fresh shaken (latest ▸ fresh), filed.opensFresh fresh, ?_⟩
    exact filed.extend reachable (Hub.site_welcome _ _ _).1
  · refine ⟨_, _, openChannel_shared shaken shares (latest.trans last) found live,
      filed.opensShared shares last found live, (filed.again last).keeps rfl fun j k found' => ?_⟩
    obtain ⟨k', found'', site, _⟩ := earlier_replace found url config found'
    exact ⟨k', found'', site⟩

theorem Filed.run (filed : m.Filed opens) (served : ∀ url ∈ urlsOf events, url.Served) :
    (m.run events).Filed (opens ++ m.opened events) := by
  induction events generalizing m opens with
  | nil =>
    rw [opened, List.append_nil]
    exact filed
  | cons event events ih =>
    cases event with
    | event i event => exact ih (filed.event i event) served
    | openChannel url config =>
      have first : url.Served := served url List.mem_cons_self
      have rest : ∀ url ∈ urlsOf events, url.Served := fun url member =>
        served url (List.mem_cons_of_mem _ member)
      show ((m.step (.openChannel url config)).run events).Filed _
      by_cases rereads : url.Rereads
      · obtain ⟨m', place, done, -, filed'⟩ := filed.openChannel first rereads config
        have later := ih filed' rest
        rw [List.append_assoc] at later
        simp only [step, opened, done]
        exact later
      · obtain ⟨name, fault, -, -, failed⟩ := openChannel_unread first rereads m config
        simp only [step, opened, failed]
        exact ih filed rest

/-! ### Counting -/

theorem Filed.openCount (filed : m.Filed opens) :
    m.openCount = (opens.map Prod.fst).dedup.countP fun server =>
      (latestFor server opens).any m.isUsable := by
  have known : ∀ server ∈ (opens.map Prod.fst).dedup, server.IsReachable := by
    intro server member
    obtain ⟨o, among, rfl⟩ := List.mem_map.mp (List.mem_dedup.mp member)
    exact filed.reachable o among
  have byName : m.openCount = m.latest.names.countP fun key => (m.latest.find? key).any m.isUsable := by
    unfold Multiplexer.openCount Entries.names
    rw [List.countP_map]
    refine List.countP_congr fun e member => ?_
    rw [Function.comp, Entries.find?_of_mem filed.distinct member]
    rfl
  have names : m.latest.names.Perm ((opens.map Prod.fst).dedup.map fun server => server.handshake.text) := by
    refine (List.perm_ext_iff_of_nodup filed.distinct ?_).mpr fun key => ⟨fun member => ?_, fun member => ?_⟩
    · refine (List.nodup_map_iff_inj_on (List.nodup_dedup _)).mpr fun server member server' member' text => ?_
      exact ((known server member).text_iff (known server' member')).mp text
    · obtain ⟨o, among, text⟩ := filed.keys key member
      exact List.mem_map.mpr ⟨o.1, List.mem_dedup.mpr (List.mem_map_of_mem among), text⟩
    · obtain ⟨server, among, rfl⟩ := List.mem_map.mp member
      obtain ⟨i, last⟩ := exists_latestFor (List.mem_dedup.mp among)
      exact Entries.mem_names_of_find? ((filed.found server (known server among)).trans last)
  rw [byName, names.countP_eq, List.countP_map]
  refine List.countP_congr fun server member => ?_
  rw [Function.comp, filed.found server (known server member)]

/-! ### The next channel -/

theorem opened_append (m : Multiplexer) (events more : List MultiplexerEvent) :
    m.opened (events ++ more) = m.opened events ++ (m.run events).opened more := by
  induction events generalizing m with
  | nil => rfl
  | cons event events ih =>
    cases event with
    | event i event => exact ih _
    | openChannel url config =>
      show (m.opened (.openChannel url config :: (events ++ more))) =
        _ ++ ((m.step (.openChannel url config)).run events).opened more
      cases result : m.openChannel url config with
      | error e =>
        simp only [opened, step, result]
        exact ih m
      | ok placed =>
        simp only [opened, step, result, List.cons_append]
        exact congrArg _ (ih placed.1)

/-- Servers are told apart by what the text of a handshake depends on. -/
theorem sameServer_iff {url' a b : Url} (served : url.Served) (served' : url'.Served)
    (shaken : handshakeUrl url = .ok a) (shaken' : handshakeUrl url' = .ok b) :
    a.text = b.text ↔
      url.secure? = url'.secure? ∧ url.host = url'.host ∧ url.effectivePort? = url'.effectivePort? := by
  rcases Url.handshakeUrl_eq served with ⟨rereads, known⟩ | ⟨_, _, _, _, _, failed⟩
  · rcases Url.handshakeUrl_eq served' with ⟨_, known'⟩ | ⟨_, _, _, _, _, failed⟩
    · cases known.symm.trans shaken
      cases known'.symm.trans shaken'
      rw [Url.handshake_text_iff served served' rereads]
      exact Server.mk.injEq .. ▸ Iff.rfl
    · rw [shaken'] at failed
      cases failed
  · rw [shaken] at failed
    cases failed

/-- After any run, a channel shares the hub of the last channel of its server if that hub is not closed
and no new one is forced, and in all other cases it has a fresh hub, which is the latest then. A URL is
refused if its host cannot be read again, which is a name that is too long for it. -/
theorem open_latest (events : List MultiplexerEvent) (served : ∀ url ∈ urlsOf events, url.Served)
    (here : url.Served) (config : ChannelConfig) :
    (url.Rereads → ∃ m' place, (run {} events).openChannel url config = .ok (m', place) ∧
      (run {} events).OpensOn m' (opened {} events) url config place ∧
      ∀ server, latestFor server (opened {} (events ++ [.openChannel url config])) =
        if server = url.server then some place.hub else latestFor server (opened {} events)) ∧
    (¬ url.Rereads → ∃ name fault, url.host = some (.domain name) ∧ Idna.toAscii? name.toList = none ∧
      (run {} events).openChannel url config = .error (.url fault)) ∧
    (run {} events).openCount = ((opened {} events).map Prod.fst).dedup.countP (fun server =>
      (latestFor server (opened {} events)).any (run {} events).isUsable) ∧
    ∀ url', url'.Served → ∀ a b, handshakeUrl url = .ok a → handshakeUrl url' = .ok b →
      (a.text = b.text ↔
        url.secure? = url'.secure? ∧ url.host = url'.host ∧
          url.effectivePort? = url'.effectivePort?) := by
  have filed : (run {} events).Filed (opened {} events) := filed_empty.run served
  refine ⟨fun rereads => ?_, fun unread => openChannel_unread here unread _ config, filed.openCount,
    fun url' there a b => sameServer_iff here there⟩
  obtain ⟨m', place, done, opens, -⟩ := filed.openChannel here rereads config
  refine ⟨m', place, done, opens, fun server => ?_⟩
  have history : opened {} (events ++ [.openChannel url config]) =
      opened {} events ++ [(url.server, place.hub)] := by
    rw [opened_append]
    simp only [opened, done]
  rw [history, latestFor_append]

def localPage : Url :=
  { scheme := "http", host := some (.domain "localhost"), path := .segments ["a"] }

def localSocket : Url :=
  { scheme := "ws", username := "me", host := some (.domain "localhost"), path := .segments ["b"]
    query := some "c" }

/-- A URL with another scheme, user and path shares the connection that was forced last. -/
theorem open_latest_local :
    let events : List MultiplexerEvent :=
      [.openChannel localPage {}, .openChannel localPage { forceNew := true }]
    Url.parse "http://localhost:80/a" = .ok localPage ∧
      Url.parse "ws://me@localhost/b?c" = .ok localSocket ∧
      ∃ m', (run {} events).openChannel localSocket {} = .ok (m', { hub := 1, id := 1 }) := by
  intro events
  have read : Url.parse "http://localhost:80/a" = .ok localPage := rfl
  have read' : Url.parse "ws://me@localhost/b?c" = .ok localSocket := rfl
  have here : localSocket.Served := Url.served_of_parse read' (.inr (.inl rfl))
  have served : ∀ url ∈ urlsOf events, url.Served := by
    intro url member
    have same : url = localPage := by simpa [urlsOf, events] using member
    exact same ▸ Url.served_of_parse read (.inl rfl)
  have usable : (run {} events).isUsable 1 = true := by decide +kernel
  have members : ((run {} events).hub? 1).map (fun h => h.channels.length) = some 1 := by decide +kernel
  obtain ⟨h, found, live⟩ := isUsable_eq_true.mp usable
  rw [found, Option.map_some] at members
  obtain ⟨m', place, done, opens, -⟩ :=
    (open_latest events served here {}).1 ⟨.domain "localhost", rfl, rfl⟩
  obtain ⟨rfl, -⟩ := opens.shared 1 h rfl (by decide +kernel) found live
  rw [Option.some.inj members] at done
  exact ⟨read, read', m', done⟩

end Multiplexer

end LiveSession
