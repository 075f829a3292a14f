import LiveSession.Proofs.Client.Crawls

/-!
# The fetches of a crawl

A crawl that caches sends all its requests when it is started, in order, and caches each body when
the answer is there. `Get` is one of its requests with what the transports made of it, and `Get.Stage`
how far its fetch is. Failures end the crawl sooner or later, so they are told apart as `Spoiled`.
-/

namespace LiveSession

structure Get (ω : Type) where
  key : String
  url : Url
  request : HttpRequest
  cookie : Option String
  /-- The transports after it was sent. -/
  world : ω
  ticket : Ticket

def Spoiled (fetches : List Fetch) : Prop :=
  ∃ f ∈ fetches, ∃ e, f.status = .failed e

namespace Get

variable {ω : Type}

def call (g : Get ω) : TransportCall := .send g.request g.cookie

/-- What is sent is a GET for the text of the URL, without parameters. -/
structure IsFor (base : Url) (g : Get ω) : Prop where
  method : g.request.method = .get
  params : g.request.params = []
  ajax : g.request.ajax = false
  url : base.join g.url.text = .ok g.request.url

variable [Transports ω]

/-- The requests were sent one after the other, and these are their tickets. -/
def Issued : ω → List (Get ω) → Prop
  | _, [] => True
  | w, g :: gets => Transports.send g.request g.cookie w = (g.world, g.ticket) ∧ Issued g.world gets

/-- The answer was there when the request had been sent, or at a later time that has passed. -/
def Heard (passed : ω → Prop) (g : Get ω) (response : HttpResponse) : Prop :=
  ∃ w a, (w = g.world ∨ passed w) ∧ Transports.answer? g.ticket w = some a ∧ a.result = .ok response

/-- The body of the answer is cached. -/
def Kept (passed : ω → Prop) (cache : Entries String) (g : Get ω) : Prop :=
  ∃ response, g.Heard passed response ∧ cache.find? g.key = some response.body

/-- A fetch waits for the answer of its request, or the answer has come. -/
inductive Stage (passed : ω → Prop) (cache : Entries String) (g : Get ω) : Fetch → Prop
  | waits : Stage passed cache g { key := g.key, url := g.url, status := .pending g.ticket }
  | arrived (kept : g.Kept passed cache) :
    Stage passed cache g { key := g.key, url := g.url, status := .loaded }

end Get

namespace Client

variable {ω : Type} {keys keys' : List String} {c c' c'' : Client ω}

/-- Bodies were cached under some keys, and that is all that the session shows. -/
structure Swept (keys : List String) (c c' : Client ω) : Prop where
  profile : c'.profile = c.profile
  session : c'.session = { c.session with cache := c'.session.cache }
  others : ∀ name ∉ keys, c'.session.cache.find? name = c.session.cache.find? name

theorem swept_of_session (keys : List String) (profile : c'.profile = c.profile)
    (session : c'.session = c.session) : Swept keys c c' := by
  refine ⟨profile, ?_, fun name _ => ?_⟩
  · rw [session]
  · rw [session]

theorem Swept.trans (s₁ : Swept keys c c') (s₂ : Swept keys' c' c'') :
    Swept (keys ++ keys') c c'' where
  profile := s₂.profile.trans s₁.profile
  session := by
    rw [s₂.session, s₁.session]
  others := fun name away => by
    rw [List.mem_append, not_or] at away
    exact (s₂.others name away.2).trans (s₁.others name away.1)

theorem Swept.subset (swept : Swept keys c c') (subset : keys ⊆ keys') : Swept keys' c c' :=
  ⟨swept.profile, swept.session, fun name away => swept.others name fun member => away (subset member)⟩

variable [Transports ω] {passed : ω → Prop} {g : Get ω} {gets : List (Get ω)} {fs : List Fetch}

theorem stage_of_swept {f : Fetch} (swept : Swept keys c c') (away : g.key ∉ keys)
    (stage : g.Stage passed c.session.cache f) : g.Stage passed c'.session.cache f := by
  cases stage with
  | waits => exact .waits
  | arrived kept =>
    obtain ⟨response, heard, found⟩ := kept
    exact .arrived ⟨response, heard, (swept.others _ away).trans found⟩

theorem stages_of_swept (swept : Swept keys c c') (apart : ∀ g ∈ gets, g.key ∉ keys)
    (stages : List.Forall₂ (Get.Stage passed c.session.cache) gets fs) :
    List.Forall₂ (Get.Stage passed c'.session.cache) gets fs := by
  induction stages with
  | nil => exact .nil
  | cons stage _ ih =>
    obtain ⟨away, rest⟩ := List.forall_mem_cons.mp apart
    exact .cons (stage_of_swept swept away stage) (ih rest)

/-! ### One fetch -/

theorem pollPending_cases (c : Client ω) (f : Fetch) (ticket : Ticket) :
    (Transports.answer? ticket c.world = none ∧
        c.pollPending true f ticket = (c, { f with status := .pending ticket })) ∨
      ∃ a cookies, Transports.answer? ticket c.world = some a ∧
        ((∃ e, a.result = .error e ∧ c.pollPending true f ticket =
            ({ c with cookies },
              { f with status := .failed (.transportUnavailable f.url.text e.message) })) ∨
          ∃ response, a.result = .ok response ∧ c.pollPending true f ticket =
            ({ c with cookies, session := c.session.keep f.key response.body },
              { f with status := .loaded })) := by
  unfold pollPending
  cases Transports.answer? ticket c.world with
  | none => exact .inl ⟨rfl, rfl⟩
  | some a =>
    unfold receive
    dsimp only
    refine .inr ⟨a, a.setCookies.foldl (fun jar h => jar.store c.today h) c.cookies, rfl, ?_⟩
    cases result : a.result with
    | error e => exact .inl ⟨e, rfl, rfl⟩
    | ok response => exact .inr ⟨response, rfl, rfl⟩

theorem pollPending_stage (hears : c.world = g.world ∨ passed c.world) (status : FetchStatus) :
    (∃ e, (c.pollPending true ⟨g.key, g.url, status⟩ g.ticket).2.status = .failed e) ∨
      g.Stage passed (c.pollPending true ⟨g.key, g.url, status⟩ g.ticket).1.session.cache
          (c.pollPending true ⟨g.key, g.url, status⟩ g.ticket).2 ∧
        Swept [g.key] c (c.pollPending true ⟨g.key, g.url, status⟩ g.ticket).1 ∧
        (c.pollPending true ⟨g.key, g.url, status⟩ g.ticket).1.log = c.log ∧
        (c.pollPending true ⟨g.key, g.url, status⟩ g.ticket).1.world = c.world := by
  rcases c.pollPending_cases ⟨g.key, g.url, status⟩ g.ticket with
    ⟨_, waits⟩ | ⟨a, cookies, answered, ⟨e, _, failed⟩ | ⟨response, result, arrived⟩⟩
  · rw [waits]
    exact .inr ⟨.waits, swept_of_session _ rfl rfl, rfl, rfl⟩
  · rw [failed]
    exact .inl ⟨_, rfl⟩
  · rw [arrived]
    have heard : g.Heard passed response := ⟨c.world, a, hears, answered, result⟩
    have kept : (c.session.keep g.key response.body).cache.find? g.key = some response.body :=
      Entries.find?_set_self _ _ _
    refine .inr ⟨.arrived ⟨response, heard, kept⟩, ⟨rfl, rfl, fun name away => ?_⟩, rfl, rfl⟩
    exact Entries.find?_set_other _ _ fun same => away (List.mem_singleton.mpr same)

omit [Transports ω] in
theorem resolve_ok {p : Profile} {path : String} {url : Url} (resolved : p.resolve path = .ok url) :
    p.baseUrl.join path = .ok url := by
  unfold Profile.resolve at resolved
  split at resolved
  · rename_i joined
    cases resolved
    exact joined
  · cases resolved

omit [Transports ω] in
theorem resolve_error {p : Profile} {path : String} {e : Error} (resolved : p.resolve path = .error e) :
    ∃ fault, p.baseUrl.join path = .error fault ∧ e = .url fault := by
  unfold Profile.resolve at resolved
  split at resolved
  · cases resolved
  · rename_i fault unread
    cases resolved
    exact ⟨fault, unread, rfl⟩

theorem send_fetch (c : Client ω) (f : Fetch) :
    (∃ fault, c.profile.baseUrl.join f.url.text = .error fault ∧
        c.send f.request = (c, .error (.url fault))) ∨
      ∃ (g : Get ω) (sources : Sources), g.key = f.key ∧ g.url = f.url ∧
        g.IsFor c.profile.baseUrl ∧
        Transports.send g.request g.cookie c.world = (g.world, g.ticket) ∧
        c.send f.request = ({ c.logged g.call with sources, world := g.world }, .ok g.ticket) := by
  unfold send
  cases resolved : c.profile.resolve f.request.path with
  | error e =>
    obtain ⟨fault, unread, rfl⟩ := resolve_error resolved
    exact .inl ⟨fault, unread, rfl⟩
  | ok url =>
    let request : HttpRequest := { method := .get, url }
    let sent := Transports.send request c.cookies.header? c.world
    refine .inr ⟨⟨f.key, f.url, request, c.cookies.header?, sent.1, sent.2⟩, c.sources, rfl, rfl,
      ⟨rfl, rfl, rfl, resolve_ok resolved⟩, rfl, rfl⟩

/-! ### All of them -/

/-- Goes on with all fetches, even if one fails. -/
def sweep (c : Client ω) (cache : Bool) : List Fetch → Client ω × List Fetch
  | [] => (c, [])
  | f :: rest =>
    let polled := c.pollFetch cache f
    let swept := polled.1.sweep cache rest
    (swept.1, polled.2 :: swept.2)

/-- As long as no failure ends the action, all fetches are gone on with. -/
theorem sweep_of_pollFetches {cache : Bool} {before rest fetches : List Fetch}
    (on : (c.pollFetches cache before rest).2 = .ok fetches) :
    (c.pollFetches cache before rest).1 = (c.sweep cache rest).1 ∧
      fetches = before ++ (c.sweep cache rest).2 := by
  induction rest generalizing c before with
  | nil =>
    cases on
    exact ⟨rfl, (List.append_nil _).symm⟩
  | cons f rest ih =>
    unfold pollFetches at on ⊢
    dsimp only at on ⊢
    cases failed : Crawl.failure? ω ⟨before ++ (c.pollFetch cache f).2 :: rest, cache⟩ with
    | some e =>
      rw [failed] at on
      cases on
    | none =>
      rw [failed] at on
      obtain ⟨client, swept⟩ := ih on
      exact ⟨client, swept.trans (List.append_assoc _ [_] _)⟩

theorem spoiled_sweep {cache : Bool} (spoiled : Spoiled fs) : Spoiled (c.sweep cache fs).2 := by
  obtain ⟨f, member, e, failed⟩ := spoiled
  induction fs generalizing c with
  | nil => cases member
  | cons first rest ih =>
    rcases List.mem_cons.mp member with rfl | later
    · refine ⟨f, List.mem_cons.mpr (.inl ?_), e, failed⟩
      rw [pollFetch, failed]
    · obtain ⟨f', later', e', failed'⟩ := ih (c := (c.pollFetch cache first).1) later
      exact ⟨f', List.mem_cons_of_mem _ later', e', failed'⟩

/-- What a crawl has done when all its requests were sent. -/
structure Started (passed : ω → Prop) (c c' : Client ω) (gets : List (Get ω)) (fs fs' : List Fetch) :
    Prop where
  targets : gets.map (fun g => (g.key, g.url)) = fs.map fun f => (f.key, f.url)
  are : ∀ g ∈ gets, g.IsFor c.profile.baseUrl
  issued : Get.Issued c.world gets
  log : c'.log = c.log ++ gets.map Get.call
  stages : List.Forall₂ (Get.Stage passed c'.session.cache) gets fs'
  swept : Swept (gets.map Get.key) c c'

omit [Transports ω] in
theorem keys_of_targets {gets : List (Get ω)}
    (targets : gets.map (fun g => (g.key, g.url)) = fs.map fun f => (f.key, f.url)) :
    gets.map Get.key = fs.map Fetch.key := by
  have keys := congrArg (List.map Prod.fst) targets
  rwa [List.map_map, List.map_map] at keys

theorem sweep_start (passed : ω → Prop) (unsent : ∀ f ∈ fs, f.status = .unsent)
    (distinct : (fs.map Fetch.key).Nodup) :
    Spoiled (c.sweep true fs).2 ∨
      ∃ gets, Started passed c (c.sweep true fs).1 gets fs (c.sweep true fs).2 := by
  induction fs generalizing c with
  | nil =>
    refine .inr ⟨[], ⟨rfl, ?_, trivial, (List.append_nil _).symm, .nil, swept_of_session _ rfl rfl⟩⟩
    exact fun g member => nomatch member
  | cons f rest ih =>
    obtain ⟨new, rest_unsent⟩ := List.forall_mem_cons.mp unsent
    obtain ⟨first, rest_distinct⟩ := List.nodup_cons.mp distinct
    have spoiled {e : Error} (failed : (c.pollFetch true f).2.status = .failed e) :
        Spoiled (c.sweep true (f :: rest)).2 :=
      ⟨_, List.mem_cons_self, e, failed⟩
    rcases c.send_fetch f with ⟨fault, _, failed⟩ | ⟨g, sources, key, url, is, issued, sent⟩
    · refine .inl (spoiled (e := .url fault) ?_)
      rw [pollFetch, new]
      dsimp only
      rw [failed]
    · let c₁ : Client ω := { c.logged g.call with sources, world := g.world }
      have polled : c.pollFetch true f = c₁.pollPending true
          { key := g.key, url := g.url, status := .unsent } g.ticket := by
        rw [pollFetch, new]
        dsimp only
        rw [sent, key, url, ← new]
      have hears : c₁.world = g.world ∨ passed c₁.world := .inl rfl
      have went := pollPending_stage hears .unsent
      rw [← polled] at went
      rcases went with ⟨e, failed⟩ | ⟨stage, swept, log, world⟩
      · exact .inl (spoiled failed)
      · have begun : Swept [g.key] c (c.pollFetch true f).1 :=
          ⟨swept.profile, swept.session, swept.others⟩
        rcases ih (c := (c.pollFetch true f).1) rest_unsent rest_distinct with lost | ⟨gets, started⟩
        · obtain ⟨f', member, failed⟩ := lost
          exact .inl ⟨f', List.mem_cons_of_mem _ member, failed⟩
        · have apart : g.key ∉ gets.map Get.key := by
            rw [keys_of_targets started.targets, key]
            exact first
          refine .inr ⟨g :: gets, ?_, ?_, ⟨issued, ?_⟩, ?_, ?_, ?_⟩
          · rw [List.map_cons, List.map_cons, started.targets, key, url]
          · refine List.forall_mem_cons.mpr ⟨is, ?_⟩
            rw [← begun.profile]
            exact started.are
          · have rest_issued := started.issued
            rwa [world] at rest_issued
          · refine started.log.trans ?_
            rw [log]
            exact List.append_assoc _ [_] _
          · -- what is cached later has other keys
            exact .cons (stage_of_swept started.swept apart stage) started.stages
          · exact begun.trans started.swept

theorem sweep_goesOn (stages : List.Forall₂ (Get.Stage passed c.session.cache) gets fs)
    (distinct : (gets.map Get.key).Nodup) (hears : passed c.world) :
    Spoiled (c.sweep true fs).2 ∨
      List.Forall₂ (Get.Stage passed (c.sweep true fs).1.session.cache) gets (c.sweep true fs).2 ∧
        Swept (gets.map Get.key) c (c.sweep true fs).1 ∧ (c.sweep true fs).1.log = c.log := by
  induction fs generalizing c gets with
  | nil =>
    cases stages
    exact .inr ⟨.nil, swept_of_session _ rfl rfl, rfl⟩
  | cons f rest ih =>
    cases stages with
    | @cons g _ gets _ stage stages =>
    obtain ⟨first, rest_distinct⟩ := List.nodup_cons.mp distinct
    have went : (∃ e, (c.pollFetch true f).2.status = .failed e) ∨
        g.Stage passed (c.pollFetch true f).1.session.cache (c.pollFetch true f).2 ∧
          Swept [g.key] c (c.pollFetch true f).1 ∧ (c.pollFetch true f).1.log = c.log ∧
          (c.pollFetch true f).1.world = c.world := by
      cases stage with
      | waits => exact pollPending_stage (.inr hears) (.pending g.ticket)
      | arrived kept => exact .inr ⟨.arrived kept, swept_of_session _ rfl rfl, rfl, rfl⟩
    rcases went with ⟨e, failed⟩ | ⟨stage', swept, log, world⟩
    · exact .inl ⟨_, List.mem_cons_self, e, failed⟩
    · have others : ∀ g' ∈ gets, g'.key ∉ [g.key] := by
        intro g' member same
        exact first (List.mem_singleton.mp same ▸ List.mem_map_of_mem member)
      rcases ih (stages_of_swept swept others stages) rest_distinct (world.symm ▸ hears) with
        ⟨f', member, failed⟩ | ⟨after, swept', log'⟩
      · exact .inl ⟨f', List.mem_cons_of_mem _ member, failed⟩
      · have kept := stage_of_swept swept' first stage'
        exact .inr ⟨.cons kept after, swept.trans swept', log'.trans log⟩

end Client

end LiveSession
