import LiveSession.Proofs.Client.Fetches

/-!
# The first failure of a crawl

Transports that fail fast end a wait for several requests as soon as one of them has failed. A poll of a
crawl then goes on with its fetches up to the first one that fails, and no further: `pollFetches_eq`. By
then it has cached the bodies of answers that are there, and nothing else.
-/

namespace LiveSession

variable {ω : Type}

namespace Transports

/-- As soon as one of so many requests has failed, the wait for all of them ends with a failure. Waiting for
them in their order does not do so: see `Servers.failsFast_iff`. -/
def FailsFast (ω : Type) [Transports ω] (count : Nat) : Prop :=
  ∀ states : List RequestState, states.length = count → .failed ∈ states →
    ∃ i, breaker? ω states = some i ∧ states[i]? = some .failed

/-- The answers that are there stay. -/
def Keeps [Transports ω] (w w' : ω) : Prop :=
  ∀ ticket a, answer? ticket w = some a → answer? ticket w' = some a

/-- Sending a request takes no time and loses no answer. -/
def Instant (ω : Type) [Transports ω] : Prop :=
  ∀ request cookie (w : ω), now (send request cookie w).1 = now w ∧ Keeps w (send request cookie w).1

end Transports

open Transports

/-- The answers of requests, with the times at which they are there. -/
abbrev Arrivals (ω : Type) := Get ω → Answer → Nat → Prop

namespace Get

/-- The body of an answer that is there is cached. -/
def Taken (arrives : Arrivals ω) (cache : Entries String) (g : Get ω) : Prop :=
  ∃ a response time, arrives g a time ∧ a.result = .ok response ∧
    cache.find? g.key = some response.body

/-- A fetch waits for its answer, which is there at some times only, or the answer was taken. -/
inductive Tracked (arrives : Arrivals ω) (times : Nat → Prop) (cache : Entries String) (g : Get ω) :
    Fetch → Prop
  | waits (fresh : ∀ a time, arrives g a time → times time) :
    Tracked arrives times cache g { key := g.key, url := g.url, status := .pending g.ticket }
  | taken (taken : g.Taken arrives cache) :
    Tracked arrives times cache g { key := g.key, url := g.url, status := .loaded }

end Get

/-- A cache has changed by the bodies of answers that are there. -/
def Fetched (arrives : Arrivals ω) (gets : List (Get ω)) (cache cache' : Entries String) : Prop :=
  ∀ name, cache'.find? name = cache.find? name ∨ ∃ g ∈ gets, g.key = name ∧ g.Taken arrives cache'

/-- The wait for these requests ends now with the failure of one of them. -/
def Fails (arrives : Arrivals ω) (now : Nat) (gets : List (Get ω))
    (result : Except Error (List Fetch)) : Prop :=
  ∃ g ∈ gets, ∃ a e, arrives g a now ∧ a.result = .error e ∧
    result = .error (.transportUnavailable g.url.text e.message)

variable {arrives arrives' : Arrivals ω} {now : Nat} {times : Nat → Prop} {cache cache' cache'' : Entries String}
  {g : Get ω} {gets gets' : List (Get ω)} {fs before rest : List Fetch} {f : Fetch} {e : Error}

theorem Fetched.refl (gets : List (Get ω)) (cache : Entries String) : Fetched arrives gets cache cache :=
  fun _ => .inl rfl

theorem Fetched.trans (f₁ : Fetched arrives gets cache cache') (f₂ : Fetched arrives gets cache' cache'') :
    Fetched arrives gets cache cache'' := by
  intro name
  rcases f₂ name with same | new
  · rcases f₁ name with before | ⟨g, member, rfl, a, response, time, there, ok, found⟩
    · exact .inl (same.trans before)
    · exact .inr ⟨g, member, rfl, a, response, time, there, ok, same.trans found⟩
  · exact .inr new

theorem Fetched.subset (fetched : Fetched arrives gets cache cache') (subset : gets ⊆ gets') :
    Fetched arrives gets' cache cache' := by
  intro name
  exact (fetched name).imp_right fun ⟨g, member, named, taken⟩ => ⟨g, subset member, named, taken⟩

theorem Fetched.cons (first : Fetched arrives [g] cache cache') (others : Fetched arrives gets cache' cache'') :
    Fetched arrives (g :: gets) cache cache'' :=
  (first.subset (List.cons_subset_cons g (List.nil_subset gets))).trans
    (others.subset (List.subset_cons_self g gets))

theorem Fetched.others (fetched : Fetched arrives gets cache cache') {name : String}
    (away : name ∉ gets.map Get.key) : cache'.find? name = cache.find? name := by
  rcases fetched name with same | ⟨g, member, rfl, -⟩
  · exact same
  · exact absurd (List.mem_map_of_mem member) away

theorem Fetched.mono (more : ∀ g a time, arrives g a time → arrives' g a time)
    (fetched : Fetched arrives gets cache cache') : Fetched arrives' gets cache cache' := by
  intro name
  refine (fetched name).imp_right fun ⟨g, member, named, a, response, time, there, ok, found⟩ => ?_
  exact ⟨g, member, named, a, response, time, more g a time there, ok, found⟩

theorem Get.Tracked.fetched (tracked : g.Tracked arrives times cache f)
    (fetched : Fetched arrives gets cache cache') (away : g.key ∉ gets.map Get.key) :
    g.Tracked arrives times cache' f := by
  cases tracked with
  | waits fresh => exact .waits fresh
  | taken taken =>
    obtain ⟨a, response, time, there, ok, found⟩ := taken
    exact .taken ⟨a, response, time, there, ok, (fetched.others away).trans found⟩

theorem Get.Tracked.unfailed (tracked : g.Tracked arrives times cache f) : f.failure? = none := by
  cases tracked <;> rfl

theorem unfailed_of_tracked (tracked : List.Forall₂ (Get.Tracked arrives times cache) gets fs) :
    ∀ f ∈ fs, f.failure? = none := by
  induction tracked with
  | nil => exact fun f member => nomatch member
  | cons first _ ih => exact List.forall_mem_cons.mpr ⟨first.unfailed, ih⟩

theorem tracked_of_fetched (fetched : Fetched arrives gets' cache cache')
    (apart : ∀ g ∈ gets, g.key ∉ gets'.map Get.key)
    (tracked : List.Forall₂ (Get.Tracked arrives times cache) gets fs) :
    List.Forall₂ (Get.Tracked arrives times cache') gets fs := by
  induction tracked with
  | nil => exact .nil
  | cons first _ ih =>
    obtain ⟨away, apart⟩ := List.forall_mem_cons.mp apart
    exact .cons (first.fetched fetched away) (ih apart)

theorem taken_of_tracked (tracked : List.Forall₂ (Get.Tracked arrives times cache) gets fs)
    (loaded : fs.all Fetch.isLoaded = true) : ∀ g ∈ gets, g.Taken arrives cache := by
  induction tracked with
  | nil => exact fun g member => nomatch member
  | cons first _ ih =>
    rw [List.all_cons, Bool.and_eq_true] at loaded
    refine List.forall_mem_cons.mpr ⟨?_, ih loaded.2⟩
    cases first with
    | waits => cases loaded.1
    | taken taken => exact taken

theorem tracked_cases (tracked : List.Forall₂ (Get.Tracked arrives times cache) gets fs)
    (member : g ∈ gets) : (∀ a time, arrives g a time → times time) ∨ g.Taken arrives cache := by
  induction tracked with
  | nil => cases member
  | cons first _ ih =>
    rcases List.mem_cons.mp member with rfl | later
    · cases first with
      | waits fresh => exact .inl fresh
      | taken taken => exact .inr taken
    · exact ih later

theorem Fails.cons {result : Except Error (List Fetch)} (fails : Fails arrives now gets result) (f : Fetch) :
    Fails arrives now (g :: gets) (result.map (f :: ·)) := by
  obtain ⟨g', member, a, e, there, failed, rfl⟩ := fails
  exact ⟨g', List.mem_cons_of_mem _ member, a, e, there, failed, rfl⟩

/-! ### Failing fast -/

theorem Fetch.exists_failure (failed : f.requestState = .failed) : ∃ e, f.failure? = some e := by
  unfold requestState at failed
  unfold failure?
  cases status : f.status with
  | failed e => exact ⟨e, rfl⟩
  | _ => simp [status] at failed

theorem Fetch.requestState_of_failure? (failed : f.failure? = some e) : f.requestState = .failed := by
  unfold failure? at failed
  unfold requestState
  cases status : f.status with
  | failed e => rfl
  | _ => simp [status] at failed

namespace Crawl

variable [Transports ω]

theorem failure?_eq_none (cache : Bool) (sound : ∀ f ∈ fs, f.failure? = none) :
    failure? ω ⟨fs, cache⟩ = none := by
  cases failed : failure? ω ⟨fs, cache⟩ with
  | none => rfl
  | some e =>
    obtain ⟨i, -, failed⟩ := Option.bind_eq_some_iff.mp failed
    obtain ⟨f, at_, failed⟩ := Option.bind_eq_some_iff.mp failed
    rw [sound f (List.mem_of_getElem? at_)] at failed
    cases failed

theorem failure?_eq_some (cache : Bool) (fast : FailsFast ω (before ++ f :: rest).length)
    (sound : ∀ f ∈ before ++ rest, f.failure? = none) (failed : f.failure? = some e) :
    failure? ω ⟨before ++ f :: rest, cache⟩ = some e := by
  have broken : RequestState.failed ∈ (before ++ f :: rest).map Fetch.requestState := by
    rw [← Fetch.requestState_of_failure? failed]
    exact List.mem_map_of_mem (by simp)
  obtain ⟨i, breaks, at_⟩ := fast _ (List.length_map _) broken
  rw [List.getElem?_map] at at_
  obtain ⟨f', found, failing⟩ := Option.map_eq_some_iff.mp at_
  obtain ⟨e', failed'⟩ := Fetch.exists_failure failing
  -- nobody else has failed
  have same : f' = f := by
    have member := List.mem_of_getElem? found
    rw [List.mem_append, List.mem_cons, or_left_comm, ← List.mem_append] at member
    rcases member with same | other
    · exact same
    · rw [sound f' other] at failed'
      cases failed'
  show (breaker? ω ((before ++ f :: rest).map Fetch.requestState)).bind _ = _
  rw [breaks, Option.bind_some, found, same]
  exact failed

end Crawl

namespace Client

variable [Transports ω] {c : Client ω}

/-- Goes on with the fetches, in order, up to the first one that fails. -/
def pollToFailure (c : Client ω) (cache : Bool) : List Fetch → Client ω × Except Error (List Fetch)
  | [] => (c, .ok [])
  | f :: rest =>
    let polled := c.pollFetch cache f
    match polled.2.failure? with
    | some e => (polled.1, .error e)
    | none =>
      let others := polled.1.pollToFailure cache rest
      (others.1, others.2.map (polled.2 :: ·))

theorem pollFetches_eq (cache : Bool) (fast : FailsFast ω (before ++ rest).length)
    (sound : ∀ f ∈ before ++ rest, f.failure? = none) :
    c.pollFetches cache before rest =
      ((c.pollToFailure cache rest).1, (c.pollToFailure cache rest).2.map (before ++ ·)) := by
  induction rest generalizing c before with
  | nil =>
    rw [pollFetches, pollToFailure, Except.map, List.append_nil]
  | cons f rest ih =>
    have others : ∀ f ∈ before ++ rest, f.failure? = none := fun f member =>
      sound f (by simp only [List.mem_append, List.mem_cons] at member ⊢; tauto)
    unfold pollFetches pollToFailure
    dsimp only
    -- Nobody has failed so far, so `f` alone decides whether the wait goes on.
    cases failed : (c.pollFetch cache f).2.failure? with
    | some e =>
      rw [Crawl.failure?_eq_some cache (by simpa using fast) others failed]
      rfl
    | none =>
      have all : ∀ g ∈ before ++ [(c.pollFetch cache f).2] ++ rest, g.failure? = none := by
        intro g member
        simp only [List.mem_append, List.mem_singleton] at member others
        rcases member with (old | rfl) | new
        · exact others g (.inl old)
        · exact failed
        · exact others g (.inr new)
      have going := Crawl.failure?_eq_none (ω := ω) cache all
      rw [List.append_assoc, List.singleton_append] at going
      rw [going]
      dsimp only
      rw [ih (by simpa using fast) all]
      cases ((c.pollFetch cache f).1.pollToFailure cache rest).2 with
      | error e => rfl
      | ok fs => simp [Except.map]

/-- What a poll has left to do of a crawl. -/
def leftOf (cache : Bool) : Except Error (List Fetch) → Progress
  | .error e => .done (.error e)
  | .ok fs =>
    if fs.all Fetch.isLoaded then .done (.ok (.assets (fs.map Fetch.key)))
    else .waiting (.crawl ⟨fs, cache⟩)

theorem pollCrawlJob_eq (cache : Bool) (fast : FailsFast ω fs.length)
    (sound : ∀ f ∈ fs, f.failure? = none) :
    c.pollCrawlJob ⟨fs, cache⟩ =
      ((c.pollToFailure cache fs).1, leftOf cache (c.pollToFailure cache fs).2) := by
  have polled : c.pollFetches cache [] fs = c.pollToFailure cache fs := by
    rw [pollFetches_eq cache (by simpa using fast) (by simpa using sound)]
    cases same : (c.pollToFailure cache fs).2 <;> simp [Except.map, ← same]
  unfold pollCrawlJob pollCrawl leftOf
  dsimp only
  rw [polled]
  generalize c.pollToFailure cache fs = result
  obtain ⟨c', e | fs'⟩ := result
  · rfl
  · dsimp only
    by_cases loaded : fs'.all Fetch.isLoaded = true
    · rw [if_pos loaded, if_pos loaded]
    · rw [if_neg loaded, if_neg loaded]

/-! ### Answers -/

/-- What a poll makes of a fetch that waits for its answer. -/
inductive Meets (arrives : Arrivals ω) (times : Nat → Prop) (now : Nat) (g : Get ω) (c : Client ω) :
    Client ω × Fetch → Prop
  | stays {f : Fetch} (tracked : g.Tracked arrives times c.session.cache f) : Meets arrives times now g c (c, f)
  | loads {a : Answer} {cookies : CookieJar} {response : HttpResponse} (there : arrives g a now)
      (ok : a.result = .ok response) :
      Meets arrives times now g c ({ c with cookies, session := c.session.keep g.key response.body },
        { key := g.key, url := g.url, status := .loaded })
  | fails {a : Answer} {cookies : CookieJar} {e : Error} (there : arrives g a now)
      (failed : a.result = .error e) :
      Meets arrives times now g c ({ c with cookies },
        { key := g.key, url := g.url, status := .failed (.transportUnavailable g.url.text e.message) })

variable {status : FetchStatus}

theorem world_pollPending (c : Client ω) (f : Fetch) (ticket : Ticket) :
    (c.pollPending true f ticket).1.world = c.world := by
  rcases c.pollPending_cases f ticket with ⟨-, waits⟩ | ⟨a, cookies, -, ⟨e, -, after⟩ | ⟨response, -, after⟩⟩
  · rw [waits]
  · rw [after]
  · rw [after]

theorem meets_pollPending (present : ∀ a, answer? g.ticket c.world = some a → arrives g a now)
    (fresh : answer? g.ticket c.world = none → ∀ a time, arrives g a time → times time)
    (status : FetchStatus) :
    Meets arrives times now g c (c.pollPending true ⟨g.key, g.url, status⟩ g.ticket) := by
  rcases c.pollPending_cases ⟨g.key, g.url, status⟩ g.ticket with
    ⟨unanswered, waits⟩ | ⟨a, cookies, answered, ⟨e, failed, after⟩ | ⟨response, ok, after⟩⟩
  · rw [waits]
    exact .stays (.waits (fresh unanswered))
  · rw [after]
    exact .fails (present a answered) failed
  · rw [after]
    exact .loads (present a answered) ok

theorem meets_pollFetch (present : ∀ a, answer? g.ticket c.world = some a → arrives g a now)
    (there : ∀ a time, arrives g a time → answer? g.ticket c.world = some a)
    (tracked : g.Tracked arrives times c.session.cache f) :
    Meets arrives (fun _ => False) now g c (c.pollFetch true f) := by
  cases tracked with
  | waits =>
    refine meets_pollPending present (fun unanswered a time arrived => ?_) (.pending g.ticket)
    cases unanswered.symm.trans (there a time arrived)
  | taken taken => exact .stays (.taken taken)

omit [Transports ω] in
theorem Meets.cases {r : Client ω × Fetch} (meets : Meets arrives times now g c r) :
    r.1.world = c.world ∧ r.1.profile = c.profile ∧
      Fetched arrives [g] c.session.cache r.1.session.cache ∧
      ((∃ a e, arrives g a now ∧ a.result = .error e ∧
          r.2.failure? = some (.transportUnavailable g.url.text e.message)) ∨
        r.2.failure? = none ∧ g.Tracked arrives times r.1.session.cache r.2) := by
  cases meets with
  | stays tracked => exact ⟨rfl, rfl, .refl _ _, .inr ⟨tracked.unfailed, tracked⟩⟩
  | @loads a _ response there ok =>
    have found : (c.session.keep g.key response.body).cache.find? g.key = some response.body :=
      Entries.find?_set_self _ _ _
    have taken : g.Taken arrives (c.session.keep g.key response.body).cache :=
      ⟨a, response, now, there, ok, found⟩
    refine ⟨rfl, rfl, fun name => ?_, .inr ⟨rfl, .taken taken⟩⟩
    by_cases same : g.key = name
    · exact .inr ⟨g, List.mem_singleton_self g, same, taken⟩
    · exact .inl (Entries.find?_set_other _ _ (Ne.symm same))
  | @fails a _ e there failed => exact ⟨rfl, rfl, .refl _ _, .inl ⟨a, e, there, failed, rfl⟩⟩

/-! ### All fetches -/

/-- A poll up to a failure takes what is there: no fetch waits for it any more, unless one has failed. -/
theorem pollToFailure_tracked (distinct : (gets.map Get.key).Nodup)
    (present : ∀ g a, answer? g.ticket c.world = some a → arrives g a now)
    (there : ∀ g a time, arrives g a time → answer? g.ticket c.world = some a)
    (tracked : List.Forall₂ (Get.Tracked arrives times c.session.cache) gets fs) :
    (c.pollToFailure true fs).1.world = c.world ∧
      Fetched arrives gets c.session.cache (c.pollToFailure true fs).1.session.cache ∧
      ((∃ fs', (c.pollToFailure true fs).2 = .ok fs' ∧
          List.Forall₂ (Get.Tracked arrives (fun _ => False) (c.pollToFailure true fs).1.session.cache)
            gets fs') ∨
        Fails arrives now gets (c.pollToFailure true fs).2) := by
  induction fs generalizing c gets with
  | nil =>
    cases tracked
    exact ⟨rfl, .refl _ _, .inl ⟨[], rfl, .nil⟩⟩
  | cons f rest ih =>
    cases tracked with
    | @cons g _ gets _ first later =>
    obtain ⟨away, distinct⟩ := List.nodup_cons.mp distinct
    obtain ⟨world, -, fetched, outcome⟩ := (meets_pollFetch (present g) (there g) first).cases
    unfold pollToFailure
    dsimp only
    rcases outcome with ⟨a, e, there, failed, broken⟩ | ⟨unbroken, here⟩
    · rw [broken]
      refine ⟨world, ?_, .inr ⟨g, List.mem_cons_self, a, e, there, failed, rfl⟩⟩
      exact fetched.subset (List.cons_subset_cons g (List.nil_subset gets))
    -- The others have other keys and leave the body of `g` where it is.
    · rw [unbroken]
      dsimp only
      have apart : ∀ g' ∈ gets, g'.key ∉ [g].map Get.key := by
        intro g' member same
        exact away (List.mem_singleton.mp same ▸ List.mem_map_of_mem member)
      obtain ⟨world', fetched', outcome'⟩ := ih distinct (by rw [world]; exact present)
        (by rw [world]; exact there)
        (tracked_of_fetched fetched apart later)
      refine ⟨world'.trans world, fetched.cons fetched', ?_⟩
      rcases outcome' with ⟨fs', all, after⟩ | fails
      · rw [all]
        exact .inl ⟨_, rfl, .cons (here.fetched fetched' away) after⟩
      · exact .inr (fails.cons _)

/-! ### The first poll -/

/-- The request of a fetch has been sent. -/
structure Asked (c : Client ω) (f : Fetch) (g : Get ω) (c' : Client ω) : Prop where
  key : g.key = f.key
  url : g.url = f.url
  is : g.IsFor c.profile.baseUrl
  issued : Transports.send g.request g.cookie c.world = (g.world, g.ticket)
  world : c'.world = g.world
  profile : c'.profile = c.profile
  session : c'.session = c.session

theorem pollFetch_unsent (c : Client ω) (new : f.status = .unsent) :
    (∃ fault, c.profile.baseUrl.join f.url.text = .error fault ∧
        c.pollFetch true f = (c, { f with status := .failed (.url fault) })) ∨
      ∃ g c', Asked c f g c' ∧
        c.pollFetch true f = c'.pollPending true ⟨g.key, g.url, .unsent⟩ g.ticket := by
  unfold pollFetch
  rw [new]
  dsimp only
  rcases c.send_fetch f with ⟨fault, unread, failed⟩ | ⟨g, sources, key, url, is, issued, sent⟩
  · rw [failed]
    exact .inl ⟨fault, unread, rfl⟩
  · rw [sent]
    let c' : Client ω := { c.logged g.call with sources, world := g.world }
    refine .inr ⟨g, c', ⟨key, url, is, issued, rfl, rfl, rfl⟩, ?_⟩
    rw [key, url, ← new]

/-- A client has sent the requests of these fetches, in order, up to an answer that is a failure. -/
structure Requested (arrives : Arrivals ω) (times : Nat → Prop) (now : Nat) (c : Client ω) (fs : List Fetch)
    (gets : List (Get ω)) (r : Client ω × Except Error (List Fetch)) : Prop where
  targets : gets.map (fun g => (g.key, g.url)) <+: fs.map (fun f => (f.key, f.url))
  are : ∀ g ∈ gets, g.IsFor c.profile.baseUrl
  issued : Get.Issued c.world gets
  fetched : Fetched arrives gets c.session.cache r.1.session.cache
  outcome : (gets.length = fs.length ∧ ∃ fs', r.2 = .ok fs' ∧
      List.Forall₂ (Get.Tracked arrives times r.1.session.cache) gets fs') ∨
    Fails arrives now gets r.2

variable {c₁ c' : Client ω} {r : Client ω × Except Error (List Fetch)}

theorem Asked.fails (asked : Asked c f g c₁) (rest : List Fetch)
    (fetched : Fetched arrives [g] c.session.cache r.1.session.cache) (fails : Fails arrives now [g] r.2) :
    Requested arrives times now c (f :: rest) [g] r where
  targets := by
    refine ⟨rest.map fun f => (f.key, f.url), ?_⟩
    rw [List.map_cons, asked.key, asked.url]
    rfl
  are := fun g' member => List.mem_singleton.mp member ▸ asked.is
  issued := ⟨asked.issued, trivial⟩
  fetched := fetched
  outcome := .inr fails

theorem Asked.goesOn (asked : Asked c f g c₁) (distinct : f.key ∉ rest.map Fetch.key)
    (world : c'.world = g.world) (profile : c'.profile = c.profile)
    (fetched : Fetched arrives [g] c.session.cache c'.session.cache) {f' : Fetch}
    (here : g.Tracked arrives times c'.session.cache f') (others : Requested arrives times now c' rest gets r) :
    Requested arrives times now c (f :: rest) (g :: gets) (r.1, r.2.map (f' :: ·)) where
  targets := by
    rw [List.map_cons, List.map_cons, asked.key, asked.url]
    exact List.cons_prefix_cons.mpr ⟨rfl, others.targets⟩
  are := by
    have are := others.are
    rw [profile] at are
    exact List.forall_mem_cons.mpr ⟨asked.is, are⟩
  issued := by
    have issued := others.issued
    rw [world] at issued
    exact ⟨asked.issued, issued⟩
  fetched := fetched.cons others.fetched
  outcome := by
    have apart : g.key ∉ gets.map Get.key := by
      intro member
      obtain ⟨g', member, same⟩ := List.mem_map.mp member
      obtain ⟨f', among, pair⟩ := List.mem_map.mp (others.targets.subset (List.mem_map_of_mem member))
      have named : f'.key = f.key := (Prod.mk.inj pair).1.trans (same.trans asked.key)
      exact distinct (named ▸ List.mem_map_of_mem among)
    rcases others.outcome with ⟨all, fs', after, tracked⟩ | fails
    · refine .inl ⟨by simp [all], f' :: fs', ?_, .cons (here.fetched others.fetched apart) tracked⟩
      rw [after]
      rfl
    · exact .inr (fails.cons _)

/-- What the first poll makes of fetches that were not sent yet: it sends their requests, in order, until
the URL of one cannot be read again or an answer is a failure. -/
theorem pollToFailure_unsent (instant : Instant ω) (unsent : ∀ f ∈ fs, f.status = .unsent)
    (distinct : (fs.map Fetch.key).Nodup) (fresh : ∀ g a time, arrives g a time → times time)
    (present : ∀ g a, answer? g.ticket (c.pollToFailure true fs).1.world = some a → arrives g a now) :
    Transports.now (c.pollToFailure true fs).1.world = Transports.now c.world ∧
      Keeps c.world (c.pollToFailure true fs).1.world ∧
      ((∃ f ∈ fs, ∃ fault, c.profile.baseUrl.join f.url.text = .error fault ∧
          (c.pollToFailure true fs).2 = .error (.url fault)) ∨
        ∃ gets, Requested arrives times now c fs gets (c.pollToFailure true fs)) := by
  induction fs generalizing c with
  | nil =>
    refine ⟨rfl, fun _ _ found => found, .inr ⟨[], List.nil_prefix, ?_, trivial, .refl _ _, ?_⟩⟩
    · exact fun g member => nomatch member
    · exact .inl ⟨rfl, [], rfl, .nil⟩
  | cons f rest ih =>
    obtain ⟨new, unsent⟩ := List.forall_mem_cons.mp unsent
    obtain ⟨away, distinct⟩ := List.nodup_cons.mp distinct
    unfold pollToFailure at present ⊢
    rcases c.pollFetch_unsent new with ⟨fault, unread, failed⟩ | ⟨g, c₁, asked, polled⟩
    · rw [failed]
      exact ⟨rfl, fun _ _ found => found, .inl ⟨f, List.mem_cons_self, fault, unread, rfl⟩⟩
    obtain ⟨punctual, keeps⟩ : Transports.now g.world = Transports.now c.world ∧
        Keeps c.world g.world := by
      have sending := instant g.request g.cookie c.world
      rwa [asked.issued] at sending
    have meeting (present : ∀ a, answer? g.ticket g.world = some a → arrives g a now) :=
      (meets_pollPending (c := c₁) (asked.world ▸ present) (fun _ => fresh g) .unsent).cases
    have world : (c.pollFetch true f).1.world = g.world := by
      rw [polled, world_pollPending, asked.world]
    rw [← polled, asked.profile, asked.session] at meeting
    dsimp only at present ⊢
    cases broken : (c.pollFetch true f).2.failure? with
    | some e =>
      simp only [broken, world] at present ⊢
      obtain ⟨-, -, fetched, outcome⟩ := meeting (present g)
      refine ⟨punctual, keeps, .inr ⟨[g], asked.fails rest fetched ?_⟩⟩
      rcases outcome with ⟨a, e', there, failed, same⟩ | ⟨unbroken, -⟩
      · cases broken.symm.trans same
        exact ⟨g, List.mem_singleton_self g, a, e', there, failed, rfl⟩
      · cases broken.symm.trans unbroken
    | none =>
      simp only [broken] at present ⊢
      -- An answer that was there when `f` was polled is there when all have been.
      obtain ⟨punctual', keeps', outcome'⟩ := ih unsent distinct present
      rw [world] at punctual' keeps'
      obtain ⟨-, profile, fetched, outcome⟩ :=
        meeting fun a there => present g a (keeps' g.ticket a there)
      refine ⟨punctual'.trans punctual, fun ticket a there => keeps' ticket a (keeps ticket a there), ?_⟩
      rcases outcome' with ⟨f', member, fault, unread, failed⟩ | ⟨gets, requested⟩
      · rw [profile] at unread
        refine .inl ⟨f', List.mem_cons_of_mem _ member, fault, unread, ?_⟩
        rw [failed]
        rfl
      · rcases outcome with ⟨_, _, _, _, failed⟩ | ⟨-, here⟩
        · cases broken.symm.trans failed
        · exact .inr ⟨g :: gets, asked.goesOn away world profile fetched here requested⟩

end Client

/-! ### Scripted servers -/

namespace Scenario.Servers

theorem instant : Instant Servers := by
  intro request cookie s
  refine ⟨rfl, fun ticket a there => ?_⟩
  simp only [Transports.answer?, Servers.answer?, Transports.send, Servers.send] at there ⊢
  cases found : s.promises[ticket]? with
  | none => simp [found] at there
  | some p =>
    rw [List.getElem?_append_left (List.getElem?_eq_some_iff.mp found).1, found]
    rwa [found] at there

theorem keeps_of_later {s s' : Servers} (promises : s'.promises = s.promises) (later : s.now ≤ s'.now) :
    Keeps s s' := by
  intro ticket a there
  simp only [Transports.answer?, Servers.answer?] at there ⊢
  rw [promises]
  cases found : s.promises[ticket]? with
  | none => simp [found] at there
  | some p =>
    simp only [found] at there ⊢
    split at there
    · rename_i due
      rw [if_pos (Nat.le_trans due later)]
      exact there
    · cases there

/-- Only so many requests as make a group fail fast: a failure behind a request that has not been answered
does not count where there are more. -/
theorem failsFast_iff (count : Nat) : FailsFast Servers count ↔ count ≤ groupLimit := by
  constructor
  · intro fast
    by_contra many
    obtain ⟨n, rfl⟩ : ∃ n, count = n + 2 := ⟨count - 2, by have : groupLimit = 30 := rfl; omega⟩
    let states := RequestState.waiting :: List.replicate (n + 1) .failed
    have length : states.length = n + 2 := by
      rw [List.length_cons, List.length_replicate]
    obtain ⟨i, breaks, -⟩ := fast states length (by simp [states, List.replicate_succ])
    have looked : Servers.breaker? states = none := by
      rw [Servers.breaker?, length, if_neg many]
      rfl
    cases looked.symm.trans breaks
  · intro few states length failed
    obtain ⟨i, first⟩ : ∃ i, states.findIdx? (fun s => s = .failed) = some i := by
      rw [← Option.isSome_iff_exists, List.findIdx?_isSome]
      exact List.any_eq_true.mpr ⟨_, failed, by simp⟩
    refine ⟨i, ?_, ?_⟩
    · show Servers.breaker? states = some i
      rw [Servers.breaker?, if_pos (length ▸ few), first]
    · obtain ⟨within, is, -⟩ := List.findIdx?_eq_some_iff_getElem.mp first
      rw [List.getElem?_eq_getElem within]
      exact congrArg some (of_decide_eq_true is)

theorem ticket_of_issued {s : Servers} {gets : List (Get Servers)}
    (issued : Get.Issued s gets) {i : Nat} {g : Get Servers} (found : gets[i]? = some g) :
    g.ticket = s.promises.length + i := by
  induction gets generalizing s i with
  | nil => cases found
  | cons first gets ih =>
    obtain ⟨sent, issued⟩ := issued
    obtain ⟨world, ticket⟩ := Prod.mk.inj sent
    cases i with
    | zero =>
      cases found
      exact ticket.symm
    | succ i =>
      have later := ih issued found
      rw [← world] at later
      refine later.trans ?_
      show (s.promises ++ [_]).length + i = s.promises.length + (i + 1)
      rw [List.length_append, List.length_singleton]
      omega

end Scenario.Servers

end LiveSession
