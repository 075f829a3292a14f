import LiveSession.Proofs.Client.Fetches

/-!
# What a crawl brings home

A crawl that caches and succeeds, alone on its tab, has sent one request for each key that the page
refers to and that was not cached, in the order in which the keys occur first, and has cached the body
of each answer. Nothing is left for another crawl of the page then. `harvest` says so.
-/

namespace LiveSession

variable {ω : Type} [Transports ω]

namespace Progress

/-- A crawl that has failed, or is going to. -/
def IsLost : Progress → Prop
  | .done (.error _) => True
  | .waiting (.crawl crawl) => Spoiled crawl.fetches
  | _ => False

/-- A crawl that goes on, or has brought home all bodies. -/
def Gathers (passed : ω → Prop) (gets : List (Get ω)) (cache : Entries String) : Progress → Prop
  | .done (.ok o) => o = .assets (gets.map Get.key) ∧ ∀ g ∈ gets, g.Kept passed cache
  | .waiting (.crawl crawl) =>
    crawl.cache = true ∧ List.Forall₂ (Get.Stage passed cache) gets crawl.fetches
  | _ => False

end Progress

namespace Client

variable {passed : ω → Prop} {c c₀ : Client ω} {gets : List (Get ω)} {fs : List Fetch}
  {page : Page} {a : CrawlAction}

/-- What a crawl that was started on `c₀` has done when its requests were sent. -/
structure Gathered (passed : ω → Prop) (c₀ : Client ω) (gets : List (Get ω)) (c : Client ω)
    (progress : Progress) : Prop where
  log : c.log = c₀.log ++ gets.map Get.call
  swept : Swept (gets.map Get.key) c₀ c
  gathers : progress.Gathers passed gets c.session.cache

/-! ### A poll -/

/-- A poll goes on with all fetches, or the crawl has failed. -/
theorem pollCrawlJob_cases (c : Client ω) (cache : Bool) (fs : List Fetch) :
    (∃ e, (c.pollCrawlJob ⟨fs, cache⟩).2 = .done (.error e)) ∨
      c.pollCrawlJob ⟨fs, cache⟩ =
        ((c.sweep cache fs).1,
          if (c.sweep cache fs).2.all Fetch.isLoaded then
            .done (.ok (.assets ((c.sweep cache fs).2.map Fetch.key)))
          else .waiting (.crawl ⟨(c.sweep cache fs).2, cache⟩)) := by
  have swept {fetches : List Fetch} (on : (c.pollFetches cache [] fs).2 = .ok fetches) :=
    sweep_of_pollFetches on
  unfold pollCrawlJob pollCrawl
  dsimp only
  generalize c.pollFetches cache [] fs = result at swept ⊢
  obtain ⟨c', e | fetches⟩ := result
  · exact .inl ⟨e, rfl⟩
  · obtain ⟨client, all⟩ := swept rfl
    dsimp only at client all ⊢
    rw [List.nil_append] at all
    rw [← client, ← all]
    refine .inr ?_
    cases loaded : fetches.all Fetch.isLoaded <;> rfl

omit [Transports ω] in
theorem isLost_of_spoiled (cache : Bool) (spoiled : Spoiled fs) :
    (if fs.all Fetch.isLoaded then Progress.done (.ok (.assets (fs.map Fetch.key)))
      else .waiting (.crawl ⟨fs, cache⟩)).IsLost := by
  have unloaded : ¬ fs.all Fetch.isLoaded = true := by
    intro loaded
    obtain ⟨f, member, e, failed⟩ := spoiled
    have is := List.all_eq_true.mp loaded f member
    rw [Fetch.isLoaded, failed] at is
    cases is
  rw [if_neg unloaded]
  exact spoiled

theorem gathers_of_stages {cache : Entries String}
    (stages : List.Forall₂ (Get.Stage passed cache) gets fs) :
    (if fs.all Fetch.isLoaded then Progress.done (.ok (.assets (fs.map Fetch.key)))
      else .waiting (.crawl ⟨fs, true⟩)).Gathers passed gets cache := by
  split
  · rename_i loaded
    have all : fs.map Fetch.key = gets.map Get.key ∧ ∀ g ∈ gets, g.Kept passed cache := by
      induction stages with
      | nil => exact ⟨rfl, fun g member => nomatch member⟩
      | @cons g f gets fs stage _ ih =>
        rw [List.all_cons, Bool.and_eq_true] at loaded
        obtain ⟨keys, kept⟩ := ih loaded.2
        cases stage with
        | waits => cases loaded.1
        | arrived here =>
          exact ⟨congrArg (g.key :: ·) keys, List.forall_mem_cons.mpr ⟨here, kept⟩⟩
    exact ⟨congrArg Outcome.assets all.1, all.2⟩
  · exact ⟨rfl, stages⟩

theorem isLost_pollCrawlJob (c : Client ω) {crawl : Crawl} (spoiled : Spoiled crawl.fetches) :
    (c.pollCrawlJob crawl).2.IsLost := by
  rcases c.pollCrawlJob_cases crawl.cache crawl.fetches with ⟨e, failed⟩ | on
  · rw [failed]
    trivial
  · rw [on]
    exact isLost_of_spoiled _ (spoiled_sweep spoiled)

theorem gathered_pollCrawlJob {crawl : Crawl} (distinct : (gets.map Get.key).Nodup)
    (gathered : Gathered passed c₀ gets c (.waiting (.crawl crawl))) (hears : passed c.world) :
    (c.pollCrawlJob crawl).2.IsLost ∨
      Gathered passed c₀ gets (c.pollCrawlJob crawl).1 (c.pollCrawlJob crawl).2 := by
  obtain ⟨fs, cache⟩ := crawl
  obtain ⟨caches, stages⟩ := gathered.gathers
  cases caches
  rcases c.pollCrawlJob_cases true fs with ⟨e, failed⟩ | on
  · rw [failed]
    exact .inl trivial
  · rw [on]
    rcases sweep_goesOn stages distinct hears with spoiled | ⟨stages', swept, log⟩
    · exact .inl (isLost_of_spoiled _ spoiled)
    · refine .inr ⟨log.trans gathered.log, ?_, gathers_of_stages stages'⟩
      exact (gathered.swept.trans swept).subset fun key member =>
        (List.mem_append.mp member).elim id id

/-! ### The start -/

def candidates (c : Client ω) (page : Page) (a : CrawlAction) : List Assets.Candidate :=
  Assets.candidates (fun key => c.session.cache.holds key) page.url
    (a.extensions.getD Assets.standardExtensions) page.body

def fetches (c : Client ω) (page : Page) (a : CrawlAction) : List Fetch :=
  (c.candidates page a).map fun f => { key := f.1, url := f.2 }

omit [Transports ω] in
theorem map_fetches (c : Client ω) (page : Page) (a : CrawlAction) :
    (c.fetches page a).map (fun f => (f.key, f.url)) = c.candidates page a := by
  unfold fetches
  rw [List.map_map]
  exact List.map_id _

omit [Transports ω] in
theorem nodup_fetches (c : Client ω) (page : Page) (a : CrawlAction) :
    ((c.fetches page a).map Fetch.key).Nodup := by
  unfold fetches
  rw [List.map_map]
  exact Assets.candidates_nodup _ _ _ _

omit [Transports ω] in
theorem unsent_of_mem_fetches {f : Fetch} (member : f ∈ c.fetches page a) : f.status = .unsent := by
  obtain ⟨_, _, rfl⟩ := List.mem_map.mp member
  rfl

omit [Transports ω] in
theorem crawlOf_page (current : c.session.page = some page) :
    c.crawlOf a = ⟨c.fetches page a, a.cache⟩ := by
  unfold crawlOf fetches candidates
  rw [current]
  dsimp only
  split
  · rename_i empty
    rw [String.isEmpty_iff.mp empty, Assets.candidates_empty]
    rfl
  · rfl

theorem gathered_start (passed : ω → Prop) (current : c.session.page = some page)
    (caches : a.cache = true) :
    (c.pollCrawlJob (c.crawlOf a)).2.IsLost ∨
      ∃ gets : List (Get ω), gets.map (fun g => (g.key, g.url)) = c.candidates page a ∧
        (∀ g ∈ gets, g.IsFor c.profile.baseUrl) ∧ Get.Issued c.world gets ∧
        Gathered passed c gets (c.pollCrawlJob (c.crawlOf a)).1 (c.pollCrawlJob (c.crawlOf a)).2 := by
  rw [crawlOf_page current, caches]
  rcases c.pollCrawlJob_cases true (c.fetches page a) with ⟨e, failed⟩ | on
  · exact .inl (by rw [failed]; trivial)
  · rw [on]
    rcases sweep_start passed (fun _ => unsent_of_mem_fetches) (c.nodup_fetches page a) with
      spoiled | ⟨gets, started⟩
    · exact .inl (isLost_of_spoiled _ spoiled)
    · exact .inr ⟨gets, started.targets.trans (c.map_fetches page a), started.are, started.issued, started.log,
        started.swept, gathers_of_stages started.stages⟩

/-! ### Another crawl -/

omit [Transports ω] in
theorem holds_of_find? {name body : String} {es : Entries String}
    (found : es.find? name = some body) : es.holds name = true := by
  refine List.any_eq_true.mpr ⟨_, Entries.mem_of_find? found, ?_⟩
  exact decide_eq_true rfl

omit [Transports ω] in
theorem holds_iff {name : String} {es : Entries String} :
    es.holds name = true ↔ es.find? name ≠ none := by
  constructor
  · intro held
    obtain ⟨entry, member, same⟩ := List.any_eq_true.mp held
    obtain ⟨body, found⟩ := Entries.exists_of_mem_names (List.mem_map.mpr ⟨entry, member, rfl⟩)
    rw [of_decide_eq_true same] at found
    rw [found]
    exact nofun
  · intro some_
    obtain ⟨body, found⟩ := Option.ne_none_iff_exists'.mp some_
    exact holds_of_find? found

theorem pollCrawlJob_cached (current : c.session.page = some page)
    (cached : ∀ key ∈ Assets.keys page.url (a.extensions.getD Assets.standardExtensions) page.body,
      c.session.cache.find? key ≠ none) :
    c.pollCrawlJob (c.crawlOf a) = (c, .done (.ok (.assets []))) := by
  have nothing : c.candidates page a = [] :=
    Assets.candidates_eq_nil fun key member => holds_iff.mpr (cached key member)
  rw [crawlOf_page current, fetches, nothing]
  rfl

/-! ### What was gathered -/

omit [Transports ω] in
theorem keys_of_candidates
    (targets : gets.map (fun g => (g.key, g.url)) = c₀.candidates page a) :
    gets.map Get.key = (Assets.firstsBy id (Assets.keys page.url
      (a.extensions.getD Assets.standardExtensions) page.body)).filter fun key =>
        !c₀.session.cache.holds key := by
  have keys := congrArg (List.map Prod.fst) targets
  rw [List.map_map] at keys
  exact keys.trans (Assets.map_fst_candidates _ _ _ _)

omit [Transports ω] in
theorem nodup_keys (targets : gets.map (fun g => (g.key, g.url)) = c₀.candidates page a) :
    (gets.map Get.key).Nodup := by
  have all := Assets.candidates_nodup (fun key => c₀.session.cache.holds key) page.url
    (a.extensions.getD Assets.standardExtensions) page.body
  rw [← candidates, ← targets, List.map_map] at all
  exact all

omit [Transports ω] in
theorem mem_keys_iff (targets : gets.map (fun g => (g.key, g.url)) = c₀.candidates page a)
    (key : String) : key ∈ gets.map Get.key ↔
      key ∈ Assets.keys page.url (a.extensions.getD Assets.standardExtensions) page.body ∧
        c₀.session.cache.find? key = none := by
  rw [keys_of_candidates targets, List.mem_filter, Assets.mem_firstsBy_id, Bool.not_eq_true',
    ← Bool.not_eq_true, holds_iff, not_not]

theorem Gathered.cached {o : Outcome} (gathered : Gathered passed c₀ gets c (.done (.ok o)))
    (targets : gets.map (fun g => (g.key, g.url)) = c₀.candidates page a) {key : String}
    (member : key ∈ Assets.keys page.url (a.extensions.getD Assets.standardExtensions) page.body) :
    c.session.cache.find? key ≠ none := by
  by_cases fetched : key ∈ gets.map Get.key
  · obtain ⟨g, gotten, rfl⟩ := List.mem_map.mp fetched
    obtain ⟨response, _, found⟩ := gathered.gathers.2 g gotten
    rw [found]
    exact nofun
  · rw [gathered.swept.others key fetched]
    exact fun missing => fetched ((mem_keys_iff targets key).mpr ⟨member, missing⟩)

end Client

namespace Tab

open Client

variable {t : Tab ω} {events : List (TabEvent ω)} {event : TabEvent ω} {flight : Nat}
  {passed : ω → Prop} {c₀ : Client ω} {gets : List (Get ω)} {a : CrawlAction} {page : Page}

/-- A crawl that is lost, or that gathers what it has sent for. -/
def Gathering (passed : ω → Prop) (c₀ : Client ω) (gets : List (Get ω)) (c : Client ω)
    (progress : Progress) : Prop :=
  progress.IsLost ∨ Gathered passed c₀ gets c progress

theorem gathering_poll {job : Job} (distinct : (gets.map Get.key).Nodup)
    (hears : passed t.client.world) (gathering : Gathering passed c₀ gets t.client (.waiting job)) :
    Gathering passed c₀ gets (t.client.poll job).1 (t.client.poll job).2 := by
  cases job with
  | crawl crawl =>
    rcases gathering with lost | gathered
    · exact .inl (t.client.isLost_pollCrawlJob lost)
    · exact gathered_pollCrawlJob distinct gathered hears
  | _ =>
    rcases gathering with lost | gathered
    · cases lost
    · cases gathered.gathers

theorem gathering_background {c c' : Client ω} {progress : Progress}
    (behind : c.Background c') (gathering : Gathering passed c₀ gets c progress) :
    Gathering passed c₀ gets c' progress := by
  refine gathering.imp_right fun gathered => ⟨behind.log.trans gathered.log, ?_, ?_⟩
  · have swept := gathered.swept.trans (swept_of_session [] behind.profile behind.session)
    rwa [List.append_nil] at swept
  · rw [behind.session]
    exact gathered.gathers

theorem gathering_step (distinct : (gets.map Get.key).Nodup) (hears : passed t.client.world)
    (carrying : Carrying (Gathering passed c₀ gets) flight t) (alone : event.Alone flight) :
    Carrying (Gathering passed c₀ gets) flight (t.step event) := by
  obtain ⟨progress, time, found, gathering⟩ := carrying
  rcases t.alone_cases alone with rfl | ⟨behind, flights⟩
  · cases progress with
    | done result =>
      rw [step, poll_ended found]
      exact ⟨_, time, found, gathering⟩
    | waiting job =>
      rw [step, poll_action found]
      exact ⟨_, _, List.getElem?_set_self (List.getElem?_eq_some_iff.mp found).1,
        gathering_poll distinct hears gathering⟩
  · exact ⟨progress, time, flights ▸ found, gathering_background behind gathering⟩

theorem gathering_run (distinct : (gets.map Get.key).Nodup)
    (hears : ∀ past, past <+: events → passed (t.run past).client.world)
    (carrying : Carrying (Gathering passed c₀ gets) flight t)
    (alone : ∀ event ∈ events, event.Alone flight) :
    Carrying (Gathering passed c₀ gets) flight (t.run events) := by
  induction events generalizing t with
  | nil => exact carrying
  | cons event events ih =>
    have ⟨first, rest⟩ := List.forall_mem_cons.mp alone
    have now := hears [] List.nil_prefix
    refine ih (fun past before => ?_) (gathering_step distinct now carrying first) rest
    exact hears (event :: past) (List.cons_prefix_cons.mpr ⟨rfl, before⟩)

theorem isLost_run (lost : Carrying (fun _ progress => progress.IsLost) flight t)
    (alone : ∀ event ∈ events, event.Alone flight) :
    Carrying (fun _ progress => progress.IsLost) flight (t.run events) := by
  refine Carrying.run (fun c job lost => ?_) (fun _ _ _ _ lost => lost) lost alone
  cases job with
  | crawl crawl => exact c.isLost_pollCrawlJob lost
  | _ => cases lost

/-- What a crawl with these requests has done to a tab. -/
structure Harvest (passed : ω → Prop) (t : Tab ω) (page : Page) (extensions : List String)
    (gets : List (Get ω)) (t' : Tab ω) : Prop where
  /-- One request was sent for each key, and nothing else was called. -/
  log : t'.client.log = t.client.log ++ gets.map Get.call
  are : ∀ g ∈ gets, g.IsFor t.client.profile.baseUrl
  issued : Get.Issued t.client.world gets
  /-- A key is the path and query of a local reference with an allowed extension. -/
  resolved : ∀ g ∈ gets, ∃ reference ∈ Assets.references extensions page.body,
    page.url.join reference = .ok g.url ∧ g.key = g.url.resource
  distinct : (gets.map Get.key).Nodup
  complete : ∀ key, key ∈ gets.map Get.key ↔
    key ∈ Assets.keys page.url extensions page.body ∧ t.client.session.cache.find? key = none
  /-- The keys stand in the order of their first occurrences. -/
  ordered : (gets.map Get.key).Pairwise fun key later =>
    (Assets.keys page.url extensions page.body).idxOf key <
      (Assets.keys page.url extensions page.body).idxOf later
  bodies : ∀ g ∈ gets, g.Kept passed t'.client.session.cache
  others : ∀ name ∉ gets.map Get.key,
    t'.client.session.cache.find? name = t.client.session.cache.find? name
  /-- The page, the ajax result and the event are the same. -/
  session : t'.client.session = { t.client.session with cache := t'.client.session.cache }
  /-- Another crawl for the same extensions, or for some of them, ends at once and does nothing. -/
  again : ∀ b : CrawlAction, b.extensions.getD Assets.standardExtensions ⊆ extensions →
    t'.step (.dispatch (.loadStaticAssets b)) =
      { t' with flights := t'.flights ++ [.actionEnded (.ok (.assets [])) t'.client.now] }

theorem harvest_of_gathered {t' : Tab ω} (current : t.client.session.page = some page)
    (targets : gets.map (fun g => (g.key, g.url)) = t.client.candidates page a)
    (are : ∀ g ∈ gets, g.IsFor t.client.profile.baseUrl) (issued : Get.Issued t.client.world gets)
    {o : Outcome} (gathered : Gathered passed t.client gets t'.client (.done (.ok o))) :
    Harvest passed t page (a.extensions.getD Assets.standardExtensions) gets t' := by
  have now : t'.client.session.page = some page := by
    rw [gathered.swept.session]
    exact current
  refine ⟨gathered.log, are, issued, fun g member => ?_, nodup_keys targets, mem_keys_iff targets,
    ?_, gathered.gathers.2, gathered.swept.others, gathered.swept.session, fun b subset => ?_⟩
  · have candidate : (g.key, g.url) ∈ t.client.candidates page a := by
      rw [← targets]
      exact List.mem_map.mpr ⟨g, member, rfl⟩
    exact Assets.candidate_resource candidate
  · rw [keys_of_candidates targets]
    exact (Assets.pairwise_firstsBy_id _).filter _
  · have cached : ∀ key ∈ Assets.keys page.url (b.extensions.getD Assets.standardExtensions)
        page.body, t'.client.session.cache.find? key ≠ none := fun key member =>
      gathered.cached targets (Assets.keys_subset subset member)
    show t'.launch (t'.client.pollCrawlJob (t'.client.crawlOf b)) = _
    rw [pollCrawlJob_cached now cached]
    rfl

/-- A crawl that caches and succeeds, alone on its tab, returns the keys of what it has fetched. -/
theorem harvest (t : Tab ω) (a : CrawlAction) (caches : a.cache = true)
    (current : t.client.session.page = some page) (events : List (TabEvent ω))
    (alone : ∀ event ∈ events, event.Alone t.flights.length) {o : Outcome} {time : Nat}
    (ended : ((t.step (.dispatch (.loadStaticAssets a))).run events).flights[t.flights.length]? =
      some (.actionEnded (.ok o) time)) :
    ∃ gets : List (Get ω), o = .assets (gets.map Get.key) ∧
      Harvest (fun w => ∃ past, past <+: events ∧
          w = ((t.step (.dispatch (.loadStaticAssets a))).run past).client.world)
        t page (a.extensions.getD Assets.standardExtensions) gets
        ((t.step (.dispatch (.loadStaticAssets a))).run events) := by
  have last {progress : Progress} {time' : Nat}
      (same : Flight.ofProgress time' progress = .actionEnded (.ok o) time) :
      progress = .done (.ok o) := by
    cases progress <;> cases same
    rfl
  let passed : ω → Prop := fun w => ∃ past, past <+: events ∧
    w = ((t.step (.dispatch (.loadStaticAssets a))).run past).client.world
  have hears (past : List (TabEvent ω)) (before : past <+: events) :
      passed ((t.step (.dispatch (.loadStaticAssets a))).run past).client.world :=
    ⟨past, before, rfl⟩
  rcases gathered_start passed current caches with lost | ⟨gets, targets, are, issued, gathered⟩
  · obtain ⟨progress, time', found, lost⟩ := isLost_run (carrying_launch lost) alone
    have is := last (Option.some.inj (found.symm.trans ended))
    rw [is] at lost
    cases lost
  · have distinct := nodup_keys targets
    obtain ⟨progress, time', found, gathering⟩ :=
      gathering_run distinct hears (carrying_launch (.inr gathered)) alone
    have is := last (Option.some.inj (found.symm.trans ended))
    subst is
    have gathered := gathering.resolve_left nofun
    exact ⟨gets, gathered.gathers.1, harvest_of_gathered current targets are issued gathered⟩

omit [Transports ω] in
theorem exists_assets (t : Tab ω) (flight : Nat) (keys : List String)
    (brought : (t.flights[flight]?.any fun
      | .actionEnded (.ok (.assets keys')) _ => keys' == keys
      | _ => false) = true) :
    ∃ time, t.flights[flight]? = some (.actionEnded (.ok (.assets keys)) time) := by
  obtain ⟨ended, found, is⟩ := (Option.any_eq_true _ _).mp brought
  split at is
  · rename_i keys' time
    rw [beq_iff_eq] at is
    exact ⟨time, is ▸ found⟩
  · cases is

/-- Two spellings of a script that takes a while, and an image with a query. -/
theorem harvest_spellings :
    let body := "<script src='/a.js'></script><img src='b.png?v=1'><script src='x/../a.js'></script>"
    let t₀ := visiting body
    let servers := { t₀.client.world with routes := [{ path := "/a.js", body := "a", ms := some 5 }] }
    let t := t₀.step (.pass servers 0)
    let flight := t.flights.length
    let started := t.step (.dispatch (.loadStaticAssets {}))
    let events : List (TabEvent Scenario.Servers) :=
      [.poll flight, .pass { started.client.world with now := 5 } 0, .poll flight]
    ∃ page gets, t.client.session.page = some page ∧
      gets.map Get.key = ["/a.js", "/b.png?v=1"] ∧
      Harvest (fun w => ∃ past, past <+: events ∧ w = (started.run past).client.world)
        t page Assets.standardExtensions gets (started.run events) := by
  intro body t₀ servers t flight started events
  obtain ⟨page, current, _⟩ := exists_page t home body (by decide +kernel)
  obtain ⟨time, ended⟩ := exists_assets (started.run events) flight ["/a.js", "/b.png?v=1"]
    (by decide +kernel)
  have alone : ∀ event ∈ events, event.Alone flight := by
    intro event member
    rcases List.mem_cons.mp member with rfl | member
    · exact .poll
    rcases List.mem_cons.mp member with rfl | member
    · exact .pass _ _
    · exact List.mem_singleton.mp member ▸ .poll
  obtain ⟨gets, keys, brought⟩ := harvest t {} rfl current events alone ended
  exact ⟨page, gets, current, (Outcome.assets.inj keys).symm, brought⟩

end Tab

end LiveSession
