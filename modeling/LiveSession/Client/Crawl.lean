import LiveSession.Assets.References
import LiveSession.Client.Request

/-!
# Loading of static assets

The resources that the page refers to and that are not cached are fetched all at once. Each body is
cached as it arrives; a failure ends the action and the fetches that are left. Which failure that is, and
when it counts, is up to the transports that wait for all of them.
-/

namespace LiveSession

inductive FetchStatus where
  | unsent
  | pending (ticket : Ticket)
  | loaded
  | failed (e : Error)

structure Fetch where
  /-- The key that its body is cached under. -/
  key : String
  url : Url
  status : FetchStatus := .unsent

structure Crawl where
  fetches : List Fetch
  /-- Bodies are cached. -/
  cache : Bool

namespace Fetch

def request (f : Fetch) : RequestAction :=
  { method := .get, path := f.url.text, discard := true }

def isLoaded (f : Fetch) : Bool :=
  match f.status with
  | .loaded => true
  | _ => false

def failure? (f : Fetch) : Option Error :=
  match f.status with
  | .failed e => some e
  | _ => none

def requestState (f : Fetch) : RequestState :=
  match f.status with
  | .unsent | .pending _ => .waiting
  | .loaded => .succeeded
  | .failed _ => .failed

end Fetch

def Crawl.failure? (ω : Type) [Transports ω] (c : Crawl) : Option Error :=
  (Transports.breaker? ω (c.fetches.map Fetch.requestState)).bind fun i =>
    c.fetches[i]?.bind Fetch.failure?

namespace Client

variable {ω : Type} [Transports ω]

/-- Goes on with a fetch that was sent, if it has ended. -/
def pollPending (c : Client ω) (cache : Bool) (f : Fetch) (ticket : Ticket) : Client ω × Fetch :=
  match Transports.answer? ticket c.world with
  | none => (c, { f with status := .pending ticket })
  | some a =>
    match c.receive f.url.text a with
    | (c, .error e) => (c, { f with status := .failed e })
    | (c, .ok response) =>
      (if cache then { c with session := c.session.keep f.key response.body } else c,
        { f with status := .loaded })

def pollFetch (c : Client ω) (cache : Bool) (f : Fetch) : Client ω × Fetch :=
  match f.status with
  | .unsent =>
    match c.send f.request with
    | (c, .error e) => (c, { f with status := .failed e })
    | (c, .ok ticket) => c.pollPending cache f ticket
  | .pending ticket => c.pollPending cache f ticket
  | .loaded | .failed _ => (c, f)

/-- Goes on with the fetches after `before`, in order, up to a failure that ends the action. -/
def pollFetches (c : Client ω) (cache : Bool) (before : List Fetch) :
    List Fetch → Client ω × Except Error (List Fetch)
  | [] => (c, .ok before)
  | f :: rest =>
    let (c, f) := c.pollFetch cache f
    match Crawl.failure? ω ⟨before ++ f :: rest, cache⟩ with
    | some e => (c, .error e)
    | none => pollFetches c cache (before ++ [f]) rest

/-- Goes on with a crawl: it ends with the keys of all bodies, or with a failure. -/
def pollCrawl (c : Client ω) (crawl : Crawl) : Client ω × (ActionResult ⊕ Crawl) :=
  match c.pollFetches crawl.cache [] crawl.fetches with
  | (c, .error e) => (c, .inl (.error e))
  | (c, .ok fetches) =>
    if fetches.all Fetch.isLoaded then (c, .inl (.ok (.assets (fetches.map Fetch.key))))
    else (c, .inr ⟨fetches, crawl.cache⟩)

/-- The fetches of an action: none without a page that has a body. -/
def crawlOf (c : Client ω) (a : CrawlAction) : Crawl :=
  match c.session.page with
  | none => ⟨[], a.cache⟩
  | some page =>
    if page.body.isEmpty then ⟨[], a.cache⟩
    else
      let found := Assets.candidates (fun key => c.session.cache.holds key) page.url
        (a.extensions.getD Assets.standardExtensions) page.body
      ⟨found.map fun (key, url) => { key, url }, a.cache⟩

end Client

end LiveSession
