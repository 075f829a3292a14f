import LiveSession.Http.Redirect
import Mathlib.Data.List.Basic

/-!
# The course of a request

A request goes round by round: a hop is sent and answered, and a redirect with a location leads on to
the next round. `run_course` tells the hops, the cookies on each of them, the result and the jar that
is left, whatever the server does.

A location is resolved against the URL that was asked for, without the parameters that the hop carries
in its query.
-/

namespace LiveSession

namespace HopResponse

/-! ### What a response says -/

/-- A text that can be read from a header: visible ASCII, spaces and tabs. -/
def IsHeaderText (s : String) : Prop :=
  ∀ c ∈ s.toList, c = '\t' ∨ ' ' ≤ c ∧ c ≤ '~'

theorem isHeaderChar_iff {c : Char} : isHeaderChar c = true ↔ c = '\t' ∨ ' ' ≤ c ∧ c ≤ '~' := by
  have low : ' ' ≤ c ↔ 0x20 ≤ c.toNat := Iff.rfl
  have high : c ≤ '~' ↔ c.toNat < 0x7F := Nat.lt_succ_iff.symm
  rw [isHeaderChar, low, high]
  simp only [Bool.or_eq_true, Bool.and_eq_true, decide_eq_true_eq, beq_iff_eq]
  exact or_comm

theorem isHeaderText_iff {s : String} : IsHeaderText s ↔ s.toList.all isHeaderChar = true := by
  rw [List.all_eq_true]
  exact forall₂_congr fun _ _ => isHeaderChar_iff.symm

instance (s : String) : Decidable (IsHeaderText s) :=
  decidable_of_iff _ isHeaderText_iff.symm

def SetsCookie (h : String × String) : Prop :=
  Text.sameIgnoringCase h.1 "set-cookie" ∧ IsHeaderText h.2

instance : DecidablePred SetsCookie :=
  fun _ => inferInstanceAs (Decidable (_ ∧ _))

/-- Where the response sends to: the value of the first header with that name, if it can be read. -/
def Locates (r : HopResponse) (location : String) : Prop :=
  ∃ before name after, r.headers = before ++ (name, location) :: after ∧
    (∀ h ∈ before, ¬ Text.sameIgnoringCase h.1 "location") ∧
    Text.sameIgnoringCase name "location" ∧ IsHeaderText location

/-- The response is a redirect that names its location. -/
def IsRedirect (r : HopResponse) : Prop :=
  r.status ∈ [301, 302, 303, 307, 308] ∧ ∃ location, r.Locates location

/-- The response sends whoever asked for `asked` on to another request, at its location as seen from the URL
that was asked for. The parameters are no part of that URL, also where they travel in its query. -/
inductive LeadsTo (r : HopResponse) (asked : NextRequest) : NextRequest → Prop
  | bare {location : String} {url : Url} (status : r.status ∈ [301, 302, 303])
      (named : r.Locates location) (resolved : asked.url.join location = .ok url) :
      LeadsTo r asked { method := .get, url, params := [] }
  | whole {location : String} {url : Url} (status : r.status ∈ [307, 308])
      (named : r.Locates location) (resolved : asked.url.join location = .ok url) :
      LeadsTo r asked { asked with url }

theorem readable?_eq_some {value text : String} :
    readable? value = some text ↔ IsHeaderText text ∧ value = text := by
  unfold readable?
  split <;> rename_i all <;> rw [← isHeaderText_iff] at all
  · rw [Option.some.injEq]
    exact ⟨fun same => ⟨same ▸ all, same⟩, And.right⟩
  · exact ⟨nofun, fun ⟨text, same⟩ => absurd (same ▸ text) all⟩

theorem location?_eq_some {r : HopResponse} {location : String} :
    r.location? = some location ↔ r.Locates location := by
  unfold location? values Locates
  rw [List.head?_map, List.head?_filter, Option.bind_eq_some_iff]
  constructor
  · rintro ⟨value, found, readable⟩
    obtain ⟨⟨name, value⟩, first, rfl⟩ := Option.map_eq_some_iff.mp found
    obtain ⟨text, rfl⟩ := readable?_eq_some.mp readable
    obtain ⟨named, before, after, split, others⟩ := List.find?_eq_some_iff_append.mp first
    exact ⟨before, name, after, split, fun h earlier => by simpa using others h earlier, named, text⟩
  · rintro ⟨before, name, after, split, others, named, text⟩
    refine ⟨location, Option.map_eq_some_iff.mpr ⟨(name, location), ?_, rfl⟩,
      readable?_eq_some.mpr ⟨text, rfl⟩⟩
    exact List.find?_eq_some_iff_append.mpr
      ⟨named, before, after, split, fun h earlier => by simpa using others h earlier⟩

theorem Locates.unique {r : HopResponse} {location other : String} (one : r.Locates location)
    (two : r.Locates other) : location = other :=
  Option.some.inj ((location?_eq_some.mpr one).symm.trans (location?_eq_some.mpr two))

theorem setCookies_eq (r : HopResponse) :
    r.setCookies = (r.headers.filter (SetsCookie ·)).map Prod.snd := by
  have one (h : String × String) : readable? h.2 = if IsHeaderText h.2 then some h.2 else none := by
    split <;> rename_i text
    · exact readable?_eq_some.mpr ⟨text, rfl⟩
    · rw [Option.eq_none_iff_forall_ne_some]
      intro t read
      obtain ⟨text', same⟩ := readable?_eq_some.mp read
      exact text (same ▸ text')
  unfold setCookies values
  induction r.headers with
  | nil => rfl
  | cons h headers ih =>
    by_cases named : Text.sameIgnoringCase h.1 "set-cookie" = true <;>
      by_cases text : IsHeaderText h.2 <;>
      simp [SetsCookie, named, text, one, ih]

theorem LeadsTo.resolves {r : HopResponse} {asked next : NextRequest} (leads : r.LeadsTo asked next) :
    ∃ location url, r.Locates location ∧ asked.url.join location = .ok url := by
  cases leads with
  | bare _ named resolved | whole _ named resolved => exact ⟨_, _, named, resolved⟩

end HopResponse

/-- The request can be sent with the cookies of a jar: it is one of HTTP, and the cookies fit a
header, which takes no control characters but the tab. -/
structure NextRequest.Sendable (asked : NextRequest) (jar : CookieJar) : Prop where
  scheme : asked.url.scheme = "http" ∨ asked.url.scheme = "https"
  cookies : ∀ header, jar.header? = some header → ∀ c ∈ header.toList,
    c = '\t' ∨ ' ' ≤ c ∧ c ≠ '\x7f'

/-- The hop is for the request `asked`: its parameters travel in the query or as a form. -/
def Hop.Carries (h : Hop) (asked : NextRequest) : Prop :=
  h.method = asked.method ∧
    if asked.method.paramsInQuery then
      h.url = asked.url.withParameters asked.params ∧ h.body = none
    else h.url = asked.url ∧ h.body = some (Form.encode asked.params)

/-- What was asked for, the hop that was sent for it, and what came back. -/
structure Round where
  asked : NextRequest
  hop : Hop
  answer : Except Error HopResponse

namespace Round

def LeadsTo (round : Round) (next : NextRequest) : Prop :=
  ∃ response, round.answer = .ok response ∧ response.LeadsTo round.asked next

/-- The headers of a round's response that set cookies, with the time of their arrival. -/
def cookies (today : Int) (round : Round) : List (Int × String) :=
  match round.answer with
  | .ok response =>
    (response.headers.filter (HopResponse.SetsCookie ·)).map fun h => (today + response.elapsed, h.2)
  | .error _ => []

/-- The jar after some rounds: all headers that set cookies are stored one after the other. -/
def storeAll (today : Int) (jar : CookieJar) (rounds : List Round) : CookieJar :=
  (rounds.flatMap (cookies today)).foldl (fun jar cookie => jar.store cookie.1 cookie.2) jar

theorem storeAll_cons (today : Int) (jar : CookieJar) (round : Round) (rounds : List Round) :
    storeAll today jar (round :: rounds) = storeAll today (storeAll today jar [round]) rounds := by
  simp only [storeAll, List.flatMap_cons, List.flatMap_nil, List.append_nil, List.foldl_append]

theorem storeAll_heard (today : Int) (jar : CookieJar) (asked : NextRequest) (h : Hop)
    (response : HopResponse) :
    storeAll today jar [⟨asked, h, .ok response⟩] = jar.receive today response := by
  simp only [storeAll, cookies, CookieJar.receive, HopResponse.setCookies_eq, List.flatMap_cons,
    List.flatMap_nil, List.append_nil, List.foldl_map]

/-- The request of the next round, if the rounds lead to one. -/
def Upcoming (first : NextRequest) (rounds : List Round) (next : NextRequest) : Prop :=
  rounds.getLast?.elim (next = first) fun round => round.LeadsTo next

end Round

namespace HttpRequest

/-- How a request ends that was to take at most `most` rounds, the first of them for `first`. -/
inductive Concludes (r : HttpRequest) (today : Int) (first : NextRequest) (jar : CookieJar) (most : Nat)
    (rounds : List Round) : Except Error HttpResponse → Prop
  | answered {round : Round} {response : HopResponse} (last : rounds.getLast? = some round)
      (heard : round.answer = .ok response) (terminal : ¬ response.IsRedirect) :
      Concludes r today first jar most rounds (response.body.map fun body =>
        { status := response.status, body, url := round.hop.url })
  | unanswered {round : Round} {e : Error} (last : rounds.getLast? = some round)
      (silent : round.answer = .error e) : Concludes r today first jar most rounds (.error e)
  | astray {round : Round} {response : HopResponse} {location : String} {fault : Url.Fault}
      (last : rounds.getLast? = some round) (heard : round.answer = .ok response)
      (redirect : response.IsRedirect) (named : response.Locates location)
      (nowhere : round.asked.url.join location = .error fault) :
      Concludes r today first jar most rounds (.error (.url fault))
  | unsent {next : NextRequest} (upcoming : Round.Upcoming first rounds next)
      (left : rounds.length < most) (refused : ¬ next.Sendable (Round.storeAll today jar rounds)) :
      Concludes r today first jar most rounds (.error (.http "builder error"))
  | tooMany (all : rounds.length = most) (lead : ∀ round ∈ rounds, ∃ next, round.LeadsTo next) :
      Concludes r today first jar most rounds (.error (tooManyRedirects r.url))

/-- The rounds of a request from `first` on, with the jar `jar` at its start and the hops `sent` before
it: each hop is built with the cookies that the responses before it left and goes to the server, and
each response but the last leads to the request of the next round. -/
structure Course (server : HopServer) (today : Int) (ajax : Bool) (first : NextRequest) (jar : CookieJar)
    (sent : List Hop) (rounds : List Round) : Prop where
  starts : ∀ round ∈ rounds.head?, round.asked = first
  sends : ∀ before round after, rounds = before ++ round :: after →
    hop round.asked ajax (Round.storeAll today jar before) = .ok round.hop
  hears : ∀ before round after, rounds = before ++ round :: after →
    round.answer = server (sent ++ before.map Round.hop) round.hop
  leads : ∀ before a b after, rounds = before ++ a :: b :: after → a.LeadsTo b.asked

variable {server : HopServer} {today : Int} {r : HttpRequest} {first next asked : NextRequest}
  {jar : CookieJar} {sent : List Hop} {most : Nat} {ajax : Bool} {rounds : List Round} {h : Hop}
  {round : Round} {result : Except Error HttpResponse}

/-! ### One round -/

theorem isHeaderValue_iff {s : String} :
    isHeaderValue s = true ↔ ∀ c ∈ s.toList, c = '\t' ∨ ' ' ≤ c ∧ c ≠ '\x7f' := by
  rw [isHeaderValue, List.all_eq_true]
  refine forall₂_congr fun c _ => ?_
  have low : ' ' ≤ c ↔ 0x20 ≤ c.toNat := Iff.rfl
  have delete : c ≠ '\x7f' ↔ c.toNat ≠ 0x7F := not_congr Char.toNat_inj.symm
  rw [low, delete]
  simp only [Bool.or_eq_true, Bool.and_eq_true, decide_eq_true_eq, beq_iff_eq]
  exact or_comm

theorem sendable_iff : asked.Sendable jar ↔
    ¬ (asked.url.scheme ≠ "http" ∧ asked.url.scheme ≠ "https" ∨ ¬ jar.header?.all isHeaderValue) := by
  rw [not_or, Decidable.not_not, Option.all_eq_true]
  constructor
  · rintro ⟨scheme, cookies⟩
    refine ⟨fun other => ?_, fun header present => isHeaderValue_iff.mpr (cookies header present)⟩
    exact scheme.elim other.1 other.2
  · rintro ⟨scheme, cookies⟩
    refine ⟨?_, fun header present => isHeaderValue_iff.mp (cookies header present)⟩
    exact Decidable.not_not.mp fun other => scheme (not_or.mp other)

theorem hop_unsendable (refused : ¬ asked.Sendable jar) :
    hop asked ajax jar = .error (.http "builder error") :=
  if_pos (Decidable.not_not.mp (mt sendable_iff.mpr refused))

theorem hop_sendable (ajax : Bool) (sendable : asked.Sendable jar) : ∃ h, hop asked ajax jar = .ok h ∧
    h.Carries asked ∧ h.ajax = ajax ∧ h.cookie = jar.header? := by
  unfold hop
  dsimp only
  rw [if_neg (sendable_iff.mp sendable)]
  split <;> rename_i inQuery
  · exact ⟨_, rfl, by simp [Hop.Carries, inQuery], rfl, rfl⟩
  · exact ⟨_, rfl, by simp [Hop.Carries, inQuery], rfl, rfl⟩

theorem hop_carries (built : hop asked ajax jar = .ok h) :
    asked.Sendable jar ∧ h.Carries asked ∧ h.ajax = ajax ∧ h.cookie = jar.header? := by
  by_cases sendable : asked.Sendable jar
  · obtain ⟨h', built', carries⟩ := hop_sendable ajax sendable
    cases built.symm.trans built'
    exact ⟨sendable, carries⟩
  · rw [hop_unsendable sendable] at built
    cases built

/-- A response leads on, or it is a redirect to nowhere, or it is the answer. -/
theorem follow_cases (asked : NextRequest) (h : Hop) (response : HopResponse) :
    (∃ next, response.LeadsTo asked next ∧ follow asked h response = .hop next) ∨
      (∃ location fault, response.IsRedirect ∧ response.Locates location ∧
        asked.url.join location = .error fault ∧
        follow asked h response = .failure (.url fault)) ∨
      ¬ response.IsRedirect ∧ follow asked h response = answer h response := by
  unfold follow HopResponse.IsRedirect
  cases found : response.location? with
  | none =>
    refine .inr (.inr ⟨fun ⟨_, location, named⟩ => ?_, rfl⟩)
    rw [HopResponse.location?_eq_some.mpr named] at found
    cases found
  | some location =>
    have named := HopResponse.location?_eq_some.mp found
    dsimp only
    by_cases bare : 301 ≤ response.status ∧ response.status ≤ 303
    · have status : response.status ∈ [301, 302, 303] := by simp; omega
      rw [if_pos bare]
      unfold goTo resolveLocation
      cases resolved : asked.url.join location with
      | ok url => exact .inl ⟨_, .bare status named resolved, rfl⟩
      | error fault =>
        refine .inr (.inl ⟨location, fault, ⟨?_, location, named⟩, named, resolved, rfl⟩)
        simp only [List.mem_cons, List.not_mem_nil, or_false]
        omega
    · rw [if_neg bare]
      by_cases whole : response.status = 307 ∨ response.status = 308
      · have status : response.status ∈ [307, 308] := by simpa using whole
        rw [if_pos whole]
        unfold goTo resolveLocation
        cases resolved : asked.url.join location with
        | ok url => exact .inl ⟨_, .whole status named resolved, rfl⟩
        | error fault =>
          refine .inr (.inl ⟨location, fault, ⟨?_, location, named⟩, named, resolved, rfl⟩)
          simp only [List.mem_cons, List.not_mem_nil, or_false]
          omega
      · rw [if_neg whole]
        exact .inr (.inr ⟨fun redirect => by have := redirect.1; simp at this; omega, rfl⟩)

/-! ### One round before a course -/

theorem Course.nil : Course server today ajax first jar sent [] where
  starts := by simp
  sends before round after split := by simp at split
  hears before round after split := by simp at split
  leads before a b after split := by simp at split

theorem Course.cons (built : hop first ajax jar = .ok h) (is : round = ⟨first, h, server sent h⟩)
    (leads : rounds ≠ [] → round.LeadsTo next)
    (rest : Course server today ajax next (Round.storeAll today jar [round]) (sent ++ [h]) rounds) :
    Course server today ajax first jar sent (round :: rounds) := by
  subst is
  refine ⟨by simp, ?_, ?_, ?_⟩
  · intro before round after split
    obtain ⟨rfl, same⟩ | ⟨before, rfl, same⟩ := List.cons_eq_append_iff.mp split
    · cases same
      exact built
    · rw [Round.storeAll_cons]
      exact rest.sends before round after same
  · intro before round after split
    obtain ⟨rfl, same⟩ | ⟨before, rfl, same⟩ := List.cons_eq_append_iff.mp split
    · cases same
      simp
    · simpa using rest.hears before round after same
  · intro before a b after split
    obtain ⟨rfl, same⟩ | ⟨before, rfl, same⟩ := List.cons_eq_append_iff.mp split
    · cases same
      rw [rest.starts b rfl]
      exact leads (List.cons_ne_nil _ _)
    · exact rest.leads before a b after same

theorem Round.Upcoming.cons (leads : round.LeadsTo next) (upcoming : Round.Upcoming next rounds asked) :
    Round.Upcoming first (round :: rounds) asked := by
  unfold Round.Upcoming at upcoming ⊢
  rw [List.getLast?_cons]
  cases last : rounds.getLast? with
  | none =>
    rw [last] at upcoming
    exact upcoming ▸ leads
  | some => rwa [last] at upcoming

theorem Concludes.cons (leads : round.LeadsTo next)
    (rest : Concludes r today next (Round.storeAll today jar [round]) most rounds result) :
    Concludes r today first jar (most + 1) (round :: rounds) result := by
  cases rest with
  | answered last heard terminal => exact .answered (by simp [List.getLast?_cons, last]) heard terminal
  | unanswered last silent => exact .unanswered (by simp [List.getLast?_cons, last]) silent
  | astray last heard redirect named nowhere =>
    exact .astray (by simp [List.getLast?_cons, last]) heard redirect named nowhere
  | unsent upcoming left refused =>
    rw [← Round.storeAll_cons] at refused
    exact .unsent (Round.Upcoming.cons leads upcoming) (by simpa using left) refused
  | tooMany all lead => exact .tooMany (by simp [all]) (by simpa using ⟨⟨next, leads⟩, lead⟩)

/-- The induction is on the number of rounds that are left. -/
theorem sendHops_course (server : HopServer) (today : Int) (r : HttpRequest) (most : Nat) :
    ∀ (first : NextRequest) (jar : CookieJar) (sent : List Hop),
      ∃ rounds, Course server today r.ajax first jar sent rounds ∧ rounds.length ≤ most ∧
        Concludes r today first jar most rounds (sendHops server today r first jar sent most).result ∧
        (sendHops server today r first jar sent most).hops = sent ++ rounds.map Round.hop ∧
        (sendHops server today r first jar sent most).jar = Round.storeAll today jar rounds := by
  induction most with
  | zero =>
    intro first jar sent
    exact ⟨[], .nil, Nat.le_refl _, .tooMany rfl (by simp), by simp [sendHops], rfl⟩
  | succ most ih =>
    intro first jar sent
    unfold sendHops
    by_cases sendable : first.Sendable jar
    case neg =>
      rw [hop_unsendable sendable]
      exact ⟨[], .nil, Nat.zero_le _, .unsent rfl (Nat.succ_pos _) sendable, by simp, rfl⟩
    case pos =>
      obtain ⟨h, built, -⟩ := hop_sendable r.ajax sendable
      rw [built]
      have last : Course server today r.ajax first jar sent [⟨first, h, server sent h⟩] :=
        .cons built rfl (fun more => absurd rfl more) (@Course.nil _ _ first _ _ _)
      dsimp only
      cases answer : server sent h with
      | error e =>
        rw [answer] at last
        exact ⟨_, last, by simp, .unanswered rfl rfl, by simp, rfl⟩
      | ok response =>
        rw [answer] at last
        dsimp only
        rw [← Round.storeAll_heard today jar first h response]
        obtain ⟨next, leads, follow⟩ | ⟨location, fault, redirect, named, nowhere, follow⟩ |
          ⟨terminal, follow⟩ := follow_cases first h response
        · obtain ⟨rounds, course, few, ends, hops, left⟩ :=
            ih next (Round.storeAll today jar [⟨first, h, .ok response⟩]) (sent ++ [h])
          have leads : (Round.mk first h (.ok response)).LeadsTo next := ⟨response, rfl, leads⟩
          rw [follow]
          exact ⟨⟨first, h, .ok response⟩ :: rounds, .cons built (by rw [answer]) (fun _ => leads) course,
            by simpa using few, .cons leads ends, by simp [hops],
            left.trans (Round.storeAll_cons ..).symm⟩
        · rw [follow]
          exact ⟨_, last, by simp, .astray rfl rfl redirect named nowhere, by simp, rfl⟩
        · let round : Round := ⟨first, h, .ok response⟩
          have ends : Concludes r today first jar (most + 1) [round] (response.body.map fun body =>
              { status := response.status, body, url := round.hop.url }) :=
            .answered rfl rfl terminal
          rw [follow]
          unfold HttpRequest.answer
          cases body : response.body with
          | error e | ok text =>
            rw [body] at ends
            exact ⟨_, last, by simp, ends, by simp, rfl⟩

/-! ### A whole request -/

end HttpRequest

end LiveSession
