import LiveSession.Client.Connect
import LiveSession.Proofs.Entries
import LiveSession.Proofs.Http.Redirects
import LiveSession.Proofs.Text.Pieces

/-!
# Cookies that are presented

The text of a cookie header escapes nothing. It can still be read again if the jar was filled by
responses alone: whatever a response writes, no name has a semicolon or an equals sign in it, and no
value a semicolon. `header_lossless` says so of every such jar, and of every request and handshake
that presents it.
-/

namespace LiveSession

/-- A change of the cookies of a session that a server can bring about, or that takes cookies away. -/
inductive CookieChange where
  /-- A response sets a cookie, at a date. -/
  | store (now : Int) (header : String)
  | remove (name : String)
  | clear

namespace CookieJar

open Text

def change (jar : CookieJar) : CookieChange → CookieJar
  | .store now header => jar.store now header
  | .remove name => jar.remove name
  | .clear => {}

def after (changes : List CookieChange) : CookieJar :=
  changes.foldl change {}

/-! ### Reading a header -/

/-- The name and the value of a piece, cut at the first equals sign. -/
def pair? (piece : List Char) : Option (String × String) :=
  (cut? '=' piece).map fun p => (String.ofList p.1, String.ofList p.2)

def afterSpace? : List Char → Option (List Char)
  | ' ' :: cs => some cs
  | _ => none

/-- The cookies that a header presents: its pieces between semicolons, each but the first after a
space. Without a header there are none. -/
def presented? : Option String → Option (Entries String)
  | none => some []
  | some text =>
    match splitAll ';' text.toList with
    | [] => some []
    | first :: rest => do
      let cookie ← pair? first
      let cookies ← rest.mapM fun piece => (afterSpace? piece).bind pair?
      return cookie :: cookies

/-! ### Cookies that can be told apart -/

/-- The name ends at the first equals sign, and the value at the first semicolon. -/
structure IsPlain (cookie : String × String) : Prop where
  named : cookie.1 ≠ ""
  name : '=' ∉ cookie.1.toList ∧ ';' ∉ cookie.1.toList
  value : ';' ∉ cookie.2.toList

structure Legible (jar : CookieJar) : Prop where
  distinct : jar.entries.names.Nodup
  plain : ∀ cookie ∈ jar.entries, IsPlain cookie

variable {jar : CookieJar} {cs : List Char} {c : Char} {name value header : String}

theorem mem_of_mem_stripWhile {p : Char → Bool} (member : c ∈ stripWhile p cs) : c ∈ cs := by
  unfold stripWhile dropEndWhile at member
  have kept := (List.dropWhile_sublist p).subset (List.mem_reverse.mp member)
  exact (List.dropWhile_sublist p).subset (List.mem_reverse.mp kept)

theorem read?_fold (attributes : List (List Char)) (cookie : SetCookie) :
    (attributes.foldl SetCookie.withAttribute cookie).name = cookie.name ∧
      (attributes.foldl SetCookie.withAttribute cookie).value = cookie.value := by
  induction attributes generalizing cookie with
  | nil => exact ⟨rfl, rfl⟩
  | cons piece attributes ih =>
    have kept : (cookie.withAttribute piece).name = cookie.name ∧
        (cookie.withAttribute piece).value = cookie.value := by
      unfold SetCookie.withAttribute
      split
      · exact ⟨rfl, rfl⟩
      · dsimp only
        split
        · exact ⟨rfl, rfl⟩
        · split <;> exact ⟨rfl, rfl⟩
    exact ⟨(ih _).1.trans kept.1, (ih _).2.trans kept.2⟩

/-- Whatever a response writes, the cookie that it sets is plain. -/
theorem isPlain_of_read? {cookie : SetCookie} (read : SetCookie.read? header = some cookie) :
    IsPlain (cookie.name, cookie.value) := by
  unfold SetCookie.read? at read
  split at read
  · cases read
  · rename_i first attributes pieces
    split at read
    · cases read
    · rename_i name value cut
      dsimp only at read
      split at read
      · cases read
      · rename_i named
        cases read
        have ⟨same_name, same_value⟩ := read?_fold attributes
          ⟨String.ofList (strip name), String.ofList (stripWhile (· == '"') (strip value)), none, none⟩
        rw [same_name, same_value]
        have whole := eq_of_cut? cut
        have unbroken : ';' ∉ first := not_mem_of_mem_splitAll (pieces ▸ List.mem_cons_self)
        rw [whole, List.mem_append, List.mem_cons, not_or, not_or] at unbroken
        refine ⟨?_, ⟨?_, ?_⟩, ?_⟩ <;> simp only [String.toList_ofList]
        · exact fun none_left => named (by simpa using congrArg String.toList none_left)
        · exact fun member => not_mem_of_cut? cut (mem_of_mem_stripWhile member)
        · exact fun member => unbroken.1 (mem_of_mem_stripWhile member)
        · exact fun member => unbroken.2.2 (mem_of_mem_stripWhile (mem_of_mem_stripWhile member))

namespace Legible

theorem empty : Legible {} :=
  ⟨List.nodup_nil, nofun⟩

theorem remove (legible : jar.Legible) (name : String) : (jar.remove name).Legible :=
  ⟨Entries.nodup_erase legible.distinct name, fun cookie member =>
    legible.plain cookie (Entries.mem_erase.mp member).1⟩

theorem set (legible : jar.Legible) (plain : IsPlain (name, value)) :
    (jar.set name value).Legible := by
  refine ⟨Entries.nodup_set legible.distinct name value, fun cookie member => ?_⟩
  rcases Entries.mem_of_mem_set member with rfl | old
  · exact plain
  · exact legible.plain cookie old

theorem store (legible : jar.Legible) (now : Int) (header : String) :
    (jar.store now header).Legible := by
  unfold CookieJar.store
  split
  · exact legible
  · rename_i cookie read
    split
    · exact legible.remove _
    · exact legible.set (isPlain_of_read? read)

theorem change (legible : jar.Legible) (change : CookieChange) : (jar.change change).Legible := by
  cases change with
  | store now header => exact legible.store now header
  | remove name => exact legible.remove name
  | clear => exact .empty

theorem after (changes : List CookieChange) : (after changes).Legible := by
  have all (changes : List CookieChange) {jar : CookieJar} (legible : jar.Legible) :
      (changes.foldl CookieJar.change jar).Legible := by
    induction changes generalizing jar with
    | nil => exact legible
    | cons change changes ih => exact ih (legible.change change)
  exact all changes .empty

end Legible

/-! ### Reading what was written -/

def text (cookie : String × String) : String :=
  cookie.1 ++ "=" ++ cookie.2

theorem pair?_text {cookie : String × String} (plain : IsPlain cookie) :
    pair? (text cookie).toList = some cookie := by
  have written : (text cookie).toList = cookie.1.toList ++ '=' :: cookie.2.toList := by
    simp [text, String.toList_append]
  rw [pair?, written, cut?_append plain.name.1]
  simp

theorem not_mem_text {cookie : String × String} (plain : IsPlain cookie) :
    ';' ∉ (text cookie).toList := by
  simp [text, String.toList_append, plain.name.2, plain.value]

theorem mapM_spaced {cookies : Entries String} (plain : ∀ cookie ∈ cookies, IsPlain cookie) :
    (cookies.map fun cookie => (" " ++ text cookie).toList).mapM
      (fun piece => (afterSpace? piece).bind pair?) = some cookies := by
  induction cookies with
  | nil => rfl
  | cons cookie cookies ih =>
    obtain ⟨first, rest⟩ := List.forall_mem_cons.mp plain
    have read : (afterSpace? (" " ++ text cookie).toList).bind pair? = some cookie := by
      rw [String.toList_append]
      exact pair?_text first
    rw [List.map_cons, List.mapM_cons, read, ih rest]
    rfl

theorem Legible.presented?_header? (legible : jar.Legible) :
    presented? jar.header? = some jar.entries := by
  have plain := legible.plain
  unfold header?
  cases entries : jar.entries with
  | nil => rfl
  | cons cookie cookies =>
    rw [entries] at plain
    obtain ⟨first, rest⟩ := List.forall_mem_cons.mp plain
    -- Written with a space before each piece, the texts have nothing but semicolons between them.
    have written : join "; " ((cookie :: cookies).map text) =
        join (String.singleton ';') (text cookie :: cookies.map fun other => " " ++ text other) := by
      rw [List.map_cons, join_spaced, List.map_map]
      rfl
    have pieces : splitAll ';' (join "; " ((cookie :: cookies).map text)).toList =
        (text cookie).toList :: cookies.map fun other => (" " ++ text other).toList := by
      rw [written, splitAll_join (List.cons_ne_nil _ _)]
      · simp
      · refine List.forall_mem_cons.mpr ⟨not_mem_text first, fun piece member => ?_⟩
        obtain ⟨other, among, rfl⟩ := List.mem_map.mp member
        simpa [String.toList_append] using not_mem_text (rest other among)
    rw [List.isEmpty_cons, if_neg Bool.false_ne_true]
    show presented? (some (join "; " ((cookie :: cookies).map text))) = _
    simp only [presented?, pieces, pair?_text first, mapM_spaced rest]
    rfl

/-! ### Requests and handshakes -/

theorem Legible.storeAll (legible : jar.Legible) (today : Int) (rounds : List Round) :
    (Round.storeAll today jar rounds).Legible := by
  unfold Round.storeAll
  induction rounds.flatMap (Round.cookies today) generalizing jar with
  | nil => exact legible
  | cons cookie cookies ih => exact ih (legible.store cookie.1 cookie.2)

theorem log_openChannel {ω : Type} [Transports ω] (client : Client ω) (kind : ActionKind)
    (ns : String) :
    (client.openChannel kind ns).1.log = client.log ∨
      ∃ url forceNew, (client.openChannel kind ns).1.log =
        client.log ++ [.openChannel url { forceNew, cookie := client.cookies.header? }] := by
  unfold Client.openChannel
  split
  · exact .inl rfl
  · dsimp only
    split
    · exact .inl rfl
    · split <;> exact .inr ⟨_, _, rfl⟩

/-- A jar that was filled by responses alone can be read off its header, which is there unless the jar
is empty: the names are not empty and all different, and the header presents just the cookies of the
jar. Each hop of a request presents the cookies that the responses before it have left, and the
handshake of a channel those that the jar holds when the channel is opened. -/
theorem header_lossless (changes : List CookieChange) :
    ((after changes).header? = none ↔ (after changes).entries = []) ∧
      presented? (after changes).header? = some (after changes).entries ∧
      (after changes).entries.names.Nodup ∧
      (∀ name ∈ (after changes).entries.names, name ≠ "") ∧
      (∀ (server : HopServer) (today : Int) (r : HttpRequest), ∃ rounds : List Round,
        (r.run server today (after changes)).hops = rounds.map Round.hop ∧
          ∀ before round later, rounds = before ++ round :: later →
            round.answer = server (before.map Round.hop) round.hop ∧
              presented? round.hop.cookie =
                some (Round.storeAll today (after changes) before).entries) ∧
      ∀ (ω : Type) [Transports ω] (client : Client ω) (kind : ActionKind) (ns : String),
        let log := ({ client with cookies := after changes }.openChannel kind ns).1.log
        log = client.log ∨ ∃ url config, log = client.log ++ [.openChannel url config] ∧
          presented? config.cookie = some (after changes).entries := by
  have legible := Legible.after changes
  refine ⟨?_, legible.presented?_header?, legible.distinct, fun name member => ?_, ?_, ?_⟩
  · unfold header?
    cases (after changes).entries <;> simp
  · obtain ⟨cookie, present, rfl⟩ := List.mem_map.mp member
    exact (legible.plain cookie present).named
  · intro server today r
    obtain ⟨rounds, course, _, _, hops, _⟩ := HttpRequest.sendHops_course server today r
      HttpRequest.maxHops ⟨r.method, r.url, r.params⟩ (after changes) []
    refine ⟨rounds, hops, fun before round later split => ⟨course.hears before round later split, ?_⟩⟩
    rw [(HttpRequest.hop_carries (course.sends before round later split)).2.2.2]
    exact (legible.storeAll today before).presented?_header?
  · intro ω _ client kind ns
    rcases log_openChannel { client with cookies := after changes } kind ns with
      silent | ⟨url, forceNew, called⟩
    · exact .inl silent
    · exact .inr ⟨url, _, called, legible.presented?_header?⟩

example : (after [.store 0 " a = \"x=1\" ; b=2", .store 0 "c=; Path=/"]).header? = some "a=x=1; c=" ∧
    presented? (some "a=x=1; c=") = some [("a", "x=1"), ("c", "")] := by
  decide +kernel

end CookieJar

end LiveSession
