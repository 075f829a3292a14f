import LiveSession.Proofs.Url.Hosts

/-!
# What a URL is that was read

What of a URL decides on its origin is read in one place, behind the two slashes; what is read after
it stands `Beside` it. A URL over HTTP that a text is read as is `Canonical`.
-/

namespace LiveSession.Url

open Text

variable {u v r : Url} {s : String} {cs rest : List Char} {scheme : String} {h : Host}

/-- The URLs differ at most in path, query and fragment. -/
structure Beside (u v : Url) : Prop where
  scheme : v.scheme = u.scheme
  username : v.username = u.username
  password : v.password = u.password
  host : v.host = u.host
  port : v.port = u.port

def Rooted (u : Url) : Prop :=
  ∃ list, u.path = .segments list ∧ list ≠ []

def IsWeb (scheme : String) : Prop :=
  scheme = "http" ∨ scheme = "https"

/-- A URL over HTTP as it is read. -/
structure Canonical (u : Url) : Prop where
  web : IsWeb u.scheme
  username : ∀ c ∈ u.username.toList, keptInUser c = true
  password : ∀ c ∈ u.password.toList, keptInUser c = true
  host : ∃ h, u.host = some h ∧ h.Canonical
  port : ∀ p ∈ u.port, p < 65536
  rooted : u.Rooted

theorem Beside.trans (h₁ : Beside u v) (h₂ : Beside v r) : Beside u r :=
  ⟨h₂.scheme.trans h₁.scheme, h₂.username.trans h₁.username, h₂.password.trans h₁.password,
    h₂.host.trans h₁.host, h₂.port.trans h₁.port⟩

theorem beside_path (u : Url) (path : Path) : Beside u { u with path } :=
  ⟨rfl, rfl, rfl, rfl, rfl⟩

theorem Beside.sameOrigin (beside : Beside u v) : v.sameOrigin u := by
  refine ⟨beside.scheme, beside.host, ?_⟩
  rw [effectivePort?, effectivePort?, beside.scheme, beside.port]

theorem Canonical.beside (canonical : u.Canonical) (beside : Beside u v) (rooted : v.Rooted) :
    v.Canonical where
  web := beside.scheme ▸ canonical.web
  username := beside.username ▸ canonical.username
  password := beside.password ▸ canonical.password
  host := beside.host ▸ canonical.host
  port := beside.port ▸ canonical.port
  rooted := rooted

theorem IsWeb.isSpecial (web : IsWeb scheme) : isSpecial scheme = true ∧ (scheme == "file") = false := by
  rcases web with rfl | rfl <;> decide

theorem IsWeb.visible (web : IsWeb scheme) : ∀ c ∈ scheme.toList ++ [':'], isEdge c = false := by
  have all : (scheme.toList ++ [':']).all (fun c => !isEdge c) = true := by
    rcases web with rfl | rfl <;> rfl
  intro c member
  rw [← Bool.not_eq_true']
  exact List.all_eq_true.mp all c member

/-! ### Paths -/

theorem readTail_beside (special : Bool) (u : Url) (cs : List Char) :
    Beside u (readTail special u cs) ∧ (readTail special u cs).path = u.path := by
  unfold readTail
  split
  · split <;> exact ⟨⟨rfl, rfl, rfl, rfl, rfl⟩, rfl⟩
  · exact ⟨⟨rfl, rfl, rfl, rfl, rfl⟩, rfl⟩
  · exact ⟨⟨rfl, rfl, rfl, rfl, rfl⟩, rfl⟩

theorem readPath_beside (u : Url) (w : Walk) (cs : List Char) : Beside u (readPath u w cs) :=
  (u.beside_path _).trans (readTail_beside _ _ _).1

theorem readPath_rooted (web : IsWeb u.scheme) (w : Walk) (cs : List Char) :
    (readPath u w cs).Rooted := by
  unfold readPath
  simp only [web.isSpecial.2]
  refine ⟨_, (readTail_beside _ _ _).2, ?_⟩
  simp [Walk.segments]

theorem readPathAfterHost_beside (u : Url) (cs : List Char) : Beside u (readPathAfterHost u cs) := by
  unfold readPathAfterHost
  dsimp only
  split
  · split
    · exact readPath_beside _ _ _
    · split
      · exact (u.beside_path _).trans (readTail_beside _ _ _).1
      · exact readPath_beside _ _ _
  · split
    · exact readPath_beside _ _ _
    · exact (u.beside_path _).trans (readTail_beside _ _ _).1

theorem readPathAfterHost_rooted (web : IsWeb u.scheme) (cs : List Char) :
    (readPathAfterHost u cs).Rooted := by
  unfold readPathAfterHost
  simp only [web.isSpecial.1, if_true, Bool.not_true, Bool.false_and, if_neg Bool.false_ne_true]
  split
  · split <;> exact readPath_rooted web _ _
  · exact readPath_rooted web _ _

/-! ### Hosts and ports -/

def withPort? (u : Url) (port : Option Nat) : Url :=
  port.elim u u.withPort

theorem lt_of_readPort {port : Option Nat} (read : readPort cs = .ok (port, rest)) :
    ∀ p ∈ port, p < 65536 := by
  have within {n : Nat} {ds : List Char} (small : ¬ 65535 < n) :
      ∀ p ∈ (if ds = [] then none else some n), p < 65536 := by
    split
    · simp
    · intro p same
      cases same
      omega
  unfold readPort at read
  dsimp only at read
  split at read
  · cases read
  · rename_i small
    split at read
    · split at read
      · cases read
        exact within small
      · cases read
    · cases read
      exact within small

/-- What is read behind the two slashes and the user: a host, a port or none, and the path. -/
theorem readFromHost_cases {hadUser : Bool} (read : readFromHost u hadUser cs = .ok r) :
    ∃ h, readHost (isSpecial u.scheme) (cs.take (hostLength (isSpecial u.scheme) false cs)) = .ok h ∧
      ((∃ after port rest, cs.drop (hostLength (isSpecial u.scheme) false cs) = ':' :: after ∧
          readPort after = .ok (port, rest) ∧
          r = readPathAfterHost ({ u with host := some h }.withPort? port) rest) ∨
        (∀ after, cs.drop (hostLength (isSpecial u.scheme) false cs) ≠ ':' :: after) ∧
          r = readPathAfterHost { u with host := some h }
            (cs.drop (hostLength (isSpecial u.scheme) false cs))) := by
  unfold readFromHost at read
  dsimp only at read
  generalize hostLength (isSpecial u.scheme) false cs = n at read ⊢
  split at read
  · cases read
  · cases found : readHost (isSpecial u.scheme) (cs.take n) with
    | error fault =>
      rw [found] at read
      cases read
    | ok h =>
      rw [found] at read
      refine ⟨h, rfl, ?_⟩
      simp only [bind, Except.bind] at read
      split at read
      · rename_i after colon
        split at read
        · cases read
        · rename_i result port
          cases read
          refine .inl ⟨after, result.1, result.2, colon, port, ?_⟩
          cases result.1 <;> rfl
      · rename_i other
        cases read
        exact .inr ⟨other, rfl⟩

theorem canonical_readPathAfterHost (web : IsWeb u.scheme)
    (username : ∀ c ∈ u.username.toList, keptInUser c = true)
    (password : ∀ c ∈ u.password.toList, keptInUser c = true)
    (host : ∃ h, u.host = some h ∧ h.Canonical) (port : ∀ p ∈ u.port, p < 65536) (cs : List Char) :
    (readPathAfterHost u cs).Canonical := by
  have beside := readPathAfterHost_beside u cs
  refine ⟨?_, ?_, ?_, ?_, ?_, readPathAfterHost_rooted web cs⟩
  · exact beside.scheme ▸ web
  · exact beside.username ▸ username
  · exact beside.password ▸ password
  · exact beside.host ▸ host
  · exact beside.port ▸ port

theorem canonical_of_readFromHost {hadUser : Bool} (web : IsWeb u.scheme)
    (username : ∀ c ∈ u.username.toList, keptInUser c = true)
    (password : ∀ c ∈ u.password.toList, keptInUser c = true) (portless : u.port = none)
    (read : readFromHost u hadUser cs = .ok r) : r.Canonical := by
  obtain ⟨h, host, after⟩ := readFromHost_cases read
  rw [web.isSpecial.1] at host
  let v : Url := { u with host := some h }
  have web : IsWeb v.scheme := web
  have host : ∃ h', v.host = some h' ∧ h'.Canonical := ⟨h, rfl, canonical_of_readHost host⟩
  have none_ : ∀ p ∈ v.port, p < 65536 := by simp [v, portless]
  obtain ⟨after, port, rest, _, ported, rfl⟩ | ⟨_, rfl⟩ := after
  · cases port with
    | none => exact canonical_readPathAfterHost web username password host none_ rest
    | some p =>
      have web : IsWeb (v.withPort p).scheme := web
      refine canonical_readPathAfterHost web username password host ?_ rest
      intro q kept
      simp only [withPort] at kept
      split at kept
      · cases kept
      · cases kept
        exact lt_of_readPort ported p rfl
  · exact canonical_readPathAfterHost web username password host none_ _

/-! ### Users -/

theorem mem_encoded_keptInUser {c : Char} (member : c ∈ (encoded keptInUser cs).toList) :
    keptInUser c = true := by
  rw [encoded, String.toList_ofList] at member
  exact Percent.mem_encode (by decide) (by decide) member

theorem mem_readUser (cs : List Char) :
    (∀ c ∈ (readUser cs).1.toList, keptInUser c = true) ∧
      ∀ c ∈ (readUser cs).2.toList, keptInUser c = true := by
  unfold readUser
  split
  · exact ⟨fun c => mem_encoded_keptInUser, fun c => mem_encoded_keptInUser⟩
  · exact ⟨fun c => mem_encoded_keptInUser, by simp⟩

theorem readAfterSlashes_cases (read : readAfterSlashes u cs = .ok r) :
    ∃ hadUser after, readFromHost u hadUser after = .ok r ∨
      ∃ user, readFromHost { u with username := (readUser user).1, password := (readUser user).2 }
        hadUser after = .ok r := by
  unfold readAfterSlashes at read
  dsimp only at read
  split at read
  · exact ⟨_, _, .inl read⟩
  · split at read
    · exact ⟨_, _, .inl read⟩
    · split at read
      · cases read
      · exact ⟨_, _, .inl read⟩
  · exact ⟨_, _, .inr ⟨_, read⟩⟩

def bare (scheme : String) : Url :=
  { scheme, host := none, path := .segments [] }

theorem canonical_of_readAfterSlashes (web : IsWeb scheme)
    (read : readAfterSlashes (bare scheme) cs = .ok r) : r.Canonical := by
  obtain ⟨hadUser, after, read | ⟨user, read⟩⟩ := readAfterSlashes_cases read
  · exact canonical_of_readFromHost web (by simp [bare]) (by simp [bare]) rfl read
  · have ⟨username, password⟩ := mem_readUser user
    exact canonical_of_readFromHost web username password rfl read

theorem scheme_of_readAfterSlashes (read : readAfterSlashes u cs = .ok r) : r.scheme = u.scheme := by
  have from_host {v : Url} {hadUser : Bool} {after : List Char}
      (read : readFromHost v hadUser after = .ok r) : r.scheme = v.scheme := by
    obtain ⟨h, _, ⟨_, port, rest, _, _, rfl⟩ | ⟨_, rfl⟩⟩ := readFromHost_cases read
    · rw [(readPathAfterHost_beside _ _).scheme]
      cases port <;> rfl
    · rw [(readPathAfterHost_beside _ _).scheme]
  obtain ⟨_, _, read | ⟨_, read⟩⟩ := readAfterSlashes_cases read
  · exact from_host read
  · exact (from_host read).trans rfl

/-! ### URLs on their own -/

theorem scheme_of_readOther (read : readOther scheme cs = .ok r) : r.scheme = scheme := by
  unfold readOther at read
  split at read
  · exact scheme_of_readAfterSlashes read
  · cases read
    exact (readPath_beside _ _ _).scheme
  · cases read
    exact (readTail_beside _ _ _).1.scheme

theorem scheme_of_readFileHost (read : readFileHost u cs = .ok r) : r.scheme = u.scheme := by
  unfold readFileHost at read
  dsimp only at read
  split at read
  · cases read
    exact (readPath_beside _ _ _).scheme
  · simp only [bind, Except.bind] at read
    split at read
    · cases read
    · split at read
      · cases read
        exact (readPath_beside _ _ _).scheme
      · cases read
        rw [(readPath_beside _ _ _).scheme]
        simp only [apply_ite Url.scheme, ite_self]

theorem scheme_of_readFile (read : readFile none cs = .ok r) : r.scheme = "file" := by
  unfold readFile readFile.rooted at read
  dsimp only at read
  split at read
  · split at read
    · split at read
      · split at read
        · exact scheme_of_readFileHost read
        · cases read
          exact (readPath_beside _ _ _).scheme
      · cases read
        exact (readPath_beside _ _ _).scheme
    · cases read
      exact (readPath_beside _ _ _).scheme
  · rw [Option.elim_none] at read
    cases read
    exact (readPath_beside _ _ _).scheme

/-- A URL over HTTP is canonical, whatever text it is read from. -/
theorem canonical_of_parse (read : parse s = .ok u) (web : IsWeb u.scheme) : u.Canonical := by
  unfold parse Url.read at read
  dsimp only at read
  split at read
  · rename_i scheme rest _
    split at read
    · rw [scheme_of_readFile read] at web
      exact absurd web (by simp [IsWeb])
    · unfold readWithScheme at read
      split at read
      · have same : u.scheme = scheme := scheme_of_readAfterSlashes read
        exact canonical_of_readAfterSlashes (same ▸ web) read
      · rename_i other
        rw [scheme_of_readOther read] at web
        exact absurd web.isSpecial.1 other
  · cases read

end LiveSession.Url
