import LiveSession.Assets.References
import LiveSession.Proofs.Url.Origins

/-!
# Where local references lead

A local reference keeps the origin of the page it stands in, unless its text begins with two slashes
once the characters that do not count are left out; it then names a host, as it would behind the
scheme of the page. `sameOrigin_iff_isHomely` says so of the URL that is requested for a reference.
-/

namespace LiveSession

namespace Url

open Text

variable {base u r : Url} {cs : List Char} {scheme : String}

/-- A text begins with two slashes; backslashes count as slashes. -/
def beginsWithHost : List Char → Bool
  | a :: b :: _ => isSlash true a && isSlash true b
  | _ => false

theorem beginsWithHost_of_first {c : Char} (plain : isSlash true c = false) (cs : List Char) :
    beginsWithHost (c :: cs) = false := by
  cases cs <;> simp [beginsWithHost, plain]

/-! ### Relative texts -/

theorem readAfterSlashes_slash {c : Char} (web : IsWeb scheme) (slash : isSlash true c = true)
    (cs : List Char) : readAfterSlashes (bare scheme) (c :: cs) = .error .emptyHost := by
  have special : isSpecial (bare scheme).scheme = true := web.isSpecial.1
  have nobody : cutUser true (c :: cs) = none := by simp [cutUser, slash, cut?]
  have nothing : hostLength true false (c :: cs) = 0 := by simp [hostLength, slash]
  unfold readAfterSlashes
  simp only [special, nobody]
  unfold readFromHost
  simp only [special, nothing]
  rfl

theorem isSlash_iff {c : Char} : isSlash true c = true ↔ c = '/' ∨ c = '\\' := by
  simp [isSlash]

theorem readRelative_host (web : IsWeb base.scheme) (host : beginsWithHost cs = true)
    (read : readRelative base cs = .ok r) :
    readAfterSlashes (bare base.scheme) (cs.dropWhile (isSlash true)) = .ok r := by
  match cs, host with
  | a :: b :: rest, host =>
    obtain ⟨first, second⟩ := Bool.and_eq_true_iff.mp host
    rcases isSlash_iff.mp first with rfl | rfl <;> rcases isSlash_iff.mp second with rfl | rfl
    · -- two slashes alone are cut off, but no host begins with another one
      have read : readAfterSlashes (bare base.scheme) rest = .ok r := read
      have cut : ('/' :: '/' :: rest).dropWhile (isSlash true) = rest.dropWhile (isSlash true) := rfl
      rw [cut]
      cases rest with
      | nil => exact read
      | cons c rest =>
        cases slash : isSlash true c with
        | false => rwa [List.dropWhile_cons_of_neg (by simp [slash])]
        | true =>
          rw [readAfterSlashes_slash web slash] at read
          cases read
    · exact read
    · exact read
    · exact read

theorem readRelative_beside (canonical : base.Canonical) (hostless : beginsWithHost cs = false)
    (read : readRelative base cs = .ok r) : Beside base r ∧ r.Rooted := by
  have tailed (special : Bool) (cs : List Char) : Rooted (readTail special base cs) := by
    unfold Rooted
    rw [(readTail_beside _ _ _).2]
    exact canonical.rooted
  have walked (w : Walk) (cs : List Char) :
      Beside base (readPath base w cs) ∧ (readPath base w cs).Rooted :=
    ⟨readPath_beside _ _ _, readPath_rooted canonical.web _ _⟩
  unfold readRelative at read
  dsimp only at read
  split at read
  · cases read
    exact ⟨⟨rfl, rfl, rfl, rfl, rfl⟩, canonical.rooted⟩
  · split at read
    · cases read
      exact ⟨(readTail_beside _ _ _).1, tailed _ _⟩
    · split at read
      · cases read
        exact ⟨⟨rfl, rfl, rfl, rfl, rfl⟩, canonical.rooted⟩
      · split at read
        · rename_i c rest _ _ slash
          have slash : isSlash true c = true := slash
          have alone : rest.head?.any (isSlash true) = false := by
            cases rest with
            | nil => rfl
            | cons d rest =>
              have both : (isSlash true c && isSlash true d) = false := hostless
              rw [slash, Bool.true_and] at both
              exact both
          split at read
          · rename_i same
            cases same
            cases alone
          · rw [if_neg (by simp [alone])] at read
            cases read
            exact walked _ _
        · cases read
          exact walked _ _

/-! ### Texts with a scheme -/

theorem beginsWithHost_of_cutScheme? {rest : List Char} (found : cutScheme? cs = some (scheme, rest)) :
    beginsWithHost cs = false := by
  unfold cutScheme? at found
  split at found
  · cases found
  · rename_i c rest
    split at found
    · rename_i letter
      have plain : isSlash true c = false := by
        rw [← Bool.not_eq_true, isSlash_iff]
        rintro (rfl | rfl) <;> cases letter
      exact beginsWithHost_of_first plain rest
    · cases found

/-- The base counts only behind its own scheme and less than two slashes. -/
theorem readWithScheme_cases (read : readWithScheme (some base) scheme cs = .ok r) :
    readWithScheme none scheme cs = .ok r ∨
      base.scheme = scheme ∧ beginsWithHost cs = false ∧ readRelative base cs = .ok r := by
  unfold readWithScheme at read ⊢
  split at read
  · rename_i special
    rw [if_pos special]
    dsimp only at read
    split at read
    · rename_i b kept
      obtain ⟨same, fits⟩ := Option.filter_eq_some_iff.mp kept
      cases same
      rw [Bool.and_eq_true, decide_eq_true_eq, beq_iff_eq] at fits
      refine .inr ⟨fits.2, ?_, read⟩
      by_contra host
      have few := fits.1
      match cs, Bool.eq_true_of_not_eq_false host with
      | a :: b :: rest, host =>
        obtain ⟨first, second⟩ := Bool.and_eq_true_iff.mp host
        simp only [List.takeWhile_cons_of_pos first, List.takeWhile_cons_of_pos second,
          List.length_cons] at few
        omega
    · exact .inl read
  · rename_i other
    rw [if_neg other]
    exact .inl read

end Url

namespace Assets

open Url Text

variable {page u r : Url} {reference : String}

/-- A reference as a URL of its own, with the scheme of the page in front. -/
def spelledOut (page : Url) (reference : String) : String :=
  page.scheme ++ ":" ++ String.ofList (shown reference)

/-- The host that a reference names, if any, is that of the page. -/
def IsHomely (page : Url) (reference : String) : Prop :=
  beginsWithHost (shown reference) = true →
    ∃ named, Url.parse (spelledOut page reference) = .ok named ∧ named.sameOrigin page

theorem fault_of_isLocal (isLocal : isLocal reference = true) :
    ∃ fault, Url.parse reference = .error fault := by
  unfold Assets.isLocal at isLocal
  cases parsed : Url.parse reference with
  | error fault => exact ⟨fault, rfl⟩
  | ok u => simp [parsed] at isLocal

/-- A local reference keeps what decides on the origin, or names a host behind two slashes. -/
theorem join_isLocal (canonical : page.Canonical) (isLocal : isLocal reference = true)
    (joined : page.join reference = .ok u) :
    beginsWithHost (shown reference) = false ∧ Beside page u ∧ u.Rooted ∨
      beginsWithHost (shown reference) = true ∧
        readAfterSlashes (bare page.scheme) ((shown reference).dropWhile (isSlash true)) = .ok u := by
  obtain ⟨fault, parsed⟩ := fault_of_isLocal isLocal
  obtain ⟨list, path, nonempty⟩ := canonical.rooted
  have notFile : (page.scheme == "file") = false := canonical.web.isSpecial.2
  unfold Url.parse Url.read at parsed
  unfold Url.join Url.read at joined
  dsimp only at parsed joined
  rw [show significant (stripWhile isEdge reference.toList) = shown reference from rfl] at parsed joined
  cases found : cutScheme? (shown reference) with
  | some cut =>
    obtain ⟨scheme, rest⟩ := cut
    rw [found] at parsed joined
    dsimp only at parsed joined
    left
    split at joined
    · rename_i file
      rw [if_pos file] at parsed
      rw [Option.filter_some, if_neg (by simp [notFile])] at joined
      cases parsed.symm.trans joined
    · rename_i other
      rw [if_neg other] at parsed
      rcases readWithScheme_cases joined with alone | ⟨_, hostless, relative⟩
      · cases parsed.symm.trans alone
      · exact ⟨beginsWithHost_of_cutScheme? found, readRelative_beside canonical hostless relative⟩
  | none =>
    rw [found] at joined
    dsimp only at joined
    rw [path] at joined
    split at joined
    · rename_i fragment
      cases joined
      refine .inl ⟨?_, ⟨rfl, rfl, rfl, rfl, rfl⟩, list, rfl, nonempty⟩
      rw [fragment]
      exact beginsWithHost_of_first (by decide) _
    · contradiction
    · rw [if_neg (by simpa using notFile)] at joined
      cases host : beginsWithHost (shown reference) with
      | true => exact .inr ⟨rfl, readRelative_host canonical.web host joined⟩
      | false => exact .inl ⟨rfl, readRelative_beside canonical host joined⟩

theorem canonical_join (canonical : page.Canonical) (isLocal : isLocal reference = true)
    (joined : page.join reference = .ok u) : u.Canonical := by
  rcases join_isLocal canonical isLocal joined with ⟨-, beside, rooted⟩ | ⟨-, after⟩
  · exact canonical.beside beside rooted
  · exact canonical_of_readAfterSlashes canonical.web after

theorem parse_spelledOut (web : IsWeb page.scheme) (reference : String) :
    Url.parse (spelledOut page reference) =
      readAfterSlashes (bare page.scheme) ((shown reference).dropWhile (isSlash true)) := by
  have chars : significant (stripWhile isEdge (spelledOut page reference).toList) =
      page.scheme.toList ++ ':' :: shown reference := by
    have front := shown_append web.visible (by simp) (shown reference)
    rw [shown_again] at front
    simpa [spelledOut] using front
  have notFile : page.scheme ≠ "file" := by simpa using web.isSpecial.2
  have slashes : (shown reference).drop ((shown reference).takeWhile (isSlash true)).length =
      (shown reference).dropWhile (isSlash true) := by
    conv_lhs => arg 2; rw [← List.takeWhile_append_dropWhile (p := isSlash true) (l := shown reference)]
    exact List.drop_left
  unfold Url.parse Url.read
  simp only [chars, cutScheme?_append web, if_neg notFile]
  unfold readWithScheme
  rw [if_pos web.isSpecial.1]
  simp only [Option.filter_none, slashes]
  rfl

/-- The URL that is read from the text of a local reference's URL has the origin of the page exactly
if the reference names no other host. -/
theorem sameOrigin_iff_isHomely (canonical : page.Canonical) (isLocal : isLocal reference = true)
    (joined : page.join reference = .ok u) {base : Url} (read : base.join u.text = .ok r) :
    r.sameOrigin page ↔ IsHomely page reference := by
  rcases join_isLocal canonical isLocal joined with ⟨hostless, beside, rooted⟩ | ⟨host, named⟩
  · have same := sameOrigin_join_text (canonical.beside beside rooted) read
    have home := beside.sameOrigin
    refine iff_of_true ⟨same.1.trans home.1, same.2.1.trans home.2.1, same.2.2.trans home.2.2⟩ ?_
    intro host
    rw [hostless] at host
    cases host
  · have same := sameOrigin_join_text (canonical_of_readAfterSlashes canonical.web named) read
    have spelled := (parse_spelledOut canonical.web reference).trans named
    unfold IsHomely
    rw [sameOrigin, same.1, same.2.1, same.2.2, spelled, host]
    simp [sameOrigin]

end Assets

end LiveSession
