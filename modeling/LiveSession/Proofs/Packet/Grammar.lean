import LiveSession.Proofs.Packet.RoundTrip
import Mathlib.Algebra.Group.Nat.Defs

/-!
# The grammar of socket packets

A text is cut into the parts of a packet in one way: the character of the kind, the namespace, the
digits of the number, and the data. `decode_iff_spelled` says that the reader takes exactly the
texts whose parts are those of a packet, and names the first part that is at fault in every other.
-/

namespace LiveSession

theorem PacketKind.ofDigit_eq_error {c : Char} (other : ∀ k : PacketKind, c ≠ k.digit) :
    ofDigit c =
      .error (.protocol (if c = '5' ∨ c = '6' then "binary packets are not supported"
        else "unknown socket packet type " ++ Text.quotedChar c)) := by
  have digits : c ≠ '0' ∧ c ≠ '1' ∧ c ≠ '2' ∧ c ≠ '3' ∧ c ≠ '4' :=
    ⟨other .connect, other .disconnect, other .event, other .ack, other .error⟩
  simp only [ofDigit, digits, if_false]
  split <;> rfl

theorem PacketKind.ofDigit_eq_ok {c : Char} {k : PacketKind} : ofDigit c = .ok k ↔ c = k.digit := by
  constructor
  · intro read
    by_cases known : c = '0' ∨ c = '1' ∨ c = '2' ∨ c = '3' ∨ c = '4'
    · rcases known with rfl | rfl | rfl | rfl | rfl <;> cases read <;> rfl
    · simp only [not_or] at known
      simp only [ofDigit, known, if_false] at read
      split at read <;> cases read
  · rintro rfl
    exact k.ofDigit_digit

namespace SocketPacket

variable {cs part rest text : List Char} {ns : String} {id : Option Nat} {data : Option Json}
  {p : SocketPacket} {e : Error}

/-- The namespace that a part of a text names, before the rest of the text: nothing, where no slash
follows, or a slash and more up to a comma or the end. -/
inductive SpellsNamespace : List Char → List Char → String → Prop
  | root (rest : List Char) (plain : rest.head? ≠ some '/') : SpellsNamespace [] rest rootNamespace
  | closed (name : List Char) (rest : List Char) (plain : ',' ∉ name) :
    SpellsNamespace ('/' :: name ++ [',']) rest (String.ofList ('/' :: name))
  | unclosed (name : List Char) (plain : ',' ∉ name) :
    SpellsNamespace ('/' :: name) [] (String.ofList ('/' :: name))

/-- The number that a run of digits spells, with any zeros in front. -/
inductive SpellsId : List Char → Option Nat → Prop
  | absent : SpellsId [] none
  | digits (ds : List Char) (some_ : ds ≠ []) (small : Nat.ofDigitChars 10 ds 0 < 2 ^ 64) :
    SpellsId ds (some (Nat.ofDigitChars 10 ds 0))

theorem SpellsId.small {ds : List Char} (spelled : SpellsId ds id) :
    Nat.ofDigitChars 10 ds 0 < 2 ^ 64 := by
  cases spelled with
  | absent => simp
  | digits _ _ small => exact small

/-- The data that a JSON text spells, or none. -/
inductive SpellsData : List Char → Option Json → Prop
  | absent : SpellsData [] none
  | json (cs : List Char) (v : Json) (read : Json.parse? (String.ofList cs) = some v) :
    SpellsData cs (some v)

/-- The parts of a text. -/
structure Spelling where
  kind : Char
  ns : List Char
  id : List Char
  data : List Char

namespace Spelling

/-- The parts make up a text, and the namespace and the digits go as far as they can. -/
structure Cuts (t : Spelling) (name : String) (text : List Char) : Prop where
  text : text = t.kind :: (t.ns ++ (t.id ++ t.data))
  ns : SpellsNamespace t.ns (t.id ++ t.data) name
  digits : ∀ c ∈ t.id, c.isDigit = true
  ends : ¬ Text.StartsWithDigit t.data

/-- The parts are those of a packet. -/
structure Spells (t : Spelling) (p : SocketPacket) : Prop where
  kind : t.kind = p.kind.digit
  id : SpellsId t.id p.id
  data : SpellsData t.data p.data

end Spelling

/-- What is wrong with a text, of several faults the first. -/
inductive Refused (text : String) : Error → Prop
  | empty (nothing : text.toList = []) : Refused text (.protocol "empty socket packet")
  | binary (c : Char) (rest : List Char) (start : text.toList = c :: rest) (kind : c = '5' ∨ c = '6') :
    Refused text (.protocol "binary packets are not supported")
  | unknown (c : Char) (rest : List Char) (start : text.toList = c :: rest)
    (kind : ∀ k : PacketKind, c ≠ k.digit) (other : c ≠ '5' ∧ c ≠ '6') :
    Refused text (.protocol ("unknown socket packet type " ++ Text.quotedChar c))
  | number (t : Spelling) (name : String) (cut : t.Cuts name text.toList) (k : PacketKind)
    (kind : t.kind = k.digit) (large : 2 ^ 64 ≤ Nat.ofDigitChars 10 t.id 0) :
    Refused text (.protocol ("bad ack id in " ++ Text.quoted text))
  | data (t : Spelling) (name : String) (cut : t.Cuts name text.toList) (k : PacketKind)
    (kind : t.kind = k.digit) (id : Option Nat) (number : SpellsId t.id id) (some_ : t.data ≠ [])
    (unread : Json.parse? (String.ofList t.data) = none) : Refused text .malformed

/-! ### The readers of the parts -/

theorem spells_of_cutNamespace (found : cutNamespace cs = (ns, rest)) :
    ∃ part, cs = part ++ rest ∧ SpellsNamespace part rest ns := by
  unfold cutNamespace at found
  split at found
  · rename_i tail
    split at found
    · rename_i before after cut
      cases found
      have whole := Text.eq_of_cut? cut
      have plain := Text.not_mem_of_cut? cut
      cases before with
      | nil => simp at whole
      | cons c before =>
        obtain ⟨rfl, -⟩ := List.cons.inj whole
        refine ⟨'/' :: before ++ [','], by simpa using whole, .closed before rest ?_⟩
        intro comma
        exact plain (List.mem_cons_of_mem _ comma)
    · rename_i uncut
      cases found
      refine ⟨'/' :: tail, by simp, .unclosed tail ?_⟩
      intro comma
      exact Text.cut?_eq_none.mp uncut (List.mem_cons_of_mem _ comma)
  · rename_i slashless
    cases found
    refine ⟨[], rfl, .root _ ?_⟩
    intro slash
    obtain ⟨tail, rfl⟩ := List.head?_eq_some_iff.mp slash
    exact slashless tail rfl

theorem cutNamespace_of_spells (spelled : SpellsNamespace part rest ns) :
    cutNamespace (part ++ rest) = (ns, rest) := by
  cases spelled with
  | root _ plain =>
    rw [List.nil_append]
    unfold cutNamespace
    split
    · simp at plain
    · rfl
  | closed name _ plain =>
    have absent : ',' ∉ '/' :: name := by simp [plain]
    have cut : Text.cut? ',' ('/' :: name ++ ',' :: rest) = some ('/' :: name, rest) :=
      Text.cut?_append absent
    have whole : '/' :: name ++ [','] ++ rest = '/' :: (name ++ ',' :: rest) := by simp
    rw [List.cons_append] at cut
    rw [whole]
    simp only [cutNamespace, cut]
  | unclosed name plain =>
    have absent : ',' ∉ '/' :: name := by simp [plain]
    rw [List.append_nil]
    simp only [cutNamespace, Text.cut?_eq_none.mpr absent]

/-- Whether the number is read depends on the run of digits at the start alone. -/
theorem cutId?_append_eq (digits : ∀ c ∈ part, c.isDigit = true)
    (ends : ¬ Text.StartsWithDigit rest) :
    cutId? (part ++ rest) =
      if part = [] then some (none, rest)
      else if Nat.ofDigitChars 10 part 0 < 2 ^ 64 then some (some (Nat.ofDigitChars 10 part 0), rest)
      else none := by
  obtain ⟨run, after⟩ := Text.takeWhile_isDigit_append digits ends
  have spanned : Document.spanDigits (part ++ rest) =
      (part.map (fun c => c.toNat - '0'.toNat), rest) := by
    unfold Document.spanDigits
    rw [run, after]
  have value := Literal.digitsValue_map part
  unfold cutId?
  rw [spanned]
  cases part with
  | nil => rfl
  | cons c part =>
    rw [List.map_cons] at value ⊢
    simp only [value, if_neg (List.cons_ne_nil c part)]
    rfl

theorem cutId?_eq_some_iff :
    cutId? cs = some (id, rest) ↔ ∃ part, cs = part ++ rest ∧ (∀ c ∈ part, c.isDigit = true) ∧
      ¬ Text.StartsWithDigit rest ∧ SpellsId part id := by
  constructor
  · intro found
    have digits : ∀ c ∈ cs.takeWhile Char.isDigit, c.isDigit = true := Text.isDigit_of_mem_takeWhile
    have ends := Text.not_startsWithDigit_dropWhile cs
    have whole := List.takeWhile_append_dropWhile (p := Char.isDigit) (l := cs)
    have cut := cutId?_append_eq digits ends
    rw [whole, found] at cut
    refine ⟨cs.takeWhile Char.isDigit, ?_⟩
    split at cut
    · rename_i none_
      cases cut
      rw [none_]
      exact ⟨by simpa [none_] using whole.symm, by simp, ends, .absent⟩
    · rename_i some_
      split at cut
      · rename_i small
        cases cut
        exact ⟨whole.symm, digits, ends, .digits _ some_ small⟩
      · cases cut
  · rintro ⟨part, rfl, digits, ends, spelled⟩
    rw [cutId?_append_eq digits ends]
    cases spelled with
    | absent => rfl
    | digits _ some_ small => rw [if_neg some_, if_pos small]

theorem readData_eq_ok_iff : readData cs = .ok data ↔ SpellsData cs data := by
  constructor
  · intro read
    unfold readData at read
    split at read
    · cases read
      exact .absent
    · split at read
      · rename_i v parsed
        cases read
        exact .json _ v parsed
      · cases read
  · intro spelled
    cases spelled with
    | absent => rfl
    | json _ v parsed => exact readData_of_parse? parsed

theorem readData_eq_error_iff :
    readData cs = .error e ↔
      e = .malformed ∧ cs ≠ [] ∧ Json.parse? (String.ofList cs) = none := by
  cases cs with
  | nil => simp [readData]
  | cons c cs =>
    cases parsed : Json.parse? (String.ofList (c :: cs)) with
    | none =>
      simp only [readData, parsed]
      constructor
      · intro same
        cases same
        simp
      · rintro ⟨rfl, -⟩
        rfl
    | some v => simp only [readData, parsed, reduceCtorEq, and_false]

/-! ### Texts and their parts -/

theorem exists_cut (c : Char) (cs : List Char) :
    ∃ t name, Spelling.Cuts t name (c :: cs) ∧ t.kind = c := by
  obtain ⟨part, whole, spelled⟩ := spells_of_cutNamespace (Prod.eta (cutNamespace cs)).symm
  generalize cutNamespace cs = cut at whole spelled
  obtain ⟨name, rest⟩ := cut
  have halves : rest.takeWhile Char.isDigit ++ rest.dropWhile Char.isDigit = rest :=
    List.takeWhile_append_dropWhile
  refine ⟨⟨c, part, rest.takeWhile Char.isDigit, rest.dropWhile Char.isDigit⟩, name,
    ⟨?_, ?_, ?_, ?_⟩, rfl⟩
  · rw [halves, whole]
  · rw [halves]
    exact spelled
  · exact Text.isDigit_of_mem_takeWhile
  · exact Text.not_startsWithDigit_dropWhile _

theorem decode_of_cut {t : Spelling} {name : String} {text : String} {k : PacketKind}
    (cut : t.Cuts name text.toList) (kind : t.kind = k.digit) :
    decode text =
      if 2 ^ 64 ≤ Nat.ofDigitChars 10 t.id 0 then .error (.protocol ("bad ack id in " ++ Text.quoted text))
      else (readData t.data).map fun data =>
        ⟨k, name, if t.id = [] then none else some (Nat.ofDigitChars 10 t.id 0), data⟩ := by
  have named : cutNamespace (t.ns ++ (t.id ++ t.data)) = (name, t.id ++ t.data) :=
    cutNamespace_of_spells cut.ns
  have numbered := cutId?_append_eq cut.digits cut.ends
  unfold decode
  simp only [cut.text, kind, k.ofDigit_digit, named, numbered, bind, Except.bind]
  by_cases none_ : t.id = []
  · simp only [none_, if_true, Nat.ofDigitChars_nil]
    cases readData t.data <;> rfl
  · by_cases large : 2 ^ 64 ≤ Nat.ofDigitChars 10 t.id 0
    · rw [if_neg none_, if_neg (by omega), if_pos large]
    · rw [if_neg none_, if_pos (by omega), if_neg large]
      simp only [if_neg none_]
      cases readData t.data <;> rfl

theorem decode_eq_ok_iff_spells {text : String} :
    decode text = .ok p ↔ ∃ t : Spelling, t.Cuts p.ns text.toList ∧ t.Spells p := by
  rw [decode_eq_ok_iff]
  constructor
  · rintro ⟨c, rest, afterNs, afterId, chars, kind, ns, id, data⟩
    obtain ⟨nsPart, rfl, named⟩ := spells_of_cutNamespace ns
    obtain ⟨idPart, rfl, digits, ends, numbered⟩ := cutId?_eq_some_iff.mp id
    refine ⟨⟨c, nsPart, idPart, afterId⟩, ⟨chars, named, digits, ends⟩, ?_, numbered, ?_⟩
    · exact PacketKind.ofDigit_eq_ok.mp kind
    · exact readData_eq_ok_iff.mp data
  · rintro ⟨t, cut, spelled⟩
    refine ⟨t.kind, _, t.id ++ t.data, t.data, cut.text, ?_, ?_, ?_, ?_⟩
    · exact PacketKind.ofDigit_eq_ok.mpr spelled.kind
    · exact cutNamespace_of_spells cut.ns
    · exact cutId?_eq_some_iff.mpr ⟨t.id, rfl, cut.digits, cut.ends, spelled.id⟩
    · exact readData_eq_ok_iff.mpr spelled.data

/-- A text whose kind is known is refused for its number or for its data. -/
theorem refused_of_cut {t : Spelling} {name : String} {text : String} {k : PacketKind}
    (cut : t.Cuts name text.toList) (kind : t.kind = k.digit) (failed : decode text = .error e) :
    Refused text e := by
  rw [decode_of_cut cut kind] at failed
  split at failed
  · rename_i large
    cases failed
    exact .number t name cut k kind large
  · rename_i small
    cases data : readData t.data with
    | ok d =>
      rw [data] at failed
      cases failed
    | error e' =>
      rw [data] at failed
      cases failed
      obtain ⟨rfl, some_, unread⟩ := readData_eq_error_iff.mp data
      by_cases none_ : t.id = []
      · exact .data t name cut k kind none (none_ ▸ .absent) some_ unread
      · exact .data t name cut k kind _ (.digits t.id none_ (by omega)) some_ unread

theorem refused_of_decode {text : String} (failed : decode text = .error e) : Refused text e := by
  cases chars : text.toList with
  | nil =>
    simp only [decode, chars] at failed
    cases failed
    exact .empty chars
  | cons c rest =>
    by_cases known : ∃ k : PacketKind, c = k.digit
    · obtain ⟨k, kind⟩ := known
      obtain ⟨t, name, cut, same⟩ := exists_cut c rest
      exact refused_of_cut (chars.symm ▸ cut) (same.trans kind) failed
    · have other : ∀ k : PacketKind, c ≠ k.digit := fun k same => known ⟨k, same⟩
      simp only [decode, chars, PacketKind.ofDigit_eq_error other, bind, Except.bind] at failed
      split at failed
      · rename_i binary
        cases failed
        exact .binary c rest chars binary
      · rename_i unknown
        cases failed
        exact .unknown c rest chars other (not_or.mp unknown)

theorem decode_of_refused {text : String} (refused : Refused text e) : decode text = .error e := by
  cases refused with
  | empty nothing => simp only [decode, nothing]
  | binary c rest start kind =>
    rcases kind with rfl | rfl <;> simp only [decode, start] <;> rfl
  | unknown c rest start kind other =>
    have neither : ¬ (c = '5' ∨ c = '6') := not_or.mpr other
    simp only [decode, start, PacketKind.ofDigit_eq_error kind, if_neg neither]
    rfl
  | number t name cut k kind large => rw [decode_of_cut cut kind, if_pos large]
  | data t name cut k kind id number some_ unread =>
    have small := number.small
    have failed : readData t.data = .error .malformed :=
      readData_eq_error_iff.mpr ⟨rfl, some_, unread⟩
    rw [decode_of_cut cut kind, if_neg (by omega), failed]
    rfl

/-- A text is read exactly if its parts are those of a packet, and that packet is read from it. Of
any other text the first fault is told: it is empty, the character of the kind or the digits of the
number are no good, or the data is no JSON text. -/
theorem decode_iff_spelled (text : String) :
    (∀ p, decode text = .ok p ↔ ∃ t : Spelling, t.Cuts p.ns text.toList ∧ t.Spells p) ∧
      ∀ e, decode text = .error e ↔ Refused text e :=
  ⟨fun _ => decode_eq_ok_iff_spells, fun _ => ⟨refused_of_decode, decode_of_refused⟩⟩

end SocketPacket

end LiveSession
