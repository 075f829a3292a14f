import LiveSession.Proofs.Json.Shape
import LiveSession.Proofs.Json.Unsigned
import LiveSession.Proofs.Json.Writing
import LiveSession.Proofs.Packet.Grammar

/-!
# Packets written again

The reader takes many spellings of a packet, and the writer has one. `decode_respelled_iff` says
that a packet that was read is read again from the text that is written for it, unless its data is a
number without a sign: such a number is only read behind a blank, and the blank is not written.
-/

namespace LiveSession

namespace OpenInfo

/-- The document that the handshake is written as. -/
def document (info : OpenInfo) : Document :=
  .obj [(Glyph.ofText "sid", .str (Glyph.ofText info.sid)),
    (Glyph.ofText "upgrades", .arr (info.upgrades.map fun s => .str (Glyph.ofText s))),
    (Glyph.ofText "pingInterval", .number (.ofNat info.pingInterval)),
    (Glyph.ofText "pingTimeout", .number (.ofNat info.pingTimeout))]

theorem written_toJson (info : OpenInfo) : Document.Written info.toJson info.document := by
  have upgrades : List.Forall₂ Document.Written (info.upgrades.map .str)
      (info.upgrades.map fun s => .str (Glyph.ofText s)) := by
    induction info.upgrades with
    | nil => exact .nil
    | cons s rest ih => exact .cons (Document.written_str s) ih
  apply Document.written_obj
  · exact ⟨rfl, Document.written_str info.sid⟩
  · exact .cons ⟨rfl, Document.written_arr upgrades⟩ (.cons ⟨rfl, Document.written_nat _⟩
      (.cons ⟨rfl, Document.written_nat _⟩ .nil))

/-- Both times fit into 64 bits. -/
structure IsWord (info : OpenInfo) : Prop where
  interval : info.pingInterval < Json.wordLimit
  limit : info.pingTimeout < Json.wordLimit

theorem fields?_document {info : OpenInfo} (word : info.IsWord) :
    info.document.fields? ["sid", "upgrades", "pingInterval", "pingTimeout"] =
      some [some (.str info.sid), some (.arr (info.upgrades.map .str)),
        some (.int info.pingInterval), some (.int info.pingTimeout)] := by
  have texts (depth : Nat) (texts : List String) :
      Document.items? depth (texts.map fun s => .str (Glyph.ofText s)) = some (texts.map .str) := by
    induction texts with
    | nil => rfl
    | cons s rest ih => simp [Document.items?, Document.value?, Glyph.string?_ofText, ih]
  have slots : info.document.slots? ["sid", "upgrades", "pingInterval", "pingTimeout"] =
      some [some (.str (Glyph.ofText info.sid)),
        some (.arr (info.upgrades.map fun s => .str (Glyph.ofText s))),
        some (.number (.ofNat info.pingInterval)), some (.number (.ofNat info.pingTimeout))] := by
    simp [document, Document.slots?, Document.fillAll?, Document.fill?, Glyph.string?_ofText]
  rw [Document.fields?, slots]
  simp [Document.slotValue?, Document.fieldValue?, Document.maxDepth, Document.value?,
    Glyph.string?_ofText, texts, Literal.value?_ofNat word.interval, Literal.value?_ofNat word.limit]

theorem ofDocument?_document {info : OpenInfo} (word : info.IsWord) :
    ofDocument? info.document = some info := by
  have upgrades : Json.asTexts? (.arr (info.upgrades.map .str)) = some info.upgrades :=
    Json.asTexts?_eq_some.mpr rfl
  have interval : (Json.int info.pingInterval).asWord? Json.wordLimit = some info.pingInterval :=
    Json.asWord?_eq_some.mpr ⟨word.interval, rfl⟩
  have limit : (Json.int info.pingTimeout).asWord? Json.wordLimit = some info.pingTimeout :=
    Json.asWord?_eq_some.mpr ⟨word.limit, rfl⟩
  simp [ofDocument?, fields?_document word, upgrades, interval, limit, Json.asText?]

theorem isWord_of_ofDocument? {d : Document} {info : OpenInfo} (read : ofDocument? d = some info) :
    info.IsWord := by
  obtain ⟨values, _, read⟩ := Option.bind_eq_some_iff.mp read
  split at read
  · obtain ⟨sid, _, read⟩ := Option.bind_eq_some_iff.mp read
    obtain ⟨upgrades, _, read⟩ := Option.bind_eq_some_iff.mp read
    obtain ⟨interval, first, read⟩ := Option.bind_eq_some_iff.mp read
    obtain ⟨limit, second, read⟩ := Option.bind_eq_some_iff.mp read
    cases read
    exact ⟨(Json.asWord?_eq_some.mp first).1, (Json.asWord?_eq_some.mp second).1⟩
  · cases read

end OpenInfo

theorem Document.readList?_nil : readList? [] = none :=
  readList?_eq_none rfl value_nil

namespace SocketPacket

variable {text : String} {p : SocketPacket} {v : Json}

theorem small_of_decode (decoded : decode text = .ok p) : ∀ n ∈ p.id, n < idLimit := by
  intro n member
  obtain ⟨⟨kind, ns, digits, data⟩, _, _, number, _⟩ := decode_eq_ok_iff_spells.mp decoded
  rw [member] at number
  cases number with
  | digits _ _ small => exact small

theorem isNamespace_of_decode (decoded : decode text = .ok p) : IsNamespace p.ns := by
  obtain ⟨_, rest, _, _, _, _, ns, _, _⟩ := decode_eq_ok_iff.mp decoded
  have named := isNamespace_cutNamespace rest
  rw [ns] at named
  exact named

/-- The packets that can be read again are those whose data begins with no digit. -/
theorem isPlain_iff_of_decode (decoded : decode text = .ok p) :
    p.IsPlain ↔ ∀ v ∈ p.data, ¬ v.IsUnsigned := by
  simp only [← Json.startsWithDigit_render]
  exact ⟨IsPlain.data, IsPlain.mk (isNamespace_of_decode decoded)⟩

/-- A number without a sign is read as data behind a blank only, because the run of digits before the
data goes as far as it can. -/
theorem exists_gap_of_isUnsigned (decoded : decode text = .ok p) (member : v ∈ p.data)
    (unsigned : v.IsUnsigned) : ∃ front gap rest, text.toList = front ++ gap :: rest ∧
      Document.isGap gap = true ∧ Json.parse? (String.ofList rest) = some v := by
  obtain ⟨⟨kind, ns, id, part⟩, ⟨whole, _, _, ends⟩, _, _, data⟩ :=
    decode_eq_ok_iff_spells.mp decoded
  rw [member] at data
  cases data with
  | json _ _ read =>
    obtain ⟨d, found, stands⟩ := Option.bind_eq_some_iff.mp read
    rw [Document.read?, String.toList_ofList] at found
    cases part with
    | nil =>
      rw [Document.readList?_nil] at found
      cases found
    | cons c rest =>
      by_cases blank : Document.isGap c = true
      · obtain ⟨r, taken, nothing⟩ :=
          Document.value_of_readList? (List.dropWhile_cons_of_pos blank) found
        have again : Document.readList? rest = some d := Document.readList?_of_value rfl taken nothing
        refine ⟨kind :: (ns ++ id), c, rest, by simp [whole], blank, ?_⟩
        rw [Json.parse?, Document.read?, String.toList_ofList, again]
        exact stands
      · have other : c.isDigit = false := by
          by_contra digit
          exact ends ⟨c, rest, rfl, by simpa using digit⟩
        obtain ⟨r, taken, _⟩ :=
          Document.value_of_readList? (List.dropWhile_cons_of_neg blank) found
        exact absurd unsigned (Document.not_isUnsigned taken other stands)

end SocketPacket

namespace EnginePacket

variable {text : String} {p : EnginePacket}

theorem cases_of_decode (decoded : decode text = .ok p) :
    (∃ info d, p = .opened info ∧ OpenInfo.ofDocument? d = some info) ∨
      (∃ q rest, p = .message q ∧ text.toList = '4' :: rest ∧
        SocketPacket.decode (String.ofList rest) = .ok q) ∨
      p = .close ∨ (∃ payload, p = .ping payload) ∨ (∃ payload, p = .pong payload) ∨
      p = .upgrade ∨ p = .noop := by
  unfold decode at decoded
  split at decoded
  · cases decoded
  · rename_i c rest chars
    dsimp only at decoded
    split_ifs at decoded with zero one two three four five six
    · split at decoded
      · rename_i info found
        obtain ⟨d, _, read⟩ := Option.bind_eq_some_iff.mp found
        cases decoded
        exact .inl ⟨info, d, rfl, read⟩
      · cases decoded
    · cases decoded
      simp
    · cases decoded
      simp
    · cases decoded
      simp
    · subst four
      cases read : SocketPacket.decode (String.ofList rest) with
      | error e =>
        rw [read] at decoded
        cases decoded
      | ok q =>
        rw [read] at decoded
        cases decoded
        exact .inr (.inl ⟨q, rest, rfl, chars, read⟩)
    · cases decoded
      simp
    · cases decoded
      simp

theorem decode_opened {info : OpenInfo} (word : info.IsWord) :
    decode (EnginePacket.opened info).encode = .ok (.opened info) := by
  have read : (Document.read? info.toJson.render).bind OpenInfo.ofDocument? = some info := by
    rw [Document.read?_of_written info.written_toJson]
    exact OpenInfo.ofDocument?_document word
  simp [decode, encode, read]

/-- A packet that was read is read again from the text written for it if and only if it is not a
message with a number without a sign for its data. Such a message has a blank before the number. -/
theorem decode_respelled_iff (decoded : decode text = .ok p)
    (reads : ∀ q, p = .message q → ∀ v ∈ q.data, Json.parse? v.render = some v) :
    (decode p.encode = .ok p ↔ ∀ q, p = .message q → ∀ v ∈ q.data, ¬ v.IsUnsigned) ∧
      ∀ q, p = .message q → ∀ v ∈ q.data, v.IsUnsigned → ∃ front gap rest,
        text.toList = front ++ gap :: rest ∧ Document.isGap gap = true ∧
          Json.parse? (String.ofList rest) = some v := by
  obtain ⟨info, d, rfl, read⟩ | ⟨q, rest, rfl, start, read⟩ | rfl | ⟨payload, rfl⟩ | ⟨payload, rfl⟩ |
    rfl | rfl := cases_of_decode decoded
  · exact ⟨iff_of_true (decode_opened (OpenInfo.isWord_of_ofDocument? read)) nofun, nofun⟩
  · constructor
    · have again := (SocketPacket.decode_encode_iff q (SocketPacket.small_of_decode read) (reads q rfl)).2
      rw [again, SocketPacket.isPlain_iff_of_decode read]
      constructor
      · intro plain q' same
        cases same
        exact plain
      · intro plain
        exact plain q rfl
    · intro q' same v member unsigned
      cases same
      obtain ⟨front, gap, after, whole, found⟩ := SocketPacket.exists_gap_of_isUnsigned read member unsigned
      rw [String.toList_ofList] at whole
      exact ⟨'4' :: front, gap, after, by rw [start, whole, List.cons_append], found⟩
  · exact ⟨iff_of_true rfl nofun, nofun⟩
  · exact ⟨iff_of_true (by simp [decode, encode]) nofun, nofun⟩
  · exact ⟨iff_of_true (by simp [decode, encode]) nofun, nofun⟩
  · exact ⟨iff_of_true rfl nofun, nofun⟩
  · exact ⟨iff_of_true rfl nofun, nofun⟩

/-- Zeros before the number of a packet and a blank before its data are not written again. -/
theorem decode_respelled_iff_zeros :
    ∃ p, decode "42/chat,007 [5]" = .ok p ∧ p.encode = "42/chat,7[5]" ∧ decode p.encode = .ok p := by
  have read : SocketPacket.decode "2/chat,007 [5]" =
      .ok ⟨.event, "/chat", some 7, some (.arr [.int 5])⟩ :=
    SocketPacket.decode_eq_ok_iff.mpr ⟨_, _, _, [' ', '[', '5', ']'], rfl, rfl, rfl,
      by with_unfolding_all rfl, by with_unfolding_all rfl⟩
  have decoded : decode "42/chat,007 [5]" =
      .ok (.message ⟨.event, "/chat", some 7, some (.arr [.int 5])⟩) :=
    congrArg (EnginePacket.message <$> ·) read
  refine ⟨_, decoded, by decide +kernel, (decode_respelled_iff decoded ?_).1.mpr ?_⟩
  · intro q same v member
    cases same
    cases member
    with_unfolding_all rfl
  · intro q same v member
    cases same
    cases member
    exact id

/-- A number behind a blank becomes the number of the packet that is written. -/
theorem exists_decode_encode_ne : ∃ p, decode "42 1" = .ok p ∧ p.encode = "421" ∧
    Json.parse? (Json.int 1).render = some (.int 1) ∧ decode p.encode ≠ .ok p := by
  have read : SocketPacket.decode "2 1" = .ok ⟨.event, "/", none, some (.int 1)⟩ :=
    SocketPacket.decode_eq_ok_iff.mpr ⟨_, _, _, [' ', '1'], rfl, rfl, rfl,
      by with_unfolding_all rfl, by with_unfolding_all rfl⟩
  have again : SocketPacket.decode "21" = .ok ⟨.event, "/", some 1, none⟩ :=
    SocketPacket.decode_eq_ok_iff.mpr ⟨_, _, _, [], rfl, rfl, rfl, by with_unfolding_all rfl, rfl⟩
  have written : (EnginePacket.message ⟨.event, "/", none, some (.int 1)⟩).encode = "421" := by
    decide +kernel
  refine ⟨_, congrArg (EnginePacket.message <$> ·) read, written, by with_unfolding_all rfl, ?_⟩
  rw [written]
  intro same
  cases same.symm.trans (congrArg (EnginePacket.message <$> ·) again)

end EnginePacket

end LiveSession
