import SessionBatch.Proofs.Encoding
import SessionBatch.Proofs.Rewriting
import SessionBatch.Reading.File

namespace SessionBatch.Reading
open SessionBatch.Json

-- A stored list of sessions, and the text that it becomes when values under keys that sessions do
-- not know give way to null. These values are the ones with bytes that belong to no character.
-- Nothing else has such bytes, and nothing else changes.
inductive Nulled : Part → List Glyph → List Char → Prop where
  | kept {part : Part} {text : List Char} (form : Exactly (Front part) text) :
      Nulled part (chars text) text
  | unread {ps : List Piece} {key : String} {node : Node} {title before after : List Char}
      {text : List Glyph} (heading : Exactly (Heading ps) title) (decoded : Decoded ⟨ps, none⟩ key)
      (unknown : key ∉ sessionKeys) (leading : Exactly Blanks before)
      (value : Stands (.value node) text) (spoilt : ¬ Clean text)
      (trailing : Exactly Blanks after) :
      Nulled (.members [(⟨ps, none⟩, .null)])
        (chars title ++ (chars before ++ (text ++ chars after)))
        (title ++ (before ++ (['n', 'u', 'l', 'l'] ++ after)))
  | members {m : Quoted × Node} {ms : List (Quoted × Node)} {text others : List Glyph}
      {front behind : List Char} (first : Nulled (.members [m]) text front)
      (more : Nulled (.members ms) others behind) :
      Nulled (.members (m :: ms)) (text ++ .char ',' :: others) (front ++ ',' :: behind)
  | session {ms : List (Quoted × Node)} {before after front : List Char} {text : List Glyph}
      (leading : Exactly Blanks before) (members : Nulled (.members ms) text front)
      (trailing : Exactly Blanks after) :
      Nulled (.items [.object ms none])
        (chars before ++ (.char '\x7b' :: (text ++ [.char '\x7d']) ++ chars after))
        (before ++ ('\x7b' :: (front ++ ['\x7d']) ++ after))
  | items {node : Node} {nodes : List Node} {text others : List Glyph} {front behind : List Char}
      (first : Nulled (.items [node]) text front) (more : Nulled (.items nodes) others behind) :
      Nulled (.items (node :: nodes)) (text ++ .char ',' :: others) (front ++ ',' :: behind)
  | document {nodes : List Node} {before after front : List Char} {text : List Glyph}
      (leading : Exactly Blanks before) (items : Nulled (.items nodes) text front)
      (trailing : Exactly Blanks after) :
      Nulled (.spaced (.array nodes none))
        (chars before ++ (.char '[' :: (text ++ [.char ']']) ++ chars after))
        (before ++ ('[' :: (front ++ [']']) ++ after))

theorem Nulled.exactly {part : Part} {text : List Glyph} {front : List Char}
    (nulled : Nulled part text front) : Exactly (Front part) front := by
  induction nulled with
  | kept form => exact form
  | unread heading _ _ leading _ _ trailing => exact heading.member (leading.spaced .null trailing)
  | members _ _ first more => exact first.members more
  | session leading _ trailing members => exact .item (leading.spaced members.object trailing)
  | items _ _ first more => exact first.items more
  | document leading _ trailing items => exact leading.spaced items.array trailing

section Meant

theorem spread_clean {ps : List Piece} {text : List Glyph} (spread : Spread ps text)
    (known : ps.any isStray = false) : Clean text := by
  induction spread with
  | close => simp
  | piece _ _ ih =>
    rw [List.any_cons, Bool.or_eq_false_iff] at known
    simpa using ih known.2
  | stray => simp [isStray] at known

theorem Decoded.clean {q : Quoted} {s : String} {text : List Glyph} (decoded : Decoded q s)
    (spread : Spread q.pieces text) : Clean text :=
  spread_clean spread decoded.spells.decoded.2

theorem titled_clean {ps : List Piece} {key : String} {title : List Glyph}
    (decoded : Decoded ⟨ps, none⟩ key) (titled : Titled ps title) : Clean title := by
  cases titled with
  | key _ spread _ => simpa using decoded.clean spread

def Meant : Part → Prop
  | .value node | .spaced node => ∃ depth v, Means depth node v
  | .items nodes => ∃ depth vs, ItemsMean depth nodes vs
  | .members ms => ∃ depth vs, MembersMean depth ms vs

theorem stands_clean {part : Part} {text : List Glyph} (stands : Stands part text)
    (meant : Meant part) : Clean text := by
  induction stands with
  | plain => exact clean_chars _
  | string pieces =>
    obtain ⟨_, _, ⟨⟩⟩ := meant
    next decoded => simpa using decoded.clean pieces
  | array _ ih =>
    obtain ⟨_, _, ⟨⟩⟩ := meant
    next items => simpa using ih ⟨_, _, items⟩
  | object _ ih =>
    obtain ⟨_, _, ⟨⟩⟩ := meant
    next members => simpa using ih ⟨_, _, members⟩
  | spaced _ _ _ ih => simpa using ih meant
  | lastItem _ ih =>
    obtain ⟨_, _, ⟨⟩⟩ := meant
    next item _ => exact ih ⟨_, _, item⟩
  | nextItem _ _ ih ih' =>
    obtain ⟨_, _, ⟨⟩⟩ := meant
    next item items => simpa using ⟨ih ⟨_, _, item⟩, ih' ⟨_, _, items⟩⟩
  | lastMember key _ ih =>
    obtain ⟨_, _, ⟨⟩⟩ := meant
    next decoded content _ => simpa using ⟨titled_clean decoded key, ih ⟨_, _, content⟩⟩
  | nextMember key _ _ ih ih' =>
    obtain ⟨_, _, ⟨⟩⟩ := meant
    next decoded content members =>
      simpa using ⟨titled_clean decoded key, ih ⟨_, _, content⟩, ih' ⟨_, _, members⟩⟩

end Meant

section Fields

variable {depth : Nat} {node : Node}

theorem IdOf.means {kind : IdKind} {id : Id kind} (is : IdOf node id) (depth : Nat) :
    ∃ v, Means depth node v := by
  obtain ⟨v, means, _⟩ := (leaf_bind_iff plain_readId depth).1 ((readId_accepts node id).2 is)
  exact ⟨v, means⟩

theorem uuid_means {u : Uuid} (is : Within UuidOf node u) (depth : Nat) :
    ∃ v, Means depth node v := by
  obtain ⟨v, means, _⟩ := (leaf_bind_iff plain_readUuid depth).1 ((readUuid_within node u).2 is)
  exact ⟨v, means⟩

theorem items_mean {nodes : List Node} (items : ∀ node ∈ nodes, ∃ v, Means depth node v) :
    ∃ vs, ItemsMean depth nodes vs := by
  induction nodes with
  | nil => exact ⟨[], .nil depth⟩
  | cons node nodes ih =>
    obtain ⟨⟨v, item⟩, others⟩ := List.forall_mem_cons.1 items
    obtain ⟨vs, more⟩ := ih others
    exact ⟨v :: vs, .cons item more⟩

theorem EventsOf.means {events : List Event} (is : EventsOf node events) :
    ∃ v, Means (127 - 2) node v := by
  obtain ⟨nodes, rfl, items⟩ := is
  have each : ∀ node ∈ nodes, ∃ v, Means (127 - 3) node v := by
    intro node member
    obtain ⟨_, _, v, means, _⟩ := exists_of_forall₂ items.flip node member
    exact ⟨v, means⟩
  obtain ⟨_, mean⟩ := items_mean each
  exact ⟨_, .array mean⟩

theorem Once.is {ν α : Type} {key : String} {is : ν → α → Prop} {members : List (String × ν)}
    {a : α} (once : Once key is members a) : ∀ m ∈ members, m.1 = key → is m.2 a := by
  obtain ⟨v, alone, fits⟩ := once
  intro m member named
  have found : m ∈ members.filter (·.1 = key) := List.mem_filter.2 ⟨member, by simpa using named⟩
  rw [alone, List.mem_singleton] at found
  rwa [found]

theorem SessionOf.known_mean {ms : List (Quoted × Node)} {s : Session}
    (is : SessionOf (.object ms none) s) :
    ∃ members, Keyed ms members ∧
      ∀ m ∈ members, m.1 ∈ sessionKeys → Meant (.value m.2) := by
  cases is with
  | object keys first second third fourth fifth =>
    refine ⟨_, keys, fun m member known => ?_⟩
    simp only [sessionKeys, List.mem_cons, List.not_mem_nil, or_false] at known
    rcases known with named | named | named | named | named
    · exact ⟨0, (first.is m member named).means 0⟩
    · exact ⟨0, (second.is m member named).means 0⟩
    · exact ⟨0, (third.is m member named).means 0⟩
    · exact ⟨0, uuid_means (fourth.is m member named) 0⟩
    · rcases fifth with once | ⟨absent, _⟩
      · exact ⟨_, (once.is m member named).means⟩
      · exact absurd named (absent m member)

theorem SessionOf.array_means {nodes : List Node} {s : Session}
    (is : SessionOf (.array nodes none) s) : Meant (.value (.array nodes none)) := by
  have items : ∀ node ∈ nodes, ∃ v, Means (127 - 2) node v := by
    cases is with
    | fourFields first second third fourth =>
      simpa using ⟨first.means _, second.means _, third.means _, uuid_means fourth _⟩
    | fiveFields first second third fourth fifth =>
      simpa using ⟨first.means _, second.means _, third.means _, uuid_means fourth _, fifth.means⟩
  obtain ⟨vs, items⟩ := items_mean items
  exact ⟨_, _, .array items⟩

end Fields

inductive Spared : Quoted × Node → Quoted × Node → Prop where
  | same (m : Quoted × Node) : Spared m m
  | unread {q : Quoted} {key : String} (decoded : Decoded q key) (unknown : key ∉ sessionKeys)
      (node other : Node) : Spared (q, node) (q, other)

theorem SameUnder.both {ν : Type} {key : String} {members others : List (String × ν)}
    (same : SameUnder key members others) (m : String × ν) :
    SameUnder key (m :: members) (m :: others) := by
  unfold SameUnder at same ⊢
  rw [List.filter_cons, List.filter_cons]
  split
  · exact same.cons m
  · exact same

theorem SessionOf.spared {ms others : List (Quoted × Node)} {s : Session}
    (spared : List.Forall₂ Spared ms others) (is : SessionOf (.object ms none) s) :
    SessionOf (.object others none) s := by
  refine is.of_same fun members keyed => ?_
  clear is
  induction spared generalizing members with
  | nil =>
    cases keyed
    exact ⟨[], .nil, fun _ _ => .refl _⟩
  | cons first _ ih =>
    cases keyed with
    | @cons _ member _ members named keyed =>
      obtain ⟨members', keyed', same⟩ := ih members keyed
      cases first with
      | same =>
        exact ⟨member :: members', .cons named keyed', fun key used => (same key used).both member⟩
      | unread decoded unknown _ other =>
        refine ⟨(member.1, other) :: members', .cons ⟨named.1, rfl⟩ keyed', fun key used => ?_⟩
        have apart : member.1 ≠ key := by
          rintro rfl
          exact unknown (decoded.unique named.1 ▸ used)
        exact ((SameUnder.cons apart).symm.trans (same key used)).trans (SameUnder.cons apart)

theorem member_nulled {ps : List Piece} {key : String} {node : Node} {title text : List Glyph}
    (titled : Titled ps title) (value : Stands (.spaced node) text)
    (decoded : Decoded ⟨ps, none⟩ key) (known : key ∈ sessionKeys → Meant (.value node)) :
    ∃ other front, Nulled (.members [(⟨ps, none⟩, other)]) (title ++ text) front ∧
      Spared (⟨ps, none⟩, node) (⟨ps, none⟩, other) := by
  obtain ⟨heading, rfl, form⟩ := titled.exactly (titled_clean decoded titled)
  by_cases clean : Clean text
  · obtain ⟨front, rfl, content⟩ := value.exactly clean
    rw [← chars_append]
    exact ⟨node, _, .kept (form.member content), .same _⟩
  · cases value with
    | spaced leading value trailing =>
      have spoilt : ¬ Clean _ := fun inner => clean (by simpa using inner)
      have unknown : key ∉ sessionKeys := fun used => spoilt (stands_clean value (known used))
      exact ⟨.null, _, .unread form decoded unknown leading value spoilt trailing,
        .unread decoded unknown _ _⟩

theorem members_nulled {ms : List (Quoted × Node)} {members : List (String × Node)}
    {text : List Glyph} (stands : Stands (.members ms) text) (keyed : Keyed ms members)
    (known : ∀ m ∈ members, m.1 ∈ sessionKeys → Meant (.value m.2)) :
    ∃ others front, Nulled (.members others) text front ∧ List.Forall₂ Spared ms others := by
  induction keyed generalizing text with
  | nil => cases stands
  | @cons m member ms members named keyed ih =>
    obtain ⟨here, others⟩ := List.forall_mem_cons.1 known
    obtain ⟨key, node⟩ := member
    obtain ⟨decoded, same⟩ := named
    cases stands with
    | lastMember titled value =>
      cases same
      obtain ⟨other, front, nulled, spared⟩ := member_nulled titled value decoded here
      exact ⟨_, front, nulled, .cons spared .nil⟩
    | nextMember titled value more =>
      cases same
      obtain ⟨other, front, nulled, spared⟩ := member_nulled titled value decoded here
      obtain ⟨ms', behind, more', spared'⟩ := ih more others
      rw [← List.append_assoc]
      exact ⟨_, _, .members nulled more', .cons spared spared'⟩

theorem session_nulled {node : Node} {s : Session} {text : List Glyph}
    (stands : Stands (.spaced node) text) (is : SessionOf node s) :
    ∃ other front, Nulled (.items [other]) text front ∧ SessionOf other s := by
  by_cases clean : Clean text
  · obtain ⟨front, rfl, form⟩ := stands.exactly clean
    exact ⟨node, front, .kept form.item, is⟩
  · cases node with
    | object ms fault =>
      cases stands with
      | spaced leading value trailing =>
        cases value with
        | plain => exact absurd (by simp) clean
        | object members =>
          obtain ⟨_, keyed, known⟩ := is.known_mean
          obtain ⟨others, front, nulled, spared⟩ := members_nulled members keyed known
          exact ⟨_, _, .session leading nulled trailing, is.spared spared⟩
    | array nodes fault =>
      have unbroken : fault = none := by cases is <;> rfl
      subst unbroken
      exact absurd (stands_clean stands is.array_means) clean
    | _ => cases is

theorem items_nulled {nodes : List Node} {ss : List Session} {text : List Glyph}
    (stands : Stands (.items nodes) text) (are : List.Forall₂ SessionOf nodes ss) :
    ∃ others front, Nulled (.items others) text front ∧ List.Forall₂ SessionOf others ss := by
  induction are generalizing text with
  | nil => cases stands
  | cons is are ih =>
    cases stands with
    | lastItem item =>
      obtain ⟨other, front, nulled, is'⟩ := session_nulled item is
      cases are
      exact ⟨_, front, nulled, .cons is' .nil⟩
    | nextItem item more =>
      obtain ⟨other, front, nulled, is'⟩ := session_nulled item is
      obtain ⟨others, behind, more', are'⟩ := ih more
      exact ⟨_, _, .items nulled more', .cons is' are'⟩

theorem readGlyphs_nulled {text : List Glyph} {ss : List Session}
    (read : readGlyphs text = .ok ss) :
    ∃ nodes front, Nulled (.spaced (.array nodes none)) text front ∧
      readText (String.ofList front) = .ok ss := by
  obtain ⟨_, scanned, whole, nodes, rfl, are⟩ := readGlyphs_iff.1 read
  suffices found : ∃ others front, Nulled (.spaced (.array others none)) text front ∧
      List.Forall₂ SessionOf others ss by
    obtain ⟨others, front, nulled, are'⟩ := found
    have written : IsText (.array others none) (String.ofList front) := by
      have form := nulled.exactly []
      rwa [List.append_nil, ← String.toList_ofList (l := front)] at form
    exact ⟨others, front, nulled, (readText_iff written).2 ⟨others, rfl, are'⟩⟩
  have stands := scan_sound scanned whole
  by_cases clean : Clean text
  · obtain ⟨front, rfl, form⟩ := stands.exactly clean
    exact ⟨nodes, front, .kept form, are⟩
  · cases stands with
    | spaced leading value trailing =>
      cases value with
      | plain => exact absurd (by simp) clean
      | array items =>
        obtain ⟨others, front, nulled, are'⟩ := items_nulled items are
        exact ⟨others, _, .document leading nulled trailing, are'⟩

-- A file is read as the text whose bytes it holds, with the same outcome whatever is wrong. Bytes
-- that belong to no character do no harm inside values that no session knows, and nowhere else: the
-- sessions are those of the text with null in the place of these values.
theorem sessionsOfFile_agrees :
    (∀ t : String, sessionsOfFile (.bytes t.toUTF8.data.toList) = sessionsOfText t) ∧
      ∀ bytes ss, sessionsOfFile (.bytes bytes) = .ok ss →
        (decode bytes).flatMap Glyph.bytes = bytes ∧
          ∃ nodes text, Nulled (.spaced (.array nodes none)) (decode bytes) text ∧
            sessionsOfText (String.ofList text) = .ok ss := by
  constructor
  · intro t
    rw [sessionsOfFile, readBytes, decode_toUTF8, sessionsOfText, readText]
  · intro bytes ss read
    refine ⟨bytes_decode bytes, ?_⟩
    cases found : readGlyphs (decode bytes) with
    | error problem =>
      rw [sessionsOfFile, readBytes, found] at read
      cases read
    | ok sessions =>
      rw [sessionsOfFile, readBytes, found] at read
      cases read
      obtain ⟨nodes, text, nulled, again⟩ := readGlyphs_nulled found
      refine ⟨nodes, text, nulled, ?_⟩
      rw [sessionsOfText, again]
      rfl

end SessionBatch.Reading

namespace SessionBatch

namespace Sample.Smudged

open Json Reading

def before : String :=
  "[\x7b\"id\":1,\"org_id\":2,\"contact_id\":3,\"note\":[\""

def after : String :=
  "\"],\"contact_uuid\":\"00000000-0000-0000-0000-000000000004\"\x7d]"

def bytes : List UInt8 := before.toUTF8.data.toList ++ 0xff :: after.toUTF8.data.toList

theorem decode_bytes : decode bytes = glyphs before ++ .stray 0xff :: glyphs after := by
  have stray : decode (0xff :: after.toUTF8.data.toList) =
      .stray 0xff :: decode after.toUTF8.data.toList := rfl
  rw [bytes, decode_toUTF8_append, stray, decode_toUTF8]

def tree : Node :=
  .array [.object [(spelled "id", .number ⟨false, [1], none, none⟩),
    (spelled "org_id", .number ⟨false, [2], none, none⟩),
    (spelled "contact_id", .number ⟨false, [3], none, none⟩),
    (spelled "note", .array [.string ⟨[.plain (.stray 0xff)], none⟩] none),
    (spelled "contact_uuid", .string (spelled "00000000-0000-0000-0000-000000000004"))] none] none

theorem scan_smudged {front back : List Char} (first : before.toList = front)
    (last : after.toList = back)
    (scanned : scan (front.map .char ++ .stray 0xff :: back.map .char) = ⟨tree, false⟩) :
    scan (decode bytes) = ⟨tree, false⟩ := by
  rw [decode_bytes, glyphs, glyphs, first, last, scanned]

theorem scan_bytes : scan (decode bytes) = ⟨tree, false⟩ :=
  scan_smudged String.toList_ofList String.toList_ofList (by cbv)

theorem bytes_ok : (readBytes bytes).isOk = true := by
  rw [readBytes, readGlyphs, scan_bytes]
  decide +kernel

end Sample.Smudged

open Json Reading in
theorem sessionsOfFile_agrees_smudged :
    ¬ Clean (decode Sample.Smudged.bytes) ∧
      ∃ ss, sessionsOfFile (.bytes Sample.Smudged.bytes) = .ok ss ∧
        ∃ nodes text, Nulled (.spaced (.array nodes none)) (decode Sample.Smudged.bytes) text ∧
          sessionsOfText (String.ofList text) = .ok ss := by
  constructor
  · rw [Sample.Smudged.decode_bytes]
    simp
  · cases read : readBytes Sample.Smudged.bytes with
    | error problem =>
      have ok := Sample.Smudged.bytes_ok
      rw [read] at ok
      cases ok
    | ok sessions =>
      have stored : sessionsOfFile (.bytes Sample.Smudged.bytes) = .ok sessions := by
        rw [sessionsOfFile, read]
        rfl
      exact ⟨sessions, stored, (sessionsOfFile_agrees.2 _ _ stored).2⟩

end SessionBatch
