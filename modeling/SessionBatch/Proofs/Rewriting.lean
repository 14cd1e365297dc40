import Mathlib.Data.List.Forall2
import Mathlib.Data.List.Perm.Basic
import Mathlib.Logic.Relation
import SessionBatch.Proofs.Assembly
import SessionBatch.Proofs.Conformance
import SessionBatch.Proofs.Decoding

namespace SessionBatch.Reading
open SessionBatch.Json

inductive AtItem (rewrites : Node → Node → Prop) : Node → Node → Prop where
  | item {before after : List Node} {node other : Node} (rewritten : rewrites node other) :
      AtItem rewrites (.array (before ++ node :: after) none)
        (.array (before ++ other :: after) none)

def Names (ms : List (Quoted × Node)) (type : EventType) : Prop :=
  ∃ m ∈ ms, Decoded m.1 "type" ∧ ∃ v, Means (127 - 4) m.2 v ∧ TypeOf v type

-- The members of an event may change places, and may be joined by one that its type does not use.
-- That one is decoded nevertheless.
inductive EventRewrite : Node → Node → Prop where
  | order {ms others : List (Quoted × Node)} (same : ms.Perm others) :
      EventRewrite (.object ms none) (.object others none)
  | member {before after : List (Quoted × Node)} {q : Quoted} {key : String} {node : Node}
      {v : Value} (decoded : Decoded q key) (foreign : key ∉ eventKeys)
      (unused : ∀ type, Names (before ++ after) type → key ∉ payloadKeys type)
      (spelled : q.Written) (written : node.Written) (means : Means (127 - 4) node v) :
      EventRewrite (.object (before ++ after) none) (.object (before ++ (q, node) :: after) none)

def sessionKeys : List String := ["id", "org_id", "contact_id", "contact_uuid", "events"]

-- The last place of a session written by position. Events that are left out of an object may be
-- left out of the array, too, or be none.
inductive LastPlace (members : List (String × Node)) : List Node → Prop where
  | events {e : Node} (there : Once "events" Eq members e) : LastPlace members [e]
  | left (absent : ∀ m ∈ members, m.1 ≠ "events") : LastPlace members []
  | none (absent : ∀ m ∈ members, m.1 ≠ "events") : LastPlace members [.array [] none]

inductive Positional (ms : List (Quoted × Node)) : List Node → Prop where
  | fields {members : List (String × Node)} {a b c d : Node} {last : List Node}
      (keys : Keyed ms members) (first : Once "id" Eq members a)
      (second : Once "org_id" Eq members b) (third : Once "contact_id" Eq members c)
      (fourth : Once "contact_uuid" Eq members d) (fifth : LastPlace members last) :
      Positional ms (a :: b :: c :: d :: last)

-- The members of a session may change places, and may be joined by an unknown one, whatever its
-- value. A session may be written by position or by name, and its events may be rewritten.
inductive SessionRewrite : Node → Node → Prop where
  | order {ms others : List (Quoted × Node)} (same : ms.Perm others) :
      SessionRewrite (.object ms none) (.object others none)
  | member {before after : List (Quoted × Node)} {q : Quoted} {key : String} {node : Node}
      (decoded : Decoded q key) (unknown : key ∉ sessionKeys) (spelled : q.Written)
      (written : node.Written) :
      SessionRewrite (.object (before ++ after) none) (.object (before ++ (q, node) :: after) none)
  | byPosition {ms : List (Quoted × Node)} {nodes : List Node} (fields : Positional ms nodes) :
      SessionRewrite (.object ms none) (.array nodes none)
  | byName {ms : List (Quoted × Node)} {nodes : List Node} (fields : Positional ms nodes)
      (written : (Node.object ms none).Written) :
      SessionRewrite (.array nodes none) (.object ms none)
  | namedEvents {before after : List (Quoted × Node)} {q : Quoted} {e other : Node}
      (decoded : Decoded q "events") (events : AtItem EventRewrite e other) :
      SessionRewrite (.object (before ++ (q, e) :: after) none)
        (.object (before ++ (q, other) :: after) none)
  | placedEvents {a b c d e other : Node} (events : AtItem EventRewrite e other) :
      SessionRewrite (.array [a, b, c, d, e] none) (.array [a, b, c, d, other] none)

theorem exists_of_forall₂ {α β : Type} {r : α → β → Prop} {as : List α} {bs : List β}
    (items : List.Forall₂ r as bs) : ∀ b ∈ bs, ∃ a ∈ as, r a b := by
  induction items with
  | nil => simp
  | cons first _ ih =>
    rw [List.forall_mem_cons]
    exact ⟨⟨_, List.mem_cons_self, first⟩, fun b member =>
      (ih b member).imp fun _ found => ⟨List.mem_cons_of_mem _ found.1, found.2⟩⟩

theorem Once.mem {ν α : Type} {key : String} {is : ν → α → Prop} {members : List (String × ν)}
    {a : α} (once : Once key is members a) : ∃ v, (key, v) ∈ members ∧ is v a := by
  obtain ⟨v, alone, fits⟩ := once
  exact ⟨v, (List.mem_filter.1 (alone ▸ List.mem_singleton_self _)).1, fits⟩

section Written

variable {node other : Node} {rewrites : Node → Node → Prop}

theorem written_joined {before after : List (Quoted × Node)} {m : Quoted × Node}
    (key : m.1.Written) (value : m.2.Written)
    (written : (Node.object (before ++ after) none).Written) :
    (Node.object (before ++ m :: after) none).Written := by
  rw [Node.written_object_iff, List.forall_mem_append] at written ⊢
  exact ⟨written.1, List.forall_mem_cons.2 ⟨⟨key, value⟩, written.2⟩⟩

theorem written_ordered {ms others : List (Quoted × Node)} (same : ms.Perm others)
    (written : (Node.object ms none).Written) : (Node.object others none).Written := by
  rw [Node.written_object_iff] at written ⊢
  exact fun m member => written m (same.mem_iff.2 member)

theorem AtItem.written (kept : ∀ {node other}, rewrites node other → node.Written → other.Written)
    (rewritten : AtItem rewrites node other) (written : node.Written) : other.Written := by
  cases rewritten with
  | item rewritten =>
    rw [Node.written_array_iff, List.forall_mem_append, List.forall_mem_cons] at written ⊢
    exact ⟨written.1, kept rewritten written.2.1, written.2.2⟩

theorem EventRewrite.written (rewritten : EventRewrite node other) (written : node.Written) :
    other.Written := by
  cases rewritten with
  | order same => exact written_ordered same written
  | member _ _ _ spelled value => exact written_joined spelled value written

theorem Positional.written {ms : List (Quoted × Node)} {nodes : List Node}
    (fields : Positional ms nodes) (written : (Node.object ms none).Written) :
    (Node.array nodes none).Written := by
  cases fields with
  | @fields members a b c d last keys first second third fourth fifth =>
    have taken : ∀ {key : String} {node : Node}, Once key Eq members node → node.Written := by
      intro key node there
      obtain ⟨_, inside, rfl⟩ := there.mem
      obtain ⟨m, member, _, rfl⟩ := exists_of_forall₂ keys _ inside
      exact (written.member m member).2
    rw [Node.written_array_iff]
    simp only [List.forall_mem_cons]
    refine ⟨taken first, taken second, taken third, taken fourth, ?_⟩
    cases fifth with
    | events there => simpa using taken there
    | left => simp
    | none => simpa using Node.written_array_iff.2 (by simp)

theorem SessionRewrite.written (rewritten : SessionRewrite node other) (written : node.Written) :
    other.Written := by
  cases rewritten with
  | order same => exact written_ordered same written
  | member _ _ spelled value => exact written_joined spelled value written
  | byPosition fields => exact fields.written written
  | byName _ object => exact object
  | namedEvents _ events =>
    rw [Node.written_object_iff, List.forall_mem_append, List.forall_mem_cons] at written ⊢
    obtain ⟨before, ⟨key, value⟩, after⟩ := written
    exact ⟨before, ⟨key, events.written EventRewrite.written value⟩, after⟩
  | placedEvents events =>
    rw [Node.written_array_iff] at written ⊢
    simp only [List.forall_mem_cons] at written ⊢
    obtain ⟨a, b, c, d, e, last⟩ := written
    exact ⟨a, b, c, d, events.written EventRewrite.written e, last⟩

end Written

section Meaning

variable {α ν : Type} {key : String} {is : ν → α → Prop}

theorem SameUnder.of_perm {members others : List (String × ν)} (same : members.Perm others)
    (key : String) : SameUnder key members others := same.filter _

theorem SameUnder.cons {members : List (String × ν)} {name : String} {v : ν} (other : name ≠ key) :
    SameUnder key members ((name, v) :: members) := by
  unfold SameUnder
  rw [List.filter_cons_of_neg (by simpa using other)]

theorem Once.at_iff {members : List (String × ν)} {v : ν} (there : Once key Eq members v) {a : α} :
    Once key is members a ↔ is v a := by
  obtain ⟨_, alone, rfl⟩ := there
  constructor
  · rintro ⟨w, alone', fits⟩
    rw [alone] at alone'
    cases alone'
    exact fits
  · exact fun fits => ⟨_, alone, fits⟩

theorem Once.not_absent {members : List (String × ν)} {a : α} (once : Once key is members a) :
    ¬ ∀ m ∈ members, m.1 ≠ key := by
  obtain ⟨v, alone, _⟩ := once
  intro absent
  rw [filter_eq_nil_iff_absent.2 absent] at alone
  cases alone

theorem forall₂_replace {β : Type} {r : β → α → Prop} {before after : List β} {b c : β}
    {as : List α} (kept : ∀ a, r b a → r c a) (items : List.Forall₂ r (before ++ b :: after) as) :
    List.Forall₂ r (before ++ c :: after) as := by
  induction before generalizing as with
  | nil =>
    cases items with
    | cons first rest => exact .cons (kept _ first) rest
  | cons _ before ih =>
    cases items with
    | cons first rest => exact .cons first (ih rest)

theorem AtItem.kept {rewrites : Node → Node → Prop} {is : Node → α → Prop} {node other : Node}
    {as : List α} (rewritten : AtItem rewrites node other)
    (items : ∃ nodes, node = .array nodes none ∧ List.Forall₂ is nodes as)
    (kept : ∀ node other a, rewrites node other → is node a → is other a) :
    ∃ nodes, other = .array nodes none ∧ List.Forall₂ is nodes as := by
  cases rewritten with
  | item rewritten =>
    obtain ⟨_, ⟨⟩, items⟩ := items
    exact ⟨_, rfl, forall₂_replace (fun a => kept _ _ a rewritten) items⟩

theorem membersMean_iff {depth : Nat} {ms : List (Quoted × Node)} {vs : Members} :
    MembersMean depth ms vs ↔
      List.Forall₂ (fun m member => Decoded m.1 member.1 ∧ Means depth m.2 member.2) ms vs := by
  constructor
  · intro means
    induction ms generalizing vs with
    | nil =>
      cases means
      exact .nil
    | cons m ms ih =>
      cases means with
      | cons decoded content members => exact .cons ⟨decoded, content⟩ (ih members)
  · intro means
    induction means with
    | nil => exact .nil depth
    | cons first _ ih => exact .cons first.1 first.2 ih

theorem EventOf.of_same {members others : Members} {event : Event}
    (own : ∀ key ∈ eventKeys, SameUnder key members others)
    (fields : ∀ key ∈ payloadKeys event.type, SameUnder key members others)
    (is : EventOf (.object members) event) : EventOf (.object others) event := by
  cases is with
  | object uuid createdOn type payload =>
    exact .object (uuid.of_same (own _ (by decide))) (createdOn.of_same (own _ (by decide)))
      (type.of_same (own _ (by decide))) (payload.of_same fields)

theorem withinEvent_ordered {ms others : List (Quoted × Node)} {event : Event}
    (same : ms.Perm others) (is : Within EventOf (.object ms none) event) :
    Within EventOf (.object others none) event := by
  obtain ⟨_, ⟨⟩, is⟩ := is
  next vs means =>
    obtain ⟨ws, means', same'⟩ := List.perm_comp_forall₂ same.symm (membersMean_iff.1 means)
    refine ⟨.object ws, .object (membersMean_iff.2 means'), is.of_same ?_ ?_⟩
    · exact fun key _ => .of_perm same'.symm key
    · exact fun key _ => .of_perm same'.symm key

theorem withinEvent_joined {ms : List (Quoted × Node)} {event : Event} {q : Quoted} {key : String}
    {node : Node} {v : Value} (decoded : Decoded q key) (foreign : key ∉ eventKeys)
    (unused : ∀ type, Names ms type → key ∉ payloadKeys type) (means : Means (127 - 4) node v)
    (is : Within EventOf (.object ms none) event) :
    Within EventOf (.object ((q, node) :: ms) none) event := by
  obtain ⟨_, ⟨⟩, is⟩ := is
  next vs members =>
    have names : Names ms event.type := by
      cases is with
      | object _ _ type =>
        obtain ⟨w, inside, fits⟩ := type.mem
        obtain ⟨m, member, named, content⟩ := exists_of_forall₂ (membersMean_iff.1 members) _ inside
        exact ⟨m, member, named, w, content, fits⟩
    refine ⟨.object ((key, v) :: vs), .object (.cons decoded means members), is.of_same ?_ ?_⟩
    · exact fun own used => .cons fun same => foreign (same ▸ used)
    · exact fun own used => .cons fun same => unused _ names (same ▸ used)

theorem EventRewrite.kept {node other : Node} {event : Event}
    (rewritten : EventRewrite node other) (is : Within EventOf node event) :
    Within EventOf other event := by
  cases rewritten with
  | order same => exact withinEvent_ordered same is
  | member decoded foreign unused _ _ means =>
    exact withinEvent_ordered List.perm_middle.symm
      (withinEvent_joined decoded foreign unused means is)

theorem EventsOf.rewritten {node other : Node} {events : List Event}
    (rewritten : AtItem EventRewrite node other) (is : EventsOf node events) :
    EventsOf other events :=
  rewritten.kept is fun _ _ _ => EventRewrite.kept

theorem Decoded.unique {q : Quoted} {s t : String} (decoded : Decoded q s) (again : Decoded q t) :
    s = t := by
  have read := text_iff.2 decoded
  rw [text_iff.2 again] at read
  exact (Except.ok.inj read).symm

theorem Keyed.unique {ms : List (Quoted × Node)} {members others : List (String × Node)}
    (keyed : Keyed ms members) (again : Keyed ms others) : members = others := by
  induction keyed generalizing others with
  | nil =>
    cases again
    rfl
  | cons first _ ih =>
    cases again with
    | cons first' rest =>
      rw [ih rest, Prod.ext (first.1.unique first'.1) (first.2.symm.trans first'.2)]

theorem SessionOf.of_same {ms others : List (Quoted × Node)} {s : Session}
    (same : ∀ members, Keyed ms members → ∃ members', Keyed others members' ∧
      ∀ key ∈ sessionKeys, SameUnder key members members')
    (is : SessionOf (.object ms none) s) : SessionOf (.object others none) s := by
  cases is with
  | object keys first second third fourth fifth =>
    obtain ⟨members', keys', same⟩ := same _ keys
    exact .object keys' (first.of_same (same _ (by decide))) (second.of_same (same _ (by decide)))
      (third.of_same (same _ (by decide))) (fourth.of_same (same _ (by decide)))
      (fifth.of_same (same _ (by decide)))

theorem SessionOf.ordered {ms others : List (Quoted × Node)} {s : Session}
    (same : ms.Perm others) (is : SessionOf (.object ms none) s) :
    SessionOf (.object others none) s := by
  refine is.of_same fun members keys => ?_
  obtain ⟨members', keys', same'⟩ := List.perm_comp_forall₂ same.symm keys
  exact ⟨members', keys', fun key _ => .of_perm same'.symm key⟩

theorem SessionOf.joined {ms : List (Quoted × Node)} {s : Session} {q : Quoted} {key : String}
    {node : Node} (decoded : Decoded q key) (unknown : key ∉ sessionKeys)
    (is : SessionOf (.object ms none) s) : SessionOf (.object ((q, node) :: ms) none) s := by
  refine is.of_same fun members keys => ⟨(key, node) :: members, .cons ⟨decoded, rfl⟩ keys, ?_⟩
  exact fun own used => .cons fun same => unknown (same ▸ used)

section Fields

variable {members : List (String × ν)} {v : ν} {default a : α}

theorem atMostOnce_there (there : Once key Eq members v) :
    AtMostOnce key is default members a ↔ is v a := by
  constructor
  · rintro (once | ⟨absent, _⟩)
    · exact there.at_iff.1 once
    · exact absurd absent there.not_absent
  · exact fun fits => .inl (there.at_iff.2 fits)

theorem atMostOnce_absent (absent : ∀ m ∈ members, m.1 ≠ key) :
    AtMostOnce key is default members a ↔ a = default := by
  constructor
  · rintro (once | ⟨_, missing⟩)
    · exact absurd absent once.not_absent
    · exact missing
  · exact fun missing => .inr ⟨absent, missing⟩

end Fields

theorem SessionOf.events_replaced {ms : List (Quoted × Node)} {q : Quoted} {e other : Node}
    {s : Session} (decoded : Decoded q "events")
    (kept : ∀ events, EventsOf e events → EventsOf other events)
    (is : SessionOf (.object ((q, e) :: ms) none) s) :
    SessionOf (.object ((q, other) :: ms) none) s := by
  cases is with
  | object keys first second third fourth fifth =>
    cases keys with
    | @cons _ member _ members named keys =>
      obtain ⟨key, node⟩ := member
      obtain ⟨decoded', rfl⟩ := named
      cases decoded.unique decoded'
      have apart {key : String} (different : "events" ≠ key) :
          SameUnder key (("events", e) :: members) (("events", other) :: members) :=
        (SameUnder.cons different).symm.trans (SameUnder.cons different)
      have alone : members.filter (·.1 = "events") = [] := by
        rcases fifth with ⟨v, alone, _⟩ | ⟨absent, _⟩
        · exact (List.cons.inj alone).2
        · exact absurd rfl (absent _ List.mem_cons_self)
      have there (e : Node) : Once "events" Eq (("events", e) :: members) e :=
        ⟨e, by simp [alone], rfl⟩
      exact .object (.cons ⟨decoded, rfl⟩ keys) (first.of_same (apart (by decide)))
        (second.of_same (apart (by decide))) (third.of_same (apart (by decide)))
        (fourth.of_same (apart (by decide)))
        ((atMostOnce_there (there other)).2 (kept _ ((atMostOnce_there (there e)).1 fifth)))

theorem Positional.session_iff {ms : List (Quoted × Node)} {nodes : List Node} {s : Session}
    (fields : Positional ms nodes) :
    SessionOf (.object ms none) s ↔ SessionOf (.array nodes none) s := by
  cases fields with
  | fields keys first second third fourth fifth =>
    constructor
    · intro is
      cases is with
      | object keys' id orgId contactId contactUuid events =>
        cases keys.unique keys'
        have id := first.at_iff.1 id
        have orgId := second.at_iff.1 orgId
        have contactId := third.at_iff.1 contactId
        have contactUuid := fourth.at_iff.1 contactUuid
        cases fifth with
        | events there =>
          exact .fiveFields id orgId contactId contactUuid ((atMostOnce_there there).1 events)
        | left absent =>
          cases (atMostOnce_absent absent).1 events
          exact .fourFields id orgId contactId contactUuid
        | none absent =>
          cases (atMostOnce_absent absent).1 events
          exact .fiveFields id orgId contactId contactUuid ⟨[], rfl, .nil⟩
    · intro is
      cases fifth with
      | events there =>
        cases is with
        | fiveFields id orgId contactId contactUuid events =>
          exact .object keys (first.at_iff.2 id) (second.at_iff.2 orgId) (third.at_iff.2 contactId)
            (fourth.at_iff.2 contactUuid) ((atMostOnce_there there).2 events)
      | left absent =>
        cases is with
        | fourFields id orgId contactId contactUuid =>
          exact .object keys (first.at_iff.2 id) (second.at_iff.2 orgId) (third.at_iff.2 contactId)
            (fourth.at_iff.2 contactUuid) ((atMostOnce_absent absent).2 rfl)
      | none absent =>
        cases is with
        | fiveFields id orgId contactId contactUuid events =>
          obtain ⟨_, ⟨⟩, ⟨⟩⟩ := events
          exact .object keys (first.at_iff.2 id) (second.at_iff.2 orgId) (third.at_iff.2 contactId)
            (fourth.at_iff.2 contactUuid) ((atMostOnce_absent absent).2 rfl)

theorem SessionRewrite.kept {node other : Node} {s : Session}
    (rewritten : SessionRewrite node other) (is : SessionOf node s) : SessionOf other s := by
  cases rewritten with
  | order same => exact is.ordered same
  | member decoded unknown => exact (is.joined decoded unknown).ordered List.perm_middle.symm
  | byPosition fields => exact fields.session_iff.1 is
  | byName fields => exact fields.session_iff.2 is
  | namedEvents decoded events =>
    have first := is.ordered List.perm_middle
    have replaced := first.events_replaced decoded fun _ => EventsOf.rewritten events
    exact replaced.ordered List.perm_middle.symm
  | placedEvents events =>
    cases is with
    | fiveFields first second third fourth fifth =>
      exact .fiveFields first second third fourth (fifth.rewritten events)

end Meaning

theorem rewritten_kept {tree other : Node} {ss : List Session}
    (rewritten : Relation.ReflTransGen (AtItem SessionRewrite) tree other)
    (written : tree.Written) (declared : SessionsOf tree ss) :
    other.Written ∧ SessionsOf other ss := by
  induction rewritten with
  | refl => exact ⟨written, declared⟩
  | tail _ step ih =>
    have declared := step.kept ih.2 fun _ _ _ => SessionRewrite.kept
    exact ⟨step.written SessionRewrite.written ih.1, declared⟩

-- The order of members, members that nobody knows and the way a session is written do not matter:
-- what is made of the tree of a text that is read has texts, and each of them is read as the same
-- sessions.
theorem readText_rewritten {t : String} {ss : List Session} (read : readText t = .ok ss) :
    ∃ tree, IsText tree t ∧
      ∀ other, Relation.ReflTransGen (AtItem SessionRewrite) tree other →
        (∃ t', IsText other t') ∧ ∀ t', IsText other t' → readText t' = .ok ss := by
  obtain ⟨tree, written⟩ := readText_isText read
  refine ⟨tree, written, fun other rewritten => ?_⟩
  have declared := (readText_iff written).1 read
  obtain ⟨whole, declared⟩ := rewritten_kept rewritten (.of_spaced written) declared
  exact ⟨whole.exists_text, fun t' again => (readText_iff again).2 declared⟩

end SessionBatch.Reading

namespace SessionBatch

namespace Sample.Noted

open Json Reading

def number (digit : Nat) : Node := .number ⟨false, [digit], none, none⟩

def word (text : String) : Node := .string (spelled text)

def placed : String :=
  "[[1,2,3,\"00000000-0000-0000-0000-000000000004\",[\x7b\"type\":\"error\",\"text\":\"late\"," ++
    "\"uuid\":\"00000000-0000-0000-0000-000000000009\"," ++
    "\"created_on\":\"2024-05-02T10:00:00Z\"\x7d]]]"

def named : String :=
  "[\x7b\"note\":[1e400,\"\\ud800\"],\"events\":[\x7b\"text\":\"late\",\"type\":\"error\"," ++
    "\"step\":[null],\"uuid\":\"00000000-0000-0000-0000-000000000009\"," ++
    "\"created_on\":\"2024-05-02T10:00:00Z\"\x7d],\"contact_uuid\":" ++
    "\"00000000-0000-0000-0000-000000000004\",\"contact_id\":3,\"org_id\":2,\"id\":1\x7d]"

def uuid : Quoted × Node := (spelled "uuid", word "00000000-0000-0000-0000-000000000009")

def createdOn : Quoted × Node := (spelled "created_on", word "2024-05-02T10:00:00Z")

def type : Quoted × Node := (spelled "type", word "error")

def text : Quoted × Node := (spelled "text", word "late")

def step : Quoted × Node := (spelled "step", .array [.null] none)

def contact : Node := word "00000000-0000-0000-0000-000000000004"

def note : Node :=
  .array [.number ⟨false, [1], none, some (false, [4, 0, 0])⟩, .string ⟨[.code 0xd800], none⟩] none

def events (ms : List (Quoted × Node)) : Node := .array [.object ms none] none

def byPosition (ms : List (Quoted × Node)) : Node :=
  .array [number 1, number 2, number 3, contact, events ms] none

def members (ms : List (Quoted × Node)) : List (String × Node) :=
  [("note", note), ("events", events ms), ("contact_uuid", contact), ("contact_id", number 3),
    ("org_id", number 2), ("id", number 1)]

def byName (ms : List (Quoted × Node)) : List (Quoted × Node) :=
  (members ms).map fun (key, node) => (spelled key, node)

theorem isText_of_scan {t : String} {cs : List Char} {tree : Node} (chars : t.toList = cs)
    (scanned : scan (cs.map .char) = ⟨tree, false⟩) (whole : tree.fault? = none) :
    IsText tree t :=
  scan_iff.1 ⟨by rw [glyphs, chars, scanned], whole⟩

theorem toList_joined {s t : String} {cs ds : List Char} (front : s.toList = cs)
    (rest : t.toList = ds) : (s ++ t).toList = cs ++ ds := by
  rw [String.toList_append, front, rest]

set_option maxRecDepth 1000 in
theorem placed_isText : IsText (.array [byPosition [type, text, uuid, createdOn]] none) placed :=
  isText_of_scan
    (toList_joined (toList_joined String.toList_ofList String.toList_ofList) String.toList_ofList)
    (by cbv) rfl

set_option maxRecDepth 1000 in
theorem named_isText :
    IsText (.array [.object (byName [text, type, step, uuid, createdOn]) none] none) named :=
  isText_of_scan
    (toList_joined (toList_joined (toList_joined String.toList_ofList String.toList_ofList)
      String.toList_ofList) String.toList_ofList)
    (by cbv) rfl

theorem placed_ok : (readText placed).isOk = true := by
  rw [readText, readGlyphs, (scan_iff.2 placed_isText).1]
  decide +kernel

theorem decoded_spelled (key : String) : Decoded (spelled key) key :=
  text_iff.1 (text_spelled key)

theorem positional_byName (ms : List (Quoted × Node)) :
    Positional (byName ms) [number 1, number 2, number 3, contact, events ms] := by
  have keyed : Keyed (byName ms) (members ms) := by
    unfold Keyed byName
    rw [List.forall₂_map_left_iff, List.forall₂_same]
    exact fun member _ => ⟨decoded_spelled member.1, rfl⟩
  exact .fields keyed ⟨_, rfl, rfl⟩ ⟨_, rfl, rfl⟩ ⟨_, rfl, rfl⟩ ⟨_, rfl, rfl⟩
    (.events ⟨_, rfl, rfl⟩)

theorem placed_named :
    Relation.ReflTransGen (AtItem SessionRewrite)
      (.array [byPosition [type, text, uuid, createdOn]] none)
      (.array [.object (byName [text, type, step, uuid, createdOn]) none] none) := by
  have object : (Node.object (byName [text, type, step, uuid, createdOn]) none).Written := by
    have document := Node.Written.of_spaced named_isText
    exact document.item _ List.mem_cons_self
  have joined : EventRewrite (.object [text, type, uuid, createdOn] none)
      (.object [text, type, step, uuid, createdOn] none) := by
    have listed : (spelled "events", events [text, type, step, uuid, createdOn]) ∈
        byName [text, type, step, uuid, createdOn] := List.mem_cons_of_mem _ List.mem_cons_self
    have event := ((object.member _ listed).2.item _ List.mem_cons_self).member step (by simp)
    refine @EventRewrite.member [text, type] [uuid, createdOn] _ "step" _ (.array [.null])
      (decoded_spelled "step") (by decide) (fun type _ => ?_) event.1 event.2 ?_
    · cases type <;> decide
    · exact .array (.cons (.null _) (.nil _))
  have inside {node other : Node} (rewritten : SessionRewrite node other) :
      AtItem SessionRewrite (.array [node] none) (.array [other] none) :=
    @AtItem.item _ [] [] _ _ rewritten
  have rewriteEvent {ms others : List (Quoted × Node)}
      (rewritten : EventRewrite (.object ms none) (.object others none)) :
      AtItem SessionRewrite (.array [byPosition ms] none) (.array [byPosition others] none) :=
    inside (.placedEvents (@AtItem.item _ [] [] _ _ rewritten))
  exact .head (rewriteEvent (.order (.swap _ _ _))) <| .head (rewriteEvent joined) <|
    .single (inside (.byName (positional_byName _) object))

end Sample.Noted

theorem readText_rewritten_named :
    (Reading.readText Sample.Noted.placed).isOk = true ∧
      Reading.readText Sample.Noted.named = Reading.readText Sample.Noted.placed := by
  refine ⟨Sample.Noted.placed_ok, ?_⟩
  cases read : Reading.readText Sample.Noted.placed with
  | error problem =>
    have ok := Sample.Noted.placed_ok
    rw [read] at ok
    cases ok
  | ok sessions =>
    obtain ⟨tree, written, rewritten⟩ := Reading.readText_rewritten read
    cases written.unique Sample.Noted.placed_isText
    exact (rewritten _ Sample.Noted.placed_named).2 _ Sample.Noted.named_isText

end SessionBatch
