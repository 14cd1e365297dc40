import SessionBatch.Proofs.Assembly
import SessionBatch.Proofs.Records

namespace SessionBatch.Reading
open SessionBatch.Json

def isOther (member : String × Value) : Bool := member.1 ≠ "uuid" ∧ member.1 ≠ "created_on"

theorem addEventMember_iff {draft next : EventDraft} {q : Quoted} {node : Node} :
    addEventMember draft (q, node) = .ok next ↔
      ∃ key v, Decoded q key ∧ Means depthInEvent node v ∧
        takeField "uuid" readUuid draft.uuid (key, v) = .ok next.uuid ∧
        takeField "created_on" readTimestamp draft.createdOn (key, v) = .ok next.createdOn ∧
        next.rest = draft.rest ++ [(key, v)].filter isOther := by
  obtain ⟨uuid, createdOn, rest⟩ := next
  unfold addEventMember
  refine ok_bind_iff.trans (exists_congr fun key => ?_)
  rw [text_iff]
  dsimp only [takeField]
  by_cases isUuid : key = "uuid"
  · subst isUuid
    simp only [↓reduceIte]
    constructor
    · rintro ⟨decoded, read⟩
      obtain ⟨slot, filled, made⟩ := ok_bind_iff.1 read
      obtain ⟨empty, u, found, rfl⟩ := fill_iff.1 filled
      obtain ⟨v, means, fits⟩ := (leaf_bind_iff plain_readUuid depthInEvent).1 found
      cases made
      exact ⟨v, decoded, means, fill_iff.2 ⟨empty, u, fits, rfl⟩, rfl, by simp [isOther]⟩
    · rintro ⟨v, decoded, means, filled, ⟨⟩, kept⟩
      obtain ⟨empty, u, fits, rfl⟩ := fill_iff.1 filled
      have found := (leaf_bind_iff plain_readUuid depthInEvent).2 ⟨v, means, fits⟩
      refine ⟨decoded, ok_bind_iff.2 ⟨some u, fill_iff.2 ⟨empty, u, found, rfl⟩, ?_⟩⟩
      simpa [isOther, ok_pure_iff] using kept.symm
  · by_cases isCreatedOn : key = "created_on"
    · subst isCreatedOn
      simp only [↓reduceIte, if_neg isUuid]
      constructor
      · rintro ⟨decoded, read⟩
        obtain ⟨slot, filled, made⟩ := ok_bind_iff.1 read
        obtain ⟨empty, t, found, rfl⟩ := fill_iff.1 filled
        obtain ⟨v, means, fits⟩ := (leaf_bind_iff plain_readTimestamp depthInEvent).1 found
        cases made
        exact ⟨v, decoded, means, rfl, fill_iff.2 ⟨empty, t, fits, rfl⟩, by simp [isOther]⟩
      · rintro ⟨v, decoded, means, ⟨⟩, filled, kept⟩
        obtain ⟨empty, t, fits, rfl⟩ := fill_iff.1 filled
        have found := (leaf_bind_iff plain_readTimestamp depthInEvent).2 ⟨v, means, fits⟩
        refine ⟨decoded, ok_bind_iff.2 ⟨some t, fill_iff.2 ⟨empty, t, found, rfl⟩, ?_⟩⟩
        simpa [isOther, ok_pure_iff] using kept.symm
    · simp only [if_neg isUuid, if_neg isCreatedOn]
      have other (v : Value) : [(key, v)].filter isOther = [(key, v)] := by
        simp [isOther, isUuid, isCreatedOn]
      constructor
      · rintro ⟨decoded, read⟩
        obtain ⟨v, found, made⟩ := ok_bind_iff.1 read
        cases made
        exact ⟨v, decoded, (value_iff _ _ v).1 found, rfl, rfl, by rw [other]⟩
      · rintro ⟨v, decoded, means, ⟨⟩, ⟨⟩, kept⟩
        refine ⟨decoded, ok_bind_iff.2 ⟨v, (value_iff _ _ v).2 means, ?_⟩⟩
        rw [kept, other]
        rfl

theorem eventMembers_iff {ms : List (Quoted × Node)} {draft after : EventDraft} :
    ms.foldlM addEventMember draft = .ok after ↔
      ∃ vs, MembersMean depthInEvent ms vs ∧
        vs.foldlM (takeField "uuid" readUuid) draft.uuid = .ok after.uuid ∧
        vs.foldlM (takeField "created_on" readTimestamp) draft.createdOn = .ok after.createdOn ∧
        after.rest = draft.rest ++ vs.filter isOther := by
  induction ms generalizing draft with
  | nil =>
    constructor
    · rintro ⟨⟩
      exact ⟨[], .nil _, rfl, rfl, by simp⟩
    · rintro ⟨_, ⟨⟩, uuid, createdOn, rest⟩
      cases after
      cases uuid
      cases createdOn
      cases rest
      simp [ok_pure_iff]
  | cons m ms ih =>
    obtain ⟨q, node⟩ := m
    rw [foldlM_cons_iff]
    constructor
    · rintro ⟨next, first, others⟩
      obtain ⟨key, v, decoded, means, uuid, createdOn, rest⟩ := addEventMember_iff.1 first
      obtain ⟨vs, more, uuid', createdOn', rest'⟩ := ih.1 others
      refine ⟨(key, v) :: vs, .cons decoded means more, foldlM_cons_iff.2 ⟨_, uuid, uuid'⟩,
        foldlM_cons_iff.2 ⟨_, createdOn, createdOn'⟩, ?_⟩
      rw [rest', rest, List.append_assoc, ← List.filter_append]
      rfl
    · rintro ⟨_, ⟨⟩, uuid, createdOn, rest⟩
      next key v vs decoded means more =>
        obtain ⟨slot, uuid, uuid'⟩ := foldlM_cons_iff.1 uuid
        obtain ⟨slot', createdOn, createdOn'⟩ := foldlM_cons_iff.1 createdOn
        refine ⟨⟨slot, slot', draft.rest ++ [(key, v)].filter isOther⟩,
          addEventMember_iff.2 ⟨key, v, decoded, means, uuid, createdOn, rfl⟩,
          ih.2 ⟨vs, more, uuid', createdOn', ?_⟩⟩
        rw [rest, List.append_assoc, ← List.filter_append]
        rfl

theorem leaf_wrong_ne_ok {α : Type} {node : Node} {wanted : Wanted} {a : α} :
    (leaf node >>= fun v => wrong v wanted) ≠ .ok a := by
  intro read
  obtain ⟨_, _, read⟩ := ok_bind_iff.1 read
  exact absurd read wrong_ne_ok

theorem readEvent_accepts : Accepts readEvent (Within EventOf) := by
  have kept {key : String} (apart : key ≠ "uuid" ∧ key ≠ "created_on") (members : Members) :
      SameUnder key (members.filter isOther) members :=
    sameUnder_filter fun v => by simpa [isOther] using apart
  have used (type : EventType) (members : Members) :
      ∀ key ∈ payloadKeys type, SameUnder key (members.filter isOther) members := by
    intro key own
    have other := payloadKeys_apart type key own
    simp only [eventKeys, List.mem_cons, List.not_mem_nil, or_false, not_or] at other
    exact kept ⟨other.1, other.2.1⟩ members
  intro node event
  cases node with
  | object ms fault =>
    constructor
    · intro read
      obtain ⟨draft, members, read⟩ := ok_bind_iff.1 read
      obtain ⟨_, unbroken, read⟩ := ok_bind_iff.1 read
      obtain ⟨uuid, filled, read⟩ := ok_bind_iff.1 read
      obtain ⟨createdOn, filled', read⟩ := ok_bind_iff.1 read
      obtain ⟨payload, fields, read⟩ := ok_bind_iff.1 read
      cases read
      obtain ⟨vs, means, first, second, rest⟩ := eventMembers_iff.1 members
      rw [present_iff.1 filled] at first
      rw [present_iff.1 filled'] at second
      rw [rest] at fields
      obtain ⟨type, fields⟩ := readPayload_iff.1 fields
      rw [unlessFault_iff.1 unbroken]
      refine ⟨.object vs, .object means, .object ((once_iff readUuid_accepts).1 first)
        ((once_iff readTimestamp_accepts).1 second) (type.of_same (kept (by decide) vs))
        (fields.of_same (used _ vs))⟩
    · rintro ⟨_, ⟨⟩, ⟨⟩⟩
      next vs means uuid createdOn type fields =>
        have first := (once_iff readUuid_accepts).2 uuid
        have second := (once_iff readTimestamp_accepts).2 createdOn
        have rest := readPayload_iff.2 ⟨type.of_same (kept (by decide) vs).symm,
          fields.of_same fun key own => (used _ vs key own).symm⟩
        refine ok_bind_iff.2 ⟨⟨_, _, vs.filter isOther⟩,
          eventMembers_iff.2 ⟨vs, means, first, second, rfl⟩, ?_⟩
        exact ok_bind_iff.2 ⟨(), rfl, ok_bind_iff.2 ⟨_, rfl, ok_bind_iff.2 ⟨_, rfl,
          ok_bind_iff.2 ⟨_, rest, rfl⟩⟩⟩⟩
  | _ =>
    constructor
    · exact fun read => absurd read leaf_wrong_ne_ok
    · rintro ⟨_, ⟨⟩, ⟨⟩⟩

theorem readId_accepts {kind : IdKind} :
    Accepts (fun node => (leaf node).bind (@readId kind)) IdOf := by
  intro node id
  rw [leaf_bind_iff plain_readId 0]
  constructor
  · rintro ⟨v, means, read⟩
    cases means with
    | @number _ l number found =>
      cases number with
      | integer n =>
        obtain ⟨writes, _, _⟩ := number?_integer_iff.1 found
        rw [readId] at read
        split at read
        · next fits =>
          cases read
          have same := Id.toInt_of_ofInt? fits
          exact ⟨l, n, rfl, writes, same ▸ Int64.le_toInt id.val, same ▸ Int64.toInt_lt id.val, same⟩
        · cases read
      | float => exact absurd read wrong_ne_ok
    | _ => exact absurd read wrong_ne_ok
  · rintro ⟨l, n, rfl, writes, low, high, same⟩
    subst same
    have bound : id.toInt < significandBound := Int.lt_trans high (by decide)
    refine ⟨_, .number 0 (number?_integer_iff.2 ⟨writes, low, bound⟩), ?_⟩
    rw [readId, Id.ofInt?_toInt]

theorem readUuid_within : Accepts (fun node => (leaf node).bind readUuid) (Within UuidOf) := by
  intro node u
  rw [leaf_bind_iff plain_readUuid (127 - 3)]
  exact exists_congr fun v => and_congr_right fun _ => readUuid_accepts v u

theorem readItems_iff {α : Type} {read : Node → Reads α} {is : Node → α → Prop} {node : Node}
    (accepts : ∀ nodes, node = .array nodes none →
      ∀ item ∈ nodes, ∀ a, read item = .ok a ↔ is item a)
    {as : List α} :
    readItems read node = .ok as ↔
      ∃ nodes, node = .array nodes none ∧ List.Forall₂ is nodes as := by
  cases node with
  | array nodes fault =>
    constructor
    · intro read
      obtain ⟨as, items, read⟩ := ok_bind_iff.1 read
      obtain ⟨_, unbroken, read⟩ := ok_bind_iff.1 read
      cases read
      cases unlessFault_iff.1 unbroken
      exact ⟨nodes, rfl, (mapM_iff (accepts nodes rfl)).1 items⟩
    · rintro ⟨_, ⟨⟩, items⟩
      exact ok_bind_iff.2 ⟨as, (mapM_iff (accepts nodes rfl)).2 items, rfl⟩
  | _ =>
    constructor
    · exact fun read => absurd read leaf_wrong_ne_ok
    · rintro ⟨_, ⟨⟩, _⟩

theorem readItems_whole {α : Type} {read : Node → Reads α} {node : Node} {as : List α}
    (found : readItems read node = .ok as) : node.fault? = none := by
  cases node with
  | array nodes fault =>
    obtain ⟨_, _, found⟩ := ok_bind_iff.1 found
    obtain ⟨_, unbroken, _⟩ := ok_bind_iff.1 found
    exact unlessFault_iff.1 unbroken
  | _ => exact absurd found leaf_wrong_ne_ok

theorem readEvents_accepts : Accepts readEvents EventsOf := fun _ _ =>
  readItems_iff fun _ _ item _ => readEvent_accepts item

theorem addSessionMember_iff {draft next : SessionDraft} {q : Quoted} {node : Node}
    (whole : node.fault? = none) :
    addSessionMember draft (q, node) = .ok next ↔
      ∃ key, Decoded q key ∧
        takeField "id" (fun node => (leaf node).bind readId) draft.id (key, node) = .ok next.id ∧
        takeField "org_id" (fun node => (leaf node).bind readId) draft.orgId (key, node) =
          .ok next.orgId ∧
        takeField "contact_id" (fun node => (leaf node).bind readId) draft.contactId (key, node) =
          .ok next.contactId ∧
        takeField "contact_uuid" (fun node => (leaf node).bind readUuid) draft.contactUuid
          (key, node) = .ok next.contactUuid ∧
        takeField "events" readEvents draft.events (key, node) = .ok next.events := by
  obtain ⟨id, orgId, contactId, contactUuid, events⟩ := next
  unfold addSessionMember
  refine ok_bind_iff.trans (exists_congr fun key => ?_)
  rw [text_iff]
  refine and_congr_right fun _ => ?_
  dsimp only [takeField]
  by_cases isId : key = "id"
  · subst isId
    simp [ok_fmap_iff]
  · by_cases isOrg : key = "org_id"
    · subst isOrg
      simp [ok_fmap_iff, and_left_comm]
    · by_cases isContact : key = "contact_id"
      · subst isContact
        simp [ok_fmap_iff, and_left_comm]
      · by_cases isUuid : key = "contact_uuid"
        · subst isUuid
          simp [ok_fmap_iff, and_left_comm]
        · by_cases isEvents : key = "events"
          · subst isEvents
            simp [ok_fmap_iff, and_left_comm]
          · cases draft
            simp [if_neg isId, if_neg isOrg, if_neg isContact, if_neg isUuid, if_neg isEvents, whole,
              ok_pure_iff]

theorem sessionMembers_iff {ms : List (Quoted × Node)} {draft after : SessionDraft}
    (whole : ∀ m ∈ ms, m.2.fault? = none) :
    ms.foldlM addSessionMember draft = .ok after ↔
      ∃ members, Keyed ms members ∧
        members.foldlM (takeField "id" fun node => (leaf node).bind readId) draft.id =
          .ok after.id ∧
        members.foldlM (takeField "org_id" fun node => (leaf node).bind readId) draft.orgId =
          .ok after.orgId ∧
        members.foldlM (takeField "contact_id" fun node => (leaf node).bind readId)
          draft.contactId = .ok after.contactId ∧
        members.foldlM (takeField "contact_uuid" fun node => (leaf node).bind readUuid)
          draft.contactUuid = .ok after.contactUuid ∧
        members.foldlM (takeField "events" readEvents) draft.events = .ok after.events := by
  induction ms generalizing draft with
  | nil =>
    constructor
    · rintro ⟨⟩
      exact ⟨[], .nil, rfl, rfl, rfl, rfl, rfl⟩
    · rintro ⟨_, ⟨⟩, id, orgId, contactId, contactUuid, events⟩
      cases after
      cases id
      cases orgId
      cases contactId
      cases contactUuid
      cases events
      rfl
  | cons m ms ih =>
    obtain ⟨q, node⟩ := m
    obtain ⟨here, others⟩ := List.forall_mem_cons.1 whole
    rw [foldlM_cons_iff]
    constructor
    · rintro ⟨next, first, rest⟩
      obtain ⟨key, decoded, id, orgId, contactId, contactUuid, events⟩ :=
        (addSessionMember_iff here).1 first
      obtain ⟨members, keyed, id', orgId', contactId', contactUuid', events'⟩ := (ih others).1 rest
      exact ⟨(key, node) :: members, .cons ⟨decoded, rfl⟩ keyed, foldlM_cons_iff.2 ⟨_, id, id'⟩,
        foldlM_cons_iff.2 ⟨_, orgId, orgId'⟩, foldlM_cons_iff.2 ⟨_, contactId, contactId'⟩,
        foldlM_cons_iff.2 ⟨_, contactUuid, contactUuid'⟩, foldlM_cons_iff.2 ⟨_, events, events'⟩⟩
    · rintro ⟨_, ⟨⟩, id, orgId, contactId, contactUuid, events⟩
      next member members own keyed =>
        obtain ⟨key, _⟩ := member
        obtain ⟨decoded, rfl⟩ := own
        obtain ⟨slot₁, id, id'⟩ := foldlM_cons_iff.1 id
        obtain ⟨slot₂, orgId, orgId'⟩ := foldlM_cons_iff.1 orgId
        obtain ⟨slot₃, contactId, contactId'⟩ := foldlM_cons_iff.1 contactId
        obtain ⟨slot₄, contactUuid, contactUuid'⟩ := foldlM_cons_iff.1 contactUuid
        obtain ⟨slot₅, events, events'⟩ := foldlM_cons_iff.1 events
        exact ⟨⟨slot₁, slot₂, slot₃, slot₄, slot₅⟩,
          (addSessionMember_iff here).2 ⟨key, decoded, id, orgId, contactId, contactUuid, events⟩,
          (ih others).2 ⟨members, keyed, id', orgId', contactId', contactUuid', events'⟩⟩

theorem SessionDraft.session_iff {draft : SessionDraft} {s : Session} :
    draft.session = .ok s ↔
      ∃ id orgId contactId contactUuid events,
        draft.id = some id ∧ draft.orgId = some orgId ∧ draft.contactId = some contactId ∧
        draft.contactUuid = some contactUuid ∧ draft.events.getD [] = events ∧
        s = { id, orgId, contactId, contactUuid, events } := by
  constructor
  · intro read
    obtain ⟨id, first, read⟩ := ok_bind_iff.1 read
    obtain ⟨orgId, second, read⟩ := ok_bind_iff.1 read
    obtain ⟨contactId, third, read⟩ := ok_bind_iff.1 read
    obtain ⟨contactUuid, fourth, read⟩ := ok_bind_iff.1 read
    cases read
    exact ⟨id, orgId, contactId, contactUuid, _, present_iff.1 first, present_iff.1 second,
      present_iff.1 third, present_iff.1 fourth, rfl, rfl⟩
  · rintro ⟨id, orgId, contactId, contactUuid, events, first, second, third, fourth, rfl, rfl⟩
    unfold SessionDraft.session
    rw [first, second, third, fourth]
    rfl

theorem readObject_iff {ms : List (Quoted × Node)} {fault : Option Fault} {s : Session}
    (whole : ∀ m ∈ ms, m.2.fault? = none) :
    readSession (.object ms fault) = .ok s ↔ SessionOf (.object ms fault) s := by
  constructor
  · intro read
    obtain ⟨draft, members, read⟩ := ok_bind_iff.1 read
    obtain ⟨_, unbroken, read⟩ := ok_bind_iff.1 read
    obtain ⟨id, orgId, contactId, contactUuid, events, first, second, third, fourth, fifth, rfl⟩ :=
      SessionDraft.session_iff.1 read
    obtain ⟨members, keyed, id', orgId', contactId', contactUuid', events'⟩ :=
      (sessionMembers_iff whole).1 members
    rw [first] at id'
    rw [second] at orgId'
    rw [third] at contactId'
    rw [fourth] at contactUuid'
    rw [unlessFault_iff.1 unbroken]
    exact .object keyed ((once_iff readId_accepts).1 id') ((once_iff readId_accepts).1 orgId')
      ((once_iff readId_accepts).1 contactId') ((once_iff readUuid_within).1 contactUuid')
      ((atMostOnce_iff readEvents_accepts).1 ⟨_, events', fifth⟩)
  · rintro ⟨⟩
    next members id orgId contactId contactUuid events first second third fourth fifth keyed =>
      obtain ⟨slot, events', same⟩ := (atMostOnce_iff readEvents_accepts).2 fifth
      refine ok_bind_iff.2 ⟨⟨some id, some orgId, some contactId, some contactUuid, slot⟩,
        (sessionMembers_iff whole).2 ⟨members, keyed, (once_iff readId_accepts).2 first,
          (once_iff readId_accepts).2 second, (once_iff readId_accepts).2 third,
          (once_iff readUuid_within).2 fourth, events'⟩, ?_⟩
      refine ok_bind_iff.2 ⟨(), rfl, SessionDraft.session_iff.2 ?_⟩
      exact ⟨id, orgId, contactId, contactUuid, events, rfl, rfl, rfl, rfl, same, rfl⟩

theorem nextItem_iff {α : Type} {count : Nat} {fault : Option Fault} {read : Node → Reads α}
    {is : Node → α → Prop} (accepts : Accepts read is) {nodes rest : List Node} {a : α} :
    nextItem count fault read nodes = .ok (a, rest) ↔ ∃ node, nodes = node :: rest ∧ is node a := by
  cases nodes with
  | nil =>
    constructor
    · intro read
      obtain ⟨_, _, read⟩ := ok_bind_iff.1 read
      cases read
    · rintro ⟨_, ⟨⟩, _⟩
  | cons node nodes =>
    constructor
    · intro read
      obtain ⟨a, found, read⟩ := ok_bind_iff.1 read
      cases read
      exact ⟨node, rfl, (accepts node _).1 found⟩
    · rintro ⟨_, ⟨⟩, fits⟩
      exact ok_bind_iff.2 ⟨a, (accepts node a).2 fits, rfl⟩

theorem readArray_iff {nodes : List Node} {fault : Option Fault} {s : Session} :
    readSession (.array nodes fault) = .ok s ↔ SessionOf (.array nodes fault) s := by
  constructor
  · intro read
    obtain ⟨⟨id, afterId⟩, first, read₁⟩ := ok_bind_iff.1 read
    obtain ⟨⟨orgId, afterOrg⟩, second, read₂⟩ := ok_bind_iff.1 read₁
    obtain ⟨⟨contactId, afterContact⟩, third, read₃⟩ := ok_bind_iff.1 read₂
    obtain ⟨⟨contactUuid, rest⟩, fourth, read₄⟩ := ok_bind_iff.1 read₃
    clear read read₁ read₂ read₃
    obtain ⟨a, rfl, isId⟩ := (nextItem_iff readId_accepts).1 first
    obtain ⟨b, rfl, isOrg⟩ := (nextItem_iff readId_accepts).1 second
    obtain ⟨c, rfl, isContact⟩ := (nextItem_iff readId_accepts).1 third
    obtain ⟨d, rfl, isUuid⟩ := (nextItem_iff readUuid_within).1 fourth
    cases rest with
    | nil =>
      obtain ⟨_, unbroken, made⟩ := ok_bind_iff.1 read₄
      cases made
      rw [unlessFault_iff.1 unbroken]
      exact .fourFields isId isOrg isContact isUuid
    | cons e more =>
      obtain ⟨events, fifth, read₅⟩ := ok_bind_iff.1 read₄
      cases more with
      | nil =>
        obtain ⟨_, unbroken, made⟩ := ok_bind_iff.1 read₅
        cases made
        rw [unlessFault_iff.1 unbroken]
        exact .fiveFields isId isOrg isContact isUuid ((readEvents_accepts e _).1 fifth)
      | cons => cases read₅
  · rintro ⟨⟩
    · next first second third fourth =>
      refine ok_bind_iff.2 ⟨_, (nextItem_iff readId_accepts).2 ⟨_, rfl, first⟩, ?_⟩
      refine ok_bind_iff.2 ⟨_, (nextItem_iff readId_accepts).2 ⟨_, rfl, second⟩, ?_⟩
      refine ok_bind_iff.2 ⟨_, (nextItem_iff readId_accepts).2 ⟨_, rfl, third⟩, ?_⟩
      exact ok_bind_iff.2 ⟨_, (nextItem_iff readUuid_within).2 ⟨_, rfl, fourth⟩, rfl⟩
    · next first second third fourth fifth =>
      refine ok_bind_iff.2 ⟨_, (nextItem_iff readId_accepts).2 ⟨_, rfl, first⟩, ?_⟩
      refine ok_bind_iff.2 ⟨_, (nextItem_iff readId_accepts).2 ⟨_, rfl, second⟩, ?_⟩
      refine ok_bind_iff.2 ⟨_, (nextItem_iff readId_accepts).2 ⟨_, rfl, third⟩, ?_⟩
      refine ok_bind_iff.2 ⟨_, (nextItem_iff readUuid_within).2 ⟨_, rfl, fourth⟩, ?_⟩
      exact ok_bind_iff.2 ⟨_, (readEvents_accepts _ _).2 fifth, rfl⟩

theorem readSession_iff {node : Node} (standing : node.Standing) {s : Session} :
    readSession node = .ok s ↔ SessionOf node s := by
  cases node with
  | object ms fault => exact readObject_iff fun m member => (standing.member m member).whole
  | array nodes fault => exact readArray_iff
  | _ =>
    constructor
    · exact fun read => absurd read leaf_wrong_ne_ok
    · rintro ⟨⟩

theorem readSessions_iff {tree : Node} (standing : tree.Standing) {ss : List Session} :
    readItems readSession tree = .ok ss ↔ SessionsOf tree ss := by
  refine readItems_iff ?_
  rintro nodes rfl node member s
  exact readSession_iff (standing.item node member)

theorem readDocument_iff {document : Document} {ss : List Session} :
    readDocument document = .ok ss ↔
      readItems readSession document.root = .ok ss ∧ document.trailing = false := by
  unfold readDocument
  constructor
  · intro read
    obtain ⟨ss, sessions, read⟩ := ok_bind_iff.1 read
    split at read
    · cases read
    · next ended =>
      cases read
      exact ⟨sessions, by simpa using ended⟩
  · rintro ⟨sessions, ended⟩
    refine ok_bind_iff.2 ⟨ss, sessions, ?_⟩
    rw [if_neg (by simp [ended])]
    rfl

theorem readGlyphs_iff {text : List Glyph} {ss : List Session} :
    readGlyphs text = .ok ss ↔
      ∃ tree, scan text = ⟨tree, false⟩ ∧ tree.fault? = none ∧ SessionsOf tree ss := by
  rw [readGlyphs, readDocument_iff]
  constructor
  · rintro ⟨sessions, ended⟩
    have scanned : scan text = ⟨(scan text).root, false⟩ := by rw [← ended]
    have whole := readItems_whole sessions
    have standing := Node.Standing.of_spaced (scan_sound scanned whole)
    exact ⟨_, scanned, whole, (readSessions_iff standing).1 sessions⟩
  · rintro ⟨tree, scanned, whole, declared⟩
    have standing := Node.Standing.of_spaced (scan_sound scanned whole)
    rw [scanned]
    exact ⟨(readSessions_iff standing).2 declared, rfl⟩

theorem readText_isText {t : String} {ss : List Session} (read : readText t = .ok ss) :
    ∃ tree, IsText tree t := by
  obtain ⟨tree, scanned, whole, _⟩ := readGlyphs_iff.1 read
  exact ⟨tree, scan_iff.1 ⟨scanned, whole⟩⟩

theorem readText_iff {tree : Node} {t : String} (written : IsText tree t) {ss : List Session} :
    readText t = .ok ss ↔ SessionsOf tree ss := by
  obtain ⟨scanned, whole⟩ := scan_iff.2 written
  rw [readText, readGlyphs_iff]
  constructor
  · rintro ⟨other, again, _, declared⟩
    cases scanned.symm.trans again
    exact declared
  · exact fun declared => ⟨tree, scanned, whole, declared⟩

-- A text is read exactly when it is the text of a tree, the only one it has, of the declared format,
-- and then as the sessions that the tree declares.
theorem readText_iff_declared {t : String} {ss : List Session} :
    readText t = .ok ss ↔
      ∃ tree, IsText tree t ∧ (∀ other, IsText other t → other = tree) ∧ SessionsOf tree ss := by
  constructor
  · intro read
    obtain ⟨tree, written⟩ := readText_isText read
    exact ⟨tree, written, fun other again => again.unique written, (readText_iff written).1 read⟩
  · rintro ⟨tree, written, _, declared⟩
    exact (readText_iff written).2 declared

end SessionBatch.Reading
