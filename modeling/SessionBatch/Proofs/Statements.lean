import SessionBatch.Proofs.Placement
import SessionBatch.Proofs.Reordering
import SessionBatch.Proofs.Resubmission

namespace SessionBatch

open Effect

def Event.labels (assets : Assets) (event : Event) : Bool :=
  match event.payload with
  | .inputLabelsAdded _ labels => labels.any fun label => (assets.label? label.uuid).isSome
  | _ => false

namespace Session

def Ends (assets : Assets) (member : Bool) (session : Session) : Prop :=
  ∃ group, session.lastMention assets group = some member

theorem ends_iff {assets : Assets} {member : Bool} {session : Session} :
    session.Ends assets member ↔
      ∃ row ∈ (Groups.settled assets (session.events.filterMap (Groups.change? ·.payload))).toList,
        row.2 = member := by
  unfold Ends
  simp only [← Groups.settled_changes, ← Std.ExtTreeMap.mem_toList_iff_getElem?_eq_some]
  exact ⟨fun ⟨group, ends⟩ => ⟨_, ends, rfl⟩, fun ⟨⟨group, _⟩, ends, rfl⟩ => ⟨group, ends⟩⟩

instance (assets : Assets) (member : Bool) (session : Session) :
    Decidable (session.Ends assets member) := decidable_of_iff _ ends_iff.symm

end Session

namespace Batch

-- One statement for each effect that a batch has, whatever the number of its sessions and events,
-- and one for each event with labels.
def cost (assets : Assets) (sessions : List Session) : Nat :=
  let events := sessions.flatMap (·.events)
  (if ∃ event ∈ events, event.type = .contactNameChanged then 1 else 0) +
    (if ∃ event ∈ events, event.type = .contactLanguageChanged then 1 else 0) +
    (if ∃ event ∈ events, event.changesField assets then 1 else 0) +
    (if ∃ session ∈ sessions, session.Ends assets true then 1 else 0) +
    (if ∃ session ∈ sessions, session.Ends assets false then 1 else 0) +
    (if ∃ event ∈ events, event.type = .msgCreated then 1 else 0) +
    events.countP (·.labels assets)

variable {assets : Assets} {sessions : List Session}

theorem byContact_eq_nil {α : Type} {pick : Payload → Option α} (id : HookId)
    (picks : Picks id.eventType pick) :
    byContact (taken pick (waiting assets sessions id)) = [] ↔
      ∀ event ∈ sessions.flatMap (·.events), event.payload.waitsFor? assets ≠ some id := by
  rw [byContact_waiting, List.filterMap_eq_nil_iff, ← Session.map_snd_turns, List.forall_mem_map]
  constructor
  · intro none turn listed waits
    have absent := none turn (List.mem_filter.2 ⟨listed, decide_eq_true waits⟩)
    have present := (picks turn.2.payload).2 (Payload.waitsFor?_type waits)
    rw [Option.map_eq_none_iff] at absent
    rw [absent] at present
    cases present
  · intro none turn member
    obtain ⟨listed, waits⟩ := List.mem_filter.1 member
    exact absurd (of_decide_eq_true waits) (none turn listed)

theorem changes_eq_nil {member : Bool} :
    Groups.rows assets member
        (taken Groups.change? (waiting assets sessions .commitGroupChanges)) = [] ↔
      ∀ session ∈ sessions, ¬ session.Ends assets member := by
  rw [List.eq_nil_iff_forall_not_mem]
  simp only [mem_changes]
  constructor
  · rintro none session within ⟨group, ends⟩
    exact none ⟨session.contactId, group⟩ ⟨session, within, rfl, ends⟩
  · rintro none row ⟨session, within, _, ends⟩
    exact none session within ⟨row.group, ends⟩

theorem labels_iff {event : Event} :
    event.payload.labelRows assets ≠ [] ↔ event.labels assets = true := by
  unfold Payload.labelRows Event.labels
  cases event.payload with
  | inputLabelsAdded input labels =>
    simp [Labels.rows, List.filterMap_eq_nil_iff, Option.isSome_iff_ne_none]
  | _ => simp

theorem saved {α : Type} {rowless : Bool} {items : List α} {p : α → Prop} [DecidablePred p]
    (rows : rowless = true ↔ ∀ item ∈ items, ¬ p item) :
    (if rowless then 0 else 1) = if ∃ item ∈ items, p item then 1 else 0 := by
  by_cases some : ∃ item ∈ items, p item
  · obtain ⟨item, within, holds⟩ := some
    have filled : rowless ≠ true := fun empty => rows.1 empty item within holds
    rw [if_neg filled, if_pos ⟨item, within, holds⟩]
  · rw [if_neg some, if_pos (rows.2 fun item within holds => some ⟨item, within, holds⟩)]

theorem names_none :
    (latest (taken Names.name? (waiting assets sessions .commitNameChanges))).isEmpty = true ↔
      ∀ event ∈ sessions.flatMap (·.events), ¬ event.type = .contactNameChanged := by
  rw [Std.ExtTreeMap.isEmpty_iff, latest_eq_empty, byContact_eq_nil .commitNameChanges Names.picks]
  exact forall₂_congr fun _ _ => not_congr (Payload.waitsFor?_eq (by decide) (by decide))

theorem languages_none :
    ((latest (taken Languages.language? (waiting assets sessions .commitLanguageChanges))).map
        fun _ => Languages.stored).isEmpty = true ↔
      ∀ event ∈ sessions.flatMap (·.events), ¬ event.type = .contactLanguageChanged := by
  rw [Std.ExtTreeMap.isEmpty_iff, Std.ExtTreeMap.map_eq_empty_iff, latest_eq_empty,
    byContact_eq_nil .commitLanguageChanges Languages.picks]
  exact forall₂_congr fun _ _ => not_congr (Payload.waitsFor?_eq (by decide) (by decide))

theorem fields_none :
    (Fields.merged (taken Fields.change?
        (waiting assets sessions .commitFieldChanges))).isEmpty = true ↔
      ∀ event ∈ sessions.flatMap (·.events), ¬ event.changesField assets = true := by
  rw [Std.ExtTreeMap.isEmpty_iff, merged_eq_empty, byContact_eq_nil .commitFieldChanges Fields.picks]
  refine forall₂_congr fun event _ => not_congr ?_
  rw [← Payload.waitsFor?_fields, decide_eq_true_iff]

theorem messages_none :
    (sent assets sessions).isEmpty = true ↔
      ∀ event ∈ sessions.flatMap (·.events), ¬ event.type = .msgCreated := by
  rw [List.isEmpty_iff, sent_eq_nil, List.forall_mem_flatMap]

theorem final_cost (assets : Assets) (sessions : List Session) (store : Store) :
    (final assets sessions (store.labelledBy assets (sessions.flatMap (·.events)))).statements =
      store.statements + cost assets sessions := by
  have joining : (joins assets sessions).isEmpty = true ↔
      ∀ session ∈ sessions, ¬ session.Ends assets true := List.isEmpty_iff.trans changes_eq_nil
  have parting : (partings assets sessions).isEmpty = true ↔
      ∀ session ∈ sessions, ¬ session.Ends assets false := List.isEmpty_iff.trans changes_eq_nil
  have labelling : (sessions.flatMap (·.events)).countP
        (fun event => event.payload.labelRows assets ≠ []) =
      (sessions.flatMap (·.events)).countP (·.labels assets) :=
    List.countP_congr fun event _ => decide_eq_true_iff.trans labels_iff
  rw [final_statements, Store.statements_labelledBy, labelling, saved names_none,
    saved languages_none, saved fields_none, saved joining, saved parting, saved messages_none]
  unfold cost
  dsimp only
  ac_rfl

-- A batch makes as many statements as it has effects, all of them before the commit.
theorem process_statements {s t : Scene (List Session)} {outcome : Outcome}
    (done : process .standard assets s = (.ok outcome, t)) :
    t.world.store.statements = s.world.store.statements + cost assets s.subject ∧
      (s.subject ≠ [] → ∃ made u after,
        commit .standard assets (opened assets s) = (.ok made, u) ∧
          (postCommit .standard assets : Work _ BatchError _)
            (u.note .info (committedLine assets made.1 made.2)) = (.ok after, t) ∧
          t.world.store.statements = u.world.store.statements) := by
  obtain ⟨_, _, made⟩ := result_ok (process_result done)
  refine ⟨made ▸ final_cost assets s.subject s.world.store, fun filled => ?_⟩
  have course : Course .standard assets s _ _ := process_course s
  rw [done] at course
  cases course with
  | empty none => exact absurd none filled
  | @committed events hooks u _ after _ _ _ ran closed =>
    refine ⟨(events, hooks), u, after, ?_, closed, ?_⟩
    · rw [commit_run, ran]
    · exact congrArg Store.statements (committed_store ran closed)

end Batch

namespace Sample

def thrifty : List Session :=
  [turn ⟨1⟩ [.contactNameChanged "Ann", .contactFieldChanged ⟨"size", "Size"⟩ (some "8"),
      .inputLabelsAdded ⟨20⟩ [⟨⟨8⟩, "urgent"⟩], .contactNameChanged "Bea"],
    turn ⟨1⟩ [.contactGroupsChanged [⟨⟨7⟩, "guests"⟩] [], .inputLabelsAdded ⟨20⟩ [⟨⟨18⟩, "old"⟩],
      .msgCreated ⟨⟨21⟩, none, "first"⟩, .contactGroupsChanged [] [⟨⟨7⟩, "guests"⟩]]]

end Sample

theorem process_statements_thrifty :
    Batch.cost Sample.assets Sample.thrifty = 4 ∧
      ∃ outcome t, Batch.process .standard Sample.assets (Sample.scene Sample.thrifty) =
          (.ok outcome, t) ∧ t.world.store.statements = 4 := by
  have cost : Batch.cost Sample.assets Sample.thrifty = 4 := by decide +kernel
  obtain ⟨outcome, t, done⟩ := Sample.run_ok
    (r := Batch.process .standard Sample.assets (Sample.scene Sample.thrifty))
    (by decide +kernel)
  obtain ⟨count, _⟩ := Batch.process_statements done
  refine ⟨cost, outcome, t, done, count.trans ?_⟩
  change 0 + Batch.cost Sample.assets Sample.thrifty = 4
  rw [cost]

end SessionBatch
