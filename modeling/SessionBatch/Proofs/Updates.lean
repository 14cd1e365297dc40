import Mathlib.Data.List.Basic
import SessionBatch.Proofs.Misrouting

namespace SessionBatch

inductive ContactPart where
  | name
  | language
  | field (key : String)
  deriving DecidableEq

-- The value that an event gives to a part of a contact. An empty language is none, and no value
-- clears a field.
def Payload.gives? (part : ContactPart) : Payload → Option (Option String)
  | contactNameChanged name => if part = .name then some (some name) else none
  | contactLanguageChanged language =>
    if part = .language then some (if language = "" then none else some language) else none
  | contactFieldChanged field value => if part = .field field.key then some value else none
  | _ => none

def eventsOf (contact : ContactId) (entries : List SessionEvents) : List Event :=
  (entries.filter (·.session.contactId = contact)).flatMap (·.events)

def HookId.update? : HookId → Option WriteKind
  | commitNameChanges => some .updateNames
  | commitLanguageChanges => some .updateLanguages
  | commitFieldChanges => some .updateFields
  | _ => none

namespace BulkWrite

def Carries (contact : ContactId) (part : ContactPart) (value : Option String) :
    BulkWrite → Prop
  | updateNames rows => part = .name ∧ ∃ name, (contact, name) ∈ rows ∧ value = some name
  | updateLanguages rows => part = .language ∧ (contact, value) ∈ rows
  | updateFields rows => ∃ key changes, part = .field key ∧ (contact, changes) ∈ rows ∧
      changes[key]? = some value
  | _ => False

-- One row for each contact that has events, with what the last of them says. No store refuses it.
structure SumsUp (entries : List SessionEvents) (bulk : BulkWrite) : Prop where
  ordered : bulk.named.Pairwise (·.toInt < ·.toInt)
  covers : ∀ contact, contact ∈ bulk.named ↔
    ∃ entry ∈ entries, entry.session.contactId = contact ∧ entry.events ≠ []
  carries : ∀ contact part value, bulk.Carries contact part value ↔
    ((eventsOf contact entries).filterMap (·.payload.gives? part)).getLast? = some value
  accepted : ∀ store : Store, ∃ count, (store.write bulk).1 = .ok count

end BulkWrite

def Work.WritesOnce (bulk : BulkWrite) (work : Work Unit EffectError Unit) : Prop :=
  ∃ line : Nat → String, work = do
    let affected ← Work.write bulk
    Work.note .debug (line affected)

theorem Work.taking_ok {α β : Type} {result : Except EffectError α} {a : α}
    {next : α → Work Unit EffectError β} (taken : result = .ok a) :
    (Work.ofExcept result >>= next) = next a := by
  rw [taken]
  rfl

theorem toInt_lt_of_compare {kind : IdKind} {a b : Id kind} (before : compare a b = .lt) :
    a.toInt < b.toInt := by
  have values : compare a.val b.val = .lt := before
  exact Int64.lt_iff_toInt_lt.1 (Std.compare_eq_lt.1 values)

theorem eventsOf_ne_nil {contact : ContactId} {entries : List SessionEvents} :
    eventsOf contact entries ≠ [] ↔
      ∃ entry ∈ entries, entry.session.contactId = contact ∧ entry.events ≠ [] := by
  simp [eventsOf, List.flatMap_eq_nil_iff]

theorem HookId.Fits.own {id : HookId} {entries : List SessionEvents}
    (fits : id.Fits entries) (contact : ContactId) :
    ∀ event ∈ eventsOf contact entries, event.type = id.eventType := by
  intro event member
  obtain ⟨entry, listed, within⟩ := List.mem_flatMap.1 member
  exact fits entry (List.mem_filter.1 listed).1 event within

namespace Effect

variable {α : Type} {entries : List SessionEvents}

theorem byContact_taken (pick : Payload → Option α) (entries : List SessionEvents)
    (contact : ContactId) :
    ((byContact (taken pick entries)).filter (·.1 = contact)).map Prod.snd =
      (eventsOf contact entries).filterMap (pick ·.payload) := by
  induction entries with
  | nil => rfl
  | cons entry rest ih =>
    have split : byContact (taken pick (entry :: rest)) =
        (entry.events.filterMap (pick ·.payload)).map (entry.session.contactId, ·) ++
          byContact (taken pick rest) := rfl
    rw [split, List.filter_append, List.map_append, ih, List.filter_map, List.map_map]
    by_cases same : entry.session.contactId = contact
    · simp [eventsOf, Function.comp_def, same]
    · simp [eventsOf, Function.comp_def, same]

theorem getElem?_latest (pick : Payload → Option α) (entries : List SessionEvents)
    (contact : ContactId) :
    (latest (taken pick entries))[contact]? =
      ((eventsOf contact entries).filterMap (pick ·.payload)).getLast? := by
  rw [latest_eq, getElem?_inserts, byContact_taken]
  simp

def Fields.changed (known : Option FieldChanges) (change : FieldRef × Option String) :
    FieldChanges :=
  (known.getD {}).insert change.1.key change.2

theorem getElem?_merged (entries : List SessionEvents) (contact : ContactId) :
    (Fields.merged (taken Fields.change? entries))[contact]? =
      ((eventsOf contact entries).filterMap (Fields.change? ·.payload)).foldl
        (fun known change => some (Fields.changed known change)) none := by
  have seen : ∀ (contacts : Std.ExtTreeMap ContactId FieldChanges)
      (row : ContactId × FieldRef × Option String),
      (contacts.alter row.1 fun known => some (Fields.changed known row.2))[contact]? =
        if decide (row.1 = contact) then some (Fields.changed contacts[contact]? row.2)
        else contacts[contact]? := by
    intro contacts row
    by_cases same : row.1 = contact <;> simp [Std.ExtTreeMap.getElem?_alter, same]
  rw [merged_eq, ← byContact_taken, List.foldl_map]
  exact foldl_view (fun contacts : Std.ExtTreeMap ContactId FieldChanges => contacts[contact]?)
    (fun known (row : ContactId × FieldRef × Option String) => some (Fields.changed known row.2))
    seen _ {}

theorem foldl_changed (changes : List (FieldRef × Option String)) (known : Option FieldChanges)
    (key : String) :
    (changes.foldl (fun known change => some (Fields.changed known change)) known).bind (·[key]?) =
      (changes.filterMap fun change =>
        if key = change.1.key then some change.2 else none).getLast?.or (known.bind (·[key]?)) := by
  induction changes generalizing known with
  | nil => simp
  | cons change rest ih =>
    rw [List.foldl_cons, ih, List.filterMap_cons]
    unfold Fields.changed
    by_cases same : key = change.1.key
    · simp [same, List.getLast?_cons]
    · have other : ¬ change.1.key = key := fun equal => same equal.symm
      cases known <;> simp [Std.ExtTreeMap.getElem?_insert, same, other]

theorem isSome_changed (changes : List (FieldRef × Option String)) (known : Option FieldChanges) :
    (changes.foldl (fun known change => some (Fields.changed known change)) known).isSome =
      (known.isSome || !changes.isEmpty) := by
  induction changes generalizing known with
  | nil => simp
  | cons change rest ih => simp [ih]

theorem ordered_rows (rows : Std.ExtTreeMap ContactId α) :
    (rows.toList.map Prod.fst).Pairwise (·.toInt < ·.toInt) := by
  rw [Std.ExtTreeMap.map_fst_toList_eq_keys]
  exact Std.ExtTreeMap.ordered_keys.imp toInt_lt_of_compare

theorem mem_rows_iff {rows : Std.ExtTreeMap ContactId α} {contact : ContactId} :
    contact ∈ rows.toList.map Prod.fst ↔ rows[contact]?.isSome = true := by
  rw [Std.ExtTreeMap.map_fst_toList_eq_keys, Std.ExtTreeMap.mem_keys,
    Std.ExtTreeMap.mem_iff_isSome_getElem?]

variable {id : HookId} {pick : Payload → Option α}

theorem taken_filled (fits : id.Fits entries) (picks : Picks id.eventType pick)
    {contact : ContactId} :
    (eventsOf contact entries).filterMap (pick ·.payload) ≠ [] ↔
      ∃ entry ∈ entries, entry.session.contactId = contact ∧ entry.events ≠ [] := by
  rw [← eventsOf_ne_nil, ne_eq, List.filterMap_eq_nil_iff]
  refine not_congr ?_
  have typed := picks.typed (fits.own contact)
  constructor
  · intro none
    refine List.eq_nil_iff_forall_not_mem.2 fun event member => ?_
    have taken := typed event member
    rw [none event member] at taken
    cases taken
  · intro empty event member
    rw [empty] at member
    cases member

theorem latest_filled (fits : id.Fits entries) (picks : Picks id.eventType pick)
    {contact : ContactId} :
    (latest (taken pick entries))[contact]?.isSome = true ↔
      ∃ entry ∈ entries, entry.session.contactId = contact ∧ entry.events ≠ [] := by
  rw [getElem?_latest, List.getLast?_isSome]
  exact taken_filled fits picks

theorem filterMap_gives {part : ContactPart} {make : α → Option (Option String)}
    (fits : id.Fits entries)
    (makes : ∀ payload : Payload, payload.type = id.eventType →
      payload.gives? part = (pick payload).bind make) (contact : ContactId) :
    (eventsOf contact entries).filterMap (·.payload.gives? part) =
      ((eventsOf contact entries).filterMap (pick ·.payload)).filterMap make := by
  rw [List.filterMap_filterMap]
  exact List.filterMap_congr fun event member =>
    makes event.payload (fits.own contact event member)

theorem getLast?_part {taken : List α} {part own : ContactPart} {make : α → Option String}
    {value : Option String} :
    (taken.filterMap fun a => if part = own then some (make a) else none).getLast? = some value ↔
      part = own ∧ taken.getLast?.map make = some value := by
  by_cases same : part = own
  · simp only [same, if_true, true_and, List.filterMap_eq_map', List.getLast?_map]
  · rw [List.filterMap_eq_nil_iff.2 fun _ _ => if_neg same]
    simp [same]

theorem updateContacts_rows (set : α → Contact → Contact) (rows : Std.ExtTreeMap ContactId α)
    (store : Store) : ∃ count, (Store.updateContacts set rows.toList store).1 = .ok count := by
  obtain ⟨count, done⟩ := Store.updateContacts_table set rows store
  exact ⟨count, congrArg Prod.fst done⟩

theorem Names.sumsUp (fits : HookId.commitNameChanges.Fits entries) :
    (BulkWrite.updateNames (latest (taken name? entries)).toList).SumsUp entries where
  ordered := ordered_rows _
  covers _ := mem_rows_iff.trans (latest_filled fits Names.picks)
  carries contact part value := by
    have makes : ∀ payload : Payload, payload.type = .contactNameChanged →
        payload.gives? part =
          (name? payload).bind fun name => if part = .name then some (some name) else none := by
      intro payload type
      cases payload <;> cases type
      rfl
    rw [filterMap_gives fits makes, getLast?_part, Option.map_eq_some_iff]
    unfold BulkWrite.Carries
    simp only [Std.ExtTreeMap.mem_toList_iff_getElem?_eq_some, getElem?_latest, eq_comm]
  accepted := updateContacts_rows Contact.setName _

theorem Languages.sumsUp (fits : HookId.commitLanguageChanges.Fits entries) :
    (BulkWrite.updateLanguages
      ((latest (taken language? entries)).map fun _ => stored).toList).SumsUp entries where
  ordered := ordered_rows _
  covers contact := by
    refine mem_rows_iff.trans ?_
    rw [Std.ExtTreeMap.getElem?_map, Option.isSome_map]
    exact latest_filled fits Languages.picks
  carries contact part value := by
    have makes : ∀ payload : Payload, payload.type = .contactLanguageChanged →
        payload.gives? part = (language? payload).bind fun language =>
          if part = .language then some (stored language) else none := by
      intro payload type
      cases payload <;> cases type
      simp [Payload.gives?, language?, stored]
    rw [filterMap_gives fits makes, getLast?_part]
    unfold BulkWrite.Carries
    simp only [Std.ExtTreeMap.mem_toList_iff_getElem?_eq_some, Std.ExtTreeMap.getElem?_map,
      getElem?_latest]
  accepted := updateContacts_rows Contact.setLanguage _

theorem Fields.sumsUp (fits : HookId.commitFieldChanges.Fits entries) :
    (BulkWrite.updateFields (merged (taken change? entries)).toList).SumsUp entries where
  ordered := ordered_rows _
  covers contact := by
    refine mem_rows_iff.trans ?_
    rw [getElem?_merged, isSome_changed, ← taken_filled fits Fields.picks]
    simp only [Option.isSome_none, Bool.false_or, Bool.not_eq_true', List.isEmpty_eq_false_iff]
  carries contact part value := by
    have makes : ∀ payload : Payload, payload.type = .contactFieldChanged →
        payload.gives? part = (change? payload).bind fun change =>
          if part = .field change.1.key then some change.2 else none := by
      intro payload type
      cases payload <;> cases type
      rfl
    rw [filterMap_gives fits makes]
    unfold BulkWrite.Carries
    simp only [Std.ExtTreeMap.mem_toList_iff_getElem?_eq_some]
    cases part with
    | field key =>
      have last := foldl_changed ((eventsOf contact entries).filterMap (change? ·.payload)) none key
      rw [← getElem?_merged, Option.bind_none, Option.or_none] at last
      simp only [ContactPart.field.injEq]
      rw [← last, Option.bind_eq_some_iff]
      simp
    | name | language =>
      rw [List.filterMap_eq_nil_iff.2 fun _ _ => if_neg nofun]
      simp
  accepted := updateContacts_rows Contact.setFields _

theorem named_eq_nil {bulk : BulkWrite} (sums : bulk.SumsUp entries) :
    bulk.named = [] ↔ ∀ entry ∈ entries, entry.events = [] := by
  rw [List.eq_nil_iff_forall_not_mem]
  simp only [sums.covers, not_exists, not_and, not_not]
  exact ⟨fun none entry listed => none _ entry listed rfl,
    fun none _ entry listed _ => none entry listed⟩

theorem writeRows_update {β : Type} {rows : List (ContactId × β)}
    {write : List (ContactId × β) → BulkWrite} (line : Nat → Nat → String)
    (sums : (write rows).SumsUp entries) (named : (write rows).named = rows.map Prod.fst) :
    (∀ entry ∈ entries, entry.events = []) ∧ writeRows rows write line = pure () ∨
      (∃ entry ∈ entries, entry.events ≠ []) ∧ ∃ bulk, bulk.kind = (write rows).kind ∧
        bulk.SumsUp entries ∧ (writeRows rows write line).WritesOnce bulk := by
  have empty : rows = [] ↔ ∀ entry ∈ entries, entry.events = [] := by
    rw [← named_eq_nil sums, named, List.map_eq_nil_iff]
  unfold writeRows
  cases rows with
  | nil => exact .inl ⟨empty.1 rfl, rfl⟩
  | cons row rest =>
    have filled := mt empty.2 (List.cons_ne_nil row rest)
    exact .inr ⟨by simpa using filled, write (row :: rest), rfl, sums, line _, rfl⟩

end Effect

namespace Registry

open Effect

variable {id : HookId} {kind : WriteKind} {entries : List SessionEvents}

theorem standardHook_update (update : id.update? = some kind) (fits : id.Fits entries)
    (assets : Assets) :
    (∀ entry ∈ entries, entry.events = []) ∧ standardHook id assets entries = pure () ∨
      (∃ entry ∈ entries, entry.events ≠ []) ∧ ∃ bulk, bulk.kind = kind ∧
        bulk.SumsUp entries ∧ (standardHook id assets entries).WritesOnce bulk := by
  cases id with
  | commitNameChanges =>
    cases update
    have sums := Names.sumsUp fits
    have run : standardHook .commitNameChanges assets entries = writeRows _ _ Names.line :=
      Work.taking_ok (pickedOf_ok (fits.picks Names.picks))
    rw [run]
    exact writeRows_update Names.line sums rfl
  | commitLanguageChanges =>
    cases update
    have sums := Languages.sumsUp fits
    have run : standardHook .commitLanguageChanges assets entries = writeRows _ _ Languages.line :=
      Work.taking_ok (pickedOf_ok (fits.picks Languages.picks))
    rw [run, ← Std.ExtTreeMap.toList_map (f := fun _ => Languages.stored)]
    exact writeRows_update Languages.line sums rfl
  | commitFieldChanges =>
    cases update
    have sums := Fields.sumsUp fits
    have run : standardHook .commitFieldChanges assets entries = writeRows _ _ Fields.line :=
      Work.taking_ok (pickedOf_ok (fits.picks Fields.picks))
    rw [run]
    exact writeRows_update Fields.line sums rfl
  | commitGroupChanges | commitMessages | queueMessages => cases update

theorem update_fault {bulk : BulkWrite} {work : Work Unit EffectError Unit} {s : Scene Unit}
    {e : EffectError} (sums : bulk.SumsUp entries) (once : work.WritesOnce bulk)
    (failed : (work s).1 = .error e) :
    ∃ cause, e = .store cause ∧ s.world.faults.lookup bulk.kind = some cause := by
  obtain ⟨line, rfl⟩ := once
  rw [Work.bind_run] at failed
  unfold Work.write World.write at failed
  cases fault : s.world.faults.lookup bulk.kind with
  | some cause =>
    rw [fault] at failed
    cases failed
    exact ⟨cause, rfl, rfl⟩
  | none =>
    obtain ⟨count, accepted⟩ := sums.accepted s.world.store
    simp only [fault, accepted] at failed
    cases failed

-- A hook that updates contacts names each of them once, in one statement with what the last event
-- says, or makes none when there are no events. No store refuses the statement, so a failure is
-- either a stranger among the events or a fault of the connection.
theorem contacts_updated_once (update : id.update? = some kind) (assets : Assets)
    (entries : List SessionEvents) :
    (id.Fits entries →
      (∀ entry ∈ entries, entry.events = []) ∧ standardHook id assets entries = pure () ∨
        (∃ entry ∈ entries, entry.events ≠ []) ∧ ∃ bulk, bulk.kind = kind ∧
          bulk.SumsUp entries ∧ (standardHook id assets entries).WritesOnce bulk) ∧
      ∀ s e, (standardHook id assets entries s).1 = .error (.store e) →
        s.world.faults.lookup kind = some e := by
  refine ⟨fun fits => standardHook_update update fits assets, fun s e failed => ?_⟩
  by_cases fits : id.Fits entries
  · rcases standardHook_update update fits assets with ⟨_, nothing⟩ | ⟨_, bulk, rfl, sums, once⟩
    · rw [nothing] at failed
      cases failed
    · obtain ⟨cause, same, fault⟩ := update_fault sums once failed
      cases same
      exact fault
  · obtain ⟨event, first⟩ := Option.ne_none_iff_exists'.1 (mt HookId.fits_iff.2 fits)
    rw [standardHook_stranger first] at failed
    cases failed

end Registry

namespace Sample

def refilled : List SessionEvents :=
  [⟨turn ⟨2⟩ [], [⟨⟨9⟩, moment, .contactFieldChanged ⟨"age", "Age"⟩ (some "7")⟩]⟩,
    ⟨turn ⟨1⟩ [], [⟨⟨10⟩, moment, .contactFieldChanged ⟨"size", "Size"⟩ (some "8")⟩,
      ⟨⟨11⟩, moment, .contactFieldChanged ⟨"age", "Age"⟩ (some "9")⟩]⟩,
    ⟨turn ⟨1⟩ [], [⟨⟨12⟩, moment, .contactFieldChanged ⟨"age", "Age"⟩ none⟩]⟩]

end Sample

theorem contacts_updated_once_refilled :
    HookId.commitFieldChanges.update? = some .updateFields ∧
      HookId.commitFieldChanges.Fits Sample.refilled ∧
      (∀ s e, (Registry.standardHook .commitFieldChanges Sample.assets Sample.refilled s).1 =
          .error (.store e) → s.world.faults.lookup .updateFields = some e) ∧
      ∃ bulk, bulk.kind = .updateFields ∧ ⟨2⟩ ∈ bulk.named ∧ ⟨3⟩ ∉ bulk.named ∧
        bulk.Carries ⟨1⟩ (.field "age") none ∧ bulk.Carries ⟨1⟩ (.field "size") (some "8") ∧
        (Registry.standardHook .commitFieldChanges Sample.assets Sample.refilled).WritesOnce
          bulk := by
  have fits : HookId.commitFieldChanges.Fits Sample.refilled := by
    unfold HookId.Fits
    decide
  have update : HookId.commitFieldChanges.update? = some .updateFields := rfl
  obtain ⟨summed, faulty⟩ :=
    Registry.contacts_updated_once update Sample.assets Sample.refilled
  refine ⟨update, fits, faulty, ?_⟩
  rcases summed fits with ⟨empty, _⟩ | ⟨_, bulk, kind, sums, once⟩
  · exact absurd (empty _ List.mem_cons_self) (by decide)
  · have second := (sums.covers ⟨2⟩).2 (by decide)
    have third := mt (sums.covers ⟨3⟩).1 (by decide)
    refine ⟨bulk, kind, second, third, ?_, ?_, once⟩
    · exact (sums.carries _ _ _).2 (by decide +kernel)
    · exact (sums.carries _ _ _).2 (by decide +kernel)

end SessionBatch
