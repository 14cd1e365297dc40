import SessionBatch.Proofs.Checks
import SessionBatch.Proofs.Rule
import SessionBatch.Registry.Standard

namespace SessionBatch

-- Fields after changes: those that are not mentioned stay, and the values that are given come in.
def FieldChanges.onto (changes : FieldChanges) (fields : Std.ExtTreeMap String String) :
    Std.ExtTreeMap String String :=
  fields.filter (fun key _ => key ∉ changes) ∪ changes.filterMap fun _ value => value

theorem FieldChanges.getElem?_onto (changes : FieldChanges)
    (fields : Std.ExtTreeMap String String) (key : String) :
    (FieldChanges.onto changes fields)[key]? = changes[key]?.getD fields[key]? := by
  have kept : (fields.filter fun key _ => key ∉ changes)[key]? =
      fields[key]?.filter fun _ => key ∉ changes := by
    rw [Std.ExtTreeMap.getElem?_filter]
    simp only [Std.ExtTreeMap.getKey_eq, Option.pfilter_eq_filter]
  have given : (changes.filterMap fun _ value => value)[key]? = changes[key]?.join := by
    rw [Std.ExtTreeMap.getElem?_filterMap, Option.pbind_eq_bind]
    exact Option.bind_id_eq_join
  have mentioned := Std.ExtTreeMap.mem_iff_isSome_getElem? (t := changes) (a := key)
  unfold onto
  rw [Std.ExtTreeMap.getElem?_union, kept, given]
  cases changed : changes[key]? with
  | none => cases fields[key]? <;> simp [mentioned, changed]
  | some value => cases value <;> simp [mentioned, changed]

namespace Contact

theorem getElem?_setField (c : Contact) (key other : String) (value : Option String) :
    (c.setField key value).fields[other]? = if key = other then value else c.fields[other]? := by
  cases value <;> by_cases same : key = other <;>
    simp [setField, Std.ExtTreeMap.getElem?_insert, Std.ExtTreeMap.getElem?_erase, same]

theorem getElem?_setFields (changes : FieldChanges) (c : Contact) (key : String) :
    (c.setFields changes).fields[key]? = changes[key]?.getD c.fields[key]? := by
  have noticed : ∀ (c : Contact) (row : String × Option String),
      (setField c row.1 row.2).fields[key]? = if row.1 = key then row.2 else c.fields[key]? :=
    fun c row => getElem?_setField c row.1 key row.2
  have set := foldl_toList_view (fun c : Contact => c.fields[key]?) (fun _ value => value)
    noticed changes c
  refine set.trans ?_
  cases changes[key]? <;> rfl

theorem setField_rest (c : Contact) (key : String) (value : Option String) :
    (c.setField key value).name = c.name ∧ (c.setField key value).language = c.language := by
  cases value <;> exact ⟨rfl, rfl⟩

theorem setFields_rest (changes : FieldChanges) (c : Contact) :
    (c.setFields changes).name = c.name ∧ (c.setFields changes).language = c.language := by
  unfold setFields
  induction changes.toList generalizing c with
  | nil => exact ⟨rfl, rfl⟩
  | cons row rest ih =>
    obtain ⟨name, language⟩ := ih (c.setField row.1 row.2)
    exact ⟨name.trans (setField_rest c _ _).1, language.trans (setField_rest c _ _).2⟩

theorem eq_of_parts {c d : Contact} (name : c.name = d.name) (language : c.language = d.language)
    (fields : ∀ key : String, c.fields[key]? = d.fields[key]?) : c = d := by
  obtain ⟨_, _, _⟩ := c
  obtain ⟨_, _, _⟩ := d
  cases name
  cases language
  cases Std.ExtTreeMap.ext_getElem? fields
  rfl

theorem setFields_onto (changes : FieldChanges) (c : Contact) :
    c.setFields changes = { c with fields := FieldChanges.onto changes c.fields } := by
  obtain ⟨name, language⟩ := setFields_rest changes c
  refine eq_of_parts name language fun key => ?_
  rw [getElem?_setFields, FieldChanges.getElem?_onto]

theorem setFields_insert (changes : FieldChanges) (c : Contact) (key : String)
    (value : Option String) :
    c.setFields (changes.insert key value) = (c.setFields changes).setField key value := by
  obtain ⟨name, language⟩ := setFields_rest (changes.insert key value) c
  obtain ⟨name', language'⟩ := setFields_rest changes c
  obtain ⟨name'', language''⟩ := setField_rest (c.setFields changes) key value
  refine eq_of_parts (by rw [name, name'', name']) (by rw [language, language'', language']) ?_
  intro other
  rw [getElem?_setFields, getElem?_setField, getElem?_setFields, Std.ExtTreeMap.getElem?_insert]
  by_cases same : key = other <;> simp [same]

end Contact

namespace Effect

variable {α : Type}

def taken (pick : Payload → Option α) (entries : List SessionEvents) : List (Session × List α) :=
  entries.map fun entry => (entry.session, entry.events.filterMap (pick ·.payload))

theorem picked_ok {expected : EventType} {pick : Payload → Option α} {events : List Event}
    (typed : ∀ event ∈ events, (pick event.payload).isSome = true) :
    picked expected pick events = .ok (events.filterMap (pick ·.payload)) := by
  unfold picked
  induction events with
  | nil => rfl
  | cons event rest ih =>
    obtain ⟨a, found⟩ := Option.isSome_iff_exists.1 (typed event (by simp))
    rw [List.mapM_cons, found, ih fun other member => typed other (by simp [member]),
      List.filterMap_cons, found]
    rfl

theorem pickedOf_ok {expected : EventType} {pick : Payload → Option α}
    {entries : List SessionEvents}
    (typed : ∀ entry ∈ entries, ∀ event ∈ entry.events, (pick event.payload).isSome = true) :
    pickedOf expected pick entries = .ok (taken pick entries) := by
  refine readings_ok fun entry member => ?_
  rw [picked_ok (typed entry member)]
  rfl

def byContact (taken : List (Session × List α)) : List (ContactId × α) :=
  taken.flatMap fun (session, as) => as.map (session.contactId, ·)

theorem insert_last (values : Std.ExtTreeMap ContactId α) (contact : ContactId) (as : List α) :
    as.foldl (fun values a => values.insert contact a) values =
      match as.getLast? with
      | some a => values.insert contact a
      | none => values := by
  induction as generalizing values with
  | nil => rfl
  | cons a rest ih =>
    rw [List.foldl_cons, ih, List.getLast?_cons]
    cases rest.getLast? with
    | none => rfl
    | some b =>
      refine Std.ExtTreeMap.ext_getElem? fun other => ?_
      by_cases same : contact = other <;> simp [Std.ExtTreeMap.getElem?_insert, same]

theorem latest_eq (taken : List (Session × List α)) :
    latest taken =
      (byContact taken).foldl (fun values (contact, a) => values.insert contact a) {} := by
  unfold latest byContact
  rw [List.foldl_flatMap]
  congr 1
  funext values (session, as)
  dsimp only
  rw [List.foldl_map]
  refine Eq.trans ?_ (insert_last values session.contactId as).symm
  cases as.getLast? <;> rfl

theorem alter_each {β : Type} (merge : β → α → β) (empty : β)
    (values : Std.ExtTreeMap ContactId β) (contact : ContactId) (as : List α) :
    as.foldl (fun values a =>
        values.alter contact fun known => some (merge (known.getD empty) a)) values =
      if as.isEmpty then values
      else values.alter contact fun known => some (as.foldl merge (known.getD empty)) := by
  induction as generalizing values with
  | nil => rfl
  | cons a rest ih =>
    rw [List.foldl_cons, ih]
    refine Std.ExtTreeMap.ext_getElem? fun other => ?_
    by_cases last : rest = [] <;> by_cases same : contact = other <;>
      simp [Std.ExtTreeMap.getElem?_alter, last, same]

theorem merged_eq (taken : List (Session × List (FieldRef × Option String))) :
    Fields.merged taken =
      (byContact taken).foldl (fun contacts (contact, field, value) =>
        contacts.alter contact fun known => some ((known.getD {}).insert field.key value)) {} := by
  unfold Fields.merged byContact
  rw [List.foldl_flatMap]
  congr 1
  funext contacts (session, changes)
  dsimp only
  rw [List.foldl_map]
  exact (alter_each (fun values (change : FieldRef × Option String) =>
    values.insert change.1.key change.2) {} contacts session.contactId changes).symm

theorem swept_latest (set : α → Contact → Contact)
    (overwrites : ∀ value value' c, set value (set value' c) = set value c)
    (taken : List (Session × List α)) (contacts : Std.ExtTreeMap ContactId Contact) :
    Store.swept set (latest taken) contacts =
      (byContact taken).foldl (fun contacts (contact, a) => contacts.modify contact (set a))
        contacts := by
  rw [latest_eq]
  exact (List.foldl_hom (Store.swept set · contacts) fun rows row =>
    (Store.swept_insert overwrites rows contacts row.1 row.2).symm).symm

theorem swept_merged (taken : List (Session × List (FieldRef × Option String)))
    (contacts : Std.ExtTreeMap ContactId Contact) :
    Store.swept Contact.setFields (Fields.merged taken) contacts =
      (byContact taken).foldl (fun contacts (contact, field, value) =>
        contacts.modify contact (Contact.setField · field.key value)) contacts := by
  rw [merged_eq]
  refine (List.foldl_hom (Store.swept Contact.setFields · contacts) fun rows row => ?_).symm
  refine (Store.swept_alter (fun known => (known.getD {}).insert row.2.1.key row.2.2)
    (fun c => ?_) (fun changes c => ?_) rows contacts row.1).symm
  · exact Contact.setFields_insert {} c _ _
  · exact Contact.setFields_insert changes c _ _

end Effect
end SessionBatch
