import SessionBatch.Proofs.Commitment
import SessionBatch.Proofs.Hooks

namespace SessionBatch

def stranger? (type : EventType) (entries : List SessionEvents) : Option Event :=
  (entries.flatMap (·.events)).find? (·.type ≠ type)

theorem HookId.fits_iff {id : HookId} {entries : List SessionEvents} :
    id.Fits entries ↔ stranger? id.eventType entries = none := by
  unfold stranger?
  rw [List.find?_eq_none, List.forall_mem_flatMap]
  simp [Fits]

namespace Effect

variable {α : Type} {expected : EventType} {pick : Payload → Option α}
  {entries : List SessionEvents}

theorem Picks.eq_none (picks : Picks expected pick) {event : Event}
    (other : event.type ≠ expected) :
    pick event.payload = none := by
  rw [← Option.not_isSome_iff_eq_none]
  exact fun taken => other ((picks event.payload).1 taken)

theorem Picks.typed (picks : Picks expected pick) {events : List Event}
    (own : ∀ event ∈ events, event.type = expected) :
    ∀ event ∈ events, (pick event.payload).isSome = true :=
  fun event member => (picks event.payload).2 (own event member)

theorem picked_stranger (picks : Picks expected pick) {events : List Event} {event : Event}
    (first : events.find? (·.type ≠ expected) = some event) :
    picked expected pick events = .error (.unexpectedPayload expected event.type) := by
  unfold picked
  induction events with
  | nil => cases first
  | cons earlier rest ih =>
    rw [List.mapM_cons]
    by_cases own : earlier.type = expected
    · rw [List.find?_cons_of_neg (by simpa using own)] at first
      obtain ⟨a, taken⟩ := Option.isSome_iff_exists.1 ((picks earlier.payload).2 own)
      rw [taken, ih first]
      rfl
    · rw [List.find?_cons_of_pos (by simpa using own)] at first
      cases first
      rw [picks.eq_none own]
      rfl

theorem pickedOf_stranger (picks : Picks expected pick) {event : Event}
    (first : stranger? expected entries = some event) :
    pickedOf expected pick entries = .error (.unexpectedPayload expected event.type) := by
  unfold stranger? at first
  unfold pickedOf
  induction entries with
  | nil => cases first
  | cons entry rest ih =>
    rw [List.flatMap_cons, List.find?_append] at first
    rw [List.mapM_cons]
    cases found : entry.events.find? (·.type ≠ expected) with
    | some stranger =>
      rw [found] at first
      cases first
      rw [picked_stranger picks found]
      rfl
    | none =>
      rw [found, Option.none_or] at first
      have own : ∀ event ∈ entry.events, event.type = expected := by
        simpa using List.find?_eq_none.1 found
      rw [picked_ok (picks.typed own), ih first]
      rfl

theorem taking_stranger {next : List (Session × List α) → Work Unit EffectError Unit}
    (picks : Picks expected pick) {event : Event} (first : stranger? expected entries = some event)
    (s : Scene Unit) :
    (Work.ofExcept (pickedOf expected pick entries) >>= next) s =
      (.error (.unexpectedPayload expected event.type), s) := by
  rw [pickedOf_stranger picks first]
  rfl

end Effect

namespace Registry

open Effect

theorem standardHook_stranger {id : HookId} {entries : List SessionEvents} {event : Event}
    (first : stranger? id.eventType entries = some event) (assets : Assets) (s : Scene Unit) :
    standardHook id assets entries s =
      (.error (.unexpectedPayload id.eventType event.type), s) := by
  cases id with
  | commitNameChanges => exact taking_stranger Names.picks first s
  | commitLanguageChanges => exact taking_stranger Languages.picks first s
  | commitFieldChanges => exact taking_stranger Fields.picks first s
  | commitGroupChanges => exact taking_stranger Groups.picks first s
  | commitMessages => exact taking_stranger Messages.picks first s
  | queueMessages => exact taking_stranger Messages.picks first s

-- A misrouted event stops a hook where it started. The first event of another type is named, and
-- nothing has changed, even where every call to the store or the cache would have failed: none was
-- made.
theorem misrouted_stops {id : HookId} {entries : List SessionEvents}
    (misrouted : ∃ entry ∈ entries, ∃ event ∈ entry.events, event.type ≠ id.eventType) :
    ∃ before event after, entries.flatMap (·.events) = before ++ event :: after ∧
      (∀ earlier ∈ before, earlier.type = id.eventType) ∧ event.type ≠ id.eventType ∧
      ∀ assets s, standardHook id assets entries s =
        (.error (.unexpectedPayload id.eventType event.type), s) := by
  cases first : stranger? id.eventType entries with
  | none =>
    obtain ⟨entry, listed, event, within, other⟩ := misrouted
    exact absurd (HookId.fits_iff.2 first entry listed event within) other
  | some event =>
    obtain ⟨other, before, after, split, passed⟩ := List.find?_eq_some_iff_append.1 first
    exact ⟨before, event, after, split, by simpa using passed, by simpa using other,
      standardHook_stranger first⟩

end Registry

namespace Sample

def strayed : List SessionEvents :=
  [⟨turn ⟨1⟩ [], [⟨⟨9⟩, moment, .contactNameChanged "Ann"⟩]⟩,
    ⟨turn ⟨1⟩ [], [⟨⟨10⟩, moment, .contactNameChanged "Bea"⟩,
      ⟨⟨11⟩, moment, .msgCreated ⟨⟨21⟩, none, "first"⟩⟩, ⟨⟨12⟩, moment, .error "late"⟩]⟩]

end Sample

theorem misrouted_stops_strayed :
    (∃ entry ∈ Sample.strayed, ∃ event ∈ entry.events,
        event.type ≠ HookId.commitNameChanges.eventType) ∧
      ∀ assets s, Registry.standardHook .commitNameChanges assets Sample.strayed s =
        (.error (.unexpectedPayload .contactNameChanged .msgCreated), s) := by
  have misrouted : ∃ entry ∈ Sample.strayed, ∃ event ∈ entry.events,
      event.type ≠ HookId.commitNameChanges.eventType := by decide
  obtain ⟨before, event, after, split, passed, other, stops⟩ := Registry.misrouted_stops misrouted
  have first : stranger? HookId.commitNameChanges.eventType Sample.strayed = some event :=
    List.find?_eq_some_iff_append.2
      ⟨by simpa using other, before, after, split, by simpa using passed⟩
  cases first
  exact ⟨misrouted, stops⟩

end SessionBatch
