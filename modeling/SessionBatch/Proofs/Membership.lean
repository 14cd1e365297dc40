import SessionBatch.Proofs.Outcome

namespace SessionBatch

namespace Session

variable (assets : Assets) (sessions : List Session) (row : Membership)

def mentions : List Bool :=
  (sessions.filter (·.contactId = row.contact)).flatMap fun session =>
    session.events.flatMap (·.mentions assets row.group)

-- A membership as the last word of a batch has it, or as before where the batch has none.
def LastWord (before : Prop) : Prop :=
  match (mentions assets sessions row).getLast? with
  | some added => added = true
  | none => before

-- The last word is an addition, but a session ends with a removal.
def Overruled : Prop :=
  (mentions assets sessions row).getLast? = some true ∧
    ∃ session ∈ sessions, session.contactId = row.contact ∧
      session.lastMention assets row.group = some false

variable {assets sessions row}

theorem exists_last {added : Bool} (last : (mentions assets sessions row).getLast? = some added) :
    ∃ session ∈ sessions, session.contactId = row.contact ∧
      session.lastMention assets row.group = some added := by
  unfold mentions at last
  rw [List.getLast?_flatMap] at last
  obtain ⟨session, listed, own⟩ := List.exists_of_findSome?_eq_some last
  obtain ⟨within, contact⟩ := List.mem_filter.1 (List.mem_reverse.1 listed)
  exact ⟨session, within, of_decide_eq_true contact, own⟩

theorem silent (none : (mentions assets sessions row).getLast? = none) (member : Bool) :
    ¬ ∃ session ∈ sessions, session.contactId = row.contact ∧
      session.lastMention assets row.group = some member := by
  rintro ⟨session, within, contact, own⟩
  have listed : session ∈ sessions.filter (·.contactId = row.contact) :=
    List.mem_filter.2 ⟨within, decide_eq_true contact⟩
  have nothing : session.events.flatMap (·.mentions assets row.group) = [] :=
    List.flatMap_eq_nil_iff.1 (List.getLast?_eq_none_iff.1 none) session listed
  unfold lastMention at own
  rw [nothing] at own
  cases own

end Session

namespace Batch

variable {assets : Assets} {row : Membership}

theorem final_follows {sessions : List Session} {store : Store} :
    (row ∈ (final assets sessions store).memberships ↔
        Session.LastWord assets sessions row (row ∈ store.memberships)) ↔
      ¬ Session.Overruled assets sessions row := by
  rw [mem_final]
  unfold Session.LastWord Session.Overruled
  cases last : (Session.mentions assets sessions row).getLast? with
  | none =>
    have unmoved := Session.silent last
    simp [unmoved true, unmoved false]
  | some added =>
    -- Some session ends as the batch does. With a removal that settles it, with an addition only
    -- where no other session ends with a removal.
    have own := Session.exists_last last
    cases added with
    | true => simp [own]
    | false => simp [own]

-- A membership follows the last word just where no removal at the end of a session overrules it.
theorem membership_follows {s t : Scene (List Session)} {outcome : Outcome}
    (done : process .standard assets s = (.ok outcome, t)) :
    (row ∈ t.world.store.memberships ↔
        Session.LastWord assets s.subject row (row ∈ s.world.store.memberships)) ↔
      ¬ Session.Overruled assets s.subject row := by
  obtain ⟨_, _, made⟩ := result_ok (process_result done)
  obtain ⟨_, memberships, _⟩ :=
    Store.labelledBy_rest assets (s.subject.flatMap (·.events)) s.world.store
  rw [made, ← memberships]
  exact final_follows

end Batch

namespace Sample

def guest : Membership := ⟨⟨1⟩, ⟨5⟩⟩

def returning : List Session :=
  [turn ⟨1⟩ [.contactGroupsChanged [] [⟨⟨7⟩, "guests"⟩]],
    turn ⟨1⟩ [.contactGroupsChanged [⟨⟨7⟩, "guests"⟩] []]]

end Sample

theorem membership_follows_returning : ∃ outcome t,
    Batch.process .standard Sample.assets (Sample.scene Sample.returning) = (.ok outcome, t) ∧
      ((Sample.guest ∈ t.world.store.memberships ↔
          Session.LastWord Sample.assets Sample.returning Sample.guest
            (Sample.guest ∈ Sample.store.memberships)) ↔
        ¬ Session.Overruled Sample.assets Sample.returning Sample.guest) := by
  obtain ⟨outcome, t, done⟩ :=
    Sample.run_ok (r := Batch.process .standard Sample.assets (Sample.scene Sample.returning))
      (by decide +kernel)
  exact ⟨outcome, t, done, Batch.membership_follows done⟩

-- The last word of both turns is an addition, and the contact is left out.
theorem returning_left_out : ∃ outcome t,
    Batch.process .standard Sample.assets (Sample.scene Sample.returning) = (.ok outcome, t) ∧
      (Session.mentions Sample.assets Sample.returning Sample.guest).getLast? = some true ∧
      Sample.guest ∉ t.world.store.memberships := by
  have left : Sample.guest ∉
      (Batch.process .standard Sample.assets
        (Sample.scene Sample.returning)).2.world.store.memberships := by
    decide +kernel
  obtain ⟨outcome, t, done⟩ :=
    Sample.run_ok (r := Batch.process .standard Sample.assets (Sample.scene Sample.returning))
      (by decide +kernel)
  rw [done] at left
  exact ⟨outcome, t, done, by decide +kernel, left⟩

end SessionBatch
