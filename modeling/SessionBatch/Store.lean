import SessionBatch.Identity
import SessionBatch.Uuid
import SessionBatch.Calendar.Timestamp
import Std.Data.ExtTreeSet

namespace SessionBatch

structure Contact where
  name : Option String := none
  language : Option String := none
  fields : Std.ExtTreeMap String String := {}
  deriving DecidableEq

structure Membership where
  contact : ContactId
  group : GroupId
  deriving DecidableEq

instance : Ord Membership := ⟨compareLex (compareOn (·.contact)) (compareOn (·.group))⟩
instance : Std.TransOrd Membership :=
  inferInstanceAs (Std.TransCmp
    (compareLex (compareOn Membership.contact) (compareOn Membership.group)))
instance : Std.LawfulEqOrd Membership where
  eq_of_compare {a b} same := by
    obtain ⟨contacts, groups⟩ := compareLex_eq_eq.1 same
    cases a
    cases b
    cases (Std.LawfulEqOrd.eq_of_compare contacts : _ = _)
    cases (Std.LawfulEqOrd.eq_of_compare groups : _ = _)
    rfl

structure Message where
  uuid : Uuid
  orgId : OrgId
  contactId : ContactId
  urn : Option String
  text : String
  createdOn : Calendar.Timestamp
  deriving DecidableEq

structure MessageLabel where
  message : Uuid
  label : LabelId
  deriving DecidableEq

instance : Ord MessageLabel := ⟨compareLex (compareOn (·.message)) (compareOn (·.label))⟩
instance : Std.TransOrd MessageLabel :=
  inferInstanceAs (Std.TransCmp
    (compareLex (compareOn MessageLabel.message) (compareOn MessageLabel.label)))
instance : Std.LawfulEqOrd MessageLabel where
  eq_of_compare {a b} same := by
    obtain ⟨messages, labels⟩ := compareLex_eq_eq.1 same
    cases a
    cases b
    cases (Std.LawfulEqOrd.eq_of_compare messages : _ = _)
    cases (Std.LawfulEqOrd.eq_of_compare labels : _ = _)
    rfl

structure Store where
  contacts : Std.ExtTreeMap ContactId Contact := {}
  memberships : Std.ExtTreeSet Membership := {}
  messages : List Message := []
  labels : Std.ExtTreeSet MessageLabel := {}
  statements : Nat := 0
  deriving DecidableEq

namespace Store

def withContacts (ids : List ContactId) : Store :=
  { contacts := ids.foldl (fun contacts id => contacts.insert id {}) {} }

def hasContact (s : Store) (id : ContactId) : Bool := s.contacts.contains id
def hasMessage (s : Store) (uuid : Uuid) : Bool := s.messages.any (·.uuid = uuid)

end Store
end SessionBatch
