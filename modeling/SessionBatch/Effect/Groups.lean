import SessionBatch.Effect.Payloads

namespace SessionBatch.Effect.Groups

structure Change where
  added : List GroupRef
  removed : List GroupRef

def change? : Payload → Option Change
  | .contactGroupsChanged added removed => some ⟨added, removed⟩
  | _ => none

def unknownLine (session : Session) (group : GroupRef) : String :=
  "ignoring unknown group contact_uuid=" ++ session.contactUuid.text ++ " session_id=" ++
    session.id.text ++ " group_uuid=" ++ group.uuid.text ++ " group_name=" ++ group.name

def isUnknown (assets : Assets) (group : GroupRef) : Bool := (assets.group? group.uuid).isNone

def handler : Handler := fun assets event => do
  let session := (← get).subject
  match change? event.payload with
  | none => throw (.unexpectedPayload .contactGroupsChanged event.type)
  | some change =>
    ((change.added ++ change.removed).filter (isUnknown assets)).forM fun group =>
      Work.note .warn (unknownLine session group)
    Work.note .debug <| "changing contact groups contact_uuid=" ++ session.contactUuid.text ++
      " session_id=" ++ session.id.text ++ " added=" ++ toString change.added.length ++
      " removed=" ++ toString change.removed.length
    modify fun s => { s with subject := s.subject.deferPre .commitGroupChanges event }

def known (assets : Assets) (groups : List GroupRef) : List GroupId :=
  groups.filterMap fun group => (assets.group? group.uuid).map GroupAsset.id

-- Additions come before removals.
def mentions (assets : Assets) (change : Change) : List (GroupId × Bool) :=
  (known assets change.added).map (·, true) ++ (known assets change.removed).map (·, false)

def settled (assets : Assets) (changes : List Change) : Std.ExtTreeMap GroupId Bool :=
  (changes.flatMap (mentions assets)).foldl (fun ends (group, member) => ends.insert group member) {}

def rows (assets : Assets) (member : Bool) (taken : List (Session × List Change)) :
    List Membership :=
  taken.flatMap fun (session, changes) =>
    ((settled assets changes).toList.filter (·.2 = member)).map fun (group, _) =>
      ⟨session.contactId, group⟩

def addedLine (requested rows : Nat) : String :=
  "commit_group_changes:added requested=" ++ toString requested ++ " rows=" ++ toString rows

def removedLine (requested rows : Nat) : String :=
  "commit_group_changes:removed requested=" ++ toString requested ++ " rows=" ++ toString rows

-- At most two statements: one for all additions, then one for all removals.
def hook : HookAction := fun assets entries => do
  let taken ← Work.ofExcept (pickedOf .contactGroupsChanged change? entries)
  writeRows (rows assets true taken) .addMemberships addedLine
  writeRows (rows assets false taken) .removeMemberships removedLine

end SessionBatch.Effect.Groups
