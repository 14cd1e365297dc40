import SessionBatch.Reading.Decode
import SessionBatch.Reading.Payload
import SessionBatch.Json.Scan
import SessionBatch.Session

namespace SessionBatch.Reading
open SessionBatch.Json

variable {α : Type}

-- At most 127 arrays and objects are open at a time. The list, a session, its
-- events and an event are four of them.
def depthInEvent : Nat := 127 - 4

structure EventDraft where
  uuid : Option Uuid := none
  createdOn : Option Calendar.Timestamp := none
  rest : Members := []

-- Members are read in the order of the text. Its own two fields are checked at
-- once, all others are decoded and kept for the payload.
def addEventMember (draft : EventDraft) (member : Quoted × Node) : Reads EventDraft := do
  let key ← text member.1
  if key = "uuid" then
    return { draft with uuid := ← fill key draft.uuid fun _ => (leaf member.2).bind readUuid }
  else if key = "created_on" then
    let createdOn ← fill key draft.createdOn fun _ => (leaf member.2).bind readTimestamp
    return { draft with createdOn }
  else
    let v ← value depthInEvent member.2
    return { draft with rest := draft.rest ++ [(key, v)] }

def readEvent : Node → Reads Event
  | .object members fault => do
    let draft ← members.foldlM addEventMember {}
    unlessFault fault
    let uuid ← present "uuid" draft.uuid
    let createdOn ← present "created_on" draft.createdOn
    return ⟨uuid, createdOn, ← readPayload draft.rest⟩
  | node => do wrong (← leaf node) (.record "Event")

def readItems (read : Node → Reads α) : Node → Reads (List α)
  | .array items fault => do
    let as ← items.mapM read
    unlessFault fault
    return as
  | node => do wrong (← leaf node) .sequence

def readEvents : Node → Reads (List Event) := readItems readEvent

structure SessionDraft where
  id : Option SessionId := none
  orgId : Option OrgId := none
  contactId : Option ContactId := none
  contactUuid : Option Uuid := none
  events : Option (List Event) := none

-- The value of an unknown key is skipped: only where it ends matters.
def addSessionMember (draft : SessionDraft) (member : Quoted × Node) : Reads SessionDraft := do
  let key ← text member.1
  let node := member.2
  if key = "id" then
    return { draft with id := ← fill key draft.id fun _ => (leaf node).bind readId }
  else if key = "org_id" then
    return { draft with orgId := ← fill key draft.orgId fun _ => (leaf node).bind readId }
  else if key = "contact_id" then
    return { draft with contactId := ← fill key draft.contactId fun _ => (leaf node).bind readId }
  else if key = "contact_uuid" then
    let contactUuid ← fill key draft.contactUuid fun _ => (leaf node).bind readUuid
    return { draft with contactUuid }
  else if key = "events" then
    return { draft with events := ← fill key draft.events fun _ => readEvents node }
  else
    match node.fault? with
    | some fault => .error (whenSkipped fault)
    | none => return draft

def SessionDraft.session (draft : SessionDraft) : Reads Session := do
  let id ← present "id" draft.id
  let orgId ← present "org_id" draft.orgId
  let contactId ← present "contact_id" draft.contactId
  let contactUuid ← present "contact_uuid" draft.contactUuid
  return { id, orgId, contactId, contactUuid, events := draft.events.getD [] }

def nextItem (count : Nat) (fault : Option Fault) (read : Node → Reads α) :
    List Node → Reads (α × List Node)
  | [] => do
    unlessFault fault
    tooShort count "Session" 5
  | item :: items => do return (← read item, items)

-- The events may be left out. Anything after them is malformed.
def readPositional (items : List Node) (fault : Option Fault) : Reads Session := do
  let (id, items) ← nextItem 0 fault (fun node => (leaf node).bind readId) items
  let (orgId, items) ← nextItem 1 fault (fun node => (leaf node).bind readId) items
  let (contactId, items) ← nextItem 2 fault (fun node => (leaf node).bind readId) items
  let (contactUuid, items) ← nextItem 3 fault (fun node => (leaf node).bind readUuid) items
  match items with
  | [] =>
    unlessFault fault
    return { id, orgId, contactId, contactUuid, events := [] }
  | item :: more =>
    let events ← readEvents item
    if more.isEmpty then
      unlessFault fault
      return { id, orgId, contactId, contactUuid, events }
    else .error .malformed

def readSession : Node → Reads Session
  | .object members fault => do
    let draft ← members.foldlM addSessionMember {}
    unlessFault fault
    draft.session
  | .array items fault => readPositional items fault
  | node => do wrong (← leaf node) (.record "Session")

def readDocument (document : Document) : Reads (List Session) := do
  let sessions ← readItems readSession document.root
  if document.trailing then .error .malformed else return sessions

def readGlyphs (text : List Glyph) : Reads (List Session) := readDocument (scan text)

def readText (text : String) : Reads (List Session) := readGlyphs (glyphs text)

-- Bytes that belong to no character do no harm where values are skipped.
def readBytes (bytes : List UInt8) : Reads (List Session) := readGlyphs (decode bytes)

end SessionBatch.Reading
