import SessionBatch.Registry

namespace SessionBatch.Effect

variable {α β : Type}

-- The first event of another type is refused.
def picked (expected : EventType) (pick : Payload → Option α) (events : List Event) :
    Except EffectError (List α) :=
  events.mapM fun event =>
    match pick event.payload with
    | some a => .ok a
    | none => .error (.unexpectedPayload expected event.type)

-- Nothing is written before all of it is taken.
def pickedOf (expected : EventType) (pick : Payload → Option α) (entries : List SessionEvents) :
    Except EffectError (List (Session × List α)) :=
  entries.mapM fun entry => (picked expected pick entry.events).map fun as => (entry.session, as)

-- For each contact the last value of its sessions in batch order.
def latest (taken : List (Session × List α)) : Std.ExtTreeMap ContactId α :=
  taken.foldl (fun values (session, as) =>
    match as.getLast? with
    | some a => values.insert session.contactId a
    | none => values) {}

def writeRows (rows : List β) (write : List β → BulkWrite) (line : Nat → Nat → String) :
    Work Unit EffectError Unit :=
  if rows.isEmpty then return
  else do
    let affected ← Work.write (write rows)
    Work.note .debug (line rows.length affected)

end SessionBatch.Effect
