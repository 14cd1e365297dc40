import SessionBatch.Effect.Payloads

namespace SessionBatch.Effect.Labels

def unknownLine (session : Session) (label : LabelRef) : String :=
  "ignoring unknown label session_id=" ++ session.id.text ++ " label_uuid=" ++ label.uuid.text ++
    " label_name=" ++ label.name

def isUnknown (assets : Assets) (label : LabelRef) : Bool := (assets.label? label.uuid).isNone

def rows (assets : Assets) (input : Uuid) (labels : List LabelRef) : List MessageLabel :=
  labels.filterMap fun label => (assets.label? label.uuid).map fun asset => ⟨input, asset.id⟩

-- The labelled message was there before the session went on, so its labels are
-- written at once, inside the transaction of the batch.
def handler : Handler := fun assets event => do
  let session := (← get).subject
  match event.payload with
  | .inputLabelsAdded input labels =>
    (labels.filter (isUnknown assets)).forM fun label =>
      Work.note .warn (unknownLine session label)
    let rows := rows assets input labels
    if rows.isEmpty then return
    else
      let added ← Work.write (.addLabels rows)
      Work.note .debug <| "input labels added contact_uuid=" ++ session.contactUuid.text ++
        " session_id=" ++ session.id.text ++ " input_uuid=" ++ input.text ++ " rows=" ++
        toString added
  | _ => throw (.unexpectedPayload .inputLabelsAdded event.type)

end SessionBatch.Effect.Labels
