import SessionBatch.Identity
import SessionBatch.Uuid

namespace SessionBatch

structure GroupAsset where
  id : GroupId
  uuid : Uuid
  name : String
  deriving DecidableEq

structure LabelAsset where
  id : LabelId
  uuid : Uuid
  name : String
  deriving DecidableEq

structure FieldAsset where
  key : String
  name : String
  deriving DecidableEq

structure Assets where
  orgId : OrgId
  groups : Std.ExtTreeMap Uuid GroupAsset := {}
  labels : Std.ExtTreeMap Uuid LabelAsset := {}
  fields : Std.ExtTreeMap String FieldAsset := {}
  deriving DecidableEq

namespace Assets

-- Of two assets of one name the later counts.
def withGroup (assets : Assets) (group : GroupAsset) : Assets :=
  { assets with groups := assets.groups.insert group.uuid group }

def withLabel (assets : Assets) (label : LabelAsset) : Assets :=
  { assets with labels := assets.labels.insert label.uuid label }

def withField (assets : Assets) (field : FieldAsset) : Assets :=
  { assets with fields := assets.fields.insert field.key field }

def group? (assets : Assets) (uuid : Uuid) : Option GroupAsset := assets.groups[uuid]?
def label? (assets : Assets) (uuid : Uuid) : Option LabelAsset := assets.labels[uuid]?
def field? (assets : Assets) (key : String) : Option FieldAsset := assets.fields[key]?

end Assets
end SessionBatch
