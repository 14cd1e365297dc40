namespace SessionBatch

-- Every table has a column `id`.
structure Table where
  name : String
  columns : List String
  deriving DecidableEq

structure Join where
  left : Table
  column : String
  right : Table
  deriving DecidableEq

namespace Schema

def orgs : Table := ⟨"orgs_org", ["id", "name"]⟩

def contacts : Table :=
  ⟨"contacts_contact",
    ["id", "uuid", "org_id", "name", "language", "fields", "created_on", "modified_on"]⟩

def groups : Table := ⟨"contacts_contactgroup", ["id", "uuid", "org_id", "name", "is_active"]⟩

def memberships : Table :=
  ⟨"contacts_contactgroup_contacts", ["id", "contactgroup_id", "contact_id"]⟩

def fields : Table := ⟨"contacts_contactfield", ["id", "org_id", "key", "label", "is_active"]⟩

def labels : Table := ⟨"msgs_label", ["id", "uuid", "org_id", "name", "is_active"]⟩

def messages : Table :=
  ⟨"msgs_msg",
    ["id", "uuid", "org_id", "contact_id", "urn", "text", "direction", "status", "created_on",
      "modified_on"]⟩

def messageLabels : Table := ⟨"msgs_msg_labels", ["id", "msg_id", "label_id"]⟩

def tables : List Table :=
  [orgs, contacts, groups, memberships, fields, labels, messages, messageLabels]

def contactOrg : Join := ⟨contacts, "org_id", orgs⟩
def membershipContact : Join := ⟨memberships, "contact_id", contacts⟩
def membershipGroup : Join := ⟨memberships, "contactgroup_id", groups⟩
def messageContact : Join := ⟨messages, "contact_id", contacts⟩
def messageLabelMessage : Join := ⟨messageLabels, "msg_id", messages⟩
def messageLabelLabel : Join := ⟨messageLabels, "label_id", labels⟩

def table? (name : String) : Option Table := tables.find? (·.name = name)

end Schema

def identifier (name : String) : String := "\"" ++ name ++ "\""

def Table.column (t : Table) (name : String) : String := identifier t.name ++ "." ++ identifier name

def Table.allColumns (t : Table) : List String := t.columns.map t.column

def selection (columns : List String) (source : String) : String :=
  "SELECT " ++ ", ".intercalate columns ++ " FROM " ++ source

def Table.select (t : Table) : String := selection t.allColumns (identifier t.name)

def Join.select (j : Join) : String :=
  selection (j.left.allColumns ++ j.right.allColumns)
    ("(" ++ identifier j.left.name ++ " INNER JOIN " ++ identifier j.right.name ++ " ON (" ++
      j.left.column j.column ++ " = " ++ j.right.column "id" ++ "))")

end SessionBatch
