namespace SessionBatch

structure Migration where
  name : String
  inTransaction : Bool := true
  deriving DecidableEq

namespace Migration

-- What precedes the first underscore, without its hyphens.
def version (m : Migration) : String :=
  String.ofList ((m.name.toList.takeWhile (· ≠ '_')).filter (· ≠ '-'))

def all : List Migration := [{ name := "2024-05-02-120000_contacts_and_msgs" }]

end Migration
end SessionBatch
