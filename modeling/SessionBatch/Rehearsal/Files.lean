import SessionBatch.Reading.File

namespace SessionBatch.Rehearsal
open Reading

structure Files where
  directories : List (List String)
  contents : List (List String × List UInt8)

namespace Files

def longestName : Nat := 255
def longestPath : Nat := 4095

-- Names are followed one by one. An empty name stays where it is, like a point,
-- and only a directory can be left again.
def follow (files : Files) (here : List String) : List String → FileContent
  | [] => .directory
  | name :: rest =>
    if name = "" ∨ name = "." then follow files here rest
    else if name = ".." then follow files here.dropLast rest
    else if longestName < name.utf8ByteSize then .closed .nameTooLong
    else if here ++ [name] ∈ files.directories then follow files (here ++ [name]) rest
    else
      match files.contents.lookup (here ++ [name]) with
      | none => .closed .absent
      | some content => if rest.isEmpty then .bytes content else .closed .notDirectory

-- The root is the working directory.
def read (files : Files) (path : String) : FileContent :=
  if path.isEmpty then .closed .absent
  else if longestPath < path.utf8ByteSize then .closed .nameTooLong
  else follow files [] (path.splitOn "/")

end Files
end SessionBatch.Rehearsal
