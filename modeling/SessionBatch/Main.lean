import SessionBatch.Program

namespace SessionBatch

def settingNames : List String :=
  ["DATABASE_URL", "DATABASE_MIN_CONNECTIONS", "DATABASE_MAX_CONNECTIONS", "REDIS_URL",
    "REDIS_MAX_CONNECTIONS", "MSG_QUEUE_PREFIX"]

def environment : IO Environment := do
  let values ← settingNames.mapM fun name => return (name, ← IO.getEnv name)
  return fun name => (values.lookup name).join

def systemCode : IO.Error → UInt32
  | .noFileOrDirectory _ code _ => code
  | .permissionDenied _ code _ => code
  | .inappropriateType _ code _ => code
  | .invalidArgument _ code _ => code
  | .resourceExhausted _ code _ => code
  | .otherError code _ => code
  | _ => 0

-- What opens and does not read counts as a directory. The number of an error may
-- come with either sign.
def contentAt (path : String) : IO Reading.FileContent := do
  try
    return .bytes (← IO.FS.readBinFile path).toList
  catch e =>
    let code := (systemCode e).toInt32.toInt.natAbs
    return (Reading.OpenFailure.ofCode? code).elim .directory .closed

end SessionBatch

open SessionBatch in
def main (args : List String) : IO UInt32 := do
  let request := CommandLine.parse args
  let file ← match Program.path? request with
    | some path => contentAt path
    | none => pure (.closed .absent)
  let answer := Program.run (← environment) (← IO.monoNanosNow) file request
  answer.out.forM IO.println
  answer.err.forM IO.eprintln
  return answer.status.toUInt32
