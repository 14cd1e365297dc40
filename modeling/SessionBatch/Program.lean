import SessionBatch.CommandLine
import SessionBatch.Cancellation
import SessionBatch.Reading.File
import SessionBatch.Unreachable

namespace SessionBatch.Program
open CommandLine

structure Answer where
  status : Nat
  out : List String := []
  err : List String := []
  deriving DecidableEq

def version : String := "flow-cli 0.1.0"
def about : String := "Commit batches of flow session events"
def aboutHelp : String := "Print this message or the help of the given subcommand(s)"

def aboutCommand : Command → String
  | .migrate => "Run pending database migrations"
  | .process => "Dispatch and commit a batch of sessions read from a JSON file"

def aboutSetting : Setting → String
  | .org => "Org every session in the batch belongs to"
  | .batch => "JSON array of sessions with their events"
  | .timeoutSecs => "Cancel the batch if it has not committed after this many seconds"

def settingUsage : Setting → String
  | .org => "--org <ORG>"
  | .batch => "--batch <BATCH>"
  | .timeoutSecs => "--timeout-secs <TIMEOUT_SECS>"

def row (width : Nat) (name about : String) : String :=
  name ++ String.ofList (List.replicate (width - name.length) ' ') ++ about

def helpText : Topic → List String
  | .program =>
    [about, "", "Usage: flow-cli <COMMAND>", "", "Commands:",
      row 11 "  migrate" (aboutCommand .migrate), row 11 "  process" (aboutCommand .process),
      row 11 "  help" aboutHelp, "", "Options:",
      row 17 "  -h, --help" "Print help", row 17 "  -V, --version" "Print version"]
  | .help =>
    [aboutHelp, "", "Usage: flow-cli help [COMMAND]...", "", "Arguments:",
      row 16 "  [COMMAND]..." "Print help for the subcommand(s)"]
  | .command .migrate =>
    [aboutCommand .migrate, "", "Usage: flow-cli migrate", "", "Options:",
      row 14 "  -h, --help" "Print help"]
  | .command .process =>
    [aboutCommand .process, "", "Usage: flow-cli process [OPTIONS] --org <ORG> --batch <BATCH>", "",
      "Options:"] ++
      Setting.all.map (fun s => row 37 ("      " ++ settingUsage s) (aboutSetting s)) ++
      [row 37 "  -h, --help" "Print help"]

def misuseText : Misuse → List String
  | .noCommand => helpText .program
  | .unknownCommand name => ["error: unrecognized subcommand '" ++ name ++ "'"]
  | .unexpected arg => ["error: unexpected argument '" ++ arg ++ "' found"]
  | .noValue s =>
    ["error: a value is required for '" ++ settingUsage s ++ "' but none was supplied"]
  | .needlessValue option value =>
    ["error: unexpected value '" ++ value ++ "' for '--" ++ option ++
      "' found; no more were expected"]
  | .repeated s => ["error: the argument '" ++ settingUsage s ++ "' cannot be used multiple times"]
  | .badValue s value => ["error: invalid value '" ++ value ++ "' for '" ++ settingUsage s ++ "'"]
  | .missing settings =>
    "error: the following required arguments were not provided:" ::
      settings.map fun s => "  " ++ settingUsage s

def notice : Notice → Answer
  | .help topic => { status := 0, out := helpText topic }
  | .version => { status := 0, out := [version] }
  | .misuse m => { status := 2, err := misuseText m }

def failure (e : ServiceError) : Answer :=
  { status := 1, err := ("error: " ++ e.message) :: e.causes.map ("  caused by: " ++ ·) }

def overflow : Answer := { status := 101, err := ["overflow when adding duration to instant"] }

def checkOrg (org : OrgId) (sessions : List Session) : Except ServiceError Unit :=
  match sessions.find? (·.orgId ≠ org) with
  | some other => .error (.batch (.mixedOrgs org other.orgId))
  | none => .ok ()

def context? (now : Nat) : Option Nat → Option Context
  | none => some {}
  | some secs => Context.withTimeout? now (secs * Clock.perSecond)

-- The batch is read and checked before anything else is looked at.
def process (env : Environment) (now : Nat) (org : OrgId) (file : Reading.FileContent)
    (timeoutSecs : Option Nat) : Answer :=
  match (Reading.sessionsOfFile file).bind (checkOrg org) with
  | .error e => failure e
  | .ok () =>
    match context? now timeoutSecs with
    | none => overflow
    | some _ => failure (Unreachable.start env)

def path? : Parsed Request → Option String
  | .ok (.process _ batch _) => some batch
  | _ => none

def run (env : Environment) (now : Nat) (file : Reading.FileContent) : Parsed Request → Answer
  | .error n => notice n
  | .ok .migrate => failure (Unreachable.start env)
  | .ok (.process org _ timeoutSecs) => process env now org file timeoutSecs

end SessionBatch.Program
