namespace SessionBatch

inductive Level where
  | error
  | warn
  | info
  | debug
  | trace
  deriving DecidableEq

def Level.rank : Level → Nat
  | error => 0
  | warn => 1
  | info => 2
  | debug => 3
  | trace => 4

def Level.name : Level → String
  | error => "ERROR"
  | warn => "WARN"
  | info => "INFO"
  | debug => "DEBUG"
  | trace => "TRACE"

structure LogEntry where
  level : Level
  text : String
  deriving DecidableEq

def LogEntry.line (e : LogEntry) : String := e.level.name ++ " " ++ e.text

def logLines (least : Level) (entries : List LogEntry) : List String :=
  (entries.filter fun e => e.level.rank ≤ least.rank).map LogEntry.line

end SessionBatch
