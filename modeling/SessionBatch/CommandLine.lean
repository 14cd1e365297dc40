import SessionBatch.Identity
import SessionBatch.Text.Integer

namespace SessionBatch.CommandLine

inductive Request where
  | migrate
  | process (org : OrgId) (batch : String) (timeoutSecs : Option Nat)
  deriving DecidableEq

inductive Command where
  | migrate
  | process
  deriving DecidableEq

def Command.name : Command → String
  | migrate => "migrate"
  | process => "process"

def Command.ofName? (s : String) : Option Command :=
  if s = "migrate" then some .migrate else if s = "process" then some .process else none

inductive Topic where
  | program
  | command (c : Command)
  | help
  deriving DecidableEq

inductive Setting where
  | org
  | batch
  | timeoutSecs
  deriving DecidableEq

def Setting.name : Setting → String
  | org => "org"
  | batch => "batch"
  | timeoutSecs => "timeout-secs"

def Setting.all : List Setting := [.org, .batch, .timeoutSecs]

def Setting.ofName? (s : String) : Option Setting := all.find? (·.name = s)

inductive Misuse where
  | noCommand
  | unknownCommand (name : String)
  | unexpected (arg : String)
  | noValue (setting : Setting)
  | needlessValue (option value : String)
  | repeated (setting : Setting)
  | badValue (setting : Setting) (value : String)
  | missing (settings : List Setting)
  deriving DecidableEq

inductive Notice where
  | help (topic : Topic)
  | version
  | misuse (m : Misuse)
  deriving DecidableEq

abbrev Parsed (α : Type) := Except Notice α

def refuse {α : Type} (m : Misuse) : Parsed α := .error (.misuse m)

-- A lone hyphen is a value like any other.
inductive Shape where
  | escape
  | long (name : String) (value : Option String)
  | short (flags : List Char)
  | plain
  deriving DecidableEq

def afterEquals : List Char → Option String
  | '=' :: value => some (String.ofList value)
  | _ => none

def shape (arg : String) : Shape :=
  match arg.toList with
  | ['-', '-'] => .escape
  | '-' :: '-' :: rest =>
    .long (String.ofList (rest.takeWhile (· ≠ '='))) (afterEquals (rest.dropWhile (· ≠ '=')))
  | '-' :: c :: rest => .short (c :: rest)
  | _ => .plain

structure Draft where
  org : Option OrgId := none
  batch : Option String := none
  timeoutSecs : Option Nat := none

def unlessSet {α : Type} (setting : Setting) (old : Option α) (new : Parsed α) : Parsed α :=
  if old.isSome then refuse (.repeated setting) else new

def orRefuse {α : Type} (setting : Setting) (value : String) : Option α → Parsed α
  | some a => .ok a
  | none => refuse (.badValue setting value)

def readOrg (value : String) : Option OrgId := (Text.signed? value).bind Id.ofInt?

def readTimeout (value : String) : Option Nat := Text.unsigned? (Nat.pow 2 64) value

def readBatch (value : String) : Parsed String :=
  if value.isEmpty then refuse (.noValue .batch) else .ok value

-- A setting may be given once.
def Draft.set (d : Draft) (setting : Setting) (value : String) : Parsed Draft := do
  match setting with
  | .org => return { d with org := ← unlessSet .org d.org (orRefuse .org value (readOrg value)) }
  | .batch => return { d with batch := ← unlessSet .batch d.batch (readBatch value) }
  | .timeoutSecs =>
    let timeoutSecs ← unlessSet .timeoutSecs d.timeoutSecs
      (orRefuse .timeoutSecs value (readTimeout value))
    return { d with timeoutSecs }

def Draft.request (d : Draft) : Parsed Request :=
  match d.org, d.batch with
  | some org, some batch => .ok (.process org batch d.timeoutSecs)
  | org, batch =>
    refuse (.missing ((if org.isNone then [Setting.org] else []) ++
      (if batch.isNone then [Setting.batch] else [])))

-- Flags of one hyphen: the first decides.
def shortFlag (topic : Topic) (arg : String) (flags : List Char) : Notice :=
  if flags.head? = some 'h' then .help topic
  else if topic = .program ∧ flags.head? = some 'V' then .version
  else .misuse (.unexpected arg)

def longFlag (topic : Topic) (arg name : String) (value : Option String) : Notice :=
  if name = "help" ∨ (topic = .program ∧ name = "version") then
    match value with
    | some value => .misuse (.needlessValue name value)
    | none => if name = "help" then .help topic else .version
  else .misuse (.unexpected arg)

-- A setting without attached value takes the next argument, unless that has a
-- form of its own.
def settings (d : Draft) : List String → Parsed Draft
  | [] => .ok d
  | arg :: rest =>
    match shape arg with
    | .escape =>
      match rest with
      | [] => .ok d
      | next :: _ => refuse (.unexpected next)
    | .short flags => .error (shortFlag (.command .process) arg flags)
    | .plain => refuse (.unexpected arg)
    | .long name value =>
      match Setting.ofName? name, value with
      | none, value => .error (longFlag (.command .process) arg name value)
      | some setting, some value => (d.set setting value).bind fun d => settings d rest
      | some setting, none =>
        match rest with
        | [] => refuse (.noValue setting)
        | value :: rest =>
          match shape value with
          | .plain => (d.set setting value).bind fun d => settings d rest
          | .long other _ =>
            if other = "help" ∨ (Setting.ofName? other).isSome then refuse (.noValue setting)
            else refuse (.unexpected value)
          | .short flags =>
            if flags.head? = some 'h' then refuse (.noValue setting)
            else refuse (.unexpected value)
          | .escape => refuse (.noValue setting)

def nothingMore : List String → Parsed Unit
  | [] => .ok ()
  | arg :: rest =>
    match shape arg with
    | .escape =>
      match rest with
      | [] => .ok ()
      | next :: _ => refuse (.unexpected next)
    | .short flags => .error (shortFlag (.command .migrate) arg flags)
    | .long name value => .error (longFlag (.command .migrate) arg name value)
    | .plain => refuse (.unexpected arg)

def ofCommand : Command → List String → Parsed Request
  | .migrate, args => (nothingMore args).map fun _ => .migrate
  | .process, args => (settings {} args).bind Draft.request

def helpOn : List String → Notice
  | [] => .help .program
  | name :: more =>
    let topic :=
      if name = "help" then some Topic.help else (Command.ofName? name).map Topic.command
    match topic, more with
    | none, _ => .misuse (.unknownCommand name)
    | some topic, [] => .help topic
    | some _, next :: _ => .misuse (.unknownCommand next)

def parse : List String → Parsed Request
  | [] => refuse .noCommand
  | arg :: rest =>
    match Command.ofName? arg with
    | some command => ofCommand command rest
    | none =>
      if arg = "help" then .error (helpOn rest)
      else match shape arg with
        | .escape => match rest with
          | [] => refuse .noCommand
          | next :: _ => refuse (.unexpected next)
        | .short flags => .error (shortFlag .program arg flags)
        | .long name value => .error (longFlag .program arg name value)
        | .plain => refuse (.unknownCommand arg)

end SessionBatch.CommandLine
