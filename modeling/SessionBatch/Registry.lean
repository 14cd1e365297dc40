import SessionBatch.World

namespace SessionBatch

abbrev Handler := Assets → Event → Work Session EffectError Unit

abbrev HookAction := Assets → List SessionEvents → Work Unit EffectError Unit

structure Registry where
  handler? : EventType → Option Handler := fun _ => none
  hook? : HookId → Option HookAction := fun _ => none

namespace Registry

inductive Entry where
  | handler (type : EventType) (run : Handler)
  | hook (id : HookId) (run : HookAction)

def register (type : EventType) (run : Handler) (r : Registry) : Except BatchError Registry :=
  match r.handler? type with
  | some _ => .error (.duplicateHandler type)
  | none => .ok { r with handler? := fun t => if t = type then some run else r.handler? t }

def registerHook (id : HookId) (run : HookAction) (r : Registry) : Except BatchError Registry :=
  match r.hook? id with
  | some _ => .error (.duplicateHook id)
  | none => .ok { r with hook? := fun h => if h = id then some run else r.hook? h }

def add (entry : Entry) (r : Registry) : Except BatchError Registry :=
  match entry with
  | .handler type run => r.register type run
  | .hook id run => r.registerHook id run

-- Entries in order. The first duplicate ends it; the entries before it stay.
def addAll : List Entry → Registry → Except BatchError Unit × Registry
  | [], r => (.ok (), r)
  | entry :: rest, r =>
    match r.add entry with
    | .error e => (.error e, r)
    | .ok r => addAll rest r

def lookup (r : Registry) (type : EventType) : Except BatchError Handler :=
  match r.handler? type with
  | some run => .ok run
  | none => .error (.missingHandler type)

def lookupHook (r : Registry) (id : HookId) : Except BatchError HookAction :=
  match r.hook? id with
  | some run => .ok run
  | none => .error (.missingHook id)

def types (r : Registry) : List EventType := EventType.all.filter fun t => (r.handler? t).isSome
def hooks (r : Registry) : List HookId := HookId.all.filter fun h => (r.hook? h).isSome

def listed (names : List String) : String := "[" ++ ", ".intercalate names ++ "]"

def text (r : Registry) : String :=
  "HandlerRegistry \x7b handlers: " ++ listed (r.types.map EventType.title) ++ ", hooks: " ++
    listed (r.hooks.map HookId.title) ++ " \x7d"

end Registry
end SessionBatch
