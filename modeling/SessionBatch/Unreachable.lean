import SessionBatch.Address
import SessionBatch.Service
import SessionBatch.Settings

namespace SessionBatch.Unreachable

-- What the program meets where neither database nor cache answers: a pool never
-- has a connection to give.

def timedOut : String := "timed out waiting for connection"

def database : BackendError := .transientIo ("pool error: " ++ timedOut)
def cache : BackendError := .transientIo ("redis pool error: " ++ timedOut)

def assets : AssetSource := fun _ => throw database

def push (messages : List QueuedMessage) : Except StoreError Unit :=
  if messages.isEmpty then .ok () else .error cache.toStore

def newDatabase (_ : DatabaseSettings) : BackendError :=
  .transientIo ("commit pool build: " ++ timedOut)

def newCache (url : String) : BackendError :=
  match Address.fault? url with
  | some fault =>
    .configuration ("redis url: " ++ (CacheError.reply "InvalidClientConfig" fault.text none).message)
  | none => .transientIo ("redis pool build: " ++ timedOut)

def start (env : Environment) : ServiceError :=
  match DatabaseSettings.ofEnvironment env with
  | .error e => .backend e
  | .ok settings => .backend (newDatabase settings)

end SessionBatch.Unreachable
