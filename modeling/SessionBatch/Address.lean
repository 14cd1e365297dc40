import SessionBatch.Address.Host

namespace SessionBatch

inductive AddressFault where
  | unparsed
  | noHost
  | noEncryption
  | noPath
  | badDatabase
  | badUserName
  | badPassword
  deriving DecidableEq

def AddressFault.text : AddressFault → String
  | unparsed => "Redis URL did not parse"
  | noHost => "Missing hostname"
  | noEncryption => "can't connect with TLS, the feature is not enabled"
  | noPath => "Missing path"
  | badDatabase => "Invalid database number"
  | badUserName => "Username is not valid UTF-8 string"
  | badPassword => "Password is not valid UTF-8 string"

structure Address where
  user : List Char
  password : List Char
  host : List Char
  path : List Char
  query : List Char

namespace Address

inductive Scheme where
  | network
  | encrypted
  | socket
  deriving DecidableEq

def Scheme.ofName? (name : String) : Option Scheme :=
  if name = "redis" then some network
  else if name = "rediss" then some encrypted
  else if name = "redis+unix" ∨ name = "unix" then some socket
  else none

-- Blanks and control characters around an address do not count, nor do tabs and
-- line ends within it.
def cleaned (s : String) : List Char :=
  let isOuter (c : Char) : Bool := c.toNat ≤ 0x20
  let inner := ((s.toList.dropWhile isOuter).reverse.dropWhile isOuter).reverse
  inner.filter fun c => c ≠ '\t' && c ≠ '\n' && c ≠ '\r'

def scheme? (cs : List Char) : Option (Scheme × List Char) :=
  match cs.dropWhile (· ≠ ':') with
  | [] => none
  | _ :: rest =>
    (Scheme.ofName? (String.ofList ((cs.takeWhile (· ≠ ':')).map Char.toLower))).map (·, rest)

def endsAuthority (c : Char) : Bool := c = '/' || c = '?' || c = '#'

def splitUser (authority : List Char) : Option (List Char) × List Char :=
  let place := (authority.reverse.takeWhile (· ≠ '@')).reverse
  if place.length = authority.length then (none, place)
  else (some (authority.take (authority.length - place.length - 1)), place)

-- Whether a host may be left out: without a port, and behind no user. An empty
-- user counts as none, and so does a lone colon.
def mayLackHost (user : Option (List Char)) (port later : List Char) : Bool :=
  port.isEmpty && match user with
    | none => true
    | some [] => later.isEmpty
    | some user => user = [':']

def withPath (user host : List Char) (later : List Char) : Address :=
  let path := later.takeWhile fun c => c ≠ '?' && c ≠ '#'
  { user := user.takeWhile (· ≠ ':'), password := (user.dropWhile (· ≠ ':')).drop 1, host, path
    query := match later.drop path.length with
      | '?' :: query => query.takeWhile (· ≠ '#')
      | _ => [] }

def ofChars? : List Char → Option Address
  | '/' :: '/' :: cs =>
    let authority := cs.takeWhile fun c => !endsAuthority c
    let later := cs.drop authority.length
    let (user, place) := splitUser authority
    let host := place.take (hostLength false place)
    let port := place.drop host.length
    if isHost host && isPort (port.drop 1) && (!host.isEmpty || mayLackHost user port later) then
      some (withPath (user.getD []) host (port.dropWhile (· ≠ '\\') ++ later))
    else none
  | cs => some (withPath [] [] cs)

def percentDecoded : List UInt8 → List UInt8
  | 37 :: a :: b :: rest =>
    match Text.hexDigit? (Char.ofNat a.toNat), Text.hexDigit? (Char.ofNat b.toNat) with
    | some high, some low => (16 * high + low).toUInt8 :: percentDecoded rest
    | _, _ => 37 :: percentDecoded (a :: b :: rest)
  | a :: rest => a :: percentDecoded rest
  | [] => []

def decodedBytes (cs : List Char) : List UInt8 :=
  percentDecoded (String.ofList cs).toUTF8.toList

def isText (bytes : List UInt8) : Bool := (ByteArray.mk bytes.toArray).validateUTF8

-- The names of a path, in which points lead nowhere and two points lead back.
def settled (path : List Char) : List (List Char) :=
  let point (s : List Char) : List Char :=
    ((String.ofList (s.map Char.toLower)).replace "%2e" ".").toList
  (path.splitOn '/').foldl (fun names name =>
    if point name = ['.', '.'] then names.dropLast
    else if point name = ['.'] then names
    else names ++ [name]) []

def isDatabase (cs : List Char) : Bool :=
  (Text.signedChars? cs).any fun n => -Int.pow 2 63 ≤ n && n < Int.pow 2 63

def namesDatabase (path : List Char) : Bool :=
  let isSlash (c : Char) : Bool := c = '/'
  let names := ['/'].intercalate (settled path)
  let name := ((names.dropWhile isSlash).reverse.dropWhile isSlash).reverse
  name.isEmpty || isDatabase name

-- The last value of a key in a query, where a plus sign stands for a blank.
def queryValue? (key : String) (query : List Char) : Option (List UInt8) :=
  let pairs := (query.splitOn '&').map fun pair =>
    let plain := pair.map fun c => if c = '+' then ' ' else c
    (decodedBytes (plain.takeWhile (· ≠ '=')), decodedBytes ((plain.dropWhile (· ≠ '=')).drop 1))
  pairs.reverse.lookup key.toUTF8.toList

def partFault? (a : Address) : Scheme → Option AddressFault
  | .network =>
    if a.host.isEmpty then some .noHost
    else if !namesDatabase a.path then some .badDatabase
    else if !isText (decodedBytes a.user) then some .badUserName
    else if !isText (decodedBytes a.password) then some .badPassword
    else none
  | .encrypted => some (if a.host.isEmpty then .noHost else .noEncryption)
  | .socket =>
    if a.path.head? ≠ some '/' ∨ (!a.host.isEmpty ∧ a.host ≠ "localhost".toList) then some .noPath
    else if (queryValue? "db" a.query).all fun value =>
        isDatabase (value.map fun b => Char.ofNat b.toNat) then none
    else some .badDatabase

def fault? (s : String) : Option AddressFault :=
  match scheme? (cleaned s) with
  | none => some .unparsed
  | some (scheme, rest) =>
    match ofChars? rest with
    | none => some .unparsed
    | some address => address.partFault? scheme

end Address
end SessionBatch
