import SessionBatch.Json.Number
import SessionBatch.Text.Quoted

namespace SessionBatch.Json

-- Members keep their order and may repeat a key.
inductive Value where
  | null
  | bool (value : Bool)
  | number (value : Number)
  | string (text : String)
  | array (items : List Value)
  | object (members : List (String × Value))

def Number.text : Number → String
  | .integer n => toString n
  | .float x => x.text

def Value.described : Value → String
  | .null => "null"
  | .bool true => "boolean `true`"
  | .bool false => "boolean `false`"
  | .number (.integer n) => "integer `" ++ toString n ++ "`"
  | .number (.float x) => "floating point `" ++ x.text ++ "`"
  | .string s => "string " ++ Text.quoted s
  | .array _ => "sequence"
  | .object _ => "map"

def fourHex (n : Nat) : List Char :=
  [(n / 4096 % 16).digitChar, (n / 256 % 16).digitChar, (n / 16 % 16).digitChar,
    (n % 16).digitChar]

def escaped (c : Char) : List Char :=
  match c with
  | '"' => ['\\', '"']
  | '\\' => ['\\', '\\']
  | '\x08' => ['\\', 'b']
  | '\x0c' => ['\\', 'f']
  | '\n' => ['\\', 'n']
  | '\r' => ['\\', 'r']
  | '\t' => ['\\', 't']
  | c => if c.toNat < 0x20 then '\\' :: 'u' :: fourHex c.toNat else [c]

def stringChars (s : String) : List Char := '"' :: s.toList.flatMap escaped ++ ['"']

mutual

def Value.chars : Value → List Char
  | .null => ['n', 'u', 'l', 'l']
  | .bool true => ['t', 'r', 'u', 'e']
  | .bool false => ['f', 'a', 'l', 's', 'e']
  | .number n => n.text.toList
  | .string s => stringChars s
  | .array [] => ['[', ']']
  | .array (v :: vs) => '[' :: v.chars ++ itemChars vs
  | .object [] => ['\x7b', '\x7d']
  | .object ((k, v) :: ms) => '\x7b' :: stringChars k ++ ':' :: v.chars ++ memberChars ms

def itemChars : List Value → List Char
  | [] => [']']
  | v :: vs => ',' :: v.chars ++ itemChars vs

def memberChars : List (String × Value) → List Char
  | [] => ['\x7d']
  | (k, v) :: ms => ',' :: stringChars k ++ ':' :: v.chars ++ memberChars ms

end

def Value.text (v : Value) : String := String.ofList v.chars

def inAscii (c : Char) : List Char :=
  let n := c.toNat
  if n < 0x80 then [c]
  else if n < 0x10000 then '\\' :: 'u' :: fourHex n
  else
    '\\' :: 'u' :: fourHex (0xD800 + (n - 0x10000) / 0x400) ++
      '\\' :: 'u' :: fourHex (0xDC00 + (n - 0x10000) % 0x400)

def Value.asciiText (v : Value) : String := String.ofList (v.chars.flatMap inAscii)

def Value.integer (n : Int) : Value := .number (.integer n)

def Value.ofOption (form : α → Value) : Option α → Value
  | none => .null
  | some a => form a

def Value.field? (key : String) : Value → Option Value
  | .object members => members.lookup key
  | _ => none

end SessionBatch.Json
