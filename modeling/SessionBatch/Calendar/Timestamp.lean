import SessionBatch.Calendar.Date

namespace SessionBatch.Calendar

-- Second 60 is a leap second, which any minute may have.
structure Timestamp where
  date : Date
  hour : Fin 24
  minute : Fin 60
  second : Fin 61
  nano : Fin 1000000000
  deriving DecidableEq

def padded (width n : Nat) : List Char :=
  let ds := Nat.toDigits 10 n
  List.replicate (width - ds.length) '0' ++ ds

-- Four digits, and a sign where they do not suffice.
def yearChars (year : Int) : List Char :=
  if year < 0 then '-' :: padded 4 year.natAbs
  else if 9999 < year then '+' :: padded 4 year.natAbs
  else padded 4 year.natAbs

-- The fewest of 0, 3, 6 and 9 digits that lose nothing.
def fractionChars (nano : Nat) : List Char :=
  if nano = 0 then []
  else if nano % 1000000 = 0 then '.' :: padded 3 (nano / 1000000)
  else if nano % 1000 = 0 then '.' :: padded 6 (nano / 1000)
  else '.' :: padded 9 nano

namespace Timestamp

def chars (t : Timestamp) : List Char :=
  yearChars t.date.year ++ '-' :: padded 2 t.date.month ++ '-' :: padded 2 t.date.day ++
    'T' :: padded 2 t.hour ++ ':' :: padded 2 t.minute ++ ':' :: padded 2 t.second ++
    fractionChars t.nano ++ ['Z']

def text (t : Timestamp) : String := String.ofList t.chars

def atOffset? (reading : Timestamp) (offset : Int) : Option Timestamp :=
  let minutes : Int := reading.hour.val * 60 + reading.minute.val - offset
  let date? :=
    if minutes < 0 then reading.date.previous?
    else if 1440 ≤ minutes then reading.date.next?
    else some reading.date
  let ofDay := (minutes % 1440).toNat
  date?.map fun date =>
    { reading with date, hour := Fin.ofNat 24 (ofDay / 60), minute := Fin.ofNat 60 (ofDay % 60) }

end Timestamp
end SessionBatch.Calendar
