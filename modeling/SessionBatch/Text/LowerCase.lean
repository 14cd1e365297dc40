namespace SessionBatch.Text

-- Lower case as far as ASCII letters can appear in it: of the letters outside
-- ASCII only the Kelvin sign and the dotted capital I have one in their lower
-- case; every other character outside ASCII stands for itself here.
def lowerChar (c : Char) : List Char :=
  if c.toNat = 0x212A then ['k']
  else if c.toNat = 0x130 then ['i', Char.ofNat 0x307]
  else [c.toLower]

def lowerChars (cs : List Char) : List Char := cs.flatMap lowerChar

def occursIn (phrase : List Char) : List Char → Bool
  | [] => phrase.isEmpty
  | c :: rest => phrase.isPrefixOf (c :: rest) || occursIn phrase rest

def mentions (s phrase : String) : Bool := occursIn phrase.toList (lowerChars s.toList)

end SessionBatch.Text
