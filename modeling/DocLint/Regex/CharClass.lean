import DocLint.Unicode.Property

/-!
# Classes of characters

The sets of characters that patterns have names for: digits, white space, the characters of words, and the
named classes of ASCII.
-/

namespace DocLint.Regex.CharClass

open DocLint.Text

/-- The decimal numbers, once they have been asked for. -/
def unicodeDigit : Thunk CharSet := ⟨fun _ => Unicode.decimalNumber.set⟩

/-- The white space, once it has been asked for. -/
def unicodeSpace : Thunk CharSet := ⟨fun _ => Unicode.whiteSpace.set⟩

/-- The characters that words are made of, once they have been asked for. -/
def unicodeWord : Thunk CharSet := ⟨fun _ => Unicode.word.set⟩

/-- The letters that the name of a group may start with, once they have been asked for. -/
def nameLetter : Thunk CharSet := ⟨fun _ => Unicode.alphabetic.set⟩

/-- The numbers that may stand in the name of a group, once they have been asked for. -/
def nameNumber : Thunk CharSet := ⟨fun _ => Unicode.number.set⟩

/-- The set of some intervals. -/
def ofPairs (pairs : List (Nat × Nat)) : CharSet :=
  CharSet.ofIntervals (pairs.map fun p => ⟨p.1, p.2⟩)

/-- Digits: the decimal numbers, or those of ASCII. -/
def digit (unicode : Bool) : CharSet :=
  if unicode then unicodeDigit.get else CharSet.span 0x30 0x39

/-- White space, or that of ASCII. -/
def space (unicode : Bool) : CharSet :=
  if unicode then unicodeSpace.get else ofPairs [(0x09, 0x0D), (0x20, 0x20)]

/-- The characters that words are made of, or those of ASCII. -/
def word (unicode : Bool) : CharSet :=
  if unicode then unicodeWord.get
  else ofPairs [(0x30, 0x39), (0x41, 0x5A), (0x5F, 0x5F), (0x61, 0x7A)]

/-- The named classes of ASCII characters. -/
def ascii? (name : String) : Option CharSet :=
  match name with
  | "alnum" => some (ofPairs [(0x30, 0x39), (0x41, 0x5A), (0x61, 0x7A)])
  | "alpha" => some (ofPairs [(0x41, 0x5A), (0x61, 0x7A)])
  | "ascii" => some (ofPairs [(0, 0x7F)])
  | "blank" => some (ofPairs [(0x09, 0x09), (0x20, 0x20)])
  | "cntrl" => some (ofPairs [(0, 0x1F), (0x7F, 0x7F)])
  | "digit" => some (ofPairs [(0x30, 0x39)])
  | "graph" => some (ofPairs [(0x21, 0x7E)])
  | "lower" => some (ofPairs [(0x61, 0x7A)])
  | "print" => some (ofPairs [(0x20, 0x7E)])
  | "punct" => some (ofPairs [(0x21, 0x2F), (0x3A, 0x40), (0x5B, 0x60), (0x7B, 0x7E)])
  | "space" => some (ofPairs [(0x09, 0x0D), (0x20, 0x20)])
  | "upper" => some (ofPairs [(0x41, 0x5A)])
  | "word" => some (word false)
  | "xdigit" => some (ofPairs [(0x30, 0x39), (0x41, 0x46), (0x61, 0x66)])
  | _ => none

end DocLint.Regex.CharClass
