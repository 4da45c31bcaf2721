import DocLint.Unicode.Derived
import DocLint.Unicode.Script

/-!
# Boundaries in texts

The Unicode properties that tell where clusters, words and sentences end: for each of them its values, by
their names in lower case and without low lines, and the characters that have the value. The value
of all other characters has no table.
-/

namespace DocLint.Unicode

/-- The carriage return. -/
def carriageReturn : Table := .runs ["d"]

/-- The line feed. -/
def lineFeed : Table := .runs ["a"]

/-- The joiner of emoji. -/
def zeroWidthJoiner : Table := .runs ["200d"]

/-- The formats that stand in front of digits. -/
def digitFormat : Table := .runs ["600-605 6dd 890-891 8e2 110bd 110cd"]

/-- The syllables of Hangul without a final consonant. -/
def openSyllable : Table := .runs ["ac00-d788/1c"]

/-- The characters that extend clusters. -/
def clusterExtend : Table := .diff (.union graphemeExtend emojiModifier) zeroWidthJoiner

/-- The values of `Grapheme_Cluster_Break`. -/
def clusterBreaks : List (List String × Table) := [
  (["cr"], carriageReturn),
  (["lf"], lineFeed),
  (["cn", "control"], .diff
    (.unionAll [lineSeparator, paragraphSeparator, control, format,
      .inter unassigned defaultIgnorable])
    (.unionAll [carriageReturn, lineFeed, joinControl, prependedMark, graphemeExtend])),
  (["ex", "extend"], clusterExtend),
  (["zwj"], zeroWidthJoiner),
  (["ri", "regionalindicator"], regionalIndicator),
  (["pp", "prepend"], .union prependedMark
    (.runs ["d4e 111c2-111c3 113d1 1193f 11941 11a3a 11a84-11a89 11d46 11f02"])),
  (["sm", "spacingmark"], .diff (.union spacingMark (.runs ["e33 eb3"])) (.union clusterExtend (.runs [
    "102b-102c 1038 1062-1064 1067-106d 1083 1087-108c 108f 109a-109c 1a61 1a63-1a64 aa7b aa7d",
    "11720-11721"]))),
  (["l"], .runs ["1100-115f a960-a97c"]),
  (["v"], .runs ["1160-11a7 d7b0-d7c6 16d63 16d67-16d6a"]),
  (["t"], .runs ["11a8-11ff d7cb-d7fb"]),
  (["lv"], openSyllable),
  (["lvt"], .diff (.runs ["ac00-d7a3"]) openSyllable)]

/-- The katakana. -/
def katakanaLetter : Table := .runs [
  "3031-3035 309b-309c 30a0-30fa 30fc-30ff 31f0-31ff 32d0-32fe 3300-3357 ff66-ff9d 1aff0-1aff3",
  "1aff5-1affb 1affd-1affe 1b000 1b120-1b122 1b155 1b164-1b167"]

/-- The letters of Hebrew. -/
def hebrewLetter : Table :=
  .inter otherLetter (.runs ["5d0-5ea 5ef-5f2 fb1d-fb4f"])

/-- The letters of scripts that are written without blanks between words. -/
def unspacedLetter : Table := .runs [
  "e01-e30 e32-e33 e40-e46 e81-e82 e84 e86-e8a e8c-ea3 ea5 ea7-eb0 eb2-eb3 ebd ec0-ec4 ec6",
  "edc-edf 1000-102a 103f 1050-1055 105a-105d 1061 1065-1066 106e-1070 1075-1081 108e",
  "1780-17b3 17d7 17dc 1950-196d 1970-1974 1980-19ab 19b0-19c9 1a20-1a54 1aa7 a9e0-a9e4",
  "a9e6-a9ef a9fa-a9fe aa60-aa76 aa7a aa7e-aaaf aab1 aab5-aab6 aab9-aabd aac0 aac2 aadb-aadd",
  "11700-1171a 11740-11746"]

/-- The hiragana. -/
def hiragana : Table :=
  ((scripts.find? (·.1.contains "hiragana")).map (·.2)).getD (.runs [])

/-- The characters that extend words. -/
def wordExtend : Table :=
  .diff (.unionAll [graphemeExtend, spacingMark, emojiModifier]) zeroWidthJoiner

/-- The characters that numbers are made of. -/
def numeric : Table := .unionAll [decimalNumber, digitFormat, .runs ["66b 19da"]]

/-- The values of `Word_Break`. -/
def wordBreaks : List (List String × Table) := [
  (["cr"], carriageReturn),
  (["lf"], lineFeed),
  (["nl", "newline"], .runs ["b-c 85 2028-2029"]),
  (["extend"], wordExtend),
  (["zwj"], zeroWidthJoiner),
  (["ri", "regionalindicator"], regionalIndicator),
  (["fo", "format"], .diff format (.unionAll [.runs ["200b"], joinControl, graphemeExtend,
    prependedMark])),
  (["ka", "katakana"], katakanaLetter),
  (["hl", "hebrewletter"], hebrewLetter),
  (["le", "aletter"], .diff
    (.union alphabetic (.runs [
      "2c2-2c5 2d2-2d7 2de-2df 2e5-2eb 2ed 2ef-2ff 55a-55c 55e 58a 5f3 70f a708-a716",
      "a720-a721 a789-a78a ab5b"]))
    (.unionAll [ideographic, katakanaLetter, unspacedLetter, hiragana, hebrewLetter, wordExtend])),
  (["sq", "singlequote"], .runs ["27"]),
  (["dq", "doublequote"], .runs ["22"]),
  (["mb", "midnumlet"], .runs ["2e 2018-2019 2024 fe52 ff07 ff0e"]),
  (["ml", "midletter"], .runs ["3a b7 387 55f 5f4 2027 fe13 fe55 ff1a"]),
  (["mn", "midnum"], .runs ["2c 3b 37e 589 60c-60d 66c 7f8 2044 fe50 fe54 ff0c ff1b"]),
  (["nu", "numeric"], numeric),
  (["ex", "extendnumlet"], .runs ["5f 202f 203f-2040 2054 fe33-fe34 fe4d-fe4f ff3f"]),
  (["wsegspace"], .runs ["20 1680 2000-2006 2008-200a 205f 3000"])]

/-- The separators of paragraphs. -/
def sentenceSeparator : Table := .runs ["85 2028-2029"]

/-- The letters of lower case, in sentences. -/
def sentenceLower : Table :=
  .diff lowercase (.union graphemeExtend (.runs ["10d0-10fa 10fd-10ff"]))

/-- The letters of upper case, in sentences. -/
def sentenceUpper : Table :=
  .diff (.union titlecaseLetter uppercase) (.runs ["1c90-1cba 1cbd-1cbf"])

/-- The characters that extend sentences. -/
def sentenceExtend : Table := .unionAll [graphemeExtend, spacingMark, zeroWidthJoiner]

/-- The full stops that may also stand in abbreviations. -/
def ambiguousTerminal : Table := .runs ["2e 2024 fe52 ff0e"]

/-- The values of `Sentence_Break`. -/
def sentenceBreaks : List (List String × Table) := [
  (["cr"], carriageReturn),
  (["lf"], lineFeed),
  (["se", "sep"], sentenceSeparator),
  (["ex", "extend"], sentenceExtend),
  (["fo", "format"], .diff format (.unionAll [joinControl, graphemeExtend, digitFormat])),
  (["sp"], .diff whiteSpace (.unionAll [sentenceSeparator, carriageReturn, lineFeed])),
  (["lo", "lower"], sentenceLower),
  (["up", "upper"], sentenceUpper),
  (["le", "oletter"], .diff (.union alphabetic (.runs ["5f3"]))
    (.unionAll [sentenceLower, sentenceUpper, sentenceExtend])),
  (["nu", "numeric"], .union numeric (.runs ["66c"])),
  (["at", "aterm"], ambiguousTerminal),
  (["st", "sterm"], .diff sentenceTerminal ambiguousTerminal),
  (["cl", "close"], .diff
    (.unionAll [openPunctuation, closePunctuation, initialPunctuation, finalPunctuation,
      quotationMark, .runs ["275b-2760 2e00-2e01 2e06-2e08 2e0b 1f676-1f678"]])
    (.unionAll [.runs ["5f3 ff02 ff07"], ambiguousTerminal, sentenceTerminal])),
  (["sc", "scontinue"], .runs [
    "2c-2d 3a-3b 37e 55d 60c-60d 7f8 1802 1808 2013-2014 3001 fe10-fe11 fe13-fe14 fe31-fe32",
    "fe50-fe51 fe54-fe55 fe58 fe63 ff0c-ff0d ff1a-ff1b ff64"])]

end DocLint.Unicode
