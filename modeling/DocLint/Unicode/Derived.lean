import DocLint.Unicode.Category
import DocLint.Unicode.Listed

/-!
# Derived binary properties

The Unicode properties that characters have or do not have, as far as the standard derives them from
categories, from case and from listed properties.
-/

namespace DocLint.Unicode

/-- The lowercase characters. -/
def lowercase : Table := .union lowercaseLetter otherLowercase

/-- The uppercase characters. -/
def uppercase : Table := .union uppercaseLetter otherUppercase

/-- The cased characters. -/
def cased : Table := .unionAll [lowercase, uppercase, titlecaseLetter]

/-- The alphabetic characters. -/
def alphabetic : Table := .unionAll [letter, letterNumber, lowercase, uppercase, otherAlphabetic]

/-- The mathematical characters. -/
def math : Table := .union mathSymbol otherMath

/-- The characters that words are made of. -/
def word : Table := .unionAll [alphabetic, mark, decimalNumber, connectorPunctuation, joinControl]

/-- The characters that may be left out where they are not supported. -/
def defaultIgnorable : Table :=
  .diff (.unionAll [otherDefaultIgnorable, format, variationSelector])
    (.unionAll [whiteSpace, prependedMark, .runs ["fff9-fffb 13430-13440"]])

/-- The characters that extend the one before. -/
def graphemeExtend : Table := .unionAll [nonspacingMark, enclosingMark, otherGraphemeExtend]

/-- The characters that stand on their own. -/
def graphemeBase : Table :=
  .diff assigned
    (.unionAll [control, format, privateUse, lineSeparator, paragraphSeparator, graphemeExtend])

/-- The characters that have no part in identifiers. -/
def pattern : Table := .union patternSyntax patternWhiteSpace

/-- The characters that start identifiers. -/
def idStart : Table := .diff (.unionAll [letter, letterNumber, otherIdStart]) pattern

/-- The characters that continue identifiers. -/
def idContinue : Table :=
  .diff (.unionAll [letter, letterNumber, otherIdStart, nonspacingMark, spacingMark, decimalNumber,
    connectorPunctuation, otherIdContinue]) pattern

/-- The characters that no longer continue an identifier once they are normalised. -/
def unstable : Table := .runs ["37a 309b-309c fc5e-fc63 fdfa-fdfb fe70-fe7e/2"]

/-- The characters that start identifiers, normalised or not. -/
def xidStart : Table := .diff idStart (.union unstable (.runs ["e33 eb3 ff9e-ff9f"]))

/-- The characters that continue identifiers, normalised or not. -/
def xidContinue : Table := .diff idContinue unstable

/-- The characters that lowercasing changes. -/
def changesWhenLowercased : Table :=
  .union (.inter (.union uppercase titlecaseLetter) (.union .foldSources .foldTargets)) (.runs ["130"])

/-- The characters that uppercasing changes: those of lower case, and those whose upper case is more than
one character. -/
def changesWhenUppercased : Table :=
  .union (.diff (.union .foldSources .foldTargets) changesWhenLowercased) (.runs [
    "131 149 1c5-1cb/3 1f0 1f2 587 1e96-1e9a 1f50-1f56/2 1f88-1f8f 1f98-1f9f 1fa8-1faf 1fb2",
    "1fb4 1fb6-1fb7 1fbc 1fc2 1fc4 1fc6-1fc7 1fcc 1fd2 1fd6-1fd7 1fe2 1fe4 1fe6-1fe7 1ff2 1ff4",
    "1ff6-1ff7 1ffc fb00-fb04 fb13-fb17"])

/-- The characters that titlecasing changes. -/
def changesWhenTitlecased : Table :=
  .union (.diff changesWhenUppercased (.runs [
    "1c5-1cb/3 1f2 10d0-10fa 10fd-10ff 1f88-1f8f 1f98-1f9f 1fa8-1faf 1fbc 1fcc 1ffc"]))
    (.runs ["1c4-1ca/3 1f1"])

/-- The characters that a change of case changes. -/
def changesWhenCasemapped : Table :=
  .unionAll [changesWhenLowercased, changesWhenUppercased, changesWhenTitlecased]

/-- The characters that folding case changes: those that fold, and those that fold to more than one
character. -/
def changesWhenCasefolded : Table :=
  .diff (.union .foldSources (.runs [
    "df 130 149 587 1e9a 1f80-1f87 1f90-1f97 1fa0-1fa7 1fb2-1fb4 1fb7 1fc2-1fc4 1fc7 1ff2-1ff4",
    "1ff7 fb00-fb04 fb06 fb13-fb17"])) (.runs ["1fbe 1fd3 1fe3"])

end DocLint.Unicode
