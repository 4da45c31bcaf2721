import DocLint.Unicode.Age
import DocLint.Unicode.Break
import DocLint.Unicode.ScriptExtension

/-!
# Properties of characters by name

`property?` finds the characters of a binary property, a category or a script by any of its names, and
`propertyValue?` the characters for which a property has a value. Names are compared without regard to
case, blanks, hyphens and low lines.
-/

namespace DocLint.Unicode

open DocLint.Text

/-- The characters that do not matter for the case of those around them. -/
def caseIgnorable : Table :=
  .unionAll [nonspacingMark, enclosingMark, format, modifierLetter, modifierSymbol,
    .runs ["27 2e 3a b7 387 55f 5f4 2018-2019 2024 2027 fe13 fe52 fe55 ff07 ff0e ff1a"]]

/-- The binary properties: their names and the characters that have them. -/
def binaryProperties : List (List String × Table) := [
  (["ahex", "asciihexdigit"], asciiHexDigit),
  (["alpha", "alphabetic"], alphabetic),
  (["bidic", "bidicontrol"], bidiControl),
  (["bidim", "bidimirrored"], bidiMirrored),
  (["ci", "caseignorable"], caseIgnorable),
  (["cased"], cased),
  (["cwcf", "changeswhencasefolded"], changesWhenCasefolded),
  (["cwcm", "changeswhencasemapped"], changesWhenCasemapped),
  (["cwl", "changeswhenlowercased"], changesWhenLowercased),
  (["cwt", "changeswhentitlecased"], changesWhenTitlecased),
  (["cwu", "changeswhenuppercased"], changesWhenUppercased),
  (["dash"], dash),
  (["di", "defaultignorablecodepoint"], defaultIgnorable),
  (["dep", "deprecated"], deprecated),
  (["dia", "diacritic"], diacritic),
  (["emoji"], emoji),
  (["ecomp", "emojicomponent"], emojiComponent),
  (["emod", "emojimodifier"], emojiModifier),
  (["ebase", "emojimodifierbase"], emojiModifierBase),
  (["epres", "emojipresentation"], emojiPresentation),
  (["extpict", "extendedpictographic"], extendedPictographic),
  (["ext", "extender"], extender),
  (["grbase", "graphemebase"], graphemeBase),
  (["grext", "graphemeextend"], graphemeExtend),
  (["grlink", "graphemelink"], graphemeLink),
  (["hex", "hexdigit"], hexDigit),
  (["hyphen"], hyphen),
  (["idsb", "idsbinaryoperator"], idsBinaryOperator),
  (["idst", "idstrinaryoperator"], idsTrinaryOperator),
  (["idsu", "idsunaryoperator"], idsUnaryOperator),
  (["idcompatmathcontinue"], idCompatMathContinue),
  (["idcompatmathstart"], idCompatMathStart),
  (["idc", "idcontinue"], idContinue),
  (["ids", "idstart"], idStart),
  (["ideo", "ideographic"], ideographic),
  (["joinc", "joincontrol"], joinControl),
  (["loe", "logicalorderexception"], logicalOrderException),
  (["lower", "lowercase"], lowercase),
  (["math"], math),
  (["mcm", "modifiercombiningmark"], modifierCombiningMark),
  (["nchar", "noncharactercodepoint"], noncharacter),
  (["oalpha", "otheralphabetic"], otherAlphabetic),
  (["odi", "otherdefaultignorablecodepoint"], otherDefaultIgnorable),
  (["ogrext", "othergraphemeextend"], otherGraphemeExtend),
  (["oidc", "otheridcontinue"], otherIdContinue),
  (["oids", "otheridstart"], otherIdStart),
  (["olower", "otherlowercase"], otherLowercase),
  (["omath", "othermath"], otherMath),
  (["oupper", "otheruppercase"], otherUppercase),
  (["patsyn", "patternsyntax"], patternSyntax),
  (["patws", "patternwhitespace"], patternWhiteSpace),
  (["pcm", "prependedconcatenationmark"], prependedMark),
  (["qmark", "quotationmark"], quotationMark),
  (["radical"], radical),
  (["ri", "regionalindicator"], regionalIndicator),
  (["sterm", "sentenceterminal"], sentenceTerminal),
  (["sd", "softdotted"], softDotted),
  (["term", "terminalpunctuation"], terminalPunctuation),
  (["uideo", "unifiedideograph"], unifiedIdeograph),
  (["upper", "uppercase"], uppercase),
  (["vs", "variationselector"], variationSelector),
  (["space", "wspace", "whitespace"], whiteSpace),
  (["xidc", "xidcontinue"], xidContinue),
  (["xids", "xidstart"], xidStart)]

/-- A name in lower case, without blanks, hyphens, low lines, characters beyond ASCII and a leading
`is`. -/
def plainName (name : List Char) : String :=
  let tidy (cs : List Char) : List Char :=
    (cs.filter fun c => c ≠ ' ' && c ≠ '-' && c ≠ '_' && c.toNat ≤ 0x7F).map Char.toLower
  match name with
  | a :: b :: r =>
    if a.toLower = 'i' && b.toLower = 's' then
      (if tidy r = ['c'] then "isc" else String.ofList (tidy r))
    else String.ofList (tidy name)
  | _ => String.ofList (tidy name)

/-- The characters of a name in a list of names. -/
def named? (list : List (List String × Table)) (name : String) : Option Table :=
  (list.find? (·.1.contains name)).map (·.2)

/-- The binary property, category or script of a name. -/
def property? (name : List Char) : Option CharSet :=
  let n := plainName name
  let table? :=
    match named? binaryProperties n with
    | some t => some t
    | none =>
      match named? categories n with
      | some t => some t
      | none => named? scripts n
  table?.map (·.set)

/-- The characters that are used with the script of a name. -/
def extendedScript? (name : String) : Option Table :=
  (scripts.find? (·.1.contains name)).map fun s => extendedScript (s.1.headD "") s.2

/-- The characters for which a property has a value. -/
def propertyValue? (name value : List Char) : Option CharSet :=
  let v := plainName value
  let table? :=
    match plainName name with
    | "gc" | "generalcategory" => named? categories v
    | "sc" | "script" => named? scripts v
    | "scx" | "scriptextensions" => extendedScript? v
    | "age" => upToAge? v ages
    | "gcb" | "graphemeclusterbreak" => named? clusterBreaks v
    | "wb" | "wordbreak" => named? wordBreaks v
    | "sb" | "sentencebreak" => named? sentenceBreaks v
    | _ => none
  table?.map (·.set)

end DocLint.Unicode
