/-!
# What can be wrong with a YAML text

The causes for which a text is no YAML document, with their wording.
-/

namespace DocLint.Yaml

/-- Why a text is no YAML. -/
inductive Fault where
  /-- A character that cannot stand in a text. -/
  | badCharacter
  /-- A character that cannot start anything. -/
  | badStart
  /-- A dash where no item can be. -/
  | misplacedItem
  /-- A question mark where no key can be. -/
  | misplacedKey
  /-- A colon where no value can be. -/
  | misplacedValue
  /-- A key without its colon. -/
  | unfinishedKey
  /-- A tab that indents, or an indentation of zero. -/
  | badIndent
  /-- A quoted text without an end. -/
  | openQuote
  /-- An escape of no meaning. -/
  | badEscape
  /-- A colon right in front of a bracket or comma. -/
  | tightColon
  /-- An anchor or alias whose name is empty or malformed. -/
  | badName
  /-- A tag that is malformed. -/
  | badTag
  /-- A tag with a handle that no directive declares. -/
  | unknownHandle
  /-- A directive that is malformed, unknown or repeated. -/
  | badDirective
  /-- More text on a line that has to end. -/
  | trailing
  /-- A document without its start mark. -/
  | noDocumentStart
  /-- Something else where a value has to be. -/
  | noContent
  /-- Something else in a list of lines. -/
  | badSequence
  /-- Something else in a mapping of lines. -/
  | badMapping
  /-- Something else in brackets, or no closing bracket. -/
  | openBracket
  /-- An alias for which there is no anchor. -/
  | unknownAnchor
  /-- More than one document. -/
  | severalDocuments
  deriving DecidableEq, Repr

/-- Why a text is no YAML, as it is told to people. -/
def Fault.message : Fault → String
  | .badCharacter => "control characters are not allowed"
  | .badStart => "found character that cannot start any token"
  | .misplacedItem => "block sequence entries are not allowed in this context"
  | .misplacedKey => "mapping keys are not allowed in this context"
  | .misplacedValue => "mapping values are not allowed in this context"
  | .unfinishedKey => "could not find expected ':'"
  | .badIndent => "found a tab character or an indentation of zero"
  | .openQuote => "found unexpected end of stream"
  | .badEscape => "found unknown escape character"
  | .tightColon => "found unexpected ':'"
  | .badName => "did not find expected alphabetic or numeric character"
  | .badTag => "did not find expected tag URI"
  | .unknownHandle => "found undefined tag handle"
  | .badDirective => "found unknown or incompatible directive"
  | .trailing => "did not find expected comment or line break"
  | .noDocumentStart => "did not find expected <document start>"
  | .noContent => "did not find expected node content"
  | .badSequence => "did not find expected '-' indicator"
  | .badMapping => "did not find expected key"
  | .openBracket => "did not find expected ',' or closing bracket"
  | .unknownAnchor => "unknown anchor"
  | .severalDocuments => "deserializing from YAML containing more than one document is not supported"

end DocLint.Yaml
