import VideoReceiver.Yaml.Cursor

/-!
# Faults of a document

What makes a text no document, or none that can be used.

## Main definitions

- `Yaml.FaultCause`: the causes, with their wording in `Yaml.FaultCause.text`
- `Yaml.Fault`: a cause and its place
-/

namespace VideoReceiver.Yaml

/-- Why a text cannot be read. -/
inductive FaultCause where
  | controlCharacter
  | unexpectedCharacter
  | missingColon
  | misplacedEntry
  | misplacedKey
  | misplacedValue
  | misplacedColon
  | tabInIndentation
  | unclosedQuote
  | markerInQuotes
  | badEscape
  | badBlockHeader
  | badAnchor
  | badTag
  | badDirective
  | repeatedDirective
  | unsupportedVersion
  | undefinedTagHandle
  | undefinedAlias
  | expectedContent
  | expectedDocumentStart
  | expectedEntry
  | expectedKey
  | expectedFlowEntry
  | severalDocuments
  | incomplete
  deriving DecidableEq, Repr

/-- The wording of a cause. -/
def FaultCause.text : FaultCause → String
  | controlCharacter => "control characters are not allowed"
  | unexpectedCharacter => "found character that cannot start any token"
  | missingColon => "could not find expected ':'"
  | misplacedEntry => "block sequence entries are not allowed in this context"
  | misplacedKey => "mapping keys are not allowed in this context"
  | misplacedValue => "mapping values are not allowed in this context"
  | misplacedColon => "found unexpected ':'"
  | tabInIndentation => "found a tab character that violates indentation"
  | unclosedQuote => "found unexpected end of stream in a quoted scalar"
  | markerInQuotes => "found unexpected document indicator in a quoted scalar"
  | badEscape => "found an escape sequence that stands for no character"
  | badBlockHeader => "found a malformed block scalar header"
  | badAnchor => "found a malformed anchor or alias"
  | badTag => "found a malformed tag"
  | badDirective => "found a malformed directive"
  | repeatedDirective => "found a duplicate directive"
  | unsupportedVersion => "found incompatible YAML document"
  | undefinedTagHandle => "found undefined tag handle"
  | undefinedAlias => "unknown anchor"
  | expectedContent => "did not find expected node content"
  | expectedDocumentStart => "did not find expected <document start>"
  | expectedEntry => "did not find expected '-' indicator"
  | expectedKey => "did not find expected key"
  | expectedFlowEntry => "did not find expected ',' or closing bracket"
  | severalDocuments => "found more than one document"
  | incomplete => "the document is incomplete"

/-- A cause and where it shows. -/
structure Fault where
  cause : FaultCause
  mark : Mark := {}
  deriving DecidableEq, Repr

/-- The one-line description of a fault. -/
def Fault.text (f : Fault) : String :=
  f.cause.text ++ " at " ++ f.mark.text

/-- Stops at the position of `c`. -/
def Cursor.fail {α : Type} (c : Cursor) (cause : FaultCause) : Except Fault α :=
  .error ⟨cause, c.mark⟩

end VideoReceiver.Yaml
