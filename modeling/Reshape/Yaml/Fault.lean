import Reshape.Text.Mark

/-!
# What can be wrong with a YAML text

A problem and its mark, and the construct within which it was found and where that begins. The place
of the construct is left out of the message where it would say the same twice.
-/
namespace Reshape.Yaml

open Text (Mark)

inductive Problem where
  | strangeCharacter
  | noColon
  | sequenceEntryNotAllowed
  | mappingKeyNotAllowed
  | mappingValueNotAllowed
  | unexpectedColon
  | tabAsIndent
  | documentInQuotes
  | endInQuotes
  | unknownEscape
  | noHexDigits
  | badEscapeCode
  | noLineBreak
  | zeroIndent
  | tabForIndent
  | noLabel
  | noTagClose
  | noTagUri
  | noTagOctet
  | badLeadingOctet
  | badTrailingOctet
  | noTagEnd
  | undefinedHandle
  | noDirectiveName
  | badDirectiveName
  | unknownDirective
  | noVersionNumber
  | longVersionNumber
  | noVersionPoint
  | noHandleMark
  | noHandleEnd
  | secondVersion
  | otherVersion
  | secondHandle
  | noContent
  | noKey
  | noEntryDash
  | noCommaOrBracket
  | noCommaOrBrace
  | noDocumentStart
  | unknownAnchor
  deriving DecidableEq, Repr

def Problem.message : Problem → String
  | .strangeCharacter => "found character that cannot start any token"
  | .noColon => "could not find expected ':'"
  | .sequenceEntryNotAllowed => "block sequence entries are not allowed in this context"
  | .mappingKeyNotAllowed => "mapping keys are not allowed in this context"
  | .mappingValueNotAllowed => "mapping values are not allowed in this context"
  | .unexpectedColon => "found unexpected ':'"
  | .tabAsIndent => "found a tab character that violates indentation"
  | .documentInQuotes => "found unexpected document indicator"
  | .endInQuotes => "found unexpected end of stream"
  | .unknownEscape => "found unknown escape character"
  | .noHexDigits => "did not find expected hexdecimal number"
  | .badEscapeCode => "found invalid Unicode character escape code"
  | .noLineBreak => "did not find expected comment or line break"
  | .zeroIndent => "found an indentation indicator equal to 0"
  | .tabForIndent => "found a tab character where an indentation space is expected"
  | .noLabel => "did not find expected alphabetic or numeric character"
  | .noTagClose => "did not find the expected '>'"
  | .noTagUri => "did not find expected tag URI"
  | .noTagOctet => "did not find URI escaped octet"
  | .badLeadingOctet => "found an incorrect leading UTF-8 octet"
  | .badTrailingOctet => "found an incorrect trailing UTF-8 octet"
  | .noTagEnd => "did not find expected whitespace or line break"
  | .undefinedHandle => "found undefined tag handle"
  | .noDirectiveName => "could not find expected directive name"
  | .badDirectiveName => "found unexpected non-alphabetical character"
  | .unknownDirective => "found unknown directive name"
  | .noVersionNumber => "did not find expected version number"
  | .longVersionNumber => "found extremely long version number"
  | .noVersionPoint => "did not find expected digit or '.' character"
  | .noHandleMark => "did not find expected '!'"
  | .noHandleEnd => "did not find expected whitespace"
  | .secondVersion => "found duplicate %YAML directive"
  | .otherVersion => "found incompatible YAML document"
  | .secondHandle => "found duplicate %TAG directive"
  | .noContent => "did not find expected node content"
  | .noKey => "did not find expected key"
  | .noEntryDash => "did not find expected '-' indicator"
  | .noCommaOrBracket => "did not find expected ',' or ']'"
  | .noCommaOrBrace => "did not find expected ',' or '\x7d'"
  | .noDocumentStart => "did not find expected <document start>"
  | .unknownAnchor => "unknown anchor"

/-- What was being read when a problem was found. -/
inductive Construct where
  | nextLexeme
  | simpleKey
  | plainScalar
  | quotedScalar
  | quotedEscape
  | blockScalar
  | anchor
  | reference
  | tag
  | tagUri
  | directive
  | versionDirective
  | tagDirective
  | tagDirectiveUri
  | handle
  | handleUri
  | node
  | blockNode
  | flowNode
  | blockSequence
  | blockMapping
  | flowSequence
  | flowMapping
  deriving DecidableEq, Repr

def Construct.message : Construct → String
  | .nextLexeme => "while scanning for the next token"
  | .simpleKey => "while scanning a simple key"
  | .plainScalar => "while scanning a plain scalar"
  | .quotedScalar => "while scanning a quoted scalar"
  | .quotedEscape => "while parsing a quoted scalar"
  | .blockScalar => "while scanning a block scalar"
  | .anchor => "while scanning an anchor"
  | .reference => "while scanning an alias"
  | .tag => "while scanning a tag"
  | .tagUri => "while parsing a tag"
  | .directive => "while scanning a directive"
  | .versionDirective => "while scanning a %YAML directive"
  | .tagDirective => "while scanning a %TAG directive"
  | .tagDirectiveUri => "while parsing a %TAG directive"
  | .handle => "while scanning a tag directive"
  | .handleUri => "while parsing a tag directive"
  | .node => "while parsing a node"
  | .blockNode => "while parsing a block node"
  | .flowNode => "while parsing a flow node"
  | .blockSequence => "while parsing a block collection"
  | .blockMapping => "while parsing a block mapping"
  | .flowSequence => "while parsing a flow sequence"
  | .flowMapping => "while parsing a flow mapping"

/-- A place where the text is not well formed. -/
structure SyntaxError where
  problem : Problem
  mark : Mark
  /-- The construct around it and its begin. -/
  within : Option (Construct × Mark)
  deriving DecidableEq, Repr

/-- The place of a message; the very start of a text is not named. -/
def placeText (mark : Mark) : String := if mark = .start then "" else s!" at {mark.text}"

def SyntaxError.message (e : SyntaxError) : String :=
  let context := match e.within with
    | none => ""
    | some (construct, mark) =>
      s!", {construct.message}" ++ (if mark = e.mark then "" else placeText mark)
  e.problem.message ++ placeText e.mark ++ context

end Reshape.Yaml
