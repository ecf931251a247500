import Provision.Text.Quoted

/-!
Why a text is not a YAML document that has a JSON counterpart.
-/

namespace Provision.Yaml

/-- What is wrong with the syntax of a stream. -/
inductive Fault where
  | tabIndentation
  | commentNotSeparated
  | contentAfterEnd
  | badIndentation
  | unexpectedChar (c : Char)
  | keyNotAllowed
  | valueNotAllowed
  | keyWithoutValue
  | blankExpected
  | entryNotAllowed
  | nestedTooDeep
  | badDirective
  | badTag
  | badAnchor
  | unclosedQuote
  | indicatorInQuote
  | badEscape
  | contentAfterQuote
  | emptyPlain
  | badBlockHeader
  | badBlockIndentation
  | nodeExpected
  | entryExpected
  | keyExpected
  | commaExpected
  | documentExpected
  | directiveWithoutEnd
  | unknownAnchor (name : String)
  | unknownHandle (handle : String)
  | duplicateKey
deriving DecidableEq, Repr

def Fault.message : Fault → String
  | tabIndentation => "a tab cannot indent"
  | commentNotSeparated => "a comment needs a blank before it"
  | contentAfterEnd => "content after the end of a document"
  | badIndentation => "wrong indentation"
  | unexpectedChar c => "unexpected character " ++ quoted (String.ofList [c])
  | keyNotAllowed => "a key cannot stand here"
  | valueNotAllowed => "a value cannot stand here"
  | keyWithoutValue => "a key has no value"
  | blankExpected => "a blank is missing after an indicator"
  | entryNotAllowed => "a sequence entry cannot stand here"
  | nestedTooDeep => "too many brackets are open"
  | badDirective => "malformed directive"
  | badTag => "malformed tag"
  | badAnchor => "malformed anchor or alias"
  | unclosedQuote => "a quoted text does not end"
  | indicatorInQuote => "a document ends inside a quoted text"
  | badEscape => "unknown escape"
  | contentAfterQuote => "content after a quoted text"
  | emptyPlain => "a plain text has no characters"
  | badBlockHeader => "malformed header of a block text"
  | badBlockIndentation => "wrong indentation of a block text"
  | nodeExpected => "content is missing"
  | entryExpected => "an entry of a sequence is missing"
  | keyExpected => "a key of a mapping is missing"
  | commaExpected => "a comma or a closing bracket is missing"
  | documentExpected => "a document does not start"
  | directiveWithoutEnd => "the document before a directive does not end"
  | unknownAnchor name => "no anchor " ++ quoted name
  | unknownHandle handle => "no tag handle " ++ quoted handle
  | duplicateKey => "a key occurs twice in a mapping"

/-- Why a document could not be turned into JSON. -/
inductive Error where
  /-- The stream is not YAML. -/
  | malformed (fault : Fault)
  /-- The stream holds several documents where one is wanted. -/
  | notOne (count : Nat)
  /-- The value has no counterpart in JSON. -/
  | unsupported (what : String)
  /-- A number that has no decimal value. -/
  | number (text : String)
deriving DecidableEq, Repr

def Error.message : Error → String
  | malformed f => "invalid YAML: " ++ f.message
  | notOne n => "invalid YAML: expected one document, found " ++ toString n
  | unsupported what => "unsupported YAML: " ++ what
  | number text => "invalid number " ++ quoted text

end Provision.Yaml
