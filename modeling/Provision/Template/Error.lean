/-!
Why a template could not be rendered: a kind, perhaps a detail, and the line where it happened.
-/

namespace Provision.Template

/-- The kinds of failure that template work distinguishes. -/
inductive ErrorKind where
  | invalidOperation
  | nonPrimitive
  | nonKey
  | syntaxFault
  | templateNotFound
  | tooManyArguments
  | missingArgument
  | unknownFilter
  | unknownFunction
  | unknownTest
  | unknownMethod
  | badEscape
  | undefinedValue
  | badSerialization
  | badInclude
  | evalBlock
  | cannotUnpack
  | unknownBlock
  | missingBlock
deriving DecidableEq, Repr

/-- The words that a message starts with. -/
def ErrorKind.description : ErrorKind → String
  | invalidOperation => "invalid operation"
  | nonPrimitive => "not a primitive"
  | nonKey => "not a key type"
  | syntaxFault => "syntax error"
  | templateNotFound => "template not found"
  | tooManyArguments => "too many arguments"
  | missingArgument => "missing argument"
  | unknownFilter => "unknown filter"
  | unknownFunction => "unknown function"
  | unknownTest => "unknown test"
  | unknownMethod => "unknown method"
  | badEscape => "bad string escape"
  | undefinedValue => "undefined value"
  | badSerialization => "could not serialize to value"
  | badInclude => "could not render include"
  | evalBlock => "could not render block"
  | cannotUnpack => "cannot unpack"
  | unknownBlock => "unknown block"
  | missingBlock => "required block not found"

/-- The kinds by name. -/
def ErrorKind.name : ErrorKind → String
  | invalidOperation => "InvalidOperation"
  | nonPrimitive => "NonPrimitive"
  | nonKey => "NonKey"
  | syntaxFault => "SyntaxError"
  | templateNotFound => "TemplateNotFound"
  | tooManyArguments => "TooManyArguments"
  | missingArgument => "MissingArgument"
  | unknownFilter => "UnknownFilter"
  | unknownFunction => "UnknownFunction"
  | unknownTest => "UnknownTest"
  | unknownMethod => "UnknownMethod"
  | badEscape => "BadEscape"
  | undefinedValue => "UndefinedError"
  | badSerialization => "BadSerialization"
  | badInclude => "BadInclude"
  | evalBlock => "EvalBlock"
  | cannotUnpack => "CannotUnpack"
  | unknownBlock => "UnknownBlock"
  | missingBlock => "RequiredBlock"

/-- A failure of template work. -/
structure Error where
  kind : ErrorKind
  detail : Option String
  line : Option Nat
deriving DecidableEq, Repr

/-- A failure that has not been placed in a template yet. -/
def Error.of (kind : ErrorKind) (detail : String) : Error := ⟨kind, some detail, none⟩

/-- The failure with its line, unless it has one. -/
def Error.at (e : Error) (line : Nat) : Error :=
  { e with line := e.line.or (some line) }

/-- The text of a failure. Templates have no names of their own. -/
def Error.message (e : Error) : String :=
  let head := match e.detail with
    | some d => s!"{e.kind.description}: {d}"
    | none => e.kind.description
  match e.line with
  | some n => s!"{head} (in <string>:{n})"
  | none => head

end Provision.Template
