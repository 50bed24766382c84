import Phrasebook.Json
import Phrasebook.Json.Writer
import Phrasebook.Text.Quoted

/-!
# Why a document is refused

A document is refused for one cause, which may know where it lies: the line, counted from one, and
the bytes of that line that were read.  All wording stands in `Cause.message`.
-/

namespace Phrasebook.Json

inductive Found where
  | null
  | bool (value : Bool)
  | integer (value : Int)
  | real (value : Binary64)
  | string (value : String)
  | sequence
  | map

inductive Cause where
  | endInList
  | endInObject
  | endInString
  | endInValue
  | expectedColon
  | expectedCommaOrListEnd
  | expectedCommaOrObjectEnd
  | expectedWord
  | expectedValue
  | invalidEscape
  | invalidNumber
  | numberOutOfRange
  | controlCharacter
  | keyNotString
  | loneSurrogate
  | trailingComma
  | trailingCharacters
  | unfinishedEscape
  | tooDeep
  | wrongType (found : Found) (expected : String)
  | wrongValue (found : Found) (expected : String)
  | wrongLength (found : Nat) (expected : String)
  | unknownTag (name : String) (known : List String)
  | missingField (name : String)
  | duplicateField (name : String)
  | noAlternative (type : String)
  | notLiteral
  | namedOutsideCall

def found : Json → Found
  | .null => .null
  | .bool b => .bool b
  | .integer n => .integer n
  | .real x => .real x
  | .string s => .string s
  | .array _ => .sequence
  | .object _ => .map

def ticked (name : String) : String := "`" ++ name ++ "`"

def Found.text : Found → String
  | .null => "null"
  | .bool b => "boolean " ++ ticked (if b then "true" else "false")
  | .integer n => "integer " ++ ticked (String.ofList (integerChars n))
  | .real x => "floating point " ++ ticked (String.ofList (realChars x))
  | .string s => "string " ++ Text.quote s
  | .sequence => "sequence"
  | .map => "map"

def Cause.message : Cause → String
  | .endInList => "EOF while parsing a list"
  | .endInObject => "EOF while parsing an object"
  | .endInString => "EOF while parsing a string"
  | .endInValue => "EOF while parsing a value"
  | .expectedColon => "expected `:`"
  | .expectedCommaOrListEnd => "expected `,` or `]`"
  | .expectedCommaOrObjectEnd => "expected `,` or `\x7d`"
  | .expectedWord => "expected ident"
  | .expectedValue => "expected value"
  | .invalidEscape => "invalid escape"
  | .invalidNumber => "invalid number"
  | .numberOutOfRange => "number out of range"
  | .controlCharacter => "control character (\\u0000-\\u001F) found while parsing a string"
  | .keyNotString => "key must be a string"
  | .loneSurrogate => "lone leading surrogate in hex escape"
  | .trailingComma => "trailing comma"
  | .trailingCharacters => "trailing characters"
  | .unfinishedEscape => "unexpected end of hex escape"
  | .tooDeep => "recursion limit exceeded"
  | .wrongType found expected => "invalid type: " ++ found.text ++ ", expected " ++ expected
  | .wrongValue found expected => "invalid value: " ++ found.text ++ ", expected " ++ expected
  | .wrongLength n expected => "invalid length " ++ digitsText n ++ ", expected " ++ expected
  | .unknownTag name known =>
    "unknown variant " ++ ticked name ++ ", expected one of " ++
      ", ".intercalate (known.map ticked)
  | .missingField name => "missing field " ++ ticked name
  | .duplicateField name => "duplicate field " ++ ticked name
  | .noAlternative type => "data did not match any variant of untagged enum " ++ type
  | .notLiteral => "expected a string or number literal"
  | .namedOutsideCall => "named argument outside of a call"

/-- A place in a text: its line, from one, and the bytes of the line before it. -/
structure Position where
  line : Nat
  column : Nat
deriving DecidableEq

/-- A cause, and the place where it was found when that is known. -/
structure Error where
  cause : Cause
  position? : Option Position

namespace Error

def line (e : Error) : Nat := (e.position?.map Position.line).getD 0

/-- The column of the place, zero when it is not known. -/
def column (e : Error) : Nat := (e.position?.map Position.column).getD 0

def message (e : Error) : String :=
  match e.position? with
  | none => e.cause.message
  | some p =>
    e.cause.message ++ " at line " ++ digitsText p.line ++ " column " ++ digitsText p.column

end Error

end Phrasebook.Json
