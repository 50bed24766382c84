import Phrasebook.Resource.Reading

/-!
# Faulty resource texts

A text that is no resource is reported with a label: one byte of the text, found from the line and
the column of the error by counting the lines before it.
-/

namespace Phrasebook

/-- A line without the carriage return at its end. -/
def withoutReturn (line : List Char) : List Char :=
  if line.getLast? = some '\r' then line.dropLast else line

/-- The lines of a text without what ends them.  Only a line that a line feed ends loses a carriage
return. -/
def textLines (text : List Char) : List (List Char) :=
  match (text.splitOn '\n').reverse with
  | [] => []
  | last :: before => (before.map withoutReturn).reverse ++ if last.isEmpty then [] else [last]

structure Label where
  offset : Nat
  length : Nat
deriving DecidableEq

/-- The label of a place: one byte for the end of each line before it, then the columns; never
beyond the end of the text, where it is empty. -/
def labelAt (text : List Char) (line column : Nat) : Label :=
  let before := (textLines text).take (line - 1)
  let start := before.foldl (fun n l => n + Text.byteSize l + 1) 0
  let offset := min (start + (column - 1)) (Text.byteSize text)
  ⟨offset, if offset < Text.byteSize text then 1 else 0⟩

structure ResourceFault where
  error : Json.Error
  label : Label

namespace ResourceFault

def code : String := "glossa::resource"

def message (f : ResourceFault) : String := "invalid resource: " ++ f.error.message

def ofError (text : List Char) (e : Json.Error) : ResourceFault :=
  ⟨e, labelAt text e.line e.column⟩

end ResourceFault

inductive FileError where
  | notFound
  | notText
  | other (message : String)
deriving DecidableEq

def FileError.message : FileError → String
  | .notFound => "No such file or directory (os error 2)"
  | .notText => "stream did not contain valid UTF-8"
  | .other message => message

inductive LoadError where
  | file (path : String) (error : FileError)
  | json (path : String) (error : Json.Error)

namespace LoadError

def path : LoadError → String
  | .file path _ => path
  | .json path _ => path

def message : LoadError → String
  | .file path error => "failed to read '" ++ path ++ "': " ++ error.message
  | .json path error => path ++ ": " ++ error.message

end LoadError

def decodeText (bytes : ByteArray) : Except FileError String :=
  match String.fromUTF8? bytes with
  | some s => .ok s
  | none => .error .notText

/-- The resource in a file, given what reading the file gave. -/
def Resource.load (path : String) (content : Except FileError String) : Except LoadError Resource :=
  match content with
  | .error e => .error (.file path e)
  | .ok text =>
    match Resource.ofText text.toList with
    | .error e => .error (.json path e)
    | .ok r => .ok r

end Phrasebook
