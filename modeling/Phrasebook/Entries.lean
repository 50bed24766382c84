import Phrasebook.Resource

/-!
# Registered entries

Messages and terms are kept in two tables, so a term never answers for a message.  An entry is taken
as a whole or refused as a whole: a term needs a value, and an id that is taken is given up only to
an entry that may override it.
-/

namespace Phrasebook

/-- An entry that a caller can ask for by its id. -/
structure Message where
  id : String
  value : Option Pattern
  attributes : NameMap Pattern

/-- An entry that only other entries refer to. -/
structure Term where
  id : String
  value : Pattern
  attributes : NameMap Pattern

inductive EntryKind where
  | message
  | term
  | function
deriving DecidableEq

def EntryKind.text : EntryKind → String
  | .message => "message"
  | .term => "term"
  | .function => "function"

inductive RegistrationError where
  | overriding (kind : EntryKind) (id : String)
  | missingTermValue (id : String)
deriving DecidableEq

def RegistrationError.message : RegistrationError → String
  | .overriding kind id => "attempt to override an existing " ++ kind.text ++ ": \"" ++ id ++ "\""
  | .missingTermValue id => "term \"" ++ id ++ "\" has no value"

def RegistrationError.inFile (file : String) (e : RegistrationError) : String :=
  file ++ ": " ++ e.message

structure Entries where
  messages : NameMap Message := .empty
  terms : NameMap Term := .empty

namespace Entries

def insert (es : Entries) (override : Bool) (e : Entry) : Except RegistrationError Entries :=
  if e.isTerm then
    match e.value with
    | none => .error (.missingTermValue e.id)
    | some value =>
      if !override && es.terms.contains e.id then .error (.overriding .term e.id)
      else .ok { es with terms := es.terms.insert e.id ⟨e.id, value, e.attributes⟩ }
  else if !override && es.messages.contains e.id then .error (.overriding .message e.id)
  else .ok { es with messages := es.messages.insert e.id ⟨e.id, e.value, e.attributes⟩ }

/-- Register entries one after the other.  A refused entry leaves the tables as they were; the
errors are in the order of the entries. -/
def insertAll (override : Bool) : Entries → List Entry → Entries × List RegistrationError
  | es, [] => (es, [])
  | es, e :: rest =>
    match es.insert override e with
    | .ok es => insertAll override es rest
    | .error err =>
      let (es, errs) := insertAll override es rest
      (es, err :: errs)

end Entries

end Phrasebook
