import Phrasebook.Proofs.Resolution.Levels

/-!
# Entries with changed patterns

Changing the patterns of all entries in one way keeps the ids and the names of attributes. So each
reference finds in the changed bundle what it found before, changed, and fails for the same reason
where it failed.
-/

namespace Phrasebook

def Message.mapPatterns (f : Pattern → Pattern) (m : Message) : Message where
  id := m.id
  value := m.value.map f
  attributes := m.attributes.mapValues f

def Term.mapPatterns (f : Pattern → Pattern) (t : Term) : Term where
  id := t.id
  value := f t.value
  attributes := t.attributes.mapValues f

def Entries.mapPatterns (f : Pattern → Pattern) (es : Entries) : Entries where
  messages := es.messages.mapValues (Message.mapPatterns f)
  terms := es.terms.mapValues (Term.mapPatterns f)

namespace Bundle

variable [FormatterSource] {γ : Type} (b : Bundle γ) (f : Pattern → Pattern)

def mapPatterns : Bundle γ := { b with entries := b.entries.mapPatterns f }

theorem message?_mapPatterns (id : String) :
    (b.mapPatterns f).message? id = (b.message? id).map (Message.mapPatterns f) :=
  NameMap.get?_mapValues (Message.mapPatterns f) b.entries.messages id

theorem term?_mapPatterns (id : String) :
    (b.mapPatterns f).term? id = (b.term? id).map (Term.mapPatterns f) :=
  NameMap.get?_mapValues (Term.mapPatterns f) b.entries.terms id

theorem messagePattern_mapPatterns (id : String) (attr : Option String) :
    (b.mapPatterns f).messagePattern id attr = (b.messagePattern id attr).map f := by
  unfold messagePattern
  rw [message?_mapPatterns]
  cases b.message? id with
  | none => rfl
  | some m =>
      cases attr with
      | none => cases hvalue : m.value <;> simp [Message.mapPatterns, hvalue, Except.map]
      | some a =>
          cases hattr : m.attributes.get? a <;>
            simp [Message.mapPatterns, NameMap.get?_mapValues, hattr, Except.map]

theorem termPattern_mapPatterns (id : String) (attr : Option String) :
    (b.mapPatterns f).termPattern id attr = (b.termPattern id attr).map f := by
  unfold termPattern
  rw [term?_mapPatterns]
  cases b.term? id with
  | none => rfl
  | some t =>
      cases attr with
      | none => rfl
      | some a =>
          cases hattr : t.attributes.get? a <;>
            simp [Term.mapPatterns, NameMap.get?_mapValues, hattr, Except.map]

theorem targetPattern_mapPatterns (t : Target) :
    (b.mapPatterns f).targetPattern t = (b.targetPattern t).map f :=
  match t with
  | .message id attr => b.messagePattern_mapPatterns f id attr
  | .term id attr => b.termPattern_mapPatterns f id attr

end Bundle

end Phrasebook
