import Phrasebook.Proofs.Pattern.RoundTrip
import Phrasebook.Resource.Reading
import Phrasebook.Resource.Writing

/-!
# Written resources read back

The attributes of an entry are written in ascending order and stored one after the other when they
are read, which makes the same map. A field that was not written is the one that is filled in.
-/

namespace Phrasebook

open Json (NumberSource Reader ItemsWritable MembersWritable)
open Json.Reader
open Binary64 (AllFinite)

def Entry.patterns (e : Entry) : List Pattern := e.value.toList ++ e.attributes.toList.map Prod.snd

def Entry.numbers (e : Entry) : List Binary64 := e.patterns.flatMap Pattern.numbers

def Resource.numbers (r : Resource) : List Binary64 := r.body.flatMap Entry.numbers

theorem Binary64.allFinite_flatMap {α : Type} {numbers : α → List Binary64} {as : List α} :
    AllFinite (as.flatMap numbers) ↔ ∀ a ∈ as, AllFinite (numbers a) := by
  simp only [AllFinite, List.mem_flatMap]
  exact ⟨fun h a ha x hx => h x ⟨a, ha, hx⟩, fun h x ⟨a, ha, hx⟩ => h a ha x hx⟩

open Binary64 (allFinite_flatMap)

def attributeMembers (attributes : List (String × Pattern)) : List (String × Json) :=
  attributes.map fun p => (p.1, p.2.toJson)

theorem writable_attributeMembers {attributes : List (String × Pattern)}
    (h : ∀ p ∈ attributes, AllFinite p.2.numbers) :
    MembersWritable (attributeMembers attributes) := by
  rw [Json.membersWritable_iff, attributeMembers, List.forall_mem_map]
  exact fun p hp => p.2.writable_toJson (h p hp)

theorem nesting_le_attributeMembers {attributes : List (String × Pattern)} {p : String × Pattern}
    (h : p ∈ attributes) : p.2.toJson.nesting ≤ Json.membersNesting (attributeMembers attributes) :=
  Json.nesting_le_membersNesting (m := (p.1, p.2.toJson)) (List.mem_map.2 ⟨p, h, rfl⟩)

/-- Attributes are stored in their order, over those that were there before. -/
theorem readsMembers_attributes [NumberSource] {level : Nat} {attributes : List (String × Pattern)}
    (h : ∀ p ∈ attributes, Reads (Pattern.read level) p.2.toJson p.2) (acc : NameMap Pattern) :
    ReadsMembers
      (fun acc name => do
        colon
        return acc.insert name (← Pattern.read level))
      acc (attributeMembers attributes) (acc.insertAll attributes) := by
  induction attributes generalizing acc with
  | nil => exact .nil acc
  | cons p rest ih =>
      have hstored : Reads (do return acc.insert p.1 (← Pattern.read level)) p.2.toJson
          (acc.insert p.1 p.2) :=
        (h p List.mem_cons_self).bind fun rest => yields_pure _ rest
      exact .cons (.of_colon rfl hstored)
        (ih (fun q hq => h q (List.mem_cons_of_mem _ hq)) (acc.insert p.1 p.2))

theorem reads_attributes [NumberSource] [NumberSource.Faithful] {attributes : NameMap Pattern}
    (h : ∀ p ∈ attributes.toList, AllFinite p.2.numbers) {level : Nat}
    (hlevel : (Json.object (attributeMembers attributes.toList)).nesting ≤ level) :
    Reads (readAttributes level) (.object (attributeMembers attributes.toList)) attributes := by
  obtain ⟨level, rfl, hnesting⟩ := Json.exists_level_of_object hlevel
  have hvalues : ∀ p ∈ attributes.toList, Reads (Pattern.read level) p.2.toJson p.2 :=
    fun p hp => Pattern.reads (h p hp) (Nat.le_trans (nesting_le_attributeMembers hp) hnesting)
  have hall := readsMembers_attributes hvalues .empty
  have hsame : NameMap.empty.insertAll attributes.toList = attributes := attributes.ofList_toList
  rw [hsame] at hall
  exact reads_map hall

def valueJson (value : Option Pattern) : Json := (value.map Pattern.toJson).getD .null

def attributesMember (attributes : NameMap Pattern) : List (String × Json) :=
  if attributes.isEmpty then []
  else [("attributes", .object (attributeMembers attributes.toList))]

theorem Entry.toJson_eq (e : Entry) :
    e.toJson = .object (("id", .string e.id) :: ("value", valueJson e.value) ::
      attributesMember e.attributes) := rfl

theorem Pattern.exists_head (p : Pattern) :
    ∃ c more, p.toJson.chars = c :: more ∧ isGap c = false ∧ c ≠ 'n' := by
  cases p with
  | text s => exact ⟨'"', _, rfl, rfl, by decide⟩
  | complex elements =>
      rw [Pattern.toJson, Json.chars_array]
      exact ⟨'[', _, rfl, rfl, by decide⟩

theorem reads_value [NumberSource] [NumberSource.Faithful] {value : Option Pattern}
    (h : ∀ p ∈ value, AllFinite p.numbers) {level : Nat}
    (hlevel : (valueJson value).nesting ≤ level) :
    Reads (optional (Pattern.read level)) (valueJson value) value := by
  cases value with
  | none => exact reads_optional_none _
  | some p =>
      obtain ⟨c, more, hchars, hgap, hc⟩ := p.exists_head
      exact reads_optional_some (Pattern.reads (h p rfl) hlevel) hchars hgap hc

namespace Entry

variable {e : Entry} {level : Nat}

theorem finite_value (h : AllFinite e.numbers) : ∀ p ∈ e.value, AllFinite p.numbers := by
  intro p hp
  exact allFinite_flatMap.1 h p (List.mem_append_left _ (Option.mem_toList.2 hp))

theorem finite_attributes (h : AllFinite e.numbers) :
    ∀ p ∈ e.attributes.toList, AllFinite p.2.numbers := by
  intro p hp
  exact allFinite_flatMap.1 h p.2 (List.mem_append_right _ (List.mem_map_of_mem hp))

theorem writable_toJson (h : AllFinite e.numbers) : e.toJson.Writable := by
  have hvalue : (valueJson e.value).Writable := by
    cases hvalue : e.value with
    | none => trivial
    | some p => exact p.writable_toJson (finite_value h p hvalue)
  have hattributes : MembersWritable (attributesMember e.attributes) := by
    unfold attributesMember
    split
    · trivial
    · exact ⟨writable_attributeMembers (finite_attributes h), trivial⟩
  exact ⟨trivial, hvalue, hattributes⟩

variable [NumberSource] [NumberSource.Faithful]

/-- Attributes that are left out are filled in as none. -/
theorem exists_readsMembers_attributes (id : Option String) (value : Option (Option Pattern))
    (h : ∀ p ∈ e.attributes.toList, AllFinite p.2.numbers)
    (hlevel : Json.membersNesting (attributesMember e.attributes) ≤ level) :
    ∃ attributes : Option (NameMap Pattern), attributes.getD .empty = e.attributes ∧
      ReadsMembers (EntryFields.readMember level) ⟨id, value, none⟩ (attributesMember e.attributes)
        ⟨id, value, attributes⟩ := by
  unfold attributesMember at hlevel ⊢
  split
  · next hempty =>
    have hnil : e.attributes.toList = [] := List.isEmpty_iff.1 hempty
    exact ⟨none, NameMap.eq_of_toList hnil.symm, .nil _⟩
  · next hempty =>
    rw [if_neg hempty] at hlevel
    have hobject : (Json.object (attributeMembers e.attributes.toList)).nesting ≤ level :=
      Nat.le_trans (Nat.le_max_left _ _) hlevel
    have hmember : ReadsMember (EntryFields.readMember level) ⟨id, value, none⟩
        ("attributes", .object (attributeMembers e.attributes.toList))
        ⟨id, value, some e.attributes⟩ :=
      readsMember_readOnce rfl rfl (reads_attributes h hobject)
    exact ⟨some e.attributes, rfl, .cons hmember (.nil _)⟩

theorem reads (h : AllFinite e.numbers) (hlevel : e.toJson.nesting ≤ level) :
    Reads (read level) e.toJson e := by
  rw [toJson_eq] at hlevel ⊢
  obtain ⟨level, rfl, hnesting⟩ := Json.exists_level_of_object hlevel
  have hnesting' : max 0 (max (valueJson e.value).nesting
      (Json.membersNesting (attributesMember e.attributes))) ≤ level := hnesting
  have hvalueLevel : (valueJson e.value).nesting ≤ level := by omega
  have hattributesLevel : Json.membersNesting (attributesMember e.attributes) ≤ level := by omega
  have hid : ReadsMember (EntryFields.readMember level) {} ("id", .string e.id)
      { id := some e.id } :=
    readsMember_readOnce rfl rfl (reads_text "a string" e.id)
  have hvalue : ReadsMember (EntryFields.readMember level) { id := some e.id }
      ("value", valueJson e.value) { id := some e.id, value := some e.value } :=
    readsMember_readOnce rfl rfl (reads_value (finite_value h) hvalueLevel)
  obtain ⟨attributes, hattributes, hreads⟩ := exists_readsMembers_attributes (some e.id)
    (some e.value) (finite_attributes h) hattributesLevel
  have hmembers := ReadsMembers.cons hid (.cons hvalue hreads)
  refine reads_record fun rest => (yields_foldMembers hmembers rest).bind ?_
  have hbuild : EntryFields.build ⟨some e.id, some e.value, attributes⟩ e.id = e := by
    rw [EntryFields.build, hattributes]
    rfl
  have hentry : Yields (pure (EntryFields.build ⟨some e.id, some e.value, attributes⟩ e.id))
      ('\x7d' :: rest) e ('\x7d' :: rest) := by
    rw [hbuild]
    exact yields_pure e _
  exact hentry

end Entry

namespace Resource

variable {r : Resource} {level : Nat}

theorem itemsWritable_body {body : List Entry} (h : ∀ e ∈ body, AllFinite e.numbers) :
    ItemsWritable (body.map Entry.toJson) := by
  rw [Json.itemsWritable_iff, List.forall_mem_map]
  exact fun e he => Entry.writable_toJson (h e he)

theorem reads [NumberSource] [NumberSource.Faithful] (h : AllFinite r.numbers)
    (hlevel : r.toJson.nesting ≤ level) :
    Reads (read level) r.toJson r := by
  have hbody := allFinite_flatMap.1 h
  obtain ⟨level, rfl, hnesting⟩ := Json.exists_level_of_object hlevel
  have hlist : (Json.array (r.body.map Entry.toJson)).nesting ≤ level :=
    Nat.le_trans (Nat.le_max_left _ _) hnesting
  obtain ⟨inner, rfl, hitems⟩ := Json.exists_level_of_array hlist
  have hentries : List.Forall₂ (Reads (Entry.read inner)) (r.body.map Entry.toJson) r.body := by
    rw [List.forall₂_map_left_iff, List.forall₂_same]
    intro e he
    exact Entry.reads (hbody e he)
      (Nat.le_trans (Json.nesting_le_itemsNesting (List.mem_map_of_mem he)) hitems)
  have hread := (reads_list hentries (itemsWritable_body hbody)).map some
  have hmembers : ReadsMembers (readMember (inner + 1)) none
      [("body", .array (r.body.map Entry.toJson))] (some r.body) :=
    .cons (.of_colon rfl hread) (.nil _)
  exact reads_record fun rest => (yields_foldMembers hmembers rest).bind (yields_pure _ _)

end Resource

end Phrasebook
