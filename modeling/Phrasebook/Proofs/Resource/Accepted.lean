import Phrasebook.Proofs.Pattern.Accepted
import Phrasebook.Proofs.Resource.RoundTrip

/-!
# Accepted resources

Every resource that a text is accepted as has only finite numbers, so it is written as a text that
reads back to it. What is kept between the fields of an entry is that those met so far are finite.
-/

namespace Phrasebook

open Json (NumberSource Reader)
open Json.Reader
open Binary64 (AllFinite allFinite_flatMap)

theorem ensures_readOnce {α : Type} {P : α → Prop} {field : String} {old : Option α}
    {value : Reader α} (h : Ensures P value) :
    Ensures (fun a => ∀ b ∈ a, P b) (readOnce field old value) := by
  unfold readOnce
  split
  · exact ensures_fail _
  · refine ensures_after fun _ => Ensures.map fun s a t hrun => ?_
    rintro _ ⟨⟩
    exact h s a t hrun

theorem ensures_need {α : Type} {P : α → Prop} {missing : String → Json.Cause} {field : String}
    {value : Option α} (h : ∀ a ∈ value, P a) :
    Ensures P (ofExcept (Fields.need missing field value)) :=
  ensures_ofExcept fun a ha => h a (need_eq_ok ha)

def FiniteAttributes (attributes : NameMap Pattern) : Prop :=
  ∀ p ∈ attributes.toList, AllFinite p.2.numbers

namespace EntryFields

structure Finite (f : EntryFields) : Prop where
  value : ∀ value ∈ f.value, ∀ p ∈ value, AllFinite p.numbers
  attributes : ∀ attributes ∈ f.attributes, FiniteAttributes attributes

theorem finite_empty : Finite {} := ⟨nofun, nofun⟩

theorem Finite.build {f : EntryFields} (hf : f.Finite) (id : String) :
    AllFinite (f.build id).numbers := by
  refine allFinite_flatMap.2 fun p hp => ?_
  rcases List.mem_append.1 hp with hp | hp
  · cases hvalue : f.value with
    | none => simp [EntryFields.build, hvalue] at hp
    | some value =>
        refine hf.value value hvalue p (Option.mem_toList.1 ?_)
        simpa [EntryFields.build, hvalue] using hp
  · obtain ⟨q, hq, rfl⟩ := List.mem_map.1 hp
    cases hattributes : f.attributes with
    | none => simp [EntryFields.build, hattributes, NameMap.empty] at hq
    | some attributes =>
        refine hf.attributes attributes hattributes q ?_
        simpa [EntryFields.build, hattributes] using hq

end EntryFields

section

variable [NumberSource]

theorem Pattern.ensures_read (level : Nat) :
    Ensures (fun p => AllFinite p.numbers) (Pattern.read level) :=
  (ensures_valueAt level).bind fun v hv => ensures_ofExcept (Pattern.finite_ofJson v hv)

theorem ensures_readAttributes (level : Nat) : Ensures FiniteAttributes (readAttributes level) := by
  refine ensures_map (fun level acc name hacc => ensures_after fun _ => ?_) nofun level
  refine (Pattern.ensures_read level).bind fun p hp => ensures_pure ?_
  intro q hq
  rcases Pairs.mem_insert hq with rfl | hq
  · exact hp
  · exact hacc q hq

namespace EntryFields

theorem ensures_readMember (level : Nat) (f : EntryFields) (key : String) (hf : f.Finite) :
    Ensures Finite (readMember level f key) := by
  unfold readMember
  split
  · exact ensures_after fun _ => ensures_pure ⟨hf.value, hf.attributes⟩
  split
  · have hread := ensures_optional (Pattern.ensures_read level)
    exact (ensures_readOnce hread).bind fun _ hvalue => ensures_pure ⟨hvalue, hf.attributes⟩
  split
  · have hread := ensures_readAttributes level
    exact (ensures_readOnce hread).bind fun _ hattributes => ensures_pure ⟨hf.value, hattributes⟩
  · exact ensures_after fun _ => ensures_pure hf

end EntryFields

theorem Entry.ensures_read (level : Nat) :
    Ensures (fun e => AllFinite e.numbers) (Entry.read level) := by
  refine ensures_record entryTitle (fun level => ?_) (fun level => ?_) level
  · refine ensures_after fun _ => ensures_after fun id => ?_
    refine (ensures_item? (ensures_optional (Pattern.ensures_read level)) false).bind
      fun value hvalue => ?_
    refine (ensures_item? (ensures_readAttributes level) false).bind
      fun attributes hattributes => ?_
    have hf : EntryFields.Finite ⟨some id, value, attributes⟩ := ⟨hvalue, hattributes⟩
    exact ensures_pure (hf.build id)
  · have hfields := ensures_foldMembers (EntryFields.ensures_readMember level)
      EntryFields.finite_empty
    exact hfields.bind fun f hf => ensures_after fun id => ensures_pure (hf.build id)

namespace Resource

theorem ensures_readMember (level : Nat) (body : Option (List Entry)) (key : String)
    (hbody : ∀ entries ∈ body, ∀ e ∈ entries, AllFinite e.numbers) :
    Ensures (fun body : Option (List Entry) => ∀ entries ∈ body, ∀ e ∈ entries, AllFinite e.numbers)
      (readMember level body key) := by
  unfold readMember
  split
  · exact ensures_readOnce (ensures_list Entry.ensures_read level)
  · exact ensures_after fun _ => ensures_pure hbody

theorem ensures_read (level : Nat) : Ensures (fun r => AllFinite r.numbers) (read level) := by
  refine ensures_record resourceTitle (fun level => ?_) (fun level => ?_) level
  · have hitem := ensures_item? (ensures_list Entry.ensures_read level) true
    exact hitem.bind fun body hbody => (ensures_need hbody).bind fun entries hentries =>
      ensures_pure (allFinite_flatMap.2 hentries)
  · have hnone : ∀ entries ∈ (none : Option (List Entry)), ∀ e ∈ entries, AllFinite e.numbers :=
      nofun
    have hfold := ensures_foldMembers (ensures_readMember level) hnone
    exact hfold.bind fun body hbody => (ensures_need hbody).bind fun entries hentries =>
      ensures_pure (allFinite_flatMap.2 hentries)

theorem numbers_of_ofText {text : List Char} {r : Resource} (h : ofText text = .ok r) :
    AllFinite r.numbers :=
  of_run (ensures_read maxDepth) h

end Resource

/-- Whatever is written with finite numbers only and few enough brackets inside of each other is
read again as the same. -/
def ReadsBack {α : Type} (read : Nat → Reader α) (toJson : α → Json)
    (numbers : α → List Binary64) : Prop :=
  ∀ a, AllFinite (numbers a) → (toJson a).nesting ≤ maxDepth → run read (toJson a).chars = .ok a

/-- Every part of a resource, and the resource, reads back from the text it is written as; so
reading and writing a resource makes no difference to what is read next. -/
theorem Resource.reads_back [NumberSource.Faithful] :
    ReadsBack Literal.read Literal.toJson Literal.numbers ∧
    ReadsBack Expression.read Expression.toJson Expression.numbers ∧
    ReadsBack Argument.read Argument.toJson Argument.numbers ∧
    ReadsBack Variant.read Variant.toJson Variant.numbers ∧
    ReadsBack Element.read Element.toJson Element.numbers ∧
    ReadsBack Pattern.read Pattern.toJson Pattern.numbers ∧
    ReadsBack Entry.read Entry.toJson Entry.numbers ∧
    ReadsBack Resource.read Resource.toJson Resource.numbers ∧
    ∀ text r, Resource.ofText text = .ok r → r.toJson.nesting ≤ maxDepth →
      Resource.ofText r.toJson.chars = .ok r := by
  have hresource : ReadsBack Resource.read Resource.toJson Resource.numbers := fun r h hlevel =>
    run_of_reads (Resource.reads h hlevel)
  refine ⟨?_, ?_, ?_, ?_, ?_, ?_, ?_, hresource, ?_⟩
  · exact fun l h hlevel => run_of_reads (Literal.reads h hlevel)
  · exact fun e h hlevel => run_of_reads (Expression.reads h hlevel)
  · exact fun a h hlevel => run_of_reads (Argument.reads h hlevel)
  · exact fun v h hlevel => run_of_reads (Variant.reads h hlevel)
  · exact fun e h hlevel => run_of_reads (Element.reads h hlevel)
  · exact fun p h hlevel => run_of_reads (Pattern.reads h hlevel)
  · exact fun e h hlevel => run_of_reads (Entry.reads h hlevel)
  · exact fun text r h hlevel => hresource r (Resource.numbers_of_ofText h) hlevel

end

def shareResource : Resource where
  body :=
    [{ id := "share"
       value := some (.complex
        [.placeable (.select (.variable "count")
          [.mk (.text "one") (.text "one part"),
            .mk (.number .zero 1) (.text "nothing")] 0)])
       attributes := NameMap.empty.insert "unit" (.text "%") }]

theorem shareResource_reads_back :
    AllFinite shareResource.numbers ∧ shareResource.toJson.nesting ≤ maxDepth ∧
      Resource.ofText shareResource.toJson.chars = .ok shareResource := by
  have hfinite : AllFinite shareResource.numbers := by
    intro x hx
    rw [List.mem_singleton.1 hx]
    rfl
  have hnesting : shareResource.toJson.nesting ≤ maxDepth := by decide
  obtain ⟨-, -, -, -, -, -, -, hresource, -⟩ := Resource.reads_back
  exact ⟨hfinite, hnesting, hresource shareResource hfinite hnesting⟩

end Phrasebook
