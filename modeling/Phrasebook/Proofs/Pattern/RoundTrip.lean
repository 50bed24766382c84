import Phrasebook.Proofs.Pattern.Decoding
import Phrasebook.Proofs.Pattern.Numbers

/-!
# Written patterns read back

The text that a node, a variant, a pattern or an element is written as is read as it again. The tag
of a node stands first, so it is read in place and the members behind it are read as documents; both
go through the same fields as the decoding of a whole document.
-/

namespace Phrasebook

open Json (NumberSource Reader MembersWritable membersNesting)
open Json.Reader
open Binary64 (AllFinite allFinite_append)

/-- A field that was not met yet is read over its colon. -/
theorem readsMember_readOnce {α σ : Type} {member : σ → String → Reader σ} {acc acc' : σ}
    {m : String × Json} {value : Reader α} {next : Option α → Reader σ} {a : α}
    (heq : member acc m.1 = readOnce m.1 none value >>= next) (hnext : next (some a) = pure acc')
    (h : Reads value m.2 a) : ReadsMember member acc m acc' := by
  intro rest hrest
  have honce : Yields (readOnce m.1 none value) (':' :: (m.2.chars ++ rest)) (some a) rest :=
    (yields_colon _).bind ((h rest hrest).map some)
  rw [heq]
  refine honce.bind ?_
  rw [hnext]
  exact yields_pure acc' rest

variable [NumberSource]

theorem Tag.reads (tag : Tag) : Reads Tag.read (.string tag.name) tag := by
  refine (reads_text "variant identifier" tag.name).bind fun rest => ?_
  rw [tag.ofName_name]
  exact yields_pure tag rest

namespace NodeBody

variable {level : Nat} {ms : List (String × Json)}

theorem readsMember_type (level : Nat) (tag : Tag) :
    ReadsMember (readMember level) (none, []) ("type", .string tag.name) (some tag, []) :=
  .of_colon rfl (tag.reads.bind fun rest => yields_pure _ rest)

/-- Behind the tag every member is pushed as it stands. -/
theorem readsMembers (tag : Tag) (hms : ∀ m ∈ ms, m.1 ≠ "type")
    (h : ∀ m ∈ ms, Reads (valueAt level) m.2 m.2) (acc : List (String × Json)) :
    ReadsMembers (readMember level) (some tag, acc) ms (some tag, ms.reverse ++ acc) := by
  induction ms generalizing acc with
  | nil => exact .nil _
  | cons m ms ih =>
      have hkey : ¬m.1 = "type" := hms m List.mem_cons_self
      have hmember : ReadsMember (readMember level) (some tag, acc) m (some tag, m :: acc) := by
        intro rest hrest
        have hpush : Yields (pushMember (valueAt level) acc m.1) (':' :: (m.2.chars ++ rest))
            (m :: acc) rest :=
          (yields_colon _).bind ((h m List.mem_cons_self rest hrest).bind (yields_pure _ rest))
        unfold readMember
        rw [if_neg hkey]
        exact hpush.bind (yields_pure _ rest)
      have hrest := ih (fun m hm => hms m (List.mem_cons_of_mem _ hm))
        (fun m hm => h m (List.mem_cons_of_mem _ hm)) (m :: acc)
      rw [List.reverse_cons, List.append_assoc]
      exact .cons hmember hrest

/-- A tagged object is read as its tag and the members behind it. -/
theorem reads_tagged [NumberSource.Faithful] (tag : Tag) (hms : ∀ m ∈ ms, m.1 ≠ "type")
    (hwritable : MembersWritable ms) (hlevel : (Json.tagged tag.name ms).nesting ≤ level) :
    Reads (read level) (.tagged tag.name ms) (tag, .members ms) := by
  obtain ⟨level, rfl, hnesting⟩ := Json.exists_level_of_object hlevel
  have hvalues : ∀ m ∈ ms, Reads (valueAt level) m.2 m.2 := by
    intro m hm
    have hvalue : m.2.nesting ≤ membersNesting ms := Json.nesting_le_membersNesting hm
    have htail : membersNesting ms ≤ level := Nat.le_trans (Nat.le_max_right _ _) hnesting
    exact reads_valueAt level (Json.membersWritable_iff.1 hwritable m hm)
      (Nat.le_trans hvalue htail)
  have hmembers := ReadsMembers.cons (readsMember_type level tag) (readsMembers tag hms hvalues [])
  refine reads_record fun rest => (yields_foldMembers hmembers rest).bind ?_
  have hfields : (ms.reverse ++ []).reverse = ms := by simp
  dsimp only
  rw [hfields]
  exact yields_pure _ _

end NodeBody

section

variable [NumberSource.Faithful] {level : Nat}

theorem Argument.reads_node {a : Argument} (h : AllFinite a.numbers)
    (hlevel : a.toJson.nesting ≤ level) : Reads (Node.read level) a.toJson a.toNode := by
  have hwritable := a.writable_toJson h
  rw [a.toJson_eq_tagged] at hwritable hlevel ⊢
  exact (NodeBody.reads_tagged a.toNode.tag a.no_type hwritable.2 hlevel).ofExcept a.decode_toJson

theorem Argument.reads {a : Argument} (h : AllFinite a.numbers)
    (hlevel : a.toJson.nesting ≤ level) : Reads (Argument.read level) a.toJson a :=
  (Argument.reads_node h hlevel).ofExcept a.ofNode_toNode

theorem Expression.reads {e : Expression} (h : AllFinite e.numbers)
    (hlevel : e.toJson.nesting ≤ level) : Reads (Expression.read level) e.toJson e :=
  (Argument.reads_node (a := .positional e) h hlevel).ofExcept e.ofNode_toNode

theorem Literal.reads {l : Literal} (h : AllFinite l.numbers) (hlevel : l.toJson.nesting ≤ level) :
    Reads (Literal.read level) l.toJson l :=
  (Argument.reads_node (a := .positional (.literal l)) h hlevel).ofExcept l.ofNode_toNode

theorem Pattern.reads {p : Pattern} (h : AllFinite p.numbers) (hlevel : p.toJson.nesting ≤ level) :
    Reads (Pattern.read level) p.toJson p :=
  (reads_valueAt level (p.writable_toJson h) hlevel).ofExcept p.ofJson_toJson

theorem Element.reads {e : Element} (h : AllFinite e.numbers) (hlevel : e.toJson.nesting ≤ level) :
    Reads (Element.read level) e.toJson e :=
  (reads_valueAt level (e.writable_toJson h) hlevel).ofExcept e.ofJson_toJson

theorem Variant.reads {v : Variant} (h : AllFinite v.numbers) (hlevel : v.toJson.nesting ≤ level) :
    Reads (Variant.read level) v.toJson v := by
  obtain ⟨key, value⟩ := v
  obtain ⟨hkey, hvalue⟩ := allFinite_append.1 h
  obtain ⟨level, rfl, hnesting⟩ := Json.exists_level_of_object hlevel
  have hnesting' : max key.toJson.nesting (max value.toJson.nesting 0) ≤ level := hnesting
  have hkeyReads : Reads (Literal.read level) key.toJson key := Literal.reads hkey (by omega)
  have hvalueReads : Reads (Pattern.read level) value.toJson value :=
    Pattern.reads hvalue (by omega)
  have hkeyMember : ReadsMember (VariantFields.readMember level) {} ("key", key.toJson)
      { key := some key } :=
    readsMember_readOnce rfl rfl hkeyReads
  have hvalueMember : ReadsMember (VariantFields.readMember level) { key := some key }
      ("value", value.toJson) { key := some key, value := some value } :=
    readsMember_readOnce rfl rfl hvalueReads
  have hmembers := ReadsMembers.cons hkeyMember (.cons hvalueMember (.nil _))
  exact reads_record fun rest => (yields_foldMembers hmembers rest).bind (yields_pure _ _)

end

end Phrasebook
