import Mathlib.Logic.Relation
import Phrasebook.Proofs.Resolution.Footprint

/-!
# Where problems come from

The check goes through all that is written in a pattern: what a run can resolve, and also the
arguments of a term, which no run resolves. It finds a problem exactly if an expression is written
there, at any depth, with which something is wrong by itself.
-/

namespace Phrasebook

/-- The expressions that stand right inside of an expression.  The positional arguments of a term
are among them, though they are not resolved. -/
def Expression.parts : Expression → List Expression
  | .term _ _ (some arguments) => arguments.filterMap Argument.expression?
  | e => e.inner

def Expression.Writes : Expression → Expression → Prop :=
  Relation.ReflTransGen fun outer part => part ∈ outer.parts

def Pattern.Writes (p : Pattern) (e : Expression) : Prop := ∃ placed ∈ p.inner, placed.Writes e

section Size

variable {e : Expression}

theorem Argument.sizeOf_lt_of_mem {arguments : List Argument}
    (he : e ∈ arguments.filterMap Argument.expression?) : sizeOf e < sizeOf arguments := by
  obtain ⟨argument, hargument, hpositional⟩ := List.mem_filterMap.1 he
  have hlt : sizeOf argument < sizeOf arguments := List.sizeOf_lt_of_mem hargument
  cases argument with
  | named name value => cases hpositional
  | positional e' =>
      cases hpositional
      simp only [Argument.positional.sizeOf_spec] at hlt
      omega

theorem Pattern.sizeOf_lt_of_inner {p : Pattern} (he : e ∈ p.inner) : sizeOf e < sizeOf p := by
  cases p with
  | text s => cases he
  | complex elements =>
      obtain ⟨element, helement, hplaced⟩ := List.mem_filterMap.1 he
      have hlt : sizeOf element < sizeOf elements := List.sizeOf_lt_of_mem helement
      cases element with
      | text s => cases hplaced
      | placeable e' =>
          cases hplaced
          simp only [Element.placeable.sizeOf_spec] at hlt
          simp only [Pattern.complex.sizeOf_spec]
          omega

theorem Variant.sizeOf_lt_of_mem {variants : List Variant}
    (he : e ∈ variants.flatMap fun v => v.value.inner) : sizeOf e < sizeOf variants := by
  obtain ⟨⟨key, value⟩, hv, he⟩ := List.mem_flatMap.1 he
  have hinner : sizeOf e < sizeOf value := Pattern.sizeOf_lt_of_inner he
  have hlt := List.sizeOf_lt_of_mem hv
  simp only [Variant.mk.sizeOf_spec] at hlt
  omega

/-- Parts are smaller, so there is no end to going through them but the innermost. -/
theorem Expression.sizeOf_lt_of_parts {part : Expression} (h : part ∈ e.parts) :
    sizeOf part < sizeOf e := by
  cases e with
  | literal | «variable» | message => simp [parts, inner] at h
  | term name attr arguments =>
      cases arguments with
      | none => simp [parts, inner] at h
      | some arguments =>
          have hlt := Argument.sizeOf_lt_of_mem h
          simp only [term.sizeOf_spec, Option.some.sizeOf_spec]
          omega
  | call name arguments =>
      have hlt := Argument.sizeOf_lt_of_mem h
      simp only [call.sizeOf_spec]
      omega
  | select selector variants star =>
      simp only [select.sizeOf_spec]
      rcases List.mem_cons.1 h with rfl | h
      · omega
      · have hlt := Variant.sizeOf_lt_of_mem h
        omega

end Size

namespace Bundle

variable [FormatterSource] {γ : Type}

/-- What is wrong with an expression, apart from what stands inside of it: the message, the term,
the attribute or the function is absent, or the star points behind the variants. -/
inductive Wrong (b : Bundle γ) : Expression → ReferenceProblem → Prop where
  | message {id : String} (attr : Option String) :
      b.message? id = none →
        Wrong b (.message id attr) (.unknownMessage id (suggestions id b.messageIds))
  | messageAttribute {id attr : String} {m : Message} :
      b.message? id = some m → m.attributes.get? attr = none →
        Wrong b (.message id (some attr)) (.unknownMessageAttribute id attr)
  | term {name : String} (attr : Option String) (arguments : Option (List Argument)) :
      b.term? (Expression.termId name) = none →
        Wrong b (.term name attr arguments)
          (.unknownTerm (Expression.termId name)
            (suggestions (Expression.termId name) b.termIds))
  | termAttribute {name attr : String} (arguments : Option (List Argument)) {t : Term} :
      b.term? (Expression.termId name) = some t → t.attributes.get? attr = none →
        Wrong b (.term name (some attr) arguments)
          (.unknownTermAttribute (Expression.termId name) attr)
  | function {name : String} (arguments : List Argument) :
      b.function? name = none →
        Wrong b (.call name arguments)
          (.unknownFunction name (suggestions name b.functions.names))
  | star (selector : Expression) {variants : List Variant} {star : UInt64} :
      variants.length ≤ star.toNat →
        Wrong b (.select selector variants star) (.invalidDefaultVariant star variants.length)

variable {b : Bundle γ} {problem : ReferenceProblem}

theorem mem_messageProblems {id : String} {attr : Option String} :
    problem ∈ b.messageProblems id attr ↔ b.Wrong (.message id attr) problem := by
  unfold messageProblems
  cases hm : b.message? id with
  | none => grind [Wrong]
  | some m =>
      cases attr with
      | none => grind [Wrong]
      | some attr => cases ha : m.attributes.get? attr <;> grind [Wrong, NameMap.contains]

theorem mem_termProblems {name : String} {attr : Option String}
    (arguments : Option (List Argument)) :
    problem ∈ b.termProblems name attr ↔ b.Wrong (.term name attr arguments) problem := by
  unfold termProblems
  cases ht : b.term? (Expression.termId name) with
  | none => grind [Wrong]
  | some t =>
      cases attr with
      | none => grind [Wrong]
      | some attr => cases ha : t.attributes.get? attr <;> grind [Wrong, NameMap.contains]

theorem mem_callProblems {name : String} (arguments : List Argument) :
    problem ∈ b.callProblems name ↔ b.Wrong (.call name arguments) problem := by
  unfold callProblems
  cases hf : b.function? name <;> grind [Wrong]

theorem mem_starProblems (selector : Expression) {variants : List Variant} {star : UInt64} :
    problem ∈ starProblems star variants.length ↔
      b.Wrong (.select selector variants star) problem := by
  unfold starProblems
  by_cases h : variants.length ≤ star.toNat <;> grind [Wrong]

/-- What is wrong with an expression is wrong with itself or with one of its parts. -/
theorem mem_problems {e : Expression} :
    problem ∈ e.problems b ↔
      b.Wrong e problem ∨ ∃ part ∈ e.parts, problem ∈ part.problems b := by
  cases e with
  | literal | «variable» =>
      constructor
      · intro h
        cases h
      · rintro (h | ⟨part, hpart, -⟩)
        · cases h
        · cases hpart
  | message id attr =>
      simp [Expression.problems, Expression.parts, Expression.inner, mem_messageProblems]
  | term name attr arguments =>
      cases arguments with
      | none =>
          simp [Expression.problems, Expression.parts, Expression.inner, mem_termProblems none]
      | some arguments =>
          rw [Expression.problems, List.mem_append, mem_termProblems (some arguments),
            Argument.listProblems_eq, List.mem_flatMap]
          rfl
  | call name arguments =>
      rw [Expression.problems, List.mem_append, mem_callProblems arguments,
        Argument.listProblems_eq, List.mem_flatMap]
      rfl
  | select selector variants star =>
      have hvariants : problem ∈ Variant.listProblems b variants ↔
          ∃ part ∈ variants.flatMap (fun v => v.value.inner), problem ∈ part.problems b := by
        simp only [Variant.listProblems_eq, Pattern.problems_eq]
        rw [← List.flatMap_assoc, List.mem_flatMap]
      rw [Expression.problems, List.mem_append, List.mem_append, mem_starProblems selector]
      simp only [hvariants, Expression.parts, Expression.inner, List.mem_cons, exists_eq_or_imp]
      exact or_assoc.trans or_left_comm

theorem mem_problems_iff_writes {e : Expression} :
    problem ∈ e.problems b ↔ ∃ part, e.Writes part ∧ b.Wrong part problem := by
  constructor
  · intro h
    rcases mem_problems.1 h with hwrong | ⟨part, hpart, hproblem⟩
    · exact ⟨e, .refl, hwrong⟩
    · obtain ⟨inner, hwrites, hwrong⟩ := mem_problems_iff_writes.1 hproblem
      exact ⟨inner, .head hpart hwrites, hwrong⟩
  · rintro ⟨part, hwrites, hwrong⟩
    induction hwrites using Relation.ReflTransGen.head_induction_on with
    | refl => exact mem_problems.2 (.inl hwrong)
    | head hpart _ ih => exact mem_problems.2 (.inr ⟨_, hpart, ih⟩)
termination_by sizeOf e
decreasing_by exact Expression.sizeOf_lt_of_parts hpart

/-- The check of a pattern finds what is wrong with the expressions that are written in it. -/
theorem mem_patternProblems {p : Pattern} :
    problem ∈ p.problems b ↔ ∃ e, p.Writes e ∧ b.Wrong e problem := by
  rw [Pattern.problems_eq, List.mem_flatMap]
  constructor
  · rintro ⟨placed, hplaced, h⟩
    obtain ⟨e, hwrites, hwrong⟩ := mem_problems_iff_writes.1 h
    exact ⟨e, ⟨placed, hplaced, hwrites⟩, hwrong⟩
  · rintro ⟨e, ⟨placed, hplaced, hwrites⟩, hwrong⟩
    exact ⟨placed, hplaced, mem_problems_iff_writes.2 ⟨e, hwrites, hwrong⟩⟩

end Bundle

end Phrasebook
