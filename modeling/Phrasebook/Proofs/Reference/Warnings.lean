import Mathlib.Data.List.Nodup
import Phrasebook.Proofs.Reference.Foresight
import Phrasebook.Proofs.Reference.Occurrences
import Phrasebook.Proofs.Reference.Suggestions
import Phrasebook.Proofs.Registration.History

/-!
# Reference warnings are exact and canonical

The check takes the registered patterns in the order of what they are registered as, and for each it
lists what is wrong with the expressions written there. The tables are kept in the order of their
names, so nothing is left of the order in which entries and functions were registered.
-/

namespace Phrasebook

namespace NameMap

variable {α β : Type} {m m' : NameMap α} {name : String} {value : α}

theorem get?_of_mem (h : (name, value) ∈ m.toList) : m.get? name = some value := by
  obtain ⟨pairs, hascending⟩ := m
  show Pairs.get? name pairs = some value
  induction pairs with
  | nil => cases h
  | cons first rest ih =>
      obtain ⟨hfirst, hrest⟩ := List.pairwise_cons.1 hascending
      rcases List.mem_cons.1 h with rfl | h
      · simp [Pairs.get?]
      · have hne : first.1 ≠ name := by
          intro heq
          exact String.lt_irrefl name (heq ▸ hfirst (name, value) h)
        rw [Pairs.get?, if_neg hne]
        exact ih hrest h

theorem mem_toList : (name, value) ∈ m.toList ↔ m.get? name = some value :=
  ⟨get?_of_mem, mem_of_get?⟩

/-- Tables that answer every lookup alike are equal. -/
theorem ext_get? (h : ∀ name, m'.get? name = m.get? name) : m' = m := by
  apply eq_of_toList
  apply eq_of_pairwise_of_mem_iff _ m.ascending m'.ascending
  · rintro ⟨name, value⟩
    rw [mem_toList, mem_toList, h]
  · intro p q hpq hqp
    exact String.lt_irrefl p.1 (String.lt_trans hpq hqp)

/-- Tables with the same names list them alike, whatever they hold. -/
theorem names_congr {m : NameMap α} {m' : NameMap β}
    (h : ∀ name, (m'.get? name).isSome = (m.get? name).isSome) : m'.names = m.names := by
  have hunits : (m'.mapValues fun _ => ()) = m.mapValues fun _ => () := by
    apply ext_get?
    intro name
    have hname := h name
    rw [get?_mapValues, get?_mapValues]
    cases hget : m.get? name <;> cases hget' : m'.get? name <;> simp_all
  have hnames := congrArg names hunits
  simpa [names, mapValues, Function.comp_def] using hnames

theorem isSome_get?_insertAll (m : NameMap α) (pairs : List (String × α)) (name : String) :
    ((m.insertAll pairs).get? name).isSome ↔
      (m.get? name).isSome ∨ name ∈ pairs.map Prod.fst := by
  induction pairs generalizing m with
  | nil => simp [insertAll]
  | cons p rest ih =>
      have hall : m.insertAll (p :: rest) = (m.insert p.1 p.2).insertAll rest := rfl
      rw [hall, ih, get?_insert]
      by_cases hname : p.1 = name
      · simp [hname]
      · simp [hname, Ne.symm hname]

end NameMap

def PartBefore : Option String → Option String → Prop
  | none, some _ => True
  | some a, some b => a < b
  | _, none => False

/-- Messages before terms, each by ascending id, and within an entry its value first. -/
def Target.Before : Target → Target → Prop
  | .message .., .term .. => True
  | .term .., .message .. => False
  | .message id attr, .message id' attr' => id < id' ∨ id = id' ∧ PartBefore attr attr'
  | .term id attr, .term id' attr' => id < id' ∨ id = id' ∧ PartBefore attr attr'

namespace Bundle

section Tables

variable {target : Option String → Target} {t : Target} {p : Pattern} {value : Option Pattern}
  {attributes : NameMap Pattern}

def entryPattern? (value : Option Pattern) (attributes : NameMap Pattern) :
    Option String → Option Pattern
  | none => value
  | some attr => attributes.get? attr

def entryPatterns (target : Option String → Target) (value : Option Pattern)
    (attributes : NameMap Pattern) : List (Target × Pattern) :=
  value.toList.map (Prod.mk (target none)) ++
    attributes.toList.map fun a => (target (some a.1), a.2)

def tablePatterns {α : Type} (target : String → Option String → Target)
    (value : α → Option Pattern) (attributes : α → NameMap Pattern) (table : NameMap α) :
    List (Target × Pattern) :=
  table.toList.flatMap fun e => entryPatterns (target e.1) (value e.2) (attributes e.2)

theorem mem_entryPatterns :
    (t, p) ∈ entryPatterns target value attributes ↔
      ∃ attr, t = target attr ∧ entryPattern? value attributes attr = some p := by
  simp only [entryPatterns, List.mem_append, List.mem_map, Option.mem_toList, Prod.mk.injEq]
  constructor
  · rintro (⟨p', hp', rfl, rfl⟩ | ⟨⟨attr, p'⟩, hp', rfl, rfl⟩)
    · exact ⟨none, rfl, hp'⟩
    · exact ⟨some attr, rfl, NameMap.get?_of_mem hp'⟩
  · rintro ⟨attr, rfl, hget⟩
    cases attr with
    | none => exact .inl ⟨p, hget, rfl, rfl⟩
    | some attr => exact .inr ⟨(attr, p), NameMap.mem_of_get? hget, rfl, rfl⟩

theorem mem_tablePatterns {α : Type} {target : String → Option String → Target}
    {value : α → Option Pattern} {attributes : α → NameMap Pattern} {table : NameMap α} :
    (t, p) ∈ tablePatterns target value attributes table ↔
      ∃ id e, table.get? id = some e ∧
        ∃ attr, t = target id attr ∧ entryPattern? (value e) (attributes e) attr = some p := by
  simp only [tablePatterns, List.mem_flatMap, Prod.exists, NameMap.mem_toList, mem_entryPatterns]

/-- Within an entry the value comes first, then the attributes by their names. -/
theorem pairwise_entryPatterns (value : Option Pattern) (attributes : NameMap Pattern)
    (htarget : ∀ attr attr', PartBefore attr attr' → (target attr).Before (target attr')) :
    (entryPatterns target value attributes).Pairwise fun x y => x.1.Before y.1 := by
  apply List.pairwise_append.2
  refine ⟨?_, ?_, ?_⟩
  · cases value with
    | none => exact List.Pairwise.nil
    | some p => exact List.pairwise_singleton _ _
  · apply List.pairwise_map.2
    apply attributes.ascending.imp
    intro x y hlt
    exact htarget (some x.1) (some y.1) hlt
  · intro x hx y hy
    obtain ⟨p, -, rfl⟩ := List.mem_map.1 hx
    obtain ⟨a, -, rfl⟩ := List.mem_map.1 hy
    exact htarget none (some a.1) trivial

/-- Within a table the entries are in the order of their ids. -/
theorem pairwise_tablePatterns {α : Type} {target : String → Option String → Target}
    (value : α → Option Pattern) (attributes : α → NameMap Pattern) (table : NameMap α)
    (htarget : ∀ id id' attr attr', id < id' ∨ id = id' ∧ PartBefore attr attr' →
      (target id attr).Before (target id' attr')) :
    (tablePatterns target value attributes table).Pairwise fun x y => x.1.Before y.1 := by
  apply List.pairwise_flatMap.2
  constructor
  · intro e _
    apply pairwise_entryPatterns
    intro attr attr' hbefore
    exact htarget e.1 e.1 attr attr' (.inr ⟨rfl, hbefore⟩)
  · apply table.ascending.imp
    intro e e' hlt x hx y hy
    obtain ⟨attr, hattr, -⟩ := mem_entryPatterns.1 hx
    obtain ⟨attr', hattr', -⟩ := mem_entryPatterns.1 hy
    rw [hattr, hattr']
    exact htarget e.1 e'.1 attr attr' (.inl hlt)

end Tables

theorem registered_of_suggested {α : Type} {table : NameMap α} {key name : String}
    (h : name ∈ suggestions key table.names) : (table.get? name).isSome ∧ name ≠ key := by
  obtain ⟨hmem, hne, -⟩ := (closestOf_suggestions key table.names).close name h
  exact ⟨NameMap.mem_names.1 hmem, hne⟩

section Orders

variable {handed handed' : List Submission} {id : String}

/-- Where no two entries have one id, each that is well-formed stands. -/
theorem standing?_eq_some_iff (hids : (handed.map fun s => s.entry.id).Nodup) {e : Entry} :
    standing? id handed = some e ↔
      e ∈ handed.map Submission.entry ∧ e.id = id ∧ e.isWellFormed := by
  constructor
  · intro h
    obtain ⟨s, hs, rfl⟩ := exists_candidate_of_standing? h
    exact ⟨List.mem_map_of_mem (List.mem_filter.1 hs).1, mem_candidates_of_standing? h⟩
  · rintro ⟨he, hid, hwell⟩
    obtain ⟨s, hs, rfl⟩ := List.mem_map.1 he
    have hcandidate : s ∈ candidates id handed := by
      simp [candidates, hs, hid, hwell]
    cases hstanding : standing? id handed with
    | none =>
        rw [standing?_eq_none_iff.1 hstanding] at hcandidate
        cases hcandidate
    | some e =>
        obtain ⟨s', hs', rfl⟩ := exists_candidate_of_standing? hstanding
        obtain ⟨hmem', hid'⟩ := List.mem_filter.1 hs'
        have hsame : s'.entry.id = s.entry.id := by
          rw [hid, (of_decide_eq_true hid').1]
        rw [List.inj_on_of_nodup_map hids hmem' hs hsame]

theorem standing?_eq_of_perm
    (hperm : (handed'.map Submission.entry).Perm (handed.map Submission.entry))
    (hids : (handed.map fun s => s.entry.id).Nodup) (id : String) :
    standing? id handed' = standing? id handed := by
  have hids' : (handed'.map fun s => s.entry.id).Nodup := by
    have hsame := hperm.map Entry.id
    rw [List.map_map, List.map_map] at hsame
    exact hsame.nodup_iff.2 hids
  apply Option.ext
  intro e
  rw [standing?_eq_some_iff hids', standing?_eq_some_iff hids, hperm.mem_iff]

end Orders

section

variable [FormatterSource] {γ : Type} {b : Bundle γ}

def patterns (b : Bundle γ) : List (Target × Pattern) :=
  tablePatterns .message Message.value Message.attributes b.entries.messages ++
    tablePatterns .term (fun t => some t.value) Term.attributes b.entries.terms

section Patterns

variable {t : Target} {p : Pattern}

theorem messagePattern_eq_ok_iff {id : String} {attr : Option String} :
    b.messagePattern id attr = .ok p ↔
      ∃ m, b.message? id = some m ∧ entryPattern? m.value m.attributes attr = some p := by
  unfold messagePattern
  cases hm : b.message? id with
  | none => simp
  | some m =>
      cases attr with
      | none => cases hvalue : m.value <;> simp [entryPattern?, hvalue]
      | some attr => cases hattr : m.attributes.get? attr <;> simp [entryPattern?, hattr]

theorem termPattern_eq_ok_iff {id : String} {attr : Option String} :
    b.termPattern id attr = .ok p ↔
      ∃ t, b.term? id = some t ∧ entryPattern? (some t.value) t.attributes attr = some p := by
  unfold termPattern
  cases ht : b.term? id with
  | none => simp
  | some t =>
      cases attr with
      | none => simp [entryPattern?]
      | some attr => cases hattr : t.attributes.get? attr <;> simp [entryPattern?, hattr]

/-- What is checked are the patterns that a reference can lead to. -/
theorem mem_patterns : (t, p) ∈ b.patterns ↔ b.targetPattern t = .ok p := by
  simp only [patterns, List.mem_append, mem_tablePatterns]
  cases t with
  | message id attr => simp [targetPattern, messagePattern_eq_ok_iff, message?]
  | term id attr => simp [targetPattern, termPattern_eq_ok_iff, term?]

theorem pairwise_patterns (b : Bundle γ) : b.patterns.Pairwise fun x y => x.1.Before y.1 := by
  apply List.pairwise_append.2
  refine ⟨?_, ?_, ?_⟩
  · apply pairwise_tablePatterns
    intro id id' attr attr' h
    exact h
  · apply pairwise_tablePatterns
    intro id id' attr attr' h
    exact h
  · intro x hx y hy
    obtain ⟨id, m, -, attr, hx, -⟩ := mem_tablePatterns.1 hx
    obtain ⟨id', t, -, attr', hy, -⟩ := mem_tablePatterns.1 hy
    rw [hx, hy]
    trivial

/-- All that is found wrong, with what it is found in. -/
def found (b : Bundle γ) : List (Target × ReferenceProblem) :=
  b.patterns.flatMap fun x => (x.2.problems b).map (Prod.mk x.1)

theorem checkReferences_eq (b : Bundle γ) :
    b.checkReferences = b.found.map fun x => ⟨x.1.key, x.2⟩ := by
  have hmessage (id : String) (m : Message) :
      b.messageWarnings id m =
        (entryPatterns (.message id) m.value m.attributes).flatMap fun x =>
          b.patternWarnings x.1.key x.2 := by
    rw [entryPatterns, List.flatMap_append, List.flatMap_map, List.flatMap_map]
    cases hvalue : m.value with
    | none => simp [messageWarnings, hvalue, attributeWarnings, Target.key, dotted]
    | some p => simp [messageWarnings, hvalue, attributeWarnings, Target.key, dotted]
  have hterm (id : String) (t : Term) :
      b.termWarnings id t =
        (entryPatterns (.term id) (some t.value) t.attributes).flatMap fun x =>
          b.patternWarnings x.1.key x.2 := by
    rw [entryPatterns, List.flatMap_append, List.flatMap_map, List.flatMap_map]
    simp [termWarnings, attributeWarnings, Target.key, dotted]
  simp only [checkReferences, hmessage, hterm, found, patterns, tablePatterns, List.flatMap_append,
    List.flatMap_assoc, List.map_append, List.map_flatMap, List.map_map]
  rfl

/-- The entries follow each other as the patterns do. -/
theorem pairwise_found (b : Bundle γ) : b.found.Pairwise fun x y => x.1 = y.1 ∨ x.1.Before y.1 := by
  apply List.pairwise_flatMap.2
  constructor
  · intro x _
    apply List.pairwise_map.2
    exact List.pairwise_of_forall fun _ _ => .inl rfl
  · apply b.pairwise_patterns.imp
    intro x y hbefore u hu v hv
    obtain ⟨problem, -, rfl⟩ := List.mem_map.1 hu
    obtain ⟨problem', -, rfl⟩ := List.mem_map.1 hv
    exact .inr hbefore

theorem mem_found {problem : ReferenceProblem} :
    (t, problem) ∈ b.found ↔
      ∃ p, b.targetPattern t = .ok p ∧ ∃ e, p.Writes e ∧ b.Wrong e problem := by
  simp only [found, List.mem_flatMap, List.mem_map, Prod.mk.injEq, ← mem_patterns,
    ← mem_patternProblems]
  constructor
  · rintro ⟨⟨t', p⟩, hp, problem', hproblem, rfl, rfl⟩
    exact ⟨p, hp, hproblem⟩
  · rintro ⟨p, hp, hproblem⟩
    exact ⟨(t, p), hp, problem, hproblem, rfl, rfl⟩

end Patterns

/-- What is suggested for a name is registered where the name was sought, and it is another name. -/
def SuggestsOthers (b : Bundle γ) : ReferenceProblem → Prop
  | .unknownMessage id names => ∀ n ∈ names, (b.message? n).isSome ∧ n ≠ id
  | .unknownTerm id names => ∀ n ∈ names, (b.term? n).isSome ∧ n ≠ id
  | .unknownFunction name names => ∀ n ∈ names, (b.function? n).isSome ∧ n ≠ name
  | .unknownMessageAttribute .. | .unknownTermAttribute .. | .invalidDefaultVariant .. => True

theorem Wrong.suggestsOthers {e : Expression} {problem : ReferenceProblem}
    (h : b.Wrong e problem) : b.SuggestsOthers problem := by
  cases h with
  | message | term | function =>
      intro n hn
      exact registered_of_suggested hn
  | messageAttribute | termAttribute | star => trivial

/-- Two bundles hold the same entries, and functions under the same names. -/
structure Alike {γ γ' : Type} (b : Bundle γ) (b' : Bundle γ') : Prop where
  messages : ∀ id, b'.message? id = b.message? id
  terms : ∀ id, b'.term? id = b.term? id
  functions : ∀ name, (b'.function? name).isSome = (b.function? name).isSome

section Alike

variable {γ' : Type} {b' : Bundle γ'} (h : b.Alike b')
include h

theorem Alike.entries_eq : b'.entries = b.entries := by
  have hmessages : b'.entries.messages = b.entries.messages := NameMap.ext_get? h.messages
  have hterms : b'.entries.terms = b.entries.terms := NameMap.ext_get? h.terms
  exact congrArg₂ Entries.mk hmessages hterms

theorem Alike.messageProblems_eq (id : String) (attr : Option String) :
    b'.messageProblems id attr = b.messageProblems id attr := by
  simp only [messageProblems, messageIds, h.messages, h.entries_eq]

theorem Alike.termProblems_eq (name : String) (attr : Option String) :
    b'.termProblems name attr = b.termProblems name attr := by
  simp only [termProblems, termIds, h.terms, h.entries_eq]

theorem Alike.callProblems_eq (name : String) : b'.callProblems name = b.callProblems name := by
  have hnames : b'.functions.names = b.functions.names := NameMap.names_congr h.functions
  simp only [callProblems, h.functions, hnames]

theorem Alike.problems_eq (e : Expression) : e.problems b' = e.problems b := by
  have hparts : ∀ part ∈ e.parts, part.problems b' = part.problems b := by
    intro part hpart
    exact problems_eq part
  cases e with
  | literal | «variable» => rfl
  | message id attr => exact h.messageProblems_eq id attr
  | term name attr arguments =>
      cases arguments with
      | none => exact h.termProblems_eq name attr
      | some arguments =>
          rw [Expression.problems, Expression.problems, h.termProblems_eq,
            Argument.listProblems_eq, Argument.listProblems_eq]
          exact congrArg _ (List.flatMap_congr hparts)
  | call name arguments =>
      rw [Expression.problems, Expression.problems, h.callProblems_eq, Argument.listProblems_eq,
        Argument.listProblems_eq]
      exact congrArg _ (List.flatMap_congr hparts)
  | select selector variants star =>
      obtain ⟨hselector, hvariants⟩ := List.forall_mem_cons.1 hparts
      rw [Expression.problems, Expression.problems, hselector, Variant.listProblems_eq,
        Variant.listProblems_eq]
      simp only [Pattern.problems_eq]
      rw [← List.flatMap_assoc, ← List.flatMap_assoc, List.flatMap_congr hvariants]
termination_by sizeOf e
decreasing_by exact Expression.sizeOf_lt_of_parts hpart

theorem Alike.checkReferences_eq : b'.checkReferences = b.checkReferences := by
  have hproblems : Expression.problems b' = Expression.problems b := funext h.problems_eq
  have hfound : b'.found = b.found := by
    simp only [found, patterns, h.entries_eq, Pattern.problems_eq, hproblems]
  rw [Bundle.checkReferences_eq, Bundle.checkReferences_eq, hfound]

end Alike

theorem functions_registerAll (b : Bundle γ) (calls : List Registration) :
    (b.registerAll calls).functions = b.functions := by
  induction calls generalizing b with
  | nil => rfl
  | cons c rest ih => exact ih (b.addResource c.override c.resource).1

theorem alike_registerAll {o o' : BundleOptions γ} {calls calls' : List Registration}
    (hfunctions : ∀ name, name ∈ o'.functions.map Prod.fst ↔ name ∈ o.functions.map Prod.fst)
    (hperm : ((submissions calls').map Submission.entry).Perm
      ((submissions calls).map Submission.entry))
    (hids : ((submissions calls).map fun s => s.entry.id).Nodup) :
    ((ofOptions o).registerAll calls).Alike ((ofOptions o').registerAll calls') := by
  have hreflects (o : BundleOptions γ) (calls : List Registration) :
      ((ofOptions o).registerAll calls).entries.Reflects ([] ++ submissions calls) :=
    reflects_registerAll Entries.reflects_empty calls
  have hstanding := standing?_eq_of_perm hperm hids
  refine ⟨?_, ?_, ?_⟩
  · intro id
    rw [message?, message?, (hreflects o calls).messages, (hreflects o' calls').messages]
    simp only [List.nil_append, hstanding]
  · intro id
    rw [term?, term?, (hreflects o calls).terms, (hreflects o' calls').terms]
    simp only [List.nil_append, hstanding]
  · intro name
    rw [Bool.eq_iff_iff, function?, function?, functions_registerAll, functions_registerAll]
    show ((Functions.builtins.insertAll _).get? name).isSome ↔
      ((Functions.builtins.insertAll _).get? name).isSome
    rw [NameMap.isSome_get?_insertAll, NameMap.isSome_get?_insertAll, hfunctions]

/-- The warnings are exact: there is one for a target exactly if the pattern of the target is
registered and an expression with which something is wrong is written in it, and what is suggested
is registered where the name was sought. Warnings come in the order of the targets, messages first.
They are canonical: another bundle with the same entries and function names has the same list, as
has one that was made by registering entries with different ids in another order. -/
theorem reference_warnings_exact_and_canonical (b : Bundle γ) :
    (∃ found : List (Target × ReferenceProblem),
      b.checkReferences = found.map (fun x => ⟨x.1.key, x.2⟩) ∧
      (∀ t problem, (t, problem) ∈ found ↔
        ∃ p, b.targetPattern t = .ok p ∧ ∃ e, p.Writes e ∧ b.Wrong e problem) ∧
      (∀ x ∈ found, b.SuggestsOthers x.2) ∧
      found.Pairwise fun x y => x.1 = y.1 ∨ x.1.Before y.1) ∧
    (∀ {γ' : Type} (b' : Bundle γ'), b.Alike b' → b'.checkReferences = b.checkReferences) ∧
    ∀ (o o' : BundleOptions γ) (calls calls' : List Registration),
      b = (ofOptions o).registerAll calls →
      (∀ name, name ∈ o'.functions.map Prod.fst ↔ name ∈ o.functions.map Prod.fst) →
      ((submissions calls').map Submission.entry).Perm
        ((submissions calls).map Submission.entry) →
      ((submissions calls).map fun s => s.entry.id).Nodup →
      ((ofOptions o').registerAll calls').checkReferences = b.checkReferences := by
  refine ⟨⟨b.found, b.checkReferences_eq, ?_, ?_, b.pairwise_found⟩, ?_, ?_⟩
  · intro t problem
    exact mem_found
  · rintro ⟨t, problem⟩ hx
    obtain ⟨p, -, e, -, hwrong⟩ := mem_found.1 hx
    exact hwrong.suggestsOthers
  · intro γ' b' halike
    exact halike.checkReferences_eq
  · rintro o o' calls calls' rfl hfunctions hperm hids
    exact (alike_registerAll hfunctions hperm hids).checkReferences_eq

end

/-- An attribute and a term with warnings, registered in two orders. -/
theorem warnings_of_two_orders :
    let placed (e : Expression) : Pattern := .complex [.placeable e]
    let hello : Entry :=
      ⟨"hello", some (.text "Hello"), .ofList [("to", placed (.message "helo" none))]⟩
    let today : Entry :=
      ⟨"-today", some (placed (.call "DATETIM" [.positional (.message "hello" none)])), .empty⟩
    let o : BundleOptions Empty := {}
    let calls : List Registration := [⟨false, ⟨[hello, today]⟩⟩]
    let calls' : List Registration := [⟨false, ⟨[today]⟩⟩, ⟨true, ⟨[hello]⟩⟩]
    let b := (ofOptions o).registerAll calls
    (b.checkReferences.map fun w => (w.entry, w.problem.error)) =
        [("hello.to", .unknownMessage "helo"), ("-today", .unknownFunction "DATETIM")] ∧
    { b with useIsolating := false }.checkReferences = b.checkReferences ∧
    ((ofOptions o).registerAll calls').checkReferences = b.checkReferences := by
  intro placed hello today o calls calls' b
  obtain ⟨-, halike, hcanonical⟩ := reference_warnings_exact_and_canonical b
  refine ⟨?_, ?_, ?_⟩
  · decide
  · exact halike _ ⟨fun _ => rfl, fun _ => rfl, fun _ => rfl⟩
  · apply hcanonical o o calls calls' rfl
    · intro name
      rfl
    · exact List.Perm.swap _ _ _
    · decide

end Bundle

end Phrasebook
