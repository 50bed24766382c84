import Phrasebook.Proofs.Resolution.Frame
import Phrasebook.Proofs.Resolution.Plain

/-!
# What the reference check foresees

The check visits every position that a run can resolve, in every pattern that a run can reach, and
looks names up as a run does. So a call that collects its errors reports no error of a kind that the
check looks for unless there is a warning with the same names or numbers; a bundle without warnings
never reports one.
-/

namespace Phrasebook

namespace Bundle

section

variable [FormatterSource] {γ : Type} {b : Bundle γ}

/-- Whether there is a warning for what goes wrong with this error. -/
def Foresees (b : Bundle γ) (e : ResolverError) : Prop :=
  ∃ w ∈ b.checkReferences, w.problem.error = e

def Warns (b : Bundle γ) (problem : ReferenceProblem) : Prop :=
  ∃ entry, ⟨entry, problem⟩ ∈ b.checkReferences

theorem warns_of_warnings (entry : String) {p : Pattern}
    (h : ∀ w ∈ b.patternWarnings entry p, w ∈ b.checkReferences) :
    ∀ problem ∈ p.problems b, b.Warns problem := by
  intro problem hproblem
  exact ⟨entry, h _ (List.mem_map_of_mem hproblem)⟩

theorem mem_attributeWarnings {id attr : String} {attributes : NameMap Pattern} {p : Pattern}
    (hp : attributes.get? attr = some p) {w : ReferenceWarning}
    (hw : w ∈ b.patternWarnings (id ++ "." ++ attr) p) : w ∈ b.attributeWarnings id attributes :=
  List.mem_flatMap.2 ⟨(attr, p), NameMap.mem_of_get? hp, hw⟩

theorem mem_checkReferences_of_message {id : String} {m : Message} (hm : b.message? id = some m)
    {w : ReferenceWarning} (hw : w ∈ b.messageWarnings id m) : w ∈ b.checkReferences :=
  List.mem_append_left _ (List.mem_flatMap.2 ⟨(id, m), NameMap.mem_of_get? hm, hw⟩)

theorem mem_checkReferences_of_term {id : String} {t : Term} (ht : b.term? id = some t)
    {w : ReferenceWarning} (hw : w ∈ b.termWarnings id t) : w ∈ b.checkReferences :=
  List.mem_append_right _ (List.mem_flatMap.2 ⟨(id, t), NameMap.mem_of_get? ht, hw⟩)

theorem warns_messagePattern {id : String} {attr : Option String} {p : Pattern}
    (h : b.messagePattern id attr = .ok p) : ∀ problem ∈ p.problems b, b.Warns problem := by
  obtain ⟨m, hm, hvalue | ⟨attr, hattr⟩⟩ := messagePattern_eq_ok h
  · refine warns_of_warnings id fun w hw => mem_checkReferences_of_message hm ?_
    exact List.mem_append_left _ (by simpa [hvalue] using hw)
  · refine warns_of_warnings (id ++ "." ++ attr) fun w hw => mem_checkReferences_of_message hm ?_
    exact List.mem_append_right _ (mem_attributeWarnings hattr hw)

theorem warns_termPattern {id : String} {attr : Option String} {p : Pattern}
    (h : b.termPattern id attr = .ok p) : ∀ problem ∈ p.problems b, b.Warns problem := by
  obtain ⟨t, ht, rfl | ⟨attr, hattr⟩⟩ := termPattern_eq_ok h
  · refine warns_of_warnings id fun w hw => mem_checkReferences_of_term ht ?_
    exact List.mem_append_left _ hw
  · refine warns_of_warnings (id ++ "." ++ attr) fun w hw => mem_checkReferences_of_term ht ?_
    exact List.mem_append_right _ (mem_attributeWarnings hattr hw)

/-- All patterns that a reference can lead to are checked. -/
theorem Holds.warns {p : Pattern} (hp : b.Holds p) : ∀ problem ∈ p.problems b, b.Warns problem := by
  obtain ⟨id, attr, hmessage | hterm⟩ := hp
  · exact warns_messagePattern hmessage
  · exact warns_termPattern hterm

theorem allows_foreseen (b : Bundle γ) :
    b.Allows fun e => e.isForeseeable = true → b.Foresees e where
  unforeseeable e he h := absurd h (by simp [he])
  entries p hp problem hproblem _ := by
    obtain ⟨entry, hwarning⟩ := hp.warns problem hproblem
    exact ⟨_, hwarning, rfl⟩

/-- A call has put errors behind those held before, and each of a kind that the check looks for has
its warning. -/
def ReportsForeseen (b : Bundle γ) (held : List ResolverError) (o : Outcome) : Prop :=
  ∃ added, o.errors = some (held ++ added) ∧
    (∀ e ∈ added, e.isForeseeable = true → b.Foresees e) ∧
    (b.checkReferences = [] → ∀ e ∈ added, e.isForeseeable = false)

theorem reportsForeseen_of_added {held added : List ResolverError} {o : Outcome}
    (herrors : o.errors = some (held ++ added))
    (hadded : ∀ e ∈ added, e.isForeseeable = true → b.Foresees e) : b.ReportsForeseen held o := by
  refine ⟨added, herrors, hadded, fun hnone e he => ?_⟩
  cases hkind : e.isForeseeable with
  | false => rfl
  | true =>
      obtain ⟨w, hw, -⟩ := hadded e he hkind
      simp [hnone] at hw

theorem reportsForeseen_immediate (result : Except ResolverError String)
    (held : List ResolverError) : b.ReportsForeseen held (b.immediate result (some held)) := by
  have herrors : (b.immediate result (some held)).errors = some (held ++ []) := by simp [immediate]
  exact reportsForeseen_of_added herrors (by simp)

variable [CustomValue γ]

theorem reportsForeseen_formatPattern {p : Pattern} (hp : b.Holds p)
    (arguments : Option (Arguments γ)) (held : List ResolverError) :
    b.ReportsForeseen held (b.formatPattern p arguments (some held)) := by
  rw [formatPattern_eq_resolved]
  let env : Environment γ := ⟨b, arguments⟩
  let start : Scope γ := .start b (some held)
  have hrun : start.Extends (fun e => e.isForeseeable = true → b.Foresees e)
      (env.resolvePattern p start).scope :=
    Environment.resolvePattern_extends b.allows_foreseen (b.allows_foreseen.entries p hp) start
  obtain ⟨added, herrors, hadded⟩ := hrun.errors
  exact reportsForeseen_of_added ((Outcome.errors_ofEnding _).trans herrors) hadded

theorem reportsForeseen_formatEntry (b : Bundle γ) (id : String) (attr : Option String)
    (arguments : Option (Arguments γ)) (held : List ResolverError) :
    b.ReportsForeseen held (b.formatEntry id attr arguments (some held)) := by
  unfold formatEntry
  cases hp : b.messagePattern id attr with
  | error e => exact reportsForeseen_immediate _ held
  | ok p => exact reportsForeseen_formatPattern ⟨id, attr, .inl hp⟩ arguments held

/-- Whichever message or attribute is shown, with whichever arguments, an error that is collected
and is of a kind that the check looks for has a warning with its names or numbers; without warnings
there is no such error. -/
theorem reference_check_foresees_calls (b : Bundle γ) (id : String)
    (arguments : Option (Arguments γ)) (held : List ResolverError) :
    b.ReportsForeseen held (b.formatMessage id arguments (some held)) ∧
      ∀ attr, b.ReportsForeseen held (b.formatAttribute id attr arguments (some held)) :=
  ⟨reportsForeseen_formatEntry b id none arguments held,
    fun attr => reportsForeseen_formatEntry b id (some attr) arguments held⟩

end

example :
    let p : Pattern := .complex [.placeable (.term "t" none none)]
    let b : Bundle Empty := ((Bundle.ofOptions {}).addResource false ⟨[⟨"a", some p, .empty⟩]⟩).1
    (b.formatMessage "a" none (some [])).errors = some [.unknownTerm "-t"] ∧
      b.checkReferences.map (·.problem.error) = [.unknownTerm "-t"] :=
  ⟨by decide, by decide⟩

end Bundle

end Phrasebook
