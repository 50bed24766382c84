import Phrasebook.Proofs.Resolution.Mirroring

/-!
# The guards only cut

Two guards stop a resolution: the ceiling on open expressions, and the references that are open.
What they do not stop they do not change. A run that neither of them stops goes the same way from a
scope with more levels left and fewer references open.
-/

namespace Phrasebook

def ResolverError.isGuard : ResolverError → Bool
  | .tooMuchRecursion _ | .cyclicReference _ => true
  | _ => false

/-- Two bundles with the same entries and functions, the same hooks, and the same isolation. -/
structure Bundle.SameRules [FormatterSource] {γ : Type} (b b' : Bundle γ) : Prop where
  entries : b'.entries = b.entries
  functions : b'.functions = b.functions
  useIsolating : b'.useIsolating = b.useIsolating
  transform : b'.transform = b.transform
  formatter : b'.formatter = b.formatter

namespace Bundle.SameRules

variable [FormatterSource] {γ : Type} {b b' : Bundle γ}

theorem message? (h : b.SameRules b') : b'.message? = b.message? := by
  funext id
  exact congrArg (·.messages.get? id) h.entries

theorem term? (h : b.SameRules b') : b'.term? = b.term? := by
  funext id
  exact congrArg (·.terms.get? id) h.entries

theorem transformText (h : b.SameRules b') : b'.transformText = b.transformText := by
  funext s
  unfold Bundle.transformText
  rw [h.transform]

theorem messagePattern (h : b.SameRules b') (id : String) (attr : Option String) :
    b'.messagePattern id attr = b.messagePattern id attr := by
  unfold Bundle.messagePattern
  rw [h.message?]

theorem termPattern (h : b.SameRules b') (id : String) (attr : Option String) :
    b'.termPattern id attr = b.termPattern id attr := by
  unfold Bundle.termPattern
  rw [h.term?]

theorem mirrored (h : b.SameRules b') (excused : ResolverError → Prop) :
    b.Mirrored id excused b' where
  text s := congrFun h.transformText s
  useIsolating := h.useIsolating
  formatter := h.formatter
  function name := .inl (congrArg (·.get? name) h.functions)
  pattern t := by
    have hsame : b'.targetPattern t = b.targetPattern t := by
      cases t with
      | message id attr => exact h.messagePattern id attr
      | term id attr => exact h.termPattern id attr
    rw [hsame]
    cases b.targetPattern t with
    | error e => exact .inl rfl
    | ok p => exact .inl (congrArg Except.ok p.mapText_id.symm)

end Bundle.SameRules

namespace Scope

variable [FormatterSource] {γ : Type} {maxDepth maxDepth' : Nat} {s s' t t' : Scope γ}

/-- The second scope has as many levels left under its ceiling, or more, and no reference open that
is not open in the first. -/
structure Roomier (maxDepth maxDepth' : Nat) (s s' : Scope γ) : Prop where
  levels : maxDepth - s.depth ≤ maxDepth' - s'.depth
  active : s'.active ⊆ s.active
  localArguments : s'.localArguments = s.localArguments
  locale : s'.formatters.locale = s.formatters.locale

theorem Roomier.stays (h : s.Roomier maxDepth maxDepth' s') (hs : s.StaysAs t)
    (hs' : s'.StaysAs t') : t.Roomier maxDepth maxDepth' t' where
  levels := by
    rw [hs.depth, hs'.depth]
    exact h.levels
  active := by
    rw [hs.active, hs'.active]
    exact h.active
  localArguments := by rw [hs.localArguments, hs'.localArguments, h.localArguments]
  locale := by rw [hs.locale, hs'.locale, h.locale]

theorem Roomier.descend (h : s.Roomier maxDepth maxDepth' s') :
    EnterRelated (fun e => e.isGuard) (Roomier maxDepth maxDepth') (Scope.descend maxDepth)
      (Scope.descend maxDepth') s s' := by
  by_cases hlt : s.depth < maxDepth
  · have hlevels : maxDepth - s.depth ≤ maxDepth' - s'.depth := h.levels
    have hlt' : s'.depth < maxDepth' := by omega
    refine .inl ⟨_, _, descend_eq_ok_iff.2 ⟨hlt, rfl⟩, descend_eq_ok_iff.2 ⟨hlt', rfl⟩, ?_⟩
    refine ⟨?_, h.active, h.localArguments, h.locale⟩
    show maxDepth - (s.depth + 1) ≤ maxDepth' - (s'.depth + 1)
    omega
  · exact .inr ⟨_, descend_eq_error_iff.2 ⟨Nat.not_lt.1 hlt, rfl⟩, .inl rfl⟩

theorem Roomier.pushEntry (key : String) (h : s.Roomier maxDepth maxDepth' s') :
    EnterRelated (fun e => e.isGuard) (Roomier maxDepth maxDepth') (Scope.pushEntry key)
      (Scope.pushEntry key) s s' := by
  by_cases hopen : key ∈ s.active
  · exact .inr ⟨_, pushEntry_eq_error_iff.2 ⟨hopen, rfl⟩, .inl rfl⟩
  · have hopen' : key ∉ s'.active := fun hmem => hopen (h.active hmem)
    refine .inl ⟨_, _, pushEntry_eq_ok_iff.2 ⟨hopen, rfl⟩, pushEntry_eq_ok_iff.2 ⟨hopen', rfl⟩, ?_⟩
    refine ⟨h.levels, ?_, h.localArguments, h.locale⟩
    intro k hk
    rcases List.mem_append.1 hk with hk | hk
    · exact List.mem_append_left _ (h.active hk)
    · exact List.mem_append_right _ hk

end Scope

def Ending.Uncut [FormatterSource] {γ α : Type} (s : Scope γ) (r : Ending γ α) : Prop :=
  ∀ e, r.Reports s e → e.isGuard = false

/-- A call that no guard stops on its way. -/
def Outcome.Uncut [FormatterSource] (held : Option (List ResolverError)) (o : Outcome) : Prop :=
  ∀ e, o.Reports held e → e.isGuard = false

section Room

variable [FormatterSource] {γ : Type} [CustomValue γ] {b b' : Bundle γ} {s s' : Scope γ}
  (hblind : ∀ n, CustomValue.Ignores γ fun view => { view with maxDepth := n })
  (hb : b.SameRules b') (arguments : Option (Arguments γ))
include hblind hb

def Pairing.roomier : Pairing (Environment.mk b arguments) (Environment.mk b' arguments)
    (fun e => e.isGuard) where
  Paired := Scope.Roomier b.maxDepth b'.maxDepth
  stays := Scope.Roomier.stays
  looks {s s'} h := by
    have hargument := Environment.argument?_mk b b' arguments h.localArguments
    have hview : (Environment.mk b' arguments).view s' =
        { (Environment.mk b arguments).view s with maxDepth := b'.maxDepth } := by
      simp only [Environment.view, hargument, h.locale, Scope.inTerm, h.localArguments,
        hb.entries, hb.functions, hb.transformText, hb.useIsolating]
    rw [hview]
    exact (hblind _).looksLike rfl rfl rfl
  descend := Scope.Roomier.descend
  pushEntry key := Scope.Roomier.pushEntry key
  withLocal _ {s s'} h := ⟨h.levels, h.active, rfl, h.locale⟩

theorem Environment.resolve_roomier (h : s.Roomier b.maxDepth b'.maxDepth s')
    (hcollect : s'.errors.isSome = s.errors.isSome) (e : Expression)
    (huncut : ((mk b arguments).resolve e s).Uncut s) :
    Ending.SameFrom s s' ((mk b arguments).resolve e s) ((mk b' arguments).resolve e s') := by
  have hmirrored : b.Mirrored id (fun err => err.isGuard) b' := hb.mirrored _
  have hsame := resolve_mapText_sameFrom hmirrored (.roomier hblind hb arguments) h hcollect e
    fun err herr => Bool.eq_false_iff.1 (huncut err herr)
  rwa [e.mapText_id] at hsame

theorem Environment.resolvePattern_roomier (h : s.Roomier b.maxDepth b'.maxDepth s')
    (hcollect : s'.errors.isSome = s.errors.isSome) (p : Pattern)
    (huncut : ((mk b arguments).resolvePattern p s).Uncut s) :
    Ending.SameFrom s s' ((mk b arguments).resolvePattern p s)
      ((mk b' arguments).resolvePattern p s') := by
  have hmirrored : b.Mirrored id (fun err => err.isGuard) b' := hb.mirrored _
  have hsame := resolvePattern_mapText_sameFrom hmirrored (.roomier hblind hb arguments) h
    hcollect p fun err herr => Bool.eq_false_iff.1 (huncut err herr)
  rwa [p.mapText_id] at hsame

theorem Bundle.formatPattern_roomier (hdepth : b.maxDepth ≤ b'.maxDepth)
    (hlocale : b'.formatters.locale = b.formatters.locale) (p : Pattern)
    {errors : Option (List ResolverError)}
    (huncut : (b.formatPattern p arguments errors).Uncut errors) :
    (b.formatPattern p arguments errors).SameAnswer (b'.formatPattern p arguments errors) := by
  have hmirrored : b.Mirrored id (fun err => err.isGuard) b' := hb.mirrored _
  have hstart : (Scope.start b errors).Roomier b.maxDepth b'.maxDepth (.start b' errors) :=
    ⟨hdepth, List.Subset.refl [], rfl, hlocale⟩
  have hanswer := formatPattern_mapText hmirrored (.roomier hblind hb arguments) hstart p
    fun err herr => Bool.eq_false_iff.1 (huncut err herr)
  rwa [p.mapText_id] at hanswer

end Room

namespace Bundle

section

variable [FormatterSource] {γ : Type} [CustomValue γ]

/-- Take two bundles with the same entries, functions, hooks and isolation, and the same arguments
of the caller, where the values of the host do not look at the ceiling. From two scopes that both
collect errors or both do not, the second with as much room or more, each expression and each
pattern that no guard stops in the first gives the same in the second and adds the same errors. So
do calls on the bundles, if the ceiling of the second one is not lower. -/
theorem guards_only_cut
    (hblind : ∀ n, CustomValue.Ignores γ fun view => { view with maxDepth := n })
    {b b' : Bundle γ} (hb : b.SameRules b') (arguments : Option (Arguments γ)) :
    let env : Environment γ := ⟨b, arguments⟩
    let env' : Environment γ := ⟨b', arguments⟩
    (∀ s s' : Scope γ, s.Roomier b.maxDepth b'.maxDepth s' →
      s'.errors.isSome = s.errors.isSome →
      (∀ e, (env.resolve e s).Uncut s →
        Ending.SameFrom s s' (env.resolve e s) (env'.resolve e s')) ∧
      ∀ p, (env.resolvePattern p s).Uncut s →
        Ending.SameFrom s s' (env.resolvePattern p s) (env'.resolvePattern p s')) ∧
    (b.maxDepth ≤ b'.maxDepth → b'.formatters.locale = b.formatters.locale →
      ∀ errors,
        (∀ p, (b.formatPattern p arguments errors).Uncut errors →
          (b.formatPattern p arguments errors).SameAnswer (b'.formatPattern p arguments errors)) ∧
        ∀ id attr, (b.formatEntry id attr arguments errors).Uncut errors →
          (b.formatEntry id attr arguments errors).SameAnswer
            (b'.formatEntry id attr arguments errors)) := by
  intro env env'
  constructor
  · intro s s' h hcollect
    exact ⟨Environment.resolve_roomier hblind hb arguments h hcollect,
      Environment.resolvePattern_roomier hblind hb arguments h hcollect⟩
  · intro hdepth hlocale errors
    constructor
    · intro p huncut
      exact formatPattern_roomier hblind hb arguments hdepth hlocale p huncut
    · intro id attr huncut
      unfold formatEntry at huncut ⊢
      rw [hb.messagePattern]
      cases hp : b.messagePattern id attr with
      | error e => exact ⟨rfl, rfl⟩
      | ok p =>
          simp only [hp] at huncut
          exact formatPattern_roomier hblind hb arguments hdepth hlocale p huncut

end

def shallowBundle : Bundle Badge :=
  ((ofOptions { maxDepth := 3 }).addResource false
    ⟨[⟨"m", some (.complex [.placeable (.message "n" none), .placeable (.variable "x"),
        .placeable (.variable "y")]), .empty⟩,
      ⟨"n", some (.text "hello"), .empty⟩]⟩).1

/-- Inside of another message there is just room enough. -/
theorem shallowBundle_not_cut :
    let given : Option (Arguments Badge) := some (.ofList [("y", .custom ⟨"Ada"⟩)])
    let deepBundle : Bundle Badge := { shallowBundle with maxDepth := 64 }
    let e : Expression := .message "m" none
    let tight : Scope Badge :=
      { Scope.start shallowBundle (some []) with depth := 1, active := ["q"] }
    let wide : Scope Badge := .start deepBundle (some [.unknownVariable "z"])
    Ending.SameFrom tight wide ((Environment.mk shallowBundle given).resolve e tight)
      ((Environment.mk deepBundle given).resolve e wide) := by
  intro given deepBundle e tight wide
  have hroom : tight.Roomier shallowBundle.maxDepth deepBundle.maxDepth wide :=
    ⟨by decide, List.nil_subset _, rfl, rfl⟩
  have hrules : shallowBundle.SameRules deepBundle := ⟨rfl, rfl, rfl, rfl, rfl⟩
  have huncut : ((Environment.mk shallowBundle given).resolve e tight).Uncut tight := by
    intro err herr
    have hmem : err ∈ [ResolverError.unknownVariable "x"] := herr.mem rfl rfl rfl
    obtain rfl : err = .unknownVariable "x" := List.mem_singleton.1 hmem
    rfl
  have hall := guards_only_cut (fun _ => Badge.ignores _) hrules given
  exact (hall.1 tight wide hroom rfl).1 e huncut

end Bundle

end Phrasebook
