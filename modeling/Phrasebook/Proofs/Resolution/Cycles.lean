import Mathlib.Logic.Relation
import Phrasebook.Proofs.Resolution.Collecting
import Phrasebook.Proofs.Resolution.Frame

/-!
# Cyclic references

A call that reports a cyclic reference has walked from the pattern it shows along references, each
in the pattern of the one before, to one whose key is among those that are open. Where no two
targets share a key this closes a cycle of references, so a call on a bundle without such cycles
never reports one. Ids and attribute names may hold points, however, and then two targets can share
a key.
-/

namespace Phrasebook

/-! ## The graph of references -/

/-- Whether an expression refers to a target in a place where it is evaluated. -/
inductive Expression.Refers : Expression → Target → Prop where
  | here {e : Expression} {t : Target} : e.target? = some t → Refers e t
  | inner {e e' : Expression} {t : Target} : e' ∈ e.inner → Refers e' t → Refers e t

def Pattern.Refers (p : Pattern) (t : Target) : Prop := ∃ e ∈ p.inner, e.Refers t

namespace Bundle

variable [FormatterSource] {γ : Type}

def Defines (b : Bundle γ) (t : Target) : Prop := ∃ p, b.targetPattern t = .ok p

def Leads (b : Bundle γ) (t u : Target) : Prop :=
  (∃ p, b.targetPattern t = .ok p ∧ p.Refers u) ∧ b.Defines u

def Acyclic (b : Bundle γ) : Prop := ∀ t, ¬Relation.TransGen b.Leads t t

def KeysDistinct (b : Bundle γ) : Prop :=
  ∀ t u, b.Defines t → b.Defines u → t.key = u.key → t = u

/-- The targets on a way from a start, each leading to the next, and the one where it ends.  The
start is not among them. -/
inductive Walk (b : Bundle γ) (start : Target) : List Target → Target → Prop where
  | start : Walk b start [] start
  | step {path : List Target} {here next : Target} :
      Walk b start path here → b.Leads here next → Walk b start (path ++ [next]) next

/-- A chain of keys along a walk that ends where the key of the next target is open already. -/
def Closes (b : Bundle γ) (start : Target) (chain : List String) : Prop :=
  ∃ path here last, b.Walk start path here ∧ b.Leads here last ∧
    chain = (path ++ [last]).map Target.key ∧ last.key ∈ path.map Target.key

variable {b : Bundle γ} {start here t : Target} {path : List Target}

theorem Walk.reaches (h : b.Walk start path here) (ht : t ∈ path) :
    Relation.ReflTransGen b.Leads t here := by
  induction h with
  | start => simp at ht
  | step hwalk hleads ih =>
      rcases List.mem_append.1 ht with ht | ht
      · exact (ih ht).tail hleads
      · rw [List.mem_singleton.1 ht]

theorem Walk.defines (h : b.Walk start path here) (ht : t ∈ path) : b.Defines t := by
  induction h with
  | start => simp at ht
  | step hwalk hleads ih =>
      rcases List.mem_append.1 ht with ht | ht
      · exact ih ht
      · rw [List.mem_singleton.1 ht]
        exact hleads.2

/-- Where keys are distinct, a chain closes at a target that is on the way already. -/
theorem Closes.exists_mem (hkeys : b.KeysDistinct) {chain : List String}
    (h : b.Closes start chain) :
    ∃ path here last, b.Walk start path here ∧ b.Leads here last ∧
      chain = (path ++ [last]).map Target.key ∧ last ∈ path := by
  obtain ⟨path, here, last, hwalk, hleads, hchain, hkey⟩ := h
  obtain ⟨t, ht, hsame⟩ := List.mem_map.1 hkey
  have hlast : t = last := hkeys t last (hwalk.defines ht) hleads.2 hsame
  exact ⟨path, here, last, hwalk, hleads, hchain, hlast ▸ ht⟩

theorem not_closes (hkeys : b.KeysDistinct) (hacyclic : b.Acyclic) (start : Target)
    (chain : List String) : ¬b.Closes start chain := by
  intro h
  obtain ⟨path, here, last, hwalk, hleads, -, hlast⟩ := h.exists_mem hkeys
  exact hacyclic last (Relation.TransGen.tail' (hwalk.reaches hlast) hleads)

end Bundle

theorem takeWhile_dotted {id : String} (hid : '.' ∉ id.toList) (attr : Option String) :
    (dotted id attr).toList.takeWhile (· != '.') = id.toList := by
  have hall : ∀ c ∈ id.toList, (c != '.') = true := by
    intro c hc
    exact bne_iff_ne.2 fun heq => hid (heq ▸ hc)
  have htail : ∀ rest : List Char, rest.takeWhile (· != '.') = [] →
      (id.toList ++ rest).takeWhile (· != '.') = id.toList := by
    intro rest hrest
    rw [List.takeWhile_append_of_pos hall, hrest, List.append_nil]
  cases attr with
  | none => simpa [dotted] using htail [] rfl
  | some a => simpa [dotted, String.toList_append] using htail ('.' :: a.toList) rfl

/-- Of names without points, the key tells the name from the attribute. -/
theorem eq_of_dotted_eq {id id' : String} {attr attr' : Option String} (hid : '.' ∉ id.toList)
    (hid' : '.' ∉ id'.toList) (h : dotted id attr = dotted id' attr') :
    id = id' ∧ attr = attr' := by
  have hsame : id = id' := by
    rw [← String.toList_inj, ← takeWhile_dotted hid attr, ← takeWhile_dotted hid' attr', h]
  subst hsame
  refine ⟨rfl, ?_⟩
  have hlists : (dotted id attr).toList = (dotted id attr').toList := by rw [h]
  cases attr <;> cases attr' <;> simp [dotted, String.toList_append] at hlists ⊢
  exact String.toList_inj.1 hlists

namespace Bundle

variable [FormatterSource] {γ : Type} {b : Bundle γ}

/-- Keys are distinct where no registered id holds a point and the ids of terms are told from those
of messages. -/
theorem keysDistinct_of_no_points
    (hmessages : ∀ id, (b.message? id).isSome → '.' ∉ id.toList ∧ isTermId id = false)
    (hterms : ∀ id, (b.term? id).isSome → '.' ∉ id.toList ∧ isTermId id = true) :
    b.KeysDistinct := by
  have hmessage : ∀ id attr, b.Defines (.message id attr) →
      '.' ∉ id.toList ∧ isTermId id = false := by
    rintro id attr ⟨p, hp⟩
    obtain ⟨m, hm, -⟩ := messagePattern_eq_ok hp
    exact hmessages id (by simp [hm])
  have hterm : ∀ id attr, b.Defines (.term id attr) → '.' ∉ id.toList ∧ isTermId id = true := by
    rintro id attr ⟨p, hp⟩
    obtain ⟨t, ht, -⟩ := termPattern_eq_ok hp
    exact hterms id (by simp [ht])
  have hmixed : ∀ id attr attr', b.Defines (.message id attr) → ¬b.Defines (.term id attr') := by
    intro id attr attr' hm ht
    have hkind := (hmessage id attr hm).2
    rw [(hterm id attr' ht).2] at hkind
    cases hkind
  intro t u ht hu hkey
  cases t with
  | message id attr =>
      cases u with
      | message id' attr' =>
          obtain ⟨rfl, rfl⟩ :=
            eq_of_dotted_eq (hmessage id attr ht).1 (hmessage id' attr' hu).1 hkey
          rfl
      | term id' attr' =>
          obtain ⟨rfl, -⟩ := eq_of_dotted_eq (hmessage id attr ht).1 (hterm id' attr' hu).1 hkey
          exact absurd hu (hmixed id attr attr' ht)
  | term id attr =>
      cases u with
      | message id' attr' =>
          obtain ⟨rfl, -⟩ := eq_of_dotted_eq (hterm id attr ht).1 (hmessage id' attr' hu).1 hkey
          exact absurd ht (hmixed id attr' attr hu)
      | term id' attr' =>
          obtain ⟨rfl, rfl⟩ := eq_of_dotted_eq (hterm id attr ht).1 (hterm id' attr' hu).1 hkey
          rfl

end Bundle

/-! ## Runs along a walk -/

namespace Bundle

variable [FormatterSource] {γ : Type} {b : Bundle γ}

/-- Every cyclic reference that is reported closes a walk. -/
def ClosesIfCyclic (b : Bundle γ) (start : Target) (e : ResolverError) : Prop :=
  ∀ chain, e = .cyclicReference chain → b.Closes start chain

/-- A target without a pattern is unknown or has no value. -/
theorem targetPattern_ne_cyclic (t : Target) (chain : List String) :
    b.targetPattern t ≠ .error (.cyclicReference chain) := by
  cases t with
  | message id attr =>
      simp only [targetPattern, messagePattern]
      cases b.message? id with
      | none => simp
      | some m =>
          cases attr with
          | none => cases hv : m.value <;> simp [hv]
          | some a => cases ha : m.attributes.get? a <;> simp [ha]
  | term id attr =>
      simp only [targetPattern, termPattern]
      cases b.term? id with
      | none => simp
      | some t =>
          cases attr with
          | none => simp
          | some a => cases ha : t.attributes.get? a <;> simp [ha]

theorem closesIfCyclic_of_reports {start : Target} {e : Expression} {err : ResolverError}
    (h : b.Reports e err) : b.ClosesIfCyclic start err := by
  rintro chain rfl
  cases h with
  | target _ herr => exact absurd herr (targetPattern_ne_cyclic _ chain)

/-- The references of an expression lead on from where a walk has come to. -/
def LeadsOn (b : Bundle γ) (here : Target) (e : Expression) : Prop :=
  ∀ t, e.Refers t → b.Defines t → b.Leads here t

theorem leadsOn_of_pattern {t : Target} {p : Pattern} (hp : b.targetPattern t = .ok p)
    {e : Expression} (he : e ∈ p.inner) : b.LeadsOn t e :=
  fun _ hrefers hdefined => ⟨⟨p, hp, e, he, hrefers⟩, hdefined⟩

end Bundle

namespace Environment

open Resolving

variable [FormatterSource] {γ α : Type} [CustomValue γ] {env : Environment γ} {start here : Target}
  {path : List Target}

omit [CustomValue γ] in
/-- The errors of some flat steps, where those of their inner expressions are known along a walk. -/
theorem run_flat_closes {resolver : Resolver γ} {inner : Expression → Prop}
    (hr : ∀ e, inner e → ∀ s : Scope γ, s.active = path.map Target.key →
      s.Extends (env.bundle.ClosesIfCyclic start) (resolver e s).scope)
    {m : Resolving γ α} (hm : m.Flat inner (env.bundle.ClosesIfCyclic start)) {s : Scope γ}
    (hs : s.active = path.map Target.key) :
    s.Extends (env.bundle.ClosesIfCyclic start) (env.run resolver m s).scope :=
  run_flat_extends (fun e he t ht => hr e he t (ht.active.trans hs)) m hm s (.refl s)

theorem flat_showPattern_leadsOn {p : Pattern} (hp : env.bundle.targetPattern here = .ok p) :
    (env.showPattern p).Flat (env.bundle.LeadsOn here) (env.bundle.ClosesIfCyclic start) :=
  flat_showPattern (fun _ _ _ h => by cases h) fun _ he => Bundle.leadsOn_of_pattern hp he

theorem resolveAt_closes (level : Nat) {e : Expression} (hwalk : env.bundle.Walk start path here)
    (he : env.bundle.LeadsOn here e) (s : Scope γ) (hs : s.active = path.map Target.key) :
    s.Extends (env.bundle.ClosesIfCyclic start) (env.resolveAt level e s).scope := by
  induction level generalizing e path here s with
  | zero => exact Scope.extends_fallBack (fun chain h => by cases h) _ s
  | succ level ih =>
      refine Scope.extends_within (Scope.undoes_descend _) (fun err herr => ?_) fun t ht => ?_
      · obtain ⟨-, rfl⟩ := Scope.descend_eq_error_iff.1 herr
        exact fun chain h => by cases h
      have htactive : t.active = path.map Target.key := by
        obtain ⟨-, rfl⟩ := Scope.descend_eq_ok_iff.1 ht
        exact hs
      cases htarget : e.target? with
      | none =>
          have hflat : (env.resolveForm e).Flat (env.bundle.LeadsOn here)
              (env.bundle.ClosesIfCyclic start) :=
            (flat_resolveForm htarget).mono
              (fun e' he' u hu => he u (.inner he' hu)) fun _ => Bundle.closesIfCyclic_of_reports
          exact run_flat_closes (fun e he s hs => ih hwalk he s hs) hflat htactive
      | some target =>
          rw [resolveForm_of_target htarget]
          cases hp : env.bundle.targetPattern target with
          | error err =>
              have hflat : (fallBack err (some target.key) : Resolving γ _).Flat (fun _ => False)
                  (env.bundle.ClosesIfCyclic start) :=
                flat_fallBack (Bundle.closesIfCyclic_of_reports (.target htarget hp)) _
              exact run_flat_closes (fun _ h => h.elim) hflat htactive
          | ok p =>
              have hleads : env.bundle.Leads here target := he target (.here htarget) ⟨p, hp⟩
              simp only [run, Ending.scope_leave]
              refine Scope.Extends.restore (Scope.extends_within (Scope.undoes_pushEntry _)
                (fun err herr => ?_) fun u hu => ?_)
              · -- The reference is open already: its key closes the walk.
                obtain ⟨hkey, rfl⟩ := Scope.pushEntry_eq_error_iff.1 herr
                rintro chain hchain
                cases hchain
                exact ⟨path, here, target, hwalk, hleads, by simp [htactive],
                  by simpa [htactive] using hkey⟩
              · have huactive : u.active = (path ++ [target]).map Target.key := by
                  obtain ⟨-, rfl⟩ := Scope.pushEntry_eq_ok_iff.1 hu
                  simp [htactive]
                refine run_flat_closes (fun e he s hs => ih (hwalk.step hleads) he s hs) ?_ huactive
                exact (flat_map _ _).2 (flat_showPattern_leadsOn hp)

/-- Resolving the pattern of a target reports cyclic references only where walks from the target
close. -/
theorem resolvePattern_closes {p : Pattern} (hp : env.bundle.targetPattern start = .ok p)
    (errors : Option (List ResolverError)) :
    (Scope.start env.bundle errors).Extends (env.bundle.ClosesIfCyclic start)
      (env.resolvePattern p (.start env.bundle errors)).scope :=
  run_flat_closes (fun _ he s hs => resolveAt_closes _ .start he s hs)
    (flat_showPattern_leadsOn hp) rfl

end Environment

namespace Bundle

section

variable [FormatterSource] {γ : Type} [CustomValue γ]

/-- Whichever message or attribute a call shows, it reports a cyclic reference only where a walk
from there closes. -/
theorem formatEntry_closes (b : Bundle γ) (id : String) (attr : Option String)
    (arguments : Option (Arguments γ)) (held : Option (List ResolverError)) {chain : List String}
    (h : (b.formatEntry id attr arguments held).Reports held (.cyclicReference chain)) :
    b.Closes (.message id attr) chain := by
  unfold formatEntry at h
  cases hp : b.messagePattern id attr with
  | error e =>
      rw [hp] at h
      rcases h with h | ⟨old, added, rfl, herrors, he⟩
      · cases h
        exact absurd hp (targetPattern_ne_cyclic (.message id attr) chain)
      · have hadded : added = [] := by simpa [immediate] using herrors
        simp [hadded] at he
  | ok p =>
      rw [hp] at h
      let env : Environment γ := ⟨b, arguments⟩
      have htarget : env.bundle.targetPattern (.message id attr) = .ok p := hp
      have hrun : (Scope.start b (some [])).Extends (b.ClosesIfCyclic (.message id attr))
          (env.resolvePattern p (.start b (some []))).scope :=
        env.resolvePattern_closes htarget (some [])
      obtain ⟨added, herrors, hadded⟩ := hrun.errors
      exact formatPattern_reports ⟨added, by simpa [Scope.start] using herrors, hadded⟩ h chain rfl

/-- Where no two targets share a key, a call reports a cyclic reference only if the very target is
open that is referred to: the chain names a walk from the pattern that is shown, along references in
the patterns of targets, to one that was met on it before. So without a cycle of references none is
ever reported. -/
theorem distinct_keys_report_only_cycles (b : Bundle γ) (hkeys : b.KeysDistinct) (id : String)
    (attr : Option String) (arguments : Option (Arguments γ))
    (held : Option (List ResolverError)) :
    let reports := (b.formatEntry id attr arguments held).Reports held
    (∀ chain, reports (.cyclicReference chain) →
      ∃ path here last, b.Walk (.message id attr) path here ∧ b.Leads here last ∧
        chain = (path ++ [last]).map Target.key ∧ last ∈ path) ∧
    (b.Acyclic → ∀ chain, ¬reports (.cyclicReference chain)) := by
  refine ⟨fun chain h => ?_, fun hacyclic chain h => ?_⟩
  · exact (b.formatEntry_closes id attr arguments held h).exists_mem hkeys
  · exact not_closes hkeys hacyclic _ chain (b.formatEntry_closes id attr arguments held h)

def showing (id : String) (shown : Expression) : Entry :=
  ⟨id, some (.complex [.placeable shown]), .empty⟩

end

def loopBundle : Bundle Empty :=
  ((ofOptions {}).addResource false
    ⟨[showing "m" (.message "a" none), showing "a" (.message "b" none),
      showing "b" (.message "a" none)]⟩).1

theorem loopBundle_keysDistinct : loopBundle.KeysDistinct := by
  have hids : ∀ id ∈ loopBundle.messageIds, '.' ∉ id.toList ∧ isTermId id = false := by decide
  refine keysDistinct_of_no_points (fun id h => hids id (NameMap.mem_names.2 h)) fun id h => ?_
  cases h

theorem loopBundle_reports_loop :
    loopBundle.KeysDistinct ∧
    (loopBundle.formatMessage "m" none (some [])).errors = some [.cyclicReference ["a", "b", "a"]] ∧
    ∃ path here last, loopBundle.Walk (.message "m" none) path here ∧ loopBundle.Leads here last ∧
      ["a", "b", "a"] = (path ++ [last]).map Target.key ∧ last ∈ path := by
  have herrors : (loopBundle.formatMessage "m" none (some [])).errors =
      some [.cyclicReference ["a", "b", "a"]] := by decide
  refine ⟨loopBundle_keysDistinct, herrors, ?_⟩
  refine (distinct_keys_report_only_cycles loopBundle loopBundle_keysDistinct "m" none none
    (some [])).1 _ (.inr ⟨[], _, rfl, herrors, List.mem_singleton.2 rfl⟩)

theorem acyclic_of_rank [FormatterSource] {γ : Type} {b : Bundle γ} (rank : Target → Nat)
    (h : ∀ t u, b.Leads t u → rank u < rank t) : b.Acyclic := by
  intro t ht
  have hlt : ∀ u, Relation.TransGen b.Leads t u → rank u < rank t := by
    intro u hu
    induction hu with
    | single hstep => exact h _ _ hstep
    | tail _ hstep ih => exact Nat.lt_trans (h _ _ hstep) ih
  exact Nat.lt_irrefl _ (hlt t ht)

/-- The message `m` shows the attribute `b` of `a`, which shows the message `a.b`, a text. -/
def sharedKeyBundle : Bundle Empty :=
  ((ofOptions {}).addResource false
    ⟨[showing "m" (.message "a" (some "b")),
      ⟨"a", none, .ofList [("b", .complex [.placeable (.message "a.b" none)])]⟩,
      ⟨"a.b", some (.text "x"), .empty⟩]⟩).1

def sharedKeyRank : Target → Nat
  | .message id _ => if id = "m" then 2 else if id = "a" then 1 else 0
  | .term _ _ => 0

theorem sharedKeyBundle_acyclic : sharedKeyBundle.Acyclic := by
  have hrefers : ∀ {id : String} {attr : Option String} {u : Target},
      (Pattern.complex [.placeable (.message id attr)]).Refers u → u = .message id attr := by
    rintro id attr u ⟨e, he, hu⟩
    obtain rfl : e = .message id attr := by simpa [Pattern.inner, Element.expression?] using he
    cases hu with
    | here hu =>
        cases hu
        rfl
    | inner he' => simp [Expression.inner] at he'
  refine acyclic_of_rank sharedKeyRank ?_
  rintro t u ⟨⟨p, hp, hpu⟩, -⟩
  cases t with
  | term id attr =>
      have hterm : sharedKeyBundle.termPattern id attr = .ok p := hp
      obtain ⟨t, ht, -⟩ := termPattern_eq_ok hterm
      cases ht
  | message id attr =>
      obtain ⟨m, hm, hpattern⟩ := messagePattern_eq_ok hp
      have htable : (id, m) ∈
          [("a", (⟨"a", none, .ofList [("b", .complex [.placeable (.message "a.b" none)])]⟩ :
              Message)),
            ("a.b", ⟨"a.b", some (.text "x"), .empty⟩),
            ("m", ⟨"m", some (.complex [.placeable (.message "a" (some "b"))]), .empty⟩)] :=
        NameMap.mem_of_get? hm
      simp only [List.mem_cons, List.not_mem_nil, or_false, Prod.mk.injEq] at htable
      rcases htable with ⟨rfl, rfl⟩ | ⟨rfl, rfl⟩ | ⟨rfl, rfl⟩
      · -- The attribute of `a` shows `a.b`.
        rcases hpattern with hvalue | ⟨a, ha⟩
        · cases hvalue
        · have hattr : (a, p) ∈ [("b", Pattern.complex [.placeable (.message "a.b" none)])] :=
            NameMap.mem_of_get? ha
          obtain ⟨-, rfl⟩ : a = "b" ∧ p = _ := by simpa using hattr
          simp [sharedKeyRank, hrefers hpu]
      · -- A text refers to nothing.
        rcases hpattern with hvalue | ⟨a, ha⟩
        · cases hvalue
          obtain ⟨e, he, -⟩ := hpu
          simp [Pattern.inner] at he
        · cases ha
      · rcases hpattern with hvalue | ⟨a, ha⟩
        · cases hvalue
          simp [sharedKeyRank, hrefers hpu]
        · cases ha

/-- A key that two targets share is taken for a cycle, though no reference leads back. -/
theorem shared_key_reports_false_cycle :
    sharedKeyBundle.Acyclic ∧
    (sharedKeyBundle.formatMessage "m" none (some [])).errors =
      some [.cyclicReference ["a.b", "a.b"]] :=
  ⟨sharedKeyBundle_acyclic, by decide⟩

end Bundle

end Phrasebook
