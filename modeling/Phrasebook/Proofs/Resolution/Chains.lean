import Phrasebook.Proofs.Resolution.Collecting
import Phrasebook.Proofs.Resolution.Descent
import Phrasebook.Proofs.Resolution.Plain

/-!
# The guards at the ends of chains

Entries that do nothing but show one another make a chain. Along it two guards watch: each
reference takes one level of the depth, and an entry is open from when its reference is entered.
The pattern that a call starts with takes no level and is not open. So it is settled to the entry
which guard ends a chain, and exactly one error is reported there.
-/

namespace Phrasebook

/-! ## Chains -/

/-- The pattern is a single placeable, with a reference to the target. -/
def Pattern.PointsTo (p : Pattern) (t : Target) : Prop :=
  ∃ e : Expression, p = .complex [.placeable e] ∧ e.target? = some t

/-- From the first pattern on, each pattern points to the next target, up to the last pattern. -/
inductive Bundle.LeadsAlong [FormatterSource] {γ : Type} (b : Bundle γ) :
    Pattern → List Target → Pattern → Prop where
  | here (p : Pattern) : LeadsAlong b p [] p
  | next {p q r : Pattern} {t : Target} {rest : List Target} :
      p.PointsTo t → b.targetPattern t = .ok q → LeadsAlong b q rest r →
        LeadsAlong b p (t :: rest) r

namespace Bundle.LeadsAlong

variable [FormatterSource] {γ : Type} {b : Bundle γ} {p q r : Pattern} {t : Target}
  {rest : List Target}

theorem append (h : b.LeadsAlong p rest r) (hr : r.PointsTo t) (ht : b.targetPattern t = .ok q) :
    b.LeadsAlong p (rest ++ [t]) q := by
  induction h with
  | here p => exact .next hr ht (.here q)
  | next hp htarget _ ih => exact .next hp htarget (ih hr)

theorem mem_targetPattern (h : b.LeadsAlong p rest r) (ht : t ∈ rest) :
    ∃ q, b.targetPattern t = .ok q := by
  induction h with
  | here p => cases ht
  | next _ htarget _ ih =>
      rcases List.mem_cons.1 ht with rfl | ht
      · exact ⟨_, htarget⟩
      · exact ih ht

/-- Behind the last pattern of a chain that comes back, the first pattern points to the start of the
chain, or to the target it came back by. -/
theorem pointsTo_head (h : b.LeadsAlong p rest r) (hr : r.PointsTo t) :
    p.PointsTo (rest.headD t) := by
  cases h with
  | here p => exact hr
  | next hp _ _ => exact hp

end Bundle.LeadsAlong

namespace Environment

variable [FormatterSource] {γ : Type} [CustomValue γ] {env : Environment γ} {p q r : Pattern}
  {t : Target} {s : Scope γ} {text : String} {added : List ResolverError}

/-- The pattern is shown with a text and some added errors, and nothing else changes. -/
def Shows (env : Environment γ) (p : Pattern) (s : Scope γ) (text : String)
    (added : List ResolverError) : Prop :=
  Agrees (env.resolvePattern p) s text added s

theorem shows_plain (hp : p.isPlain) (s : Scope γ) : env.Shows p s (env.bundle.plainText p) [] :=
  .of_silent fun _ => resolvePattern_plain hp _

/-! ## One reference -/

theorem render_text (hformatter : env.bundle.formatter = none) (text : String) :
    env.render (.text text) = .pure text := by
  unfold render
  rw [hformatter]
  rfl

theorem render_absent (hformatter : env.bundle.formatter = none) (fallback : Option String) :
    env.render (.absent fallback) = .pure (Value.absentText fallback) := by
  unfold render
  rw [hformatter]
  rfl

/-- The only placeable of a pattern is shown as its value, and is not set off. -/
theorem shows_placeable {e : Expression} {v : Value γ}
    (he : Agrees (env.resolve e) s v added s) (hv : env.render v = .pure text) :
    env.Shows (.complex [.placeable e]) s text added := by
  have hrender : Agrees (env.run env.resolve (env.render v)) s text [] s := hv ▸ agrees_pure text s
  have hplace : Agrees (env.run env.resolve (env.showElement false (.placeable e))) s text
      (added ++ ([] ++ [])) s := agrees_bind he (agrees_bind hrender (agrees_pure text s))
  have hrest : Agrees (env.run env.resolve ((env.showElements false []).bind fun rest =>
      .pure (text ++ rest))) s (text ++ "") ([] ++ []) s :=
    agrees_bind (agrees_pure "" s) (agrees_pure _ s)
  have hall : Agrees (env.run env.resolve (env.showElements false [.placeable e])) s (text ++ "")
      (added ++ ([] ++ []) ++ ([] ++ [])) s := agrees_bind hplace hrest
  have hsteps : env.showPattern (.complex [.placeable e]) =
      env.showElements false [.placeable e] := by
    simp [showPattern]
  unfold Shows resolvePattern
  rw [hsteps]
  simpa using hall

theorem agrees_resolve {e : Expression} {v : Value γ} {u : Scope γ}
    (h : Agrees (env.resolveBy env.resolve e) s v added u) : Agrees (env.resolve e) s v added u :=
  h.congr fun _ => resolve_eq e _

theorem resolve_of_deep {e : Expression} (hd : env.bundle.maxDepth ≤ s.depth) :
    Agrees (env.resolve e) s (.absent none) [.tooMuchRecursion env.bundle.maxDepth] s := by
  apply agrees_resolve
  exact agrees_within_error (errorBlind_descend _) (Scope.descend_eq_error_iff.2 ⟨hd, rfl⟩)

/-- An expression that may be opened has the value that its form has one level deeper. -/
theorem resolve_of_form {e : Expression} {v : Value γ} (hd : s.depth < env.bundle.maxDepth)
    (hform : Agrees (env.run env.resolve (env.resolveForm e)) { s with depth := s.depth + 1 } v
      added { s with depth := s.depth + 1 }) :
    Agrees (env.resolve e) s v added s := by
  have hwithin : Agrees (env.resolveBy env.resolve e) s v added
      (Scope.ascend { s with depth := s.depth + 1 }) :=
    hform.within_ok (errorBlind_descend _) (fun _ _ => rfl)
      (Scope.descend_eq_ok_iff.2 ⟨hd, rfl⟩)
  exact agrees_resolve hwithin

/-- A reference that is open already. -/
theorem resolve_of_open {e : Expression} (hd : s.depth < env.bundle.maxDepth)
    (he : e.target? = some t) (ht : env.bundle.targetPattern t = .ok q) (hopen : t.key ∈ s.active) :
    Agrees (env.resolve e) s (.absent (some t.key))
      [.cyclicReference (s.active ++ [t.key])] s := by
  apply resolve_of_form hd
  rw [resolveForm_of_target he, ht]
  let deeper : Scope γ := { s with depth := s.depth + 1 }
  let inside : Scope γ := { deeper with localArguments := e.localArguments }
  have hentry : Agrees (env.run env.resolve (env.resolveEntry t.key q)) inside
      (.absent (some t.key)) [.cyclicReference (s.active ++ [t.key])] inside :=
    agrees_within_error (errorBlind_pushEntry _) (Scope.pushEntry_eq_error_iff.2 ⟨hopen, rfl⟩)
  exact agrees_withLocal (s := deeper) hentry

/-- A reference that is not open yet stands for the text of its pattern, shown one level deeper with
the reference open and its arguments in place. -/
theorem resolve_of_shown {e : Expression} {u : Scope γ} (hd : s.depth < env.bundle.maxDepth)
    (he : e.target? = some t) (ht : env.bundle.targetPattern t = .ok q) (hclosed : t.key ∉ s.active)
    (hq : Agrees (env.resolvePattern q)
      { s with
        depth := s.depth + 1
        localArguments := e.localArguments
        active := s.active ++ [t.key] } text added u) :
    Agrees (env.resolve e) s (.text text) added
      { u.popEntry with localArguments := s.localArguments }.ascend := by
  let deeper : Scope γ := { s with depth := s.depth + 1 }
  let inside : Scope γ := { deeper with localArguments := e.localArguments }
  let opened : Scope γ := { inside with active := s.active ++ [t.key] }
  let shown : Resolving γ (Value γ) := Value.text <$> env.showPattern q
  have hbody : Agrees (env.run env.resolve shown) opened (.text text) (added ++ []) u :=
    agrees_bind hq (agrees_pure _ _)
  have hentry : Agrees (env.run env.resolve (env.resolveEntry t.key q)) inside (.text text)
      (added ++ []) u.popEntry :=
    hbody.within_ok (errorBlind_pushEntry _) (fun _ _ => rfl)
      (Scope.pushEntry_eq_ok_iff.2 ⟨hclosed, rfl⟩)
  rw [List.append_nil] at hentry
  have hform : Agrees (env.run env.resolve (env.resolveForm e)) deeper (.text text) added
      { u.popEntry with localArguments := s.localArguments } := by
    rw [resolveForm_of_target he, ht]
    exact agrees_withLocal (s := deeper) hentry
  have hlevel : Agrees (env.resolveBy env.resolve e) s (.text text) added
      { u.popEntry with localArguments := s.localArguments }.ascend :=
    hform.within_ok (errorBlind_descend _) (fun _ _ => rfl) (Scope.descend_eq_ok_iff.2 ⟨hd, rfl⟩)
  exact agrees_resolve hlevel

/-- A pattern that leaves the scope as it was leaves it as it was behind the reference, too. -/
theorem resolve_of_closed {e : Expression} (hd : s.depth < env.bundle.maxDepth)
    (he : e.target? = some t) (ht : env.bundle.targetPattern t = .ok q) (hclosed : t.key ∉ s.active)
    (hq : ∀ u : Scope γ, u.depth = s.depth + 1 → u.active = s.active ++ [t.key] →
      env.Shows q u text added) :
    Agrees (env.resolve e) s (.text text) added s := by
  have h := resolve_of_shown hd he ht hclosed (hq _ rfl rfl)
  simpa [Scope.popEntry, Scope.ascend] using h

variable (hformatter : env.bundle.formatter = none)
include hformatter

/-- No level is left for the reference. -/
theorem shows_cut (hp : p.PointsTo t) (hd : env.bundle.maxDepth ≤ s.depth) :
    env.Shows p s (Value.absentText none) [.tooMuchRecursion env.bundle.maxDepth] := by
  obtain ⟨e, rfl, -⟩ := hp
  exact shows_placeable (resolve_of_deep hd) (render_absent hformatter none)

/-- The reference is open already. -/
theorem shows_cycle (hp : p.PointsTo t) (hd : s.depth < env.bundle.maxDepth)
    (ht : env.bundle.targetPattern t = .ok q) (hopen : t.key ∈ s.active) :
    env.Shows p s (Value.absentText (some t.key)) [.cyclicReference (s.active ++ [t.key])] := by
  obtain ⟨e, rfl, he⟩ := hp
  exact shows_placeable (resolve_of_open hd he ht hopen) (render_absent hformatter _)

/-- The reference is entered, being none of the open ones. -/
theorem shows_next {keys : List String} (hp : p.PointsTo t) (hd : s.depth < env.bundle.maxDepth)
    (ht : env.bundle.targetPattern t = .ok q) (hkeys : (s.active ++ t.key :: keys).Nodup)
    (hq : ∀ u : Scope γ, u.depth = s.depth + 1 → u.active = s.active ++ [t.key] →
      env.Shows q u text added) : env.Shows p s text added := by
  obtain ⟨e, rfl, he⟩ := hp
  have hclosed : t.key ∉ s.active := by
    intro hopen
    exact (List.nodup_append.1 hkeys).2.2 _ hopen _ List.mem_cons_self rfl
  exact shows_placeable (resolve_of_closed hd he ht hclosed hq) (render_text hformatter text)

/-! ## Along a chain -/

section Chain

variable {rest : List Target} (hchain : env.bundle.LeadsAlong p rest r)
  (hkeys : (s.active ++ rest.map Target.key).Nodup)
include hchain hkeys

/-- With a level for each reference, the first pattern is shown as the last one is behind them. -/
theorem shows_along (hroom : s.depth + rest.length ≤ env.bundle.maxDepth)
    (hr : ∀ u : Scope γ, u.depth = s.depth + rest.length →
      u.active = s.active ++ rest.map Target.key → env.Shows r u text added) :
    env.Shows p s text added := by
  induction hchain generalizing s with
  | here p => exact hr s rfl (List.append_nil _).symm
  | @next p q r t rest hp ht _ ih =>
      simp only [List.map_cons, List.length_cons] at hkeys hroom hr
      apply shows_next hformatter hp (by omega) ht hkeys
      intro u hdepth hactive
      apply ih
      · simpa [hactive] using hkeys
      · omega
      · intro w hwdepth hwactive
        apply hr w
        · omega
        · simpa [hactive] using hwactive

/-- With fewer levels a reference on the way is not opened. -/
theorem shows_along_cut (hd : s.depth ≤ env.bundle.maxDepth)
    (hdeep : env.bundle.maxDepth < s.depth + rest.length) :
    env.Shows p s (Value.absentText none) [.tooMuchRecursion env.bundle.maxDepth] := by
  induction hchain generalizing s with
  | here p =>
      simp only [List.length_nil] at hdeep
      omega
  | @next p q r t rest hp ht _ ih =>
      simp only [List.map_cons, List.length_cons] at hkeys hdeep
      -- The cut is at the first reference that no level is left for.
      by_cases hlast : env.bundle.maxDepth ≤ s.depth
      · exact shows_cut hformatter hp hlast
      · apply shows_next hformatter hp (by omega) ht hkeys
        intro u hdepth hactive
        apply ih
        · simpa [hactive] using hkeys
        · omega
        · omega

theorem shows_along_plain (hd : s.depth ≤ env.bundle.maxDepth) (hr : r.isPlain) :
    if s.depth + rest.length ≤ env.bundle.maxDepth then
      env.Shows p s (env.bundle.plainText r) []
    else env.Shows p s (Value.absentText none) [.tooMuchRecursion env.bundle.maxDepth] := by
  by_cases hroom : s.depth + rest.length ≤ env.bundle.maxDepth
  · rw [if_pos hroom]
    exact shows_along hformatter hchain hkeys hroom fun u _ _ => shows_plain hr u
  · rw [if_neg hroom]
    exact shows_along_cut hformatter hchain hkeys hd (by omega)

/-- The last pattern points back to a reference that is open then. -/
theorem shows_along_cycle {again : Target} (hd : s.depth ≤ env.bundle.maxDepth)
    (hr : r.PointsTo again) (hagain : again ∈ rest) :
    if s.depth + rest.length + 1 ≤ env.bundle.maxDepth then
      env.Shows p s (Value.absentText (some again.key))
        [.cyclicReference (s.active ++ rest.map Target.key ++ [again.key])]
    else env.Shows p s (Value.absentText none) [.tooMuchRecursion env.bundle.maxDepth] := by
  by_cases hroom : s.depth + rest.length ≤ env.bundle.maxDepth
  · by_cases hlevel : s.depth + rest.length + 1 ≤ env.bundle.maxDepth
    · rw [if_pos hlevel]
      apply shows_along hformatter hchain hkeys hroom
      intro u hdepth hactive
      obtain ⟨q, hq⟩ := hchain.mem_targetPattern hagain
      have hopen : again.key ∈ u.active := by
        rw [hactive]
        exact List.mem_append_right _ (List.mem_map_of_mem hagain)
      rw [← hactive]
      exact shows_cycle hformatter hr (by omega) hq hopen
    · -- Behind the chain no level is left for one more reference.
      rw [if_neg hlevel]
      apply shows_along hformatter hchain hkeys hroom
      intro u hdepth _
      exact shows_cut hformatter hr (by omega)
  · rw [if_neg (by omega)]
    exact shows_along_cut hformatter hchain hkeys hd (by omega)

end Chain

end Environment

structure Outcome.Gives [FormatterSource] (o : Outcome) (held : List ResolverError) (text : String)
    (added : List ResolverError) : Prop where
  result : o.result = .ok text
  errors : o.errors = some (held ++ added)

theorem Environment.Shows.gives [FormatterSource] {γ : Type} [CustomValue γ] {b : Bundle γ}
    {arguments : Option (Arguments γ)} {p : Pattern} {text : String} {added : List ResolverError}
    (h : (Environment.mk b arguments).Shows p (.start b none) text added)
    (held : List ResolverError) :
    (b.formatPattern p arguments (some held)).Gives held text added := by
  have hcollects : (Environment.mk b arguments).resolvePattern p (.start b (some held)) = _ :=
    h.collects held
  rw [Bundle.formatPattern_eq_resolved, hcollects]
  exact ⟨rfl, rfl⟩

namespace Bundle

section

variable [FormatterSource] {γ : Type} [CustomValue γ]

/-- Without a hook that shows values, a message whose pattern leads along a chain of references with
distinct keys comes out as the last pattern of the chain says, if the ceiling leaves one level for
each reference that is opened on the way, and as `{???}` with a single error for the ceiling
otherwise. A last pattern without placeables is shown, without an error. One that points back into
the chain is shown by the fallback of the entry it points to, whose second opening is the only
error. One that points to the pattern the call started with has that opened first, since it was not
open, so that the cycle is found at the start of the chain and one level later. -/
theorem chain_guards_exact {b : Bundle γ} (hformatter : b.formatter = none) {id : String}
    {attr : Option String} {p r : Pattern} {rest : List Target}
    (hp : b.messagePattern id attr = .ok p) (hchain : b.LeadsAlong p rest r)
    (hkeys : ((Target.message id attr :: rest).map Target.key).Nodup)
    (arguments : Option (Arguments γ)) (held : List ResolverError) :
    let first := Target.message id attr
    let again := rest.headD first
    let keys := rest.map Target.key
    let call := b.formatEntry id attr arguments (some held)
    let Cut := call.Gives held (Value.absentText none) [.tooMuchRecursion b.maxDepth]
    (r.isPlain →
      if rest.length ≤ b.maxDepth then call.Gives held (b.plainText r) [] else Cut) ∧
    (∀ t ∈ rest, r.PointsTo t →
      if rest.length + 1 ≤ b.maxDepth then
        call.Gives held (Value.absentText (some t.key)) [.cyclicReference (keys ++ [t.key])]
      else Cut) ∧
    (r.PointsTo first →
      if rest.length + 2 ≤ b.maxDepth then
        call.Gives held (Value.absentText (some again.key))
          [.cyclicReference (keys ++ [first.key, again.key])]
      else Cut) := by
  intro first again keys call Cut
  let env : Environment γ := ⟨b, arguments⟩
  let start : Scope γ := .start b none
  have hcall {c : Prop} [Decidable c] {text : String} {added : List ResolverError}
      (h : if c then env.Shows p start text added
        else env.Shows p start (Value.absentText none) [.tooMuchRecursion b.maxDepth]) :
      if c then call.Gives held text added else Cut := by
    simp only [call, Cut, formatEntry, hp]
    by_cases hc : c
    · rw [if_pos hc] at h ⊢
      exact h.gives held
    · rw [if_neg hc] at h ⊢
      exact h.gives held
  have hleads : env.bundle.LeadsAlong p rest r := hchain
  have hnodup : (start.active ++ rest.map Target.key).Nodup := (List.nodup_cons.1 hkeys).2
  have hdepth : start.depth = 0 := rfl
  have hactive : start.active = [] := rfl
  refine ⟨fun hplain => ?_, fun t ht hr => ?_, fun hr => ?_⟩
  · have hshows := Environment.shows_along_plain hformatter hleads hnodup (Nat.zero_le _) hplain
    rw [hdepth, Nat.zero_add] at hshows
    exact hcall hshows
  · have hshows := Environment.shows_along_cycle hformatter hleads hnodup (Nat.zero_le _) hr ht
    rw [hdepth, hactive, Nat.zero_add, List.nil_append] at hshows
    exact hcall hshows
  · -- The chain goes on to where it started, and from there it comes back to its own start.
    have hround : env.bundle.LeadsAlong p (rest ++ [first]) p := hleads.append hr hp
    have hnodup' : (start.active ++ (rest ++ [first]).map Target.key).Nodup := by
      rw [hactive, List.nil_append, List.map_append]
      exact (List.perm_append_singleton first.key keys).nodup_iff.2 hkeys
    have hagain : again ∈ rest ++ [first] := by
      cases rest <;> simp [again]
    have hshows := Environment.shows_along_cycle hformatter hround hnodup' (Nat.zero_le _)
      (hleads.pointsTo_head hr) hagain
    rw [hdepth, hactive, Nat.zero_add, List.nil_append, List.length_append, List.length_singleton,
      List.map_append, List.append_assoc] at hshows
    exact hcall hshows

end

def ringBundle (maxDepth : Nat) : Bundle Empty :=
  ((ofOptions { maxDepth := maxDepth }).addResource false
    ⟨[⟨"m", some (.complex [.placeable (.term "t" none none)]), .empty⟩,
      ⟨"-t", some (.complex [.placeable (.message "m" none)]), .empty⟩]⟩).1

/-- Three levels are just enough to find the cycle. -/
theorem ringBundle_exact :
    let call (d : Nat) : Outcome := (ringBundle d).formatEntry "m" none none (some [])
    (call 3).Gives [] "\x7b-t\x7d" [.cyclicReference ["-t", "m", "-t"]] ∧
    (call 2).Gives [] "\x7b???\x7d" [.tooMuchRecursion 2] := by
  have hleads (d : Nat) : (ringBundle d).LeadsAlong (.complex [.placeable (.term "t" none none)])
      [.term "-t" none] (.complex [.placeable (.message "m" none)]) :=
    .next ⟨_, rfl, rfl⟩ rfl (.here _)
  have hkeys : ([Target.message "m" none, .term "-t" none].map Target.key).Nodup := by decide
  have hexact (d : Nat) := chain_guards_exact (b := ringBundle d) rfl rfl (hleads d) hkeys none []
  exact ⟨(hexact 3).2.2 ⟨_, rfl, rfl⟩, (hexact 2).2.2 ⟨_, rfl, rfl⟩⟩

end Bundle

end Phrasebook
