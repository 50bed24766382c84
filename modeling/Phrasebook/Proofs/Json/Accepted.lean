import Phrasebook.Proofs.Json.RoundTrip

/-!
# What accepted texts hold

A reader ensures a property if all values that it gives have it, from whatever text. Every number in
a document that was read has a notation again: an integer is kept only within 64 bits, and a number
too large for any finite value is refused.
-/

namespace Phrasebook

namespace Json

namespace Reader

variable {α β σ : Type} {P : α → Prop} {Q : β → Prop}

/-- Whatever the reader gives satisfies `P`. -/
def Ensures (P : α → Prop) (reader : Reader α) : Prop := ∀ s a t, reader s = .ok a t → P a

theorem ensures_pure {a : α} (h : P a) : Ensures P (pure a) := by
  rintro s b t ⟨⟩
  exact h

theorem Ensures.bind {m : Reader β} {next : β → Reader α} (hm : Ensures Q m)
    (hnext : ∀ b, Q b → Ensures P (next b)) : Ensures P (m >>= next) := by
  intro s a t h
  change EStateM.bind m next s = _ at h
  cases hrun : m s with
  | ok b u =>
      simp only [EStateM.bind, hrun] at h
      exact hnext b (hm s b u hrun) u a t h
  | error e u =>
      simp only [EStateM.bind, hrun] at h
      cases h

/-- What was read before does not matter. -/
theorem ensures_after {m : Reader β} {next : β → Reader α} (h : ∀ b, Ensures P (next b)) :
    Ensures P (m >>= next) :=
  Ensures.bind (Q := fun _ => True) (fun _ _ _ _ => trivial) fun b _ => h b

theorem Ensures.map {f : β → α} {m : Reader β} (h : Ensures (fun b => P (f b)) m) :
    Ensures P (f <$> m) := by
  intro s a t h'
  change EStateM.map f m s = _ at h'
  cases hrun : m s with
  | ok b u =>
      simp only [EStateM.map, hrun] at h'
      cases h'
      exact h s b _ hrun
  | error e u =>
      simp only [EStateM.map, hrun] at h'
      cases h'

theorem ensures_failHere (cause : Cause) : Ensures P (failHere cause) := nofun

theorem ensures_failAhead (cause : Cause) : Ensures P (failAhead cause) := nofun

theorem ensures_fail (cause : Cause) : Ensures P (fail cause) := nofun

theorem ensures_ofExcept {r : Except Cause α} (h : ∀ a, r = .ok a → P a) :
    Ensures P (ofExcept r) := by
  cases r with
  | ok a => exact ensures_pure (h a rfl)
  | error cause => exact ensures_fail cause

theorem ensures_closedBy {body : Reader α} (h : Ensures P body) (close : Reader Unit) :
    Ensures P (closedBy body close) := by
  intro s a t hrun
  unfold closedBy at hrun
  split at hrun
  · next hbody =>
    split at hrun
    · cases hrun
      exact h s _ _ hbody
    · cases hrun
  · cases hrun

theorem ensures_itemsUpTo {item : Reader α} (h : Ensures P item) (fuel : Nat) (first : Bool) :
    Ensures (fun as => ∀ a ∈ as, P a) (itemsUpTo item fuel first) := by
  induction fuel generalizing first with
  | zero => exact ensures_pure nofun
  | succ fuel ih =>
      refine ensures_after fun another => ?_
      split
      · refine h.bind fun a ha => (ih false).bind fun as has => ensures_pure ?_
        exact List.forall_mem_cons.2 ⟨ha, has⟩
      · exact ensures_pure nofun

theorem ensures_items {item : Reader α} (h : Ensures P item) :
    Ensures (fun as => ∀ a ∈ as, P a) (items item) :=
  ensures_after fun _ => ensures_itemsUpTo h _ _

theorem ensures_membersUpTo {P : σ → Prop} {member : σ → String → Reader σ}
    (h : ∀ acc key, P acc → Ensures P (member acc key)) (fuel : Nat) (first : Bool) {acc : σ}
    (hacc : P acc) : Ensures P (membersUpTo member fuel first acc) := by
  induction fuel generalizing first acc with
  | zero => exact ensures_pure hacc
  | succ fuel ih =>
      refine ensures_after fun another => ?_
      split
      · exact ensures_after fun _ => ensures_after fun key =>
          (h acc key hacc).bind fun acc' hacc' => ih false hacc'
      · exact ensures_pure hacc

/-- What holds at first and is kept by every member holds at the end. -/
theorem ensures_foldMembers {P : σ → Prop} {member : σ → String → Reader σ}
    (h : ∀ acc key, P acc → Ensures P (member acc key)) {acc : σ} (hacc : P acc) :
    Ensures P (foldMembers member acc) :=
  ensures_after fun _ => ensures_membersUpTo h _ _ hacc

theorem ensures_item? {item : Reader α} (h : Ensures P item) (first : Bool) :
    Ensures (fun a => ∀ b ∈ a, P b) (item? first item) := by
  refine ensures_after fun another => ?_
  split
  · refine Ensures.map fun s a t hrun b hb => ?_
    obtain rfl := Option.some.inj hb
    exact h s _ t hrun
  · exact ensures_pure nofun

theorem ensures_optional {reader : Reader α} (h : Ensures P reader) :
    Ensures (fun a => ∀ b ∈ a, P b) (optional reader) := by
  refine ensures_after fun c => ?_
  split
  · exact ensures_after fun _ => ensures_after fun _ => ensures_pure nofun
  · refine Ensures.map fun s a t hrun b hb => ?_
    obtain rfl := Option.some.inj hb
    exact h s _ t hrun

theorem ensures_inList {body : Nat → Reader α} (h : ∀ level, Ensures P (body level)) (level : Nat) :
    Ensures P (inList body level) := by
  cases level with
  | zero => exact ensures_failAhead _
  | succ level => exact ensures_after fun _ => ensures_closedBy (h level) endList

theorem ensures_inObject {body : Nat → Reader α} (h : ∀ level, Ensures P (body level))
    (level : Nat) : Ensures P (inObject body level) := by
  cases level with
  | zero => exact ensures_failAhead _
  | succ level => exact ensures_after fun _ => ensures_closedBy (h level) endObject

section

variable [NumberSource]

theorem ensures_real (negative : Bool) (f : Figures) : Ensures Writable (real negative f) := by
  unfold real
  split
  · exact ensures_pure rfl
  · exact ensures_failHere _

theorem ensures_whole (negative : Bool) (ds : List Digit) :
    Ensures Writable (whole negative ds) := by
  unfold whole
  dsimp only
  generalize Digit.value ds = n
  split
  · split
    · next h =>
      refine ensures_pure ⟨Int.neg_le_neg (Int.ofNat_le.2 h.2), ?_⟩
      exact Int.lt_of_le_of_lt (Int.neg_nonpos_of_nonneg (Int.natCast_nonneg n))
        (Int.natCast_pos.2 (twoPow_pos 64))
    · exact ensures_real _ _
  · split
    · next h =>
      refine ensures_pure ⟨?_, Int.ofNat_lt.2 h⟩
      exact Int.le_trans (Int.neg_nonpos_of_nonneg (Int.natCast_nonneg _)) (Int.natCast_nonneg n)
    · exact ensures_real _ _

theorem ensures_behindWhole (negative : Bool) (ds : List Digit) :
    Ensures Writable (behindWhole negative ds) := by
  refine ensures_after fun c => ?_
  split
  · refine ensures_after fun _ => ensures_after fun fraction => ensures_after fun c => ?_
    split <;> exact ensures_after fun e => ensures_real _ _
  · split
    · exact ensures_after fun e => ensures_real _ _
    · exact ensures_whole _ _

theorem ensures_number (negative : Bool) : Ensures Writable (number negative) := by
  refine ensures_after fun c => ?_
  split
  · exact ensures_failHere _
  · split
    · exact ensures_failAhead _
    · exact ensures_after fun _ => ensures_after fun ds => ensures_behindWhole negative ds

theorem ensures_scalar (c : Char) : Ensures Writable (scalar c) := by
  unfold scalar
  split
  · exact ensures_after fun _ => ensures_after fun _ => ensures_pure trivial
  split
  · exact ensures_after fun _ => ensures_after fun _ => ensures_pure trivial
  split
  · exact ensures_after fun _ => ensures_after fun _ => ensures_pure trivial
  split
  · exact ensures_after fun _ => ensures_number true
  split
  · exact ensures_number false
  split
  · exact ensures_after fun _ => Ensures.map fun _ _ _ _ => trivial
  · exact ensures_failAhead _

theorem ensures_part {atList atObject : Reader Json} (hlist : Ensures Writable atList)
    (hobject : Ensures Writable atObject) : Ensures Writable (part atList atObject) := by
  refine ensures_after fun c => ?_
  split
  · exact ensures_failAhead _
  · exact hlist
  · exact hobject
  · exact ensures_scalar _

/-- Every document that was read can be written. -/
theorem ensures_valueAt (level : Nat) : Ensures Writable (valueAt level) := by
  induction level with
  | zero => exact ensures_part (ensures_failAhead _) (ensures_failAhead _)
  | succ level ih =>
      have hmember (acc : List (String × Json)) (key : String) (hacc : MembersWritable acc) :
          Ensures MembersWritable (pushMember (valueAt level) acc key) :=
        ensures_after fun _ => ih.bind fun v hv => ensures_pure ⟨hv, hacc⟩
      have hmembers : Ensures (fun acc => (Json.object acc.reverse).Writable)
          (foldMembers (pushMember (valueAt level)) []) := by
        intro s acc t hrun
        have hnil : MembersWritable [] := trivial
        have hacc := ensures_foldMembers hmember hnil s acc t hrun
        exact membersWritable_iff.2 fun m hm => membersWritable_iff.1 hacc m (List.mem_reverse.1 hm)
      have hitems : Ensures (fun vs => (Json.array vs).Writable) (items (valueAt level)) :=
        fun s vs t hrun => itemsWritable_iff.2 (ensures_items ih s vs t hrun)
      refine ensures_part ?_ ?_
      · exact ensures_after fun _ => ensures_closedBy hitems.map endList
      · exact ensures_after fun _ => ensures_closedBy hmembers.map endObject

theorem ensures_refuse (expected : String) (c : Char) : Ensures P (refuse expected c) := by
  unfold refuse
  split
  · exact ensures_failHere _
  · split
    · exact ensures_failHere _
    · exact ensures_after fun _ => ensures_failHere _

theorem ensures_list {item : Nat → Reader α} (h : ∀ level, Ensures P (item level)) (level : Nat) :
    Ensures (fun as => ∀ a ∈ as, P a) (list item level) := by
  refine ensures_after fun c => ?_
  split
  · exact ensures_failAhead _
  · exact ensures_inList (fun level => ensures_items (h level)) level
  · exact ensures_refuse _ _

theorem ensures_map {P : σ → Prop} {member : Nat → σ → String → Reader σ}
    (h : ∀ level acc key, P acc → Ensures P (member level acc key)) {acc : σ} (hacc : P acc)
    (level : Nat) : Ensures P (map member acc level) := by
  refine ensures_after fun c => ?_
  split
  · exact ensures_failAhead _
  · exact ensures_inObject (fun level => ensures_foldMembers (h level) hacc) level
  · exact ensures_refuse _ _

theorem ensures_record {ofList ofObject : Nat → Reader α} (expected : String)
    (hlist : ∀ level, Ensures P (ofList level)) (hobject : ∀ level, Ensures P (ofObject level))
    (level : Nat) : Ensures P (record expected ofList ofObject level) := by
  refine ensures_after fun c => ?_
  split
  · exact ensures_failAhead _
  · exact ensures_inList hlist level
  · exact ensures_inObject hobject level
  · exact ensures_refuse _ _

end

theorem of_run {reader : Nat → Reader α} (h : Ensures P (reader maxDepth)) {text : List Char}
    {a : α} (hrun : run reader text = .ok a) : P a := by
  have halone : Ensures P (alone (reader maxDepth)) := by
    refine h.bind fun a ha => ensures_after fun c => ?_
    split
    · exact ensures_pure ha
    · exact ensures_failAhead _
  unfold run at hrun
  split at hrun
  · next b t hresult =>
    cases hrun
    exact halone _ _ t hresult
  · cases hrun

end Reader

end Json

end Phrasebook
