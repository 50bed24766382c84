import Mathlib.Data.List.Dedup
import Phrasebook.Coverage
import Phrasebook.Proofs.Reference.Suggestions

/-!
# Coverage as a partition

The ids of a source are those that the target has and those that it lacks; the ids of a target are
those that the source has, again the common ones, and those that only the target has. The counts of
a comparison add up because on both sides each id is listed once, at the place where it first
stands. What is listed, and in which order, depends on the members of the other side alone.
-/

namespace Phrasebook

/-- Each of the `ids` with a property is listed once, in the order in which they first stand. -/
structure ListedOnce (ids : List String) (p : String → Prop) (listed : List String) : Prop where
  mem_iff : ∀ id, id ∈ listed ↔ id ∈ ids ∧ p id
  ordered : listed.Pairwise fun a b => ids.idxOf a < ids.idxOf b

theorem mem_firstOccurrences {seen ids : List String} {id : String} :
    id ∈ firstOccurrences seen ids ↔ id ∈ ids ∧ id ∉ seen := by
  induction ids generalizing seen with
  | nil => simp [firstOccurrences]
  | cons n rest ih =>
      unfold firstOccurrences
      split
      · next hn =>
        have hseen : n ∈ seen := List.contains_iff_mem.1 hn
        have hne : id ∉ seen → id ≠ n := fun hid heq => hid (heq ▸ hseen)
        rw [ih, List.mem_cons]
        tauto
      · next hn =>
        have hseen : n ∉ seen := fun h => hn (List.contains_iff_mem.2 h)
        have hhead : id = n → id ∉ seen := fun heq => heq ▸ hseen
        rw [List.mem_cons, ih, List.mem_cons, List.mem_cons]
        tauto

/-- An id in front moves all others back by one place. -/
theorem pairwise_idxOf_cons {n : String} {ids listed : List String} (hn : n ∉ listed)
    (h : listed.Pairwise fun a b => ids.idxOf a < ids.idxOf b) :
    listed.Pairwise fun a b => (n :: ids).idxOf a < (n :: ids).idxOf b := by
  apply h.imp_of_mem
  intro a b ha hb hab
  have hna : n ≠ a := fun heq => hn (heq ▸ ha)
  have hnb : n ≠ b := fun heq => hn (heq ▸ hb)
  rw [List.idxOf_cons_ne ids hna, List.idxOf_cons_ne ids hnb]
  exact Nat.succ_lt_succ hab

theorem pairwise_firstOccurrences (seen ids : List String) :
    (firstOccurrences seen ids).Pairwise fun a b => ids.idxOf a < ids.idxOf b := by
  induction ids generalizing seen with
  | nil => exact .nil
  | cons n rest ih =>
      unfold firstOccurrences
      split
      · next hn =>
        apply pairwise_idxOf_cons _ (ih seen)
        intro hmem
        exact (mem_firstOccurrences.1 hmem).2 (List.contains_iff_mem.1 hn)
      · have hrest : n ∉ firstOccurrences (n :: seen) rest := fun hmem =>
          (mem_firstOccurrences.1 hmem).2 List.mem_cons_self
        refine List.pairwise_cons.2 ⟨fun b hb => ?_, pairwise_idxOf_cons hrest (ih (n :: seen))⟩
        have hnb : n ≠ b := fun heq => hrest (heq ▸ hb)
        rw [List.idxOf_cons_self, List.idxOf_cons_ne rest hnb]
        exact Nat.succ_pos _

namespace ListedOnce

variable {ids listed : List String} {p : String → Prop}

theorem nodup (h : ListedOnce ids p listed) : listed.Nodup := by
  apply h.ordered.imp
  intro a b hab heq
  exact Nat.ne_of_lt hab (congrArg ids.idxOf heq)

/-- There is one such list. -/
theorem iff_eq (h : ListedOnce ids p listed) (l : List String) :
    ListedOnce ids p l ↔ l = listed := by
  constructor
  · intro hl
    apply eq_of_pairwise_of_mem_iff (fun a b hab => Nat.lt_asymm hab) h.ordered hl.ordered
    intro id
    rw [hl.mem_iff, h.mem_iff]
  · rintro rfl
    exact h

/-- Of what is listed, a part is listed in the same order. -/
theorem filter (h : ListedOnce ids (fun _ => True) listed) {q : String → Bool}
    (hq : ∀ id, q id = true ↔ p id) : ListedOnce ids p (listed.filter q) where
  mem_iff id := by simp [h.mem_iff, hq]
  ordered := h.ordered.filter q

end ListedOnce

namespace Resource

theorem mem_messageIds {r : Resource} {id : String} :
    id ∈ r.messageIds ↔ ∃ e ∈ r.body, e.isTerm = false ∧ e.id = id := by
  simp [messageIds, and_assoc]

theorem listedOnce_uniqueMessageIds (r : Resource) :
    ListedOnce r.messageIds (fun _ => True) r.uniqueMessageIds where
  mem_iff id := by simp [uniqueMessageIds, mem_firstOccurrences]
  ordered := pairwise_firstOccurrences [] r.messageIds

theorem mem_uniqueMessageIds {r : Resource} {id : String} :
    id ∈ r.uniqueMessageIds ↔ id ∈ r.messageIds := by
  simp [r.listedOnce_uniqueMessageIds.mem_iff]

theorem length_uniqueMessageIds (r : Resource) :
    r.uniqueMessageIds.length = r.messageIds.dedup.length := by
  have hnodup : r.uniqueMessageIds.Nodup := r.listedOnce_uniqueMessageIds.nodup
  apply List.Perm.length_eq
  apply (List.perm_ext_iff_of_nodup hnodup (List.nodup_dedup _)).2
  intro id
  rw [mem_uniqueMessageIds, List.mem_dedup]

/-- Neither the order of the entries nor how often one stands there matters to which ids there
are. -/
theorem mem_messageIds_congr {r r' : Resource} (h : ∀ e, e ∈ r'.body ↔ e ∈ r.body) (id : String) :
    id ∈ r'.messageIds ↔ id ∈ r.messageIds := by
  simp only [mem_messageIds, h]

end Resource

namespace Coverage

/-- What a comparison of two resources says: the ids that the target lacks and the ids that only it
has, and counts that add up to the numbers of distinct ids on both sides. -/
structure Partitions (source target : Resource) (c : Coverage) : Prop where
  missing : ∀ ids, ListedOnce source.messageIds (· ∉ target.messageIds) ids ↔ ids = c.missing
  extra : ∀ ids, ListedOnce target.messageIds (· ∉ source.messageIds) ids ↔ ids = c.extra
  missing_le : c.missing.length ≤ source.uniqueMessageIds.length
  covered_add_missing : c.covered + c.missing.length = source.messageIds.dedup.length
  covered_add_extra : c.covered + c.extra.length = target.messageIds.dedup.length

def ofResources (language : String) (source target : Resource) : Coverage :=
  compare language source.uniqueMessageIds target.uniqueMessageIds

section Comparison

variable (language : String) (source target : List String)

theorem covered_compare :
    (compare language source target).covered = (source.filter target.contains).length := by
  have hsplit := List.length_eq_length_filter_add (l := source) target.contains
  have hcovered : (compare language source target).covered =
      source.length - (source.filter fun id => !target.contains id).length := rfl
  omega

/-- The ids that both sides have are counted alike from either side. -/
theorem length_common (hsource : source.Nodup) (htarget : target.Nodup) :
    (source.filter target.contains).length = (target.filter source.contains).length := by
  apply List.Perm.length_eq
  apply (List.perm_ext_iff_of_nodup (hsource.filter _) (htarget.filter _)).2
  intro id
  simp [and_comm]

end Comparison

theorem partitions_ofResources (language : String) (source target : Resource) :
    (ofResources language source target).Partitions source target := by
  have hsource := source.listedOnce_uniqueMessageIds
  have htarget := target.listedOnce_uniqueMessageIds
  have hmissing := List.length_eq_length_filter_add (l := source.uniqueMessageIds)
    target.uniqueMessageIds.contains
  have hextra := List.length_eq_length_filter_add (l := target.uniqueMessageIds)
    source.uniqueMessageIds.contains
  have hcommon := length_common source.uniqueMessageIds target.uniqueMessageIds hsource.nodup
    htarget.nodup
  have hcovered := covered_compare language source.uniqueMessageIds target.uniqueMessageIds
  have lacks (r : Resource) (id : String) :
      (!r.uniqueMessageIds.contains id) = true ↔ id ∉ r.messageIds := by
    simp [Resource.mem_uniqueMessageIds]
  refine ⟨?_, ?_, List.length_filter_le _ _, ?_, ?_⟩
  · exact (hsource.filter (lacks target)).iff_eq
  · exact (htarget.filter (lacks source)).iff_eq
  · rw [← source.length_uniqueMessageIds, hmissing]
    exact congrArg (· + _) hcovered
  · rw [← target.length_uniqueMessageIds, hextra, ← hcommon]
    exact congrArg (· + _) hcovered

/-- Something is missing exactly if there is an id that the target lacks. -/
theorem Partitions.missing_ne_nil_iff {source target : Resource} {c : Coverage}
    (h : c.Partitions source target) :
    c.missing ≠ [] ↔ ∃ id ∈ source.messageIds, id ∉ target.messageIds := by
  have hlisted := (h.missing c.missing).2 rfl
  constructor
  · intro hne
    obtain ⟨id, hid⟩ := List.exists_mem_of_ne_nil c.missing hne
    exact ⟨id, (hlisted.mem_iff id).1 hid⟩
  · rintro ⟨id, hid⟩
    exact List.ne_nil_of_mem ((hlisted.mem_iff id).2 hid)

/-- Entries of the target may change places, or stand there once more, without a change to what is
covered and what is missing. -/
theorem ofResources_congr {source target target' : Resource}
    (h : ∀ e, e ∈ target'.body ↔ e ∈ target.body) (language : String) :
    (ofResources language source target').covered = (ofResources language source target).covered ∧
    (ofResources language source target').missing =
      (ofResources language source target).missing := by
  have hcontains (id : String) :
      target'.uniqueMessageIds.contains id = target.uniqueMessageIds.contains id := by
    rw [Bool.eq_iff_iff, List.contains_iff_mem, List.contains_iff_mem,
      Resource.mem_uniqueMessageIds, Resource.mem_uniqueMessageIds,
      Resource.mem_messageIds_congr h]
  simp only [ofResources, compare, hcontains, and_self]

end Coverage

end Phrasebook
