import Phrasebook.Command
import Phrasebook.Proofs.Coverage.Partition
import Phrasebook.Proofs.Pattern.Accepted
import Phrasebook.Proofs.Resource.RoundTrip

/-!
# Surveying any files

A survey has rows exactly if all its files hold resources: one row for each target, with what that
target covers of the source. So the rows add up as comparisons do, and what they say to be covered
and missing depends on the ids in the targets alone. Only a survey that has rows can find something
missing, which is why the fault of an incomplete target is never that of a file that does not load.
-/

namespace Phrasebook.Command

abbrev Files.Hold (files : Files) : List String → List Resource → Prop :=
  List.Forall₂ fun path r => readResource files path = .ok r

/-- Files that hold these resources, as they are written, and no others. -/
def filesOf (resources : List (String × Resource)) : Files := fun path =>
  match resources.lookup path with
  | some r => .ok (String.ofList r.toJson.chars)
  | none => .error .notFound

theorem readResource_filesOf {resources : List (String × Resource)} {path : String} {r : Resource}
    (hr : resources.lookup path = some r) (hfinite : Binary64.AllFinite r.numbers)
    (hnesting : r.toJson.nesting ≤ Json.Reader.maxDepth) :
    readResource (filesOf resources) path = .ok r := by
  have hread : Resource.ofText r.toJson.chars = .ok r :=
    Json.Reader.run_of_reads (Resource.reads hfinite hnesting)
  simp only [readResource, filesOf, hr, Resource.load, String.toList_ofList, hread]

def coverages (source : Resource) : List String → List Resource → List Coverage :=
  List.zipWith fun path target => .ofResources (languageLabel path) source target

section Rows

variable {files : Files} {source : Resource} {paths : List String} {targets : List Resource}

theorem readIds_eq_ok {path : String} {ids : List String} :
    readIds files path = .ok ids ↔
      ∃ r, readResource files path = .ok r ∧ r.uniqueMessageIds = ids := map_eq_ok

/-- Targets that load are compared one after the other. -/
theorem mapM_compare (h : files.Hold paths targets) :
    (paths.mapM fun path => do
      return Coverage.compare (languageLabel path) source.uniqueMessageIds (← readIds files path)) =
        .ok (coverages source paths targets) := by
  induction h with
  | nil => rfl
  | @cons path target _ _ hread _ ih =>
      have hids : readIds files path = .ok target.uniqueMessageIds :=
        readIds_eq_ok.2 ⟨target, hread, rfl⟩
      rw [List.mapM_cons, ih, hids]
      rfl

/-- Where the comparisons come to an end, all targets have loaded. -/
theorem exists_hold_of_mapM {ids : List String} {rows : List Coverage}
    (h : (paths.mapM fun path => do
      return Coverage.compare (languageLabel path) ids (← readIds files path)) = .ok rows) :
    ∃ targets, files.Hold paths targets := by
  induction paths generalizing rows with
  | nil => exact ⟨[], .nil⟩
  | cons path rest ih =>
      rw [List.mapM_cons] at h
      obtain ⟨row, hrow, h⟩ := bind_eq_ok.1 h
      obtain ⟨more, hmore, -⟩ := bind_eq_ok.1 h
      obtain ⟨_, hids, -⟩ := bind_eq_ok.1 hrow
      obtain ⟨target, hread, -⟩ := readIds_eq_ok.1 hids
      obtain ⟨targets, htargets⟩ := ih hmore
      exact ⟨target :: targets, .cons hread htargets⟩

theorem partitions_coverages (h : files.Hold paths targets) :
    List.Forall₂ (Coverage.Partitions source) targets (coverages source paths targets) := by
  induction h with
  | nil => exact .nil
  | cons _ _ ih => exact .cons (Coverage.partitions_ofResources _ _ _) ih

/-- Targets with the same entries, in any order and any number, are covered alike. -/
theorem coverages_alike {targets' : List Resource}
    (h : List.Forall₂ (fun target target' => ∀ e, e ∈ target'.body ↔ e ∈ target.body)
      targets targets') :
    List.Forall₂ (fun row row' => row'.covered = row.covered ∧ row'.missing = row.missing)
      (coverages source paths targets) (coverages source paths targets') := by
  induction h generalizing paths with
  | nil =>
      rw [coverages, List.zipWith_nil_right]
      exact .nil
  | cons hsame _ ih =>
      cases paths with
      | nil => exact .nil
      | cons path rest =>
          exact .cons (Coverage.ofResources_congr hsame (languageLabel path)) ih

/-- Some row has something missing exactly if some target lacks an id of the source. -/
theorem exists_missing_iff {rows : List Coverage}
    (h : List.Forall₂ (Coverage.Partitions source) targets rows) :
    (∃ row ∈ rows, row.missing ≠ []) ↔
      ∃ target ∈ targets, ∃ id ∈ source.messageIds, id ∉ target.messageIds := by
  induction h with
  | nil => simp
  | cons hrow _ ih =>
      rw [List.exists_mem_cons_iff, List.exists_mem_cons_iff, ih, hrow.missing_ne_nil_iff]

end Rows

theorem Status.code_ofFault_eq_iff {found : Bool} :
    (Status.ofFault found).code = 65 ↔ found = true := by
  cases found <;> decide

namespace CoverageRequest

variable {files : Files} {r : CoverageRequest} {source : Resource} {targets : List Resource}

theorem survey_of_hold (h : files.Hold (r.source :: r.targets) (source :: targets)) :
    r.survey files =
      .ok (source.messageIds.dedup.length, coverages source r.targets targets) := by
  obtain ⟨hsource, htargets⟩ := List.forall₂_cons.1 h
  have hids : readIds files r.source = .ok source.uniqueMessageIds :=
    readIds_eq_ok.2 ⟨source, hsource, rfl⟩
  rw [survey, hids, ← source.length_uniqueMessageIds]
  exact bind_eq_ok.2 ⟨_, rfl, bind_eq_ok.2 ⟨_, mapM_compare htargets, rfl⟩⟩

theorem exists_hold_of_survey {found : Nat × List Coverage} (h : r.survey files = .ok found) :
    ∃ source targets, files.Hold (r.source :: r.targets) (source :: targets) := by
  obtain ⟨ids, hids, h⟩ := bind_eq_ok.1 h
  obtain ⟨source, hsource, -⟩ := readIds_eq_ok.1 hids
  obtain ⟨rows, hrows, -⟩ := bind_eq_ok.1 h
  obtain ⟨targets, htargets⟩ := exists_hold_of_mapM hrows
  exact ⟨source, targets, .cons hsource htargets⟩

/-- The rows are what a survey shows. -/
theorem output_report_of_ok {total : Nat} {rows : List Coverage}
    (h : r.survey files = .ok (total, rows)) :
    (r.report files).output =
      if r.json then [(Json.array (rows.map (Coverage.toJson total))).pretty]
      else coverageLines total rows ++ rows.flatMap Coverage.missingLines := by
  simp only [report, h]
  cases r.json <;> rfl

theorem status_report_of_ok {total : Nat} {rows : List Coverage}
    (h : r.survey files = .ok (total, rows)) :
    (r.report files).status = .ofFault (r.strict && rows.any fun row => !row.missing.isEmpty) := by
  simp only [report, h]
  cases r.json <;> rfl

/-- A survey ends with 65 exactly if it is strict and some row has something missing. -/
theorem code_report_eq_iff :
    (r.report files).status.code = 65 ↔
      r.strict = true ∧
        ∃ found, r.survey files = .ok found ∧ ∃ row ∈ found.2, row.missing ≠ [] := by
  cases hsurvey : r.survey files with
  | error e =>
      have hstatus : (r.report files).status = .failure := by
        simp only [report, hsurvey]
        rfl
      simp [hstatus, Status.code]
  | ok found =>
      rw [status_report_of_ok hsurvey, Status.code_ofFault_eq_iff]
      simp

end CoverageRequest

/-- In a survey of any resources each row that is shown lists what its target lacks of the source
and what only the target has, each id once and in the order of its resource. With the ids that are
covered the missing ones make up the distinct ids of the source, so that no more can be missing than
there are, and the extra ones make up those of the target. A target whose entries stand in another
order, or more often, has as many ids covered and the same ones missing. A strict survey ends with
65 exactly if some target lacks an id of the source; no other survey does, nor one whose files do
not all load. -/
theorem surveys_partition_ids (files : Files) (environmentLocale : Option String)
    (r : CoverageRequest) :
    let report := (Request.coverage r).report files environmentLocale
    (∀ source targets, files.Hold (r.source :: r.targets) (source :: targets) →
      let total := source.messageIds.dedup.length
      ∃ rows, r.survey files = .ok (total, rows) ∧
        (report.output =
          if r.json then [(Json.array (rows.map (Coverage.toJson total))).pretty]
          else coverageLines total rows ++ rows.flatMap Coverage.missingLines) ∧
        List.Forall₂ (Coverage.Partitions source) targets rows ∧
        (∀ files' targets', files'.Hold (r.source :: r.targets) (source :: targets') →
          List.Forall₂ (fun target target' => ∀ e, e ∈ target'.body ↔ e ∈ target.body)
            targets targets' →
          ∃ rows', r.survey files' = .ok (total, rows') ∧
            List.Forall₂ (fun row row' => row'.covered = row.covered ∧ row'.missing = row.missing)
              rows rows') ∧
        (r.strict = true →
          (report.status.code = 65 ↔
            ∃ target ∈ targets, ∃ id ∈ source.messageIds, id ∉ target.messageIds))) ∧
    (report.status.code = 65 → r.strict = true ∧
      ∃ source targets, files.Hold (r.source :: r.targets) (source :: targets)) := by
  intro report
  have hcode : report.status.code = 65 ↔ _ := CoverageRequest.code_report_eq_iff
  refine ⟨fun source targets h => ?_, fun h => ?_⟩
  · have hsurvey := CoverageRequest.survey_of_hold h
    have hrows : List.Forall₂ (Coverage.Partitions source) targets _ :=
      partitions_coverages (List.forall₂_cons.1 h).2
    refine ⟨_, hsurvey, CoverageRequest.output_report_of_ok hsurvey, hrows,
      fun files' targets' h' hsame => ?_, fun hstrict => ?_⟩
    · exact ⟨_, CoverageRequest.survey_of_hold h', coverages_alike hsame⟩
    · rw [hcode, hsurvey, ← exists_missing_iff hrows]
      simp [hstrict]
  · obtain ⟨hstrict, found, hsurvey, -⟩ := hcode.1 h
    exact ⟨hstrict, CoverageRequest.exists_hold_of_survey hsurvey⟩

def repeatingSource : Resource :=
  ⟨[⟨"a", some (.text "x"), .empty⟩, ⟨"-t", some (.text "x"), .empty⟩,
    ⟨"b", some (.text "x"), .empty⟩, ⟨"a", some (.text "y"), .empty⟩]⟩

def valueless (ids : List String) : Resource := ⟨ids.map fun id => ⟨id, none, .empty⟩⟩

/-- A target that is put in another order and says something twice is covered as before, and it
still lacks an id. -/
theorem reordered_target_covered_alike :
    let r : CoverageRequest := ⟨"en.json", ["de.json"], true, true⟩
    let target := valueless ["c", "a"]
    let target' := valueless ["a", "c", "a"]
    let files := filesOf [("en.json", repeatingSource), ("de.json", target)]
    let files' := filesOf [("en.json", repeatingSource), ("de.json", target')]
    let row : Coverage := ⟨"de", 1, ["b"], ["c"]⟩
    files.Hold (r.source :: r.targets) [repeatingSource, target] ∧
      files'.Hold (r.source :: r.targets) [repeatingSource, target'] ∧
      (∀ e, e ∈ target'.body ↔ e ∈ target.body) ∧
      r.survey files = .ok (2, [row]) ∧ row.Partitions repeatingSource target ∧
      (∃ row', r.survey files' = .ok (2, [row']) ∧
        row'.covered = row.covered ∧ row'.missing = row.missing) ∧
      ((Request.coverage r).report files none).status.code = 65 := by
  intro r target target' files files' row
  have hsame (e : Entry) : e ∈ target'.body ↔ e ∈ target.body := by
    have hmem (a c : Entry) : e ∈ [a, c, a] ↔ e ∈ [c, a] := by
      simp only [List.mem_cons, List.not_mem_nil]
      tauto
    exact hmem _ _
  have hold (t : Resource) (hfinite : Binary64.AllFinite t.numbers)
      (hnesting : t.toJson.nesting ≤ Json.Reader.maxDepth) :
      (filesOf [("en.json", repeatingSource), ("de.json", t)]).Hold ["en.json", "de.json"]
        [repeatingSource, t] :=
    .cons (readResource_filesOf rfl Binary64.allFinite_nil (by decide))
      (.cons (readResource_filesOf rfl hfinite hnesting) .nil)
  have hfiles := hold target Binary64.allFinite_nil (by decide)
  have hfiles' := hold target' Binary64.allFinite_nil (by decide)
  have hids : repeatingSource.messageIds.dedup.length = 2 := by decide +kernel
  have hcoverages : coverages repeatingSource ["de.json"] [target] = [row] := by decide +kernel
  have hlacks : ∃ id ∈ repeatingSource.messageIds, id ∉ target.messageIds := by decide +kernel
  have hsurvey : r.survey files = .ok (2, [row]) := by
    rw [CoverageRequest.survey_of_hold hfiles, hids, ← hcoverages]
  obtain ⟨hloaded, -⟩ := surveys_partition_ids files none r
  obtain ⟨rows, hrows, -, hpartitions, halike, hcode⟩ := hloaded repeatingSource [target] hfiles
  obtain rfl : rows = [row] := congrArg Prod.snd (Except.ok.inj (hrows.symm.trans hsurvey))
  obtain ⟨rows', hrows', hrowsAlike⟩ := halike files' [target'] hfiles' (.cons hsame .nil)
  obtain ⟨row', _, hrow', hnil, rfl⟩ := List.forall₂_cons_left_iff.1 hrowsAlike
  rw [List.forall₂_nil_left_iff.1 hnil, hids] at hrows'
  exact ⟨hfiles, hfiles', hsame, hsurvey, (List.forall₂_cons.1 hpartitions).1,
    ⟨row', hrows', hrow'⟩, (hcode rfl).2 ⟨target, List.mem_singleton_self target, hlacks⟩⟩

end Phrasebook.Command
