import Accelerometer.Proofs.Storage.Names

/-!
# Where the trace of a recording is

A recording is named by a text to which an extension is added; the filtered trace takes the extension off
again. Both stand in one directory, under the name they were given.

* `suffixed_eq_join`: a name with something added to it, below its directory.
* `tracePath_recording`: the trace, as a path.
* `suffixed_equivalent`, `suffixed_place`: when two names with something added are the same path, or name
  the same place.
* `traces_beside_recordings`: the trace against its own recording, and against other ones.
-/

namespace Accelerometer.Proofs.Session
open Accelerometer.Path Accelerometer.Storage Proofs.Path Proofs.Storage

variable {name other suffix : String}

def ending (name : String) : String :=
  .ofList (name.toList.rtakeWhile (· != '/'))

def above (name : String) : Path :=
  ⟨.ofList (name.toList.rdropWhile (· != '/'))⟩

def parent (path : Path) : Path :=
  ⟨.ofList (parentText path.text.toList)⟩

/-- A text that can be added to a name: it does not lead elsewhere, and is longer than two dots. -/
structure Suffix (suffix : String) : Prop where
  plain : '/' ∉ suffix.toList
  long : 2 < suffix.toList.length

theorem recording_suffix : Suffix ".csv" :=
  ⟨by decide, by decide⟩

theorem trace_suffix : Suffix "_filtered.csv" :=
  ⟨by decide, by decide⟩

/-! ## A name with a suffix -/

theorem ending_plain (name : String) : '/' ∉ (ending name).toList := by
  rw [ending, String.toList_ofList]
  intro slash
  simpa using List.mem_rtakeWhile_imp slash

theorem above_open (name : String) : Open (above name).text.toList := by
  rw [above, String.toList_ofList]
  by_cases nothing : name.toList.rdropWhile (· != '/') = []
  · exact .inl nothing
  · have stops := List.rdropWhile_last_not (· != '/') name.toList nothing
    right
    rw [List.getLast?_eq_some_getLast nothing]
    simpa using stops

theorem suffixed_plain (fits : Suffix suffix) : '/' ∉ (ending name ++ suffix).toList := by
  rw [String.toList_append, List.mem_append]
  exact not_or.mpr ⟨ending_plain name, fits.plain⟩

theorem suffixed_ne (fits : Suffix suffix) {short : List Char} (bound : short.length ≤ 2) :
    (ending name ++ suffix).toList ≠ short := by
  rintro rfl
  rw [String.toList_append, List.length_append] at bound
  have long := fits.long
  omega

theorem suffixed_solid (fits : Suffix suffix) : isVoid (ending name ++ suffix).toList = false := by
  simp only [isVoid, Bool.or_eq_false_iff, decide_eq_false_iff_not]
  exact ⟨suffixed_ne fits (by decide), suffixed_ne fits (by decide)⟩

theorem suffixed_eq_join (fits : Suffix suffix) :
    (⟨name ++ suffix⟩ : Path) = (above name).join (ending name ++ suffix) := by
  rw [join_plain _ (suffixed_plain fits), below, if_pos (open_iff.mpr (above_open name)), above, ending,
    String.toList_ofList, String.toList_append, String.toList_ofList, ← List.append_assoc,
    List.rdropWhile_append_rtakeWhile, ← String.toList_append, String.ofList_toList]

theorem suffixed_text (fits : Suffix suffix) : (name ++ suffix).toList =
    below (above name).text.toList (ending name ++ suffix).toList := by
  have path : (⟨name ++ suffix⟩ : Path) = _ := suffixed_eq_join fits
  have text := congrArg (fun path => path.text.toList) path
  rwa [join_plain _ (suffixed_plain fits), String.toList_ofList] at text

theorem front_suffixed (fits : Suffix suffix) :
    front (name ++ suffix).toList = front (above name).text.toList := by
  rw [suffixed_text fits, front_below _ (suffixed_plain fits) (suffixed_solid fits)]

theorem steps_suffixed (fits : Suffix suffix) :
    steps (name ++ suffix).toList =
      steps (above name).text.toList ++ [(ending name ++ suffix).toList] := by
  rw [suffixed_text fits, steps_below _ (suffixed_plain fits) (suffixed_solid fits)]

theorem suffixed_equivalent (fits : Suffix suffix) :
    Equivalent ⟨name ++ suffix⟩ ⟨other ++ suffix⟩ ↔
      Equivalent (above name) (above other) ∧ ending name = ending other := by
  constructor
  · rintro ⟨sameFront, sameSteps⟩
    simp only [front_suffixed fits] at sameFront
    simp only [steps_suffixed fits] at sameSteps
    obtain ⟨sameSteps, sameText⟩ := List.append_singleton_inj.mp sameSteps
    exact ⟨⟨sameFront, sameSteps⟩, (String.append_left_inj _).mp (String.toList_injective sameText)⟩
  · rintro ⟨same, sameEnding⟩
    constructor
    · simp only [front_suffixed fits, same.front]
    · simp only [steps_suffixed fits, same.steps, sameEnding]

theorem suffixed_place (storage : Storage) (fits : Suffix suffix) : placeOf storage ⟨name ++ suffix⟩ =
    placeOf storage (above name) ++ [ending name ++ suffix] := by
  have proper {short : String} (bound : short.toList.length ≤ 2) : ending name ++ suffix ≠ short :=
    fun same => suffixed_ne fits bound (congrArg String.toList same)
  rw [suffixed_eq_join fits]
  exact placeOf_join storage (above name) (suffixed_plain fits) (proper (by decide))
    (not_or.mpr ⟨proper (by decide), proper (by decide)⟩)

theorem suffixed_samePlace (storage : Storage) (fits : Suffix suffix) :
    placeOf storage ⟨name ++ suffix⟩ = placeOf storage ⟨other ++ suffix⟩ ↔
      placeOf storage (above name) = placeOf storage (above other) ∧ ending name = ending other := by
  rw [suffixed_place storage fits, suffixed_place storage fits, List.append_singleton_inj,
    String.append_left_inj]

/-! ## The trace of a recording -/

theorem suffixed_ends (fits : Suffix suffix) :
    Ends (name ++ suffix).toList (ending name ++ suffix).toList := by
  rw [suffixed_text fits]
  exact below_ends _ (suffixed_plain fits) (suffixed_ne fits (by decide))

theorem parent_equivalent {path : Path} (fits : Suffix suffix)
    (ends : Ends path.text.toList (ending name ++ suffix).toList)
    (same : Equivalent path ⟨name ++ suffix⟩) : Equivalent (parent path) (above name) := by
  have sameFront := same.front
  have sameSteps := same.steps
  rw [front_suffixed fits] at sameFront
  rw [steps_suffixed fits, steps_parentText ends (suffixed_ne fits (by decide)),
    List.append_cancel_right_eq] at sameSteps
  constructor
  · rw [parent, String.toList_ofList, front_parentText, sameFront]
  · rw [parent, String.toList_ofList, sameSteps]

theorem recording_parent (name : String) : Equivalent (parent (recordingPath name)) (above name) :=
  parent_equivalent recording_suffix (suffixed_ends recording_suffix) ⟨rfl, rfl⟩

theorem traceName_recording (named : ending name ≠ "") :
    traceName (ending name ++ ".csv").toList = (ending name ++ "_filtered.csv").toList := by
  have nonempty : (ending name).toList ≠ [] := fun empty => named (String.toList_injective empty)
  have stem : stem (ending name ++ ".csv").toList = (ending name).toList := by
    rw [String.toList_append]
    exact stem_extension nonempty (by decide : '.' ∉ "csv".toList)
  rw [traceName, stem, String.toList_append]

theorem recording_trace_ends (named : ending name ≠ "") :
    Ends (tracePath (recordingPath name)).text.toList (ending name ++ "_filtered.csv").toList := by
  rw [← traceName_recording named]
  exact tracePath_ends (suffixed_ends recording_suffix) (suffixed_ne recording_suffix (by decide))
    (suffixed_ne recording_suffix (by decide))

theorem tracePath_recording (named : ending name ≠ "") :
    Equivalent (tracePath (recordingPath name)) ⟨name ++ "_filtered.csv"⟩ := by
  have ends : Ends (recordingPath name).text.toList (ending name ++ ".csv").toList :=
    suffixed_ends recording_suffix
  have dot : (ending name ++ ".csv").toList ≠ ['.'] := suffixed_ne recording_suffix (by decide)
  have dots : (ending name ++ ".csv").toList ≠ ['.', '.'] := suffixed_ne recording_suffix (by decide)
  have text : (tracePath (recordingPath name)).text.toList =
      below (parent (recordingPath name)).text.toList (ending name ++ "_filtered.csv").toList := by
    rw [tracePath_eq ends dot dots, withFileName_text ends dot dots, traceName_recording named, parent,
      String.toList_ofList]
  have above := recording_parent name
  constructor
  · rw [text, front_below _ (suffixed_plain trace_suffix) (suffixed_solid trace_suffix), above.front,
      front_suffixed trace_suffix]
  · rw [text, steps_below _ (suffixed_plain trace_suffix) (suffixed_solid trace_suffix), above.steps,
      steps_suffixed trace_suffix]

theorem trace_parent (named : ending name ≠ "") :
    Equivalent (parent (tracePath (recordingPath name))) (above name) :=
  parent_equivalent trace_suffix (recording_trace_ends named) (tracePath_recording named)

theorem suffixes_ne (name : String) : ending name ++ "_filtered.csv" ≠ ending name ++ ".csv" := by
  rw [ne_eq, String.append_right_inj]
  decide

theorem trace_ne_recording (named : ending name ≠ "") :
    ¬Equivalent (tracePath (recordingPath name)) (recordingPath name) := by
  intro same
  have last : steps (name ++ "_filtered.csv").toList = steps (name ++ ".csv").toList :=
    ((tracePath_recording named).symm.trans same).steps
  rw [steps_suffixed trace_suffix, steps_suffixed recording_suffix, List.append_singleton_inj] at last
  exact suffixes_ne name (String.toList_injective last.2)

/-- For a name with something behind its last slash, the trace of the recording is the path that has
`_filtered.csv` added to the name. It is in the directory of the recording and is not the recording, and
two recordings have one trace only if they are one: as paths, and by the places that they name in any
tree. -/
theorem traces_beside_recordings (name other : String) (named : ending name ≠ "")
    (named' : ending other ≠ "") :
    let recording := recordingPath name
    let trace := tracePath recording
    let recording' := recordingPath other
    let trace' := tracePath recording'
    Equivalent trace ⟨name ++ "_filtered.csv"⟩ ∧
    Equivalent (parent trace) (parent recording) ∧
    ¬Equivalent trace recording ∧
    (Equivalent trace trace' ↔ Equivalent recording recording') ∧
    ∀ storage,
      (placeOf storage trace).dropLast = (placeOf storage recording).dropLast ∧
      placeOf storage trace ≠ placeOf storage recording ∧
      (placeOf storage trace = placeOf storage trace' ↔
        placeOf storage recording = placeOf storage recording') := by
  intro recording trace recording' trace'
  have beside := tracePath_recording named
  have beside' := tracePath_recording named'
  refine ⟨beside, (trace_parent named).trans (recording_parent name).symm, trace_ne_recording named,
    ?_, ?_⟩
  · calc Equivalent trace trace'
      _ ↔ Equivalent ⟨name ++ "_filtered.csv"⟩ ⟨other ++ "_filtered.csv"⟩ :=
        ⟨fun same => beside.symm.trans (same.trans beside'),
          fun same => beside.trans (same.trans beside'.symm)⟩
      _ ↔ Equivalent (above name) (above other) ∧ ending name = ending other :=
        suffixed_equivalent trace_suffix
      _ ↔ Equivalent recording recording' := (suffixed_equivalent recording_suffix).symm
  · intro storage
    have place : placeOf storage trace = _ :=
      (placeOf_equivalent storage beside).trans (suffixed_place storage trace_suffix)
    have place' : placeOf storage recording = _ := suffixed_place storage recording_suffix
    refine ⟨?_, ?_, ?_⟩
    · rw [place, place', List.dropLast_concat, List.dropLast_concat]
    · rw [place, place', ne_eq, List.append_cancel_left_eq, List.cons.injEq]
      exact fun same => suffixes_ne name same.1
    · rw [placeOf_equivalent storage beside, placeOf_equivalent storage beside',
        suffixed_samePlace storage trace_suffix]
      exact (suffixed_samePlace storage recording_suffix).symm

theorem oddNames_traced :
    Equivalent (tracePath (recordingPath "./runs//.v1.")) ⟨"./runs/./.v1._filtered.csv"⟩ ∧
      ¬Equivalent (tracePath (recordingPath "./runs//.v1.")) (tracePath (recordingPath "./runs/./..")) := by
  obtain ⟨beside, -, -, apart, -⟩ :=
    traces_beside_recordings "./runs//.v1." "./runs/./.." (by decide) (by decide)
  have same : Equivalent ⟨"./runs//.v1._filtered.csv"⟩ ⟨"./runs/./.v1._filtered.csv"⟩ := by
    constructor <;> decide
  exact ⟨beside.trans same, fun traces => absurd (apart.mp traces).steps (by decide)⟩

end Accelerometer.Proofs.Session
