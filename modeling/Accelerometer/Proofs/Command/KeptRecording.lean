import Accelerometer.Proofs.Command.FilterCourse
import Accelerometer.Proofs.Signal.Design
import Accelerometer.Proofs.Signal.FilteredTrace
import Accelerometer.Proofs.Storage.Names

/-!
# Recordings that are filtered

The filtered trace of a recording never takes its place, but the coefficients and the response are
written wherever they are asked for, and before the recording is read.

* `tracePath_elsewhere`: the trace of a recording is not written over it.
* `course_keeps`, `course_filters`: how a run treats the recording.
* `recording_kept`: a recording that is not an output is kept and filtered.
* `overwritten_recording`: one that is an output is lost.
-/

namespace Accelerometer.Proofs.Command
open Accelerometer.Command Accelerometer.Signal Proofs.Path Proofs.Signal Proofs.Storage

variable {storage other before after : Storage} {arguments : FilterArguments} {settings : Settings}
  {coefficients : List Float} {path session : Path} {location : Location} {name : List Char}
  {content : List UInt8}

/-! ## The place of the trace -/

theorem tracePath_elsewhere (leads : LeadsTo storage session location) :
    placeOf storage (tracePath session) ≠ placeOf storage session := by
  obtain ⟨parent, name, resolved, -⟩ := leads.entry
  obtain ⟨final, proper, -⟩ := resolve_entry resolved
  have ends : Ends session.text.toList name.toList := by
    rw [← names_getLast?, String.ofList_toList]
    exact final
  have dot : name.toList ≠ ['.'] := fun dot => proper (.inl (String.toList_injective dot))
  have dots : name.toList ≠ ['.', '.'] := fun dots => proper (.inr (String.toList_injective dots))
  have long := traceName_length name.toList
  have last : (placeOf storage (tracePath session)).getLast? = _ :=
    placeOf_ends (tracePath_ends ends dot dots) (fun short => by simp [short] at long)
      (fun short => by simp [short] at long)
  intro same
  rw [same, placeOf_ends ends dot dots, Option.some.injEq] at last
  exact traceName_ne name.toList (String.ofList_injective last).symm

/-! ## What is filtered -/

theorem filteredTable_congr (read : storage.readOctets path = .ok content)
    (read' : other.readOctets path = .ok content) (coefficients : List Float) :
    filteredTable other path coefficients = filteredTable storage path coefficients := by
  simp only [filteredTable, Session.load, Storage.readText, read, read']

section
variable {outcome : Except CommandError Unit} (course : Course arguments settings before outcome after)
  (given : arguments.session = some session) (readable : before.readOctets session = .ok content)
  (apart : ∀ path ∈ arguments.outputOr settings :: arguments.response.toList,
    placeOf before path ≠ placeOf before session)
include course given readable apart

theorem course_keeps : after.readOctets session = .ok content := by
  obtain ⟨leads, -⟩ := readOctets_eq_ok.mp readable
  apply (course_changes course).readOctets _ readable
  intro path member
  rcases List.mem_cons.mp member with rfl | member
  · exact apart _ List.mem_cons_self
  · rcases List.mem_append.mp member with response | trace
    · exact apart path (List.mem_cons_of_mem _ response)
    · rw [given] at trace
      obtain rfl := List.mem_singleton.mp trace
      exact tracePath_elsewhere leads

/-- The recording is read after the coefficients and the response were written, and still what it was. -/
theorem course_filters (designed : (arguments.spec settings).design = .ok coefficients) :
    (∀ error, outcome = .error (.session error) →
      filteredTable before session coefficients = .error error) ∧
    (outcome = .ok () → ∃ table events,
      filteredTable before session coefficients = .ok (table, events) ∧
      ∀ text ∈ table, Stands before after (tracePath session) text) := by
  cases course with
  | invalid refused =>
      rw [refused] at designed
      cases designed
  | notStored designed' refused =>
      obtain ⟨reason, -, rfl⟩ := stored_error refused
      exact ⟨nofun, nofun⟩
  | notAnswered designed' store refused =>
      obtain ⟨path, reason, rfl⟩ := answered_error refused
      exact ⟨nofun, nofun⟩
  | ended designed' store answer trace =>
      obtain rfl := Except.ok.inj (designed.symm.trans designed')
      have changes := (stored_changes store).trans (answered_changes answer)
      have same := filteredTable_congr readable (changes.readOctets apart readable) coefficients
      rw [given] at trace
      rcases traced_ways trace with
        ⟨reason, failed, rfl, -⟩ | ⟨events, empty, rfl, -⟩ | ⟨text, events, table, wrote⟩
      · refine ⟨?_, nofun⟩
        rintro error ⟨⟩
        exact same.symm.trans failed
      · exact ⟨nofun, fun _ => ⟨none, events, same.symm.trans empty, nofun⟩⟩
      · constructor
        · rintro error rfl
          obtain ⟨reason, -, other⟩ := written_error wrote
          cases other
        · rintro rfl
          refine ⟨some text, events, same.symm.trans table, ?_⟩
          rintro other ⟨⟩
          exact .earlier changes.sameWays ((write_wrote (written_ok wrote)).stands (.refl [] after) nofun)

end

/-- A recording at a place that neither the coefficients nor the response are written to is kept, with
every outcome, and it is what is filtered. -/
theorem recording_kept (arguments : FilterArguments) (settings : Settings) (world : World)
    (session : Path) (content : List UInt8) (given : arguments.session = some session)
    (readable : world.storage.readOctets session = .ok content)
    (apart : ∀ path ∈ arguments.outputOr settings :: arguments.response.toList,
      placeOf world.storage path ≠ placeOf world.storage session) :
    let run := perform (filter arguments settings) world
    run.2.storage.readOctets session = .ok content ∧
      ∀ coefficients, (arguments.spec settings).design = .ok coefficients →
        (∀ error, run.1 = .error (.session error) →
          filteredTable world.storage session coefficients = .error error) ∧
        (run.1 = .ok () → ∃ table events,
          filteredTable world.storage session coefficients = .ok (table, events) ∧
          ∀ text ∈ table, Stands world.storage run.2.storage (tracePath session) text) := by
  intro run
  have course := filter_course arguments settings world
  refine ⟨course_keeps course given readable apart, ?_⟩
  intro coefficients designed
  exact course_filters course given readable apart designed

theorem sharedOutput_kept :
    let arguments : FilterArguments :=
      ⟨some ⟨"run.csv"⟩, none, none, none, some ⟨"run_filtered.csv"⟩, some ⟨"./response.csv"⟩⟩
    let world : World := ⟨threeSamples, none, [], [], "", []⟩
    threeSamples.readOctets ⟨"run.csv"⟩ =
        .ok (Storage.octetsOf "time,x,y,z\n7,1,0,0\n8,2,0,0\n9,4,0,0\n") ∧
      (∀ path ∈ arguments.outputOr .standard :: arguments.response.toList,
        placeOf threeSamples path ≠ placeOf threeSamples ⟨"run.csv"⟩) ∧
      (perform (filter arguments .standard) world).2.storage.readOctets ⟨"run.csv"⟩ =
        .ok (Storage.octetsOf "time,x,y,z\n7,1,0,0\n8,2,0,0\n9,4,0,0\n") := by
  intro arguments world
  -- the coefficients stand where the trace comes later, which is not the recording
  have apart : ∀ path ∈ arguments.outputOr .standard :: arguments.response.toList,
      placeOf threeSamples path ≠ placeOf threeSamples ⟨"run.csv"⟩ := by decide
  exact ⟨rfl, apart, (recording_kept arguments .standard world ⟨"run.csv"⟩ _ rfl rfl apart).1⟩

theorem coefficients_stand (arguments : FilterArguments) (settings : Settings) (world : World)
    {first : Storage} (designed : (arguments.spec settings).design = .ok coefficients)
    (store : stored (arguments.outputOr settings) coefficients world.storage = (.ok (), first))
    (apart : ∀ path ∈ arguments.response.toList ++ (arguments.session.map tracePath).toList,
      placeOf world.storage (arguments.outputOr settings) ≠ placeOf world.storage path) :
    Stands world.storage (perform (filter arguments settings) world).2.storage
      (arguments.outputOr settings) (coefficientText coefficients) :=
  (stored_wrote store).stands (course_later (filter_course arguments settings world) designed store) apart

theorem overwritten_recording :
    ¬∀ (arguments : FilterArguments) (settings : Settings) (world : World) (session : Path)
        (content : List UInt8), arguments.session = some session →
      world.storage.readOctets session = .ok content →
      (perform (filter arguments settings) world).2.storage.readOctets session = .ok content := by
  intro kept
  let arguments : FilterArguments := ⟨some ⟨"run.csv"⟩, none, none, none, some ⟨"run.csv"⟩, none⟩
  have after := kept arguments .standard ⟨threeSamples, none, [], [], "", []⟩ ⟨"run.csv"⟩ _ rfl rfl
  have designed : (arguments.spec .standard).design = .ok (lowPass 20 20.0 400.0) :=
    designWith_of_validate (validate_eq_ok.mpr (by decide))
  generalize lowPass 20 20.0 400.0 = coefficients at designed
  have opens : Opens threeSamples ⟨"run.csv"⟩ ["run.csv"] :=
    ⟨⟨⟨[], "run.csv", rfl, by decide, rfl⟩, nofun⟩, rfl⟩
  have stands := coefficients_stand arguments .standard ⟨threeSamples, none, [], [], "", []⟩ designed
    (stored_eq_ok.mpr (write_file opens nofun rfl)) (by decide)
  have noSink : ¬SinkAt threeSamples ⟨"run.csv"⟩ := by
    rintro ⟨location, full, leads', sink⟩
    rw [← leadsTo_unique opens.toLeadsTo leads'] at sink
    cases sink
  -- the file begins with a bracket now
  have bracket : ∃ rest, Storage.octetsOf (coefficientText coefficients) = 0x5B :: rest := by
    rw [coefficientText, octetsOf_append, octetsOf_append]
    exact ⟨_, rfl⟩
  obtain ⟨rest, bracket⟩ := bracket
  have same := Except.ok.inj (after.symm.trans (stands noSink))
  rw [bracket] at same
  have first : (Storage.octetsOf "time,x,y,z\n7,1,0,0\n8,2,0,0\n9,4,0,0\n").head? = some 0x5B :=
    congrArg List.head? same
  exact absurd first (by decide)

end Accelerometer.Proofs.Command
