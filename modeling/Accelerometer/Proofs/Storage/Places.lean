import Accelerometer.Proofs.Storage.Contents

/-!
# Places that paths name

A tree without links: which place a path names does not depend on what stands there.

* `leadsTo_placeOf`: a path leads nowhere but to the place it names.
* `readOctets_eq_ok`: what a path gives is what is held at that place.
* `writeOctets_eq_ok`, `writeOctets_eq_error`: what it takes to write to a path.
* `writtenTo_opens`: the tree after it, also if the write is refused.
* `ChangesOnly.trans`, `Wrote.stands`: several writes, and what remains of one of them.
-/

namespace Accelerometer.Proofs.Storage
open Accelerometer.Storage

variable {storage before middle after other : Storage} {path : Path} {paths : List Path}
  {location here there parent : Location} {name text : String} {content octets : List UInt8}
  {count : Nat}

def descend (here : Location) (name : String) : Location :=
  if name = "." then here
  else if name = ".." then here.dropLast
  else here ++ [name]

def placeOf (storage : Storage) (path : Path) : Location :=
  (names path).foldl descend (storage.start path)

/-! ## Where paths lead -/

theorem descend_name (proper : ¬(name = "." ∨ name = "..")) : descend here name = here ++ [name] := by
  rw [not_or] at proper
  rw [descend, if_neg proper.1, if_neg proper.2]

theorem enter_descend (entered : storage.enter here name = .ok there) : there = descend here name := by
  unfold enter at entered
  by_cases dot : name = "."
  · rw [if_pos dot] at entered
    rw [descend, if_pos dot]
    exact (Except.ok.inj entered).symm
  · by_cases dots : name = ".."
    · rw [if_neg dot, if_pos dots] at entered
      rw [descend, if_neg dot, if_pos dots]
      exact (Except.ok.inj entered).symm
    · rw [descend_name (not_or.mpr ⟨dot, dots⟩)]
      rw [if_neg dot, if_neg dots] at entered
      cases found : storage.lookUp here name with
      | error refusal => simp [found, bind, Except.bind] at entered
      | ok node =>
          simp only [found, bind, Except.bind] at entered
          split at entered
          · exact (Except.ok.inj entered).symm
          · cases entered
          · cases entered

theorem walk_descend {names : List String} (walked : names.foldlM storage.enter here = .ok there) :
    there = names.foldl descend here := by
  induction names generalizing here with
  | nil => exact (Except.ok.inj walked).symm
  | cons name names ih =>
      simp only [List.foldlM_cons, bind, Except.bind] at walked
      cases entered : storage.enter here name with
      | error refusal => simp [entered] at walked
      | ok next =>
          rw [entered] at walked
          rw [List.foldl_cons, ← enter_descend entered]
          exact ih walked

theorem resolve_entry {closed : Bool} (resolved : storage.resolve path = .ok (.entry parent name closed)) :
    (names path).getLast? = some name ∧ ¬(name = "." ∨ name = "..") ∧
      (names path).dropLast.foldlM storage.enter (storage.start path) = .ok parent := by
  unfold resolve at resolved
  simp only [bind, Except.bind, pure, Except.pure, throw, throwThe, MonadExceptOf.throw] at resolved
  -- a path with a NUL, an empty one and one that is too long are refused first
  split at resolved
  · cases resolved
  · split at resolved
    · cases resolved
    · split at resolved
      · cases resolved
      · cases final : (names path).getLast? with
        | none => simp [final] at resolved
        | some last =>
            simp only [final] at resolved
            by_cases dots : last = "." ∨ last = ".."
            · rw [if_pos dots] at resolved
              split at resolved <;> cases resolved
            · rw [if_neg dots] at resolved
              split at resolved
              · cases resolved
              · rename_i place walked
                cases resolved
                exact ⟨rfl, dots, walked⟩

theorem placeOf_name (final : (names path).getLast? = some name) (proper : ¬(name = "." ∨ name = "..")) :
    placeOf storage path = (names path).dropLast.foldl descend (storage.start path) ++ [name] := by
  obtain ⟨before, split⟩ := List.getLast?_eq_some_iff.mp final
  rw [placeOf, split, List.foldl_append, List.dropLast_concat]
  exact descend_name proper

theorem leadsTo_placeOf (leads : LeadsTo storage path location) : location = placeOf storage path := by
  obtain ⟨parent, name, resolved, -, rfl⟩ := leads.entry
  obtain ⟨final, proper, walked⟩ := resolve_entry resolved
  rw [placeOf_name final proper, ← walk_descend walked]

theorem SameWays.placeOf (same : SameWays storage other) (path : Path) :
    placeOf other path = Storage.placeOf storage path := by
  simp only [Storage.placeOf, start, same.workingDirectory]

theorem SameWays.leadsTo (same : SameWays storage other) (leads : LeadsTo storage path location) :
    LeadsTo other path location := by
  obtain ⟨parent, name, resolved, fits⟩ := leads.entry
  exact ⟨⟨parent, name, resolve_sameWays same resolved, fits⟩,
    fun directory => leads.notDirectory ((same.directory location).mp directory)⟩

theorem SameWays.opens (same : SameWays storage other) (opens : Opens storage path location) :
    Opens other path location :=
  ⟨same.leadsTo opens.toLeadsTo, same.medium ▸ opens.unlocked⟩

theorem SameWays.sinkAt (same : SameWays storage other) (sink : SinkAt storage path) :
    SinkAt other path := by
  obtain ⟨location, full, leads, sink⟩ := sink
  exact ⟨location, full, same.leadsTo leads, (same.sink location full).mpr sink⟩

/-! ## What is held at a place -/

def held : Option Node → Option (List UInt8)
  | some (.file content) => some content
  | some (.sink _) => some []
  | _ => none

theorem held_notDirectory {node : Option Node} (holds : held node = some content) :
    node ≠ some .directory := by
  rintro rfl
  cases holds

theorem readOctets_eq_ok : storage.readOctets path = .ok content ↔
    LeadsTo storage path (placeOf storage path) ∧
      held (storage.node (placeOf storage path)) = some content := by
  constructor
  · intro read
    unfold readOctets at read
    cases resolved : storage.resolve path with
    | error refusal => simp [resolved, bind, Except.bind] at read
    | ok target =>
        simp only [resolved, bind, Except.bind] at read
        cases target with
        | directory place => cases read
        | entry parent name closed =>
            cases found : storage.lookUp parent name with
            | error refusal => simp [found] at read
            | ok node =>
                obtain ⟨fits, rfl⟩ := lookUp_ok found
                simp only [found] at read
                -- an entry that a slash follows is refused
                have gives : closed = false ∧ held (storage.node (parent ++ [name])) = some content := by
                  split at read <;> cases read
                  all_goals
                    rename_i node
                    exact ⟨rfl, by rw [node]; rfl⟩
                obtain ⟨rfl, holds⟩ := gives
                have leads : LeadsTo storage path (parent ++ [name]) :=
                  ⟨⟨parent, name, resolved, fits, rfl⟩, held_notDirectory holds⟩
                rw [← leadsTo_placeOf leads]
                exact ⟨leads, holds⟩
  · rintro ⟨leads, holds⟩
    obtain ⟨parent, name, resolved, fits, place⟩ := leads.entry
    rw [place] at holds
    rw [readOctets, resolved]
    simp only [bind, Except.bind, lookUp, Nat.not_lt.mpr fits, if_false]
    cases node : storage.node (parent ++ [name]) with
    | none => rw [node] at holds; cases holds
    | some node' =>
        rw [node] at holds
        cases node' with
        | directory => cases holds
        | file content' => exact congrArg Except.ok (Option.some.inj holds)
        | sink full => exact congrArg Except.ok (Option.some.inj holds)

/-! ## One write -/

structure Wrote (before : Storage) (path : Path) (text : String) (after : Storage) : Prop where
  opens : Opens before path (placeOf before path)
  fits : Fits before (placeOf before path) (octetsOf text).length
  after_eq : after = filled before (placeOf before path) (octetsOf text)

theorem create_opens (opens : Opens storage path location) :
    storage.create path = .ok (⟨location, 0⟩, filled storage location []) := by
  obtain ⟨⟨⟨parent, name, resolved, fits, rfl⟩, notDirectory⟩, unlocked⟩ := opens
  have found : storage.lookUp parent name = .ok (storage.node (parent ++ [name])) :=
    if_neg (Nat.not_lt.mpr fits)
  unfold Storage.create
  simp only [resolved, found, bind, Except.bind, if_neg notDirectory, unlocked]
  cases node : storage.node (parent ++ [name]) with
  | none => rw [filled_file (by simp [node]), kept_fits (fits_zero _ _)]; rfl
  | some node' =>
      cases node' with
      | directory => exact absurd node notDirectory
      | file content => rw [filled_file (by simp [node]), kept_fits (fits_zero _ _)]; rfl
      | sink full => rw [filled_sink node]; rfl

theorem append_created (storage : Storage) (location : Location) (octets : List UInt8) :
    (filled storage location []).append ⟨location, 0⟩ octets =
      match storage.refusal? ⟨location, 0⟩ octets with
      | some reason => .error reason
      | none => .ok (⟨location, octets.length⟩, filled storage location octets) :=
  append_behind (fits_zero storage location) octets

theorem created_refusal_none :
    storage.refusal? ⟨location, 0⟩ octets = none ↔ Fits storage location octets.length := by
  rw [refusal?_eq_none, Nat.zero_add]
  constructor
  · rintro (rfl | fits)
    · exact fits_zero storage location
    · exact fits
  · exact .inr

theorem created_refusal_some {reason : Refusal} :
    storage.refusal? ⟨location, 0⟩ octets = some reason ↔
      ∃ most, storage.room location = some (most, reason) ∧ most < octets.length := by
  rw [refusal?_eq_some, Nat.zero_add]
  constructor
  · exact And.right
  · rintro ⟨most, bound, beyond⟩
    exact ⟨List.ne_nil_of_length_pos (Nat.zero_lt_of_lt beyond), most, bound, beyond⟩

theorem writeOctets_opens (opens : Opens storage path location) (octets : List UInt8) :
    storage.writeOctets path octets =
      match storage.refusal? ⟨location, 0⟩ octets with
      | some reason => .error reason
      | none => .ok (filled storage location octets) := by
  simp only [writeOctets, create_opens opens, bind, Except.bind, append_created]
  cases storage.refusal? ⟨location, 0⟩ octets <;> rfl

theorem writeOctets_closed {reason : Refusal} (closed : storage.create path = .error reason)
    (octets : List UInt8) : storage.writeOctets path octets = .error reason := by
  rw [writeOctets, closed]
  rfl

theorem opens_or_closed (storage : Storage) (path : Path) :
    Opens storage path (placeOf storage path) ∨ ∃ reason, storage.create path = .error reason := by
  cases created : storage.create path with
  | error reason => exact .inr ⟨reason, rfl⟩
  | ok opened =>
      have opens := (create_ok created).1
      exact .inl (leadsTo_placeOf opens.toLeadsTo ▸ opens)

theorem not_closed {reason : Refusal} (opens : Opens storage path location) :
    storage.create path ≠ .error reason := by
  rw [create_opens opens]
  nofun

theorem not_refused_of_closed {reason : Refusal} (closed : storage.create path = .error reason)
    (count : Nat) (reason' : Refusal) : ¬Refuses storage path count reason' := by
  rintro ⟨location, most, opens, -⟩
  exact not_closed opens closed

theorem writeOctets_eq_ok : storage.writeOctets path octets = .ok after ↔
    Opens storage path (placeOf storage path) ∧
      Fits storage (placeOf storage path) octets.length ∧
      after = filled storage (placeOf storage path) octets := by
  rcases opens_or_closed storage path with opens | ⟨reason, closed⟩
  · rw [writeOctets_opens opens, ← created_refusal_none]
    cases storage.refusal? ⟨placeOf storage path, 0⟩ octets with
    | none => simp [opens, eq_comm]
    | some reason => simp
  · rw [writeOctets_closed closed]
    simp only [reduceCtorEq, false_iff, not_and]
    exact fun opens => absurd closed (not_closed opens)

theorem refuses_iff (opens : Opens storage path location) {reason : Refusal} :
    Refuses storage path count reason ↔
      ∃ most, storage.room location = some (most, reason) ∧ most < count := by
  constructor
  · rintro ⟨other, most, opens', bound, beyond⟩
    rw [← leadsTo_unique opens.toLeadsTo opens'.toLeadsTo] at bound
    exact ⟨most, bound, beyond⟩
  · rintro ⟨most, bound, beyond⟩
    exact ⟨location, most, opens, bound, beyond⟩

theorem takes_iff (opens : Opens storage path location) :
    Takes storage path count ↔ Fits storage location count := by
  constructor
  · rintro ⟨other, opens', fits⟩
    rwa [leadsTo_unique opens.toLeadsTo opens'.toLeadsTo]
  · exact fun fits => ⟨location, opens, fits⟩

theorem Roomy.takes (roomy : Roomy storage path) (count : Nat) : Takes storage path count := by
  obtain ⟨location, opens, unbounded⟩ := roomy
  refine ⟨location, opens, ?_⟩
  intro bound member
  rw [unbounded] at member
  cases member

theorem Takes.mono {fewer : Nat} (takes : Takes storage path count) (less : fewer ≤ count) :
    Takes storage path fewer :=
  have ⟨location, opens, fits⟩ := takes
  ⟨location, opens, fits.mono less⟩

theorem not_refused_of_takes (takes : Takes storage path count) (reason : Refusal) :
    ¬Refuses storage path count reason := by
  rintro ⟨location, most, opens, bound, beyond⟩
  exact absurd ((takes_iff opens).mp takes _ bound) (Nat.not_le.mpr beyond)

theorem not_unsecured (secures : Secures storage path) (reason : Refusal) :
    ¬Unsecured storage path reason := by
  rintro ⟨location, opens, failed⟩
  obtain ⟨other, opens', done⟩ := secures
  rw [← leadsTo_unique opens.toLeadsTo opens'.toLeadsTo, failed] at done
  cases done

theorem Secures.noSink (secures : Secures storage path) : ¬SinkAt storage path := by
  rintro ⟨location, full, leads, sink⟩
  obtain ⟨other, opens, done⟩ := secures
  rw [← leadsTo_unique leads opens.toLeadsTo] at done
  simp [sync, sink] at done

theorem writeOctets_eq_error {reason : Refusal} : storage.writeOctets path octets = .error reason ↔
    storage.create path = .error reason ∨ Refuses storage path octets.length reason := by
  rcases opens_or_closed storage path with opens | ⟨reason', closed⟩
  · rw [writeOctets_opens opens, create_opens opens, refuses_iff opens, ← created_refusal_some]
    cases storage.refusal? ⟨placeOf storage path, 0⟩ octets <;> simp
  · rw [writeOctets_closed closed, closed]
    simp [not_refused_of_closed closed]

theorem writtenTo_opens (opens : Opens storage path location) (octets : List UInt8) :
    storage.writtenTo path octets = filled storage location octets := by
  rw [writtenTo, create_opens opens]
  exact appended_behind (fits_zero storage location) octets

theorem writtenTo_closed {reason : Refusal} (closed : storage.create path = .error reason)
    (octets : List UInt8) : storage.writtenTo path octets = storage := by
  rw [writtenTo, closed]

theorem writeOctets_writtenTo (written : storage.writeOctets path octets = .ok after) :
    storage.writtenTo path octets = after := by
  obtain ⟨opens, -, rfl⟩ := writeOctets_eq_ok.mp written
  exact writtenTo_opens opens octets

theorem write_wrote (written : storage.write path text = .ok after) : Wrote storage path text after :=
  have ⟨opens, fits, after_eq⟩ := writeOctets_eq_ok.mp written
  ⟨opens, fits, after_eq⟩

theorem write_file (opens : Opens storage path location)
    (noSink : ∀ full, storage.node location ≠ some (.sink full))
    (unbounded : (storage.medium location).limit = none) :
    storage.write path text = .ok (storage.set location (.file (octetsOf text))) := by
  obtain rfl := leadsTo_placeOf opens.toLeadsTo
  have fits : Fits storage (placeOf storage path) (octetsOf text).length := by
    intro bound member
    rw [room_file noSink, unbounded] at member
    cases member
  refine writeOctets_eq_ok.mpr ⟨opens, fits, ?_⟩
  rw [filled_file noSink, kept_fits fits]

theorem Wrote.sameWays (wrote : Wrote before path text after) : SameWays before after := by
  rw [wrote.after_eq]
  exact filled_sameWays wrote.opens.notDirectory _

theorem filled_node_of_ne (elsewhere : here ≠ location) :
    (filled storage location octets).node here = storage.node here := by
  unfold filled
  split
  · rfl
  · simp [Storage.set, elsewhere]

theorem Wrote.read (wrote : Wrote before path text after) (noSink : ¬SinkAt before path) :
    after.readOctets path = .ok (octetsOf text) := by
  rw [wrote.after_eq, readOctets_filled wrote.opens.toLeadsTo noSink, kept_fits wrote.fits]

/-! ## Several writes -/

structure ChangesOnly (paths : List Path) (before after : Storage) : Prop where
  sameWays : SameWays before after
  elsewhere : ∀ location, (∀ path ∈ paths, placeOf before path ≠ location) →
    after.node location = before.node location

def Keeps (before after : Storage) (path : Path) : Prop :=
  after.node (placeOf before path) = before.node (placeOf before path)

/-- The text is what the path gives. A sink keeps nothing of it. -/
def Stands (before after : Storage) (path : Path) (text : String) : Prop :=
  ¬SinkAt before path → after.readOctets path = .ok (octetsOf text)

theorem ChangesOnly.refl (paths : List Path) (storage : Storage) : ChangesOnly paths storage storage :=
  ⟨.refl storage, fun _ _ => rfl⟩

theorem ChangesOnly.trans {more : List Path} (first : ChangesOnly paths before middle)
    (second : ChangesOnly more middle after) : ChangesOnly (paths ++ more) before after := by
  refine ⟨first.sameWays.trans second.sameWays, ?_⟩
  intro location apart
  rw [List.forall_mem_append] at apart
  rw [second.elsewhere location, first.elsewhere location apart.1]
  intro path member
  rw [first.sameWays.placeOf]
  exact apart.2 path member

theorem ChangesOnly.mono {more : List Path} (changes : ChangesOnly paths before after)
    (within : paths ⊆ more) : ChangesOnly more before after :=
  ⟨changes.sameWays, fun location apart =>
    changes.elsewhere location fun path member => apart path (within member)⟩

theorem filled_changesOnly (leads : LeadsTo storage path location) (octets : List UInt8) :
    ChangesOnly [path] storage (filled storage location octets) := by
  refine ⟨filled_sameWays leads.notDirectory octets, ?_⟩
  intro place apart
  rw [leadsTo_placeOf leads]
  exact filled_node_of_ne (apart path (List.mem_singleton.mpr rfl)).symm

theorem Wrote.changesOnly (wrote : Wrote before path text after) : ChangesOnly [path] before after := by
  rw [wrote.after_eq]
  exact filled_changesOnly wrote.opens.toLeadsTo _

theorem writtenTo_changesOnly (storage : Storage) (path : Path) (octets : List UInt8) :
    ChangesOnly [path] storage (storage.writtenTo path octets) := by
  rcases opens_or_closed storage path with opens | ⟨reason, closed⟩
  · rw [writtenTo_opens opens]
    exact filled_changesOnly opens.toLeadsTo octets
  · rw [writtenTo_closed closed]
    exact .refl _ storage

theorem ChangesOnly.readOctets (changes : ChangesOnly paths before after)
    (apart : ∀ other ∈ paths, placeOf before other ≠ placeOf before path)
    (read : before.readOctets path = .ok content) : after.readOctets path = .ok content := by
  obtain ⟨leads, holds⟩ := readOctets_eq_ok.mp read
  rw [readOctets_eq_ok, changes.sameWays.placeOf, changes.elsewhere _ apart]
  exact ⟨changes.sameWays.leadsTo leads, holds⟩

theorem Stands.earlier (same : SameWays before middle) (stands : Stands middle after path text) :
    Stands before after path text :=
  fun noSink => stands fun sink => noSink (same.symm.sinkAt sink)

theorem Wrote.stands (wrote : Wrote before path text middle) (changes : ChangesOnly paths middle after)
    (apart : ∀ other ∈ paths, placeOf before path ≠ placeOf before other) :
    Stands before after path text := by
  intro noSink
  apply changes.readOctets _ (wrote.read noSink)
  intro other member
  rw [wrote.sameWays.placeOf, wrote.sameWays.placeOf]
  exact (apart other member).symm

end Accelerometer.Proofs.Storage
