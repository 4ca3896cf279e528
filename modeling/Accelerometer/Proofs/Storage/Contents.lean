import Accelerometer.Storage
import Mathlib.Tactic.ByContra

/-!
# Contents of a file that is written piece by piece

* `create_ok`: what it takes to create a file, and the tree after it.
* `appended_behind`, `append_behind`: a piece written at the end of the content comes behind it, as far
  as there is room for it.
* `resolve_sameWays`: paths lead the same way whatever the files hold.
* `readOctets_filled`: what the path of the file gives afterwards.
-/

namespace Accelerometer.Proofs.Storage
open Accelerometer.Storage

variable {storage opened : Storage} {path : Path} {location : Location} {octets more : List UInt8}
  {count : Nat}

def kept (storage : Storage) (location : Location) (octets : List UInt8) : List UInt8 :=
  match storage.room location with
  | some (most, _) => octets.take most
  | none => octets

def filled (storage : Storage) (location : Location) (octets : List UInt8) : Storage :=
  match storage.node location with
  | some (.sink _) => storage
  | _ => storage.set location (.file (kept storage location octets))

structure LeadsTo (storage : Storage) (path : Path) (location : Location) : Prop where
  entry : ∃ parent name, storage.resolve path = .ok (.entry parent name false) ∧
    name.utf8ByteSize ≤ maxNameSize ∧ location = parent ++ [name]
  notDirectory : storage.node location ≠ some .directory

structure Opens (storage : Storage) (path : Path) (location : Location) : Prop
    extends LeadsTo storage path location where
  unlocked : (storage.medium location).closed = none

/-- The path names a device that keeps nothing of what is written to it. -/
def SinkAt (storage : Storage) (path : Path) : Prop :=
  ∃ location full, LeadsTo storage path location ∧ storage.node location = some (.sink full)

def Fits (storage : Storage) (location : Location) (count : Nat) : Prop :=
  ∀ bound ∈ storage.room location, count ≤ bound.1

def Takes (storage : Storage) (path : Path) (count : Nat) : Prop :=
  ∃ location, Opens storage path location ∧ Fits storage location count

def Roomy (storage : Storage) (path : Path) : Prop :=
  ∃ location, Opens storage path location ∧ storage.room location = none

/-- A path can be opened for writing, but refuses so many octets. -/
def Refuses (storage : Storage) (path : Path) (count : Nat) (reason : Refusal) : Prop :=
  ∃ location most, Opens storage path location ∧ storage.room location = some (most, reason) ∧
    most < count

def Secures (storage : Storage) (path : Path) : Prop :=
  ∃ location, Opens storage path location ∧ storage.sync ⟨location, 0⟩ = .ok ()

def Unsecured (storage : Storage) (path : Path) (reason : Refusal) : Prop :=
  ∃ location, Opens storage path location ∧ storage.sync ⟨location, 0⟩ = .error reason

@[simp] theorem set_node_self (storage : Storage) (location : Location) (node : Node) :
    (storage.set location node).node location = some node := by
  simp [Storage.set]

@[simp] theorem set_set (storage : Storage) (location : Location) (before after : Node) :
    (storage.set location before).set location after = storage.set location after := by
  simp only [Storage.set, Storage.mk.injEq, and_true]
  funext other
  split <;> rfl

@[simp] theorem set_medium (storage : Storage) (location : Location) (node : Node) :
    (storage.set location node).medium = storage.medium :=
  rfl

theorem filled_sink {full : Bool} (sink : storage.node location = some (.sink full)) :
    filled storage location octets = storage := by
  simp [filled, sink]

theorem filled_file (noSink : ∀ full, storage.node location ≠ some (.sink full)) :
    filled storage location octets =
      storage.set location (.file (kept storage location octets)) := by
  unfold filled
  split
  · rename_i full sink
    exact absurd sink (noSink full)
  · rfl

theorem kept_fits (fits : Fits storage location octets.length) :
    kept storage location octets = octets := by
  unfold kept
  split
  · rename_i most reason bound
    exact List.take_of_length_le (fits _ bound)
  · rfl

theorem kept_append (fits : Fits storage location octets.length) :
    kept storage location (octets ++ more) =
      octets ++ storage.fitting ⟨location, octets.length⟩ more := by
  cases bound : storage.room location with
  | none => simp [kept, fitting, bound]
  | some bound' =>
      have within := fits bound' bound
      simp [kept, fitting, bound, List.take_append, List.take_of_length_le within]

theorem Fits.mono {fewer : Nat} (fits : Fits storage location count) (less : fewer ≤ count) :
    Fits storage location fewer :=
  fun bound member => Nat.le_trans less (fits bound member)

theorem fits_zero (storage : Storage) (location : Location) : Fits storage location 0 :=
  fun bound _ => Nat.zero_le bound.1

theorem room_sink {full : Bool} (sink : storage.node location = some (.sink full)) :
    storage.room location = if full then some (0, .noSpace) else none := by
  cases full <;> simp [room, sink]

theorem room_file (noSink : ∀ full, storage.node location ≠ some (.sink full)) :
    storage.room location = (storage.medium location).limit := by
  unfold room
  split
  · rename_i sink
    exact absurd sink (noSink true)
  · rename_i sink
    exact absurd sink (noSink false)
  · rfl

theorem room_filled (storage : Storage) (location : Location) (octets : List UInt8) :
    (filled storage location octets).room location = storage.room location := by
  by_cases sink : ∃ full, storage.node location = some (.sink full)
  · obtain ⟨full, sink⟩ := sink
    rw [filled_sink sink]
  · have noSink : ∀ full, storage.node location ≠ some (.sink full) := not_exists.mp sink
    rw [room_file noSink, filled_file noSink, room_file (by simp), set_medium]

/-! ## Creating and writing -/

theorem lookUp_ok {here : Location} {name : String} {node : Option Node}
    (found : storage.lookUp here name = .ok node) :
    name.utf8ByteSize ≤ maxNameSize ∧ node = storage.node (here ++ [name]) := by
  unfold lookUp at found
  split at found
  · cases found
  · rename_i fits
    exact ⟨Nat.not_lt.mp fits, (Except.ok.inj found).symm⟩

theorem create_ok {handle : Handle} (created : storage.create path = .ok (handle, opened)) :
    Opens storage path handle.location ∧ handle.offset = 0 ∧
      opened = filled storage handle.location [] := by
  unfold Storage.create at created
  cases resolved : storage.resolve path with
  | error refusal => simp [resolved, bind, Except.bind] at created
  | ok target =>
      simp only [resolved, bind, Except.bind] at created
      cases target with
      | directory place => cases created
      | entry parent name closed =>
          cases closed with
          | true => cases created
          | false =>
              cases found : storage.lookUp parent name with
              | error refusal => simp [found] at created
              | ok node =>
                  obtain ⟨fits, rfl⟩ := lookUp_ok found
                  have entry : ∃ parent' name', storage.resolve path = .ok (.entry parent' name' false) ∧
                      name'.utf8ByteSize ≤ maxNameSize ∧ parent ++ [name] = parent' ++ [name'] :=
                    ⟨parent, name, resolved, fits, rfl⟩
                  simp only [found] at created
                  split at created
                  · cases created
                  · rename_i notDirectory
                    split at created
                    · cases created
                    · rename_i unlocked sink
                      obtain ⟨rfl, rfl⟩ := Prod.mk.inj (Except.ok.inj created)
                      exact ⟨⟨⟨entry, notDirectory⟩, unlocked⟩, rfl, (filled_sink sink).symm⟩
                    · rename_i unlocked noSink
                      obtain ⟨rfl, rfl⟩ := Prod.mk.inj (Except.ok.inj created)
                      refine ⟨⟨⟨entry, notDirectory⟩, unlocked⟩, rfl, ?_⟩
                      rw [filled_file noSink, kept_fits (fits_zero _ _)]

theorem overwrite_end (content octets : List UInt8) :
    overwrite content content.length octets = content ++ octets := by
  simp [overwrite]

theorem appended_behind (fits : Fits storage location octets.length) (more : List UInt8) :
    (filled storage location octets).appended ⟨location, octets.length⟩ more =
      filled storage location (octets ++ more) := by
  by_cases sink : ∃ full, storage.node location = some (.sink full)
  · obtain ⟨full, sink⟩ := sink
    rw [filled_sink sink, filled_sink sink]
    simp [appended, sink]
  · have noSink : ∀ full, storage.node location ≠ some (.sink full) := not_exists.mp sink
    have same : (filled storage location octets).fitting ⟨location, octets.length⟩ more =
        storage.fitting ⟨location, octets.length⟩ more := by
      simp only [fitting, room_filled]
    rw [filled_file noSink, kept_fits fits] at same ⊢
    rw [filled_file noSink, kept_append fits]
    simp [appended, same, overwrite_end]

theorem refusal?_eq_none {offset : Nat} :
    storage.refusal? ⟨location, offset⟩ more = none ↔
      more = [] ∨ Fits storage location (offset + more.length) := by
  unfold refusal?
  cases bound : storage.room location with
  | none => simp [Fits, bound]
  | some bound' => simp [Fits, bound, Classical.or_iff_not_imp_left]

theorem refusal?_eq_some {offset : Nat} {reason : Refusal} :
    storage.refusal? ⟨location, offset⟩ more = some reason ↔
      more ≠ [] ∧ ∃ most, storage.room location = some (most, reason) ∧
        most < offset + more.length := by
  unfold refusal?
  cases bound : storage.room location with
  | none => simp
  | some bound' =>
      obtain ⟨most, reason'⟩ := bound'
      simp only [Option.ite_none_right_eq_some, Option.some.injEq, Prod.mk.injEq]
      constructor
      · rintro ⟨⟨nonempty, beyond⟩, rfl⟩
        exact ⟨nonempty, most, ⟨rfl, rfl⟩, beyond⟩
      · rintro ⟨nonempty, _, ⟨rfl, rfl⟩, beyond⟩
        exact ⟨⟨nonempty, beyond⟩, rfl⟩

theorem append_behind (fits : Fits storage location octets.length) (more : List UInt8) :
    (filled storage location octets).append ⟨location, octets.length⟩ more =
      match storage.refusal? ⟨location, octets.length⟩ more with
      | some reason => .error reason
      | none => .ok (⟨location, (octets ++ more).length⟩, filled storage location (octets ++ more)) := by
  have same : (filled storage location octets).refusal? ⟨location, octets.length⟩ more =
      storage.refusal? ⟨location, octets.length⟩ more := by
    simp only [refusal?, room_filled]
  rw [append, same]
  cases storage.refusal? ⟨location, octets.length⟩ more with
  | some reason => rfl
  | none => simp only [appended_behind fits, List.length_append]

theorem sync_filled (storage : Storage) (location : Location) (octets : List UInt8) (offset : Nat) :
    (filled storage location octets).sync ⟨location, offset⟩ = storage.sync ⟨location, 0⟩ := by
  by_cases sink : ∃ full, storage.node location = some (.sink full)
  · obtain ⟨full, sink⟩ := sink
    rw [filled_sink sink]
    rfl
  · have noSink : ∀ full, storage.node location ≠ some (.sink full) := not_exists.mp sink
    rw [filled_file noSink]
    simp only [sync, set_node_self, set_medium]

/-! ## Following paths -/

/-- Two trees differ in their files at most and are seen from the same directory, so that paths lead the
same way in both. -/
structure SameWays (storage other : Storage) : Prop where
  workingDirectory : other.workingDirectory = storage.workingDirectory
  medium : other.medium = storage.medium
  fixed : ∀ place node, (∀ content, node ≠ .file content) →
    (other.node place = some node ↔ storage.node place = some node)

theorem SameWays.refl (storage : Storage) : SameWays storage storage :=
  ⟨rfl, rfl, fun _ _ _ => Iff.rfl⟩

theorem SameWays.symm {other : Storage} (same : SameWays storage other) : SameWays other storage :=
  ⟨same.workingDirectory.symm, same.medium.symm, fun place node kind => (same.fixed place node kind).symm⟩

theorem SameWays.trans {other third : Storage} (same : SameWays storage other)
    (same' : SameWays other third) : SameWays storage third :=
  ⟨same'.workingDirectory.trans same.workingDirectory, same'.medium.trans same.medium,
    fun place node kind => (same'.fixed place node kind).trans (same.fixed place node kind)⟩

theorem SameWays.directory {other : Storage} (same : SameWays storage other) (place : Location) :
    other.node place = some .directory ↔ storage.node place = some .directory :=
  same.fixed place .directory fun _ => nofun

theorem SameWays.sink {other : Storage} (same : SameWays storage other) (place : Location)
    (full : Bool) : other.node place = some (.sink full) ↔ storage.node place = some (.sink full) :=
  same.fixed place (.sink full) fun _ => nofun

theorem filled_sameWays (notDirectory : storage.node location ≠ some .directory)
    (octets : List UInt8) : SameWays storage (filled storage location octets) := by
  by_cases sink : ∃ full, storage.node location = some (.sink full)
  · obtain ⟨full, sink⟩ := sink
    rw [filled_sink sink]
    exact .refl storage
  · rw [filled_file (not_exists.mp sink)]
    refine ⟨rfl, rfl, ?_⟩
    intro place node kind
    by_cases here : place = location
    · subst here
      cases node with
      | directory => simp [notDirectory]
      | file content => exact absurd rfl (kind content)
      | sink full => simp [not_exists.mp sink full]
    · simp [Storage.set, here]

variable {other : Storage}

theorem enter_sameWays {here there : Location} {name : String} (same : SameWays storage other)
    (entered : storage.enter here name = .ok there) : other.enter here name = .ok there := by
  unfold enter at entered ⊢
  by_cases dot : name = "."
  · rw [if_pos dot] at entered ⊢
    exact entered
  · by_cases dots : name = ".."
    · rw [if_neg dot, if_pos dots] at entered ⊢
      exact entered
    · simp only [dot, dots, if_false] at entered ⊢
      cases found : storage.lookUp here name with
      | error refusal => simp [found, bind, Except.bind] at entered
      | ok found' =>
          obtain ⟨fits, rfl⟩ := lookUp_ok found
          cases stands : storage.node (here ++ [name]) with
          | none => simp [found, stands, bind, Except.bind] at entered
          | some before =>
              cases before with
              | directory =>
                  have stands' := (same.directory _).mpr stands
                  simpa [found, stands, bind, Except.bind, lookUp, Nat.not_lt.mpr fits, stands']
                    using entered
              | file content => simp [found, stands, bind, Except.bind] at entered
              | sink full => simp [found, stands, bind, Except.bind] at entered

theorem walk_sameWays {names : List String} {here there : Location} (same : SameWays storage other)
    (walked : names.foldlM storage.enter here = .ok there) :
    names.foldlM other.enter here = .ok there := by
  induction names generalizing here with
  | nil => exact walked
  | cons name names ih =>
      simp only [List.foldlM_cons, bind, Except.bind] at walked ⊢
      cases entered : storage.enter here name with
      | error refusal => simp [entered] at walked
      | ok next =>
          rw [entered] at walked
          rw [enter_sameWays same entered]
          exact ih walked

theorem resolve_sameWays {target : Target} (same : SameWays storage other)
    (resolved : storage.resolve path = .ok target) : other.resolve path = .ok target := by
  unfold resolve at resolved ⊢
  have sameStart : other.start path = storage.start path := by
    rw [start, start, same.workingDirectory]
  simp only [sameStart, bind, Except.bind, pure, Except.pure, throw, throwThe, MonadExceptOf.throw]
    at resolved ⊢
  split at resolved
  · cases resolved
  · rename_i nul
    rw [if_neg nul]
    split at resolved
    · cases resolved
    · rename_i empty
      rw [if_neg empty]
      split at resolved
      · cases resolved
      · rename_i long
        rw [if_neg long]
        cases final : (names path).getLast? with
        | none => simpa only [final] using resolved
        | some last =>
            simp only [final] at resolved ⊢
            by_cases dots : last = "." ∨ last = ".."
            · rw [if_pos dots] at resolved ⊢
              cases walked : (names path).foldlM storage.enter (storage.start path) with
              | error refusal => simp [walked] at resolved
              | ok place => rwa [walk_sameWays same walked, ← walked]
            · rw [if_neg dots] at resolved ⊢
              cases walked : (names path).dropLast.foldlM storage.enter (storage.start path) with
              | error refusal => simp [walked] at resolved
              | ok place => rwa [walk_sameWays same walked, ← walked]

/-! ## Reading back -/

theorem leadsTo_unique {other : Location} (leads : LeadsTo storage path location)
    (leads' : LeadsTo storage path other) : location = other := by
  obtain ⟨parent, name, resolved, -, rfl⟩ := leads.entry
  obtain ⟨parent', name', resolved', -, rfl⟩ := leads'.entry
  rw [resolved] at resolved'
  cases resolved'
  rfl

theorem readOctets_filled (leads : LeadsTo storage path location) (noSink : ¬SinkAt storage path) :
    (filled storage location octets).readOctets path = .ok (kept storage location octets) := by
  have noSink : ∀ full, storage.node location ≠ some (.sink full) :=
    fun full sink => noSink ⟨location, full, leads, sink⟩
  have same := filled_sameWays leads.notDirectory octets
  obtain ⟨parent, name, resolved, fits, rfl⟩ := leads.entry
  rw [readOctets, resolve_sameWays same resolved]
  simp only [bind, Except.bind, lookUp, Nat.not_lt.mpr fits, if_false]
  rw [filled_file noSink, set_node_self]
  rfl

theorem filled_of_sinkAt (leads : LeadsTo storage path location) (sink : SinkAt storage path) :
    filled storage location octets = storage := by
  obtain ⟨other, full, leads', sink⟩ := sink
  rw [← leadsTo_unique leads leads'] at sink
  exact filled_sink sink

def emptyStorage : Storage :=
  { node := fun location => if location = [] then some .directory else none, workingDirectory := [] }

theorem emptyStorage_opens {name : String}
    (resolved : emptyStorage.resolve path = .ok (.entry [] name false))
    (short : name.utf8ByteSize ≤ maxNameSize) : Opens emptyStorage path [name] :=
  ⟨⟨⟨[], name, resolved, short, rfl⟩, nofun⟩, rfl⟩

theorem emptyStorage_roomy {name : String} (opens : Opens emptyStorage path [name]) :
    Roomy emptyStorage path :=
  ⟨[name], opens, rfl⟩

theorem emptyStorage_secures {name : String} (opens : Opens emptyStorage path [name]) :
    Secures emptyStorage path :=
  ⟨[name], opens, rfl⟩

theorem emptyStorage_noSink (path : Path) : ¬SinkAt emptyStorage path := by
  rintro ⟨location, full, -, sink⟩
  simp only [emptyStorage] at sink
  split at sink <;> cases sink

/-! ## Texts -/

theorem octetsOf_append (before after : String) :
    octetsOf (before ++ after) = octetsOf before ++ octetsOf after := by
  simp [octetsOf]

theorem octetsOf_ne_nil {text : String} (nonempty : text.toList ≠ []) : octetsOf text ≠ [] := by
  obtain ⟨c, rest, starts⟩ := List.exists_cons_of_ne_nil nonempty
  rw [octetsOf, starts, List.flatMap_cons]
  exact List.append_ne_nil_of_left_ne_nil String.utf8EncodeChar_ne_nil _

theorem readText_of_octets {text : String} (read : storage.readOctets path = .ok (octetsOf text)) :
    storage.readText path = .ok text := by
  have same : (octetsOf text).toByteArray = text.toByteArray := by
    rw [← String.utf8Encode_toList]
    rfl
  simp only [readText, read, same, bind, Except.bind]
  rw [String.fromUTF8?, dif_pos text.isValidUTF8]
  rfl

end Accelerometer.Proofs.Storage
