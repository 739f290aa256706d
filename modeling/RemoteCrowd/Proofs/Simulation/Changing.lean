import RemoteCrowd.Proofs.Simulation.Naming

/-!
Single persons that are changed. A change of one person touches nobody else and nothing else of a
session, changes of different persons can change places, and only a change of the position moves
somebody.
-/

namespace RemoteCrowd

variable {μ : Type}

@[simp] theorem Pedestrian.position_setSpeed (speed : Double) (pedestrian : Pedestrian) :
    (pedestrian.setSpeed speed).position = pedestrian.position := by
  unfold setSpeed
  split <;> rfl

namespace Crowd

variable {crowd : Crowd} {id other : Int32} {change change' : Pedestrian → Pedestrian}

/-- A change that changes nothing, or of somebody who is not there. -/
theorem modify_eq_self
    (idle : ∀ pedestrian, crowd.find? id = some pedestrian → change pedestrian = pedestrian) :
    crowd.modify id change = crowd := by
  apply eq_of_entries_eq
  show crowd.entries.map _ = crowd.entries
  conv_rhs => rw [← List.map_id crowd.entries]
  refine List.map_congr_left fun entry member => ?_
  split
  · next same =>
    rw [idle entry.2 (find?_eq_some_iff.mpr (same ▸ member))]
    rfl
  · rfl

/-- Changes under different keys can change places. -/
theorem modify_modify_comm (crowd : Crowd) (different : id ≠ other) :
    (crowd.modify id change).modify other change' =
      (crowd.modify other change').modify id change := by
  apply eq_of_entries_eq
  show modifyIn other change' (modifyIn id change crowd.entries) =
    modifyIn id change (modifyIn other change' crowd.entries)
  simp only [modifyIn, List.map_map]
  refine List.map_congr_left fun entry _ => ?_
  simp only [Function.comp_apply]
  by_cases first : entry.1 = id
  · have notSecond : entry.1 ≠ other := first ▸ different
    simp only [if_pos first, if_neg notSecond]
  · by_cases second : entry.1 = other
    · simp only [if_neg first, if_pos second]
    · simp only [if_neg first, if_neg second]

end Crowd

/-- The run with another crowd. -/
def Run.withCrowd (crowd : Crowd) (run : Run μ) : Run μ :=
  { run with course := { run.course with world := { run.course.world with crowd } } }

namespace Session

variable {session : Session μ} {run : Run μ} {id other : Int32}
  {change change' : Pedestrian → Pedestrian}

/-- The session whose run goes on with another crowd. -/
def withCrowd (run : Run μ) (crowd : Crowd) (session : Session μ) : Session μ :=
  { session with run? := some (run.withCrowd crowd) }

theorem withCrowd_self (loaded : session.run? = some run) :
    session.withCrowd run run.course.world.crowd = session := by
  cases session
  cases loaded
  rfl

theorem usable_withCrowd (usable : session.usable = .ok run) (crowd : Crowd) :
    (session.withCrowd run crowd).usable = .ok (run.withCrowd crowd) :=
  usable_eq_ok_iff.mpr ⟨rfl, (usable_eq_ok_iff.mp usable).2⟩

theorem lifecycle_withCrowd (loaded : session.run? = some run) (crowd : Crowd) :
    (session.withCrowd run crowd).lifecycle = session.lifecycle := by
  rw [lifecycle, lifecycle, loaded]
  rfl

/-- The session in which a person is changed, if the session can be used and there is such a
person. -/
def changePerson (id : Int32) (change : Pedestrian → Pedestrian) (session : Session μ) :
    Session μ :=
  match session.usable with
  | .ok run => session.withCrowd run (run.course.world.crowd.modify id change)
  | .error _ => session

theorem changePerson_of_usable (usable : session.usable = .ok run) :
    session.changePerson id change =
      session.withCrowd run (run.course.world.crowd.modify id change) := by
  rw [changePerson, usable]

theorem changePerson_of_error {cause : Error} (unusable : session.usable = .error cause) :
    session.changePerson id change = session := by
  rw [changePerson, unusable]

theorem changePerson_eq_self
    (idle : ∀ run pedestrian, session.usable = .ok run →
      run.course.world.crowd.find? id = some pedestrian → change pedestrian = pedestrian) :
    session.changePerson id change = session := by
  cases usable : session.usable with
  | error cause => exact changePerson_of_error usable
  | ok run =>
    rw [changePerson_of_usable usable,
      Crowd.modify_eq_self fun pedestrian => idle run pedestrian usable,
      withCrowd_self (usable_eq_ok_iff.mp usable).1]

theorem changePerson_changePerson_comm (session : Session μ) (different : id ≠ other) :
    (session.changePerson id change).changePerson other change' =
      (session.changePerson other change').changePerson id change := by
  cases usable : session.usable with
  | error cause => simp only [changePerson_of_error usable]
  | ok run =>
    rw [changePerson_of_usable usable, changePerson_of_usable usable,
      changePerson_of_usable (usable_withCrowd usable _),
      changePerson_of_usable (usable_withCrowd usable _)]
    simp only [withCrowd, Run.withCrowd]
    rw [Crowd.modify_modify_comm _ different]

/-- What becomes of a session in which one person is changed and nothing else: neither how the
session stands, nor the run but for its crowd, nor anybody else in the crowd. -/
structure ChangesOnly (id : Int32) (changed : Pedestrian) (before after : Session μ) : Prop where
  lifecycle : after.lifecycle = before.lifecycle
  crowd : ∃ run crowd, before.run? = some run ∧ after = before.withCrowd run crowd ∧
    ∀ other, crowd.find? other =
      if other = id then some changed else run.course.world.crowd.find? other

theorem changesOnly_changePerson {pedestrian : Pedestrian} (usable : session.usable = .ok run)
    (found : run.course.world.crowd.find? id = some pedestrian) :
    ChangesOnly id (change pedestrian) session (session.changePerson id change) := by
  have loaded := (usable_eq_ok_iff.mp usable).1
  rw [changePerson_of_usable usable]
  refine ⟨lifecycle_withCrowd loaded _, run, _, loaded, rfl, fun other => ?_⟩
  rw [Crowd.find?_modify]
  split
  · next same => rw [same, found, Option.map_some]
  · exact Option.map_id'

/-- The session can be used, and a person is at the given position. -/
def HasAt (id : Int32) (position : Point) (session : Session μ) : Prop :=
  ∃ run pedestrian, session.usable = .ok run ∧
    run.course.world.crowd.find? id = some pedestrian ∧ pedestrian.position = position

theorem ChangesOnly.hasAt {changed : Pedestrian} {after : Session μ}
    (changes : session.ChangesOnly id changed after) (idle : session.lifecycle = .loadedIdle) :
    after.HasAt id changed.position := by
  obtain ⟨-, run, crowd, loaded, rfl, members⟩ := changes
  have found := members id
  rw [if_pos rfl] at found
  exact ⟨_, changed, usable_withCrowd (usable_of_loadedIdle idle loaded) crowd, found, rfl⟩

theorem HasAt.changePerson {position : Point} (stands : session.HasAt id position)
    (apart : other = id → ∀ pedestrian, (change pedestrian).position = pedestrian.position) :
    (session.changePerson other change).HasAt id position := by
  obtain ⟨run, pedestrian, usable, found, rfl⟩ := stands
  rw [changePerson_of_usable usable]
  have changed := Crowd.find?_modify run.course.world.crowd other id change
  rw [found, Option.map_some] at changed
  refine ⟨_, _, usable_withCrowd usable _, changed, ?_⟩
  split
  · next same => exact apart same.symm pedestrian
  · rfl

end Session

theorem PersonVariable.ofId_eq_ok_iff {id : UInt8} {asked : PersonVariable} :
    ofId id = .ok asked ↔ asked.id = id := by
  have complete : ∀ candidate, candidate ∈ all := by
    intro candidate
    cases candidate <;> decide
  have different : ∀ first second : PersonVariable, first.id = second.id → first = second := by
    intro first second
    cases first <;> cases second <;> decide
  rw [← find?_key_eq_some_iff complete different, ofId]
  split
  · next found => rw [found, Except.ok.injEq, Option.some.injEq]
  · next missing => simp [missing]

/-- Only a command to set the position moves somebody. -/
theorem World.position_of_personChange {asked : PersonVariable} {value : Value}
    {change : Pedestrian → Pedestrian} (allowed : personChange asked value = .ok change)
    (other : asked ≠ .position) (pedestrian : Pedestrian) :
    (change pedestrian).position = pedestrian.position := by
  cases asked with
  | speed =>
    obtain ⟨speed, -, made⟩ := bind_eq_ok_iff.mp allowed
    obtain rfl := Except.ok.inj made
    exact Pedestrian.position_setSpeed speed pedestrian
  | position => exact absurd rfl other
  | idList | count | position3D =>
    obtain rfl := Except.ok.inj allowed
    rfl

/-- To give a person a value is to look for the person and to change it. Where that fails, the
world is left alone. -/
theorem World.run_setPersonValue (asked : PersonVariable) (element : String) (value : Value)
    (world : World) :
    (setPersonValue asked element value).run world =
      match world.locate element, personChange asked value with
      | .ok (id, _), .ok change => .ok () (world.modifyPerson id change)
      | .ok _, .error cause => .error cause world
      | .error cause, _ => .error cause world := by
  simp only [setPersonValue, ask, EStateM.run_bind, EStateM.run_get]
  cases world.locate element with
  | error cause => rfl
  | ok located =>
    obtain ⟨id, pedestrian⟩ := located
    cases personChange asked value <;> rfl

end RemoteCrowd
