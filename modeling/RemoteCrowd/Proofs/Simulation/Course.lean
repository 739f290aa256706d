import RemoteCrowd.Proofs.Result
import RemoteCrowd.Proofs.Simulation.Run
import RemoteCrowd.Service.Query

/-!
The course of a run. Whatever is asked of it, the area and the keys are those of its scenario, every
pedestrian has its key for an id, and the clock is a function of the counter of steps: it is
computed anew at each step and does not add up errors.
-/

namespace RemoteCrowd

variable {μ : Type}

namespace Crowd

theorem mem_map_fst_insertInOrder {id key : Int32} {new : Pedestrian}
    {entries : List (Int32 × Pedestrian)} :
    key ∈ (insertInOrder id new entries).map Prod.fst ↔ key = id ∨ key ∈ entries.map Prod.fst := by
  induction entries with
  | nil => simp [insertInOrder]
  | cons first rest ih =>
    simp only [insertInOrder]
    split
    · simp
    · split
      · next same => simp [same]
      · rw [List.map_cons, List.mem_cons, ih, List.map_cons, List.mem_cons]
        exact or_left_comm

/-- Every pedestrian has its key for an id. -/
def Consistent (crowd : Crowd) : Prop := ∀ entry ∈ crowd.entries, entry.2.id = entry.1

theorem Consistent.insert {crowd : Crowd} (consistent : crowd.Consistent)
    (pedestrian : Pedestrian) : (crowd.insert pedestrian.id pedestrian).Consistent := by
  intro entry member
  rcases mem_insertInOrder member with rfl | old
  · rfl
  · exact consistent entry old

theorem Consistent.modify {crowd : Crowd} (consistent : crowd.Consistent) (id : Int32)
    {change : Pedestrian → Pedestrian} (keeps : ∀ pedestrian, (change pedestrian).id = pedestrian.id) :
    (crowd.modify id change).Consistent := by
  intro entry member
  obtain ⟨before, old, rfl⟩ := List.mem_map.mp member
  have same := consistent before old
  split
  · exact (keeps before.2).trans same
  · exact same

/-- A crowd that is made of a list has the keys of those who are in it. -/
theorem consistent_ofList (pedestrians : List Pedestrian) :
    (ofList pedestrians).Consistent ∧
      ∀ id, id ∈ (ofList pedestrians).ids ↔ id ∈ pedestrians.map Pedestrian.id := by
  -- what is there already stays, so the fold is followed from any crowd
  suffices folded : ∀ crowd : Crowd, crowd.Consistent →
      (pedestrians.foldl (fun crowd pedestrian => crowd.insert pedestrian.id pedestrian)
        crowd).Consistent ∧
      ∀ id, id ∈ (pedestrians.foldl (fun crowd pedestrian => crowd.insert pedestrian.id pedestrian)
        crowd).ids ↔ id ∈ crowd.ids ∨ id ∈ pedestrians.map Pedestrian.id by
    obtain ⟨consistent, known⟩ := folded {} nofun
    exact ⟨consistent, fun id => (known id).trans (or_iff_right List.not_mem_nil)⟩
  induction pedestrians with
  | nil => exact fun crowd consistent => ⟨consistent, by simp⟩
  | cons first rest ih =>
    intro crowd consistent
    obtain ⟨consistent', known⟩ := ih _ (consistent.insert first)
    refine ⟨consistent', fun id => ?_⟩
    rw [List.foldl_cons, known, List.map_cons, List.mem_cons, ← or_assoc]
    exact or_congr_left (mem_map_fst_insertInOrder.trans or_comm)

end Crowd

/-- No change of a person gives it another id. -/
theorem World.id_of_personChange {asked : PersonVariable} {value : Value}
    {change : Pedestrian → Pedestrian} (allowed : personChange asked value = .ok change)
    (pedestrian : Pedestrian) : (change pedestrian).id = pedestrian.id := by
  cases asked with
  | speed =>
    obtain ⟨speed, -, made⟩ := bind_eq_ok_iff.mp allowed
    obtain rfl := Except.ok.inj made
    exact Pedestrian.id_setSpeed speed pedestrian
  | position =>
    obtain ⟨position, -, made⟩ := bind_eq_ok_iff.mp allowed
    obtain rfl := Except.ok.inj made
    rfl
  | idList | count | position3D =>
    obtain rfl := Except.ok.inj allowed
    rfl

/-- Only the crowd can be changed, and nobody comes or goes or takes another id. -/
def World.SamePlace (before after : World) : Prop :=
  ∃ crowd : Crowd, crowd.ids = before.crowd.ids ∧
    (before.crowd.Consistent → crowd.Consistent) ∧ after = { before with crowd }

theorem World.SamePlace.refl (world : World) : world.SamePlace world := ⟨_, rfl, id, rfl⟩

theorem World.samePlace_modifyPerson {change : Pedestrian → Pedestrian}
    (keeps : ∀ pedestrian, (change pedestrian).id = pedestrian.id) (id : Int32) (world : World) :
    world.SamePlace (world.modifyPerson id change) :=
  ⟨_, Crowd.ids_modify .., fun consistent => consistent.modify id keeps, rfl⟩

/-- No update of the movement does more to a world than to move its crowd. -/
def Movement.MovesOnly (movement : Movement μ) : Prop :=
  ∀ memory (world : World) seconds, world.SamePlace (movement.update memory world seconds).world

theorem consistent_walkAll (area : Area) (seconds : Double) {entries : List (Int32 × Pedestrian)}
    (consistent : ∀ entry ∈ entries, entry.2.id = entry.1) :
    ∀ entry ∈ (walkAll area seconds entries).1, entry.2.id = entry.1 := by
  induction entries with
  | nil => exact nofun
  | cons first rest ih =>
    obtain ⟨key, pedestrian⟩ := first
    rw [List.forall_mem_cons] at consistent
    unfold walkAll
    split
    · exact List.forall_mem_cons.mpr consistent
    · next after walked =>
      have same := Pedestrian.id_of_walk_eq_ok walked
      exact List.forall_mem_cons.mpr ⟨same.trans consistent.1, ih consistent.2⟩

theorem Movement.movesOnly_constantVelocity : constantVelocity.MovesOnly :=
  fun _ _ _ => ⟨_, Crowd.ids_replace .., consistent_walkAll _ _, rfl⟩

namespace Course

/-- What is so in the course of a run of a scenario behind a number of updates. -/
structure Suits (scenario : Scenario) (updates : Nat) (course : Course μ) : Prop where
  ids : ∀ id, id ∈ course.world.crowd.ids ↔ id ∈ scenario.pedestrians.map Pedestrian.id
  consistent : course.world.crowd.Consistent
  area : course.world.area = scenario.area
  step : course.world.step = .ofNat updates
  time : course.world.time =
    if updates = 0 then .zero else World.timeAfter scenario.stepLength (.ofNat updates)

namespace Suits

variable {movement : Movement μ} {scenario : Scenario} {course : Course μ} {updates : Nat}

theorem start (movement : Movement μ) (scenario : Scenario) :
    (start movement scenario).Suits scenario 0 where
  ids := (Crowd.consistent_ofList scenario.pedestrians).2
  consistent := (Crowd.consistent_ofList scenario.pedestrians).1
  area := rfl
  step := rfl
  time := rfl

/-- A change of the crowd alone changes nothing of this. -/
theorem move (suits : course.Suits scenario updates) {world : World}
    (same : course.world.SamePlace world) (memory : μ) :
    Suits scenario updates ⟨memory, world⟩ := by
  obtain ⟨crowd, ids, consistent, rfl⟩ := same
  exact ⟨fun id => by rw [ids]; exact suits.ids id, consistent suits.consistent, suits.area,
    suits.step, suits.time⟩

/-- The clock is set by the count. -/
theorem tick (suits : course.Suits scenario updates) :
    Suits scenario (updates + 1) ⟨course.memory, course.world.tick scenario.stepLength⟩ where
  ids := suits.ids
  consistent := suits.consistent
  area := suits.area
  step := by
    rw [UInt64.ofNat_add, ← suits.step]
    rfl
  time := by
    rw [if_neg (Nat.succ_ne_zero _), UInt64.ofNat_add, ← suits.step]
    rfl

theorem update (suits : course.Suits scenario updates) (moves : movement.MovesOnly)
    {after : Course μ} {fault : Option String}
    (updated : course.update movement scenario.stepLength = (after, fault)) :
    after.Suits scenario (if fault.isSome then updates else updates + 1) := by
  have moved := suits.move (moves course.memory course.world scenario.stepLength)
    (movement.update course.memory course.world scenario.stepLength).memory
  unfold Course.update at updated
  simp only at updated
  split at updated
  · obtain ⟨rfl, rfl⟩ := Prod.mk.inj updated
    exact moved
  · obtain ⟨rfl, rfl⟩ := Prod.mk.inj updated
    exact moved.tick

theorem takes (suits : course.Suits scenario updates) (moves : movement.MovesOnly)
    {target : Option Double} {last : Course μ} {count : Nat} {ending : StepEnd}
    (takes : Takes movement scenario target course count last ending) :
    last.Suits scenario (updates + count) := by
  induction takes generalizing updates with
  | fails updated => exact suits.update moves updated
  | completes updated | pauses updated => exact suits.update moves updated
  | @goesOn _ _ _ count _ updated _ _ _ ih =>
    rw [Nat.add_comm count 1, ← Nat.add_assoc]
    exact ih (suits.update moves updated)

end Suits

end Course

end RemoteCrowd
