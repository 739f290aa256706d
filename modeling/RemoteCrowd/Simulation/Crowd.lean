import RemoteCrowd.Number.Magnitude
import RemoteCrowd.Simulation.Scenario

/-!
The pedestrians of a running simulation, by the ids under which they are kept. These keys
ascend, and only inserting changes which keys there are. That a pedestrian has the id that is
its key is nothing that a crowd could see to: whoever changes it has to leave its id alone.
-/

namespace RemoteCrowd

namespace Pedestrian

/-- The length of the velocity. -/
def speed (pedestrian : Pedestrian) : Double :=
  Number.magnitude pedestrian.velocity.x pedestrian.velocity.y

/-- Walk at another speed in the same direction. Who stands still starts along the x
axis. -/
def setSpeed (speed : Double) (pedestrian : Pedestrian) : Pedestrian :=
  if Double.zero.lt pedestrian.speed then
    let factor := speed / pedestrian.speed
    { pedestrian with
      velocity := ⟨pedestrian.velocity.x * factor, pedestrian.velocity.y * factor⟩ }
  else { pedestrian with velocity := ⟨speed, .zero⟩ }

def setPosition (position : Point) (pedestrian : Pedestrian) : Pedestrian :=
  { pedestrian with position }

def setVelocity (velocity : Point) (pedestrian : Pedestrian) : Pedestrian :=
  { pedestrian with velocity }

@[simp] theorem id_setSpeed (speed : Double) (pedestrian : Pedestrian) :
    (pedestrian.setSpeed speed).id = pedestrian.id := by
  unfold setSpeed
  split <;> rfl

end Pedestrian

/-- Pedestrians by ascending key. The key is the id that a pedestrian came with. -/
structure Crowd where
  entries : List (Int32 × Pedestrian) := []
  ascending : (entries.map Prod.fst).Pairwise (· < ·) := by exact .nil
deriving DecidableEq

namespace Crowd

instance : Inhabited Crowd := ⟨{}⟩

/-- Put a pedestrian in its place. It takes the place of one with the same key. -/
def insertInOrder (id : Int32) (new : Pedestrian) :
    List (Int32 × Pedestrian) → List (Int32 × Pedestrian)
  | [] => [(id, new)]
  | first :: rest =>
    if id < first.1 then (id, new) :: first :: rest
    else if id = first.1 then (id, new) :: rest
    else first :: insertInOrder id new rest

theorem mem_insertInOrder {id : Int32} {new : Pedestrian} {entry : Int32 × Pedestrian}
    {entries : List (Int32 × Pedestrian)} (member : entry ∈ insertInOrder id new entries) :
    entry = (id, new) ∨ entry ∈ entries := by
  induction entries with
  | nil => simpa [insertInOrder] using member
  | cons first rest ih =>
    simp only [insertInOrder] at member
    split at member
    · simpa using member
    · split at member
      · rcases List.mem_cons.mp member with rfl | later
        · exact .inl rfl
        · exact .inr (List.mem_cons_of_mem _ later)
      · rcases List.mem_cons.mp member with rfl | later
        · exact .inr List.mem_cons_self
        · exact (ih later).imp_right (List.mem_cons_of_mem _)

private theorem ascending_insertInOrder {id : Int32} {new : Pedestrian}
    {entries : List (Int32 × Pedestrian)}
    (ordered : (entries.map Prod.fst).Pairwise (· < ·)) :
    ((insertInOrder id new entries).map Prod.fst).Pairwise (· < ·) := by
  induction entries with
  | nil => simp [insertInOrder]
  | cons first rest ih =>
    rw [List.map_cons, List.pairwise_cons] at ordered
    simp only [insertInOrder]
    split
    · next less =>
      simp only [List.map_cons, List.pairwise_cons]
      refine ⟨fun key member => ?_, ordered⟩
      rcases List.mem_cons.mp member with rfl | later
      · exact less
      · exact Int32.lt_trans less (ordered.1 key later)
    · split
      · next same =>
        rw [List.map_cons, List.pairwise_cons, same]
        exact ordered
      · next notLess different =>
        rw [List.map_cons, List.pairwise_cons]
        refine ⟨fun key member => ?_, ih ordered.2⟩
        obtain ⟨entry, inserted, rfl⟩ := List.mem_map.mp member
        rcases mem_insertInOrder inserted with rfl | old
        · exact Int32.lt_of_le_of_ne (Int32.not_lt.mp notLess) (Ne.symm different)
        · exact ordered.1 _ (List.mem_map.mpr ⟨_, old, rfl⟩)

def insert (crowd : Crowd) (id : Int32) (new : Pedestrian) : Crowd :=
  ⟨insertInOrder id new crowd.entries, ascending_insertInOrder crowd.ascending⟩

/-- The crowd of the given pedestrians. Of several with one id the last counts. -/
def ofList (pedestrians : List Pedestrian) : Crowd :=
  pedestrians.foldl (fun crowd pedestrian => crowd.insert pedestrian.id pedestrian) {}

/-- The keys. -/
def ids (crowd : Crowd) : List Int32 := crowd.entries.map Prod.fst

/-- The pedestrians in the order of their keys. -/
def members (crowd : Crowd) : List Pedestrian := crowd.entries.map Prod.snd

def size (crowd : Crowd) : Nat := crowd.entries.length

def find? (crowd : Crowd) (id : Int32) : Option Pedestrian := crowd.entries.lookup id

/-- Other pedestrians under the same keys. -/
def replace (crowd : Crowd) (entries : List (Int32 × Pedestrian))
    (same : entries.map Prod.fst = crowd.entries.map Prod.fst) : Crowd :=
  ⟨entries, same ▸ crowd.ascending⟩

/-- Change what stands under one key. -/
def modifyIn (id : Int32) (change : Pedestrian → Pedestrian) :
    List (Int32 × Pedestrian) → List (Int32 × Pedestrian) :=
  List.map fun entry => if entry.1 = id then (entry.1, change entry.2) else entry

theorem map_fst_modifyIn (id : Int32) (change : Pedestrian → Pedestrian)
    (entries : List (Int32 × Pedestrian)) :
    (modifyIn id change entries).map Prod.fst = entries.map Prod.fst := by
  rw [modifyIn, List.map_map]
  refine List.map_congr_left fun entry _ => ?_
  simp only [Function.comp_apply]
  split <;> rfl

/-- Change the pedestrian under the given key, if there is one. -/
def modify (crowd : Crowd) (id : Int32) (change : Pedestrian → Pedestrian) : Crowd :=
  crowd.replace (modifyIn id change crowd.entries) (map_fst_modifyIn id change crowd.entries)

@[simp] theorem ids_replace (crowd : Crowd) (entries : List (Int32 × Pedestrian))
    (same : entries.map Prod.fst = crowd.entries.map Prod.fst) :
    (crowd.replace entries same).ids = crowd.ids := same

@[simp] theorem ids_modify (crowd : Crowd) (id : Int32) (change : Pedestrian → Pedestrian) :
    (crowd.modify id change).ids = crowd.ids :=
  map_fst_modifyIn id change crowd.entries

end Crowd

end RemoteCrowd
