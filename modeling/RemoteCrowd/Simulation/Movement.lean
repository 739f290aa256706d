import RemoteCrowd.Simulation.World

/-!
Movement: the rule that moves the crowd by one step. A movement keeps a memory of its own
from step to step, and sees the whole world and may change all of it. It may fail, and then
the world is left as far as it got.
-/

namespace RemoteCrowd

/-- How a movement failed: with an error, or by breaking off with or without words. -/
inductive MovementFault where
  | error (cause : Error)
  | panic (text : Option String)
deriving DecidableEq, Inhabited

/-- The reason that is told for a failed movement. -/
def MovementFault.reason : MovementFault → String
  | error cause => cause.message
  | panic (some text) => "model panicked: " ++ text
  | panic none => "model panicked"

/-- What one update of a movement leaves behind. -/
structure Moved (μ : Type) where
  memory : μ
  world : World
  fault : Option MovementFault := none

/-- The crowd after the update. -/
def Moved.crowd {μ : Type} (moved : Moved μ) : Crowd := moved.world.crowd

/-- A rule that moves the crowd, with a memory of type `μ` for each run. -/
structure Movement (μ : Type) where
  /-- The memory at the start of a run. -/
  start : Scenario → μ
  /-- Move a world by a number of simulated seconds. -/
  update : μ → World → Double → Moved μ
  /-- Whether the next update can be made at once, or has to wait for a signal. -/
  ready : μ → Bool := fun _ => true
  /-- Take note of a signal from outside. -/
  signal : Bool → μ → μ := fun _ memory => memory

/-- The number nearest to `value` between zero and `limit`. There is none where the limit
is negative or no number. -/
def clampTo (limit value : Double) : Except String Double :=
  if !Double.zero.le limit then
    .error ("min > max, or either was NaN. min = 0.0, max = " ++ Number.marked.render limit)
  else if value.lt .zero then .ok .zero
  else if limit.lt value then .ok limit
  else .ok value

/-- The point of the area nearest to the given one. -/
def Area.clamp (area : Area) (point : Point) : Except String Point := do
  let x ← clampTo area.width point.x
  let y ← clampTo area.height point.y
  return ⟨x, y⟩

/-- Walk straight on for a number of seconds. Who would leave the area stops at its
border. -/
def Pedestrian.walk (area : Area) (seconds : Double) (pedestrian : Pedestrian) :
    Except String Pedestrian :=
  let next : Point := ⟨pedestrian.position.x + pedestrian.velocity.x * seconds,
    pedestrian.position.y + pedestrian.velocity.y * seconds⟩
  if area.contains next then .ok { pedestrian with position := next }
  else do
    let position ← area.clamp next
    return { pedestrian with position, velocity := .origin }

theorem Pedestrian.id_of_walk_eq_ok {area : Area} {seconds : Double}
    {pedestrian after : Pedestrian} (walked : pedestrian.walk area seconds = .ok after) :
    after.id = pedestrian.id := by
  unfold walk at walked
  simp only at walked
  split at walked
  · obtain rfl := Except.ok.inj walked
    rfl
  · generalize area.clamp _ = clamped at walked
    cases clamped with
    | error text => cases walked
    | ok position =>
      obtain rfl := Except.ok.inj walked
      rfl

/-- Let pedestrians walk one after another, until one of them cannot. -/
def walkAll (area : Area) (seconds : Double) :
    List (Int32 × Pedestrian) → List (Int32 × Pedestrian) × Option MovementFault
  | [] => ([], none)
  | (id, pedestrian) :: rest =>
    match pedestrian.walk area seconds with
    | .error text => ((id, pedestrian) :: rest, some (.panic text))
    | .ok after =>
      let later := walkAll area seconds rest
      ((id, after) :: later.1, later.2)

theorem map_fst_walkAll (area : Area) (seconds : Double) (entries : List (Int32 × Pedestrian)) :
    (walkAll area seconds entries).1.map Prod.fst = entries.map Prod.fst := by
  induction entries with
  | nil => rfl
  | cons first rest ih =>
    unfold walkAll
    split
    · rfl
    · simp only [List.map_cons, ih]

namespace Movement

/-- Everyone walks along their velocity, by ascending id. -/
def walkCrowd {μ : Type} (memory : μ) (world : World) (seconds : Double) : Moved μ :=
  let walked := walkAll world.area seconds world.crowd.entries
  ⟨memory, { world with crowd := world.crowd.replace walked.1 (map_fst_walkAll ..) }, walked.2⟩

/-- Everyone keeps their velocity until they reach the border of the area. -/
def constantVelocity : Movement Unit where
  start _ := ()
  update := walkCrowd

end Movement

end RemoteCrowd
