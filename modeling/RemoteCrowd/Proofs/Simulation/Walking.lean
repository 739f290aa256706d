import Mathlib.Data.List.Forall2
import RemoteCrowd.Simulation.Movement

/-!
Walking. Where one update leads a pedestrian is a matter of its own position and velocity, of the
area and of the time that passes, and of nothing else. In an area with a side that is negative or
no number there is nowhere to go: an update fails there unless the crowd is empty, and then it has
moved nobody.
-/

namespace RemoteCrowd

open Float.Model in
theorem zero_le_of_le_unpacked {sign : UnpackedFloat.Sign} {a b : UnpackedFloat}
    (nonneg : (UnpackedFloat.zero sign).le a = true) (below : a.le b = true) :
    (UnpackedFloat.zero sign).le b = true := by
  rcases b with (_ | _) | _ | _ | ⟨_ | _, _, _, _⟩
  case infinity.positive | zero | finite.positive => rfl
  -- nothing else is greater than a number that is not negative
  all_goals
    rcases a with (_ | _) | _ | _ | ⟨_ | _, _, _, _⟩ <;>
      first
      | exact absurd nonneg Bool.false_ne_true
      | exact absurd below Bool.false_ne_true

namespace Double

theorem le_iff_unpacked {a b : Double} :
    a.le b = true ↔ a.toFloat.toModel.unpack.le b.toFloat.toModel.unpack = true := by
  rw [le, decide_eq_true_iff]
  exact decide_eq_true_iff

theorem zero_le_of_le {a b : Double} (nonneg : zero.le a = true) (below : a.le b = true) :
    zero.le b = true := by
  rw [le_iff_unpacked] at *
  exact zero_le_of_le_unpacked nonneg below

end Double

/-- The point that is reached by walking straight on for a number of seconds. -/
def Point.moved (position velocity : Point) (seconds : Double) : Point :=
  ⟨position.x + velocity.x * seconds, position.y + velocity.y * seconds⟩

namespace Area

/-- The area has points. -/
def IsProper (area : Area) : Prop :=
  Double.zero.le area.width = true ∧ Double.zero.le area.height = true

theorem isProper_of_contains {area : Area} {point : Point} (inside : area.contains point = true) :
    area.IsProper := by
  simp only [contains, Bool.and_eq_true] at inside
  obtain ⟨⟨left, right⟩, low, high⟩ := inside
  exact ⟨Double.zero_le_of_le left right, Double.zero_le_of_le low high⟩

theorem exists_clampTo {limit : Double} (nonneg : Double.zero.le limit = true) (value : Double) :
    ∃ nearest, clampTo limit value = .ok nearest := by
  unfold clampTo
  rw [nonneg]
  split
  · next negative => cases negative
  · split
    · exact ⟨_, rfl⟩
    · split <;> exact ⟨_, rfl⟩

theorem exists_clampTo_eq_error {limit : Double} (negative : Double.zero.le limit = false)
    (value : Double) : ∃ text, clampTo limit value = .error text := by
  unfold clampTo
  rw [negative]
  exact ⟨_, rfl⟩

theorem exists_clamp {area : Area} (proper : area.IsProper) (point : Point) :
    ∃ border, area.clamp point = .ok border := by
  obtain ⟨x, clampedX⟩ := exists_clampTo proper.1 point.x
  obtain ⟨y, clampedY⟩ := exists_clampTo proper.2 point.y
  refine ⟨⟨x, y⟩, ?_⟩
  rw [clamp, clampedX, clampedY]
  rfl

theorem exists_clamp_eq_error {area : Area} (improper : ¬ area.IsProper) (point : Point) :
    ∃ text, area.clamp point = .error text := by
  cases wide : Double.zero.le area.width with
  | false =>
    obtain ⟨text, refused⟩ := exists_clampTo_eq_error wide point.x
    refine ⟨text, ?_⟩
    rw [clamp, refused]
    rfl
  | true =>
    obtain ⟨x, clampedX⟩ := exists_clampTo wide point.x
    have flat : Double.zero.le area.height = false := by
      rw [← Bool.not_eq_true]
      exact fun high => improper ⟨wide, high⟩
    obtain ⟨text, refused⟩ := exists_clampTo_eq_error flat point.y
    refine ⟨text, ?_⟩
    rw [clamp, clampedX, refused]
    rfl

/-- Where a position and a velocity lead within a number of seconds: straight on, at the same
velocity, or to the border if that is outside, and there to a stop. -/
inductive Leads (area : Area) (seconds : Double) (position velocity : Point) :
    Point → Point → Prop where
  | onward (inside : area.contains (position.moved velocity seconds) = true) :
    Leads area seconds position velocity (position.moved velocity seconds) velocity
  | toBorder {border : Point}
    (outside : area.contains (position.moved velocity seconds) = false)
    (clamped : area.clamp (position.moved velocity seconds) = .ok border) :
    Leads area seconds position velocity border .origin

theorem Leads.unique {area : Area} {seconds : Double}
    {position velocity position' velocity' position'' velocity'' : Point}
    (leads : area.Leads seconds position velocity position' velocity')
    (leads' : area.Leads seconds position velocity position'' velocity'') :
    position'' = position' ∧ velocity'' = velocity' := by
  cases leads with
  | onward inside =>
    cases leads' with
    | onward => exact ⟨rfl, rfl⟩
    | toBorder outside => cases inside.symm.trans outside
  | toBorder outside clamped =>
    cases leads' with
    | onward inside => cases inside.symm.trans outside
    | toBorder outside' clamped' => exact ⟨Except.ok.inj (clamped'.symm.trans clamped), rfl⟩

end Area

namespace Pedestrian

variable {area : Area}

/-- The same pedestrian, where one update leads it. -/
def LeadsTo (area : Area) (seconds : Double) (before after : Pedestrian) : Prop :=
  after.id = before.id ∧
    area.Leads seconds before.position before.velocity after.position after.velocity

theorem exists_walk (proper : area.IsProper) (seconds : Double) (pedestrian : Pedestrian) :
    ∃ after, pedestrian.walk area seconds = .ok after ∧ LeadsTo area seconds pedestrian after := by
  unfold walk
  cases inside : area.contains (pedestrian.position.moved pedestrian.velocity seconds) with
  | true => exact ⟨_, if_pos inside, rfl, .onward inside⟩
  | false =>
    obtain ⟨border, clamped⟩ :=
      area.exists_clamp proper (pedestrian.position.moved pedestrian.velocity seconds)
    refine ⟨{ pedestrian with position := border, velocity := .origin }, ?_, rfl,
      .toBorder inside clamped⟩
    refine (if_neg (Bool.eq_false_iff.mp inside)).trans ?_
    show (area.clamp (pedestrian.position.moved pedestrian.velocity seconds) >>= _) = _
    rw [clamped]
    rfl

theorem exists_walk_eq_error (improper : ¬ area.IsProper) (seconds : Double)
    (pedestrian : Pedestrian) : ∃ text, pedestrian.walk area seconds = .error text := by
  have outside : ¬ area.contains (pedestrian.position.moved pedestrian.velocity seconds) = true :=
    fun inside => improper (Area.isProper_of_contains inside)
  obtain ⟨text, refused⟩ :=
    area.exists_clamp_eq_error improper (pedestrian.position.moved pedestrian.velocity seconds)
  refine ⟨text, ?_⟩
  unfold walk
  refine (if_neg outside).trans ?_
  show (area.clamp (pedestrian.position.moved pedestrian.velocity seconds) >>= _) = _
  rw [refused]
  rfl

end Pedestrian

/-- Somebody who is led on keeps the key. -/
def EntryLeadsTo (area : Area) (seconds : Double) (before after : Int32 × Pedestrian) : Prop :=
  after.1 = before.1 ∧ Pedestrian.LeadsTo area seconds before.2 after.2

section Crowd

variable {area : Area}

theorem walkAll_of_isProper (proper : area.IsProper) (seconds : Double)
    (entries : List (Int32 × Pedestrian)) :
    (walkAll area seconds entries).2 = none ∧
      List.Forall₂ (EntryLeadsTo area seconds) entries (walkAll area seconds entries).1 := by
  induction entries with
  | nil => exact ⟨rfl, .nil⟩
  | cons first rest ih =>
    obtain ⟨key, pedestrian⟩ := first
    obtain ⟨after, walked, leads⟩ := pedestrian.exists_walk proper seconds
    rw [walkAll, walked]
    exact ⟨ih.1, .cons ⟨rfl, leads⟩ ih.2⟩

theorem walkAll_of_not_isProper (improper : ¬ area.IsProper) (seconds : Double)
    (entries : List (Int32 × Pedestrian)) :
    (walkAll area seconds entries).1 = entries ∧
      ((walkAll area seconds entries).2 = none ↔ entries = []) := by
  cases entries with
  | nil => exact ⟨rfl, by simp [walkAll]⟩
  | cons first rest =>
    obtain ⟨key, pedestrian⟩ := first
    obtain ⟨text, refused⟩ := pedestrian.exists_walk_eq_error improper seconds
    rw [walkAll, refused]
    exact ⟨rfl, by simp⟩

end Crowd

/-- Pedestrians that are led on are found under the keys that they had. -/
theorem EntryLeadsTo.lookup {area : Area} {seconds : Double}
    {before after : List (Int32 × Pedestrian)}
    (leads : List.Forall₂ (EntryLeadsTo area seconds) before after)
    {id : Int32} {pedestrian : Pedestrian} (found : before.lookup id = some pedestrian) :
    ∃ moved, after.lookup id = some moved ∧
      Pedestrian.LeadsTo area seconds pedestrian moved := by
  induction leads with
  | nil => cases found
  | @cons first first' rest rest' head tail ih =>
    obtain ⟨key, somebody⟩ := first
    obtain ⟨key', moved⟩ := first'
    obtain ⟨rfl, led⟩ : key' = key ∧ _ := head
    rw [List.lookup_cons] at found ⊢
    split at found
    · next here =>
      obtain rfl := Option.some.inj found
      exact ⟨moved, rfl, led⟩
    · exact ih found

/-- What an update makes of everyone in a world, each by itself. It fails only where there is
nowhere to go, and then it has moved nobody. -/
structure Moved.LeadsEach {μ : Type} (moved : Moved μ) (world : World) (seconds : Double) :
    Prop where
  succeeds : moved.fault = none ↔ world.area.IsProper ∨ world.crowd.members = []
  still : moved.fault ≠ none → moved.world = world
  leads : moved.fault = none → ∀ id pedestrian, world.crowd.find? id = some pedestrian →
    ∃ after, moved.crowd.find? id = some after ∧ after.id = pedestrian.id ∧
      ∀ position velocity,
        world.area.Leads seconds pedestrian.position pedestrian.velocity position velocity ↔
          position = after.position ∧ velocity = after.velocity

theorem Movement.leadsEach_walkCrowd {μ : Type} (memory : μ) (world : World) (seconds : Double) :
    (walkCrowd memory world seconds).LeadsEach world seconds := by
  by_cases proper : world.area.IsProper
  · obtain ⟨done, each⟩ := walkAll_of_isProper proper seconds world.crowd.entries
    refine ⟨iff_of_true done (.inl proper), fun failed => absurd done failed, ?_⟩
    intro _ id pedestrian found
    obtain ⟨after, found', same, leads⟩ := EntryLeadsTo.lookup each found
    refine ⟨after, found', same, fun position velocity => ⟨leads.unique, ?_⟩⟩
    rintro ⟨rfl, rfl⟩
    exact leads
  · obtain ⟨unmoved, done⟩ := walkAll_of_not_isProper proper seconds world.crowd.entries
    refine ⟨done.trans (by simp [proper, Crowd.members]), ?_, ?_⟩
    · intro _
      show { world with crowd := world.crowd.replace _ _ } = world
      simp only [Crowd.replace, unmoved]
    · intro succeeded id pedestrian found
      rw [Crowd.find?, done.mp succeeded] at found
      cases found

end RemoteCrowd
