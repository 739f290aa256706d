import RemoteCrowd.Proofs.Simulation.Naming

/-!
The start of a scenario. A text is accepted just when it describes a scenario that can run. Then
the simulation starts with every pedestrian of the scenario under its own id, in whatever order
they are listed, and each of them can be addressed. A scenario that uses an id twice is refused
with the first id that comes again.
-/

namespace RemoteCrowd

namespace Crowd

theorem perm_insertInOrder {id : Int32} {new : Pedestrian} {entries : List (Int32 × Pedestrian)}
    (fresh : id ∉ entries.map Prod.fst) :
    (insertInOrder id new entries).Perm ((id, new) :: entries) := by
  induction entries with
  | nil => exact .refl _
  | cons first rest ih =>
    rw [List.map_cons, List.mem_cons, not_or] at fresh
    simp only [insertInOrder]
    split
    · exact .refl _
    · rw [if_neg fresh.1]
      exact ((ih fresh.2).cons first).trans (.swap (id, new) first rest)

/-- A pedestrian under its own id. -/
def entry (pedestrian : Pedestrian) : Int32 × Pedestrian := (pedestrian.id, pedestrian)

theorem map_fst_entry (pedestrians : List Pedestrian) :
    (pedestrians.map entry).map Prod.fst = pedestrians.map Pedestrian.id := by
  rw [List.map_map]
  rfl

/-- Pedestrians with different ids are all in the crowd that is made of them, and nobody else. -/
theorem perm_entries_ofList {pedestrians : List Pedestrian}
    (distinct : (pedestrians.map Pedestrian.id).Nodup) :
    (ofList pedestrians).entries.Perm (pedestrians.map entry) := by
  -- what is there already stays, so the fold is followed from any crowd
  suffices folded : ∀ crowd : Crowd,
      ((crowd.entries ++ pedestrians.map entry).map Prod.fst).Nodup →
        (pedestrians.foldl (fun crowd pedestrian => crowd.insert pedestrian.id pedestrian)
          crowd).entries.Perm (crowd.entries ++ pedestrians.map entry) from
    folded {} ((map_fst_entry pedestrians).symm ▸ distinct)
  clear distinct
  induction pedestrians with
  | nil =>
    intro crowd _
    rw [List.map_nil, List.append_nil]
    exact .refl _
  | cons first rest ih =>
    intro crowd distinct
    have moved : (crowd.entries ++ (first :: rest).map entry).Perm
        ((entry first :: crowd.entries) ++ rest.map entry) := List.perm_middle
    have fresh : first.id ∉ crowd.entries.map Prod.fst := by
      have apart := (moved.map Prod.fst).nodup_iff.mp distinct
      rw [List.cons_append, List.map_cons, List.map_append, List.nodup_cons] at apart
      exact fun taken => apart.1 (List.mem_append_left _ taken)
    have inserted : ((crowd.insert first.id first).entries ++ rest.map entry).Perm
        (crowd.entries ++ (first :: rest).map entry) :=
      ((perm_insertInOrder fresh).append_right _).trans moved.symm
    exact (ih _ ((inserted.map Prod.fst).nodup_iff.mpr distinct)).trans inserted

theorem perm_members_ofList {pedestrians : List Pedestrian}
    (distinct : (pedestrians.map Pedestrian.id).Nodup) :
    (ofList pedestrians).members.Perm pedestrians := by
  have same := (perm_entries_ofList distinct).map Prod.snd
  rw [List.map_map] at same
  exact same.trans (.of_eq (List.map_id pedestrians))

/-- A crowd is known by who is in it. -/
theorem eq_of_perm_entries {first second : Crowd} (same : first.entries.Perm second.entries) :
    first = second := by
  have ordered : ∀ crowd : Crowd, crowd.entries.Pairwise fun a b => a.1 < b.1 :=
    fun crowd => List.pairwise_map.mp crowd.ascending
  exact eq_of_entries_eq
    (same.eq_of_pairwise (fun a b _ _ less more => absurd more (Int32.lt_asymm less))
      (ordered first) (ordered second))

/-- The order in which pedestrians with different ids are listed is no matter. -/
theorem ofList_eq_of_perm {first second : List Pedestrian} (same : first.Perm second)
    (distinct : (second.map Pedestrian.id).Nodup) : ofList first = ofList second := by
  have distinct' := (same.map Pedestrian.id).nodup_iff.mpr distinct
  exact eq_of_perm_entries
    ((perm_entries_ofList distinct').trans ((same.map entry).trans (perm_entries_ofList distinct).symm))

end Crowd

/-- The names of the persons in a world: they ascend as numbers, there is one for each pedestrian,
and each addresses the pedestrian with this id, and only this one. A name addresses nobody unless
it spells an id of the crowd. -/
structure World.Addresses (world : World) : Prop where
  ascending : world.elementIds.Pairwise fun first second => ∃ id other,
    Text.int32? first = some id ∧ Text.int32? second = some other ∧ id < other
  count : world.elementIds.length = world.crowd.size
  listed : ∀ element ∈ world.elementIds, ∃ id pedestrian,
    element = Text.integer id.toInt ∧ world.crowd.find? id = some pedestrian ∧
      pedestrian.id = id ∧ world.find element = .ok pedestrian ∧
      ∀ change, ∃ after, world.modify element change = .ok after ∧
        ∀ other, after.crowd.find? other =
          if other = id then some (change pedestrian) else world.crowd.find? other
  found : ∀ element, (∃ pedestrian, world.find element = .ok pedestrian) ↔
    ∃ id ∈ world.crowd.ids, Text.int32? element = some id
  changed : ∀ element change, (∃ after, world.modify element change = .ok after) ↔
    ∃ id ∈ world.crowd.ids, Text.int32? element = some id

theorem World.addresses {world : World} (consistent : world.crowd.Consistent) : world.Addresses where
  ascending := by
    refine List.pairwise_map.mpr (world.crowd.ascending.imp fun {id other} less => ?_)
    exact ⟨id, other, Text.int32?_integer id, Text.int32?_integer other, less⟩
  count := by simp only [elementIds, Crowd.ids, Crowd.size, List.length_map]
  listed := by
    intro element member
    obtain ⟨id, known, rfl⟩ := List.mem_map.mp member
    obtain ⟨pedestrian, found⟩ := Crowd.exists_find?_iff.mpr known
    have located := locate_eq_ok_iff.mpr ⟨Text.int32?_integer id, found⟩
    refine ⟨id, pedestrian, rfl, found, Crowd.id_of_find? consistent found,
      find_of_spelled (Text.int32?_integer id) found, fun change => ?_⟩
    refine ⟨_, modify_eq_ok_iff.mpr ⟨id, pedestrian, located, rfl⟩, fun other => ?_⟩
    show (world.crowd.modify id change).find? other = _
    rw [Crowd.find?_modify]
    split
    · next here =>
      rw [here, found]
      rfl
    · exact Option.map_id'
  found element := exists_find_iff
  changed element change := by
    rw [← exists_find_iff]
    constructor
    · rintro ⟨after, changed⟩
      obtain ⟨id, pedestrian, located, -⟩ := modify_eq_ok_iff.mp changed
      exact ⟨pedestrian, find_eq_ok_iff.mpr ⟨id, locate_eq_ok_iff.mp located⟩⟩
    · rintro ⟨pedestrian, found⟩
      obtain ⟨id, located⟩ := find_eq_ok_iff.mp found
      exact ⟨_, modify_eq_ok_iff.mpr ⟨id, pedestrian, locate_eq_ok_iff.mpr located, rfl⟩⟩

namespace Scenario

/-- Time goes on and comes to an end, as far as the scenario says. -/
structure IsTimed (scenario : Scenario) : Prop where
  stepLength : Double.zero.lt scenario.stepLength = true
  finishTime : Double.zero.lt scenario.finishTime = true

/-- What a scenario needs in order to run. -/
structure CanRun (scenario : Scenario) : Prop extends scenario.IsTimed where
  distinct : (scenario.pedestrians.map Pedestrian.id).Nodup

theorem firstDuplicate?_eq_none_iff {seen ids : List Int32} :
    firstDuplicate? seen ids = none ↔ ids.Nodup ∧ ∀ id ∈ ids, id ∉ seen := by
  induction ids generalizing seen with
  | nil => simp [firstDuplicate?]
  | cons first rest ih =>
    rw [firstDuplicate?]
    split
    · next known => simp [known]
    · next unknown =>
      rw [ih, List.nodup_cons]
      constructor
      · rintro ⟨distinct, fresh⟩
        refine ⟨⟨fun again => fresh first again List.mem_cons_self, distinct⟩, ?_⟩
        intro id member
        rcases List.mem_cons.mp member with rfl | later
        · exact unknown
        · exact fun known => fresh id later (List.mem_cons_of_mem _ known)
      · rintro ⟨⟨once, distinct⟩, fresh⟩
        refine ⟨distinct, fun id later known => ?_⟩
        rcases List.mem_cons.mp known with rfl | old
        · exact once later
        · exact fresh id (List.mem_cons_of_mem _ later) old

/-- The id that is reported has come before, and no id in front of it has. -/
theorem exists_of_firstDuplicate?_eq_some {seen ids : List Int32} {id : Int32}
    (found : firstDuplicate? seen ids = some id) :
    ∃ front behind, ids = front ++ id :: behind ∧ front.Nodup ∧ (∀ other ∈ front, other ∉ seen) ∧
      (id ∈ seen ∨ id ∈ front) := by
  induction ids generalizing seen with
  | nil => cases found
  | cons first rest ih =>
    rw [firstDuplicate?] at found
    split at found
    · next known =>
      obtain rfl := Option.some.inj found
      exact ⟨[], rest, rfl, .nil, fun _ member => (List.not_mem_nil member).elim, .inl known⟩
    · next unknown =>
      obtain ⟨front, behind, rfl, distinct, fresh, again⟩ := ih found
      refine ⟨first :: front, behind, rfl, ?_, ?_, ?_⟩
      · exact List.nodup_cons.mpr
          ⟨fun later => fresh first later List.mem_cons_self, distinct⟩
      · intro other member
        rcases List.mem_cons.mp member with rfl | later
        · exact unknown
        · exact fun known => fresh other later (List.mem_cons_of_mem _ known)
      · rw [List.mem_cons, ← or_assoc, or_comm (a := id ∈ seen), ← List.mem_cons]
        exact again

/-- With the timing in order, only the ids are left to be checked. -/
theorem IsTimed.validate_eq {scenario : Scenario} (timed : scenario.IsTimed) :
    scenario.validate =
      match firstDuplicate? [] (scenario.pedestrians.map Pedestrian.id) with
      | some id => .error (.load (.duplicateId id))
      | none => .ok () := by
  rw [validate, timed.stepLength, timed.finishTime]
  rfl

theorem validate_eq_ok_iff {scenario : Scenario} :
    scenario.validate = .ok () ↔ scenario.CanRun := by
  constructor
  · intro valid
    have timed : scenario.IsTimed := by
      unfold validate at valid
      split at valid
      · cases valid
      · next goesOn =>
        split at valid
        · cases valid
        · next ends => exact ⟨by simpa using goesOn, by simpa using ends⟩
    rw [timed.validate_eq] at valid
    split at valid
    · cases valid
    · next once => exact ⟨timed, (firstDuplicate?_eq_none_iff.mp once).1⟩
  · intro runs
    have once := firstDuplicate?_eq_none_iff.mpr
      ⟨runs.distinct, fun _ _ seen => (List.not_mem_nil seen).elim⟩
    rw [runs.validate_eq, once]

theorem described_eq_ok_iff {reader : Reader} {text : String} {scenario : Scenario} :
    described reader text = .ok scenario ↔ reader text = .ok scenario := by
  unfold described
  cases reader text with
  | ok given => simp
  | error fault => simp

theorem ofText_eq_ok_iff {reader : Reader} {text : String} {scenario : Scenario} :
    ofText reader text = .ok scenario ↔ reader text = .ok scenario ∧ scenario.CanRun := by
  simp only [ofText, bind_eq_ok_iff, pure_eq_ok_iff, ← validate_eq_ok_iff, described_eq_ok_iff]
  constructor
  · rintro ⟨found, described, ⟨⟩, valid, rfl⟩
    exact ⟨described, valid⟩
  · rintro ⟨described, valid⟩
    exact ⟨scenario, described, (), valid, rfl⟩

/-- The state in which the scenario starts, whatever order its pedestrians are listed in. -/
structure StartsIn (scenario : Scenario) (world : World) : Prop where
  step : world.step = 0
  time : world.time = .zero
  area : world.area = scenario.area
  members : world.crowd.members.Perm scenario.pedestrians
  entries : ∀ id pedestrian, world.crowd.find? id = some pedestrian ↔
    pedestrian ∈ scenario.pedestrians ∧ pedestrian.id = id
  reordered : ∀ pedestrians, pedestrians.Perm scenario.pedestrians →
    World.ofScenario { scenario with pedestrians } = world

theorem CanRun.startsIn {scenario : Scenario} (runs : scenario.CanRun) :
    scenario.StartsIn (.ofScenario scenario) where
  step := rfl
  time := rfl
  area := rfl
  members := Crowd.perm_members_ofList runs.distinct
  entries id pedestrian := by
    rw [Crowd.find?_eq_some_iff]
    refine (Crowd.perm_entries_ofList runs.distinct).mem_iff.trans ?_
    rw [List.mem_map]
    constructor
    · rintro ⟨_, listed, ⟨⟩⟩
      exact ⟨listed, rfl⟩
    · rintro ⟨listed, rfl⟩
      exact ⟨pedestrian, listed, rfl⟩
  reordered pedestrians same := by
    simp only [World.ofScenario, Crowd.ofList_eq_of_perm same runs.distinct]

/-- The text describes a scenario that is refused because of the first pedestrian that uses an id
again. -/
theorem ofText_of_not_distinct {reader : Reader} {text : String} {scenario : Scenario}
    (read : reader text = .ok scenario) (timed : scenario.IsTimed)
    (again : ¬ (scenario.pedestrians.map Pedestrian.id).Nodup) :
    ∃ front pedestrian behind, scenario.pedestrians = front ++ pedestrian :: behind ∧
      (front.map Pedestrian.id).Nodup ∧ pedestrian.id ∈ front.map Pedestrian.id ∧
      ofText reader text = .error (.load (.duplicateId pedestrian.id)) := by
  cases found : firstDuplicate? [] (scenario.pedestrians.map Pedestrian.id) with
  | none => exact absurd (firstDuplicate?_eq_none_iff.mp found).1 again
  | some id =>
    obtain ⟨ids, ids', split, distinct, -, known⟩ := exists_of_firstDuplicate?_eq_some found
    obtain ⟨front, rest, listed, rfl, split'⟩ := List.map_eq_append_iff.mp split
    obtain ⟨pedestrian, behind, rfl, rfl, rfl⟩ := List.map_eq_cons_iff.mp split'
    have known := known.resolve_left List.not_mem_nil
    refine ⟨front, pedestrian, behind, listed, distinct, known, ?_⟩
    rw [ofText, described_eq_ok_iff.mpr read]
    show (scenario.validate >>= fun _ => pure scenario) = _
    rw [timed.validate_eq, found]
    rfl

/-- A scenario whose text is accepted can run: its timing is positive and no two of its pedestrians
share an id. It starts with each of them once, in whatever order they are listed, and each of them
can be addressed. A scenario with positive timing in which an id comes twice is refused, and the
reason names the first id that has come before. -/
theorem starts_or_is_refused (reader : Reader) (text : String) (scenario : Scenario) :
    (ofText reader text = .ok scenario →
      scenario.CanRun ∧ scenario.StartsIn (.ofScenario scenario) ∧
        (World.ofScenario scenario).Addresses) ∧
    (reader text = .ok scenario → scenario.IsTimed →
      ¬ (scenario.pedestrians.map Pedestrian.id).Nodup →
      ∃ front pedestrian behind, scenario.pedestrians = front ++ pedestrian :: behind ∧
        (front.map Pedestrian.id).Nodup ∧ pedestrian.id ∈ front.map Pedestrian.id ∧
        ∃ cause, ofText reader text = .error cause ∧
          cause.message =
            "Scenario load error: duplicate pedestrian id " ++
              Text.integer pedestrian.id.toInt) := by
  constructor
  · intro accepted
    obtain ⟨-, runs⟩ := ofText_eq_ok_iff.mp accepted
    exact ⟨runs, runs.startsIn,
      World.addresses (Crowd.consistent_ofList scenario.pedestrians).1⟩
  · intro described timed again
    obtain ⟨front, pedestrian, behind, listed, distinct, known, refused⟩ :=
      ofText_of_not_distinct described timed again
    exact ⟨front, pedestrian, behind, listed, distinct, known, _, refused, rfl⟩

private theorem ok_of_toOption {α ε : Type} {result : Except ε α} {value : α}
    (same : result.toOption = some value) : result = .ok value := by
  cases result with
  | error cause => cases same
  | ok given => exact congrArg Except.ok (Option.some.inj same)

private def gateText : String :=
  "\x7b\"name\": \"gate\", \"pedestrians\": [
    \x7b\"id\": 7, \"position\": [1, 2]\x7d,
    \x7b\"id\": -2147483648, \"position\": [0, 1]\x7d]\x7d"

private def gate : Scenario where
  name := "gate"
  pedestrians := [⟨7, ⟨.ofNat 1, .ofNat 2⟩, .origin⟩, ⟨-2147483648, ⟨.zero, .ofNat 1⟩, .origin⟩]

private def crushText : String :=
  "\x7b\"name\": \"crush\", \"pedestrians\": [
    [5, [0, 0]], [3, [1, 0]], [3, [2, 0]], [5, [3, 0]]]\x7d"

private def crush : Scenario where
  name := "crush"
  pedestrians := [⟨5, .origin, .origin⟩, ⟨3, ⟨.ofNat 1, .zero⟩, .origin⟩,
    ⟨3, ⟨.ofNat 2, .zero⟩, .origin⟩, ⟨5, ⟨.ofNat 3, .zero⟩, .origin⟩]

/-- Two pedestrians, one of them with the least id there is, and four of which the third is the
first to use an id again. -/
theorem starts_or_is_refused_gate :
    (ofText read gateText = .ok gate ∧ gate.StartsIn (.ofScenario gate) ∧
      (World.ofScenario gate).elementIds = ["-2147483648", "7"] ∧
      ∃ pedestrian, (World.ofScenario gate).find "+07" = .ok pedestrian) ∧
    ∃ cause, ofText read crushText = .error cause ∧
      cause.message = "Scenario load error: duplicate pedestrian id 3" := by
  have accepted : ofText read gateText = .ok gate := ok_of_toOption (by decide +kernel)
  have described : read crushText = .ok crush := ok_of_toOption (by decide +kernel)
  have timed : crush.IsTimed := ⟨by decide +kernel, by decide +kernel⟩
  obtain ⟨-, starts, addresses⟩ := (starts_or_is_refused read gateText gate).1 accepted
  refine ⟨⟨accepted, starts, by decide +kernel, ?_⟩, ?_⟩
  · exact (addresses.found "+07").mpr ⟨7, by decide +kernel, by decide +kernel⟩
  · obtain ⟨front, pedestrian, behind, listed, distinct, known, cause, refused, told⟩ :=
      (starts_or_is_refused read crushText crush).2 described timed (by decide)
    refine ⟨cause, refused, ?_⟩
    have third : pedestrian.id = 3 := by
      match front, listed with
      | [], _ => cases known
      | [_], rfl => simp at known
      | [_, _], rfl => rfl
      | [_, _, _], rfl => simp at distinct
      | _ :: _ :: _ :: _ :: rest, long => simp [crush] at long
    rw [told, third]
    decide +kernel

end Scenario

end RemoteCrowd
