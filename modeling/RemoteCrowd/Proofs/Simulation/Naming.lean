import Mathlib.Data.List.Nodup
import RemoteCrowd.Proofs.Simulation.Course

/-!
How persons are addressed. An id has many spellings, and its decimal is one of them. Whatever
spells the id of somebody finds this one pedestrian, for reading as well as for changing, and
nothing else finds anybody.
-/

namespace RemoteCrowd

namespace Text

theorem isDigit_of_mem_digits {n : Nat} {c : Char} (member : c ∈ digits n) : c.isDigit = true :=
  Nat.isDigit_of_mem_toDigits (by decide) (by decide) member

theorem natural?_digits (n : Nat) : natural? (digits n) = some n := by
  have spelled : digits n ≠ [] ∧ (digits n).all Char.isDigit = true :=
    ⟨Nat.toDigits_ne_nil, List.all_eq_true.mpr fun _ => isDigit_of_mem_digits⟩
  have read : Nat.ofDigitChars 10 (digits n) 0 = n :=
    Nat.ofDigitChars_toDigits (by decide) (by decide)
  rw [natural?, if_pos spelled, read]

/-- A decimal reads back as the number that it was made of. -/
theorem integer?_integer (value : Int) : integer? (integer value) = some value := by
  cases value with
  | ofNat n =>
    have signless : ∀ c, c.isDigit = false → ∀ rest, digits n ≠ c :: rest := by
      intro c sign rest same
      have digit : c.isDigit = true := isDigit_of_mem_digits (same ▸ List.mem_cons_self)
      cases sign.symm.trans digit
    rw [integer, integer?, String.toList_ofList]
    split
    · next rest same => exact absurd same (signless '-' (by decide) rest)
    · next rest same => exact absurd same (signless '+' (by decide) rest)
    · rw [natural?_digits]
      rfl
  | negSucc n =>
    rw [integer, integer?, String.toList_ofList]
    simp only [natural?_digits]
    rfl

/-- The decimal of an id is one of its spellings, be it the least or the greatest id there is. -/
theorem int32?_integer (id : Int32) : int32? (integer id.toInt) = some id := by
  have range : -2147483648 ≤ id.toInt ∧ id.toInt ≤ 2147483647 :=
    ⟨Int32.le_toInt id, Int32.toInt_le id⟩
  rw [int32?, integer?_integer]
  simp only [Option.bind_eq_bind, Option.bind_some, if_pos range, Int32.ofInt_toInt]

end Text

namespace Crowd

variable {crowd : Crowd} {id : Int32} {pedestrian : Pedestrian}

/-- A crowd is nothing but its entries. -/
theorem eq_of_entries_eq {first second : Crowd} (same : first.entries = second.entries) :
    first = second := by
  cases first
  cases second
  cases same
  rfl

/-- No two entries share a key. -/
theorem eq_of_key_eq {first second : Int32 × Pedestrian} (member : first ∈ crowd.entries)
    (member' : second ∈ crowd.entries) (same : first.1 = second.1) : first = second := by
  have distinct : (crowd.entries.map Prod.fst).Nodup :=
    crowd.ascending.imp fun less => Int32.ne_of_lt less
  exact List.inj_on_of_nodup_map distinct member member' same

theorem mem_of_find? (found : crowd.find? id = some pedestrian) :
    (id, pedestrian) ∈ crowd.entries := by
  obtain ⟨front, behind, split, -⟩ := List.lookup_eq_some_iff.mp found
  rw [split]
  exact List.mem_append_right _ List.mem_cons_self

theorem find?_eq_some_iff :
    crowd.find? id = some pedestrian ↔ (id, pedestrian) ∈ crowd.entries := by
  refine ⟨mem_of_find?, fun member => ?_⟩
  cases found : crowd.find? id with
  | none =>
    have missing := List.lookup_eq_none_iff.mp found (id, pedestrian) member
    simp at missing
  | some other =>
    have same := eq_of_key_eq (mem_of_find? found) member rfl
    exact congrArg some (Prod.mk.inj same).2

theorem id_of_find? (consistent : crowd.Consistent) (found : crowd.find? id = some pedestrian) :
    pedestrian.id = id :=
  consistent _ (mem_of_find? found)

theorem exists_find?_iff : (∃ pedestrian, crowd.find? id = some pedestrian) ↔ id ∈ crowd.ids := by
  simp only [find?_eq_some_iff, ids, List.mem_map]
  constructor
  · rintro ⟨pedestrian, member⟩
    exact ⟨_, member, rfl⟩
  · rintro ⟨⟨_, pedestrian⟩, member, rfl⟩
    exact ⟨pedestrian, member⟩

/-- A change under one key changes nobody else. -/
theorem find?_modify (crowd : Crowd) (id other : Int32) (change : Pedestrian → Pedestrian) :
    (crowd.modify id change).find? other =
      (crowd.find? other).map fun pedestrian =>
        if other = id then change pedestrian else pedestrian := by
  show (modifyIn id change crowd.entries).lookup other = (crowd.entries.lookup other).map _
  induction crowd.entries with
  | nil => rfl
  | cons first rest ih =>
    obtain ⟨key, pedestrian⟩ := first
    have head : modifyIn id change ((key, pedestrian) :: rest) =
        (key, if key = id then change pedestrian else pedestrian) :: modifyIn id change rest := by
      rw [modifyIn, List.map_cons]
      split <;> rfl
    rw [head]
    by_cases here : other = key
    · subst here
      simp only [List.lookup_cons_self, Option.map_some]
    · have skipped : (other == key) = false := beq_false_of_ne here
      simp only [List.lookup_cons, skipped, ih]

end Crowd

namespace World

variable {world after : World} {element : String} {pedestrian : Pedestrian}

/-- Whoever is found is under the id that the name spells. -/
theorem locate_eq_ok_iff {id : Int32} :
    world.locate element = .ok (id, pedestrian) ↔
      Text.int32? element = some id ∧ world.crowd.find? id = some pedestrian := by
  unfold locate parseId
  cases Text.int32? element with
  | none => simp [bind, Except.bind]
  | some spelled =>
    simp only [bind, Except.bind, Option.some.injEq]
    cases found : world.crowd.find? spelled with
    | none =>
      refine iff_of_false nofun ?_
      rintro ⟨rfl, found'⟩
      cases found.symm.trans found'
    | some somebody =>
      show Except.ok (spelled, somebody) = _ ↔ _
      rw [Except.ok.injEq, Prod.mk.injEq]
      refine and_congr_right ?_
      rintro rfl
      rw [found, Option.some.injEq]

theorem find_eq_ok_iff :
    world.find element = .ok pedestrian ↔
      ∃ id, Text.int32? element = some id ∧ world.crowd.find? id = some pedestrian := by
  simp only [find, bind_eq_ok_iff, pure_eq_ok_iff, Prod.exists, locate_eq_ok_iff]
  constructor
  · rintro ⟨id, _, located, rfl⟩
    exact ⟨id, located⟩
  · rintro ⟨id, located⟩
    exact ⟨id, pedestrian, located, rfl⟩

theorem find_of_spelled {id : Int32} (spelled : Text.int32? element = some id)
    (found : world.crowd.find? id = some pedestrian) : world.find element = .ok pedestrian :=
  find_eq_ok_iff.mpr ⟨id, spelled, found⟩

theorem modify_eq_ok_iff {change : Pedestrian → Pedestrian} :
    world.modify element change = .ok after ↔
      ∃ id pedestrian, world.locate element = .ok (id, pedestrian) ∧
        after = world.modifyPerson id change := by
  simp only [modify, bind_eq_ok_iff, pure_eq_ok_iff, Prod.exists, eq_comm (a := after)]

theorem exists_find_iff :
    (∃ pedestrian, world.find element = .ok pedestrian) ↔
      ∃ id ∈ world.crowd.ids, Text.int32? element = some id := by
  simp only [find_eq_ok_iff, ← Crowd.exists_find?_iff]
  constructor
  · rintro ⟨pedestrian, id, spelled, found⟩
    exact ⟨id, ⟨pedestrian, found⟩, spelled⟩
  · rintro ⟨id, ⟨pedestrian, found⟩, spelled⟩
    exact ⟨pedestrian, id, spelled, found⟩

end World

end RemoteCrowd
