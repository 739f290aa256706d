import RemoteCrowd.Proofs.Wire.Counted
import RemoteCrowd.Value.Codec

/-!
Typed values on the wire. A reader of values accepts exactly what an exact writer of values
produces, which refuses whatever does not fit its field: the type that the tag announces fixes the
form of what follows, and every form belongs to one value.
-/

namespace RemoteCrowd

open Wire

def writeCount (what : String) (count : Nat) : Except Error Bytes :=
  if count ≤ maxShortList then .ok [UInt8.ofNat count]
  else .error (.capacity what count maxShortList)

def SignalPhase.write (phase : SignalPhase) : Except Error Bytes := do
  let preceding ← writeString phase.preceding
  let succeeding ← writeString phase.succeeding
  return preceding ++ succeeding ++ [phase.light.id]

/-- The value without its tag, with nothing lost of any length. -/
def Value.writeUntagged : Value → Except Error Bytes
  | ubyte value => .ok [value]
  | byte value => .ok (writeInt8 value)
  | integer value => .ok (writeInt32 value)
  | double value => .ok (writeDouble value)
  | string text => writeString text
  | stringList texts => writeStringList texts
  | position2D point => .ok point.write
  | position3D x y z => .ok (writeDouble x ++ writeDouble y ++ writeDouble z)
  | roadMapPosition road position lane => do
    return (← writeString road) ++ writeDouble position ++ [lane]
  | lonLatPosition lon lat => .ok (writeDouble lon ++ writeDouble lat)
  | lonLatAltPosition lon lat alt => .ok (writeDouble lon ++ writeDouble lat ++ writeDouble alt)
  | polygon points => do
    return (← writeCount "polygon" points.length) ++ points.flatMap Point.write
  | signalPhases phases => do
    let count ← writeCount "traffic light phase list" phases.length
    return count ++ (← writeMany SignalPhase.write phases)
  | color shade => .ok [shade.red, shade.green, shade.blue, shade.alpha]

theorem LightPhase.ofId_eq_ok_iff {id : UInt8} {phase : LightPhase} :
    LightPhase.ofId id = .ok phase ↔ phase.id = id := by
  have complete : ∀ a, a ∈ LightPhase.all := by
    intro a
    cases a <;> decide
  have different : ∀ a b : LightPhase, a.id = b.id → a = b := by
    intro a b
    cases a <;> cases b <;> decide
  rw [← find?_key_eq_some_iff complete different, LightPhase.ofId]
  split
  · next found => rw [found, Except.ok.injEq, Option.some.injEq]
  · next missing => simp [missing]

theorem ValueType.ofTag_eq_ok_iff {tag : UInt8} {type : ValueType} :
    ValueType.ofTag tag = .ok type ↔ type.tag = tag := by
  have complete : ∀ a, a ∈ ValueType.all := by
    intro a
    cases a <;> decide
  have different : ∀ a b : ValueType, a.tag = b.tag → a = b := by
    intro a b
    cases a <;> cases b <;> decide
  rw [← find?_key_eq_some_iff complete different, ValueType.ofTag]
  split
  · next found => rw [found, Except.ok.injEq, Option.some.injEq]
  · next missing => simp [missing]

theorem accepts_point : Accepts readPoint fun point front => front = point.write := by
  refine (accepts_double.bind fun x => accepts_double.bind fun y => .pure (Point.mk x y)).congr ?_
  intro point front
  constructor
  · intro formed
    obtain ⟨x, _, _, rfl, ⟨y, _, _, rfl, ⟨rfl, rfl⟩, rfl⟩, rfl⟩ := formed
    rw [List.append_nil]
    rfl
  · intro same
    subst same
    exact ⟨point.x, _, _, rfl, ⟨point.y, _, [], rfl, ⟨rfl, rfl⟩, rfl⟩, by simp [Point.write]⟩

theorem SignalPhase.write_eq_ok_iff {phase : SignalPhase} {front : Bytes} :
    phase.write = .ok front ↔
      ∃ preceding succeeding, writeString phase.preceding = .ok preceding ∧
        writeString phase.succeeding = .ok succeeding ∧
        front = preceding ++ succeeding ++ [phase.light.id] := by
  simp only [SignalPhase.write, bind_eq_ok_iff, pure_eq_ok_iff]
  constructor
  · intro formed
    obtain ⟨preceding, written, succeeding, written', rfl⟩ := formed
    exact ⟨preceding, succeeding, written, written', rfl⟩
  · intro formed
    obtain ⟨preceding, succeeding, written, written', rfl⟩ := formed
    exact ⟨preceding, written, succeeding, written', rfl⟩

theorem inverts_signalPhase : Inverts readSignalPhase SignalPhase.write := by
  refine (inverts_string.bind fun preceding => inverts_string.bind fun succeeding =>
    accepts_uint8.bind fun id => (accepts_orThrow (LightPhase.ofId id)).bind fun light =>
      .pure (SignalPhase.mk preceding succeeding light)).congr ?_
  intro phase front
  rw [SignalPhase.write_eq_ok_iff]
  constructor
  · intro formed
    obtain ⟨_, preceding, _, written, ⟨_, succeeding, _, written', ⟨id, _, _, rfl,
      ⟨light, _, _, ⟨known, rfl⟩, ⟨rfl, rfl⟩, rfl⟩, rfl⟩, rfl⟩, rfl⟩ := formed
    obtain rfl := LightPhase.ofId_eq_ok_iff.mp known
    exact ⟨preceding, succeeding, written, written', by simp⟩
  · intro formed
    obtain ⟨preceding, succeeding, written, written', rfl⟩ := formed
    have known := LightPhase.ofId_eq_ok_iff.mpr (rfl : phase.light.id = phase.light.id)
    exact ⟨_, preceding, _, written, ⟨_, succeeding, _, written', ⟨_, _, [], rfl,
      ⟨phase.light, [], [], ⟨known, rfl⟩, ⟨rfl, rfl⟩, rfl⟩, rfl⟩, rfl⟩, by simp⟩

theorem accepts_color : Accepts readColor fun shade front =>
    front = [shade.red, shade.green, shade.blue, shade.alpha] := by
  refine (Accepts.afterNeed 4 "color" (accepts_uint8.bind fun red => accepts_uint8.bind fun green =>
    accepts_uint8.bind fun blue => accepts_uint8.bind fun alpha =>
      .pure (Color.mk red green blue alpha)) ?_).congr ?_
  · intro shade front formed
    obtain ⟨red, _, _, rfl, ⟨green, _, _, rfl, ⟨blue, _, _, rfl, ⟨alpha, _, _, rfl,
      ⟨rfl, rfl⟩, rfl⟩, rfl⟩, rfl⟩, rfl⟩ := formed
    simp
  · intro shade front
    constructor
    · intro formed
      obtain ⟨red, _, _, rfl, ⟨green, _, _, rfl, ⟨blue, _, _, rfl, ⟨alpha, _, _, rfl,
        ⟨rfl, rfl⟩, rfl⟩, rfl⟩, rfl⟩, rfl⟩ := formed
      simp
    · intro same
      subst same
      exact ⟨_, _, _, rfl, ⟨_, _, _, rfl, ⟨_, _, _, rfl, ⟨_, _, [], rfl,
        ⟨rfl, rfl⟩, rfl⟩, rfl⟩, rfl⟩, rfl⟩

theorem writeCount_eq_ok_iff {what : String} {count : Nat} {front : Bytes} :
    writeCount what count = .ok front ↔ count ≤ maxShortList ∧ front = [UInt8.ofNat count] := by
  unfold writeCount
  split
  · next short => simp [short, eq_comm]
  · next long => simp [long]

/-- A count in one byte, and what it counts. -/
theorem accepts_shortCounted {α : Type} {counted : Nat → Decoder α} {Form : Nat → α → Bytes → Prop}
    (accepts : ∀ n, Accepts (counted n) (Form n)) :
    Accepts (do counted (← readUInt8).toNat) fun value front =>
      ∃ n tail, n ≤ maxShortList ∧ Form n value tail ∧ front = UInt8.ofNat n :: tail := by
  refine (accepts_uint8.bind fun count => accepts count.toNat).congr ?_
  intro value front
  constructor
  · intro formed
    obtain ⟨count, _, tail, rfl, form, rfl⟩ := formed
    refine ⟨count.toNat, tail, ?_, form, ?_⟩
    · have small := count.toNat_lt
      unfold maxShortList
      omega
    · rw [UInt8.ofNat_toNat]
      rfl
  · intro formed
    obtain ⟨n, tail, short, form, rfl⟩ := formed
    refine ⟨UInt8.ofNat n, _, tail, rfl, ?_, rfl⟩
    unfold maxShortList at short
    rw [UInt8.toNat_ofNat', Nat.mod_eq_of_lt (by omega)]
    exact form

theorem writeMany_eq_flatMap {α : Type} (item : α → Bytes) (items : List α) :
    writeMany (fun a => .ok (item a)) items = .ok (items.flatMap item) := by
  induction items with
  | nil => rfl
  | cons first rest ih => rw [writeMany, ih, List.flatMap_cons]; rfl

private theorem accepts_points (count : Nat) :
    Accepts (do
      need (count * 16) "polygon"
      return Value.polygon (← readMany readPoint count)) fun value front =>
      ∃ points, value = Value.polygon points ∧ points.length = count ∧
        front = points.flatMap Point.write := by
  have inverts : Inverts readPoint fun point => .ok point.write :=
    accepts_point.congr fun point front => by rw [Except.ok.injEq, eq_comm]
  refine (Accepts.afterNeed (count * 16) "polygon"
    ((accepts_many inverts count).bind fun points => .pure (Value.polygon points)) ?_).congr ?_
  · intro value front formed
    obtain ⟨points, head, _, ⟨rfl, written⟩, ⟨rfl, rfl⟩, rfl⟩ := formed
    rw [List.append_nil]
    refine length_of_writeMany_eq_ok ?_ written
    rintro point _ ⟨rfl⟩
    simp [Point.write, writeDouble]
  · intro value front
    simp only [writeMany_eq_flatMap]
    constructor
    · intro formed
      obtain ⟨points, _, _, ⟨rfl, ⟨rfl⟩⟩, ⟨rfl, rfl⟩, rfl⟩ := formed
      exact ⟨points, rfl, rfl, List.append_nil _⟩
    · intro formed
      obtain ⟨points, rfl, rfl, rfl⟩ := formed
      exact ⟨points, _, [], ⟨rfl, rfl⟩, ⟨rfl, rfl⟩, (List.append_nil _).symm⟩

/-- A value that is made of one thing, and is the only one of its type that is. -/
private theorem accepts_made {α : Type} {reader : Decoder α} {Form : α → Bytes → Prop}
    (accepts : Accepts reader Form) (make : α → Value) (type : ValueType)
    (only : ∀ value, value.type = type ↔ ∃ a, value = make a)
    (same : ∀ a front, Form a front ↔ (make a).writeUntagged = .ok front) :
    Accepts (do return make (← reader)) fun value front =>
      value.type = type ∧ value.writeUntagged = .ok front := by
  refine (accepts.bind fun a => .pure (make a)).congr ?_
  intro value front
  constructor
  · intro formed
    obtain ⟨a, _, _, form, ⟨rfl, rfl⟩, rfl⟩ := formed
    rw [List.append_nil]
    exact ⟨(only _).mpr ⟨a, rfl⟩, (same ..).mp form⟩
  · intro formed
    obtain ⟨typed, written⟩ := formed
    obtain ⟨a, rfl⟩ := (only value).mp typed
    exact ⟨a, front, [], (same ..).mpr written, ⟨rfl, rfl⟩, (List.append_nil _).symm⟩

/-- A value that is made of three doubles. -/
private theorem accepts_threeDoubles (make : Double → Double → Double → Value) (type : ValueType)
    (only : ∀ value, value.type = type ↔ ∃ x y z, value = make x y z)
    (same : ∀ x y z,
      (make x y z).writeUntagged = .ok (writeDouble x ++ writeDouble y ++ writeDouble z)) :
    Accepts (do return make (← readDouble) (← readDouble) (← readDouble)) fun value front =>
      value.type = type ∧ value.writeUntagged = .ok front := by
  refine (accepts_double.bind fun x => accepts_double.bind fun y =>
    accepts_double.bind fun z => .pure (make x y z)).congr ?_
  intro value front
  constructor
  · intro formed
    obtain ⟨x, _, _, rfl, ⟨y, _, _, rfl, ⟨z, _, _, rfl, ⟨rfl, rfl⟩, rfl⟩, rfl⟩, rfl⟩ := formed
    refine ⟨(only _).mpr ⟨x, y, z, rfl⟩, ?_⟩
    rw [same, List.append_nil, List.append_assoc]
  · intro formed
    obtain ⟨typed, written⟩ := formed
    obtain ⟨x, y, z, rfl⟩ := (only value).mp typed
    rw [same] at written
    obtain rfl := Except.ok.inj written
    exact ⟨x, _, _, rfl, ⟨y, _, _, rfl, ⟨z, _, [], rfl, ⟨rfl, rfl⟩, rfl⟩, rfl⟩, by simp⟩

private theorem accepts_lonLatPosition :
    Accepts (readUntagged .lonLatPosition) fun value front =>
      value.type = .lonLatPosition ∧ value.writeUntagged = .ok front := by
  refine (accepts_double.bind fun lon => accepts_double.bind fun lat =>
    .pure (Value.lonLatPosition lon lat)).congr ?_
  intro value front
  constructor
  · intro formed
    obtain ⟨lon, _, _, rfl, ⟨lat, _, _, rfl, ⟨rfl, rfl⟩, rfl⟩, rfl⟩ := formed
    simp [Value.type, Value.writeUntagged]
  · intro formed
    obtain ⟨typed, written⟩ := formed
    cases value <;> cases typed
    cases written
    exact ⟨_, _, _, rfl, ⟨_, _, [], rfl, ⟨rfl, rfl⟩, rfl⟩, by simp⟩

private theorem accepts_roadMapPosition :
    Accepts (readUntagged .roadMapPosition) fun value front =>
      value.type = .roadMapPosition ∧ value.writeUntagged = .ok front := by
  refine (inverts_string.bind fun road => accepts_double.bind fun position =>
    accepts_uint8.bind fun lane => .pure (Value.roadMapPosition road position lane)).congr ?_
  intro value front
  constructor
  · intro formed
    obtain ⟨road, head, _, written, ⟨position, _, _, rfl, ⟨lane, _, _, rfl, ⟨rfl, rfl⟩, rfl⟩,
      rfl⟩, rfl⟩ := formed
    refine ⟨rfl, ?_⟩
    rw [Value.writeUntagged, written, List.append_nil, ← List.append_assoc]
    rfl
  · intro formed
    obtain ⟨typed, written⟩ := formed
    cases value <;> cases typed
    simp only [Value.writeUntagged, bind_eq_ok_iff, pure_eq_ok_iff] at written
    obtain ⟨head, written, rfl⟩ := written
    exact ⟨_, head, _, written, ⟨_, _, _, rfl, ⟨_, _, [], rfl, ⟨rfl, rfl⟩, rfl⟩, rfl⟩, by simp⟩

private theorem accepts_polygon :
    Accepts (readUntagged .polygon) fun value front =>
      value.type = .polygon ∧ value.writeUntagged = .ok front := by
  refine (accepts_shortCounted accepts_points).congr ?_
  intro value front
  constructor
  · intro formed
    obtain ⟨n, _, short, ⟨points, rfl, rfl, rfl⟩, rfl⟩ := formed
    refine ⟨rfl, ?_⟩
    rw [Value.writeUntagged, writeCount_eq_ok_iff.mpr ⟨short, rfl⟩]
    rfl
  · intro formed
    obtain ⟨typed, written⟩ := formed
    cases value <;> cases typed
    simp only [Value.writeUntagged, bind_eq_ok_iff, pure_eq_ok_iff,
      writeCount_eq_ok_iff] at written
    obtain ⟨_, ⟨short, rfl⟩, rfl⟩ := written
    exact ⟨_, _, short, ⟨_, rfl, rfl, rfl⟩, rfl⟩

private theorem accepts_signalPhases :
    Accepts (readUntagged .signalPhases) fun value front =>
      value.type = .signalPhases ∧ value.writeUntagged = .ok front := by
  refine (accepts_shortCounted fun n => (accepts_many inverts_signalPhase n).bind fun phases =>
    .pure (Value.signalPhases phases)).congr ?_
  intro value front
  constructor
  · intro formed
    obtain ⟨n, _, short, ⟨phases, items, _, ⟨rfl, written⟩, ⟨rfl, rfl⟩, rfl⟩, rfl⟩ := formed
    refine ⟨rfl, ?_⟩
    rw [Value.writeUntagged, writeCount_eq_ok_iff.mpr ⟨short, rfl⟩, written, List.append_nil]
    rfl
  · intro formed
    obtain ⟨typed, written⟩ := formed
    cases value <;> cases typed
    simp only [Value.writeUntagged, bind_eq_ok_iff, pure_eq_ok_iff,
      writeCount_eq_ok_iff] at written
    obtain ⟨_, ⟨short, rfl⟩, items, written, rfl⟩ := written
    exact ⟨_, _, short, ⟨_, items, [], ⟨rfl, written⟩, ⟨rfl, rfl⟩, rfl⟩, by simp⟩

theorem accepts_untagged (type : ValueType) :
    Accepts (readUntagged type) fun value front =>
      value.type = type ∧ value.writeUntagged = .ok front := by
  cases type with
  | ubyte =>
    refine accepts_made accepts_uint8 .ubyte .ubyte ?_ ?_
    · intro value
      cases value <;> simp [Value.type]
    · intro a front
      simp [Value.writeUntagged, eq_comm]
  | byte =>
    refine accepts_made accepts_int8 .byte .byte ?_ ?_
    · intro value
      cases value <;> simp [Value.type]
    · intro a front
      simp [Value.writeUntagged, eq_comm]
  | integer =>
    refine accepts_made accepts_int32 .integer .integer ?_ ?_
    · intro value
      cases value <;> simp [Value.type]
    · intro a front
      simp [Value.writeUntagged, eq_comm]
  | double =>
    refine accepts_made accepts_double .double .double ?_ ?_
    · intro value
      cases value <;> simp [Value.type]
    · intro a front
      simp [Value.writeUntagged, eq_comm]
  | string =>
    refine accepts_made inverts_string .string .string ?_ fun _ _ => Iff.rfl
    intro value
    cases value <;> simp [Value.type]
  | stringList =>
    refine accepts_made inverts_stringList .stringList .stringList ?_ fun _ _ => Iff.rfl
    intro value
    cases value <;> simp [Value.type]
  | position2D =>
    refine accepts_made accepts_point .position2D .position2D ?_ ?_
    · intro value
      cases value <;> simp [Value.type]
    · intro a front
      simp [Value.writeUntagged, eq_comm]
  | color =>
    refine accepts_made accepts_color .color .color ?_ ?_
    · intro value
      cases value <;> simp [Value.type]
    · intro a front
      simp [Value.writeUntagged, eq_comm]
  | position3D =>
    refine accepts_threeDoubles .position3D .position3D ?_ ?_
    · intro value
      cases value <;> simp [Value.type]
    · intro x y z
      simp [Value.writeUntagged]
  | lonLatAltPosition =>
    refine accepts_threeDoubles .lonLatAltPosition .lonLatAltPosition ?_ ?_
    · intro value
      cases value <;> simp [Value.type]
    · intro x y z
      simp [Value.writeUntagged]
  | lonLatPosition => exact accepts_lonLatPosition
  | roadMapPosition => exact accepts_roadMapPosition
  | polygon => exact accepts_polygon
  | signalPhases => exact accepts_signalPhases

theorem accepts_type : Accepts readType fun type front => front = [type.tag] := by
  refine (accepts_uint8.bind fun tag => accepts_orThrow (ValueType.ofTag tag)).congr ?_
  intro type front
  constructor
  · intro formed
    obtain ⟨tag, _, _, rfl, ⟨known, rfl⟩, rfl⟩ := formed
    rw [ValueType.ofTag_eq_ok_iff.mp known]
    rfl
  · intro same
    subst same
    exact ⟨type.tag, _, [], rfl, ⟨ValueType.ofTag_eq_ok_iff.mpr rfl, rfl⟩, rfl⟩

end RemoteCrowd
