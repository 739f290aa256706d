import RemoteCrowd.Command.Codec
import RemoteCrowd.Proofs.Outcome

/-!
How readers are put together. All of them are made of three primitive reads, and give up by
themselves only over the shape of the bytes. So a property that the primitive reads have, and
that is kept where readers follow one another, is a property of every reader.
-/

namespace RemoteCrowd

open Wire

/-- The error is about how bytes are delimited. -/
def Error.IsFraming (error : Error) : Prop := ∃ fault, error = framing fault

/-- The error is about the shape of the bytes read. -/
def Error.IsMalformed : Error → Prop
  | framing _ | encoding _ | unknownType _ => True
  | _ => False

theorem Error.IsFraming.isMalformed {error : Error} (framing : error.IsFraming) :
    error.IsMalformed := by
  obtain ⟨fault, rfl⟩ := framing
  trivial

theorem LightPhase.failsOnly_ofId (id : UInt8) :
    FailsOnly Error.IsMalformed (LightPhase.ofId id) := by
  unfold LightPhase.ofId
  split
  · exact .ok _
  · exact .error trivial

theorem ValueType.failsOnly_ofTag (tag : UInt8) :
    FailsOnly Error.IsMalformed (ValueType.ofTag tag) := by
  unfold ValueType.ofTag
  split
  · exact .ok _
  · exact .error trivial

namespace Wire

theorem throwsOnly_need (count : Nat) (item : String) :
    ThrowsOnly Error.IsFraming (need count item) := by
  intro bytes cause rest failed
  simp only [need, EStateM.run] at failed
  split at failed
  · cases failed
  · obtain ⟨rfl, -⟩ := EStateM.Result.error.inj failed
    exact ⟨_, rfl⟩

theorem throwsOnly_take (count : Nat) (item : String) :
    ThrowsOnly Error.IsFraming (take count item) := by
  intro bytes cause rest failed
  simp only [take, EStateM.run] at failed
  split at failed
  · cases failed
  · obtain ⟨rfl, -⟩ := EStateM.Result.error.inj failed
    exact ⟨_, rfl⟩

theorem throwsOnly_uint8Named (item : String) :
    ThrowsOnly Error.IsFraming (readUInt8Named item) := by
  intro bytes cause rest failed
  cases bytes with
  | nil =>
    obtain ⟨rfl, -⟩ := EStateM.Result.error.inj failed
    exact ⟨_, rfl⟩
  | cons first later => cases failed

/-- A property of readers that the primitive reads have, and that is kept where readers follow
one another. -/
structure Compositional (Shared : ∀ α : Type, Decoder α → Prop) : Prop where
  pure : ∀ {α : Type} (given : α), Shared α (pure given)
  throw : ∀ {α : Type} {cause : Error}, cause.IsMalformed → Shared α (throw cause)
  bind : ∀ {α β : Type} {first : Decoder α} {next : α → Decoder β}, Shared α first →
    (∀ a, Shared β (next a)) → Shared β (first >>= next)
  need : ∀ (count : Nat) (item : String), Shared Unit (need count item)
  take : ∀ (count : Nat) (item : String), Shared Bytes (take count item)
  uint8Named : ∀ item : String, Shared UInt8 (readUInt8Named item)

namespace Compositional

variable {Shared : ∀ α : Type, Decoder α → Prop} {α : Type}

theorem choose (condition : Prop) [Decidable condition] {first second : Decoder α}
    (holds : Shared α first) (holds' : Shared α second) :
    Shared α (if condition then first else second) := by
  split
  · exact holds
  · exact holds'

theorem orThrow (shared : Compositional Shared) {result : Except Error α}
    (fails : FailsOnly Error.IsMalformed result) : Shared α (orThrow result) := by
  cases result with
  | ok value => exact shared.pure value
  | error cause => exact shared.throw (fails cause rfl)

theorem uint8 (shared : Compositional Shared) : Shared UInt8 readUInt8 := shared.uint8Named _

theorem int8 (shared : Compositional Shared) : Shared Int8 readInt8 :=
  shared.bind (shared.uint8Named _) fun _ => shared.pure _

theorem int32 (shared : Compositional Shared) : Shared Int32 readInt32 :=
  shared.bind (shared.take _ _) fun _ => shared.pure _

theorem double (shared : Compositional Shared) : Shared Double readDouble :=
  shared.bind (shared.take _ _) fun _ => shared.pure _

theorem string (shared : Compositional Shared) : Shared String readString := by
  refine shared.bind shared.int32 fun length => choose _ (shared.throw trivial) ?_
  refine shared.bind (shared.take _ _) fun bytes => ?_
  exact choose _ (shared.pure _) (shared.throw trivial)

theorem many (shared : Compositional Shared) {item : Decoder α} (holds : Shared α item)
    (count : Nat) : Shared (List α) (readMany item count) := by
  induction count with
  | zero => exact shared.pure []
  | succ count ih =>
    exact shared.bind holds fun first => shared.bind ih fun rest => shared.pure (first :: rest)

theorem stringList (shared : Compositional Shared) : Shared (List String) readStringList := by
  refine shared.bind shared.int32 fun count => choose _ (shared.throw trivial) ?_
  exact shared.bind (shared.need _ _) fun _ => shared.many shared.string _

theorem point (shared : Compositional Shared) : Shared Point readPoint :=
  shared.bind shared.double fun _ => shared.bind shared.double fun _ => shared.pure _

theorem signalPhase (shared : Compositional Shared) : Shared SignalPhase readSignalPhase := by
  refine shared.bind shared.string fun _ => shared.bind shared.string fun _ => ?_
  refine shared.bind shared.uint8 fun id => ?_
  exact shared.bind (shared.orThrow (LightPhase.failsOnly_ofId id)) fun _ => shared.pure _

theorem color (shared : Compositional Shared) : Shared Color readColor := by
  refine shared.bind (shared.need _ _) fun _ => ?_
  refine shared.bind shared.uint8 fun _ => shared.bind shared.uint8 fun _ => ?_
  exact shared.bind shared.uint8 fun _ => shared.bind shared.uint8 fun _ => shared.pure _

private theorem threeDoubles (shared : Compositional Shared)
    (make : Double → Double → Double → Value) :
    Shared Value (do return make (← readDouble) (← readDouble) (← readDouble)) :=
  shared.bind shared.double fun _ => shared.bind shared.double fun _ =>
    shared.bind shared.double fun _ => shared.pure _

theorem untagged (shared : Compositional Shared) (type : ValueType) :
    Shared Value (readUntagged type) := by
  cases type with
  | ubyte => exact shared.bind shared.uint8 fun _ => shared.pure _
  | byte => exact shared.bind shared.int8 fun _ => shared.pure _
  | integer => exact shared.bind shared.int32 fun _ => shared.pure _
  | double => exact shared.bind shared.double fun _ => shared.pure _
  | string => exact shared.bind shared.string fun _ => shared.pure _
  | stringList => exact shared.bind shared.stringList fun _ => shared.pure _
  | position2D => exact shared.bind shared.point fun _ => shared.pure _
  | color => exact shared.bind shared.color fun _ => shared.pure _
  | position3D => exact shared.threeDoubles .position3D
  | lonLatAltPosition => exact shared.threeDoubles .lonLatAltPosition
  | lonLatPosition =>
    exact shared.bind shared.double fun _ => shared.bind shared.double fun _ => shared.pure _
  | roadMapPosition =>
    refine shared.bind shared.string fun _ => shared.bind shared.double fun _ => ?_
    exact shared.bind shared.uint8 fun _ => shared.pure _
  | polygon =>
    refine shared.bind shared.uint8 fun count => shared.bind (shared.need _ _) fun _ => ?_
    exact shared.bind (shared.many shared.point _) fun _ => shared.pure _
  | signalPhases =>
    refine shared.bind shared.uint8 fun count => ?_
    exact shared.bind (shared.many shared.signalPhase _) fun _ => shared.pure _

theorem tagged (shared : Compositional Shared) : Shared Value readTagged := by
  refine shared.bind (shared.bind shared.uint8 fun tag => ?_) shared.untagged
  exact shared.orThrow (ValueType.failsOnly_ofTag tag)

end Compositional

end Wire

namespace Command

/-- An operation that clients can ask for. -/
def IsRequest : Operation → Prop
  | .getResponse _ | .subscribeResponse _ => False
  | _ => True

/-- A subscription takes whatever there is. The arguments of all other requests are read by
readers that are put together. -/
theorem arguments_of_compositional {Shared : ∀ α : Type, Decoder α → Prop}
    (shared : Compositional Shared) (opcode : UInt8) {operation : Operation}
    (request : IsRequest operation) (delimited : ∀ domain, operation ≠ .subscribe domain) :
    Shared Command (readArguments opcode operation) := by
  cases operation with
  | getVersion | close => exact shared.pure _
  | load => exact shared.bind shared.stringList fun _ => shared.pure _
  | simStep => exact shared.bind shared.double fun _ => shared.pure _
  | setOrder => exact shared.bind shared.int32 fun _ => shared.pure _
  | sendFile => exact shared.bind shared.string fun _ => shared.pure _
  | get domain =>
    exact shared.bind shared.uint8 fun _ => shared.bind shared.string fun _ => shared.pure _
  | set domain =>
    refine shared.bind shared.uint8 fun _ => shared.bind shared.string fun _ => ?_
    exact shared.bind shared.tagged fun _ => shared.pure _
  | subscribe domain => exact absurd rfl (delimited domain)
  | getResponse domain | subscribeResponse domain => exact request.elim

end Command

end RemoteCrowd
