import RemoteCrowd.Proofs.OpcodeTable
import RemoteCrowd.Proofs.Wire.Composition

/-!
How reading fails. Readers blame nothing but the shape of the bytes: a frame or count that
does not fit them, text that is not ASCII, or a tag without a type. A frame that is no
command is refused under its own opcode, either for the shape of its payload or because the
opcode stands for no request.
-/

namespace RemoteCrowd

open Wire

namespace Wire

/-- The reader blames nothing but the shape of the bytes. -/
abbrev BlamesBytes {α : Type} (reader : Decoder α) : Prop := ThrowsOnly Error.IsMalformed reader

theorem blamesBytes_expectEnd (what : String) : BlamesBytes (expectEnd what) := by
  intro bytes cause rest failed
  simp only [expectEnd, EStateM.run] at failed
  split at failed
  · cases failed
  · obtain ⟨rfl, -⟩ := EStateM.Result.error.inj failed
    trivial

theorem compositional_blamesBytes : Compositional fun _ reader => BlamesBytes reader where
  pure := ThrowsOnly.pure
  throw := ThrowsOnly.throw
  bind := ThrowsOnly.bind
  need count item := (throwsOnly_need count item).mono fun _ => Error.IsFraming.isMalformed
  take count item := (throwsOnly_take count item).mono fun _ => Error.IsFraming.isMalformed
  uint8Named item := (throwsOnly_uint8Named item).mono fun _ => Error.IsFraming.isMalformed

end Wire

namespace Error

variable {error : Error}

theorem IsMalformed.wrap_eq (shape : error.IsMalformed) (opcode : UInt8) :
    error.wrap opcode = command opcode error := by
  cases error with
  | framing _ | encoding _ | unknownType _ => rfl
  | _ => exact shape.elim

theorem IsMalformed.root_eq (shape : error.IsMalformed) : error.root = error := by
  cases error with
  | framing _ | encoding _ | unknownType _ => rfl
  | _ => exact shape.elim

theorem IsMalformed.isFatal_eq (shape : error.IsMalformed) (opcode : UInt8) :
    (command opcode error).isFatal = false := by
  cases error with
  | framing _ | encoding _ | unknownType _ => rfl
  | _ => exact shape.elim

/-- An error that names the opcode of its command is not wrapped again. -/
theorem foldl_wrap_command (opcode : UInt8) (cause : Error) (opcodes : List UInt8) :
    opcodes.foldl (fun error later => wrap later error) (command opcode cause) =
      command opcode cause := by
  induction opcodes with
  | nil => rfl
  | cons later rest ih => exact ih

end Error

namespace Command

theorem blamesBytes_arguments (opcode : UInt8) {operation : Operation}
    (request : IsRequest operation) : BlamesBytes (readArguments opcode operation) := by
  by_cases subscription : ∃ domain, operation = .subscribe domain
  · obtain ⟨domain, rfl⟩ := subscription
    intro bytes cause rest failed
    cases failed
  · exact arguments_of_compositional compositional_blamesBytes opcode request
      (not_exists.mp subscription)

/-- What is wrong with a frame that is no command: its opcode stands for no request, or its
payload does not have the shape of the arguments. -/
inductive Refused (table : OpcodeTable) (opcode : UInt8) : Error → Prop where
  | unknown (free : ∀ operation, table.lookup opcode = .ok operation → ¬IsRequest operation) :
    Refused table opcode (.unknownOpcode opcode)
  | malformed {operation : Operation} {cause : Error}
    (known : table.lookup opcode = .ok operation) (request : IsRequest operation)
    (shape : cause.IsMalformed) : Refused table opcode cause

theorem Refused.wrap {table : OpcodeTable} {opcode : UInt8} {cause : Error}
    (refused : Refused table opcode cause) : cause.wrap opcode = .command opcode cause := by
  cases refused with
  | unknown free => rfl
  | malformed known request shape => exact shape.wrap_eq opcode

theorem throwsOnly_readWhole {table : OpcodeTable} {opcode : UInt8} {operation : Operation}
    (known : table.lookup opcode = .ok operation) :
    ThrowsOnly (Refused table opcode) (readWhole opcode operation) := by
  by_cases request : IsRequest operation
  · have shape : BlamesBytes (readWhole opcode operation) :=
      (blamesBytes_arguments opcode request).bind fun _ =>
        (blamesBytes_expectEnd _).bind fun _ => .pure _
    exact shape.mono fun cause => .malformed known request
  · -- a response is refused before any of its payload is read
    have unknown : Refused table opcode (.unknownOpcode opcode) := by
      refine .unknown fun other found => ?_
      obtain rfl := Except.ok.inj (known.symm.trans found)
      exact request
    intro payload cause rest failed
    cases operation with
    | getResponse domain | subscribeResponse domain =>
      obtain ⟨rfl, -⟩ := EStateM.Result.error.inj failed
      exact unknown
    | _ => exact absurd trivial request

/-- A frame is refused under its opcode. -/
theorem ofFrame_eq_error {table : OpcodeTable} {frame : Frame} {cause : Error}
    (failed : ofFrame table frame = .error cause) :
    ∃ root, Refused table frame.opcode root ∧ cause = .command frame.opcode root := by
  unfold ofFrame at failed
  split at failed
  · next root unknown =>
    obtain rfl := Except.error.inj failed
    have refused : Refused table frame.opcode (.unknownOpcode frame.opcode) := by
      refine .unknown fun operation found => ?_
      cases unknown.symm.trans found
    obtain rfl := OpcodeTable.lookup_eq_error unknown
    exact ⟨_, refused, refused.wrap⟩
  · next operation known =>
    split at failed
    · cases failed
    · next root rest read =>
      obtain rfl := Except.error.inj failed
      have refused := throwsOnly_readWhole known _ _ _ read
      exact ⟨root, refused, refused.wrap⟩

variable {assigned : AssignedOpcodes} {table : OpcodeTable}

theorem isRequest_iff {operation : Operation} :
    IsRequest operation ↔ operation.kind ≠ .response := by
  cases operation <;> simp [IsRequest, Operation.kind]

/-- No request has the opcode: it is not in the table, or it is the opcode of a response. -/
def IsForeign (table : OpcodeTable) (opcode : UInt8) : Prop :=
  (∀ operation ∈ Operation.all, table.opcodeOf operation ≠ opcode) ∨
    ∃ operation ∈ Operation.all, table.opcodeOf operation = opcode ∧ operation.kind = .response

theorem isForeign_iff (built : OpcodeTable.build assigned = .ok table) {opcode : UInt8} :
    IsForeign table opcode ↔
      ∀ operation, table.lookup opcode = .ok operation → ¬IsRequest operation := by
  constructor
  · intro foreign operation known request
    obtain ⟨member, same⟩ := (OpcodeTable.lookup_eq_ok_iff built).mp known
    rcases foreign with absent | ⟨other, member', same', response⟩
    · exact absent operation member same
    · -- the response has the opcode, and no other operation has it
      have found := OpcodeTable.lookup_opcodeOf built member'
      rw [same', known] at found
      obtain rfl := Except.ok.inj found
      exact isRequest_iff.mp request response
  · intro free
    by_cases present : ∃ operation ∈ Operation.all, table.opcodeOf operation = opcode
    · obtain ⟨operation, member, same⟩ := present
      have known := (OpcodeTable.lookup_eq_ok_iff built).mpr ⟨member, same⟩
      have response := Decidable.not_not.mp (mt isRequest_iff.mpr (free operation known))
      exact .inr ⟨operation, member, same, response⟩
    · exact .inl fun operation member same => present ⟨operation, member, same⟩

theorem Refused.eq_unknownOpcode_iff (built : OpcodeTable.build assigned = .ok table)
    {opcode : UInt8} {root : Error} (refused : Refused table opcode root) :
    root = .unknownOpcode opcode ↔ IsForeign table opcode := by
  rw [isForeign_iff built]
  cases refused with
  | unknown free => exact iff_of_true rfl free
  | malformed known request shape =>
    refine iff_of_false ?_ fun free => free _ known request
    rintro rfl
    exact shape

theorem Refused.isMalformed_or {opcode : UInt8} {root : Error}
    (refused : Refused table opcode root) : root.IsMalformed ∨ root = .unknownOpcode opcode := by
  cases refused with
  | unknown free => exact .inr rfl
  | malformed known request shape => exact .inl shape

theorem Refused.root_eq {opcode : UInt8} {root : Error} (refused : Refused table opcode root) :
    root.root = root := by
  cases refused with
  | unknown free => rfl
  | malformed known request shape => exact shape.root_eq

theorem Refused.isFatal_eq {opcode : UInt8} {root : Error} (refused : Refused table opcode root) :
    (Error.command opcode root).isFatal = false := by
  cases refused with
  | unknown free => rfl
  | malformed known request shape => exact shape.isFatal_eq opcode

/-- A frame that is no command is refused with one wrapper around the reason, under the opcode
of the frame. The reason is that no request has this opcode, or else the shape of the payload.
The connection goes on, and wrapping the error again changes nothing. -/
theorem refused_once (built : OpcodeTable.build assigned = .ok table) (frame : Frame)
    {cause : Error} (failed : ofFrame table frame = .error cause) :
    ∃ root, cause = .command frame.opcode root ∧ cause.root = root ∧
      (root.IsMalformed ∨ root = .unknownOpcode frame.opcode) ∧
      (root = .unknownOpcode frame.opcode ↔ IsForeign table frame.opcode) ∧
      cause.isFatal = false ∧
      ∀ opcodes : List UInt8, opcodes.foldl (fun error later => error.wrap later) cause = cause := by
  obtain ⟨root, refused, rfl⟩ := ofFrame_eq_error failed
  exact ⟨root, rfl, refused.root_eq, refused.isMalformed_or, refused.eq_unknownOpcode_iff built,
    refused.isFatal_eq, Error.foldl_wrap_command frame.opcode root⟩

/-- The second road of a signal phase ends too early, deep inside a value. -/
theorem refused_once_signalPhases :
    let frame : Frame := ⟨0xc2,
      [0x20, 0, 0, 0, 1, 103, 0x0D, 1, 0, 0, 0, 1, 97, 0, 0, 0, 2, 98]⟩
    let cause : Error := .command 0xc2 (.framing (.truncated "string" 2 1))
    OpcodeTable.build {} = .ok .standard ∧ ofFrame .standard frame = .error cause ∧
      ¬IsForeign .standard 0xc2 ∧ cause.isFatal = false ∧ (cause.wrap 0x00).wrap 0x7F = cause := by
  intro frame cause
  have built : OpcodeTable.build {} = .ok .standard := by rfl
  have failed : ofFrame .standard frame = .error cause := by rfl
  obtain ⟨root, same, -, -, known, going, again⟩ := refused_once built frame failed
  obtain ⟨-, rfl⟩ := Error.command.inj same
  exact ⟨built, failed, fun foreign => (nomatch known.mpr foreign), going, again [0x00, 0x7F]⟩

end Command

end RemoteCrowd
