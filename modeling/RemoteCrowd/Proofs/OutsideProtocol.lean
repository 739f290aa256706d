import Mathlib.Data.List.Nodup
import RemoteCrowd.Proofs.CommandCodec
import RemoteCrowd.Proofs.Wire.Malformed

/-!
Commands that the protocol does not have. Their opcodes follow the scheme of the others, so
they can be written all the same, but no table knows them. Whoever reads such a command finds
an unknown opcode, unless the deployment has given this opcode to one of the two operations
whose opcodes are free. Then the bytes are read as those of that operation.
-/

namespace RemoteCrowd

open Wire

namespace Operation

/-- Every operation, also those that the protocol does not have. -/
def every : List Operation :=
  [getVersion, load, simStep, setOrder, sendFile, close] ++
    Domain.all.flatMap fun domain =>
      [get domain, getResponse domain, set domain, subscribe domain, subscribeResponse domain]

theorem mem_every (operation : Operation) : operation ∈ every := by
  cases operation with
  | get domain | getResponse domain | set domain | subscribe domain | subscribeResponse domain =>
    exact List.mem_append_right _ (List.mem_flatMap.mpr ⟨domain, domain.mem_all, by simp⟩)
  | _ => decide

/-- Under the usual assignment every operation has an opcode of its own, and not only those
that the protocol has. -/
theorem opcode_standard_inj {first second : Operation} (same : first.opcode {} = second.opcode {}) :
    first = second := by
  have distinct : (every.map (opcode {})).Nodup := by decide +kernel
  exact List.inj_on_of_nodup_map distinct first.mem_every second.mem_every same

/-- The deployment chooses the opcode. -/
def IsAssigned (operation : Operation) : Prop :=
  operation = set .simulation ∨ operation = set .gui

theorem IsAssigned.mem_all {operation : Operation} (free : operation.IsAssigned) :
    operation ∈ all := by
  rcases free with rfl | rfl
  · decide
  · decide

/-- All other opcodes are the usual ones in every deployment. -/
theorem opcode_eq_standard {operation : Operation} (fixed : ¬ operation.IsAssigned)
    (assigned : AssignedOpcodes) : operation.opcode assigned = operation.opcode {} := by
  cases operation with
  | set domain =>
    cases domain with
    | simulation => exact absurd (.inl rfl) fixed
    | gui => exact absurd (.inr rfl) fixed
    | _ => rfl
  | _ => rfl

end Operation

variable {assigned : AssignedOpcodes} {table : OpcodeTable}

/-- What the table has under the opcode of an operation that the protocol does not have. -/
theorem OpcodeTable.lookup_of_outside (built : build assigned = .ok table) {operation : Operation}
    (outside : operation ∉ Operation.all) {other : Operation} :
    table.lookup (table.opcodeOf operation) = .ok other ↔
      other.IsAssigned ∧ table.opcodeOf other = table.opcodeOf operation := by
  rw [lookup_eq_ok_iff built]
  refine and_congr_left fun same => ?_
  constructor
  · intro member
    -- two operations with opcodes that no deployment chooses share none
    by_contra fixed
    have fixed' : ¬ operation.IsAssigned := fun free => outside free.mem_all
    have usual : other.opcode {} = operation.opcode {} := by
      rw [← Operation.opcode_eq_standard fixed table.assigned,
        ← Operation.opcode_eq_standard fixed' table.assigned]
      exact same
    obtain rfl := Operation.opcode_standard_inj usual
    exact outside member
  · exact Operation.IsAssigned.mem_all

namespace Command

/-- The arguments of one command, read as those of an operation with a free opcode. A change
comes back as the same change of another domain; a subscription comes back only where it
happens to be written like such a change. -/
structure ReadAs (operation : Operation) (frame : Frame) (command : Command)
    (result : Except Error Command) : Prop where
  read : ∀ other, result = .ok other ↔
    other.operation = operation ∧ other.FitsLengths ∧
      other.writeArguments = command.writeArguments
  refused : ∀ cause, result = .error cause →
    ∃ root, cause = .command frame.opcode root ∧ root.IsMalformed
  moved : ∀ domain variableId element value, command = .set domain variableId element value →
    value.FitsLengths →
    ∃ other, operation = .set other ∧ result = .ok (.set other variableId element value)

/-- What a written command is to whoever reads it with the same table. A value in it whose
lengths do not fit their fields is not promised to come back. -/
structure ComesBack (assigned : AssignedOpcodes) (frame : Frame) (command : Command)
    (result : Except Error Command) : Prop where
  same : command.operation ∈ Operation.all → command.FitsLengths → result = .ok command
  unknown : command.operation ∉ Operation.all →
    frame.opcode ≠ assigned.simulation → frame.opcode ≠ assigned.gui →
    result = .error (.command frame.opcode (.unknownOpcode frame.opcode))
  taken : command.operation ∉ Operation.all → ∀ operation : Operation, operation.IsAssigned →
    operation.opcode assigned = frame.opcode → command.ReadAs operation frame result

theorem ofFrame_of_lookup_eq_error {frame : Frame} {cause : Error}
    (missing : table.lookup frame.opcode = .error cause) :
    ofFrame table frame = .error (.command frame.opcode (.unknownOpcode frame.opcode)) := by
  obtain rfl := OpcodeTable.lookup_eq_error missing
  simp only [ofFrame, missing]
  rfl

/-- Where the opcode stands for a free operation, the frame is read as one of that operation. -/
theorem readAs_ofFrame {operation : Operation} (free : operation.IsAssigned) {frame : Frame}
    (known : table.lookup frame.opcode = .ok operation) {command : Command}
    (encoded : command.writeArguments = .ok frame.payload) :
    command.ReadAs operation frame (ofFrame table frame) := by
  have read (other : Command) : ofFrame table frame = .ok other ↔
      other.operation = operation ∧ other.FitsLengths ∧
        other.writeArguments = command.writeArguments := by
    rw [ofFrame_eq_ok_iff_lookup, known, Except.ok.injEq, encoded, eq_comm (a := operation)]
  refine ⟨read, ?_, ?_⟩
  · intro cause failed
    obtain ⟨root, refused, rfl⟩ := ofFrame_eq_error failed
    cases refused with
    | unknown foreign =>
      have request : IsRequest operation := by rcases free with rfl | rfl <;> trivial
      exact absurd request (foreign operation known)
    | malformed _ _ shape => exact ⟨root, rfl, shape⟩
  · intro domain variableId element value same fits
    subst same
    obtain ⟨other, rfl⟩ : ∃ other, operation = .set other := by
      rcases free with rfl | rfl
      · exact ⟨_, rfl⟩
      · exact ⟨_, rfl⟩
    exact ⟨other, rfl, (read _).mpr ⟨rfl, fits, rfl⟩⟩

/-- The table of a deployment that gives opcodes of the scheme to its free operations. -/
private def reusingTable : OpcodeTable :=
  let assigned : AssignedOpcodes := ⟨0xc0, 0xdc⟩
  ⟨assigned, Operation.all.map fun operation => (operation.opcode assigned, operation)⟩

private theorem build_reusingTable : OpcodeTable.build ⟨0xc0, 0xdc⟩ = .ok reusingTable := by rfl

end Command

end RemoteCrowd
