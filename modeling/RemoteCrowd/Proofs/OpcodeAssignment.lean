import RemoteCrowd.Config
import RemoteCrowd.Proofs.OutsideProtocol

/-!
Assignments of the free opcodes. A deployment can choose any two opcodes for the two operations
that have none of their own, as long as they differ from each other and from all fixed opcodes of
the protocol. Every such choice gives a table, and the table is the exact inverse of the opcodes.
-/

namespace RemoteCrowd

namespace Operation

/-- The operation has this opcode in every deployment. -/
def HasFixedOpcode (operation : Operation) (opcode : UInt8) : Prop :=
  ∀ assigned, operation.opcode assigned = opcode

theorem IsAssigned.not_hasFixedOpcode {operation : Operation} (free : operation.IsAssigned)
    (opcode : UInt8) : ¬ operation.HasFixedOpcode opcode := by
  intro fixed
  -- two deployments that choose differently
  have same : operation.opcode ⟨0, 0⟩ = operation.opcode ⟨1, 1⟩ := by rw [fixed, fixed]
  rcases free with rfl | rfl
  · cases same
  · cases same

theorem hasFixedOpcode_of_not_isAssigned {operation : Operation} (fixed : ¬ operation.IsAssigned)
    (assigned : AssignedOpcodes) : operation.HasFixedOpcode (operation.opcode assigned) := by
  intro other
  rw [opcode_eq_standard fixed, opcode_eq_standard fixed assigned]

theorem nodup_all : all.Nodup := by decide +kernel

end Operation

/-- The chosen opcodes stand for nothing else. -/
structure AssignedOpcodes.IsFree (assigned : AssignedOpcodes) : Prop where
  apart : assigned.simulation ≠ assigned.gui
  unused : ∀ operation ∈ Operation.all, ∀ opcode, operation.HasFixedOpcode opcode →
    opcode ≠ assigned.simulation ∧ opcode ≠ assigned.gui

variable {assigned : AssignedOpcodes}

/-- Under free opcodes, an operation with an opcode of its own shares it with no operation. -/
theorem AssignedOpcodes.IsFree.eq_of_fixed (free : assigned.IsFree) {operation other : Operation}
    (member : operation ∈ Operation.all) (fixed : ¬ operation.IsAssigned)
    (same : operation.opcode assigned = other.opcode assigned) : operation = other := by
  by_cases chosen : other.IsAssigned
  · have unused := free.unused operation member _
      (Operation.hasFixedOpcode_of_not_isAssigned fixed assigned)
    rcases chosen with rfl | rfl
    · exact absurd same unused.1
    · exact absurd same unused.2
  · rw [Operation.opcode_eq_standard fixed, Operation.opcode_eq_standard chosen] at same
    exact Operation.opcode_standard_inj same

theorem Operation.nodup_opcodes_iff : (all.map (opcode assigned)).Nodup ↔ assigned.IsFree := by
  constructor
  · intro distinct
    have simulation : set .simulation ∈ all := by decide
    have gui : set .gui ∈ all := by decide
    constructor
    · intro same
      cases List.inj_on_of_nodup_map distinct simulation gui same
    · intro operation member opcode fixed
      obtain rfl := fixed assigned
      constructor
      · intro same
        obtain rfl := List.inj_on_of_nodup_map distinct member simulation same
        exact IsAssigned.not_hasFixedOpcode (.inl rfl) _ fixed
      · intro same
        obtain rfl := List.inj_on_of_nodup_map distinct member gui same
        exact IsAssigned.not_hasFixedOpcode (.inr rfl) _ fixed
  · intro free
    refine nodup_all.map_on fun operation member other member' same => ?_
    by_cases fixed : operation.IsAssigned
    · by_cases fixed' : other.IsAssigned
      · rcases fixed with rfl | rfl <;> rcases fixed' with rfl | rfl
        · rfl
        · exact absurd same free.apart
        · exact absurd same.symm free.apart
        · rfl
      · exact (free.eq_of_fixed member' fixed' same.symm).symm
    · exact free.eq_of_fixed member fixed same

theorem Config.validate_eq_ok_iff {config : Config} :
    config.validate = .ok () ↔
      config.opcodes.simulation ≠ config.opcodes.gui ∧
        4 ≤ config.maxPacketSize ∧ config.connectAttempts ≠ 0 := by
  unfold validate
  split
  · next same => simp [same]
  · next apart =>
    split
    · next small => simp [Nat.not_le.mpr small]
    · next large =>
      split
      · next none => simp [none]
      · next some => simp [apart, Nat.not_lt.mp large, some]

namespace OpcodeTable

/-- There is a table for an assignment just when its opcodes are free, and then settings with this
assignment are refused for other reasons only. Every table is the inverse of the opcodes on the
operations of the protocol, and knows nothing else. The usual table is the one for the usual
assignment. -/
theorem build_and_lookup (assigned : AssignedOpcodes) :
    ((∃ table, build assigned = .ok table) ↔ assigned.IsFree) ∧
    ((∃ table, build assigned = .ok table) →
      ∀ config : Config, config.opcodes = assigned →
        (config.validate = .ok () ↔ 4 ≤ config.maxPacketSize ∧ config.connectAttempts ≠ 0)) ∧
    (∀ table, build assigned = .ok table →
      table.assigned = assigned ∧
      ∀ opcode,
        (∀ operation, table.lookup opcode = .ok operation ↔
          operation ∈ Operation.all ∧ table.opcodeOf operation = opcode) ∧
        (table.lookup opcode = .error (.unknownOpcode opcode) ↔
          ∀ operation ∈ Operation.all, table.opcodeOf operation ≠ opcode)) ∧
    build {} = .ok standard := by
  have free : (∃ table, build assigned = .ok table) ↔ assigned.IsFree :=
    exists_build_iff.trans Operation.nodup_opcodes_iff
  refine ⟨free, ?_, ?_, rfl⟩
  · intro built config chosen
    subst chosen
    rw [Config.validate_eq_ok_iff]
    exact and_iff_right (free.mp built).apart
  · intro table built
    refine ⟨(build_eq_ok built).1, fun opcode => ⟨fun operation => lookup_eq_ok_iff built, ?_⟩⟩
    constructor
    · intro unknown operation member same
      cases unknown.symm.trans ((lookup_eq_ok_iff built).mpr ⟨member, same⟩)
    · intro unused
      cases found : table.lookup opcode with
      | error cause => rw [lookup_eq_error found]
      | ok operation =>
        obtain ⟨member, same⟩ := (lookup_eq_ok_iff built).mp found
        exact absurd same (unused operation member)

/-- A deployment that gives an opcode of the scheme to the simulation, and one that wants the opcode
of the persons for the user interface. -/
theorem build_and_lookup_reused :
    (∃ table, build ⟨0xc0, 0xcc⟩ = .ok table ∧
      table.lookup 0xc0 = .ok (.set .simulation) ∧
      table.lookup 0xcb = .error (.unknownOpcode 0xcb) ∧
      ({ opcodes := ⟨0xc0, 0xcc⟩ } : Config).validate = .ok ()) ∧
    ¬ ∃ table, build ⟨0xcb, 0xce⟩ = .ok table := by
  have built : ∃ table, build ⟨0xc0, 0xcc⟩ = .ok table := by
    rw [exists_build_iff]
    decide +kernel
  obtain ⟨-, accepts, inverse, -⟩ := build_and_lookup ⟨0xc0, 0xcc⟩
  obtain ⟨free, -, -, -⟩ := build_and_lookup ⟨0xcb, 0xce⟩
  obtain ⟨table, made⟩ := built
  obtain ⟨same, looked⟩ := inverse table made
  refine ⟨⟨table, made, ?_, ?_, ?_⟩, ?_⟩
  · refine ((looked 0xc0).1 _).mpr ⟨by decide, ?_⟩
    rw [opcodeOf, same]
    rfl
  · rw [(looked 0xcb).2]
    intro operation member
    rw [opcodeOf, same]
    revert operation
    decide +kernel
  · exact (accepts ⟨table, made⟩ _ rfl).mpr ⟨by decide, by decide⟩
  · intro built
    exact ((free.mp built).unused (.set .person) (by decide) 0xce fun _ => rfl).2 rfl

end OpcodeTable

end RemoteCrowd
