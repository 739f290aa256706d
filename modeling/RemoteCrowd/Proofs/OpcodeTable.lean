import RemoteCrowd.Command.OpcodeTable
import RemoteCrowd.Proofs.Result

/-!
The table of opcodes. A table that could be built enters every operation of the protocol
under its own opcode, so looking an opcode up and asking for the opcode of an operation are
inverse to each other on the operations of the protocol.
-/

namespace RemoteCrowd.OpcodeTable

/-- What the table holds for an operation. -/
private def entry (assigned : AssignedOpcodes) (operation : Operation) : UInt8 × Operation :=
  (operation.opcode assigned, operation)

private theorem find?_eq_none_iff {entries : List (UInt8 × Operation)} {opcode : UInt8} :
    find? entries opcode = none ↔ opcode ∉ entries.map Prod.fst := by
  simp only [find?, Option.map_eq_none_iff, List.find?_eq_none, List.mem_map, beq_iff_eq]
  constructor
  · intro free formed
    obtain ⟨taken, member, same⟩ := formed
    exact free taken member same
  · intro free taken member same
    exact free ⟨taken, member, same⟩

/-- Where no opcode is entered twice, a look-up finds whatever is entered. -/
private theorem find?_eq_some_iff {entries : List (UInt8 × Operation)}
    (distinct : (entries.map Prod.fst).Nodup) {opcode : UInt8} {operation : Operation} :
    find? entries opcode = some operation ↔ (opcode, operation) ∈ entries := by
  induction entries with
  | nil => simp [find?]
  | cons first rest ih =>
    rw [List.map_cons, List.nodup_cons] at distinct
    by_cases here : first.1 = opcode
    · have absent : (opcode, operation) ∉ rest := fun member =>
        distinct.1 (here ▸ List.mem_map.mpr ⟨_, member, rfl⟩)
      obtain ⟨key, found⟩ := first
      subst here
      simp [find?, absent, eq_comm]
    · have other : (opcode, operation) ≠ first := fun same => here (same ▸ rfl)
      have later := ih distinct.2
      simp only [find?] at later ⊢
      simp [here, later, other]

/-- Entering succeeds without touching what was entered before, and only where every opcode
was free. -/
private theorem enter_eq_ok {assigned : AssignedOpcodes} {entries result : List (UInt8 × Operation)}
    {operations : List Operation} (entered : enter assigned entries operations = .ok result)
    (distinct : (entries.map Prod.fst).Nodup) :
    result = entries ++ operations.map (entry assigned) ∧ (result.map Prod.fst).Nodup := by
  induction operations generalizing entries with
  | nil =>
    obtain rfl := Except.ok.inj entered
    exact ⟨(List.append_nil _).symm, distinct⟩
  | cons operation rest ih =>
    unfold enter at entered
    simp only at entered
    split at entered
    · cases entered
    · next free =>
      have longer : ((entries ++ [entry assigned operation]).map Prod.fst).Nodup := by
        rw [List.map_append, List.nodup_append]
        refine ⟨distinct, by simp, ?_⟩
        intro taken member _ only same
        subst same
        rw [List.map_singleton, List.mem_singleton] at only
        rw [only] at member
        exact find?_eq_none_iff.mp free member
      obtain ⟨rfl, distinct'⟩ := ih entered longer
      exact ⟨by rw [List.append_assoc]; rfl, distinct'⟩

/-- Entering succeeds where every opcode is free, also among those that are yet to come. -/
private theorem exists_enter {assigned : AssignedOpcodes} {entries : List (UInt8 × Operation)}
    {operations : List Operation}
    (distinct : ((entries ++ operations.map (entry assigned)).map Prod.fst).Nodup) :
    ∃ result, enter assigned entries operations = .ok result := by
  induction operations generalizing entries with
  | nil => exact ⟨entries, rfl⟩
  | cons operation rest ih =>
    rw [List.map_cons, List.append_cons] at distinct
    have free : find? entries (operation.opcode assigned) = none := by
      rw [find?_eq_none_iff]
      rw [List.map_append, List.map_append, List.nodup_append, List.nodup_append] at distinct
      intro taken
      exact distinct.1.2.2 _ taken _ (List.mem_singleton.mpr rfl) rfl
    obtain ⟨result, entered⟩ := ih distinct
    refine ⟨result, ?_⟩
    rw [enter, free]
    exact entered

variable {assigned : AssignedOpcodes} {table : OpcodeTable}

theorem build_eq_ok (built : build assigned = .ok table) :
    table.assigned = assigned ∧ table.entries = Operation.all.map (entry assigned) ∧
      (table.entries.map Prod.fst).Nodup := by
  obtain ⟨entries, entered, made⟩ := bind_eq_ok_iff.mp built
  obtain rfl := Except.ok.inj made
  obtain ⟨rfl, distinct⟩ := enter_eq_ok entered (by simp)
  exact ⟨rfl, rfl, distinct⟩

/-- There is a table for an assignment just when no two operations share an opcode under it. -/
theorem exists_build_iff :
    (∃ table, build assigned = .ok table) ↔
      (Operation.all.map (Operation.opcode assigned)).Nodup := by
  have opcodes : (Operation.all.map (entry assigned)).map Prod.fst =
      Operation.all.map (Operation.opcode assigned) := List.map_map
  rw [← opcodes]
  constructor
  · intro built
    obtain ⟨table, built⟩ := built
    obtain ⟨-, entered, distinct⟩ := build_eq_ok built
    exact entered ▸ distinct
  · intro distinct
    rw [← List.nil_append (Operation.all.map (entry assigned))] at distinct
    obtain ⟨entries, entered⟩ := exists_enter distinct
    exact ⟨⟨assigned, entries⟩, bind_eq_ok_iff.mpr ⟨entries, entered, rfl⟩⟩

/-- Looking an opcode up gives the operation of the protocol that has this opcode. -/
theorem lookup_eq_ok_iff (built : build assigned = .ok table) {opcode : UInt8}
    {operation : Operation} :
    table.lookup opcode = .ok operation ↔
      operation ∈ Operation.all ∧ table.opcodeOf operation = opcode := by
  obtain ⟨rfl, entered, distinct⟩ := build_eq_ok built
  have found : table.lookup opcode = .ok operation ↔
      find? table.entries opcode = some operation := by
    unfold lookup
    split
    · next known => rw [known, Except.ok.injEq, Option.some.injEq]
    · next unknown => simp [unknown]
  rw [found, find?_eq_some_iff distinct, entered, List.mem_map]
  constructor
  · intro formed
    obtain ⟨known, member, same⟩ := formed
    obtain ⟨rfl, rfl⟩ := Prod.mk.inj same
    exact ⟨member, rfl⟩
  · intro formed
    obtain ⟨member, rfl⟩ := formed
    exact ⟨operation, member, rfl⟩

/-- A look-up fails only because the opcode stands for nothing. -/
theorem lookup_eq_error {opcode : UInt8} {cause : Error}
    (failed : table.lookup opcode = .error cause) : cause = .unknownOpcode opcode := by
  unfold lookup at failed
  split at failed
  · cases failed
  · exact (Except.error.inj failed).symm

theorem lookup_opcodeOf (built : build assigned = .ok table) {operation : Operation}
    (member : operation ∈ Operation.all) :
    table.lookup (table.opcodeOf operation) = .ok operation :=
  (lookup_eq_ok_iff built).mpr ⟨member, rfl⟩

end RemoteCrowd.OpcodeTable
