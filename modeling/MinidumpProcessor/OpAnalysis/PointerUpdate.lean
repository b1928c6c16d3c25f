import MinidumpProcessor.OpAnalysis.Operand

/-!
# Where the instruction pointer goes

`InstructionPointerUpdate::from_instruction`: a CALL or JMP through a register goes to
the register's value, one through memory to the word stored at the operand's address
when the dump holds it, a return to the word at rsp in the thread's stack; the
conditional jumps it lists are left undetermined, and every other opcode is taken not
to move the instruction pointer. `from_instruction_update_source` says where any
address it reports comes from.
-/

namespace MinidumpProcessor

namespace InstructionPointerUpdate

/-- The `rip_update` closure of `from_instruction`. -/
def rip_update (address : U64) : Option InstructionPointerUpdate :=
  some (.Update ⟨address, address == 0, false⟩)

/-- The CALL/JMP arm of `from_instruction`: `assert_eq!(operand_count, 1)`, then
    `operand(0)` through a register or through memory. -/
def call_target (operands : List Operand) (context : MinidumpContext)
    (memory_list : Option UnifiedMemoryList) : Outcome OpAnalysisError (Option InstructionPointerUpdate) :=
  match operands with
  | [.Register reg] => do
    let address ← context.get_regspec reg
    pure (rip_update address)
  | [other_operand] => do
    match ← MemoryAddressInfo.try_from_operand other_operand context with
    | some address_info =>
      match (memory_list.bind (·.memory_at_address address_info.address)).bind
          (·.get_memory_at_address address_info.address) with
      | some address => pure (rip_update address)
      | none => pure none
    | none => pure none
  | _ => .panic (.explicit "call/jmp instruction had incorrect operand count")

/-- The return arm of `from_instruction`: the word at rsp in the thread's stack. -/
def return_target (context : MinidumpContext) (stack_memory : Option MinidumpMemory) :
    Outcome OpAnalysisError (Option InstructionPointerUpdate) :=
  match context.get_regspec .rsp, stack_memory with
  | .ok rsp, some stack =>
    match stack.get_memory_at_address rsp with
    | some address => pure (rip_update address)
    | none => pure none
  | _, _ => pure none

/-- `InstructionPointerUpdate::from_instruction`. -/
def from_instruction (instruction : Instruction) (context : MinidumpContext)
    (memory_list : Option UnifiedMemoryList) (stack_memory : Option MinidumpMemory) :
    Outcome OpAnalysisError (Option InstructionPointerUpdate) :=
  match instruction.opcode with
  | .CALL | .CALLF | .JMP | .JMPF | .JMPE => call_target instruction.operands context memory_list
  | .RETURN | .RETF | .IRET | .IRETD | .IRETQ => return_target context stack_memory
  | .JO | .JNO | .JB | .JNB | .JZ | .JNZ | .JA | .JNA | .JS | .JNS | .JP | .JNP | .JL | .JGE | .JG | .JLE =>
    pure none
  | _ => pure (some .NoUpdate)

/-- What `from_instruction` can do: one of its four arms, the first two with the opcodes
    that select them. -/
theorem from_instruction_cases (i : Instruction) (context : MinidumpContext)
    (memory_list : Option UnifiedMemoryList) (stack_memory : Option MinidumpMemory) :
    (i.opcode ∈ [.CALL, .CALLF, .JMP, .JMPF, .JMPE] ∧
        from_instruction i context memory_list stack_memory = call_target i.operands context memory_list) ∨
      (i.opcode ∈ [.RETURN, .RETF, .IRET, .IRETD, .IRETQ] ∧
        from_instruction i context memory_list stack_memory = return_target context stack_memory) ∨
      from_instruction i context memory_list stack_memory = pure none ∨
      from_instruction i context memory_list stack_memory = pure (some .NoUpdate) := by
  obtain ⟨opcode, operands, size, len⟩ := i
  cases opcode
  all_goals first
    | exact .inr (.inr (.inr rfl))
    | exact .inr (.inr (.inl rfl))
    | exact .inl ⟨by simp, rfl⟩
    | exact .inr (.inl ⟨by simp, rfl⟩)

/-! ## Where a reported address comes from -/

theorem rip_update_eq {address : U64} {info : MemoryAddressInfo} (found : rip_update address = some (.Update info)) :
    info = ⟨address, address = 0, false⟩ := by
  simp [rip_update, Bool.beq_eq_decide_eq] at found
  exact found.symm

theorem call_target_source {operands : List Operand} {context : MinidumpContext}
    {memory_list : Option UnifiedMemoryList} {info : MemoryAddressInfo}
    (found : call_target operands context memory_list = .ok (some (.Update info))) :
    info = ⟨info.address, info.address = 0, false⟩ ∧
      ((∃ reg, operands = [.Register reg] ∧ context.get_register reg.name = some info.address) ∨
       (∃ op slot memory, operands = [op] ∧ OperandAddress context.get_register op = some slot ∧
          memory_list.bind (·.memory_at_address slot.address) = some memory ∧
          memory.get_memory_at_address slot.address = some info.address)) := by
  unfold call_target at found
  split at found
  · rename_i reg
    cases valid : context.get_register reg.name <;> simp [MinidumpContext.get_regspec, valid] at found
    obtain rfl := rip_update_eq found
    exact ⟨rfl, .inl ⟨reg, rfl, valid⟩⟩
  · rename_i op _
    rw [try_from_operand_eq] at found
    cases slot : OperandAddress context.get_register op with
    | none => simp only [slot] at found; split_ifs at found <;> simp at found
    | some slot_info =>
      simp only [slot, Outcome.ok_bind] at found
      cases memory : memory_list.bind (·.memory_at_address slot_info.address) with
      | none => simp [memory] at found
      | some region =>
        cases word : region.get_memory_at_address slot_info.address <;> simp [memory, word] at found
        obtain rfl := rip_update_eq found
        exact ⟨rfl, .inr ⟨op, slot_info, region, rfl, slot, memory, word⟩⟩
  · simp at found

theorem return_target_source {context : MinidumpContext} {stack_memory : Option MinidumpMemory}
    {info : MemoryAddressInfo} (found : return_target context stack_memory = .ok (some (.Update info))) :
    info = ⟨info.address, info.address = 0, false⟩ ∧
      ∃ rsp stack, context.get_register "rsp" = some rsp ∧ stack_memory = some stack ∧
        stack.get_memory_at_address rsp = some info.address := by
  unfold return_target MinidumpContext.get_regspec at found
  cases valid : context.get_register "rsp" with
  | none => simp [RegSpec.rsp, valid] at found
  | some rsp =>
    cases stack_memory with
    | none => simp [RegSpec.rsp, valid] at found
    | some stack =>
      cases word : stack.get_memory_at_address rsp <;> simp [RegSpec.rsp, valid, word] at found
      obtain rfl := rip_update_eq found
      exact ⟨rfl, rsp, stack, rfl, rfl, word⟩

/-- A reported address is the register of a register CALL, CALLF, JMP, JMPF or JMPE, the
    word stored at the address of such an opcode's memory operand, or, for RETURN, RETF or
    an IRET, the word at rsp in the stack; its null flag says whether it is zero, and its
    guard-page flag is false. -/
theorem from_instruction_update_source {i : Instruction} {context : MinidumpContext}
    {memory_list : Option UnifiedMemoryList} {stack_memory : Option MinidumpMemory} {info : MemoryAddressInfo}
    (found : from_instruction i context memory_list stack_memory = .ok (some (.Update info))) :
    info = ⟨info.address, info.address = 0, false⟩ ∧
      ((i.opcode ∈ [.CALL, .CALLF, .JMP, .JMPF, .JMPE] ∧
          ∃ reg, i.operands = [.Register reg] ∧ context.get_register reg.name = some info.address) ∨
       (i.opcode ∈ [.CALL, .CALLF, .JMP, .JMPF, .JMPE] ∧
          ∃ op slot memory, i.operands = [op] ∧ OperandAddress context.get_register op = some slot ∧
            memory_list.bind (·.memory_at_address slot.address) = some memory ∧
            memory.get_memory_at_address slot.address = some info.address) ∨
       (i.opcode ∈ [.RETURN, .RETF, .IRET, .IRETD, .IRETQ] ∧
          ∃ rsp stack, context.get_register "rsp" = some rsp ∧ stack_memory = some stack ∧
            stack.get_memory_at_address rsp = some info.address)) := by
  rcases from_instruction_cases i context memory_list stack_memory with ⟨call, arm⟩ | ⟨ret, arm⟩ | arm | arm <;>
    rw [arm] at found
  · obtain ⟨flags, source⟩ := call_target_source found
    exact ⟨flags, source.imp (⟨call, ·⟩) (.inl ⟨call, ·⟩)⟩
  · obtain ⟨flags, source⟩ := return_target_source found
    exact ⟨flags, .inr (.inr ⟨ret, source⟩)⟩
  all_goals simp at found

/-! ## When it panics -/

/-- The CALL/JMP arm panics only in its operand-count assertion. -/
theorem call_target_panic {operands : List Operand} {context : MinidumpContext}
    {memory_list : Option UnifiedMemoryList} {p : Panic} (panics : call_target operands context memory_list = .panic p) :
    operands.length ≠ 1 ∧ p = .explicit "call/jmp instruction had incorrect operand count" := by
  unfold call_target at panics
  split at panics
  · rename_i reg
    cases valid : context.get_register reg.name <;> simp [MinidumpContext.get_regspec, valid] at panics
  · rcases Outcome.bind_eq_panic.mp panics with parsed | ⟨_, -, read⟩
    · rw [try_from_operand_eq] at parsed
      split at parsed
      · cases parsed
      · split_ifs at parsed
    · repeat' split at read
      all_goals cases read
  · rename_i not_single
    cases panics
    exact ⟨fun single => let ⟨op, one⟩ := List.length_eq_one.mp single; not_single op one, rfl⟩

theorem return_target_no_panic (context : MinidumpContext) (stack_memory : Option MinidumpMemory) (p : Panic) :
    return_target context stack_memory ≠ .panic p := by
  unfold return_target
  split
  · split <;> simp
  · simp

/-- `from_instruction` panics only for a CALL or JMP whose operand count is not one. -/
theorem from_instruction_panic {i : Instruction} {context : MinidumpContext}
    {memory_list : Option UnifiedMemoryList} {stack_memory : Option MinidumpMemory} {p : Panic}
    (panics : from_instruction i context memory_list stack_memory = .panic p) :
    i.opcode ∈ [.CALL, .CALLF, .JMP, .JMPF, .JMPE] ∧ i.operands.length ≠ 1 ∧
      p = .explicit "call/jmp instruction had incorrect operand count" := by
  obtain ⟨opcode, operands, size, len⟩ := i
  cases opcode <;> simp only [from_instruction] at panics
  all_goals first
    | cases panics
    | exact ⟨by simp, call_target_panic panics⟩
    | exact absurd panics (return_target_no_panic context stack_memory p)

end InstructionPointerUpdate

end MinidumpProcessor
