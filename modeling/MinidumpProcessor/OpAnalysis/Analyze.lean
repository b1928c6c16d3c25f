import MinidumpProcessor.OpAnalysis.Access
import MinidumpProcessor.OpAnalysis.PointerUpdate

/-!
# Analysing a thread's instruction

`analyze_thread_context` reads the bytes at the thread's instruction pointer from the
memory list, and for an amd64 context `analyze_instruction` decodes them and gathers
the access list, the pointer update and the registers read. The access list and the
pointer update each have their `Err` logged and replaced by `None`, while a panic in
either unwinds through the whole analysis (`analyze_instruction_of_decoded`).
-/

namespace MinidumpProcessor

/-- `decode_instruction`: bytes that end inside the instruction are `InstructionTruncated`. -/
def decode_instruction (D : Disassembler) (bytes : List U8) : Outcome OpAnalysisError Instruction :=
  match D.decode_slice bytes with
  | .ok instruction => .ok instruction
  | .error .ExhaustedInput => .err .InstructionTruncated
  | .error e => .err (.DecodeFailed e)

def is_access_derivable (opcode : Opcode) : Bool :=
  (AccessDerivableOpcode.from_opcode opcode).isSome

/-- `InstructionProperties::is_division`. -/
def is_division (instruction : Instruction) : Bool :=
  match instruction.opcode with
  | .DIV | .IDIV => true
  | _ => false

/-- `InstructionProperties::is_privileged`. -/
def is_privileged (instruction : Instruction) : Bool :=
  match instruction.opcode with
  | .CLI | .CLTS | .HLT | .IN | .INS | .INT | .INTO | .INVD | .INVEPT | .INVLPG | .INVVPID
  | .IRET | .IRETD | .IRETQ | .LGDT | .LIDT | .LLDT | .LMSW | .LTR | .MONITOR | .MOV | .MWAIT
  | .OUT | .OUTS | .RDMSR | .RDPMC | .RDTSC | .RDTSCP | .RETF | .STI | .SWAPGS | .SYSEXIT | .SYSRET
  | .VMCALL | .VMCLEAR | .VMLAUNCH | .VMPTRLD | .VMPTRST | .VMREAD | .VMRESUME | .VMWRITE | .VMXOFF
  | .VMXON | .WBINVD | .WRMSR | .XSETBV => true
  | _ => false

/-- `InstructionProperties::is_only_gpf_when_non_canonical`: false off the whitelist, since
    only derived accesses can be checked for consistency. -/
def is_only_gpf_when_non_canonical (instruction : Instruction) : Bool :=
  match AccessDerivableOpcode.from_opcode instruction.opcode with
  | none => false
  | some .MOVAPS => false
  | some _ => true

def InstructionProperties.from_instruction (instruction : Instruction) : InstructionProperties where
  is_access_derivable := MinidumpProcessor.is_access_derivable instruction.opcode
  is_division := MinidumpProcessor.is_division instruction
  is_privileged := MinidumpProcessor.is_privileged instruction
  is_only_gpf_when_non_canonical := MinidumpProcessor.is_only_gpf_when_non_canonical instruction

/-- `amd64::analyze_instruction`. -/
def analyze_instruction (D : Disassembler) (context : MinidumpContext) (instruction_bytes : List U8)
    (memory_list : Option UnifiedMemoryList) (stack_memory : Option MinidumpMemory) :
    Outcome OpAnalysisError OpAnalysis := do
  let decoded_instruction ← decode_instruction D instruction_bytes
  let instruction_str := D.to_string decoded_instruction
  let instruction_properties := InstructionProperties.from_instruction decoded_instruction
  let memory_access_list ← (MemoryAccessList.from_instruction decoded_instruction context).toOption
  let instruction_pointer_update ←
    (InstructionPointerUpdate.from_instruction decoded_instruction context memory_list stack_memory).toOption
  let registers := get_registers decoded_instruction
  pure { instruction_str, instruction_properties, memory_access_list,
         instruction_pointer_update := instruction_pointer_update.join, registers }

/-- `get_thread_instruction_bytes`: the bytes from the instruction pointer to the end of
    the region holding it. -/
def get_thread_instruction_bytes (context : MinidumpContext) (memory_list : UnifiedMemoryList) :
    Outcome OpAnalysisError (List U8) :=
  match memory_list.memory_at_address context.instruction_pointer with
  | some memory => do
    let offset ← sub_or_panic context.instruction_pointer memory.base_address
    slice_from memory.bytes offset.toNat
  | none => .err .ReadThreadInstructionFailed

/-- `analyze_thread_context`, with the `disasm_amd64` feature on. -/
def analyze_thread_context (D : Disassembler) (context : MinidumpContext) (memory_list : UnifiedMemoryList)
    (stack_memory : Option MinidumpMemory) : Outcome OpAnalysisError OpAnalysis := do
  let instruction_bytes ← get_thread_instruction_bytes context memory_list
  match context.raw with
  | .Amd64 => analyze_instruction D context instruction_bytes (some memory_list) stack_memory
  | _ => .err .UnsupportedCpuArch

/-! ## The analysis of a decoded instruction -/

/-- The decoder's errors become `Err`s, so decoding never panics, and it returns only the
    decoder's instruction. -/
theorem decode_instruction_no_panic (D : Disassembler) (bytes : List U8) (p : Panic) :
    decode_instruction D bytes ≠ .panic p := by
  unfold decode_instruction
  split <;> simp

theorem decode_instruction_eq_ok {D : Disassembler} {bytes : List U8} {i : Instruction}
    (decoded : decode_instruction D bytes = .ok i) : D.decode_slice bytes = .ok i := by
  unfold decode_instruction at decoded
  split at decoded <;> simp_all

section Decoded

variable {D : Disassembler} {bytes : List U8} {i : Instruction} {context : MinidumpContext}
  {memory_list : Option UnifiedMemoryList} {stack_memory : Option MinidumpMemory}

/-- Once the bytes decode, the analysis is the access list and then the pointer update,
    each with its `Err` dropped. -/
theorem analyze_instruction_of_decoded (decoded : D.decode_slice bytes = .ok i) :
    analyze_instruction D context bytes memory_list stack_memory = (do
      let memory_access_list ← (MemoryAccessList.from_instruction i context).toOption
      let update ← (InstructionPointerUpdate.from_instruction i context memory_list stack_memory).toOption
      pure ⟨D.to_string i, InstructionProperties.from_instruction i, memory_access_list, update.join, get_registers i⟩) := by
  simp [analyze_instruction, decode_instruction, decoded]

/-- What a returned analysis holds: the access list, `None` exactly when it failed with an
    `Err`, the pointer update and the registers of the decoded instruction. -/
theorem analyze_instruction_fields {a : OpAnalysis} (decoded : D.decode_slice bytes = .ok i)
    (analysed : analyze_instruction D context bytes memory_list stack_memory = .ok a) :
    (MemoryAccessList.from_instruction i context).toOption = .ok a.memory_access_list ∧
      (∃ update, (InstructionPointerUpdate.from_instruction i context memory_list stack_memory).toOption = .ok update ∧
        a.instruction_pointer_update = update.join) ∧
      a.registers = get_registers i := by
  rw [analyze_instruction_of_decoded decoded] at analysed
  obtain ⟨list, listed, analysed⟩ := Outcome.bind_eq_ok.mp analysed
  obtain ⟨update, updated, analysed⟩ := Outcome.bind_eq_ok.mp analysed
  cases analysed
  exact ⟨listed, ⟨update, updated, rfl⟩, rfl⟩

/-- The analysis returns when neither the access list nor the pointer update panics. -/
theorem analyze_instruction_returns (decoded : D.decode_slice bytes = .ok i)
    (listed : ∀ p, MemoryAccessList.from_instruction i context ≠ .panic p)
    (updated : ∀ p, InstructionPointerUpdate.from_instruction i context memory_list stack_memory ≠ .panic p) :
    ∃ a, analyze_instruction D context bytes memory_list stack_memory = .ok a ∧
      (MemoryAccessList.from_instruction i context).toOption = .ok a.memory_access_list ∧
      (∃ update, (InstructionPointerUpdate.from_instruction i context memory_list stack_memory).toOption = .ok update ∧
        a.instruction_pointer_update = update.join) := by
  obtain ⟨list, listed⟩ := Outcome.toOption_returns listed
  obtain ⟨update, updated⟩ := Outcome.toOption_returns updated
  refine ⟨⟨D.to_string i, InstructionProperties.from_instruction i, list, update.join, get_registers i⟩, ?_,
    listed, update, updated, rfl⟩
  rw [analyze_instruction_of_decoded decoded, listed, updated]
  rfl

/-- A panic in the access list unwinds through the analysis. -/
theorem analyze_instruction_panic {p : Panic} (decoded : D.decode_slice bytes = .ok i)
    (panics : MemoryAccessList.from_instruction i context = .panic p) :
    analyze_instruction D context bytes memory_list stack_memory = .panic p := by
  rw [analyze_instruction_of_decoded decoded, panics]
  rfl

/-- A panic of the analysis is one of the access list or, once that returned, one of the
    pointer update, for bytes that decode. -/
theorem analyze_instruction_panic_source {p : Panic}
    (panics : analyze_instruction D context bytes memory_list stack_memory = .panic p) :
    ∃ instruction, D.decode_slice bytes = .ok instruction ∧
      (MemoryAccessList.from_instruction instruction context = .panic p ∨
        InstructionPointerUpdate.from_instruction instruction context memory_list stack_memory = .panic p) := by
  obtain ⟨instruction, decoded⟩ : ∃ instruction, D.decode_slice bytes = .ok instruction := by
    rcases Outcome.bind_eq_panic.mp panics with decoding | ⟨instruction, decoding, -⟩
    · exact absurd decoding (decode_instruction_no_panic D bytes p)
    · exact ⟨instruction, decode_instruction_eq_ok decoding⟩
  rw [analyze_instruction_of_decoded decoded] at panics
  refine ⟨instruction, decoded, ?_⟩
  rcases Outcome.bind_eq_panic.mp panics with listed | ⟨_, -, panics⟩
  · exact .inl (Outcome.toOption_eq_panic.mp listed)
  · rcases Outcome.bind_eq_panic.mp panics with updated | ⟨_, -, returned⟩
    · exact .inr (Outcome.toOption_eq_panic.mp updated)
    · cases returned

/-- The analysis returns an `Err` only when decoding fails: the access list's and the
    pointer update's are logged and dropped. -/
theorem analyze_instruction_eq_err {e : OpAnalysisError} :
    analyze_instruction D context bytes memory_list stack_memory = .err e ↔ decode_instruction D bytes = .err e := by
  cases decoding : decode_instruction D bytes with
  | ok i =>
    rw [analyze_instruction_of_decoded (decode_instruction_eq_ok decoding)]
    simp [Outcome.bind_eq_err]
  | err _ => simp [analyze_instruction, decoding]
  | panic p => exact absurd decoding (decode_instruction_no_panic D bytes p)

/-- A returned analysis of an instruction whose registers are valid has an access list,
    and its entries have a direction exactly when the opcode is whitelisted. -/
theorem analyze_instruction_access_types {a : OpAnalysis} (decoded : D.decode_slice bytes = .ok i)
    (admitted : MemoryOperandsAdmitted i) (valid : ∀ name ∈ get_registers i, (context.get_register name).isSome)
    (analysed : analyze_instruction D context bytes memory_list stack_memory = .ok a) :
    ∃ list, a.memory_access_list = some list ∧
      ∀ access ∈ list.accesses, access.access_type.is_read_or_write = is_access_derivable i.opcode := by
  have listed := (analyze_instruction_fields decoded analysed).1
  rcases MemoryAccessList.from_instruction_progress admitted valid with ⟨list, walked⟩ | ⟨panics, -⟩
  · rw [walked, Outcome.toOption_ok, Outcome.ok.injEq] at listed
    exact ⟨list, listed.symm, MemoryAccessList.from_instruction_access_types admitted walked⟩
  · simp [analyze_instruction_panic decoded panics] at analysed

theorem mov_base_index_scale_disp_directions :
    ∃ a, analyze_instruction (.decoding ⟨.MOV, [.Register .rax, .MemBaseIndexScaleDisp .r9 .rbx 8 0xfffffff0],
        some ⟨some 8⟩, 5⟩ "mov rax, qword [r9 + rbx * 8 - 0x10]")
        ⟨.Amd64, 0x4000, fun name => [("r9", 0x1000), ("rbx", 0x100)].lookup name⟩ [0x49, 0x8b, 0x44, 0xd9, 0xf0]
        none none = .ok a ∧
      ∃ list, a.memory_access_list = some list ∧
        ∀ access ∈ list.accesses, access.access_type.is_read_or_write = is_access_derivable .MOV :=
  ⟨_, rfl, @analyze_instruction_access_types (.decoding ⟨.MOV, [.Register .rax,
    .MemBaseIndexScaleDisp .r9 .rbx 8 0xfffffff0], some ⟨some 8⟩, 5⟩ "mov rax, qword [r9 + rbx * 8 - 0x10]")
    [0x49, 0x8b, 0x44, 0xd9, 0xf0] _ ⟨.Amd64, 0x4000, fun name => [("r9", 0x1000), ("rbx", 0x100)].lookup name⟩
    none none _ rfl (by decide) (by decide) rfl⟩

/-- For a whitelisted opcode, a recorded access list is the direction table applied to the
    operands, each memory operand at the integer sum of its parts mod 2^64 with the
    instruction's access size, followed by the stack access; and no memory operand that
    has a direction is missing from it. -/
theorem analyze_instruction_derivable_accesses {a : OpAnalysis} {opcode : AccessDerivableOpcode}
    {size : MemoryAccessSize} {list : MemoryAccessList} (decoded : D.decode_slice bytes = .ok i)
    (whitelisted : AccessDerivableOpcode.from_opcode i.opcode = some opcode) (shape : DecodedShape i)
    (sized : i.mem_size = some size) (analysed : analyze_instruction D context bytes memory_list stack_memory = .ok a)
    (recorded : a.memory_access_list = some list) :
    list.accesses = ExplicitAccesses context.get_register size.bytes_size (ExplicitAccessType opcode) i.operands ++
        ImplicitAccesses (context.get_register "rsp") size.bytes_size opcode ∧
      ∀ idx op, (idx, op) ∈ i.operands.enum → op.is_memory → (ExplicitAccessType opcode idx).isSome →
        (OperandAddress context.get_register op).isSome := by
  have listed := (analyze_instruction_fields decoded analysed).1
  rw [recorded, Outcome.toOption_eq_ok_some] at listed
  exact ⟨MemoryAccessList.from_instruction_derivable whitelisted (shape.admitted opcode whitelisted) sized listed,
    MemoryAccessList.from_instruction_addressed whitelisted shape sized listed⟩

/-- `mov rax, qword [r9 + rbx * 8 - 0x10]` (49 8b 44 d9 f0) with r9 = 0x1000 and rbx = 0x100
    reads at 0x17f0. -/
theorem mov_base_index_scale_disp_read :
    ∃ a list, analyze_instruction (.decoding ⟨.MOV, [.Register .rax, .MemBaseIndexScaleDisp .r9 .rbx 8 0xfffffff0],
        some ⟨some 8⟩, 5⟩ "mov rax, qword [r9 + rbx * 8 - 0x10]")
        ⟨.Amd64, 0x4000, fun name => [("r9", 0x1000), ("rbx", 0x100)].lookup name⟩ [0x49, 0x8b, 0x44, 0xd9, 0xf0]
        none none = .ok a ∧
      a.memory_access_list = some list ∧ list.accesses = [⟨⟨0x17f0, false, false⟩, some 8, .Read⟩] :=
  ⟨_, _, rfl, rfl, (@analyze_instruction_derivable_accesses (.decoding ⟨.MOV, [.Register .rax,
    .MemBaseIndexScaleDisp .r9 .rbx 8 0xfffffff0], some ⟨some 8⟩, 5⟩ "mov rax, qword [r9 + rbx * 8 - 0x10]")
    [0x49, 0x8b, 0x44, 0xd9, 0xf0] _ ⟨.Amd64, 0x4000, fun name => [("r9", 0x1000), ("rbx", 0x100)].lookup name⟩
    none none _ _ _ _ rfl rfl (by decide) rfl rfl rfl).1.trans (by decide)⟩

/-- PUSH and CALL also write at `rsp - 8`, after their explicit operands: with a valid rsp
    below 8 that unsigned subtraction panics, so for every such instruction the decoder
    produces, with every register it reads valid, the analysis records no entry at all,
    not even for its explicit memory operands. -/
theorem analyze_instruction_stack_write_panics {opcode : AccessDerivableOpcode} {size : MemoryAccessSize}
    {rsp : U64} (decoded : D.decode_slice bytes = .ok i)
    (whitelisted : AccessDerivableOpcode.from_opcode i.opcode = some opcode)
    (stack_write : opcode = .PUSH ∨ opcode = .CALL) (shape : DecodedShape i) (sized : i.mem_size = some size)
    (valid : ∀ name ∈ get_registers i, (context.get_register name).isSome)
    (stack : context.get_register "rsp" = some rsp) (below : rsp < 8) :
    analyze_instruction D context bytes memory_list stack_memory = .panic .subtractOverflow :=
  analyze_instruction_panic decoded (MemoryAccessList.from_instruction_stack_underflow whitelisted stack_write sized
    shape.admitted valid stack below)

/-- `push qword [rax]` (ff 30) with rax = 0x2000 and rsp = 7: the operand's base is valid and
    not rip, yet no entry is recorded for it. -/
theorem push_rax_rsp_seven_records_nothing :
    analyze_instruction (.decoding ⟨.PUSH, [.MemDeref .rax], some ⟨some 8⟩, 2⟩ "push qword [rax]")
      ⟨.Amd64, 0x1000, fun name => [("rax", 0x2000), ("rsp", 7)].lookup name⟩ [0xff, 0x30] none none =
      .panic .subtractOverflow :=
  @analyze_instruction_stack_write_panics (.decoding ⟨.PUSH, [.MemDeref .rax], some ⟨some 8⟩, 2⟩ "push qword [rax]")
    [0xff, 0x30] _ ⟨.Amd64, 0x1000, fun name => [("rax", 0x2000), ("rsp", 7)].lookup name⟩ none none .PUSH ⟨some 8⟩ 7
    rfl rfl (.inl rfl) (by decide) rfl (by decide) rfl (by decide)

/-- A reported pointer update comes from the register of a register CALL, CALLF, JMP, JMPF
    or JMPE, the word at the address of such an opcode's memory operand, or, for RETURN, RETF
    or an IRET, the word at rsp in the stack; it is flagged null exactly at address 0 and is
    never flagged as a guard page. -/
theorem analyze_instruction_update_source {a : OpAnalysis} {info : MemoryAddressInfo}
    (decoded : D.decode_slice bytes = .ok i)
    (analysed : analyze_instruction D context bytes memory_list stack_memory = .ok a)
    (reported : a.instruction_pointer_update = some (.Update info)) :
    info = ⟨info.address, info.address = 0, false⟩ ∧
      ((i.opcode ∈ [.CALL, .CALLF, .JMP, .JMPF, .JMPE] ∧
          ∃ reg, i.operands = [.Register reg] ∧ context.get_register reg.name = some info.address) ∨
       (i.opcode ∈ [.CALL, .CALLF, .JMP, .JMPF, .JMPE] ∧
          ∃ op slot memory, i.operands = [op] ∧ OperandAddress context.get_register op = some slot ∧
            memory_list.bind (·.memory_at_address slot.address) = some memory ∧
            memory.get_memory_at_address slot.address = some info.address) ∨
       (i.opcode ∈ [.RETURN, .RETF, .IRET, .IRETD, .IRETQ] ∧
          ∃ rsp stack, context.get_register "rsp" = some rsp ∧ stack_memory = some stack ∧
            stack.get_memory_at_address rsp = some info.address)) := by
  obtain ⟨-, ⟨update, updated, joined⟩, -⟩ := analyze_instruction_fields decoded analysed
  rw [reported, eq_comm, Option.join_eq_some] at joined
  rw [joined, Outcome.toOption_eq_ok_some] at updated
  exact InstructionPointerUpdate.from_instruction_update_source updated

/-- `ret` (c3) with rsp = 0x8000 over a stack whose word at 0x8000 is 0x1000: the update is
    to 0x1000, read at rsp. -/
theorem ret_update_from_stack :
    ∃ a info, analyze_instruction (.decoding ⟨.RETURN, [], some ⟨some 8⟩, 1⟩ "ret")
        ⟨.Amd64, 0x2000, fun name => [("rsp", 0x8000)].lookup name⟩ [0xc3] none
        (some ⟨0x8000, [0, 0x10, 0, 0, 0, 0, 0, 0]⟩) = .ok a ∧
      a.instruction_pointer_update = some (.Update info) ∧ info = ⟨info.address, info.address = 0, false⟩ ∧
      MinidumpMemory.get_memory_at_address ⟨0x8000, [0, 0x10, 0, 0, 0, 0, 0, 0]⟩ 0x8000 = some info.address := by
  refine ⟨_, _, rfl, rfl, ?_⟩
  obtain ⟨flags, ⟨_, _, ⟨⟩, _⟩ | ⟨_, _, _, _, ⟨⟩, _⟩ | ⟨-, _, _, ⟨⟩, ⟨⟩, word⟩⟩ :=
    @analyze_instruction_update_source (.decoding ⟨.RETURN, [], some ⟨some 8⟩, 1⟩ "ret") [0xc3] _
      ⟨.Amd64, 0x2000, fun name => [("rsp", 0x8000)].lookup name⟩ none (some ⟨0x8000, [0, 0x10, 0, 0, 0, 0, 0, 0]⟩)
      _ _ rfl rfl rfl
  exact ⟨flags, word⟩

end Decoded

/-! ## Reading the instruction's bytes -/

/-- The offset `ip - base` is taken only of the region that holds the instruction pointer,
    so neither it nor the slice can panic. -/
theorem get_thread_instruction_bytes_eq (context : MinidumpContext) (memory_list : UnifiedMemoryList) :
    get_thread_instruction_bytes context memory_list =
      match memory_list.memory_at_address context.instruction_pointer with
      | some memory => .ok (memory.bytes.drop (context.instruction_pointer - memory.base_address).toNat)
      | none => .err .ReadThreadInstructionFailed := by
  unfold get_thread_instruction_bytes
  cases found : memory_list.memory_at_address context.instruction_pointer with
  | none => rfl
  | some memory =>
    obtain ⟨above, within⟩ := UnifiedMemoryList.memory_at_address_contains found
    have offset : (context.instruction_pointer - memory.base_address).toNat ≤ memory.bytes.length := by
      rw [BitVec.toNat_sub_of_le above]
      omega
    simp only [sub_or_panic_ok above, Outcome.ok_bind, slice_from, if_pos offset]

/-- Reading a thread's instruction bytes never panics, and fails only when no region holds
    the instruction pointer. Otherwise it returns the bytes from the instruction pointer to
    the end of that region: at least the one at the instruction pointer, and all the rest
    of the region, not at most `MAX_INSTRUCTION_LENGTH` of them as its comment says. -/
theorem get_thread_instruction_bytes_outcome (context : MinidumpContext) (memory_list : UnifiedMemoryList) :
    (∀ p, get_thread_instruction_bytes context memory_list ≠ .panic p) ∧
      (∀ e, get_thread_instruction_bytes context memory_list = .err e ↔
        memory_list.memory_at_address context.instruction_pointer = none ∧ e = .ReadThreadInstructionFailed) ∧
      ∀ memory, memory_list.memory_at_address context.instruction_pointer = some memory →
        ∃ bytes, get_thread_instruction_bytes context memory_list = .ok bytes ∧ bytes ≠ [] ∧
          bytes = memory.bytes.drop (context.instruction_pointer.toNat - memory.base_address.toNat) := by
  rw [get_thread_instruction_bytes_eq]
  cases found : memory_list.memory_at_address context.instruction_pointer with
  | none => simp [eq_comm]
  | some memory =>
    obtain ⟨above, within⟩ := UnifiedMemoryList.memory_at_address_contains found
    have offset := BitVec.toNat_sub_of_le above
    refine ⟨by simp, by simp, fun region same => ?_⟩
    obtain rfl := Option.some.inj same
    refine ⟨_, rfl, ?_, by rw [offset]⟩
    rw [offset, Ne, List.drop_eq_nil_iff]
    omega

/-! ## The errors a caller sees -/

/-- Each error of `analyze_thread_context` and what produces it: no region holds the
    instruction pointer, the context is not amd64, or the decoder rejects the bytes from the
    instruction pointer to the end of its region. The errors of the access list and of the
    pointer update never reach the caller. -/
theorem analyze_thread_context_eq_err {D : Disassembler} {context : MinidumpContext}
    {memory_list : UnifiedMemoryList} {stack_memory : Option MinidumpMemory} {e : OpAnalysisError} :
    analyze_thread_context D context memory_list stack_memory = .err e ↔
      (memory_list.memory_at_address context.instruction_pointer = none ∧ e = .ReadThreadInstructionFailed) ∨
      ∃ memory, memory_list.memory_at_address context.instruction_pointer = some memory ∧
        (context.raw ≠ .Amd64 ∧ e = .UnsupportedCpuArch ∨
          context.raw = .Amd64 ∧
            decode_instruction D (memory.bytes.drop (context.instruction_pointer - memory.base_address).toNat) =
              .err e) := by
  unfold analyze_thread_context
  rw [get_thread_instruction_bytes_eq]
  cases found : memory_list.memory_at_address context.instruction_pointer with
  | none => simp [eq_comm]
  | some memory =>
    rw [Outcome.ok_bind]
    split
    · rename_i amd64
      simp [amd64, analyze_instruction_eq_err]
    · rename_i other
      simp [show context.raw ≠ .Amd64 from other]
      exact eq_comm

/-! ## When the analysis panics -/

/-- The ways the analysis of a decoded amd64 instruction can panic: a whitelisted opcode
    with a memory operand where its encodings have none (the `panic!` of that opcode's arm
    in the access-type table, with its message), a CALL or JMP without exactly one operand
    (its `assert_eq!`), and PUSH or CALL with a valid rsp below 8 (`rsp - 8`). -/
inductive AnalysisPanic (context : MinidumpContext) (i : Instruction) : Panic → Prop
  | misplaced_memory_operand {opcode : AccessDerivableOpcode} {idx : Nat} {op : Operand} {message : String} :
      AccessDerivableOpcode.from_opcode i.opcode = some opcode → (idx, op) ∈ i.operands.enum → op.is_memory →
      idx ∉ X86MemoryPositions opcode → derivable_access_type opcode idx = .panic (.explicit message) →
      AnalysisPanic context i (.explicit message)
  | call_operand_count :
      i.opcode ∈ [.CALL, .CALLF, .JMP, .JMPF, .JMPE] → i.operands.length ≠ 1 →
      AnalysisPanic context i (.explicit "call/jmp instruction had incorrect operand count")
  | stack_underflow {opcode : AccessDerivableOpcode} {rsp : U64} :
      AccessDerivableOpcode.from_opcode i.opcode = some opcode → (opcode = .PUSH ∨ opcode = .CALL) →
      context.get_register "rsp" = some rsp → rsp < 8 → AnalysisPanic context i .subtractOverflow

/-- The analysis of a thread panics only once the bytes at its instruction pointer are
    read and decode as an amd64 instruction, and then only in one of the ways
    `AnalysisPanic` lists: reading the bytes, another architecture and the decoder never
    panic. -/
theorem analyze_thread_context_panic_cause {D : Disassembler} {context : MinidumpContext}
    {memory_list : UnifiedMemoryList} {stack_memory : Option MinidumpMemory} {p : Panic}
    (panics : analyze_thread_context D context memory_list stack_memory = .panic p) :
    ∃ bytes i, get_thread_instruction_bytes context memory_list = .ok bytes ∧ context.raw = .Amd64 ∧
      D.decode_slice bytes = .ok i ∧ AnalysisPanic context i p := by
  unfold analyze_thread_context at panics
  rcases Outcome.bind_eq_panic.mp panics with read | ⟨bytes, read, analysed⟩
  · rw [get_thread_instruction_bytes_eq] at read
    split at read <;> cases read
  · split at analysed
    · rename_i amd64
      obtain ⟨i, decoded, source⟩ := analyze_instruction_panic_source analysed
      refine ⟨bytes, i, read, amd64, decoded, ?_⟩
      rcases source with listed | updated
      · rcases MemoryAccessList.from_instruction_panic listed with
          ⟨opcode, idx, op, whitelisted, member, memory, arm⟩ | ⟨rfl, _, whitelisted, stack_write, _, stack, below⟩
        · obtain ⟨misplaced, message, rfl⟩ := MemoryAccessList.derivable_access_type_panic arm
          exact .misplaced_memory_operand whitelisted member memory misplaced arm
        · exact .stack_underflow whitelisted stack_write stack below
      · obtain ⟨call, count, rfl⟩ := InstructionPointerUpdate.from_instruction_panic updated
        exact .call_operand_count call count
    · cases analysed

/-- The panic of `call qword [rax]` with rsp = 4 is the stack write's underflow. -/
theorem call_rsp_four_stack_underflow :
    ∃ bytes i, get_thread_instruction_bytes ⟨.Amd64, 0x1000, fun name => [("rax", 0x2000), ("rsp", 4)].lookup name⟩
        ⟨[⟨0x1000, [0xff, 0x10]⟩]⟩ = .ok bytes ∧ RawContextKind.Amd64 = .Amd64 ∧
      (Disassembler.decoding ⟨.CALL, [.MemDeref .rax], some ⟨some 8⟩, 2⟩ "call qword [rax]").decode_slice bytes =
        .ok i ∧
      AnalysisPanic ⟨.Amd64, 0x1000, fun name => [("rax", 0x2000), ("rsp", 4)].lookup name⟩ i .subtractOverflow :=
  @analyze_thread_context_panic_cause _ _ _ none _ rfl

/-! ## Instructions the analysis gets wrong -/

/-- `push qword [rax]` (ff 30) with rax valid and rsp = 0: the operand sits where PUSH has
    one and every register `get_registers` names is valid, yet `rsp - 8` panics, so the
    analysis returns no access list at all. -/
theorem analyze_instruction_push_rsp_zero (D : Disassembler)
    (decoded : D.decode_slice [0xff, 0x30] = .ok ⟨.PUSH, [.MemDeref .rax], some ⟨some 8⟩, 2⟩) :
    analyze_instruction D ⟨.Amd64, 0x1000, fun name => [("rax", 0x2000), ("rsp", 0)].lookup name⟩ [0xff, 0x30]
      none none = .panic .subtractOverflow :=
  analyze_instruction_panic decoded (MemoryAccessList.from_instruction_stack_underflow rfl (.inl rfl) rfl (by decide)
    (by decide) rfl (by decide))

theorem push_rsp_zero_decoded_panics :
    analyze_instruction (.decoding ⟨.PUSH, [.MemDeref .rax], some ⟨some 8⟩, 2⟩ "push qword [rax]")
      ⟨.Amd64, 0x1000, fun name => [("rax", 0x2000), ("rsp", 0)].lookup name⟩ [0xff, 0x30] none none =
      .panic .subtractOverflow :=
  analyze_instruction_push_rsp_zero _ rfl

/-- `call qword [rax]` (ff 10) at the instruction pointer of an amd64 thread with rsp = 4:
    the bytes are read without panicking, and then `rsp - 8` panics. -/
theorem analyze_thread_context_call_rsp_four (D : Disassembler)
    (decoded : D.decode_slice [0xff, 0x10] = .ok ⟨.CALL, [.MemDeref .rax], some ⟨some 8⟩, 2⟩) :
    analyze_thread_context D ⟨.Amd64, 0x1000, fun name => [("rax", 0x2000), ("rsp", 4)].lookup name⟩
      ⟨[⟨0x1000, [0xff, 0x10]⟩]⟩ none = .panic .subtractOverflow := by
  unfold analyze_thread_context
  rw [get_thread_instruction_bytes_eq]
  exact analyze_instruction_panic decoded (MemoryAccessList.from_instruction_stack_underflow rfl (.inr rfl) rfl
    (by decide) (by decide) rfl (by decide))

theorem call_rsp_four_thread_panics :
    analyze_thread_context (.decoding ⟨.CALL, [.MemDeref .rax], some ⟨some 8⟩, 2⟩ "call qword [rax]")
      ⟨.Amd64, 0x1000, fun name => [("rax", 0x2000), ("rsp", 4)].lookup name⟩ ⟨[⟨0x1000, [0xff, 0x10]⟩]⟩ none =
      .panic .subtractOverflow :=
  analyze_thread_context_call_rsp_four _ rfl

/-- `vmovups zmmword [rax] {k1}, zmm0` (62 f1 7c 49 11 00), a store through a masked
    memory operand: in every context the analysis reports that the instruction touches no
    memory and reads no register. -/
theorem analyze_instruction_masked_store_unrecorded (D : Disassembler) (context : MinidumpContext)
    (decoded : D.decode_slice [0x62, 0xf1, 0x7c, 0x49, 0x11, 0x00] =
      .ok ⟨.VMOVUPS, [.MemDerefMasked .rax .k1, .Register .zmm0], some ⟨some 64⟩, 6⟩) :
    ∃ a, analyze_instruction D context [0x62, 0xf1, 0x7c, 0x49, 0x11, 0x00] none none = .ok a ∧
      a.memory_access_list = some ⟨[]⟩ ∧ a.registers = ∅ := by
  rw [analyze_instruction_of_decoded decoded]
  exact ⟨_, rfl, rfl, rfl⟩

theorem vmovups_masked_store_unrecorded :
    ∃ a, analyze_instruction (.decoding ⟨.VMOVUPS, [.MemDerefMasked .rax .k1, .Register .zmm0], some ⟨some 64⟩, 6⟩
        "vmovups zmmword [rax] {k1}, zmm0") ⟨.Amd64, 0x1000, fun name => [("rax", 0x2000)].lookup name⟩
        [0x62, 0xf1, 0x7c, 0x49, 0x11, 0x00] none none = .ok a ∧
      a.memory_access_list = some ⟨[]⟩ ∧ a.registers = ∅ :=
  analyze_instruction_masked_store_unrecorded _ _ rfl

/-- `call qword [rip + 0x10]` (ff 15 10 00 00 00) at rip = 0x1000: the read is recorded at
    rip + 0x10 and the target is the word stored there, not at the end of the instruction
    (0x1016), where the code's function pointer 0x7000 is. -/
theorem analyze_instruction_rip_relative_call (D : Disassembler)
    (decoded : D.decode_slice [0xff, 0x15, 0x10, 0x00, 0x00, 0x00] = .ok ⟨.CALL, [.Disp .rip 0x10], some ⟨some 8⟩, 6⟩) :
    ∃ a, analyze_instruction D ⟨.Amd64, 0x1000, fun name => [("rip", 0x1000), ("rsp", 0x8000)].lookup name⟩
        [0xff, 0x15, 0x10, 0x00, 0x00, 0x00]
        (some ⟨[⟨0x1000, [0xff, 0x15, 0x10, 0, 0, 0] ++ List.replicate 16 0 ++ [0, 0x70, 0, 0, 0, 0, 0, 0]⟩]⟩) none = .ok a ∧
      a.memory_access_list = some ⟨[⟨⟨0x1010, false, false⟩, some 8, .Read⟩, ⟨⟨0x7ff8, false, false⟩, some 8, .Write⟩]⟩ ∧
      a.instruction_pointer_update = some (.Update ⟨0x7000000000000000, false, false⟩) ∧
      MinidumpMemory.get_memory_at_address
        ⟨0x1000, [0xff, 0x15, 0x10, 0, 0, 0] ++ List.replicate 16 0 ++ [0, 0x70, 0, 0, 0, 0, 0, 0]⟩ (0x1000 + 6 + 0x10) =
        some 0x7000 := by
  rw [analyze_instruction_of_decoded decoded]
  exact ⟨_, rfl, rfl, rfl, rfl⟩

theorem call_rip_relative_reads_rip_plus_disp :
    ∃ a, analyze_instruction (.decoding ⟨.CALL, [.Disp .rip 0x10], some ⟨some 8⟩, 6⟩ "call qword [rip + 0x10]")
        ⟨.Amd64, 0x1000, fun name => [("rip", 0x1000), ("rsp", 0x8000)].lookup name⟩
        [0xff, 0x15, 0x10, 0x00, 0x00, 0x00]
        (some ⟨[⟨0x1000, [0xff, 0x15, 0x10, 0, 0, 0] ++ List.replicate 16 0 ++ [0, 0x70, 0, 0, 0, 0, 0, 0]⟩]⟩) none = .ok a ∧
      a.memory_access_list = some ⟨[⟨⟨0x1010, false, false⟩, some 8, .Read⟩, ⟨⟨0x7ff8, false, false⟩, some 8, .Write⟩]⟩ ∧
      a.instruction_pointer_update = some (.Update ⟨0x7000000000000000, false, false⟩) ∧
      MinidumpMemory.get_memory_at_address
        ⟨0x1000, [0xff, 0x15, 0x10, 0, 0, 0] ++ List.replicate 16 0 ++ [0, 0x70, 0, 0, 0, 0, 0, 0]⟩ (0x1000 + 6 + 0x10) =
        some 0x7000 :=
  analyze_instruction_rip_relative_call _ rfl

/-- LOOP, LOOPZ, LOOPNZ and JRCXZ are conditional branches missing from the list that
    `InstructionPointerUpdate::from_instruction` leaves undetermined: for every context and
    memory the analysis reports that they do not move the instruction pointer. -/
theorem analyze_instruction_loop_no_update {D : Disassembler} {bytes : List U8} {i : Instruction}
    (decoded : D.decode_slice bytes = .ok i)
    (loop : i.opcode = .LOOP ∨ i.opcode = .LOOPZ ∨ i.opcode = .LOOPNZ ∨ i.opcode = .JRCXZ)
    (context : MinidumpContext) (memory_list : Option UnifiedMemoryList) (stack_memory : Option MinidumpMemory) :
    ∃ a, analyze_instruction D context bytes memory_list stack_memory = .ok a ∧
      a.instruction_pointer_update = some .NoUpdate := by
  have unlisted : AccessDerivableOpcode.from_opcode i.opcode = none := by
    rcases loop with h | h | h | h <;> rw [h] <;> rfl
  have update : InstructionPointerUpdate.from_instruction i context memory_list stack_memory = .ok (some .NoUpdate) := by
    rcases loop with h | h | h | h <;> simp only [InstructionPointerUpdate.from_instruction, h] <;> rfl
  have returns : ∀ p, InstructionPointerUpdate.from_instruction i context memory_list stack_memory ≠ .panic p := by
    simp [update]
  obtain ⟨a, analysed, -, u, updated, joined⟩ :=
    analyze_instruction_returns decoded (MemoryAccessList.from_instruction_underivable_no_panic unlisted) returns
  simp only [update, Outcome.toOption_ok, Outcome.ok.injEq] at updated
  exact ⟨a, analysed, by rw [joined, ← updated]; rfl⟩

theorem loop_reported_no_update :
    ∃ a, analyze_instruction (.decoding ⟨.LOOP, [.ImmediateI8 0xfe], none, 2⟩ "loop $+0")
        ⟨.Amd64, 0x1000, fun _ => none⟩ [0xe2, 0xfe] none none = .ok a ∧
      a.instruction_pointer_update = some .NoUpdate :=
  analyze_instruction_loop_no_update rfl (.inl rfl) _ _ _

end MinidumpProcessor
