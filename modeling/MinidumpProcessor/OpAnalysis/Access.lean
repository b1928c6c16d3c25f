import MinidumpProcessor.OpAnalysis.Operand

/-!
# The memory accesses of an instruction

`MemoryAccessList::from_instruction`: for a whitelisted opcode every memory operand is
recorded with the direction the opcode's table gives its position, followed by the
implicit stack access of PUSH, CALL, POP and the returns; for any other opcode every
memory operand is recorded as `Underivable`. Both walks are the same loop over the
operands (`for_each_operand`), so what one step of it keeps, the whole walk keeps.

Against this code stand the independent statements `ExplicitAccesses` and
`ImplicitAccesses` (the direction table, the address sum, the stack slot), and the
decoder's guarantee `DecodedShape`: a whitelisted opcode has memory operands only
where its x86 encodings put them, and never the AVX-512 masked forms.
-/

namespace MinidumpProcessor

/-- The direction `add_derivable_opcode_explicit_access` gives a memory operand at
    position `idx`: `none` where the source returns early (LEA), a panic where it
    calls `panic!`. -/
def derivable_access_type (opcode : AccessDerivableOpcode) (idx : Nat) :
    Outcome OpAnalysisError (Option MemoryAccessType) :=
  match opcode with
  | .ADD | .SUB => match idx with
    | 0 => pure (some .ReadWrite)
    | 1 => pure (some .Read)
    | _ => .panic (.explicit "add/sub instruction had unexpected memory operand")
  | .CALL | .JMP | .JMPF | .PUSH => match idx with
    | 0 => pure (some .Read)
    | _ => .panic (.explicit "call/jmp/push instruction had unexpected memory operand")
  | .CMP | .UCOMISS => match idx with
    | 0 | 1 => pure (some .Read)
    | _ => .panic (.explicit "cmp instruction had unexpected memory operand")
  | .DEC | .INC => match idx with
    | 0 => pure (some .ReadWrite)
    | _ => .panic (.explicit "dec/inc instruction had unexpected memory operand")
  | .POP => match idx with
    | 0 => pure (some .Write)
    | _ => .panic (.explicit "pop instruction had unexpected memory operand")
  | .MOV | .MOVAPS | .MOVUPS => match idx with
    | 0 => pure (some .Write)
    | 1 => pure (some .Read)
    | _ => .panic (.explicit "mov/movaps/movups instruction had unexpected memory operand")
  | .LEA => match idx with
    | 0 | 1 => pure none
    | _ => .panic (.explicit "lea instruction had unexpected memory operand")
  | .RETURN | .RETF => .panic (.explicit "ret/iret instruction had unexpected memory operand")
  | .JO | .JNO | .JB | .JNB | .JZ | .JNZ | .JA | .JNA | .JS | .JNS | .JP | .JNP | .JL | .JGE | .JG | .JLE =>
    .panic (.explicit "jcc instruction had unexpected memory operand")

namespace MemoryAccessList

/-- What both explicit-access helpers do once a memory operand's direction is known:
    record it, unless `MemoryOperandInfo` does not take the operand apart. -/
def push_operand_access (self : MemoryAccessList) (operand : Operand) (mem_size : Option U8)
    (access_type : MemoryAccessType) (context : MinidumpContext) : Outcome OpAnalysisError MemoryAccessList := do
  match ← MemoryAddressInfo.try_from_operand operand context with
  | some address_info => pure (self.push { address_info, size := mem_size, access_type })
  | none => pure self

def add_derivable_opcode_explicit_access (self : MemoryAccessList) (opcode : AccessDerivableOpcode)
    (operand : Operand) (idx : Nat) (mem_size : Option U8) (context : MinidumpContext) :
    Outcome OpAnalysisError MemoryAccessList :=
  if !operand.is_memory then pure self
  else do
    match ← derivable_access_type opcode idx with
    | none => pure self
    | some access_type => self.push_operand_access operand mem_size access_type context

def add_underivable_opcode_explicit_access (self : MemoryAccessList) (operand : Operand)
    (mem_size : Option U8) (context : MinidumpContext) : Outcome OpAnalysisError MemoryAccessList :=
  if !operand.is_memory then pure self
  else self.push_operand_access operand mem_size .Underivable context

/-- `for idx in 0..instruction.operand_count() { body(instruction.operand(idx), idx)? }`. -/
def for_each_operand (body : MemoryAccessList → Operand → Nat → Outcome OpAnalysisError MemoryAccessList) :
    MemoryAccessList → Nat → List Operand → Outcome OpAnalysisError MemoryAccessList
  | self, _, [] => pure self
  | self, idx, operand :: rest => do
    let self ← body self operand idx
    for_each_operand body self (idx + 1) rest

/-- The stack access PUSH, CALL, POP and the returns make besides their operands. The
    write of PUSH and CALL is at `rsp - 8`, an unsigned subtraction. -/
def add_derivable_opcode_implicit_access (self : MemoryAccessList) (opcode : AccessDerivableOpcode)
    (mem_size : Option U8) (context : MinidumpContext) : Outcome OpAnalysisError MemoryAccessList :=
  let push_implicit_access := fun (address : U64) (access_type : MemoryAccessType) =>
    self.push { address_info := ⟨address, address == 0, false⟩, size := mem_size, access_type }
  match opcode with
  | .CALL | .PUSH =>
    match context.get_regspec .rsp with
    | .ok rsp => do
      let address ← sub_or_panic rsp 8
      pure (push_implicit_access address .Write)
    | _ => pure self
  | .POP | .RETF | .RETURN =>
    match context.get_regspec .rsp with
    | .ok rsp => pure (push_implicit_access rsp .Read)
    | _ => pure self
  | _ => pure self

def add_derivable_opcode_accesses (self : MemoryAccessList) (opcode : AccessDerivableOpcode)
    (instruction : Instruction) (context : MinidumpContext) : Outcome OpAnalysisError MemoryAccessList :=
  match instruction.mem_size with
  | none => pure self
  | some access => do
    let mem_size := access.bytes_size
    let self ← self.for_each_operand (fun self operand idx =>
      self.add_derivable_opcode_explicit_access opcode operand idx mem_size context) 0 instruction.operands
    self.add_derivable_opcode_implicit_access opcode mem_size context

def add_underivable_opcode_accesses (self : MemoryAccessList) (instruction : Instruction)
    (context : MinidumpContext) : Outcome OpAnalysisError MemoryAccessList :=
  match instruction.mem_size with
  | none => pure self
  | some access => self.for_each_operand (fun self operand _ =>
      self.add_underivable_opcode_explicit_access operand access.bytes_size context) 0 instruction.operands

/-- `MemoryAccessList::from_instruction`. -/
def from_instruction (instruction : Instruction) (context : MinidumpContext) :
    Outcome OpAnalysisError MemoryAccessList :=
  let access_list : MemoryAccessList := ⟨[]⟩
  match AccessDerivableOpcode.from_opcode instruction.opcode with
  | some opcode => access_list.add_derivable_opcode_accesses opcode instruction context
  | none => access_list.add_underivable_opcode_accesses instruction context

end MemoryAccessList

/-! ## The accesses, stated independently -/

/-- Where the x86 encodings of a whitelisted opcode put a memory operand. -/
def X86MemoryPositions : AccessDerivableOpcode → List Nat
  | .ADD | .SUB | .CMP | .MOV | .MOVAPS | .MOVUPS => [0, 1]
  | .UCOMISS | .LEA => [1]
  | .INC | .DEC | .PUSH | .POP | .CALL | .JMP | .JMPF => [0]
  | _ => []

/-- The direction the specification's table gives a memory operand of a whitelisted
    opcode at position `idx`; LEA only computes an address, so it has none. -/
def ExplicitAccessType : AccessDerivableOpcode → Nat → Option MemoryAccessType
  | .ADD, 0 | .SUB, 0 => some .ReadWrite
  | .ADD, _ | .SUB, _ => some .Read
  | .MOV, 0 | .MOVAPS, 0 | .MOVUPS, 0 => some .Write
  | .MOV, _ | .MOVAPS, _ | .MOVUPS, _ => some .Read
  | .CMP, _ | .UCOMISS, _ => some .Read
  | .INC, _ | .DEC, _ => some .ReadWrite
  | .PUSH, _ | .CALL, _ | .JMP, _ | .JMPF, _ => some .Read
  | .POP, _ => some .Write
  | _, _ => none

/-- The entry a memory operand gets: its address, the instruction's access size and the
    given direction. Other operands, and a memory operand without a direction, get none. -/
def OperandAccess (value : String → Option U64) (size : Option U8) (direction : Option MemoryAccessType)
    (op : Operand) : Option MemoryAccess :=
  if op.is_memory then
    direction.bind fun access_type => (OperandAddress value op).map fun address_info =>
      ⟨address_info, size, access_type⟩
  else none

/-- The explicit entries: one per operand that gets one, in operand order. -/
def ExplicitAccesses (value : String → Option U64) (size : Option U8) (direction : Nat → Option MemoryAccessType)
    (operands : List Operand) : List MemoryAccess :=
  operands.enum.filterMap fun (idx, op) => OperandAccess value size (direction idx) op

/-- The implicit stack access: a write at rsp - 8 (mod 2^64) for PUSH and CALL, a read
    at rsp for POP, RET and RETF, none while rsp is invalid. -/
def ImplicitAccesses (rsp : Option U64) (size : Option U8) : AccessDerivableOpcode → List MemoryAccess
  | .PUSH | .CALL => rsp.toList.map fun r => { address_info := ⟨r - 8, r - 8 = 0, false⟩, size, access_type := .Write }
  | .POP | .RETURN | .RETF => rsp.toList.map fun r => { address_info := ⟨r, r = 0, false⟩, size, access_type := .Read }
  | _ => []

/-- A whitelisted opcode's memory operands sit where its x86 encodings have one. -/
def MemoryOperandsAdmitted (i : Instruction) : Prop :=
  ∀ opcode, AccessDerivableOpcode.from_opcode i.opcode = some opcode →
    ∀ idx op, (idx, op) ∈ i.operands.enum → op.is_memory → idx ∈ X86MemoryPositions opcode

/-- What the decoder guarantees of a whitelisted opcode's memory operands: each sits at a
    position where the opcode's x86 encodings have one, and none is an AVX-512 masked form
    (only EVEX encodings, which decode to other opcodes, produce those). -/
structure DecodedShape (i : Instruction) : Prop where
  admitted : MemoryOperandsAdmitted i
  legacy : ∀ opcode, AccessDerivableOpcode.from_opcode i.opcode = some opcode →
    ∀ op ∈ i.operands, op.is_masked_memory = false

instance (i : Instruction) : Decidable (MemoryOperandsAdmitted i) :=
  decidable_of_iff (∀ opcode ∈ (AccessDerivableOpcode.from_opcode i.opcode).toList,
      ∀ p ∈ i.operands.enum, p.2.is_memory → p.1 ∈ X86MemoryPositions opcode)
    (by simp [MemoryOperandsAdmitted])

instance (i : Instruction) : Decidable (DecodedShape i) :=
  decidable_of_iff (MemoryOperandsAdmitted i ∧ ∀ opcode ∈ (AccessDerivableOpcode.from_opcode i.opcode).toList,
      ∀ op ∈ i.operands, op.is_masked_memory = false)
    ⟨fun ⟨admitted, legacy⟩ => ⟨admitted, by simpa using legacy⟩, fun shape => ⟨shape.admitted, by simpa using shape.legacy⟩⟩

theorem derivable_access_type_admitted {opcode : AccessDerivableOpcode} {idx : Nat}
    (admitted : idx ∈ X86MemoryPositions opcode) :
    derivable_access_type opcode idx = .ok (ExplicitAccessType opcode idx) := by
  unfold X86MemoryPositions at admitted
  split at admitted <;> simp only [List.mem_cons, List.mem_singleton, List.not_mem_nil, or_false] at admitted
  all_goals obtain rfl | rfl := admitted <;> rfl

namespace MemoryAccessList

theorem push_operand_access_accesses {self self' : MemoryAccessList} {op : Operand} {size : Option U8}
    {access_type : MemoryAccessType} {context : MinidumpContext}
    (pushed : self.push_operand_access op size access_type context = .ok self') :
    self'.accesses = self.accesses ++
      ((OperandAddress context.get_register op).map fun address_info => ⟨address_info, size, access_type⟩).toList := by
  rw [push_operand_access, try_from_operand_eq] at pushed
  cases named : OperandAddress context.get_register op <;> simp only [named] at pushed
  · split_ifs at pushed <;> simp_all
  · simp only [Outcome.ok_bind, Outcome.pure_eq, Outcome.ok.injEq] at pushed
    simp [← pushed]

theorem add_underivable_opcode_explicit_access_accesses {self self' : MemoryAccessList} {op : Operand}
    {size : Option U8} {context : MinidumpContext}
    (added : self.add_underivable_opcode_explicit_access op size context = .ok self') :
    self'.accesses = self.accesses ++ (OperandAccess context.get_register size (some .Underivable) op).toList := by
  unfold add_underivable_opcode_explicit_access at added
  by_cases memory : op.is_memory
  · simpa [OperandAccess, memory] using push_operand_access_accesses (by simpa [memory] using added)
  · simp_all [OperandAccess]

theorem add_derivable_opcode_explicit_access_accesses {self self' : MemoryAccessList} {opcode : AccessDerivableOpcode}
    {op : Operand} {idx : Nat} {size : Option U8} {context : MinidumpContext}
    (admitted : op.is_memory → idx ∈ X86MemoryPositions opcode)
    (added : self.add_derivable_opcode_explicit_access opcode op idx size context = .ok self') :
    self'.accesses = self.accesses ++ (OperandAccess context.get_register size (ExplicitAccessType opcode idx) op).toList := by
  unfold add_derivable_opcode_explicit_access at added
  by_cases memory : op.is_memory
  · simp only [memory, Bool.not_true, Bool.false_eq_true, if_false, derivable_access_type_admitted (admitted memory),
      Outcome.ok_bind] at added
    cases direction : ExplicitAccessType opcode idx <;> simp only [direction] at added
    · simp_all [OperandAccess]
    · simpa [OperandAccess, memory, direction] using push_operand_access_accesses added
  · simp_all [OperandAccess]

/-- The loop over the operands appends, operand by operand, what each step appends. -/
theorem for_each_operand_accesses {body : MemoryAccessList → Operand → Nat → Outcome OpAnalysisError MemoryAccessList}
    {entry : Nat → Operand → Option MemoryAccess} :
    ∀ {ops : List Operand} {self self' : MemoryAccessList} {idx : Nat},
      (∀ j op, (j, op) ∈ ops.enumFrom idx → ∀ s s', body s op j = .ok s' →
        s'.accesses = s.accesses ++ (entry j op).toList) →
      self.for_each_operand body idx ops = .ok self' →
      self'.accesses = self.accesses ++ (ops.enumFrom idx).filterMap fun p => entry p.1 p.2
  | [], self, self', idx, _, ran => by simp_all [for_each_operand]
  | op :: rest, self, self', idx, step, ran => by
    obtain ⟨next, first, ran⟩ := Outcome.bind_eq_ok.mp ran
    have later := for_each_operand_accesses (fun j op member => step j op (List.mem_cons_of_mem _ member)) ran
    rw [later, step idx op (List.mem_cons_self _ _) self next first, List.enumFrom_cons, List.filterMap_cons]
    cases entry idx op <;> simp

theorem add_derivable_opcode_implicit_access_accesses {self self' : MemoryAccessList}
    {opcode : AccessDerivableOpcode} {size : Option U8} {context : MinidumpContext}
    (added : self.add_derivable_opcode_implicit_access opcode size context = .ok self') :
    self'.accesses = self.accesses ++ ImplicitAccesses (context.get_register "rsp") size opcode := by
  unfold add_derivable_opcode_implicit_access MinidumpContext.get_regspec at added
  cases rsp : context.get_register "rsp" with
  | none => split at added <;> simp_all [ImplicitAccesses, RegSpec.rsp]
  | some r =>
    split at added <;> simp only [RegSpec.rsp, rsp, Outcome.pure_eq, Outcome.ok.injEq] at added
    all_goals first
      | (subst added; simp [ImplicitAccesses, Bool.beq_eq_decide_eq])
      | (obtain ⟨address, subtracted, pushed⟩ := Outcome.bind_eq_ok.mp added
         unfold sub_or_panic at subtracted
         split_ifs at subtracted
         cases subtracted; cases pushed; simp [ImplicitAccesses, Bool.beq_eq_decide_eq])

/-- `from_instruction` on a whitelisted opcode, as the direction table and address sum
    state it: the explicit entries in operand order, then the implicit stack access. -/
theorem from_instruction_derivable {i : Instruction} {context : MinidumpContext} {opcode : AccessDerivableOpcode}
    {size : MemoryAccessSize} {list : MemoryAccessList}
    (whitelisted : AccessDerivableOpcode.from_opcode i.opcode = some opcode)
    (admitted : ∀ idx op, (idx, op) ∈ i.operands.enum → op.is_memory → idx ∈ X86MemoryPositions opcode)
    (sized : i.mem_size = some size)
    (analysed : from_instruction i context = .ok list) :
    list.accesses = ExplicitAccesses context.get_register size.bytes_size (ExplicitAccessType opcode) i.operands ++
      ImplicitAccesses (context.get_register "rsp") size.bytes_size opcode := by
  simp only [from_instruction, whitelisted, add_derivable_opcode_accesses, sized] at analysed
  obtain ⟨explicit, walked, implicit⟩ := Outcome.bind_eq_ok.mp analysed
  rw [add_derivable_opcode_implicit_access_accesses implicit, for_each_operand_accesses
    (fun idx op member _ _ step => add_derivable_opcode_explicit_access_accesses (admitted idx op member) step) walked]
  rfl

/-- `from_instruction` on any other opcode: every operand that `OperandAddress` takes apart
    is recorded `Underivable`, in operand order. -/
theorem from_instruction_underivable {i : Instruction} {context : MinidumpContext}
    {size : MemoryAccessSize} {list : MemoryAccessList}
    (unlisted : AccessDerivableOpcode.from_opcode i.opcode = none)
    (sized : i.mem_size = some size)
    (analysed : from_instruction i context = .ok list) :
    list.accesses = ExplicitAccesses context.get_register size.bytes_size (fun _ => some .Underivable) i.operands := by
  simp only [from_instruction, unlisted, add_underivable_opcode_accesses, sized] at analysed
  rw [for_each_operand_accesses (fun _ _ _ _ _ step => add_underivable_opcode_explicit_access_accesses step) analysed]
  rfl

theorem from_instruction_unsized {i : Instruction} {context : MinidumpContext} (unsized : i.mem_size = none) :
    from_instruction i context = .ok ⟨[]⟩ := by
  unfold from_instruction
  split <;> simp [add_derivable_opcode_accesses, add_underivable_opcode_accesses, unsized]

theorem for_each_operand_congr {body body' : MemoryAccessList → Operand → Nat → Outcome OpAnalysisError MemoryAccessList} :
    ∀ {ops : List Operand} {self : MemoryAccessList} {idx : Nat}, (∀ s op j, op ∈ ops → body s op j = body' s op j) →
      self.for_each_operand body idx ops = self.for_each_operand body' idx ops
  | [], _, _, _ => rfl
  | op :: rest, self, idx, same => by
    simp only [for_each_operand, same self op idx (List.mem_cons_self _ _),
      for_each_operand_congr (fun s o j member => same s o j (List.mem_cons_of_mem _ member))]

/-- The access list reads no register but those `get_registers` reports and rsp: two
    contexts that agree on these give the same list, or the same failure. -/
theorem from_instruction_congr {i : Instruction} {first second : MinidumpContext}
    (agree : ∀ name ∈ get_registers i, first.get_register name = second.get_register name)
    (rsp : first.get_register "rsp" = second.get_register "rsp") :
    from_instruction i first = from_instruction i second := by
  have address : ∀ op ∈ i.operands, MemoryAddressInfo.try_from_operand op first =
      MemoryAddressInfo.try_from_operand op second := fun op member =>
    try_from_operand_congr fun name named => agree name (mem_get_registers.mpr ⟨op, member, named⟩)
  have stack : first.get_regspec .rsp = second.get_regspec .rsp := by
    simp only [MinidumpContext.get_regspec, RegSpec.rsp, rsp]
  have derivable : ∀ (s : MemoryAccessList) opcode op idx size, op ∈ i.operands →
      s.add_derivable_opcode_explicit_access opcode op idx size first =
        s.add_derivable_opcode_explicit_access opcode op idx size second := by
    intro s opcode op idx size member
    simp only [add_derivable_opcode_explicit_access, push_operand_access, address op member]
  have underivable : ∀ (s : MemoryAccessList) op size, op ∈ i.operands →
      s.add_underivable_opcode_explicit_access op size first = s.add_underivable_opcode_explicit_access op size second := by
    intro s op size member
    simp only [add_underivable_opcode_explicit_access, push_operand_access, address op member]
  unfold from_instruction add_derivable_opcode_accesses add_underivable_opcode_accesses
  cases AccessDerivableOpcode.from_opcode i.opcode with
  | some opcode =>
    cases i.mem_size with
    | none => rfl
    | some size =>
      simp only [for_each_operand_congr fun s op idx member => derivable s opcode op idx size.bytes_size member,
        add_derivable_opcode_implicit_access, stack]
  | none =>
    cases i.mem_size with
    | none => rfl
    | some size => exact for_each_operand_congr fun s op _ member => underivable s op size.bytes_size member

/-- `push qword [rax]` reads the same accesses in two contexts that differ in rbx and the
    instruction pointer but agree on rax and rsp. -/
theorem push_accesses_ignore_other_registers :
    from_instruction ⟨.PUSH, [.MemDeref .rax], some ⟨some 8⟩, 2⟩
        ⟨.Amd64, 0x1000, fun name => [("rax", 0x2000), ("rsp", 0x8000), ("rbx", 1)].lookup name⟩ =
      from_instruction ⟨.PUSH, [.MemDeref .rax], some ⟨some 8⟩, 2⟩
        ⟨.Amd64, 0x3000, fun name => [("rax", 0x2000), ("rsp", 0x8000), ("rbx", 2)].lookup name⟩ :=
  from_instruction_congr (by decide) rfl

theorem mem_ExplicitAccesses {value : String → Option U64} {size : Option U8}
    {direction : Nat → Option MemoryAccessType} {operands : List Operand} {access : MemoryAccess}
    (member : access ∈ ExplicitAccesses value size direction operands) : ∃ idx, direction idx = some access.access_type := by
  simp only [ExplicitAccesses, List.mem_filterMap] at member
  obtain ⟨⟨idx, op⟩, -, entry⟩ := member
  simp only [OperandAccess] at entry
  split_ifs at entry
  cases direct : direction idx with
  | none => simp [direct] at entry
  | some access_type =>
    simp only [direct, Option.some_bind, Option.map_eq_some'] at entry
    obtain ⟨address_info, -, rfl⟩ := entry
    exact ⟨idx, direct⟩

theorem ExplicitAccessType_read_or_write {opcode : AccessDerivableOpcode} {idx : Nat} {access_type : MemoryAccessType}
    (direct : ExplicitAccessType opcode idx = some access_type) : access_type.is_read_or_write := by
  cases opcode <;> cases idx <;> cases direct <;> rfl

theorem ImplicitAccesses_read_or_write {rsp : Option U64} {size : Option U8} {opcode : AccessDerivableOpcode} :
    ∀ access ∈ ImplicitAccesses rsp size opcode, access.access_type.is_read_or_write := by
  unfold ImplicitAccesses
  split <;> cases rsp <;> simp [MemoryAccessType.is_read_or_write]

/-- A whitelisted opcode's accesses all have a direction; any other opcode's are all
    `Underivable`. -/
theorem from_instruction_access_types {i : Instruction} {context : MinidumpContext} {list : MemoryAccessList}
    (admitted : MemoryOperandsAdmitted i) (analysed : from_instruction i context = .ok list) :
    ∀ access ∈ list.accesses, access.access_type.is_read_or_write = (AccessDerivableOpcode.from_opcode i.opcode).isSome := by
  cases sized : i.mem_size with
  | none => simp [from_instruction_unsized sized] at analysed; simp [← analysed]
  | some size =>
    cases whitelisted : AccessDerivableOpcode.from_opcode i.opcode with
    | some opcode =>
      rw [from_instruction_derivable whitelisted (admitted opcode whitelisted) sized analysed]
      intro access member
      rcases List.mem_append.mp member with explicit | implicit
      · obtain ⟨idx, direct⟩ := mem_ExplicitAccesses explicit
        simpa using ExplicitAccessType_read_or_write direct
      · simpa using ImplicitAccesses_read_or_write access implicit
    | none =>
      rw [from_instruction_underivable whitelisted sized analysed]
      intro access member
      obtain ⟨idx, direct⟩ := mem_ExplicitAccesses member
      simp only [Option.some.injEq] at direct
      simp [← direct, MemoryAccessType.is_read_or_write]

/-! ## When the walk returns -/

theorem for_each_operand_progress {body : MemoryAccessList → Operand → Nat → Outcome OpAnalysisError MemoryAccessList} :
    ∀ {ops : List Operand} {self : MemoryAccessList} {idx : Nat},
      (∀ s j op, (j, op) ∈ ops.enumFrom idx → ∃ s', body s op j = .ok s') →
      ∃ self', self.for_each_operand body idx ops = .ok self'
  | [], self, _, _ => ⟨self, rfl⟩
  | op :: rest, self, idx, step => by
    obtain ⟨next, first⟩ := step self idx op (List.mem_cons_self _ _)
    obtain ⟨last, walked⟩ := @for_each_operand_progress body rest next (idx + 1)
      fun s j o member => step s j o (List.mem_cons_of_mem _ member)
    exact ⟨last, by simp [for_each_operand, first, walked]⟩

/-- A walk that returned ran each of its steps to a return. -/
theorem for_each_operand_steps {body : MemoryAccessList → Operand → Nat → Outcome OpAnalysisError MemoryAccessList} :
    ∀ {ops : List Operand} {self self' : MemoryAccessList} {idx : Nat}, self.for_each_operand body idx ops = .ok self' →
      ∀ j op, (j, op) ∈ ops.enumFrom idx → ∃ s s', body s op j = .ok s'
  | [], _, _, _, _ => by simp
  | op :: rest, self, _, idx, ran => by
    obtain ⟨next, first, ran⟩ := Outcome.bind_eq_ok.mp ran
    intro j o member
    rcases List.mem_cons.mp member with here | later
    · cases here
      exact ⟨self, next, first⟩
    · exact for_each_operand_steps ran j o later

theorem operand_registers_valid {i : Instruction} {context : MinidumpContext}
    (valid : ∀ name ∈ get_registers i, (context.get_register name).isSome) {op : Operand} (member : op ∈ i.operands) :
    ∀ name ∈ operand_registers op, (context.get_register name).isSome :=
  fun name named => valid name (mem_get_registers.mpr ⟨op, member, named⟩)

theorem push_operand_access_progress {self : MemoryAccessList} {op : Operand} {size : Option U8}
    {access_type : MemoryAccessType} {context : MinidumpContext}
    (valid : ∀ name ∈ operand_registers op, (context.get_register name).isSome) :
    ∃ self', self.push_operand_access op size access_type context = .ok self' := by
  rw [push_operand_access, try_from_operand_eq]
  cases named : OperandAddress context.get_register op with
  | some info => exact ⟨_, rfl⟩
  | none =>
    have unparsed : (MemoryOperandInfo.try_from_operand op).isSome = false := by
      by_contra parsed
      simpa [named] using OperandAddress_isSome (Bool.not_eq_false _ ▸ parsed) valid
    exact ⟨self, by simp [unparsed]⟩

/-- A step that recorded an operand `MemoryOperandInfo` takes apart found its address:
    an invalid register would have ended the walk with `RegisterInvalid`. -/
theorem push_operand_access_addressed {self self' : MemoryAccessList} {op : Operand} {size : Option U8}
    {access_type : MemoryAccessType} {context : MinidumpContext}
    (pushed : self.push_operand_access op size access_type context = .ok self')
    (parsed : (MemoryOperandInfo.try_from_operand op).isSome) : (OperandAddress context.get_register op).isSome := by
  rw [push_operand_access, try_from_operand_eq] at pushed
  cases named : OperandAddress context.get_register op <;> simp_all

theorem add_derivable_opcode_explicit_access_progress {self : MemoryAccessList} {opcode : AccessDerivableOpcode}
    {op : Operand} {idx : Nat} {size : Option U8} {context : MinidumpContext}
    (admitted : op.is_memory → idx ∈ X86MemoryPositions opcode)
    (valid : ∀ name ∈ operand_registers op, (context.get_register name).isSome) :
    ∃ self', self.add_derivable_opcode_explicit_access opcode op idx size context = .ok self' := by
  unfold add_derivable_opcode_explicit_access
  by_cases memory : op.is_memory
  · simp only [memory, Bool.not_true, Bool.false_eq_true, if_false, derivable_access_type_admitted (admitted memory),
      Outcome.ok_bind]
    cases ExplicitAccessType opcode idx
    · exact ⟨self, rfl⟩
    · exact push_operand_access_progress valid
  · exact ⟨self, by simp [memory]⟩

theorem add_derivable_opcode_explicit_access_addressed {self self' : MemoryAccessList}
    {opcode : AccessDerivableOpcode} {op : Operand} {idx : Nat} {size : Option U8} {context : MinidumpContext}
    (admitted : op.is_memory → idx ∈ X86MemoryPositions opcode)
    (added : self.add_derivable_opcode_explicit_access opcode op idx size context = .ok self')
    (memory : op.is_memory) (direct : (ExplicitAccessType opcode idx).isSome)
    (parsed : (MemoryOperandInfo.try_from_operand op).isSome) : (OperandAddress context.get_register op).isSome := by
  simp only [add_derivable_opcode_explicit_access, memory, Bool.not_true, Bool.false_eq_true, if_false,
    derivable_access_type_admitted (admitted memory), Outcome.ok_bind] at added
  obtain ⟨access_type, direction⟩ := Option.isSome_iff_exists.mp direct
  simp only [direction] at added
  exact push_operand_access_addressed added parsed

/-- What the stack access can do: return, or panic in `rsp - 8` for PUSH or CALL with a
    valid rsp below 8. -/
theorem add_derivable_opcode_implicit_access_cases (self : MemoryAccessList) (opcode : AccessDerivableOpcode)
    (size : Option U8) (context : MinidumpContext) :
    (∃ self', self.add_derivable_opcode_implicit_access opcode size context = .ok self') ∨
      (self.add_derivable_opcode_implicit_access opcode size context = .panic .subtractOverflow ∧
        (opcode = .PUSH ∨ opcode = .CALL) ∧ ∃ rsp, context.get_register "rsp" = some rsp ∧ rsp < 8) := by
  unfold add_derivable_opcode_implicit_access MinidumpContext.get_regspec
  simp only [RegSpec.rsp]
  cases rsp : context.get_register "rsp" with
  | none => exact .inl ⟨self, by split <;> rfl⟩
  | some r =>
    split
    case h_1 | h_2 =>
      simp only [sub_or_panic]
      split
      · exact .inl ⟨_, rfl⟩
      · exact .inr ⟨rfl, by simp, r, rfl, BitVec.not_le.mp ‹_›⟩
    all_goals exact .inl ⟨_, rfl⟩

theorem add_derivable_opcode_implicit_access_underflow {self : MemoryAccessList} {opcode : AccessDerivableOpcode}
    {size : Option U8} {context : MinidumpContext} {rsp : U64} (stack_write : opcode = .PUSH ∨ opcode = .CALL)
    (valid : context.get_register "rsp" = some rsp) (below : rsp < 8) :
    self.add_derivable_opcode_implicit_access opcode size context = .panic .subtractOverflow := by
  obtain rfl | rfl := stack_write <;>
    simp only [add_derivable_opcode_implicit_access, MinidumpContext.get_regspec, RegSpec.rsp, valid,
      sub_or_panic_lt below, Outcome.panic_bind]

/-- With the decoder's operand positions and the registers `get_registers` names valid,
    the walk over a whitelisted opcode's operands returns, and only the stack access is left. -/
theorem from_instruction_explicit_progress {i : Instruction} {context : MinidumpContext}
    {opcode : AccessDerivableOpcode} {size : MemoryAccessSize}
    (whitelisted : AccessDerivableOpcode.from_opcode i.opcode = some opcode) (sized : i.mem_size = some size)
    (admitted : MemoryOperandsAdmitted i) (valid : ∀ name ∈ get_registers i, (context.get_register name).isSome) :
    ∃ explicit : MemoryAccessList,
      from_instruction i context = explicit.add_derivable_opcode_implicit_access opcode size.bytes_size context := by
  obtain ⟨explicit, walked⟩ := @for_each_operand_progress
    (fun self operand idx => self.add_derivable_opcode_explicit_access opcode operand idx size.bytes_size context)
    i.operands ⟨[]⟩ 0 fun _ j op member => add_derivable_opcode_explicit_access_progress
      (admitted opcode whitelisted j op member) (operand_registers_valid valid (List.snd_mem_of_mem_enumFrom member))
  exact ⟨explicit, by simp only [from_instruction, whitelisted, add_derivable_opcode_accesses, sized, walked,
    Outcome.ok_bind]⟩

/-- With the registers `get_registers` names valid and the decoder's operand positions,
    `from_instruction` returns a list, unless PUSH or CALL meets an rsp below 8, where
    `rsp - 8` panics. -/
theorem from_instruction_progress {i : Instruction} {context : MinidumpContext}
    (admitted : MemoryOperandsAdmitted i) (valid : ∀ name ∈ get_registers i, (context.get_register name).isSome) :
    (∃ list, from_instruction i context = .ok list) ∨
      (from_instruction i context = .panic .subtractOverflow ∧ ∃ opcode, AccessDerivableOpcode.from_opcode i.opcode = some opcode ∧
        (opcode = .PUSH ∨ opcode = .CALL) ∧ ∃ rsp, context.get_register "rsp" = some rsp ∧ rsp < 8) := by
  cases sized : i.mem_size with
  | none => exact .inl ⟨_, from_instruction_unsized sized⟩
  | some size =>
    cases whitelisted : AccessDerivableOpcode.from_opcode i.opcode with
    | some opcode =>
      obtain ⟨explicit, walked⟩ := from_instruction_explicit_progress whitelisted sized admitted valid
      rw [walked]
      exact (add_derivable_opcode_implicit_access_cases explicit opcode _ context).imp_right
        fun ⟨panics, stack_write, low⟩ => ⟨panics, opcode, rfl, stack_write, low⟩
    | none =>
      simp only [from_instruction, whitelisted, add_underivable_opcode_accesses, sized]
      refine .inl (for_each_operand_progress fun s j op member => ?_)
      unfold add_underivable_opcode_explicit_access
      by_cases memory : op.is_memory
      · simpa [memory] using push_operand_access_progress (operand_registers_valid valid (List.snd_mem_of_mem_enumFrom member))
      · exact ⟨s, by simp [memory]⟩

/-! ## When the walk panics -/

/-- A walk that panicked panicked in one of its steps. -/
theorem for_each_operand_panic {body : MemoryAccessList → Operand → Nat → Outcome OpAnalysisError MemoryAccessList} :
    ∀ {ops : List Operand} {self : MemoryAccessList} {idx : Nat} {p : Panic}, self.for_each_operand body idx ops = .panic p →
      ∃ s j op, (j, op) ∈ ops.enumFrom idx ∧ body s op j = .panic p
  | [], _, _, _, walked => by cases walked
  | op :: rest, self, idx, _, walked => by
    rcases Outcome.bind_eq_panic.mp walked with first | ⟨next, -, walked⟩
    · exact ⟨self, idx, op, List.mem_cons_self _ _, first⟩
    · obtain ⟨s, j, o, member, step⟩ := for_each_operand_panic walked
      exact ⟨s, j, o, List.mem_cons_of_mem _ member, step⟩

theorem for_each_operand_no_panic {body : MemoryAccessList → Operand → Nat → Outcome OpAnalysisError MemoryAccessList}
    (step : ∀ s op j p, body s op j ≠ .panic p) {ops : List Operand} {self : MemoryAccessList} {idx : Nat}
    (p : Panic) : self.for_each_operand body idx ops ≠ .panic p := fun walked =>
  let ⟨s, j, op, _, panicked⟩ := for_each_operand_panic walked
  step s op j p panicked

theorem push_operand_access_no_panic {self : MemoryAccessList} {op : Operand} {size : Option U8}
    {access_type : MemoryAccessType} {context : MinidumpContext} (p : Panic) :
    self.push_operand_access op size access_type context ≠ .panic p := by
  rw [push_operand_access, try_from_operand_eq]
  cases OperandAddress context.get_register op <;> simp only [Outcome.ok_bind] <;> (try split_ifs) <;> simp

/-- Off the whitelist, `from_instruction` never panics. -/
theorem from_instruction_underivable_no_panic {i : Instruction} {context : MinidumpContext}
    (unlisted : AccessDerivableOpcode.from_opcode i.opcode = none) (p : Panic) : from_instruction i context ≠ .panic p := by
  simp only [from_instruction, unlisted, add_underivable_opcode_accesses]
  cases i.mem_size with
  | none => simp
  | some size =>
    refine for_each_operand_no_panic (fun s op _ q => ?_) p
    unfold add_underivable_opcode_explicit_access
    split
    · simp
    · exact push_operand_access_no_panic q

/-- `derivable_access_type` panics, with a message, only at a position where the
    opcode's encodings have no memory operand. -/
theorem derivable_access_type_panic {opcode : AccessDerivableOpcode} {idx : Nat} {p : Panic}
    (panics : derivable_access_type opcode idx = .panic p) :
    idx ∉ X86MemoryPositions opcode ∧ ∃ message, p = .explicit message := by
  refine ⟨fun admitted => ?_, ?_⟩
  · rw [derivable_access_type_admitted admitted] at panics
    cases panics
  · unfold derivable_access_type at panics
    split at panics <;> (try split at panics) <;> cases panics <;> exact ⟨_, rfl⟩

theorem add_derivable_opcode_explicit_access_panic {self : MemoryAccessList} {opcode : AccessDerivableOpcode}
    {op : Operand} {idx : Nat} {size : Option U8} {context : MinidumpContext} {p : Panic}
    (panics : self.add_derivable_opcode_explicit_access opcode op idx size context = .panic p) :
    op.is_memory ∧ derivable_access_type opcode idx = .panic p := by
  unfold add_derivable_opcode_explicit_access at panics
  by_cases memory : op.is_memory
  · simp only [memory, Bool.not_true, Bool.false_eq_true, if_false] at panics
    rcases Outcome.bind_eq_panic.mp panics with direction | ⟨access_type, -, pushed⟩
    · exact ⟨memory, direction⟩
    · cases access_type
      · cases pushed
      · exact absurd pushed (push_operand_access_no_panic p)
  · simp [memory] at panics

/-- `from_instruction` panics only at a memory operand where the opcode's encodings have
    none, with the message of that position's `panic!`, or in `rsp - 8` for PUSH or CALL
    with a valid rsp below 8. -/
theorem from_instruction_panic {i : Instruction} {context : MinidumpContext} {p : Panic}
    (panics : from_instruction i context = .panic p) :
    (∃ opcode idx op, AccessDerivableOpcode.from_opcode i.opcode = some opcode ∧ (idx, op) ∈ i.operands.enum ∧
      op.is_memory ∧ derivable_access_type opcode idx = .panic p) ∨
      (p = .subtractOverflow ∧ ∃ opcode, AccessDerivableOpcode.from_opcode i.opcode = some opcode ∧
        (opcode = .PUSH ∨ opcode = .CALL) ∧ ∃ rsp, context.get_register "rsp" = some rsp ∧ rsp < 8) := by
  cases whitelisted : AccessDerivableOpcode.from_opcode i.opcode with
  | none => exact absurd panics (from_instruction_underivable_no_panic whitelisted p)
  | some opcode =>
    cases sized : i.mem_size with
    | none => simp [from_instruction_unsized sized] at panics
    | some size =>
      simp only [from_instruction, whitelisted, add_derivable_opcode_accesses, sized] at panics
      rcases Outcome.bind_eq_panic.mp panics with walked | ⟨explicit, -, stacked⟩
      · obtain ⟨s, j, op, member, step⟩ := for_each_operand_panic walked
        obtain ⟨memory, arm⟩ := add_derivable_opcode_explicit_access_panic step
        exact .inl ⟨opcode, j, op, rfl, member, memory, arm⟩
      · rcases add_derivable_opcode_implicit_access_cases explicit opcode size.bytes_size context with
          ⟨_, returned⟩ | ⟨underflow, stack_write, low⟩
        · rw [returned] at stacked
          cases stacked
        · rw [underflow] at stacked
          cases stacked
          exact .inr ⟨rfl, opcode, rfl, stack_write, low⟩

/-- PUSH and CALL with a valid rsp below 8 panic in `rsp - 8`, once the operands are read. -/
theorem from_instruction_stack_underflow {i : Instruction} {context : MinidumpContext}
    {opcode : AccessDerivableOpcode} {size : MemoryAccessSize} {rsp : U64}
    (whitelisted : AccessDerivableOpcode.from_opcode i.opcode = some opcode) (stack_write : opcode = .PUSH ∨ opcode = .CALL)
    (sized : i.mem_size = some size) (admitted : MemoryOperandsAdmitted i)
    (valid : ∀ name ∈ get_registers i, (context.get_register name).isSome)
    (stack : context.get_register "rsp" = some rsp) (below : rsp < 8) :
    from_instruction i context = .panic .subtractOverflow := by
  obtain ⟨explicit, walked⟩ := from_instruction_explicit_progress whitelisted sized admitted valid
  rw [walked, add_derivable_opcode_implicit_access_underflow stack_write stack below]

/-- A list that `from_instruction` recorded for a whitelisted opcode misses no memory
    operand with a direction: each one's address was found. -/
theorem from_instruction_addressed {i : Instruction} {context : MinidumpContext} {opcode : AccessDerivableOpcode}
    {size : MemoryAccessSize} {list : MemoryAccessList}
    (whitelisted : AccessDerivableOpcode.from_opcode i.opcode = some opcode) (shape : DecodedShape i)
    (sized : i.mem_size = some size) (analysed : from_instruction i context = .ok list) :
    ∀ idx op, (idx, op) ∈ i.operands.enum → op.is_memory → (ExplicitAccessType opcode idx).isSome →
      (OperandAddress context.get_register op).isSome := by
  simp only [from_instruction, whitelisted, add_derivable_opcode_accesses, sized] at analysed
  obtain ⟨explicit, walked, -⟩ := Outcome.bind_eq_ok.mp analysed
  intro idx op member memory direct
  obtain ⟨s, s', step⟩ := for_each_operand_steps walked idx op member
  have legacy := shape.legacy opcode whitelisted op (List.snd_mem_of_mem_enumFrom member)
  exact add_derivable_opcode_explicit_access_addressed (shape.admitted opcode whitelisted idx op member) step memory
    direct (by simp [MemoryOperandInfo.try_from_operand_isSome, memory, legacy])

end MemoryAccessList

end MinidumpProcessor
