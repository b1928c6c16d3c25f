import MinidumpProcessor.OpAnalysis.Types

/-!
# Memory operands

How the amd64 analysis reads a memory operand: `MemoryOperandInfo::try_from_operand`
takes the operand apart into base, index, scale and displacement, and
`MemoryAddressInfo::try_from_operand` reads the registers and adds the parts with
wrapping arithmetic. `OperandAddress` states the same address independently, as an
integer sum reduced mod 2^64 (`try_from_operand_eq`). The registers read are
exactly those `get_registers` reports (`try_from_operand_congr`); the masked
AVX-512 forms, although memory operands, are taken apart by neither.
-/

namespace MinidumpProcessor

/-- The opcodes whose memory accesses are derived precisely (`AccessDerivableOpcode`). -/
inductive AccessDerivableOpcode where
  | ADD | CALL | CMP | DEC | INC | JMP | JMPF
  | JO | JNO | JB | JNB | JZ | JNZ | JA | JNA | JS | JNS | JP | JNP | JL | JGE | JG | JLE
  | LEA | MOV | MOVAPS | MOVUPS | POP | PUSH | RETF | RETURN | SUB | UCOMISS
deriving DecidableEq, Repr

/-- `AccessDerivableOpcode::from_opcode`, which the source generates with `convert!`. -/
def AccessDerivableOpcode.from_opcode : Opcode → Option AccessDerivableOpcode
  | .ADD => some .ADD | .CALL => some .CALL | .CMP => some .CMP | .DEC => some .DEC
  | .INC => some .INC | .JMP => some .JMP | .JMPF => some .JMPF | .JO => some .JO
  | .JNO => some .JNO | .JB => some .JB | .JNB => some .JNB | .JZ => some .JZ
  | .JNZ => some .JNZ | .JA => some .JA | .JNA => some .JNA | .JS => some .JS
  | .JNS => some .JNS | .JP => some .JP | .JNP => some .JNP | .JL => some .JL
  | .JGE => some .JGE | .JG => some .JG | .JLE => some .JLE | .LEA => some .LEA
  | .MOV => some .MOV | .MOVAPS => some .MOVAPS | .MOVUPS => some .MOVUPS | .POP => some .POP
  | .PUSH => some .PUSH | .RETF => some .RETF | .RETURN => some .RETURN | .SUB => some .SUB
  | .UCOMISS => some .UCOMISS
  | _ => none

/-- The parts of a memory operand. Displacements are `i64`: the 32-bit ones of the
    register forms are sign-extended into it. -/
structure MemoryOperandInfo where
  base_reg : Option RegSpec := none
  index_reg : Option RegSpec := none
  scale : Option U8 := none
  disp : Option I64 := none
deriving DecidableEq, Repr

/-- `MemoryOperandInfo::try_from_operand`; `addr as i32 as i64` and `disp.into()` are
    sign extensions, `addr as i64` keeps the bits. -/
def MemoryOperandInfo.try_from_operand : Operand → Option MemoryOperandInfo
  | .AbsoluteU32 addr => some { disp := some (addr.signExtend 64) }
  | .AbsoluteU64 addr => some { disp := some addr }
  | .MemDeref base => some { base_reg := some base }
  | .Disp base disp => some { base_reg := some base, disp := some (disp.signExtend 64) }
  | .MemIndexScale index scale => some { index_reg := some index, scale := some scale }
  | .MemIndexScaleDisp index scale disp =>
    some { index_reg := some index, scale := some scale, disp := some (disp.signExtend 64) }
  | .MemBaseIndexScale base index scale =>
    some { base_reg := some base, index_reg := some index, scale := some scale }
  | .MemBaseIndexScaleDisp base index scale disp =>
    some { base_reg := some base, index_reg := some index, scale := some scale, disp := some (disp.signExtend 64) }
  | _ => none

/-- `ContextExt::get_regspec`: a register by name, `RegisterInvalid` unless valid. -/
def MinidumpContext.get_regspec (context : MinidumpContext) (regspec : RegSpec) : Outcome OpAnalysisError U64 :=
  match context.get_register regspec.name with
  | some value => .ok value
  | none => .err .RegisterInvalid

/-- `MemoryAddressInfo::try_from_operand`: the address an operand names, `None` for an
    operand that `MemoryOperandInfo` does not take apart. -/
def MemoryAddressInfo.try_from_operand (op : Operand) (context : MinidumpContext) :
    Outcome OpAnalysisError (Option MemoryAddressInfo) :=
  match MemoryOperandInfo.try_from_operand op with
  | none => .ok none
  | some op_info => do
    let address_info : MemoryAddressInfo ← match op_info.base_reg with
      | some reg => do
        let base ← context.get_regspec reg
        pure ({ address := base, is_likely_null_pointer_dereference := base == 0, is_likely_guard_page := false } : MemoryAddressInfo)
      | none => pure ({ address := 0, is_likely_null_pointer_dereference := false, is_likely_guard_page := false } : MemoryAddressInfo)
    let address_info : MemoryAddressInfo ← match op_info.index_reg with
      | some reg => do
        let index ← context.get_regspec reg
        let scale := op_info.scale.getD 1
        pure ({ address_info with address := address_info.address + index * scale.setWidth 64 } : MemoryAddressInfo)
      | none => pure address_info
    let disp := op_info.disp.getD 0
    pure (some { address_info with address := address_info.address + disp })

/-- The names of the registers one operand's address is formed from. -/
def insert_operand_registers (ret : Finset String) (op : Operand) : Finset String :=
  match MemoryOperandInfo.try_from_operand op with
  | some reginfo =>
    let ret := match reginfo.base_reg with
      | some reg => insert reg.name ret
      | none => ret
    match reginfo.index_reg with
    | some reg => insert reg.name ret
    | none => ret
  | none => ret

/-- The registers one operand's address is formed from. -/
def operand_registers (op : Operand) : Finset String := insert_operand_registers ∅ op

/-- `get_registers`: the base and index registers of every operand. -/
def get_registers (i : Instruction) : Finset String :=
  i.operands.foldl insert_operand_registers ∅

/-! ## The operand's address, stated independently -/

/-- The address a memory operand names and whether its base register holds zero, from
    the values of the registers it names: base, index times scale and displacement
    (32-bit ones sign-extended) added as integers and reduced mod 2^64. `none` when a
    named register has no value. -/
def OperandAddress (value : String → Option U64) : Operand → Option MemoryAddressInfo
  | .AbsoluteU32 addr => some ⟨BitVec.ofInt 64 addr.toInt, false, false⟩
  | .AbsoluteU64 addr => some ⟨BitVec.ofInt 64 addr.toNat, false, false⟩
  | .MemDeref base => (value base.name).map fun b => ⟨BitVec.ofInt 64 b.toNat, b = 0, false⟩
  | .Disp base disp => (value base.name).map fun b => ⟨BitVec.ofInt 64 (b.toNat + disp.toInt), b = 0, false⟩
  | .MemIndexScale index scale =>
    (value index.name).map fun x => ⟨BitVec.ofInt 64 (x.toNat * scale.toNat), false, false⟩
  | .MemIndexScaleDisp index scale disp =>
    (value index.name).map fun x => ⟨BitVec.ofInt 64 (x.toNat * scale.toNat + disp.toInt), false, false⟩
  | .MemBaseIndexScale base index scale => (value base.name).bind fun b => (value index.name).map fun x =>
    ⟨BitVec.ofInt 64 (b.toNat + x.toNat * scale.toNat), b = 0, false⟩
  | .MemBaseIndexScaleDisp base index scale disp => (value base.name).bind fun b => (value index.name).map fun x =>
    ⟨BitVec.ofInt 64 (b.toNat + x.toNat * scale.toNat + disp.toInt), b = 0, false⟩
  | _ => none

/-! ## Reading the registers -/

theorem ofInt_toInt {n : Nat} (d : BitVec n) : BitVec.ofInt n d.toInt = d :=
  BitVec.eq_of_toInt_eq (by rw [BitVec.toInt_ofInt, BitVec.toInt_eq_toNat_bmod, Int.bmod_bmod])

/-- `try_from_operand` gives `OperandAddress` when the registers the operand names are
    valid, `RegisterInvalid` when one is not, and `None` for an operand it does not take
    apart: its wrapping arithmetic computes the integer sum mod 2^64. -/
theorem try_from_operand_eq (op : Operand) (context : MinidumpContext) :
    MemoryAddressInfo.try_from_operand op context =
      match OperandAddress context.get_register op with
      | some info => .ok (some info)
      | none => if (MemoryOperandInfo.try_from_operand op).isSome then .err .RegisterInvalid else .ok none := by
  cases op <;> simp only [MemoryAddressInfo.try_from_operand, MemoryOperandInfo.try_from_operand, OperandAddress,
    MinidumpContext.get_regspec]
  all_goals
    repeat' split
  all_goals simp_all [Bool.beq_eq_decide_eq, BitVec.signExtend, BitVec.ofInt_add, BitVec.ofInt_mul,
    BitVec.ofNat_toNat, ofInt_toInt]

/-- `MemoryOperandInfo` takes apart exactly the memory operands that are not masked. -/
theorem MemoryOperandInfo.try_from_operand_isSome (op : Operand) :
    (MemoryOperandInfo.try_from_operand op).isSome = (op.is_memory && !op.is_masked_memory) := by
  cases op <;> rfl

/-- An operand `MemoryOperandInfo` takes apart has an address once its registers are valid. -/
theorem OperandAddress_isSome {value : String → Option U64} {op : Operand}
    (parts : (MemoryOperandInfo.try_from_operand op).isSome)
    (valid : ∀ name ∈ operand_registers op, (value name).isSome) : (OperandAddress value op).isSome := by
  cases op <;> simp_all [OperandAddress, operand_registers, insert_operand_registers,
    MemoryOperandInfo.try_from_operand, Option.isSome_iff_exists]
  all_goals
    obtain ⟨⟨x, index⟩, b, base⟩ := valid
    simp [base, index]

theorem mem_insert_operand_registers {name : String} {ret : Finset String} {op : Operand} :
    name ∈ insert_operand_registers ret op ↔ name ∈ ret ∨ name ∈ operand_registers op := by
  unfold operand_registers insert_operand_registers
  split
  · split <;> split <;> simp <;> tauto
  · simp

theorem mem_get_registers {name : String} {i : Instruction} :
    name ∈ get_registers i ↔ ∃ op ∈ i.operands, name ∈ operand_registers op := by
  suffices ∀ (ops : List Operand) (ret : Finset String), name ∈ ops.foldl insert_operand_registers ret ↔
      name ∈ ret ∨ ∃ op ∈ ops, name ∈ operand_registers op by simpa using this i.operands ∅
  intro ops
  induction ops with
  | nil => simp
  | cons op rest ih =>
    intro ret
    simp only [List.foldl_cons, ih, mem_insert_operand_registers, List.exists_mem_cons_iff, or_assoc]

/-- Two contexts that agree on the registers an operand names give it the same address,
    or fail alike. -/
theorem try_from_operand_congr {op : Operand} {first second : MinidumpContext}
    (agree : ∀ name ∈ operand_registers op, first.get_register name = second.get_register name) :
    MemoryAddressInfo.try_from_operand op first = MemoryAddressInfo.try_from_operand op second := by
  unfold operand_registers insert_operand_registers at agree
  unfold MemoryAddressInfo.try_from_operand
  split
  · rfl
  · rename_i info parts
    simp only [parts] at agree
    have readBase : ∀ reg, info.base_reg = some reg → first.get_regspec reg = second.get_regspec reg := by
      intro reg named
      simp only [MinidumpContext.get_regspec, agree reg.name (by split <;> split <;> simp_all)]
    have readIndex : ∀ reg, info.index_reg = some reg → first.get_regspec reg = second.get_regspec reg := by
      intro reg named
      simp only [MinidumpContext.get_regspec, agree reg.name (by split <;> split <;> simp_all)]
    cases hb : info.base_reg <;> cases hx : info.index_reg <;> simp only [readBase, readIndex, hb, hx]

end MinidumpProcessor
