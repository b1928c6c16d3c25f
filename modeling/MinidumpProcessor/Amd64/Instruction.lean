import MinidumpProcessor.Rust

/-!
The decoded amd64 instruction the analysis works on, as yaxpeax-x86 hands it over:
an opcode, the operands in order, and the size of the memory it touches. The
decoder itself is a library, so it enters the model as a parameter
(`Disassembler`). A register is seen only through its name, which is all the
analysis uses of it (`RegSpec::name`). Of the opcodes, those the analysis or its
specification names are constructors, and one more stands for all the others.
-/

namespace MinidumpProcessor

/-- A register specifier, by the name the context is read with. -/
structure RegSpec where
  name : String
deriving DecidableEq, Repr

namespace RegSpec
def rsp : RegSpec := ⟨"rsp"⟩
def rip : RegSpec := ⟨"rip"⟩
def rax : RegSpec := ⟨"rax"⟩
def rbx : RegSpec := ⟨"rbx"⟩
def r9 : RegSpec := ⟨"r9"⟩
def k1 : RegSpec := ⟨"k1"⟩
def zmm0 : RegSpec := ⟨"zmm0"⟩
end RegSpec

/-- AVX-512 merge modes and rounding modes of register operands. -/
inductive MergeMode where
  | Merge | Zero
deriving DecidableEq, Repr

inductive SaeMode where
  | RoundNearest | RoundDown | RoundUp | RoundZero
deriving DecidableEq, Repr

/-- yaxpeax-x86's long-mode `Operand`. The `Masked` forms are AVX-512 memory
    operands under an opmask register. -/
inductive Operand where
  | ImmediateI8 (imm : BitVec 8)
  | ImmediateU8 (imm : U8)
  | ImmediateI16 (imm : BitVec 16)
  | ImmediateU16 (imm : U16)
  | ImmediateI32 (imm : I32)
  | ImmediateU32 (imm : U32)
  | ImmediateI64 (imm : I64)
  | ImmediateU64 (imm : U64)
  | Register (reg : RegSpec)
  | RegisterMaskMerge (reg mask : RegSpec) (merge_mode : MergeMode)
  | RegisterMaskMergeSae (reg mask : RegSpec) (merge_mode : MergeMode) (sae_mode : SaeMode)
  | RegisterMaskMergeSaeNoround (reg mask : RegSpec) (merge_mode : MergeMode)
  | AbsoluteU32 (addr : U32)
  | AbsoluteU64 (addr : U64)
  | MemDeref (base : RegSpec)
  | Disp (base : RegSpec) (disp : I32)
  | MemIndexScale (index : RegSpec) (scale : U8)
  | MemIndexScaleDisp (index : RegSpec) (scale : U8) (disp : I32)
  | MemBaseIndexScale (base index : RegSpec) (scale : U8)
  | MemBaseIndexScaleDisp (base index : RegSpec) (scale : U8) (disp : I32)
  | MemDerefMasked (base mask : RegSpec)
  | DispMasked (base : RegSpec) (disp : I32) (mask : RegSpec)
  | MemIndexScaleMasked (index : RegSpec) (scale : U8) (mask : RegSpec)
  | MemIndexScaleDispMasked (index : RegSpec) (scale : U8) (disp : I32) (mask : RegSpec)
  | MemBaseIndexScaleMasked (base index : RegSpec) (scale : U8) (mask : RegSpec)
  | MemBaseIndexScaleDispMasked (base index : RegSpec) (scale : U8) (disp : I32) (mask : RegSpec)
  | Nothing
deriving DecidableEq, Repr

/-- yaxpeax's `Operand::is_memory`: every addressing form, masked or not. -/
def Operand.is_memory : Operand → Bool
  | .AbsoluteU32 _ | .AbsoluteU64 _ | .MemDeref _ | .Disp _ _ | .MemIndexScale _ _
  | .MemIndexScaleDisp _ _ _ | .MemBaseIndexScale _ _ _ | .MemBaseIndexScaleDisp _ _ _ _
  | .MemDerefMasked _ _ | .DispMasked _ _ _ | .MemIndexScaleMasked _ _ _
  | .MemIndexScaleDispMasked _ _ _ _ | .MemBaseIndexScaleMasked _ _ _ _
  | .MemBaseIndexScaleDispMasked _ _ _ _ _ => true
  | _ => false

/-- The masked memory forms, which only EVEX encodings (AVX-512 opcodes) produce. -/
def Operand.is_masked_memory : Operand → Bool
  | .MemDerefMasked _ _ | .DispMasked _ _ _ | .MemIndexScaleMasked _ _ _
  | .MemIndexScaleDispMasked _ _ _ _ | .MemBaseIndexScaleMasked _ _ _ _
  | .MemBaseIndexScaleDispMasked _ _ _ _ _ => true
  | _ => false

/-- yaxpeax-x86's `Opcode`: the opcodes the analysis or its specification names.
    `other` stands for every remaining opcode of the decoder: each of them falls into
    the `_` arm of every match the analysis makes, so they behave alike. -/
inductive Opcode where
  | ADD | CALL | CMP | DEC | INC | JMP | JMPF
  | JO | JNO | JB | JNB | JZ | JNZ | JA | JNA | JS | JNS | JP | JNP | JL | JGE | JG | JLE
  | LEA | MOV | MOVAPS | MOVUPS | POP | PUSH | RETF | RETURN | SUB | UCOMISS
  | DIV | IDIV
  | CLI | CLTS | HLT | IN | INS | INT | INTO | INVD | INVEPT | INVLPG | INVVPID
  | IRET | IRETD | IRETQ | LGDT | LIDT | LLDT | LMSW | LTR | MONITOR | MWAIT | OUT | OUTS
  | RDMSR | RDPMC | RDTSC | RDTSCP | STI | SWAPGS | SYSEXIT | SYSRET
  | VMCALL | VMCLEAR | VMLAUNCH | VMPTRLD | VMPTRST | VMREAD | VMRESUME | VMWRITE | VMXOFF | VMXON
  | WBINVD | WRMSR | XSETBV
  | CALLF | JMPE | JRCXZ | LOOP | LOOPZ | LOOPNZ | MOVS | VMOVUPS
  | other
deriving DecidableEq, Repr

/-- yaxpeax's `MemoryAccessSize`; `bytes_size` is `None` for sizes that are not a
    fixed number of bytes. -/
structure MemoryAccessSize where
  bytes_size : Option U8
deriving DecidableEq, Repr

/-- A decoded instruction: `opcode()`, `operand(0) .. operand(operand_count() - 1)`,
    `mem_size()` and `len()`. -/
structure Instruction where
  opcode : Opcode
  operands : List Operand
  mem_size : Option MemoryAccessSize
  length : Nat
deriving DecidableEq, Repr

/-- yaxpeax's `DecodeError`. -/
inductive DecodeError where
  | ExhaustedInput | InvalidOpcode | InvalidOperand | InvalidPrefixes | TooLong | IncompleteDecoder
deriving DecidableEq, Repr

/-- The library calls the analysis makes: `InstDecoder::default().decode_slice` and the
    instruction's `Display`. -/
structure Disassembler where
  decode_slice : List U8 → Except DecodeError Instruction
  to_string : Instruction → String

/-- A disassembler that reads any bytes as `instruction`: the analysis of an instruction as
    the decoder hands it over, whatever the decoder does with other bytes. -/
def Disassembler.decoding (instruction : Instruction) (text : String) : Disassembler :=
  ⟨fun _ => .ok instruction, fun _ => text⟩

end MinidumpProcessor
