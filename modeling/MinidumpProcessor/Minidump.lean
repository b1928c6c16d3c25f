import MinidumpProcessor.Rust

/-!
What the analysis reads of a minidump: a thread's CPU context and the captured
memory regions. A context is read through its validity mask, so a register is a
name that either has a value or is invalid; the regions are searched by address
and read as little-endian words. The `minidump` crate that implements these reads
is not part of the sources here, so lookup and typed reads follow the spec.
-/

namespace MinidumpProcessor

/-- The variant of `MinidumpRawContext`: whose register file the context holds. -/
inductive RawContextKind where
  | X86 | Ppc | Ppc64 | Amd64 | Sparc | Arm | Arm64 | OldArm64 | Mips
deriving DecidableEq, Repr

/-- A thread's CPU state (`MinidumpContext`). `get_register` is the read through the
    validity mask: `none` for a register the dump does not mark valid. -/
structure MinidumpContext where
  raw : RawContextKind
  /-- `get_instruction_pointer`, which reads the register whatever its validity. -/
  instruction_pointer : U64
  get_register : String → Option U64

/-- One captured region (`UnifiedMemory`): its base address and its bytes. -/
structure MinidumpMemory where
  base_address : U64
  bytes : List U8
deriving DecidableEq, Repr

namespace MinidumpMemory

/-- Modelled from the spec: a region covers the addresses from its base up to, not
    including, its base plus its size, counted without wrapping. -/
def contains (memory : MinidumpMemory) (address : U64) : Bool :=
  decide (memory.base_address ≤ address) && decide (address.toNat - memory.base_address.toNat < memory.bytes.length)

/-- Little-endian value of a byte sequence. -/
def le_value (bytes : List U8) : Nat := bytes.foldr (fun byte value => byte.toNat + 256 * value) 0

/-- Modelled from the spec: `get_memory_at_address::<u64>`, the pointer-sized value in
    the snapshot's (little-endian) byte order, absent unless all eight bytes lie in the region. -/
def get_memory_at_address (memory : MinidumpMemory) (address : U64) : Option U64 :=
  if memory.base_address ≤ address ∧ (address - memory.base_address).toNat + 8 ≤ memory.bytes.length then
    some (BitVec.ofNat 64 (le_value ((memory.bytes.drop (address - memory.base_address).toNat).take 8)))
  else none

end MinidumpMemory

/-- The dump's memory list (`UnifiedMemoryList`); an absent stream is the empty list. -/
structure UnifiedMemoryList where
  regions : List MinidumpMemory
deriving DecidableEq, Repr

namespace UnifiedMemoryList

instance : Inhabited UnifiedMemoryList := ⟨⟨[]⟩⟩

/-- Modelled from the spec: the region containing an address, absent when no region does. -/
def memory_at_address (list : UnifiedMemoryList) (address : U64) : Option MinidumpMemory :=
  list.regions.find? (·.contains address)

theorem memory_at_address_contains {list : UnifiedMemoryList} {address : U64} {memory : MinidumpMemory}
    (found : list.memory_at_address address = some memory) :
    memory.base_address ≤ address ∧ address.toNat - memory.base_address.toNat < memory.bytes.length := by
  have holds := List.find?_some found
  simpa [MinidumpMemory.contains] using holds

end UnifiedMemoryList

end MinidumpProcessor
