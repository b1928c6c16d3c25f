import MinidumpProcessor.Minidump
import MinidumpProcessor.Amd64.Instruction
import Mathlib.Data.Finset.Basic

/-!
The results of analysing one instruction (`op_analysis.rs`): the memory accesses it
makes, how it moves the instruction pointer, and the properties used to classify a
crash. `contains_access` asks whether an access of a given direction covers an
address; an access's range wraps past the top of the address space, and the law
`contains_access_iff` says so in one modular inequality.
-/

namespace MinidumpProcessor

/-- Why an instruction could not be analysed (`OpAnalysisError`). -/
inductive OpAnalysisError where
  | UnsupportedCpuArch
  | ReadThreadInstructionFailed
  | InstructionTruncated
  | DecodeFailed (source : DecodeError)
  | RegisterInvalid
deriving DecidableEq, Repr

/-- The direction of a memory access. -/
inductive MemoryAccessType where
  | Read | Write | ReadWrite | Underivable
deriving DecidableEq, Repr

def MemoryAccessType.is_read_or_write : MemoryAccessType → Bool
  | .Underivable => false
  | _ => true

structure MemoryAddressInfo where
  address : U64
  is_likely_null_pointer_dereference : Bool
  is_likely_guard_page : Bool
deriving DecidableEq, Repr

structure MemoryAccess where
  address_info : MemoryAddressInfo
  size : Option U8
  access_type : MemoryAccessType
deriving DecidableEq, Repr

structure MemoryAccessList where
  accesses : List MemoryAccess
deriving DecidableEq, Repr

/-- `self.accesses.push(access)`. -/
def MemoryAccessList.push (self : MemoryAccessList) (access : MemoryAccess) : MemoryAccessList :=
  ⟨self.accesses ++ [access]⟩

@[simp] theorem MemoryAccessList.push_accesses (self : MemoryAccessList) (access : MemoryAccess) :
    (self.push access).accesses = self.accesses ++ [access] := rfl

inductive InstructionPointerUpdate where
  | Update (address_info : MemoryAddressInfo)
  | NoUpdate
deriving DecidableEq, Repr

structure InstructionProperties where
  is_access_derivable : Bool
  is_division : Bool
  is_privileged : Bool
  is_only_gpf_when_non_canonical : Bool
deriving DecidableEq, Repr

/-- The analysis of one instruction. `memory_access_list = none` means the accesses
    could not be determined, `some` of an empty list that there are none. -/
structure OpAnalysis where
  instruction_str : String
  instruction_properties : InstructionProperties
  memory_access_list : Option MemoryAccessList
  instruction_pointer_update : Option InstructionPointerUpdate
  registers : Finset String

/-- Whether an access of type `access_type` covers `address` (`contains_access`). An
    access of unknown size covers nothing; one that ends past `u64::MAX` wraps to 0. -/
def MemoryAccessList.contains_access (self : MemoryAccessList) (address : U64)
    (access_type : MemoryAccessType) : Bool :=
  self.accesses.any fun access =>
    match access.size with
    | none => false
    | some size =>
      let lower_bound := access.address_info.address
      let (upper_bound, overflowed) := overflowing_add access.address_info.address (size.setWidth 64)
      decide (access.access_type = access_type) &&
        if overflowed then decide (lower_bound ≤ address) || decide (address < upper_bound)
        else decide (lower_bound ≤ address) && decide (address < upper_bound)

/-- The range test of `contains_access`, overflowing or not, is one modular inequality. -/
theorem range_test_iff (lower address : U64) (size : U8) :
    (if (overflowing_add lower (size.setWidth 64)).2 = true then
        decide (lower ≤ address) || decide (address < (overflowing_add lower (size.setWidth 64)).1)
      else decide (lower ≤ address) && decide (address < (overflowing_add lower (size.setWidth 64)).1)) = true ↔
      (address - lower).toNat < size.toNat := by
  have small := size.isLt
  have wide : (size.setWidth 64).toNat = size.toNat := by simp; omega
  have below := lower.isLt
  have within := address.isLt
  simp only [overflowing_add, BitVec.le_def, BitVec.lt_def, BitVec.toNat_add, BitVec.toNat_sub, wide]
  split_ifs with overflowed <;> simp at overflowed ⊢ <;> omega

theorem contains_access_iff (list : MemoryAccessList) (address : U64) (access_type : MemoryAccessType) :
    list.contains_access address access_type = true ↔
      ∃ access ∈ list.accesses, access.access_type = access_type ∧
        ∃ size, access.size = some size ∧ (address - access.address_info.address).toNat < size.toNat := by
  simp only [MemoryAccessList.contains_access, List.any_eq_true]
  refine exists_congr fun access => and_congr_right fun _ => ?_
  cases access.size with
  | none => simp
  | some size => simp only [Bool.and_eq_true, decide_eq_true_eq, range_test_iff, Option.some.injEq, exists_eq_left']

end MinidumpProcessor
