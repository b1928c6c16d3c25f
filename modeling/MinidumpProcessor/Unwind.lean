import MinidumpProcessor.Processor

/-!
# Unwinding a frame with local debug info

`DebugInfoSymbolProvider::walk_frame` (debuginfo.rs) hands a frame to framehop's
unwinder for the dump's CPU. `unwind_frame` reads from the stack walker the callee
registers that unwinder needs, gives it the frame's address (the return address, one
past the instruction, for a frame that called another; the instruction pointer for the
innermost frame) and the walker's memory, and writes back the return address, the CFA
and the caller registers the unwinder recovered.

Neither the stack walker (`FrameWalker`) nor framehop is part of the sources here: both
enter as parameters. The walker is threaded through as a state, so a call that gives up
half way keeps the writes made before it. A frame address is computed before the
unwinder runs, and `instruction + 1` overflows for a frame at `u64::MAX` that called
another: then `unwind_frame` panics (`unwind_frame_panics_iff`).
-/

namespace MinidumpProcessor

/-- The calls `unwind_frame` makes on the stack walker (`FrameWalker`), over the walker's
    state. A setter returns whether it succeeded and the walker after it; `set_ra`'s
    result is dropped by its caller. -/
structure FrameWalker (σ : Type) where
  get_instruction : σ → U64
  has_grand_callee : σ → Bool
  get_callee_register : σ → String → Option U64
  get_register_at_address : σ → U64 → Option U64
  set_cfa : σ → U64 → Option Unit × σ
  set_ra : σ → U64 → σ
  set_caller_register : σ → String → U64 → Option Unit × σ

/-- framehop's `FrameAddress`: a return address is non-zero (`NonZeroU64`). -/
inductive FrameAddress where
  | InstructionPointer (address : U64)
  | ReturnAddress (address : {a : U64 // a ≠ 0})
deriving DecidableEq

def FrameAddress.from_instruction_pointer (ip : U64) : FrameAddress := .InstructionPointer ip

/-- framehop's `FrameAddress::from_return_address`: `None` for a zero address. -/
def FrameAddress.from_return_address (return_address : U64) : Option FrameAddress :=
  if h : return_address = 0 then none else some (.ReturnAddress ⟨return_address, h⟩)

/-- framehop's `Unwinder::unwind_frame` for one register set: from the frame's address, the
    callee's registers and a read of the walker's memory, the caller's return address when
    there is one and the caller's registers, or an error (which `unwind_frame` logs). -/
structure Unwinder (Regs : Type) where
  unwind_frame : FrameAddress → Regs → (U64 → Option U64) → Except String (Option U64 × Regs)

/-- The `WalkerRegs` trait: how a register set is read from the walker's callee and written
    back to its caller. -/
class WalkerRegs (Regs : Type) where
  regs_from_walker {σ : Type} : FrameWalker σ → σ → Option Regs
  update_walker {σ : Type} : FrameWalker σ → Regs → σ → Option Unit × σ

/-- framehop's `UnwindRegsX86_64`. -/
structure UnwindRegsX86_64 where
  ip : U64
  sp : U64
  bp : U64
deriving DecidableEq, Repr

/-- framehop's `UnwindRegsAarch64`. -/
structure UnwindRegsAarch64 where
  lr : U64
  sp : U64
  fp : U64
deriving DecidableEq, Repr

/-- x86_64 reads rsp, rbp and rip of the callee; it writes back the CFA (the unwound sp)
    and the caller's rbp. -/
instance UnwindRegsX86_64.walkerRegs : WalkerRegs UnwindRegsX86_64 where
  regs_from_walker W walker := do
    let sp ← W.get_callee_register walker "rsp"
    let bp ← W.get_callee_register walker "rbp"
    let ip ← W.get_callee_register walker "rip"
    pure ⟨ip, sp, bp⟩
  update_walker W regs walker :=
    match W.set_cfa walker regs.sp with
    | (none, walker) => (none, walker)
    | (some (), walker) => W.set_caller_register walker "rbp" regs.bp

/-- aarch64 reads lr, sp and fp of the callee; it writes back the CFA (the unwound sp) and
    the caller's lr and fp. -/
instance UnwindRegsAarch64.walkerRegs : WalkerRegs UnwindRegsAarch64 where
  regs_from_walker W walker := do
    let lr ← W.get_callee_register walker "lr"
    let sp ← W.get_callee_register walker "sp"
    let fp ← W.get_callee_register walker "fp"
    pure ⟨lr, sp, fp⟩
  update_walker W regs walker :=
    match W.set_cfa walker regs.sp with
    | (none, walker) => (none, walker)
    | (some (), walker) =>
      match W.set_caller_register walker "lr" regs.lr with
      | (none, walker) => (none, walker)
      | (some (), walker) => W.set_caller_register walker "fp" regs.fp

section Registers

variable {σ : Type} (W : FrameWalker σ) (walker : σ)

/-- The x86_64 registers are read exactly when the callee has rsp, rbp and rip. -/
theorem regs_from_walker_x86_64_isSome :
    (WalkerRegs.regs_from_walker W walker : Option UnwindRegsX86_64).isSome ↔
      (W.get_callee_register walker "rsp").isSome ∧ (W.get_callee_register walker "rbp").isSome ∧
        (W.get_callee_register walker "rip").isSome := by
  simp only [WalkerRegs.regs_from_walker]
  cases W.get_callee_register walker "rsp" <;> cases W.get_callee_register walker "rbp" <;>
    cases W.get_callee_register walker "rip" <;> simp

/-- The aarch64 registers are read exactly when the callee has lr, sp and fp. -/
theorem regs_from_walker_aarch64_isSome :
    (WalkerRegs.regs_from_walker W walker : Option UnwindRegsAarch64).isSome ↔
      (W.get_callee_register walker "lr").isSome ∧ (W.get_callee_register walker "sp").isSome ∧
        (W.get_callee_register walker "fp").isSome := by
  simp only [WalkerRegs.regs_from_walker]
  cases W.get_callee_register walker "lr" <;> cases W.get_callee_register walker "sp" <;>
    cases W.get_callee_register walker "fp" <;> simp

end Registers

section Unwinding

variable {Regs σ : Type} [WalkerRegs Regs] (unwinder : Unwinder Regs) (W : FrameWalker σ)

/-- The frame address `unwind_frame` passes: `from_return_address(instruction + 1).unwrap()`
    for a frame that called another, `from_instruction_pointer(instruction)` otherwise. -/
def UnwinderImpl.frame_address (walker : σ) : Outcome Empty FrameAddress :=
  let instruction := W.get_instruction walker
  if W.has_grand_callee walker then do
    let return_address ← add_or_panic instruction 1
    unwrap (FrameAddress.from_return_address return_address)
  else pure (FrameAddress.from_instruction_pointer instruction)

/-- `UnwinderImpl::unwind_frame`: the walker after the call, and `Some(())` when every step
    succeeded. -/
def UnwinderImpl.unwind_frame (walker : σ) : Outcome Empty (Option Unit × σ) :=
  match WalkerRegs.regs_from_walker W walker with
  | none => pure (none, walker)
  | some regs => do
    let address ← UnwinderImpl.frame_address W walker
    match unwinder.unwind_frame address regs (W.get_register_at_address walker) with
    | .error _ => pure (none, walker)
    | .ok (ra, regs) =>
      let walker := match ra with
        | some ra => W.set_ra walker ra
        | none => walker
      pure (WalkerRegs.update_walker W regs walker)

/-- The frame address panics exactly for a frame that called another at `u64::MAX`, where
    `instruction + 1` overflows; the return address it gives otherwise is never zero, so the
    `unwrap` cannot fail. -/
theorem UnwinderImpl.frame_address_cases (walker : σ) :
    (W.has_grand_callee walker ∧ W.get_instruction walker = 0xFFFFFFFFFFFFFFFF ∧
        UnwinderImpl.frame_address W walker = .panic (.explicit "attempt to add with overflow")) ∨
      (¬(W.has_grand_callee walker ∧ W.get_instruction walker = 0xFFFFFFFFFFFFFFFF) ∧
        ∃ address, UnwinderImpl.frame_address W walker = .ok address) := by
  unfold UnwinderImpl.frame_address
  generalize W.get_instruction walker = instruction
  cases W.has_grand_callee walker with
  | false => exact .inr ⟨by simp, _, rfl⟩
  | true =>
    by_cases top : instruction = 0xFFFFFFFFFFFFFFFF
    · subst top
      exact .inl ⟨rfl, rfl, rfl⟩
    · have fits : instruction.toNat + (1 : U64).toNat < 2 ^ 64 := by bv_omega
      have nonzero : instruction + 1 ≠ 0 := by bv_omega
      refine .inr ⟨fun ⟨_, h⟩ => top h, .ReturnAddress ⟨instruction + 1, nonzero⟩, ?_⟩
      rw [if_pos rfl, add_or_panic, if_pos fits, Outcome.ok_bind, FrameAddress.from_return_address, dif_neg nonzero]
      rfl

/-- `unwind_frame` panics exactly when the callee registers its register set needs are all
    there and the frame, which called another, is at `u64::MAX`: everything after the frame
    address, the unwinder's error included, returns. -/
theorem unwind_frame_panics_iff (walker : σ) :
    (∃ p, UnwinderImpl.unwind_frame unwinder W walker = .panic p) ↔
      (WalkerRegs.regs_from_walker W walker : Option Regs).isSome ∧ W.has_grand_callee walker ∧
        W.get_instruction walker = 0xFFFFFFFFFFFFFFFF := by
  unfold UnwinderImpl.unwind_frame
  cases (WalkerRegs.regs_from_walker W walker : Option Regs) with
  | none => simp
  | some regs =>
    simp only [Option.isSome_some, true_and]
    rcases UnwinderImpl.frame_address_cases W walker with ⟨grand, top, panics⟩ | ⟨returns, address, found⟩
    · rw [panics]
      exact ⟨fun _ => ⟨grand, top⟩, fun _ => ⟨_, rfl⟩⟩
    · refine ⟨fun ⟨p, panics⟩ => ?_, fun holds => absurd holds returns⟩
      rw [found, Outcome.ok_bind] at panics
      split at panics <;> simp at panics

end Unwinding

/-- framehop's unwinders for the two architectures `DebugInfoSymbolProvider::new` supports. -/
structure Unwinders where
  x86_64 : Unwinder UnwindRegsX86_64
  aarch64 : Unwinder UnwindRegsAarch64

/-- The frame step of a `DebugInfoSymbolProvider` (its boxed `UnwinderInterface`), over the
    stack walker's state. -/
def UnwinderInterface (σ : Type) : Type := FrameWalker σ → σ → Outcome Empty (Option Unit × σ)

/-- The unwinder `DebugInfoSymbolProvider::new` picks for the dump's CPU; any other CPU is
    `unimplemented!()`. -/
def DebugInfoSymbolProvider.new_unwinder {σ : Type} (unwinders : Unwinders) (cpu : Cpu) :
    Outcome Empty (UnwinderInterface σ) :=
  match cpu with
  | .X86_64 => .ok (UnwinderImpl.unwind_frame unwinders.x86_64)
  | .Arm64 => .ok (UnwinderImpl.unwind_frame unwinders.aarch64)
  | _ => .panic (.explicit "not implemented")

/-- `DebugInfoSymbolProvider::walk_frame`: the chosen unwinder's frame step. -/
def DebugInfoSymbolProvider.walk_frame {σ : Type} (unwinder : UnwinderInterface σ) (W : FrameWalker σ)
    (walker : σ) : Outcome Empty (Option Unit × σ) :=
  unwinder W walker

/-- Walking a frame with the unwinder `new` picked panics exactly for a frame at `u64::MAX`
    that called another, once the callee registers of the CPU's register set are there:
    rsp, rbp and rip on x86_64; lr, sp and fp on arm64. -/
theorem DebugInfoSymbolProvider.walk_frame_panics_iff {σ : Type} {unwinders : Unwinders} {cpu : Cpu}
    {unwinder : UnwinderInterface σ} (chosen : DebugInfoSymbolProvider.new_unwinder unwinders cpu = .ok unwinder)
    (W : FrameWalker σ) (walker : σ) :
    (∃ p, DebugInfoSymbolProvider.walk_frame unwinder W walker = .panic p) ↔
      W.has_grand_callee walker ∧ W.get_instruction walker = 0xFFFFFFFFFFFFFFFF ∧
        (cpu = .X86_64 ∧ (W.get_callee_register walker "rsp").isSome ∧ (W.get_callee_register walker "rbp").isSome ∧
            (W.get_callee_register walker "rip").isSome ∨
          cpu = .Arm64 ∧ (W.get_callee_register walker "lr").isSome ∧ (W.get_callee_register walker "sp").isSome ∧
            (W.get_callee_register walker "fp").isSome) := by
  cases cpu <;> simp only [DebugInfoSymbolProvider.new_unwinder, Outcome.ok.injEq, reduceCtorEq] at chosen
  · subst chosen
    rw [DebugInfoSymbolProvider.walk_frame, unwind_frame_panics_iff, regs_from_walker_x86_64_isSome]
    simp only [true_and, reduceCtorEq, false_and, or_false]
    tauto
  · subst chosen
    rw [DebugInfoSymbolProvider.walk_frame, unwind_frame_panics_iff, regs_from_walker_aarch64_isSome]
    simp only [true_and, reduceCtorEq, false_and, false_or]
    tauto

/-- An x86_64 frame at `u64::MAX` below another, with rsp, rbp and rip there, panics. -/
theorem x86_64_top_frame_panics :
    ∃ p, DebugInfoSymbolProvider.walk_frame
      (UnwinderImpl.unwind_frame (⟨fun _ regs _ => .ok (none, regs)⟩ : Unwinder UnwindRegsX86_64))
      (⟨fun _ => 0xFFFFFFFFFFFFFFFF, fun _ => true, fun _ _ => some 0x1000, fun _ _ => none, fun w _ => (some (), w),
        fun w _ => w, fun w _ _ => (some (), w)⟩ : FrameWalker Unit) () = .panic p :=
  (@DebugInfoSymbolProvider.walk_frame_panics_iff Unit
    ⟨⟨fun _ regs _ => .ok (none, regs)⟩, ⟨fun _ regs _ => .ok (none, regs)⟩⟩ .X86_64 _ rfl _ ()).mpr
    ⟨rfl, rfl, .inl ⟨rfl, rfl, rfl, rfl⟩⟩

end MinidumpProcessor
