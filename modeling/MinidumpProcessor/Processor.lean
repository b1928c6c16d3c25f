import MinidumpProcessor.Minidump
import MinidumpProcessor.LinuxStreams

/-!
# Processing a dump

`process_minidump_with_options` requires the thread list and the system info, takes
every other stream it reads as optional, and walks every thread in order: the thread
that wrote the dump is skipped, the thread the exception stream (or else the Breakpad
info) names is walked from the exception's context, and every stack gets the thread's
name and last error. `requesting_thread` is the index of the last thread walked as the
crashing one.

The stack walker and the symbol provider it consults are not part of the sources here:
the walker enters as a parameter (`StackWalker`) carrying the spec's contract that it
reports failures through the stack's `info` and never as `DumpThreadSkipped`. Its frames
are whatever it produces (`Frame`).
-/

namespace MinidumpProcessor

/-- Why a stack has the frames it has (`CallStackInfo`). -/
inductive CallStackInfo where
  | Ok | DumpThreadSkipped | MissingContext | MissingMemory | InvalidContext | UnsupportedCpu
deriving DecidableEq, Repr

/-- A thread's stack as the processor reports it, over the walker's frames. -/
structure CallStack (Frame : Type) where
  frames : List Frame
  info : CallStackInfo
  thread_name : Option String
  last_error_value : Option U32

/-- `CallStack::with_info`: a stack with no frames. -/
def CallStack.with_info {Frame : Type} (info : CallStackInfo) : CallStack Frame := ⟨[], info, none, none⟩

/-- `minidump::system_info::Os`. -/
inductive Os where
  | Windows | MacOs | Ios | Linux | Solaris | Android | Ps3 | NaCl | Unknown (value : U32)
deriving DecidableEq, Repr

/-- `minidump::system_info::Cpu`. -/
inductive Cpu where
  | X86 | X86_64 | Ppc | Ppc64 | Sparc | Arm | Arm64 | Mips | Mips64 | Unknown (value : U16)
deriving DecidableEq, Repr

/-- The fields of the system-info stream the processor reads. -/
structure MinidumpSystemInfo where
  os : Os
  cpu : Cpu
  major_version : U32
  minor_version : U32
  build_number : U32
  csd_version : Option String
  cpu_info : Option String
  number_of_processors : U8

/-- The processor's `SystemInfo`. -/
structure SystemInfo where
  os : Os
  os_version : Option String
  cpu : Cpu
  cpu_info : Option String
  cpu_microcode_version : Option U64
  cpu_count : Nat

/-- A thread of the thread list: its id, its captured context and stack memory (absent
    when the dump's descriptors are null), the start of its stack range, and the
    minidump crate's read of its last error value from its thread block. -/
structure MinidumpThread where
  thread_id : U32
  context : Option MinidumpContext
  stack : Option MinidumpMemory
  stack_start : U64
  last_error : Cpu → UnifiedMemoryList → Option U32

structure MinidumpThreadList where
  threads : List MinidumpThread

/-- The thread-names stream, by its `get_name`. -/
structure MinidumpThreadNames where
  get_name : U32 → Option String

instance : Inhabited MinidumpThreadNames := ⟨⟨fun _ => none⟩⟩

structure MinidumpBreakpadInfo where
  dump_thread_id : Option U32
  requesting_thread_id : Option U32

/-- The exception stream: `get_crashing_thread_id`, the exception record's code and the
    context of the crash. -/
structure MinidumpException where
  crashing_thread_id : U32
  exception_code : U32
  context : Option MinidumpContext

structure MinidumpMiscInfo where
  process_id : Option U32

/-- A loaded module. The processor only hands the module list on to the stack walker, so no
    field of a module is read here and none is modelled. -/
structure MinidumpModule

structure MinidumpModuleList where
  modules : List MinidumpModule

instance : Inhabited MinidumpModuleList := ⟨⟨[]⟩⟩

/-- The streams `process_minidump_with_options` reads, each `none` when `get_stream` fails
    because the stream is absent or does not parse. -/
structure Minidump where
  thread_list : Option MinidumpThreadList
  thread_names : Option MinidumpThreadNames
  system_info : Option MinidumpSystemInfo
  linux_standard_base : Option MinidumpLinuxLsbRelease
  linux_cpu_info : Option MinidumpLinuxCpuInfo
  misc_info : Option MinidumpMiscInfo
  breakpad_info : Option MinidumpBreakpadInfo
  exception : Option MinidumpException
  module_list : Option MinidumpModuleList
  memory_list : Option UnifiedMemoryList

/-- The thread names of the "evil" JSON file. -/
structure Evil where
  thread_names : U32 → Option String

instance : Inhabited Evil := ⟨⟨fun _ => none⟩⟩

/-- `ProcessorOptions`, with the evil JSON as `evil::handle_evil` reads it from its path:
    `none` when there is no path or the file does not load. -/
structure ProcessorOptions where
  evil_json : Option Evil

/-- `#[derive(Default)]`: no evil JSON. -/
instance : Inhabited ProcessorOptions := ⟨⟨none⟩⟩

/-- `stackwalker::walk_stack` with the symbol provider it is given. Modelled from the spec:
    the walker reports a failure through the stack's `info`, and never as
    `DumpThreadSkipped`, which only the processor sets. -/
structure StackWalker (Frame : Type) where
  walk_stack : Option MinidumpContext → Option MinidumpMemory → MinidumpModuleList → CallStack Frame
  never_skips : ∀ context stack modules, (walk_stack context stack modules).info ≠ .DumpThreadSkipped

structure ProcessState (Frame : Type) where
  process_id : Option U32
  exception_code : Option U32
  requesting_thread : Option Nat
  system_info : SystemInfo
  linux_standard_base : Option LinuxStandardBase
  threads : List (CallStack Frame)

inductive ProcessError where
  | MinidumpReadError | UnknownError | MissingSystemInfo | MissingThreadList
deriving DecidableEq, Repr

/-- What the thread loop reads besides the thread, as the processor computes it first. -/
structure ThreadEnv where
  dump_thread_id : Option U32
  requesting_thread_id : Option U32
  crashing_thread_id : Option U32
  exception_context : Option MinidumpContext
  memory_list : UnifiedMemoryList
  modules : MinidumpModuleList
  thread_names : MinidumpThreadNames
  evil : Evil
  cpu : Cpu

section Loop

variable {Frame : Type} (walker : StackWalker Frame) (env : ThreadEnv)

/-- One pass of the thread loop over thread `i`: the stack it pushes, and
    `requesting_thread` after it. -/
def process_thread (requesting_thread : Option Nat) (i : Nat) (thread : MinidumpThread) :
    CallStack Frame × Option Nat :=
  if (match env.dump_thread_id with
      | some dump_thread_id => dump_thread_id == thread.thread_id
      | none => false) then
    (.with_info .DumpThreadSkipped, requesting_thread)
  else
    let (context, requesting_thread) :=
      if ((env.crashing_thread_id.or env.requesting_thread_id).map (· == thread.thread_id)).getD false then
        (env.exception_context.or thread.context, some i)
      else (thread.context, requesting_thread)
    let stack := thread.stack.or (env.memory_list.memory_at_address thread.stack_start)
    let stack := walker.walk_stack context stack env.modules
    let name := (env.thread_names.get_name thread.thread_id).or (env.evil.thread_names thread.thread_id)
    ({ stack with thread_name := name, last_error_value := thread.last_error env.cpu env.memory_list },
      requesting_thread)

/-- `for (i, thread) in thread_list.threads.iter().enumerate()`, with the stacks pushed so
    far and `requesting_thread`. -/
def thread_loop : Nat → List MinidumpThread → List (CallStack Frame) → Option Nat →
    List (CallStack Frame) × Option Nat
  | _, [], threads, requesting_thread => (threads, requesting_thread)
  | i, thread :: rest, threads, requesting_thread =>
    let (stack, requesting_thread) := process_thread walker env requesting_thread i thread
    thread_loop (i + 1) rest (threads ++ [stack]) requesting_thread

end Loop

/-- `SystemInfo::os_version`: `format!("{}.{}.{}", ..)`, then a space and the CSD version
    when there is one. -/
def os_version (info : MinidumpSystemInfo) : String :=
  let os_version := toString info.major_version.toNat ++ "." ++ toString info.minor_version.toNat ++ "." ++
    toString info.build_number.toNat
  match info.csd_version with
  | some csd_version => os_version ++ " " ++ csd_version
  | none => os_version

/-- The locals of `process_minidump_with_options` that the thread loop reads: the Breakpad
    ids, the crashing thread and context of the exception stream, and the optional streams
    with their defaults. -/
def thread_env (dump : Minidump) (thread_names : MinidumpThreadNames) (options : ProcessorOptions) (cpu : Cpu) :
    ThreadEnv :=
  let (dump_thread_id, requesting_thread_id) := match dump.breakpad_info with
    | some info => (info.dump_thread_id, info.requesting_thread_id)
    | none => (none, none)
  let crashing_thread_id := dump.exception.map (·.crashing_thread_id)
  let exception_context := dump.exception.bind (·.context)
  let modules := dump.module_list.getD default
  let memory_list := dump.memory_list.getD default
  let evil := options.evil_json.getD default
  ⟨dump_thread_id, requesting_thread_id, crashing_thread_id, exception_context, memory_list, modules, thread_names,
    evil, cpu⟩

/-- `process_minidump_with_options`. -/
def process_minidump_with_options {Frame : Type} (walker : StackWalker Frame) (dump : Minidump)
    (options : ProcessorOptions) : Except ProcessError (ProcessState Frame) := do
  let thread_list ← match dump.thread_list with
    | some thread_list => pure thread_list
    | none => throw .MissingThreadList
  let thread_names := dump.thread_names.getD default
  let dump_system_info ← match dump.system_info with
    | some dump_system_info => pure dump_system_info
    | none => throw .MissingSystemInfo
  let linux_cpu_info := dump.linux_cpu_info.getD default
  let cpu_microcode_version := cpu_microcode_version linux_cpu_info.entries
  let linux_standard_base := dump.linux_standard_base.map linux_standard_base_of
  let system_info : SystemInfo :=
    { os := dump_system_info.os, os_version := some (os_version dump_system_info), cpu := dump_system_info.cpu,
      cpu_info := dump_system_info.cpu_info, cpu_microcode_version,
      cpu_count := dump_system_info.number_of_processors.toNat }
  let process_id := dump.misc_info.bind (·.process_id)
  let exception_code := dump.exception.map (·.exception_code)
  let (threads, requesting_thread) :=
    thread_loop walker (thread_env dump thread_names options system_info.cpu) 0 thread_list.threads [] none
  pure { process_id, exception_code, requesting_thread, system_info, linux_standard_base, threads }

/-- `process_minidump`: the default options, so no evil JSON. -/
def process_minidump {Frame : Type} (walker : StackWalker Frame) (dump : Minidump) :
    Except ProcessError (ProcessState Frame) :=
  process_minidump_with_options walker dump default

/-! ## What the processor reports, stated over the dump's streams -/

/-- The thread that wrote the dump, as the Breakpad info declares it. -/
def DumpThreadId (dump : Minidump) : Option U32 := dump.breakpad_info.bind (·.dump_thread_id)

/-- The thread walked from the exception's context: the exception stream's crashing thread
    when there is an exception stream, otherwise the Breakpad requesting thread. -/
def TargetThreadId (dump : Minidump) : Option U32 :=
  match dump.exception with
  | some exception => some exception.crashing_thread_id
  | none => dump.breakpad_info.bind (·.requesting_thread_id)

/-- The context a thread is walked from: the exception's, when the thread is the target and
    the exception has one, else the thread's own. -/
def WalkContext (dump : Minidump) (thread : MinidumpThread) : Option MinidumpContext :=
  if TargetThreadId dump = some thread.thread_id then (dump.exception.bind (·.context)).or thread.context
  else thread.context

/-- The stack memory a thread is walked over: its own, else the region of the memory list
    holding the start of its stack range. -/
def WalkMemory (dump : Minidump) (thread : MinidumpThread) : Option MinidumpMemory :=
  thread.stack.or ((dump.memory_list.getD default).memory_at_address thread.stack_start)

/-- The thread's name from the thread-names stream, else from the evil JSON. -/
def ThreadName (dump : Minidump) (options : ProcessorOptions) (thread : MinidumpThread) : Option String :=
  ((dump.thread_names.getD default).get_name thread.thread_id).or ((options.evil_json.getD default).thread_names thread.thread_id)

/-- The stack reported for a thread: `DumpThreadSkipped` for the thread that wrote the dump,
    else the walk from its context over its memory with its name and last error. -/
def ExpectedStack {Frame : Type} (walker : StackWalker Frame) (dump : Minidump) (options : ProcessorOptions)
    (cpu : Cpu) (thread : MinidumpThread) : CallStack Frame :=
  if DumpThreadId dump = some thread.thread_id then .with_info .DumpThreadSkipped
  else { walker.walk_stack (WalkContext dump thread) (WalkMemory dump thread) (dump.module_list.getD default) with
    thread_name := ThreadName dump options thread, last_error_value := thread.last_error cpu (dump.memory_list.getD default) }

/-- Whether the processor walks `thread` as the crashing thread: it is the target and did
    not write the dump. -/
def Requested (dump : Minidump) (thread : MinidumpThread) : Prop :=
  DumpThreadId dump ≠ some thread.thread_id ∧ TargetThreadId dump = some thread.thread_id

instance (dump : Minidump) : DecidablePred (Requested dump) := fun _ => inferInstanceAs (Decidable (_ ∧ _))

/-- The index of the last thread walked as the crashing one. -/
def LastRequested (dump : Minidump) (threads : List MinidumpThread) : Option Nat :=
  ((threads.enum.filter fun p => Requested dump p.2).getLast?).map (·.1)

/-! ## The thread loop -/

/-- One pass of the loop with its tests read as propositions. -/
theorem process_thread_eq {Frame : Type} (walker : StackWalker Frame) (env : ThreadEnv) (req : Option Nat) (i : Nat)
    (thread : MinidumpThread) :
    process_thread walker env req i thread =
      (if env.dump_thread_id = some thread.thread_id then .with_info .DumpThreadSkipped
       else { walker.walk_stack (if env.crashing_thread_id.or env.requesting_thread_id = some thread.thread_id then
                env.exception_context.or thread.context else thread.context)
              (thread.stack.or (env.memory_list.memory_at_address thread.stack_start)) env.modules with
         thread_name := (env.thread_names.get_name thread.thread_id).or (env.evil.thread_names thread.thread_id),
         last_error_value := thread.last_error env.cpu env.memory_list },
       if env.dump_thread_id ≠ some thread.thread_id ∧ env.crashing_thread_id.or env.requesting_thread_id = some thread.thread_id
       then some i else req) := by
  unfold process_thread
  cases hd : env.dump_thread_id <;> cases ht : env.crashing_thread_id.or env.requesting_thread_id <;>
    simp [beq_iff_eq] <;> split_ifs <;> simp_all

/-- The loop pushes each thread's stack in order and ends with the index of the last
    thread a pass chose, given what one pass does. -/
theorem thread_loop_eq {Frame : Type} {walker : StackWalker Frame} {env : ThreadEnv}
    {stack : MinidumpThread → CallStack Frame} {requested : MinidumpThread → Prop} [DecidablePred requested]
    (step : ∀ req i thread, process_thread walker env req i thread = (stack thread, if requested thread then some i else req)) :
    ∀ (threads : List MinidumpThread) (i : Nat) (acc : List (CallStack Frame)) (req : Option Nat),
      thread_loop walker env i threads acc req =
        (acc ++ threads.map stack, ((((threads.enumFrom i).filter fun p => requested p.2).getLast?).map (·.1)).or req)
  | [], _, _, _ => by simp [thread_loop]
  | thread :: rest, i, acc, req => by
    simp only [thread_loop, step]
    rw [thread_loop_eq step rest]
    by_cases chosen : requested thread
    · cases later : ((rest.enumFrom (i + 1)).filter fun p => requested p.2).getLast? <;>
        simp [chosen, List.getLast?_cons, later]
    · simp [chosen]

theorem thread_env_dump_thread_id (dump : Minidump) (names : MinidumpThreadNames) (options : ProcessorOptions) (cpu : Cpu) :
    (thread_env dump names options cpu).dump_thread_id = DumpThreadId dump := by
  unfold thread_env DumpThreadId
  cases dump.breakpad_info <;> rfl

theorem thread_env_target (dump : Minidump) (names : MinidumpThreadNames) (options : ProcessorOptions) (cpu : Cpu) :
    (thread_env dump names options cpu).crashing_thread_id.or (thread_env dump names options cpu).requesting_thread_id =
      TargetThreadId dump := by
  unfold thread_env TargetThreadId
  cases dump.exception <;> cases dump.breakpad_info <;> rfl

/-- A pass over a thread of the dump pushes its expected stack and chooses it when it is
    requested. -/
theorem process_thread_thread_env {Frame : Type} (walker : StackWalker Frame) (dump : Minidump)
    (options : ProcessorOptions) (cpu : Cpu) (req : Option Nat) (i : Nat) (thread : MinidumpThread) :
    process_thread walker (thread_env dump (dump.thread_names.getD default) options cpu) req i thread =
      (ExpectedStack walker dump options cpu thread, if Requested dump thread then some i else req) := by
  rw [process_thread_eq, thread_env_dump_thread_id, thread_env_target]
  rfl

/-! ## The processor's result -/

/-- A walker that reports the context's instruction pointer as the only frame. -/
def pointer_walker : StackWalker U64 where
  walk_stack context _ _ := match context with
    | some context => ⟨[context.instruction_pointer], .Ok, none, none⟩
    | none => .with_info .MissingContext
  never_skips context _ _ := by cases context <;> simp [CallStack.with_info]

/-- Thread 1, which crashed, and thread 2, which wrote the dump. -/
def requesting_and_dump_threads : List MinidumpThread :=
  [⟨1, some ⟨.Amd64, 0x1000, fun _ => none⟩, none, 0x8000, fun _ _ => none⟩,
   ⟨2, some ⟨.Amd64, 0x2000, fun _ => none⟩, none, 0x9000, fun _ _ => none⟩]

/-- A dump of those threads whose Breakpad info names thread 2 as the dump thread and
    thread 1 as the requesting one, with no exception stream. -/
def breakpad_dump : Minidump :=
  ⟨some ⟨requesting_and_dump_threads⟩, none, some ⟨.Windows, .X86_64, 10, 0, 19041, none, none, 4⟩, none, none, none,
    some ⟨some 2, some 1⟩, none, none, none⟩

/-- The same dump as a Linux one: cpu-info with a microcode revision, and lsb-release
    entries where os-release's `ID` comes after lsb-release's. -/
def linux_dump : Minidump :=
  { breakpad_dump with
    linux_cpu_info := some ⟨[(byte_string "processor", byte_string "0"), (byte_string "microcode", byte_string "0xf0")]⟩,
    linux_standard_base := some ⟨[(byte_string "DISTRIB_ID", byte_string "Ubuntu"), (byte_string "ID", byte_string "ubuntu")]⟩ }

section Process

variable {Frame : Type} (walker : StackWalker Frame) (dump : Minidump) (options : ProcessorOptions)

theorem process_minidump_missing_thread_list (missing : dump.thread_list = none) :
    process_minidump_with_options walker dump options = .error .MissingThreadList := by
  simp only [process_minidump_with_options, missing]
  rfl

theorem process_minidump_missing_system_info {thread_list : MinidumpThreadList}
    (listed : dump.thread_list = some thread_list) (missing : dump.system_info = none) :
    process_minidump_with_options walker dump options = .error .MissingSystemInfo := by
  simp only [process_minidump_with_options, listed, missing]
  rfl

/-- With the thread list and the system info present, the processor returns: the expected
    stack of every thread in order, and the last requested index. -/
theorem process_minidump_with_options_eq {threads : List MinidumpThread} {info : MinidumpSystemInfo}
    (listed : dump.thread_list = some ⟨threads⟩) (system : dump.system_info = some info) :
    process_minidump_with_options walker dump options = .ok
      { process_id := dump.misc_info.bind (·.process_id), exception_code := dump.exception.map (·.exception_code),
        requesting_thread := LastRequested dump threads,
        system_info := ⟨info.os, some (os_version info), info.cpu, info.cpu_info,
          cpu_microcode_version (dump.linux_cpu_info.getD default).entries, info.number_of_processors.toNat⟩,
        linux_standard_base := dump.linux_standard_base.map linux_standard_base_of,
        threads := threads.map (ExpectedStack walker dump options info.cpu) } := by
  simp only [process_minidump_with_options, listed, system, bind, Except.bind, pure, Except.pure,
    thread_loop_eq (process_thread_thread_env walker dump options info.cpu) threads 0 [] none]
  simp [LastRequested, List.enum]

theorem ExpectedStack_info (cpu : Cpu) (thread : MinidumpThread) :
    (ExpectedStack walker dump options cpu thread).info = .DumpThreadSkipped ↔ DumpThreadId dump = some thread.thread_id := by
  unfold ExpectedStack
  split_ifs with skip
  · simp [skip, CallStack.with_info]
  · simp [skip, walker.never_skips]

theorem LastRequested_eq_none (threads : List MinidumpThread) :
    LastRequested dump threads = none ↔ ∀ thread ∈ threads, ¬Requested dump thread := by
  simp only [LastRequested, Option.map_eq_none', List.getLast?_eq_none_iff, List.filter_eq_nil_iff, decide_eq_true_eq]
  constructor
  · intro unchosen thread member
    obtain ⟨i, found⟩ := List.mem_iff_getElem?.mp member
    exact unchosen (i, thread) (List.mem_enum_iff_getElem?.mpr found)
  · exact fun unchosen p member => unchosen p.2 (List.snd_mem_of_mem_enum member)

theorem LastRequested_some {threads : List MinidumpThread} {i : Nat} (chosen : LastRequested dump threads = some i) :
    ∃ thread, threads[i]? = some thread ∧ Requested dump thread := by
  obtain ⟨⟨j, thread⟩, last, rfl⟩ := Option.map_eq_some'.mp chosen
  have member := List.mem_of_getLast?_eq_some last
  simp only [List.mem_filter, decide_eq_true_eq] at member
  exact ⟨thread, List.mem_enum_iff_getElem?.mp member.1, member.2⟩

/-- With the thread list and the system info present, whatever else the dump lacks, the
    processor returns one stack per thread in order: the thread that wrote the dump gets
    the `DumpThreadSkipped` stack and no other thread does, and every other thread is
    walked from its context over its memory with its name and last error. -/
theorem process_minidump_threads {threads : List MinidumpThread} {info : MinidumpSystemInfo}
    (listed : dump.thread_list = some ⟨threads⟩) (system : dump.system_info = some info) :
    ∃ state, process_minidump_with_options walker dump options = .ok state ∧
      state.threads = threads.map (ExpectedStack walker dump options info.cpu) ∧
      ∀ (i : Nat) (thread : MinidumpThread), threads[i]? = some thread →
        (state.threads[i]? = some (.with_info .DumpThreadSkipped) ↔ DumpThreadId dump = some thread.thread_id) := by
  refine ⟨_, process_minidump_with_options_eq walker dump options listed system, rfl, fun i thread found => ?_⟩
  simp only [List.getElem?_map, found, Option.map_some', Option.some.injEq]
  constructor
  · intro skipped
    exact (ExpectedStack_info walker dump options info.cpu thread).mp (by rw [skipped]; rfl)
  · intro skip
    simp [ExpectedStack, skip]

theorem breakpad_dump_threads :
    ∃ state, process_minidump_with_options pointer_walker breakpad_dump ⟨none⟩ = .ok state ∧
      state.threads = requesting_and_dump_threads.map (ExpectedStack pointer_walker breakpad_dump ⟨none⟩ .X86_64) ∧
      ∀ (i : Nat) (thread : MinidumpThread), requesting_and_dump_threads[i]? = some thread →
        (state.threads[i]? = some (.with_info .DumpThreadSkipped) ↔ DumpThreadId breakpad_dump = some thread.thread_id) :=
  process_minidump_threads pointer_walker breakpad_dump ⟨none⟩ rfl rfl

/-- `requesting_thread` is `none` exactly when no thread is the target without having
    written the dump; an index it names is such a thread, its stack is walked, and from the
    exception's context whenever the exception stream has one. -/
theorem process_minidump_requesting_thread {threads : List MinidumpThread} {info : MinidumpSystemInfo}
    (listed : dump.thread_list = some ⟨threads⟩) (system : dump.system_info = some info) :
    ∃ state, process_minidump_with_options walker dump options = .ok state ∧
      (state.requesting_thread = none ↔
        ∀ thread ∈ threads, TargetThreadId dump = some thread.thread_id → DumpThreadId dump = some thread.thread_id) ∧
      ∀ i : Nat, state.requesting_thread = some i → ∃ thread stack, threads[i]? = some thread ∧ state.threads[i]? = some stack ∧
        TargetThreadId dump = some thread.thread_id ∧ DumpThreadId dump ≠ some thread.thread_id ∧
        stack.info ≠ .DumpThreadSkipped ∧
        ∀ context, dump.exception.bind (·.context) = some context →
          stack = { walker.walk_stack (some context) (WalkMemory dump thread) (dump.module_list.getD default) with
            thread_name := ThreadName dump options thread,
            last_error_value := thread.last_error info.cpu (dump.memory_list.getD default) } := by
  refine ⟨_, process_minidump_with_options_eq walker dump options listed system, ?_, fun i chosen => ?_⟩
  · rw [LastRequested_eq_none]
    simp only [Requested, not_and', not_not]
  · obtain ⟨thread, found, written, target⟩ := LastRequested_some dump chosen
    refine ⟨thread, _, found, by simp [found], target, written,
      mt (ExpectedStack_info walker dump options info.cpu thread).mp written, fun context exceptional => ?_⟩
    simp [ExpectedStack, WalkContext, written, target, exceptional]

theorem breakpad_dump_requesting_thread :
    ∃ state, process_minidump_with_options pointer_walker breakpad_dump ⟨none⟩ = .ok state ∧
      (state.requesting_thread = none ↔ ∀ thread ∈ requesting_and_dump_threads,
        TargetThreadId breakpad_dump = some thread.thread_id → DumpThreadId breakpad_dump = some thread.thread_id) ∧
      ∀ i : Nat, state.requesting_thread = some i → ∃ thread stack, requesting_and_dump_threads[i]? = some thread ∧
        state.threads[i]? = some stack ∧ TargetThreadId breakpad_dump = some thread.thread_id ∧
        DumpThreadId breakpad_dump ≠ some thread.thread_id ∧ stack.info ≠ .DumpThreadSkipped ∧
        ∀ context, breakpad_dump.exception.bind (·.context) = some context →
          stack = { pointer_walker.walk_stack (some context) (WalkMemory breakpad_dump thread)
              (breakpad_dump.module_list.getD default) with
            thread_name := ThreadName breakpad_dump ⟨none⟩ thread,
            last_error_value := thread.last_error .X86_64 (breakpad_dump.memory_list.getD default) } :=
  process_minidump_requesting_thread pointer_walker breakpad_dump ⟨none⟩ rfl rfl

/-- The Linux streams: the microcode revision is read from the first `microcode` entry of
    cpu-info when its value is `0x` and a hexadecimal numeral that fits in 64 bits, and each
    lsb-release field is the last value under one of its keys, empty when there is none. -/
theorem process_minidump_linux_streams {threads : List MinidumpThread} {info : MinidumpSystemInfo}
    (listed : dump.thread_list = some ⟨threads⟩) (system : dump.system_info = some info) :
    ∃ state, process_minidump_with_options walker dump options = .ok state ∧
      (∀ v : U64, state.system_info.cpu_microcode_version = some v ↔
        ∃ val, FirstValue (byte_string "microcode") (dump.linux_cpu_info.getD default).entries = some val ∧
          ∃ sign digits, val = byte_string "0x" ++ sign ++ digits ∧ (sign = [] ∨ sign = [0x2B]) ∧
            HexNumeral digits v.toNat) ∧
      ∀ field : LsbField, state.linux_standard_base.map (·.get field) =
        dump.linux_standard_base.map fun lsb_release =>
          ((LastValue field.keys lsb_release.entries).map LinuxOsStr.to_string_lossy).getD "" := by
  refine ⟨_, process_minidump_with_options_eq walker dump options listed system,
    cpu_microcode_version_eq_some _, fun field => ?_⟩
  cases dump.linux_standard_base <;> simp [linux_standard_base_of_get]

theorem linux_dump_streams :
    ∃ state, process_minidump_with_options pointer_walker linux_dump ⟨none⟩ = .ok state ∧
      (∀ v : U64, state.system_info.cpu_microcode_version = some v ↔
        ∃ val, FirstValue (byte_string "microcode") (linux_dump.linux_cpu_info.getD default).entries = some val ∧
          ∃ sign digits, val = byte_string "0x" ++ sign ++ digits ∧ (sign = [] ∨ sign = [0x2B]) ∧
            HexNumeral digits v.toNat) ∧
      ∀ field : LsbField, state.linux_standard_base.map (·.get field) =
        linux_dump.linux_standard_base.map fun lsb_release =>
          ((LastValue field.keys lsb_release.entries).map LinuxOsStr.to_string_lossy).getD "" :=
  process_minidump_linux_streams pointer_walker linux_dump ⟨none⟩ rfl rfl

/-- Without the evil JSON, a name is the thread-names stream's. -/
theorem ThreadName_default (thread : MinidumpThread) :
    ThreadName dump default thread = (dump.thread_names.getD default).get_name thread.thread_id :=
  Option.or_none

/-- Without options a thread's name comes only from the dump's thread-names stream: every
    thread but the one that wrote the dump is reported under the name the stream gives it,
    or none. -/
theorem process_minidump_thread_names {threads : List MinidumpThread} {info : MinidumpSystemInfo}
    (listed : dump.thread_list = some ⟨threads⟩) (system : dump.system_info = some info) :
    ∃ state, process_minidump walker dump = .ok state ∧ state.threads.length = threads.length ∧
      ∀ (i : Nat) (thread : MinidumpThread), threads[i]? = some thread → DumpThreadId dump ≠ some thread.thread_id →
        state.threads[i]?.map (·.thread_name) = some ((dump.thread_names.getD default).get_name thread.thread_id) := by
  refine ⟨_, process_minidump_with_options_eq walker dump default listed system, List.length_map _ _,
    fun i thread found written => ?_⟩
  simp [found, ExpectedStack, written, ThreadName_default]

theorem breakpad_dump_thread_names :
    ∃ state, process_minidump pointer_walker breakpad_dump = .ok state ∧
      state.threads.length = requesting_and_dump_threads.length ∧
      ∀ (i : Nat) (thread : MinidumpThread), requesting_and_dump_threads[i]? = some thread →
        DumpThreadId breakpad_dump ≠ some thread.thread_id →
        state.threads[i]?.map (·.thread_name) = some ((breakpad_dump.thread_names.getD default).get_name thread.thread_id) :=
  process_minidump_thread_names pointer_walker breakpad_dump rfl rfl

end Process

end MinidumpProcessor
