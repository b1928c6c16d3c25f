import MinidumpProcessor.Strings
import Mathlib.Data.Nat.Digits

/-!
# The Linux streams the processor reads

`process_minidump_with_options` reads two of the streams a Linux dump carries as text.
From `/proc/cpuinfo` it takes the first `microcode` entry and parses its value as `0x`
and a hexadecimal number (`cpu_microcode_version`); from `/etc/lsb-release` it takes,
for each field of `LinuxStandardBase`, the value of the last entry under one of the
field's two keys. The streams' `iter` (minidump crate) yields the key/value pairs, and
the model starts from those.

`u64::from_str_radix` and `char::to_digit` come from the standard library and are
modelled from its algorithm.
-/

namespace MinidumpProcessor

/-- A byte-string literal such as `b"microcode"`: the bytes of ASCII text. -/
def byte_string (s : String) : LinuxOsStr := s.toList.map fun c => BitVec.ofNat 8 c.toNat

/-! ## `u64::from_str_radix` -/

/-- `char::to_digit(radix)` of a byte read as a `char`, as the standard library computes it:
    `c - '0'` (wrapping, in `u32`); above radix 10, a value that is not a decimal digit is
    recomputed from the letter with its case bit set, `(c | 0x20) - 'a'` (wrapping) plus 10
    (saturating). -/
def to_digit (c : U8) (radix : Nat) : Option Nat :=
  let digit := (c.setWidth 32 - 0x30).toNat
  let digit := if 10 < radix ∧ 10 ≤ digit then min (((c.setWidth 32 ||| 0x20) - 0x61).toNat + 10) (2 ^ 32 - 1)
    else digit
  if digit < radix then some digit else none

/-- The digit loop of `u64::from_str_radix` from the result so far: each digit is checked,
    then `result.checked_mul(radix)` and `.checked_add(digit)`; `none` on an invalid digit
    or an overflow. -/
def accumulate_digits (radix : Nat) : List U8 → Nat → Option Nat
  | [], result => some result
  | c :: rest, result =>
    match to_digit c radix with
    | none => none
    | some digit =>
      if result * radix < 2 ^ 64 ∧ result * radix + digit < 2 ^ 64 then
        accumulate_digits radix rest (result * radix + digit)
      else none

/-- `u64::from_str_radix(src, radix).ok()`: an empty string and a lone sign fail, a leading
    `+` is skipped, and a `-` is a digit that fails. The processor drops the error. -/
def from_str_radix (src : List U8) (radix : Nat) : Option U64 :=
  match src with
  | [] => none
  | c :: rest =>
    if (c = 0x2B ∨ c = 0x2D) ∧ rest = [] then none
    else (accumulate_digits radix (if c = 0x2B then rest else c :: rest) 0).map (BitVec.ofNat 64)

/-- `str::strip_prefix`. -/
def strip_prefix (s pre : List U8) : Option (List U8) :=
  if pre.isPrefixOf s then some (s.drop pre.length) else none

/-! ## The cpu-info and lsb-release loops -/

/-- The Linux `/proc/cpuinfo` stream (`MinidumpLinuxCpuInfo`), by the pairs its `iter` yields. -/
structure MinidumpLinuxCpuInfo where
  entries : List (LinuxOsStr × LinuxOsStr)

instance : Inhabited MinidumpLinuxCpuInfo := ⟨⟨[]⟩⟩

/-- The Linux `/etc/lsb-release` stream (`MinidumpLinuxLsbRelease`), by its pairs. -/
structure MinidumpLinuxLsbRelease where
  entries : List (LinuxOsStr × LinuxOsStr)

/-- What the processor makes of a `microcode` entry's value:
    `val.to_str().ok().and_then(|val| val.strip_prefix("0x"))`
    `.and_then(|val| u64::from_str_radix(val, 16).ok())`. -/
def microcode_value (val : LinuxOsStr) : Option U64 :=
  (val.to_str.bind fun val => strip_prefix val (byte_string "0x")).bind fun val => from_str_radix val 16

/-- The cpu-info loop of `process_minidump_with_options`: the first `microcode` entry sets
    `cpu_microcode_version`, then `break`. -/
def cpu_microcode_version : List (LinuxOsStr × LinuxOsStr) → Option U64
  | [] => none
  | (key, val) :: rest => if key = byte_string "microcode" then microcode_value val else cpu_microcode_version rest

/-- `LinuxStandardBase`; its derived default has every field empty. -/
structure LinuxStandardBase where
  id : String := ""
  release : String := ""
  codename : String := ""
  description : String := ""
deriving DecidableEq, Repr

/-- One pass of the lsb-release loop: `match key.as_bytes()`. -/
def lsb_entry (lsb : LinuxStandardBase) (key val : LinuxOsStr) : LinuxStandardBase :=
  if key = byte_string "DISTRIB_ID" ∨ key = byte_string "ID" then { lsb with id := val.to_string_lossy }
  else if key = byte_string "DISTRIB_RELEASE" ∨ key = byte_string "VERSION_ID" then
    { lsb with release := val.to_string_lossy }
  else if key = byte_string "DISTRIB_CODENAME" ∨ key = byte_string "VERSION_CODENAME" then
    { lsb with codename := val.to_string_lossy }
  else if key = byte_string "DISTRIB_DESCRIPTION" ∨ key = byte_string "PRETTY_NAME" then
    { lsb with description := val.to_string_lossy }
  else lsb

/-- The closure `linux_standard_base.map(..)` applies: the loop from the default. -/
def linux_standard_base_of (lsb_release : MinidumpLinuxLsbRelease) : LinuxStandardBase :=
  lsb_release.entries.foldl (fun lsb entry => lsb_entry lsb entry.1 entry.2) {}

/-! ## Hexadecimal numerals -/

/-- A hexadecimal digit's value: `0`-`9`, `a`-`f` and `A`-`F`. -/
def HexDigit (c : U8) : Option Nat :=
  if 0x30 ≤ c.toNat ∧ c.toNat ≤ 0x39 then some (c.toNat - 0x30)
  else if 0x61 ≤ c.toNat ∧ c.toNat ≤ 0x66 then some (c.toNat - 0x57)
  else if 0x41 ≤ c.toNat ∧ c.toNat ≤ 0x46 then some (c.toNat - 0x37)
  else none

/-- `digits` is a hexadecimal numeral of `value`, most significant digit first. -/
def HexNumeral (digits : List U8) (value : Nat) : Prop :=
  digits ≠ [] ∧ (∀ c ∈ digits, (HexDigit c).isSome) ∧
    Nat.ofDigits 16 (digits.reverse.map fun c => (HexDigit c).getD 0) = value

/-- The standard library's case-bit trick reads exactly the hexadecimal digits. -/
theorem to_digit_sixteen (c : U8) : to_digit c 16 = HexDigit c := by
  set_option maxRecDepth 2048 in
  have table : ∀ n : Fin 256, to_digit (BitVec.ofFin n) 16 = HexDigit (BitVec.ofFin n) := by decide
  exact table c.toFin

/-- The digit loop returns the numeral's value after the result so far exactly when every
    digit is valid and the value fits in 64 bits: the checks on the way never fail
    earlier, since the result only grows. -/
theorem accumulate_digits_eq_some {radix : Nat} (positive : 0 < radix) :
    ∀ (digits : List U8) (result n : Nat), result < 2 ^ 64 →
      (accumulate_digits radix digits result = some n ↔
        (∀ c ∈ digits, (to_digit c radix).isSome) ∧
        n = result * radix ^ digits.length +
          Nat.ofDigits radix (digits.reverse.map fun c => (to_digit c radix).getD 0) ∧ n < 2 ^ 64)
  | [], result, n, bounded => by
    simp only [accumulate_digits, Option.some.injEq, List.not_mem_nil, List.length_nil, pow_zero, mul_one,
      List.reverse_nil, List.map_nil, Nat.ofDigits_nil, add_zero]
    constructor
    · rintro rfl
      exact ⟨fun _ => False.elim, rfl, bounded⟩
    · exact fun ⟨_, same, _⟩ => same.symm
  | c :: rest, result, n, bounded => by
    have value : Nat.ofDigits radix ((c :: rest).reverse.map fun c => (to_digit c radix).getD 0) =
        Nat.ofDigits radix (rest.reverse.map fun c => (to_digit c radix).getD 0) +
          radix ^ rest.length * (to_digit c radix).getD 0 := by
      simp [Nat.ofDigits_append, Nat.ofDigits_singleton]
    simp only [accumulate_digits]
    cases digit : to_digit c radix with
    | none => simp [digit]
    | some x =>
      simp only [digit, Option.getD_some] at value ⊢
      split_ifs with fits
      · rw [accumulate_digits_eq_some positive rest _ n fits.2, value]
        simp only [List.mem_cons, forall_eq_or_imp, digit, Option.isSome_some, true_and, List.length_cons,
          Option.getD_some]
        constructor <;> rintro ⟨valid, rfl, small⟩ <;> exact ⟨valid, by ring, small⟩
      · simp only [reduceCtorEq, false_iff, not_and]
        intro _ counted small
        have grows : result * radix + x ≤ (result * radix + x) * radix ^ rest.length :=
          Nat.le_mul_of_pos_right _ (Nat.pos_pow_of_pos _ positive)
        have : (result * radix + x) * radix ^ rest.length ≤ n :=
          calc (result * radix + x) * radix ^ rest.length
              ≤ (result * radix + x) * radix ^ rest.length +
                  Nat.ofDigits radix (rest.reverse.map fun c => (to_digit c radix).getD 0) := Nat.le_add_right _ _
            _ = n := by rw [counted, value, List.length_cons, pow_succ]; ring
        exact fits ⟨by omega, by omega⟩

theorem HexDigit_ascii {c : U8} (valid : (HexDigit c).isSome) : c.toNat < 0x80 := by
  unfold HexDigit at valid
  split_ifs at valid <;> first | omega | simp at valid

/-- Read from zero with radix 16, the digit loop gives a hexadecimal numeral's value. -/
theorem accumulate_digits_hex (digits : List U8) (v : U64) :
    (accumulate_digits 16 digits 0).map (BitVec.ofNat 64) = some v ↔
      (∀ c ∈ digits, (HexDigit c).isSome) ∧
        Nat.ofDigits 16 (digits.reverse.map fun c => (HexDigit c).getD 0) = v.toNat := by
  have loop := fun n => @accumulate_digits_eq_some 16 (by norm_num) digits 0 n (by norm_num)
  simp only [zero_mul, zero_add, to_digit_sixteen] at loop
  constructor
  · intro read
    obtain ⟨n, found, rfl⟩ := Option.map_eq_some'.mp read
    obtain ⟨valid, rfl, small⟩ := (loop n).mp found
    exact ⟨valid, by rw [BitVec.toNat_ofNat, Nat.mod_eq_of_lt small]⟩
  · rintro ⟨valid, value⟩
    exact Option.map_eq_some'.mpr ⟨v.toNat, (loop _).mpr ⟨valid, value.symm, v.isLt⟩, by simp⟩

theorem accumulate_digits_numeral {digits : List U8} (nonempty : digits ≠ []) (v : U64) :
    (accumulate_digits 16 digits 0).map (BitVec.ofNat 64) = some v ↔ HexNumeral digits v.toNat := by
  rw [accumulate_digits_hex, HexNumeral, and_iff_right nonempty]

/-- `from_str_radix(src, 16)` accepts exactly an optional `+` and a hexadecimal numeral
    whose value fits in 64 bits. -/
theorem from_str_radix_sixteen (src : List U8) (v : U64) :
    from_str_radix src 16 = some v ↔
      ∃ sign digits, src = sign ++ digits ∧ (sign = [] ∨ sign = [0x2B]) ∧ HexNumeral digits v.toNat := by
  cases src with
  | nil => simp [from_str_radix, HexNumeral]
  | cons c rest =>
    have signs : (∃ sign digits, c :: rest = sign ++ digits ∧ (sign = [] ∨ sign = [0x2B]) ∧
          HexNumeral digits v.toNat) ↔ HexNumeral (c :: rest) v.toNat ∨ (c = 0x2B ∧ HexNumeral rest v.toNat) := by
      constructor
      · rintro ⟨sign, digits, split, rfl | rfl, numeral⟩
        · exact .inl (split ▸ numeral)
        · simp only [List.singleton_append, List.cons.injEq] at split
          exact .inr ⟨split.1, split.2 ▸ numeral⟩
      · rintro (numeral | ⟨rfl, numeral⟩)
        · exact ⟨[], _, rfl, .inl rfl, numeral⟩
        · exact ⟨[0x2B], rest, rfl, .inr rfl, numeral⟩
    have unsigned : ∀ {d : U8}, HexDigit d = none → ¬HexNumeral (d :: rest) v.toNat :=
      fun invalid ⟨_, valid, _⟩ => by simpa [invalid] using valid _ (List.mem_cons_self _ _)
    rw [signs]
    by_cases plus : c = 0x2B
    · subst plus
      rw [or_iff_right (unsigned (d := 0x2B) (by decide)), and_iff_right rfl]
      cases rest with
      | nil => simp [from_str_radix, HexNumeral]
      | cons d more => exact accumulate_digits_numeral (List.cons_ne_nil d more) v
    · rw [or_iff_left fun signed => plus signed.1]
      by_cases minus : c = 0x2D ∧ rest = []
      · obtain ⟨rfl, rfl⟩ := minus
        simpa [from_str_radix] using unsigned (d := 0x2D) (by decide)
      · simp only [from_str_radix, if_neg (show ¬((c = 0x2B ∨ c = 0x2D) ∧ rest = []) by tauto), if_neg plus]
        exact accumulate_digits_numeral (List.cons_ne_nil c rest) v

/-- `str::strip_prefix` of a prefix leaves the rest. -/
theorem strip_prefix_append (pre s : List U8) : strip_prefix (pre ++ s) pre = some s := by
  simp [ strip_prefix]

theorem strip_prefix_eq {s pre rest : List U8} (stripped : strip_prefix s pre = some rest) : s = pre ++ rest := by
  unfold strip_prefix at stripped
  split_ifs at stripped with starts
  cases stripped
  exact (List.prefix_iff_eq_append.mp (List.isPrefixOf_iff_prefix.mp starts)).symm

/-- A `microcode` value is read exactly when it is `0x`, an optional `+` and a hexadecimal
    numeral that fits in 64 bits. -/
theorem microcode_value_eq_some (val : LinuxOsStr) (v : U64) :
    microcode_value val = some v ↔ ∃ sign digits, val = byte_string "0x" ++ sign ++ digits ∧
      (sign = [] ∨ sign = [0x2B]) ∧ HexNumeral digits v.toNat := by
  constructor
  · intro parsed
    unfold microcode_value at parsed
    obtain ⟨rest, stripped, read⟩ := Option.bind_eq_some.mp parsed
    obtain ⟨text, decoded, dropped⟩ := Option.bind_eq_some.mp stripped
    obtain rfl : text = val := by
      unfold LinuxOsStr.to_str from_utf8 at decoded
      split_ifs at decoded
      exact (Option.some.inj decoded).symm
    obtain ⟨sign, digits, rfl, signed, numeral⟩ := (from_str_radix_sixteen rest v).mp read
    exact ⟨sign, digits, by rw [strip_prefix_eq dropped, List.append_assoc], signed, numeral⟩
  · rintro ⟨sign, digits, rfl, signed, numeral⟩
    have ascii : IsAscii (byte_string "0x" ++ sign ++ digits) := by
      simp only [IsAscii, List.mem_append]
      rintro b ((prefixed | signing) | digit)
      · simp only [show byte_string "0x" = [0x30, 0x78] from rfl, List.mem_cons, List.mem_singleton,
          List.not_mem_nil, or_false] at prefixed
        rcases prefixed with rfl | rfl <;> decide
      · rcases signed with rfl | rfl <;> simp_all
      · exact HexDigit_ascii (numeral.2.1 b digit)
    rw [microcode_value, LinuxOsStr.to_str, from_utf8_ascii ascii, Option.some_bind, List.append_assoc,
      strip_prefix_append, Option.some_bind]
    exact (from_str_radix_sixteen _ v).mpr ⟨sign, digits, rfl, signed, numeral⟩

/-- The value of the first entry under `key`. -/
def FirstValue (key : LinuxOsStr) (entries : List (LinuxOsStr × LinuxOsStr)) : Option LinuxOsStr :=
  (entries.find? fun entry => entry.1 = key).map (·.2)

theorem cpu_microcode_version_eq :
    ∀ entries, cpu_microcode_version entries = (FirstValue (byte_string "microcode") entries).bind microcode_value
  | [] => rfl
  | (key, val) :: rest => by
    by_cases found : key = byte_string "microcode"
    · simp [cpu_microcode_version, FirstValue, found]
    · simpa [cpu_microcode_version, FirstValue, found] using cpu_microcode_version_eq rest

/-- `cpu_microcode_version` is the first `microcode` entry's value, when that value is `0x`,
    an optional `+` and a hexadecimal numeral that fits in 64 bits. -/
theorem cpu_microcode_version_eq_some (entries : List (LinuxOsStr × LinuxOsStr)) (v : U64) :
    cpu_microcode_version entries = some v ↔ ∃ val, FirstValue (byte_string "microcode") entries = some val ∧
      ∃ sign digits, val = byte_string "0x" ++ sign ++ digits ∧ (sign = [] ∨ sign = [0x2B]) ∧
        HexNumeral digits v.toNat := by
  rw [cpu_microcode_version_eq, Option.bind_eq_some]
  simp only [microcode_value_eq_some]

/-- `n` in lower-case hexadecimal, as Linux prints the microcode revision after `0x`. -/
def HexText (n : Nat) : List U8 :=
  if n = 0 then [0x30]
  else (Nat.digits 16 n).reverse.map fun d => BitVec.ofNat 8 (if d < 10 then 0x30 + d else 0x57 + d)

theorem HexText_numeral (n : Nat) : HexNumeral (HexText n) n := by
  unfold HexText
  split_ifs with zero
  · subst zero
    exact ⟨by simp, by decide, by decide⟩
  · have digit : ∀ d < 16, HexDigit (BitVec.ofNat 8 (if d < 10 then 0x30 + d else 0x57 + d)) = some d := by decide
    have small : ∀ d ∈ Nat.digits 16 n, d < 16 := fun d member => Nat.digits_lt_base (by norm_num) member
    refine ⟨by simp [Nat.digits_ne_nil_iff_ne_zero, zero], ?_, ?_⟩
    · simp only [List.mem_map, List.mem_reverse]
      rintro c ⟨d, member, rfl⟩
      simp [digit d (small d member)]
    · rw [← List.map_reverse, List.reverse_reverse, List.map_map]
      conv_rhs => rw [← Nat.ofDigits_digits 16 n]
      congr 1
      exact List.map_congr_left (fun d member => by simp [digit d (small d member)]) |>.trans (List.map_id _)

/-- The processor reads back every 64-bit revision as Linux writes it. -/
theorem microcode_value_hex (v : U64) : microcode_value (byte_string "0x" ++ HexText v.toNat) = some v :=
  (microcode_value_eq_some _ v).mpr ⟨[], _, rfl, .inl rfl, HexText_numeral v.toNat⟩

/-! ## The lsb-release fields -/

/-- A field of `LinuxStandardBase`. -/
inductive LsbField where
  | id | release | codename | description
deriving DecidableEq, Repr

/-- The keys that set a field: lsb-release's and os-release's. -/
def LsbField.keys : LsbField → List LinuxOsStr
  | .id => [byte_string "DISTRIB_ID", byte_string "ID"]
  | .release => [byte_string "DISTRIB_RELEASE", byte_string "VERSION_ID"]
  | .codename => [byte_string "DISTRIB_CODENAME", byte_string "VERSION_CODENAME"]
  | .description => [byte_string "DISTRIB_DESCRIPTION", byte_string "PRETTY_NAME"]

def LinuxStandardBase.get (lsb : LinuxStandardBase) : LsbField → String
  | .id => lsb.id
  | .release => lsb.release
  | .codename => lsb.codename
  | .description => lsb.description

/-- The value of the last entry under one of `keys`. -/
def LastValue (keys : List LinuxOsStr) (entries : List (LinuxOsStr × LinuxOsStr)) : Option LinuxOsStr :=
  ((entries.filter fun entry => entry.1 ∈ keys).getLast?).map (·.2)

theorem LsbField.keys_disjoint {key : LinuxOsStr} {f g : LsbField} (in_f : key ∈ f.keys) (in_g : key ∈ g.keys) :
    f = g := by
  cases f <;> cases g <;> simp only [LsbField.keys, List.mem_cons, List.mem_singleton, List.not_mem_nil,
    or_false] at in_f in_g <;> first
    | rfl
    | rcases in_f with rfl | rfl <;> rcases in_g with same | same <;> exact absurd same (by decide)

/-- One pass sets the field whose key it reads and leaves the others. -/
theorem lsb_entry_get (lsb : LinuxStandardBase) (key val : LinuxOsStr) (field : LsbField) :
    (lsb_entry lsb key val).get field = if key ∈ field.keys then val.to_string_lossy else lsb.get field := by
  by_cases member : key ∈ field.keys
  · have sets : ∀ g, key ∈ g.keys ↔ g = field :=
      fun g => ⟨fun in_g => LsbField.keys_disjoint in_g member, fun same => same ▸ member⟩
    have id := sets .id
    have release := sets .release
    have codename := sets .codename
    have description := sets .description
    simp only [LsbField.keys, List.mem_cons, List.mem_singleton, List.not_mem_nil, or_false] at id release
    simp only [LsbField.keys, List.mem_cons, List.mem_singleton, List.not_mem_nil, or_false] at codename description
    simp only [lsb_entry, id, release, codename, description, if_pos member]
    cases field <;> rfl
  · rw [if_neg member]
    unfold lsb_entry
    split_ifs <;> cases field <;> simp_all [LsbField.keys, LinuxStandardBase.get]

theorem LastValue_cons (keys : List LinuxOsStr) (entry : LinuxOsStr × LinuxOsStr)
    (entries : List (LinuxOsStr × LinuxOsStr)) :
    LastValue keys (entry :: entries) = (LastValue keys entries).or (if entry.1 ∈ keys then some entry.2 else none) := by
  unfold LastValue
  by_cases member : entry.1 ∈ keys
  · simp only [List.filter_cons, member, decide_True, if_true, List.getLast?_cons, if_pos member]
    cases (entries.filter fun entry => entry.1 ∈ keys).getLast? <;> rfl
  · simp [List.filter_cons, member]

/-- The lsb-release loop from any record: a field is the last value under its keys, else
    what the record had. -/
theorem lsb_loop_get (field : LsbField) : ∀ (entries : List (LinuxOsStr × LinuxOsStr)) (lsb : LinuxStandardBase),
    (entries.foldl (fun lsb entry => lsb_entry lsb entry.1 entry.2) lsb).get field =
      ((LastValue field.keys entries).map LinuxOsStr.to_string_lossy).getD (lsb.get field)
  | [], _ => rfl
  | entry :: rest, lsb => by
    rw [List.foldl_cons, lsb_loop_get field rest, LastValue_cons, lsb_entry_get]
    cases LastValue field.keys rest <;> split_ifs <;> rfl

/-- Each field of the record is the lossily decoded value of the last entry under one of
    its keys, and empty when there is none. -/
theorem linux_standard_base_of_get (lsb_release : MinidumpLinuxLsbRelease) (field : LsbField) :
    (linux_standard_base_of lsb_release).get field =
      ((LastValue field.keys lsb_release.entries).map LinuxOsStr.to_string_lossy).getD "" := by
  rw [linux_standard_base_of, lsb_loop_get]
  cases field <;> rfl

end MinidumpProcessor
