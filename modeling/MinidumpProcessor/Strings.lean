import MinidumpProcessor.Rust

/-!
# Linux OS strings

`LinuxOsStr` (minidump's strings.rs) is a byte string with no encoding. Its `to_str` and
`to_string_lossy` hand it to the standard library's UTF-8 decoding, `str::from_utf8` and
`String::from_utf8_lossy`, modelled here from the standard library's algorithm
(`Utf8Chunks`): a lead byte says how many continuation bytes follow and, for E0, ED, F0
and F4, narrows the range of the first of them (Unicode's table of well-formed byte
sequences). The bytes of a sequence that breaks off form one ill-formed part, which the
lossy conversion replaces with U+FFFD; the byte that broke it off starts the next
sequence.
-/

namespace MinidumpProcessor

/-- `LinuxOsStr`: bytes. A `&str` it converts to is the same bytes, known to be UTF-8. -/
abbrev LinuxOsStr := List U8

/-- Where the decoder stands between two bytes: between sequences, or owing `owed`
    continuation bytes, the next one in `[low, high]`, with the code point's bits so far. -/
inductive Utf8State where
  | start
  | expect (owed low high acc : Nat)
deriving DecidableEq, Repr

/-- A byte read between sequences: an ASCII character, the lead of a longer sequence, or
    an ill-formed part of its own. -/
def utf8_first (b : U8) : List (Option Char) × Utf8State :=
  let n := b.toNat
  if n < 0x80 then ([some (Char.ofNat n)], .start)
  else if 0xC2 ≤ n ∧ n ≤ 0xDF then ([], .expect 1 0x80 0xBF (n % 32))
  else if n = 0xE0 then ([], .expect 2 0xA0 0xBF (n % 16))
  else if 0xE1 ≤ n ∧ n ≤ 0xEC ∨ 0xEE ≤ n ∧ n ≤ 0xEF then ([], .expect 2 0x80 0xBF (n % 16))
  else if n = 0xED then ([], .expect 2 0x80 0x9F (n % 16))
  else if n = 0xF0 then ([], .expect 3 0x90 0xBF (n % 8))
  else if 0xF1 ≤ n ∧ n ≤ 0xF3 then ([], .expect 3 0x80 0xBF (n % 8))
  else if n = 0xF4 then ([], .expect 3 0x80 0x8F (n % 8))
  else ([none], .start)

/-- One byte: what it completes, and the state after it. A byte outside the expected
    range ends the pending sequence as an ill-formed part and is read again as a lead. -/
def utf8_step : Utf8State → U8 → List (Option Char) × Utf8State
  | .start, b => utf8_first b
  | .expect owed low high acc, b =>
    if low ≤ b.toNat ∧ b.toNat ≤ high then
      if owed = 1 then ([some (Char.ofNat (acc * 64 + b.toNat % 64))], .start)
      else ([], .expect (owed - 1) 0x80 0xBF (acc * 64 + b.toNat % 64))
    else ((utf8_first b).1.cons none, (utf8_first b).2)

/-- The characters (`some`) and ill-formed parts (`none`) of a byte string, from a state:
    `Utf8Chunks`, with a sequence cut off by the end as a last ill-formed part. -/
def utf8_chunks (state : Utf8State) : List U8 → List (Option Char)
  | [] => if state = .start then [] else [none]
  | b :: rest => (utf8_step state b).1 ++ utf8_chunks (utf8_step state b).2 rest

/-- `str::from_utf8(v).ok()`: the bytes as a `&str` when they are well-formed UTF-8. -/
def from_utf8 (v : List U8) : Option LinuxOsStr :=
  if (utf8_chunks .start v).all Option.isSome then some v else none

/-- `String::from_utf8_lossy`: every ill-formed part becomes U+FFFD. -/
def from_utf8_lossy (v : List U8) : String :=
  ⟨(utf8_chunks .start v).map (·.getD (Char.ofNat 0xFFFD))⟩

/-- `LinuxOsStr::to_str(..).ok()`; the processor drops the `Utf8Error`. -/
def LinuxOsStr.to_str (s : LinuxOsStr) : Option LinuxOsStr := from_utf8 s

/-- `LinuxOsStr::to_string_lossy`. -/
def LinuxOsStr.to_string_lossy (s : LinuxOsStr) : String := from_utf8_lossy s

/-! ## ASCII -/

/-- Bytes below 0x80: each one a character of its own. -/
def IsAscii (s : LinuxOsStr) : Prop := ∀ b ∈ s, b.toNat < 0x80

instance (s : LinuxOsStr) : Decidable (IsAscii s) := inferInstanceAs (Decidable (∀ b ∈ s, _))

theorem utf8_chunks_ascii {s : LinuxOsStr} (ascii : IsAscii s) :
    utf8_chunks .start s = s.map fun b => some (Char.ofNat b.toNat) := by
  induction s with
  | nil => rfl
  | cons b rest ih =>
    have low : b.toNat < 0x80 := ascii b (List.mem_cons_self b rest)
    simp only [utf8_chunks, utf8_step, utf8_first, if_pos low, List.map_cons, List.singleton_append,
      ih fun c member => ascii c (List.mem_cons_of_mem b member)]

/-- ASCII bytes are well-formed UTF-8. -/
theorem from_utf8_ascii {s : LinuxOsStr} (ascii : IsAscii s) : from_utf8 s = some s := by
  simp [from_utf8, utf8_chunks_ascii ascii]

/-- The lossy conversion reads ASCII bytes as the characters they encode. -/
theorem from_utf8_lossy_ascii {s : LinuxOsStr} (ascii : IsAscii s) :
    from_utf8_lossy s = ⟨s.map fun b => Char.ofNat b.toNat⟩ := by
  simp [from_utf8_lossy, utf8_chunks_ascii ascii, Function.comp_def]

example : from_utf8_lossy [0x41, 0xC3, 0xA9, 0xE2, 0x82, 0x41, 0xFF] = "Aé�A�" := by decide

/-! ## Well-formed text

The encoding below is Unicode's bit layout of a code point over one to four bytes; the
decoder reads every encoded text back, so `to_str` accepts it and `to_string_lossy`
returns the text itself. -/

/-- The UTF-8 encoding of a character: its code point's bits over one to four bytes. -/
def Utf8Encode (c : Char) : List U8 :=
  if c.toNat < 0x80 then [BitVec.ofNat 8 c.toNat]
  else if c.toNat < 0x800 then [BitVec.ofNat 8 (0xC0 + c.toNat / 64), BitVec.ofNat 8 (0x80 + c.toNat % 64)]
  else if c.toNat < 0x10000 then
    [BitVec.ofNat 8 (0xE0 + c.toNat / 4096), BitVec.ofNat 8 (0x80 + c.toNat / 64 % 64),
      BitVec.ofNat 8 (0x80 + c.toNat % 64)]
  else
    [BitVec.ofNat 8 (0xF0 + c.toNat / 262144), BitVec.ofNat 8 (0x80 + c.toNat / 4096 % 64),
      BitVec.ofNat 8 (0x80 + c.toNat / 64 % 64), BitVec.ofNat 8 (0x80 + c.toNat % 64)]

/-- The UTF-8 encoding of a text. -/
def Utf8Text (t : String) : LinuxOsStr := t.data.flatMap Utf8Encode

theorem utf8_chunks_cons (state : Utf8State) (b : U8) (rest : List U8) :
    utf8_chunks state (b :: rest) = (utf8_step state b).1 ++ utf8_chunks (utf8_step state b).2 rest := rfl

theorem byte_toNat {n : Nat} (small : n < 256) : (BitVec.ofNat 8 n).toNat = n := by
  rw [BitVec.toNat_ofNat]
  omega

theorem utf8_first_ascii {n : Nat} (ascii : n < 0x80) :
    utf8_first (BitVec.ofNat 8 n) = ([some (Char.ofNat n)], .start) := by
  simp [utf8_first, byte_toNat (by omega : n < 256), ascii]

theorem utf8_first_two {n : Nat} (lead : 0xC2 ≤ n ∧ n ≤ 0xDF) :
    utf8_first (BitVec.ofNat 8 n) = ([], .expect 1 0x80 0xBF (n % 32)) := by
  unfold utf8_first
  rw [byte_toNat (by omega), if_neg (by omega), if_pos lead]

theorem utf8_first_three {n : Nat} (lead : 0xE0 ≤ n ∧ n ≤ 0xEF) :
    utf8_first (BitVec.ofNat 8 n) =
      ([], .expect 2 (if n = 0xE0 then 0xA0 else 0x80) (if n = 0xED then 0x9F else 0xBF) (n % 16)) := by
  unfold utf8_first
  rw [byte_toNat (by omega), if_neg (by omega), if_neg (by omega)]
  by_cases e0 : n = 0xE0
  · subst e0
    rfl
  · by_cases ed : n = 0xED
    · subst ed
      rfl
    · simp only [if_neg e0, if_neg ed, if_pos (show 0xE1 ≤ n ∧ n ≤ 0xEC ∨ 0xEE ≤ n ∧ n ≤ 0xEF by omega)]

theorem utf8_first_four {n : Nat} (lead : 0xF0 ≤ n ∧ n ≤ 0xF4) :
    utf8_first (BitVec.ofNat 8 n) =
      ([], .expect 3 (if n = 0xF0 then 0x90 else 0x80) (if n = 0xF4 then 0x8F else 0xBF) (n % 8)) := by
  unfold utf8_first
  rw [byte_toNat (by omega), if_neg (by omega), if_neg (by omega), if_neg (by omega), if_neg (by omega),
    if_neg (by omega)]
  by_cases f0 : n = 0xF0
  · subst f0
    rfl
  · by_cases f4 : n = 0xF4
    · subst f4
      rfl
    · simp only [if_neg f0, if_neg f4, if_pos (show 0xF1 ≤ n ∧ n ≤ 0xF3 by omega)]

theorem utf8_step_last {low high acc n : Nat} (small : n < 256) (within : low ≤ n ∧ n ≤ high) :
    utf8_step (.expect 1 low high acc) (BitVec.ofNat 8 n) = ([some (Char.ofNat (acc * 64 + n % 64))], .start) := by
  simp [utf8_step, byte_toNat small, within]

theorem utf8_step_more {owed low high acc n : Nat} (small : n < 256) (within : low ≤ n ∧ n ≤ high) (more : owed ≠ 1) :
    utf8_step (.expect owed low high acc) (BitVec.ofNat 8 n) =
      ([], .expect (owed - 1) 0x80 0xBF (acc * 64 + n % 64)) := by
  simp [utf8_step, byte_toNat small, within, more]

/-- The decoder reads a character's encoding back as the character. -/
theorem utf8_chunks_encode (c : Char) (rest : List U8) :
    utf8_chunks .start (Utf8Encode c ++ rest) = some c :: utf8_chunks .start rest := by
  have valid : c.toNat < 0xD800 ∨ 0xDFFF < c.toNat ∧ c.toNat < 0x110000 := c.valid
  conv_rhs => rw [← Char.ofNat_toNat c]
  unfold Utf8Encode
  generalize c.toNat = v at valid ⊢
  split_ifs with one two three
  · rw [List.singleton_append, utf8_chunks_cons, utf8_step, utf8_first_ascii one]
    rfl
  · rw [List.cons_append, utf8_chunks_cons, utf8_step, utf8_first_two (by omega), List.singleton_append,
      utf8_chunks_cons, utf8_step_last (by omega) (by omega),
      show (0xC0 + v / 64) % 32 * 64 + (0x80 + v % 64) % 64 = v by omega]
    rfl
  · rw [List.cons_append, utf8_chunks_cons, utf8_step, utf8_first_three (by omega), List.cons_append,
      utf8_chunks_cons, utf8_step_more (by omega) (by split_ifs <;> omega) (by omega), List.singleton_append,
      utf8_chunks_cons, utf8_step_last (by omega) (by omega),
      show ((0xE0 + v / 4096) % 16 * 64 + (0x80 + v / 64 % 64) % 64) * 64 + (0x80 + v % 64) % 64 = v by omega]
    rfl
  · rw [List.cons_append, utf8_chunks_cons, utf8_step, utf8_first_four (by omega), List.cons_append,
      utf8_chunks_cons, utf8_step_more (by omega) (by split_ifs <;> omega) (by omega), List.cons_append,
      utf8_chunks_cons, utf8_step_more (by omega) (by omega) (by omega), List.singleton_append,
      utf8_chunks_cons, utf8_step_last (by omega) (by omega),
      show (((0xF0 + v / 262144) % 8 * 64 + (0x80 + v / 4096 % 64) % 64) * 64 + (0x80 + v / 64 % 64) % 64) * 64 +
        (0x80 + v % 64) % 64 = v by omega]
    rfl

theorem utf8_chunks_text (cs : List Char) : utf8_chunks .start (cs.flatMap Utf8Encode) = cs.map some := by
  induction cs with
  | nil => rfl
  | cons c rest ih => rw [List.flatMap_cons, utf8_chunks_encode, ih, List.map_cons]

/-- A text's encoding is accepted as it is, and read back as the text. -/
theorem to_string_lossy_text (t : String) :
    (Utf8Text t).to_str = some (Utf8Text t) ∧ (Utf8Text t).to_string_lossy = t := by
  simp [LinuxOsStr.to_str, LinuxOsStr.to_string_lossy, from_utf8, from_utf8_lossy, Utf8Text, utf8_chunks_text,
    Function.comp_def]

/-! ## Only well-formed text is accepted -/

theorem char_toNat_ofNat {n : Nat} (valid : n < 0xD800 ∨ 0xDFFF < n ∧ n < 0x110000) : (Char.ofNat n).toNat = n := by
  simp only [Char.ofNat, Nat.isValidChar, valid, dite_true, Char.ofNatAux, Char.toNat]
  rfl

theorem Utf8Encode_ascii {n : Nat} (ascii : n < 0x80) : Utf8Encode (Char.ofNat n) = [BitVec.ofNat 8 n] := by
  rw [Utf8Encode, char_toNat_ofNat (by omega), if_pos ascii]

theorem Utf8Encode_two {n n1 : Nat} (lead : 0xC2 ≤ n ∧ n ≤ 0xDF) (cont : 0x80 ≤ n1 ∧ n1 ≤ 0xBF) :
    Utf8Encode (Char.ofNat (n % 32 * 64 + n1 % 64)) = [BitVec.ofNat 8 n, BitVec.ofNat 8 n1] := by
  have valid : n % 32 * 64 + n1 % 64 < 0xD800 := by omega
  rw [Utf8Encode, char_toNat_ofNat (.inl valid), if_neg (by omega), if_pos (by omega)]
  simp only [List.cons.injEq, and_true]
  exact ⟨congrArg _ (by omega), congrArg _ (by omega)⟩

/-- A number's base-64 digits, most significant first. -/
theorem base64_digits {a b c d : Nat} (hb : b < 64) (hc : c < 64) (hd : d < 64) :
    (((a * 64 + b) * 64 + c) * 64 + d) / 262144 = a ∧ (((a * 64 + b) * 64 + c) * 64 + d) / 4096 % 64 = b ∧
      (((a * 64 + b) * 64 + c) * 64 + d) / 64 % 64 = c ∧ (((a * 64 + b) * 64 + c) * 64 + d) % 64 = d := by
  omega

theorem Utf8Encode_three {n n1 n2 : Nat} (lead : 0xE0 ≤ n ∧ n ≤ 0xEF)
    (second : (if n = 0xE0 then 0xA0 else 0x80) ≤ n1 ∧ n1 ≤ (if n = 0xED then 0x9F else 0xBF))
    (cont : 0x80 ≤ n2 ∧ n2 ≤ 0xBF) :
    Utf8Encode (Char.ofNat ((n % 16 * 64 + n1 % 64) * 64 + n2 % 64)) =
      [BitVec.ofNat 8 n, BitVec.ofNat 8 n1, BitVec.ofNat 8 n2] := by
  have cont1 : 0x80 ≤ n1 ∧ n1 ≤ 0xBF := by split_ifs at second <;> omega
  have bytes : 0xE0 + n % 16 = n ∧ 0x80 + n1 % 64 = n1 ∧ 0x80 + n2 % 64 = n2 := by omega
  have range : 0x800 ≤ (n % 16 * 64 + n1 % 64) * 64 + n2 % 64 ∧ (n % 16 * 64 + n1 % 64) * 64 + n2 % 64 < 0xD800 ∨
      0xE000 ≤ (n % 16 * 64 + n1 % 64) * 64 + n2 % 64 ∧ (n % 16 * 64 + n1 % 64) * 64 + n2 % 64 < 0x10000 := by
    split_ifs at second <;> omega
  obtain ⟨top, high, middle, low⟩ := base64_digits (a := 0) (b := n % 16) (by omega) (Nat.mod_lt n1 (by omega))
    (Nat.mod_lt n2 (by omega))
  rw [zero_mul, zero_add] at top high middle low
  generalize (n % 16 * 64 + n1 % 64) * 64 + n2 % 64 = point at range top high middle low ⊢
  rw [Utf8Encode, char_toNat_ofNat (by omega), if_neg (by omega), if_neg (by omega), if_pos (by omega),
    show point / 4096 = n % 16 by omega, middle, low, bytes.1, bytes.2.1, bytes.2.2]

theorem Utf8Encode_four {n n1 n2 n3 : Nat} (lead : 0xF0 ≤ n ∧ n ≤ 0xF4)
    (second : (if n = 0xF0 then 0x90 else 0x80) ≤ n1 ∧ n1 ≤ (if n = 0xF4 then 0x8F else 0xBF))
    (cont2 : 0x80 ≤ n2 ∧ n2 ≤ 0xBF) (cont3 : 0x80 ≤ n3 ∧ n3 ≤ 0xBF) :
    Utf8Encode (Char.ofNat (((n % 8 * 64 + n1 % 64) * 64 + n2 % 64) * 64 + n3 % 64)) =
      [BitVec.ofNat 8 n, BitVec.ofNat 8 n1, BitVec.ofNat 8 n2, BitVec.ofNat 8 n3] := by
  have cont1 : 0x80 ≤ n1 ∧ n1 ≤ 0xBF := by split_ifs at second <;> omega
  have bytes : 0xF0 + n % 8 = n ∧ 0x80 + n1 % 64 = n1 ∧ 0x80 + n2 % 64 = n2 ∧ 0x80 + n3 % 64 = n3 := by omega
  have range : 0x10000 ≤ ((n % 8 * 64 + n1 % 64) * 64 + n2 % 64) * 64 + n3 % 64 ∧
      ((n % 8 * 64 + n1 % 64) * 64 + n2 % 64) * 64 + n3 % 64 < 0x110000 := by
    split_ifs at second <;> omega
  obtain ⟨top, high, middle, low⟩ := base64_digits (a := n % 8) (Nat.mod_lt n1 (by omega))
    (Nat.mod_lt n2 (by omega)) (Nat.mod_lt n3 (by omega))
  generalize ((n % 8 * 64 + n1 % 64) * 64 + n2 % 64) * 64 + n3 % 64 = point at range top high middle low ⊢
  rw [Utf8Encode, char_toNat_ofNat (by omega), if_neg (by omega), if_neg (by omega), if_neg (by omega), top, high,
    middle, low, bytes.1, bytes.2.1, bytes.2.2.1, bytes.2.2.2]

/-- From a pending state, a decoding with no ill-formed part goes on with a byte in range. -/
theorem utf8_chunks_expect {owed low high acc : Nat} {bytes : List U8} {cs : List Char}
    (decoded : utf8_chunks (.expect owed low high acc) bytes = cs.map some) :
    ∃ n rest, bytes = BitVec.ofNat 8 n :: rest ∧ n < 256 ∧ low ≤ n ∧ n ≤ high := by
  cases bytes with
  | nil => cases cs <;> simp [utf8_chunks] at decoded
  | cons b rest =>
    by_cases within : low ≤ b.toNat ∧ b.toNat ≤ high
    · exact ⟨b.toNat, rest, by simp, b.isLt, within⟩
    · rw [utf8_chunks_cons, utf8_step, if_neg within] at decoded
      cases cs <;> simp at decoded

theorem utf8_chunks_cons_some {c : Char} {tail : List (Option Char)} {cs : List Char}
    (decoded : some c :: tail = cs.map some) : ∃ rest, cs = c :: rest ∧ tail = rest.map some := by
  cases cs with
  | nil => cases decoded
  | cons d rest =>
    simp only [List.map_cons, List.cons.injEq, Option.some.injEq] at decoded
    exact ⟨rest, by rw [decoded.1], decoded.2⟩

/-- A continuation byte that leaves more owed: it is in range and the rest is decoded
    from the extended accumulator. -/
theorem utf8_chunks_more {owed low high acc : Nat} {bytes : List U8} {cs : List Char} (more : owed ≠ 1)
    (decoded : utf8_chunks (.expect owed low high acc) bytes = cs.map some) :
    ∃ n rest, bytes = BitVec.ofNat 8 n :: rest ∧ (low ≤ n ∧ n ≤ high) ∧
      utf8_chunks (.expect (owed - 1) 0x80 0xBF (acc * 64 + n % 64)) rest = cs.map some := by
  obtain ⟨n, rest, rfl, small, within⟩ := utf8_chunks_expect decoded
  rw [utf8_chunks_cons, utf8_step_more small within more, List.nil_append] at decoded
  exact ⟨n, rest, rfl, within, decoded⟩

/-- The last continuation byte: it is in range, completes the character, and the rest is
    decoded from the start. -/
theorem utf8_chunks_last {low high acc : Nat} {bytes : List U8} {cs : List Char}
    (decoded : utf8_chunks (.expect 1 low high acc) bytes = cs.map some) :
    ∃ n rest tail, bytes = BitVec.ofNat 8 n :: rest ∧ (low ≤ n ∧ n ≤ high) ∧
      cs = Char.ofNat (acc * 64 + n % 64) :: tail ∧ utf8_chunks .start rest = tail.map some := by
  obtain ⟨n, rest, rfl, small, within⟩ := utf8_chunks_expect decoded
  rw [utf8_chunks_cons, utf8_step_last small within, List.singleton_append] at decoded
  obtain ⟨tail, rfl, read⟩ := utf8_chunks_cons_some decoded
  exact ⟨n, rest, tail, rfl, within, rfl, read⟩

theorem utf8_first_invalid {n : Nat} (small : n < 256) (invalid : 0x80 ≤ n ∧ n < 0xC2 ∨ 0xF4 < n) :
    utf8_first (BitVec.ofNat 8 n) = ([none], .start) := by
  unfold utf8_first
  rw [byte_toNat small]
  repeat rw [if_neg (by omega)]

/-- Bytes whose decoding has no ill-formed part are the encoding of the characters decoded. -/
theorem utf8_chunks_well_formed (bytes : List U8) (cs : List Char) (decoded : utf8_chunks .start bytes = cs.map some) :
    bytes = cs.flatMap Utf8Encode := by
  match bytes, cs, decoded with
  | [], cs, decoded => cases cs <;> simp_all [utf8_chunks]
  | b :: rest, cs, decoded =>
    obtain ⟨n, small, rfl⟩ : ∃ n, n < 256 ∧ b = BitVec.ofNat 8 n := ⟨b.toNat, b.isLt, by simp⟩
    rw [utf8_chunks_cons, utf8_step] at decoded
    by_cases ascii : n < 0x80
    · rw [utf8_first_ascii ascii, List.singleton_append] at decoded
      obtain ⟨cs, rfl, tail⟩ := utf8_chunks_cons_some decoded
      rw [List.flatMap_cons, Utf8Encode_ascii ascii, utf8_chunks_well_formed rest cs tail]
      rfl
    by_cases two : 0xC2 ≤ n ∧ n ≤ 0xDF
    · rw [utf8_first_two two, List.nil_append] at decoded
      obtain ⟨n1, rest, cs, rfl, cont, rfl, tail⟩ := utf8_chunks_last decoded
      rw [List.flatMap_cons, Utf8Encode_two two cont, utf8_chunks_well_formed rest cs tail]
      rfl
    by_cases three : 0xE0 ≤ n ∧ n ≤ 0xEF
    · rw [utf8_first_three three, List.nil_append] at decoded
      obtain ⟨n1, rest, rfl, second, decoded⟩ := utf8_chunks_more (by omega) decoded
      obtain ⟨n2, rest, cs, rfl, cont, rfl, tail⟩ := utf8_chunks_last decoded
      rw [List.flatMap_cons, Utf8Encode_three three second cont, utf8_chunks_well_formed rest cs tail]
      rfl
    by_cases four : 0xF0 ≤ n ∧ n ≤ 0xF4
    · rw [utf8_first_four four, List.nil_append] at decoded
      obtain ⟨n1, rest, rfl, second, decoded⟩ := utf8_chunks_more (by omega) decoded
      obtain ⟨n2, rest, rfl, cont2, decoded⟩ := utf8_chunks_more (by omega) decoded
      obtain ⟨n3, rest, cs, rfl, cont3, rfl, tail⟩ := utf8_chunks_last decoded
      rw [List.flatMap_cons, Utf8Encode_four four second cont2 cont3, utf8_chunks_well_formed rest cs tail]
      rfl
    rw [utf8_first_invalid small (by omega)] at decoded
    cases cs <;> simp at decoded
termination_by bytes.length

theorem utf8_chunks_all_some {chunks : List (Option Char)} (all : chunks.all Option.isSome) (d : Char) :
    chunks = (chunks.map (·.getD d)).map some := by
  induction chunks with
  | nil => rfl
  | cons chunk rest ih =>
    cases chunk with
    | none => simp at all
    | some c =>
      rw [List.all_cons, Option.isSome_some, Bool.true_and] at all
      rw [List.map_cons, List.map_cons, Option.getD_some, ← ih all]

/-- `to_str` accepts exactly the UTF-8 encodings of texts, as the same bytes, and
    `to_string_lossy` reads such an encoding back as its text. -/
theorem to_str_accepts_text (s : LinuxOsStr) :
    ((∃ w, s.to_str = some w) ↔ ∃ t, s = Utf8Text t) ∧
      ∀ t, s = Utf8Text t → s.to_str = some s ∧ s.to_string_lossy = t := by
  refine ⟨⟨fun ⟨w, accepted⟩ => ?_, fun ⟨t, encoded⟩ => ⟨s, encoded ▸ (to_string_lossy_text t).1⟩⟩,
    fun t encoded => encoded ▸ to_string_lossy_text t⟩
  unfold LinuxOsStr.to_str from_utf8 at accepted
  split_ifs at accepted with all
  refine ⟨s.to_string_lossy, ?_⟩
  simpa [Utf8Text, LinuxOsStr.to_string_lossy, from_utf8_lossy] using
    utf8_chunks_well_formed s _ (utf8_chunks_all_some all (Char.ofNat 0xFFFD))

/-! ## Resynchronising on well-formed text

Every sequence the decoder leaves pending expects a continuation byte, 80 to BF, which
neither an ASCII byte nor the lead of an encoding is. So a well-formed text ends the
pending sequence as one ill-formed part, exactly as the end of the input does, and is
then decoded from the start. -/

/-- A pending sequence's next byte must be a continuation byte. -/
def Utf8State.ContinuationRange : Utf8State → Prop
  | .start => True
  | .expect _ low high _ => 0x80 ≤ low ∧ high ≤ 0xBF

instance : DecidablePred Utf8State.ContinuationRange
  | .start => isTrue trivial
  | .expect _ low high _ => inferInstanceAs (Decidable (0x80 ≤ low ∧ high ≤ 0xBF))

/-- A byte read between sequences yields one item and returns to the start, or yields
    nothing and waits for a continuation byte. -/
theorem utf8_first_cases (b : U8) :
    (∃ c, utf8_first b = ([c], .start)) ∨
      ∃ owed low high acc, utf8_first b = ([], .expect owed low high acc) ∧ 0x80 ≤ low ∧ high ≤ 0xBF := by
  obtain ⟨n, small, rfl⟩ : ∃ n, n < 256 ∧ b = BitVec.ofNat 8 n := ⟨b.toNat, b.isLt, by simp⟩
  by_cases ascii : n < 0x80
  · exact .inl ⟨_, utf8_first_ascii ascii⟩
  by_cases two : 0xC2 ≤ n ∧ n ≤ 0xDF
  · exact .inr ⟨_, _, _, _, utf8_first_two two, le_refl _, le_refl _⟩
  by_cases three : 0xE0 ≤ n ∧ n ≤ 0xEF
  · exact .inr ⟨_, _, _, _, utf8_first_three three, by split_ifs <;> decide, by split_ifs <;> decide⟩
  by_cases four : 0xF0 ≤ n ∧ n ≤ 0xF4
  · exact .inr ⟨_, _, _, _, utf8_first_four four, by split_ifs <;> decide, by split_ifs <;> decide⟩
  · exact .inl ⟨_, utf8_first_invalid small (by omega)⟩

theorem utf8_first_range (b : U8) : (utf8_first b).2.ContinuationRange := by
  rcases utf8_first_cases b with ⟨c, first⟩ | ⟨owed, low, high, acc, first, range⟩ <;> rw [first]
  · trivial
  · exact range

/-- Each step keeps the decoder's state in range. -/
theorem utf8_step_range {state : Utf8State} (range : state.ContinuationRange) (b : U8) :
    (utf8_step state b).2.ContinuationRange := by
  cases state with
  | start => exact utf8_first_range b
  | expect owed low high acc =>
    simp only [utf8_step]
    split_ifs
    · trivial
    · exact ⟨le_refl _, le_refl _⟩
    · exact utf8_first_range b

/-- A character's encoding starts with an ASCII byte or a lead byte, never a continuation
    byte. -/
theorem Utf8Encode_lead (c : Char) : ∃ b bs, Utf8Encode c = b :: bs ∧ (b.toNat < 0x80 ∨ 0xC0 ≤ b.toNat) := by
  have valid : c.toNat < 0xD800 ∨ 0xDFFF < c.toNat ∧ c.toNat < 0x110000 := c.valid
  unfold Utf8Encode
  split_ifs <;> exact ⟨_, _, rfl, by rw [byte_toNat (by omega)]; omega⟩

/-- A byte that is not a continuation byte ends a pending sequence as the end of the
    input would, and is then read from the start. -/
theorem utf8_chunks_resync {state : Utf8State} (range : state.ContinuationRange) {b : U8}
    (lead : b.toNat < 0x80 ∨ 0xC0 ≤ b.toNat) (rest : List U8) :
    utf8_chunks state (b :: rest) = utf8_chunks state [] ++ utf8_chunks .start (b :: rest) := by
  cases state with
  | start => rfl
  | expect owed low high acc =>
    have outside : ¬(low ≤ b.toNat ∧ b.toNat ≤ high) := by
      simp only [Utf8State.ContinuationRange] at range
      omega
    simp [utf8_chunks, utf8_step, outside]

theorem utf8_chunks_append_text (cs : List Char) : ∀ {state : Utf8State} (v : List U8), state.ContinuationRange →
    utf8_chunks state (v ++ cs.flatMap Utf8Encode) = utf8_chunks state v ++ cs.map some
  | state, [], range => by
    cases cs with
    | nil => simp
    | cons c cs =>
      obtain ⟨b, bs, encoded, lead⟩ := Utf8Encode_lead c
      rw [List.nil_append, List.flatMap_cons, encoded, List.cons_append, utf8_chunks_resync range lead,
        ← List.cons_append, ← encoded, ← List.flatMap_cons, utf8_chunks_text]
  | state, b :: v, range => by
    rw [List.cons_append, utf8_chunks_cons, utf8_chunks_cons,
      utf8_chunks_append_text cs v (utf8_step_range range b), List.append_assoc]

/-- Whatever bytes come before a well-formed text, the lossy conversion gives the text
    intact after the conversion of those bytes, and the whole is accepted exactly when
    those bytes are. -/
theorem to_string_lossy_append_text (v : LinuxOsStr) (t : String) :
    (v ++ Utf8Text t).to_string_lossy = v.to_string_lossy ++ t ∧
      (v ++ Utf8Text t).to_str = v.to_str.map (· ++ Utf8Text t) := by
  have chunks := @utf8_chunks_append_text t.data .start v trivial
  constructor
  · apply String.ext
    simp [LinuxOsStr.to_string_lossy, from_utf8_lossy, Utf8Text, chunks, Function.comp_def]
  · unfold LinuxOsStr.to_str from_utf8
    rw [Utf8Text, chunks, List.all_append]
    split_ifs <;> simp_all

/-! ## At most one character per byte -/

/-- One for a pending sequence: the bytes it has read have produced nothing yet. -/
def Utf8State.pending : Utf8State → Nat
  | .start => 0
  | .expect .. => 1

theorem utf8_first_length (b : U8) : (utf8_first b).1.length + (utf8_first b).2.pending ≤ 1 := by
  rcases utf8_first_cases b with ⟨c, first⟩ | ⟨owed, low, high, acc, first, -⟩ <;> rw [first] <;> exact Nat.le_refl 1

/-- A step produces at most one item for its byte and one for the sequence it ends. -/
theorem utf8_step_length (state : Utf8State) (b : U8) :
    (utf8_step state b).1.length + (utf8_step state b).2.pending ≤ 1 + state.pending := by
  have first := utf8_first_length b
  cases state with
  | start => simpa [utf8_step, Utf8State.pending] using first
  | expect owed low high acc =>
    simp only [utf8_step]
    split_ifs <;> simp [Utf8State.pending] at first ⊢
    omega

theorem utf8_chunks_length : ∀ (state : Utf8State) (v : List U8),
    (utf8_chunks state v).length ≤ v.length + state.pending
  | .start, [] => by simp [utf8_chunks]
  | .expect .., [] => by simp [utf8_chunks, Utf8State.pending]
  | state, b :: rest => by
    have step := utf8_step_length state b
    have run := utf8_chunks_length (utf8_step state b).2 rest
    rw [utf8_chunks_cons, List.length_append, List.length_cons]
    omega

/-- The lossy conversion never yields more characters than the string has bytes. -/
theorem to_string_lossy_length (s : LinuxOsStr) : s.to_string_lossy.length ≤ s.length := by
  simpa [LinuxOsStr.to_string_lossy, from_utf8_lossy, String.length, Utf8State.pending] using
    utf8_chunks_length .start s

end MinidumpProcessor
