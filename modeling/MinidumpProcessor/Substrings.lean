import MinidumpProcessor.Strings
import Mathlib.Data.List.DropRight

/-!
# Substrings of a Linux OS string

The helpers of strings.rs that return pieces of their input: `split_once` and
`rsplit_once` cut at the first or the last separator, and `trim_ascii_whitespace` cuts
off leading and trailing ASCII whitespace. Each finds its indices with the standard
library's searches `position` and `rposition`, then slices. The index a search returns is
the length of the part of the input before the element it found (`position_of_append`,
`rposition_of_append`), so every slice is in bounds and cuts the input there.

`split`, `split_ascii_whitespace` and `lines` collect the standard library's slice
iterator `split` (`split_bytes`), whose pieces at any separator are those of either side
(`split_bytes_append_sep`). The single splits agree with it
(`split_once_rsplit_once_pieces`).

Trimming is stated by `Trimmed s r`: `r` is `s` less a whitespace prefix and suffix, and
begins and ends with a byte that is not whitespace. Whatever meets it is what
`trim_ascii_whitespace` returns (`trim_ascii_whitespace_of_trimmed`), and dropping the
whitespace from the front and then from the back meets it. Trimming keeps the words
(`trim_ascii_whitespace_keeps_words`).
-/

namespace MinidumpProcessor

/-! ## The standard library's searches -/

/-- `Iterator::position`: the index of the first element the predicate accepts. -/
def position {α : Type} (predicate : α → Bool) (xs : List α) : Option Nat :=
  go 0 xs
where
  go (i : Nat) : List α → Option Nat
    | [] => none
    | x :: rest => if predicate x then some i else go (i + 1) rest

/-- `Iterator::rposition`: from the back, starting from the length; each step counts the
    index down and returns it if the predicate accepts the element. -/
def rposition {α : Type} (predicate : α → Bool) (xs : List α) : Option Nat :=
  go xs.length xs.reverse
where
  go (i : Nat) : List α → Option Nat
    | [] => none
    | x :: rest => if predicate x then some (i - 1) else go (i - 1) rest

section Search

variable {α : Type} {P : α → Bool}

theorem position_go_append {x : α} {post : List α} (accepted : P x) :
    ∀ {pre : List α} {i : Nat}, (∀ y ∈ pre, P y = false) → position.go P i (pre ++ x :: post) = some (i + pre.length)
  | [], i, _ => by simp [position.go, accepted]
  | y :: pre, i, rejected => by
    rw [List.cons_append, position.go, if_neg (by simp [rejected y (List.mem_cons_self _ _)]),
      position_go_append accepted fun z member => rejected z (List.mem_cons_of_mem _ member), List.length_cons,
      Nat.add_right_comm, Nat.add_assoc]

theorem position_go_none : ∀ {xs : List α} {i : Nat}, (∀ y ∈ xs, P y = false) → position.go P i xs = none
  | [], _, _ => rfl
  | y :: rest, _, rejected => by
    rw [position.go, if_neg (by simp [rejected y (List.mem_cons_self _ _)]),
      position_go_none fun z member => rejected z (List.mem_cons_of_mem _ member)]

/-- The first accepted element is found at the length of the part before it. -/
theorem position_of_append {pre post : List α} {x : α} (accepted : P x) (before : ∀ y ∈ pre, P y = false) :
    position P (pre ++ x :: post) = some pre.length := by
  rw [position, position_go_append accepted before, Nat.zero_add]

theorem position_of_forall {xs : List α} (rejected : ∀ y ∈ xs, P y = false) : position P xs = none :=
  position_go_none rejected

theorem rposition_go_append {x : α} {post : List α} (accepted : P x) :
    ∀ {ys : List α} {i : Nat}, (∀ y ∈ ys, P y = false) → rposition.go P i (ys ++ x :: post) = some (i - ys.length - 1)
  | [], i, _ => by simp [rposition.go, accepted]
  | y :: ys, i, rejected => by
    rw [List.cons_append, rposition.go, if_neg (by simp [rejected y (List.mem_cons_self _ _)]),
      rposition_go_append accepted fun z member => rejected z (List.mem_cons_of_mem _ member), List.length_cons]
    congr 1
    omega

theorem rposition_go_none : ∀ {xs : List α} {i : Nat}, (∀ y ∈ xs, P y = false) → rposition.go P i xs = none
  | [], _, _ => rfl
  | y :: rest, _, rejected => by
    rw [rposition.go, if_neg (by simp [rejected y (List.mem_cons_self _ _)]),
      rposition_go_none fun z member => rejected z (List.mem_cons_of_mem _ member)]

/-- The last accepted element is found at the length of the part before it. -/
theorem rposition_of_append {pre post : List α} {x : α} (accepted : P x) (after : ∀ y ∈ post, P y = false) :
    rposition P (pre ++ x :: post) = some pre.length := by
  have reversed : (pre ++ x :: post).reverse = post.reverse ++ x :: pre.reverse := by simp
  rw [rposition, reversed, rposition_go_append accepted (by simpa using after)]
  simp only [List.length_append, List.length_cons, List.length_reverse]
  congr 1
  omega

theorem rposition_of_forall {xs : List α} (rejected : ∀ y ∈ xs, P y = false) : rposition P xs = none :=
  rposition_go_none (by simpa using rejected)

/-- A list with an accepted element splits at the first one. -/
theorem exists_first_accepted {xs : List α} (hit : ∃ x ∈ xs, P x) :
    ∃ pre x post, xs = pre ++ x :: post ∧ P x ∧ ∀ y ∈ pre, P y = false := by
  obtain ⟨x, found⟩ := Option.ne_none_iff_exists'.mp (mt List.find?_eq_none.mp (by simpa using hit))
  obtain ⟨accepted, pre, post, split, before⟩ := List.find?_eq_some.mp found
  exact ⟨pre, x, post, split, accepted, by simpa using before⟩

/-- A found index is the length of the part before the first accepted element. -/
theorem position_eq_some {xs : List α} {i : Nat} (found : position P xs = some i) :
    ∃ pre x post, xs = pre ++ x :: post ∧ pre.length = i ∧ P x ∧ ∀ y ∈ pre, P y = false := by
  by_cases hit : ∃ x ∈ xs, P x
  · obtain ⟨pre, x, post, rfl, accepted, before⟩ := exists_first_accepted hit
    rw [position_of_append accepted before, Option.some.injEq] at found
    exact ⟨pre, x, post, rfl, found, accepted, before⟩
  · rw [position_of_forall (by simpa using hit)] at found
    cases found

theorem position_eq_none {xs : List α} (missing : position P xs = none) : ∀ y ∈ xs, P y = false := by
  by_contra hit
  obtain ⟨pre, x, post, rfl, accepted, before⟩ := exists_first_accepted (by simpa using hit)
  rw [position_of_append accepted before] at missing
  cases missing

/-- A list with an accepted element splits at the last one. -/
theorem exists_last_accepted {xs : List α} (hit : ∃ x ∈ xs, P x) :
    ∃ pre x post, xs = pre ++ x :: post ∧ P x ∧ ∀ y ∈ post, P y = false := by
  obtain ⟨pre, x, post, split, accepted, before⟩ := @exists_first_accepted α P xs.reverse (by simpa using hit)
  refine ⟨post.reverse, x, pre.reverse, ?_, accepted, by simpa using before⟩
  rw [← List.reverse_reverse xs, split]
  simp

end Search

/-! ## Splitting at a separator -/

/-- The body `split_once` and `rsplit_once` share: `.map(|idx| (&self[..idx], &self[idx + 1..]))`
    over the index their search found. -/
def split_at_index (self : LinuxOsStr) (found : Option Nat) : Outcome Empty (Option (LinuxOsStr × LinuxOsStr)) :=
  match found with
  | some idx => do
    let before ← slice_range self 0 idx
    let after ← slice_from self (idx + 1)
    pure (some (before, after))
  | none => pure none

/-- `LinuxOsStr::split_once`: the bytes before and after the first `separator`. -/
def LinuxOsStr.split_once (self : LinuxOsStr) (separator : U8) : Outcome Empty (Option (LinuxOsStr × LinuxOsStr)) :=
  split_at_index self (position (fun b => b == separator) self)

/-- `LinuxOsStr::rsplit_once`: the bytes before and after the last `separator`. -/
def LinuxOsStr.rsplit_once (self : LinuxOsStr) (separator : U8) : Outcome Empty (Option (LinuxOsStr × LinuxOsStr)) :=
  split_at_index self (rposition (fun b => b == separator) self)

/-- Given an index that is `none` when the separator is missing and otherwise the length
    of a part before one, both slices are in bounds and give the parts on either side. -/
theorem split_at_index_spec {s : LinuxOsStr} {c : U8} {found : Option Nat} {Q : LinuxOsStr → LinuxOsStr → Prop}
    (hit : c ∈ s → ∃ pre post, s = pre ++ c :: post ∧ found = some pre.length ∧ Q pre post)
    (miss : c ∉ s → found = none) :
    ∃ r, split_at_index s found = .ok r ∧ (r.isSome ↔ c ∈ s) ∧ ∀ a b, r = some (a, b) → s = a ++ [c] ++ b ∧ Q a b := by
  by_cases present : c ∈ s
  · obtain ⟨pre, post, rfl, rfl, parts⟩ := hit present
    have before : (slice_range (pre ++ c :: post) 0 pre.length : Outcome Empty _) = .ok pre := by
      simpa using slice_range_append [] pre (c :: post)
    have after : (slice_from (pre ++ c :: post) (pre.length + 1) : Outcome Empty _) = .ok post := by
      simpa using slice_from_append (pre ++ [c]) post
    refine ⟨some (pre, post), by rw [split_at_index, before, Outcome.ok_bind, after]; rfl, by simp, fun a b split => ?_⟩
    obtain ⟨rfl, rfl⟩ := Prod.mk.inj (Option.some.inj split)
    exact ⟨by simp, parts⟩
  · rw [miss present]
    exact ⟨none, rfl, by simp [present], by simp⟩

theorem split_once_spec (s : LinuxOsStr) (c : U8) :
    ∃ r, s.split_once c = .ok r ∧ (r.isSome ↔ c ∈ s) ∧ ∀ a b, r = some (a, b) → s = a ++ [c] ++ b ∧ c ∉ a := by
  refine split_at_index_spec (fun present => ?_)
    fun absent => position_of_forall fun y member => by simpa using ne_of_mem_of_not_mem member absent
  obtain ⟨pre, x, post, rfl, hit, before⟩ := @exists_first_accepted _ (fun b => b == c) s ⟨c, present, by simp⟩
  obtain rfl : x = c := by simpa using hit
  exact ⟨pre, post, rfl, position_of_append (P := fun b => b == x) hit before, fun member => by simpa using before x member⟩

theorem rsplit_once_spec (s : LinuxOsStr) (c : U8) :
    ∃ r, s.rsplit_once c = .ok r ∧ (r.isSome ↔ c ∈ s) ∧ ∀ a b, r = some (a, b) → s = a ++ [c] ++ b ∧ c ∉ b := by
  refine split_at_index_spec (fun present => ?_)
    fun absent => rposition_of_forall fun y member => by simpa using ne_of_mem_of_not_mem member absent
  obtain ⟨pre, x, post, rfl, hit, after⟩ := @exists_last_accepted _ (fun b => b == c) s ⟨c, present, by simp⟩
  obtain rfl : x = c := by simpa using hit
  exact ⟨pre, post, rfl, rposition_of_append (P := fun b => b == x) hit after, fun member => by simpa using after x member⟩

/-- Both splits return, with a result exactly when the separator occurs, and cut the
    input around it: the first occurrence for `split_once`, the last for `rsplit_once`. -/
theorem split_once_rsplit_once (s : LinuxOsStr) (c : U8) :
    (∃ r, s.split_once c = .ok r ∧ (r.isSome ↔ c ∈ s) ∧ ∀ a b, r = some (a, b) → s = a ++ [c] ++ b ∧ c ∉ a) ∧
      ∃ r, s.rsplit_once c = .ok r ∧ (r.isSome ↔ c ∈ s) ∧ ∀ a b, r = some (a, b) → s = a ++ [c] ++ b ∧ c ∉ b :=
  ⟨split_once_spec s c, rsplit_once_spec s c⟩

/-! ## Splitting into pieces -/

/-- `<[u8]>::split(pred)`, collected: each `next` of the iterator finds the first byte
    `pred` accepts with `position`, yields the bytes before it and goes on after it; with
    none left it yields the rest and finishes. -/
def split_bytes (pred : U8 → Bool) (v : List U8) : List (List U8) :=
  match found : position pred v with
  | some idx => v.take idx :: split_bytes pred (v.drop (idx + 1))
  | none => [v]
termination_by v.length
decreasing_by
  obtain ⟨pre, x, post, rfl, rfl, -⟩ := position_eq_some found
  simp
  omega

/-- `u8::is_ascii_whitespace`: tab, line feed, form feed, carriage return and space; the
    vertical tab is not among them. -/
def is_ascii_whitespace (c : U8) : Bool :=
  c == 0x09 || c == 0x0A || c == 0x0C || c == 0x0D || c == 0x20

/-- `LinuxOsStr::split`: the pieces between the bytes equal to `separator`. -/
def LinuxOsStr.split (self : LinuxOsStr) (separator : U8) : List LinuxOsStr :=
  split_bytes (fun b => b == separator) self

/-- `LinuxOsStr::split_ascii_whitespace`: the pieces between whitespace bytes, the empty
    ones discarded. -/
def LinuxOsStr.split_ascii_whitespace (self : LinuxOsStr) : List LinuxOsStr :=
  (split_bytes is_ascii_whitespace self).filter fun slice => !slice.isEmpty

/-- `LinuxOsStr::lines`: the pieces between line feeds; a carriage return stays in its
    line. -/
def LinuxOsStr.lines (self : LinuxOsStr) : List LinuxOsStr :=
  self.split 0x0A

section Pieces

variable {P : U8 → Bool}

theorem split_bytes_append {pre post : List U8} {x : U8} (accepted : P x) (before : ∀ y ∈ pre, P y = false) :
    split_bytes P (pre ++ x :: post) = pre :: split_bytes P post := by
  rw [split_bytes]
  split
  · rename_i found
    rw [position_of_append accepted before, Option.some.injEq] at found
    subst found
    simp
  · rename_i found
    rw [position_of_append accepted before] at found
    cases found

theorem split_bytes_of_forall {v : List U8} (rejected : ∀ y ∈ v, P y = false) : split_bytes P v = [v] := by
  rw [split_bytes]
  split
  · rename_i found
    rw [position_of_forall rejected] at found
    cases found
  · rfl

/-- The iterator's pieces are Batteries' `splitOnP`. -/
theorem split_bytes_eq_splitOnP (v : List U8) : split_bytes P v = v.splitOnP P := by
  induction v using split_bytes.induct P with
  | case1 v idx found rest =>
    obtain ⟨pre, x, post, rfl, rfl, accepted, before⟩ := position_eq_some found
    rw [split_bytes_append accepted before, List.splitOnP_first P pre (by simpa using before) x accepted post]
    simpa using rest
  | case2 v missing =>
    rw [split_bytes_of_forall (position_eq_none missing), List.splitOnP_eq_single P v (by simpa using position_eq_none missing)]

/-- No piece holds a byte the predicate accepts. -/
theorem mem_split_bytes (v : List U8) : ∀ piece ∈ split_bytes P v, ∀ y ∈ piece, P y = false := by
  induction v using split_bytes.induct P with
  | case1 v idx found rest =>
    obtain ⟨pre, x, post, rfl, rfl, accepted, before⟩ := position_eq_some found
    rw [split_bytes_append accepted before]
    rintro piece (_ | ⟨_, later⟩)
    · exact before
    · exact rest piece (by simpa using later)
  | case2 v missing =>
    rw [split_bytes_of_forall (position_eq_none missing)]
    simpa using position_eq_none missing

/-- Splitting at any accepted byte: the pieces of the part before it, then those of the
    part after it. -/
theorem split_bytes_append_sep {x : U8} (accepted : P x) (w : List U8) :
    ∀ v, split_bytes P (v ++ x :: w) = split_bytes P v ++ split_bytes P w := by
  intro v
  induction v using split_bytes.induct P with
  | case1 v idx found rest =>
    obtain ⟨pre, y, post, rfl, rfl, hit, before⟩ := position_eq_some found
    rw [List.append_assoc, List.cons_append, split_bytes_append hit before, split_bytes_append hit before]
    simpa using rest
  | case2 v missing =>
    rw [split_bytes_append accepted (position_eq_none missing), split_bytes_of_forall (position_eq_none missing)]
    rfl

/-- The pieces together are the bytes the predicate rejects. -/
theorem flatten_split_bytes (v : List U8) : (split_bytes P v).flatten = v.filter fun y => !P y := by
  induction v using split_bytes.induct P with
  | case1 v idx found rest =>
    obtain ⟨pre, x, post, rfl, rfl, accepted, before⟩ := position_eq_some found
    rw [split_bytes_append accepted before, List.flatten_cons, List.filter_append,
      List.filter_eq_self.mpr (by simpa using before), List.filter_cons_of_neg (by simpa using accepted)]
    simpa using rest
  | case2 v missing =>
    rw [split_bytes_of_forall (position_eq_none missing), List.flatten_singleton,
      List.filter_eq_self.mpr (by simpa using position_eq_none missing)]

/-- Every piece of a run of accepted bytes is empty. -/
theorem split_bytes_of_accepted {v : List U8} (accepted : ∀ y ∈ v, P y) : ∀ piece ∈ split_bytes P v, piece = [] := by
  have flat := flatten_split_bytes (P := P) v
  rw [List.filter_eq_nil_iff.mpr (by simpa using accepted)] at flat
  exact List.flatten_eq_nil_iff.mp flat

end Pieces

/-- `split` inverts joining with the separator: the pieces of any string, joined with it,
    give the string back and none holds it, and a non-empty list of pieces without it,
    joined with it, splits back into those pieces. `lines` is the split at line feeds. -/
theorem split_intercalate (c : U8) :
    (∀ s : LinuxOsStr, [c].intercalate (s.split c) = s ∧ ∀ piece ∈ s.split c, c ∉ piece) ∧
      ∀ pieces : List LinuxOsStr, pieces ≠ [] → (∀ piece ∈ pieces, c ∉ piece) →
        LinuxOsStr.split ([c].intercalate pieces) c = pieces := by
  have split_eq : ∀ s : LinuxOsStr, s.split c = s.splitOn c := fun s => split_bytes_eq_splitOnP s
  refine ⟨fun s => ⟨by rw [split_eq, List.intercalate_splitOn], fun piece member held => ?_⟩,
    fun pieces nonempty clear => by rw [split_eq, List.splitOn_intercalate pieces c clear nonempty]⟩
  simpa using mem_split_bytes s piece member c held

/-- The words of `split_ascii_whitespace` are non-empty, hold no whitespace, and together
    are the string's bytes other than whitespace, in order. -/
theorem split_ascii_whitespace_words (s : LinuxOsStr) :
    (∀ word ∈ s.split_ascii_whitespace, word ≠ [] ∧ ∀ b ∈ word, is_ascii_whitespace b = false) ∧
      s.split_ascii_whitespace.flatten = s.filter fun b => !is_ascii_whitespace b := by
  refine ⟨fun word member => ?_, by
    rw [LinuxOsStr.split_ascii_whitespace, List.flatten_filter_not_isEmpty, flatten_split_bytes]⟩
  obtain ⟨piece, kept⟩ := List.mem_filter.mp member
  exact ⟨by simpa using kept, mem_split_bytes s word piece⟩

/-! ## The single splits through the pieces -/

theorem split_at_index_append (pre post : LinuxOsStr) (c : U8) :
    split_at_index (pre ++ c :: post) (some pre.length) = .ok (some (pre, post)) := by
  have before : (slice_range (pre ++ c :: post) 0 pre.length : Outcome Empty _) = .ok pre := by
    simpa using slice_range_append [] pre (c :: post)
  have after : (slice_from (pre ++ c :: post) (pre.length + 1) : Outcome Empty _) = .ok post := by
    simpa using slice_from_append (pre ++ [c]) post
  rw [split_at_index, before, Outcome.ok_bind, after]
  rfl

/-- A string cut at its first separator. -/
theorem split_once_append {pre post : LinuxOsStr} {c : U8} (before : ∀ y ∈ pre, (y == c) = false) :
    (pre ++ c :: post).split_once c = .ok (some (pre, post)) := by
  rw [LinuxOsStr.split_once, position_of_append (P := fun b => b == c) (beq_self_eq_true c) before,
    split_at_index_append]

/-- A string cut at its last separator. -/
theorem rsplit_once_append {pre post : LinuxOsStr} {c : U8} (after : ∀ y ∈ post, (y == c) = false) :
    (pre ++ c :: post).rsplit_once c = .ok (some (pre, post)) := by
  rw [LinuxOsStr.rsplit_once, rposition_of_append (P := fun b => b == c) (beq_self_eq_true c) after,
    split_at_index_append]

/-- `split_once` is the first piece of `split` with the other pieces joined back with the
    separator, and `rsplit_once` the pieces but the last joined back with the last piece;
    both are `None` when the separator is missing, where `split` has one piece. -/
theorem split_once_rsplit_once_pieces (s : LinuxOsStr) (c : U8) :
    s.split_once c = .ok (if c ∈ s then some ((s.split c).headD [], [c].intercalate (s.split c).tail) else none) ∧
      s.rsplit_once c = .ok (if c ∈ s then some ([c].intercalate (s.split c).dropLast, (s.split c).getLastD [])
        else none) := by
  have joined : ∀ v : LinuxOsStr, [c].intercalate (v.split c) = v := fun v => by
    rw [show v.split c = v.splitOn c from split_bytes_eq_splitOnP v, List.intercalate_splitOn]
  by_cases present : c ∈ s
  · rw [if_pos present, if_pos present]
    constructor
    · obtain ⟨pre, x, post, rfl, hit, before⟩ := @exists_first_accepted _ (fun b => b == c) s ⟨c, present, by simp⟩
      obtain rfl : x = c := by simpa using hit
      rw [split_once_append before, LinuxOsStr.split, split_bytes_append (P := fun b => b == x) hit before,
        List.headD_cons, List.tail_cons, ← LinuxOsStr.split, joined]
    · obtain ⟨pre, x, post, rfl, hit, after⟩ := @exists_last_accepted _ (fun b => b == c) s ⟨c, present, by simp⟩
      obtain rfl : x = c := by simpa using hit
      rw [rsplit_once_append after, LinuxOsStr.split, split_bytes_append_sep (P := fun b => b == x) hit,
        split_bytes_of_forall after, List.dropLast_concat, List.getLastD_concat, ← LinuxOsStr.split, joined]
  · rw [if_neg present, if_neg present]
    have rejected : ∀ y ∈ s, (y == c) = false := fun y member => by simpa using ne_of_mem_of_not_mem member present
    exact ⟨by rw [LinuxOsStr.split_once, position_of_forall rejected]; rfl,
      by rw [LinuxOsStr.rsplit_once, rposition_of_forall rejected]; rfl⟩

/-! ## Trimming ASCII whitespace -/

/-- `LinuxOsStr::trim_ascii_whitespace`. Its first loop is `position` of a byte that is
    not whitespace, and its second, over `enumerate().rev()`, `rposition` of one; then
    `&input[first..=last]`, or the empty `&input[0..0]` when either found nothing. -/
def LinuxOsStr.trim_ascii_whitespace (self : LinuxOsStr) : Outcome Empty LinuxOsStr :=
  let input := self
  let first := position (fun c => !is_ascii_whitespace c) input
  let last := rposition (fun c => !is_ascii_whitespace c) input
  match first, last with
  | some first, some last => slice_range input first (last + 1)
  | _, _ => slice_range input 0 0

/-- `r` is `s` with its leading and trailing ASCII whitespace cut off: `s` is `r` between
    a whitespace prefix and a whitespace suffix, `r` is empty exactly when `s` is all
    whitespace, and otherwise begins and ends with a byte that is not. -/
structure Trimmed (s r : LinuxOsStr) : Prop where
  padded : ∃ p q, s = p ++ r ++ q ∧ (∀ b ∈ p, is_ascii_whitespace b) ∧ ∀ b ∈ q, is_ascii_whitespace b
  empty_iff : r = [] ↔ ∀ b ∈ s, is_ascii_whitespace b
  head : ∀ b ∈ r.head?, is_ascii_whitespace b = false
  last : ∀ b ∈ r.getLast?, is_ascii_whitespace b = false

/-- Whatever meets `Trimmed s` is what trimming `s` returns: the searches find the ends of
    `r`, and the inclusive slice between them is in bounds. -/
theorem trim_ascii_whitespace_of_trimmed {s r : LinuxOsStr} (trimmed : Trimmed s r) :
    s.trim_ascii_whitespace = .ok r := by
  obtain ⟨⟨p, q, rfl, lead, trail⟩, -, head, last⟩ := trimmed
  have lead : ∀ b ∈ p, (!is_ascii_whitespace b) = false := by simpa using lead
  have trail : ∀ b ∈ q, (!is_ascii_whitespace b) = false := by simpa using trail
  cases r with
  | nil =>
    have blank : ∀ y ∈ p ++ [] ++ q, (!is_ascii_whitespace y) = false := by
      simp only [List.append_nil, List.mem_append]
      exact fun y => Or.rec (lead y) (trail y)
    rw [LinuxOsStr.trim_ascii_whitespace, position_of_forall blank, rposition_of_forall blank]
    simp [slice_range]
  | cons x mid =>
    have first : position (fun c => !is_ascii_whitespace c) (p ++ x :: mid ++ q) = some p.length := by
      rw [List.append_assoc, List.cons_append]
      exact position_of_append (by simpa using head x rfl) lead
    have ends : p ++ x :: mid ++ q = p ++ (x :: mid).dropLast ++ (x :: mid).getLast (List.cons_ne_nil _ _) :: q := by
      conv_lhs => rw [← List.dropLast_concat_getLast (List.cons_ne_nil x mid)]
      simp only [List.append_assoc, List.singleton_append]
    have final : rposition (fun c => !is_ascii_whitespace c) (p ++ x :: mid ++ q) = some (p.length + mid.length) := by
      rw [ends, rposition_of_append (by simpa using last _ (List.getLast?_eq_getLast _ _)) trail]
      simp
    rw [LinuxOsStr.trim_ascii_whitespace]
    simp only [first, final]
    exact slice_range_append p (x :: mid) q

theorem rdropWhile_append_rtakeWhile {α : Type} (p : α → Bool) (l : List α) : l.rdropWhile p ++ l.rtakeWhile p = l := by
  rw [List.rdropWhile, List.rtakeWhile, ← List.reverse_append, List.takeWhile_append_dropWhile, List.reverse_reverse]

/-- Dropping the whitespace from the front and then from the back trims. -/
theorem trimmed_dropWhile (s : LinuxOsStr) :
    Trimmed s ((s.dropWhile is_ascii_whitespace).rdropWhile is_ascii_whitespace) where
  padded := ⟨s.takeWhile is_ascii_whitespace, (s.dropWhile is_ascii_whitespace).rtakeWhile is_ascii_whitespace, by
      rw [List.append_assoc, rdropWhile_append_rtakeWhile, List.takeWhile_append_dropWhile],
    fun _ => List.mem_takeWhile_imp, fun _ => List.mem_rtakeWhile_imp⟩
  empty_iff := by
    have blank : (∀ b ∈ s.dropWhile is_ascii_whitespace, is_ascii_whitespace b) ↔ s.dropWhile is_ascii_whitespace = [] := by
      refine ⟨fun all => ?_, fun empty => by simp [empty]⟩
      by_contra nonempty
      simpa [List.head_dropWhile_not is_ascii_whitespace s nonempty] using all _ (List.head_mem nonempty)
    rw [List.rdropWhile_eq_nil_iff, blank, List.dropWhile_eq_nil_iff]
  head b first := by
    obtain ⟨rest, split⟩ := List.rdropWhile_prefix is_ascii_whitespace (s.dropWhile is_ascii_whitespace)
    have front : (s.dropWhile is_ascii_whitespace).head? = some b := by
      rw [← split, List.head?_append, Option.mem_def.mp first]
      rfl
    simpa [front] using List.head?_dropWhile_not is_ascii_whitespace s
  last b final := by
    obtain ⟨nonempty, rfl⟩ := List.mem_getLast?_eq_getLast final
    simpa using List.rdropWhile_last_not is_ascii_whitespace _ nonempty

/-- A trimmed result is its own trim. -/
theorem Trimmed.self_trimmed {s r : LinuxOsStr} (trimmed : Trimmed s r) : Trimmed r r where
  padded := ⟨[], [], by simp, by simp, by simp⟩
  empty_iff := by
    refine ⟨fun empty => by simp [empty], fun blank => ?_⟩
    cases r with
    | nil => rfl
    | cons x mid => simpa [trimmed.head x rfl] using blank x (List.mem_cons_self _ _)
  head := trimmed.head
  last := trimmed.last

/-- Trimming returns, cutting off exactly the leading and trailing ASCII whitespace, and
    trimming its result again gives the result back. -/
theorem trim_ascii_whitespace_trimmed (s : LinuxOsStr) :
    ∃ r, s.trim_ascii_whitespace = .ok r ∧ Trimmed s r ∧ r.trim_ascii_whitespace = .ok r :=
  have trimmed := trimmed_dropWhile s
  ⟨_, trim_ascii_whitespace_of_trimmed trimmed, trimmed, trim_ascii_whitespace_of_trimmed trimmed.self_trimmed⟩

/-! ## Trimming and the words -/

/-- The words of a string joined at a whitespace byte are the words of either side. -/
theorem split_ascii_whitespace_append_sep {x : U8} (white : is_ascii_whitespace x) (u v : LinuxOsStr) :
    (u ++ x :: v).split_ascii_whitespace = u.split_ascii_whitespace ++ v.split_ascii_whitespace := by
  rw [LinuxOsStr.split_ascii_whitespace, split_bytes_append_sep white, List.filter_append]
  rfl

theorem split_ascii_whitespace_of_blank {v : LinuxOsStr} (blank : ∀ b ∈ v, is_ascii_whitespace b) :
    v.split_ascii_whitespace = [] :=
  List.filter_eq_nil_iff.mpr fun piece member => by simp [split_bytes_of_accepted blank piece member]

/-- Whitespace around a string adds no word. -/
theorem split_ascii_whitespace_padded {p v q : LinuxOsStr} (lead : ∀ b ∈ p, is_ascii_whitespace b)
    (trail : ∀ b ∈ q, is_ascii_whitespace b) : (p ++ v ++ q).split_ascii_whitespace = v.split_ascii_whitespace := by
  have front : (p ++ v).split_ascii_whitespace = v.split_ascii_whitespace := by
    rcases List.eq_nil_or_concat p with rfl | ⟨p, x, rfl⟩
    · rfl
    · rw [List.concat_eq_append, List.append_assoc, List.singleton_append,
        split_ascii_whitespace_append_sep (lead x (by simp)),
        split_ascii_whitespace_of_blank fun b member => lead b (by simp [member]), List.nil_append]
  cases q with
  | nil => rw [List.append_nil, front]
  | cons x q =>
    rw [split_ascii_whitespace_append_sep (trail x (List.mem_cons_self _ _)), front,
      split_ascii_whitespace_of_blank fun b member => trail b (List.mem_cons_of_mem _ member), List.append_nil]

/-- Trimming a string keeps its words. -/
theorem trim_ascii_whitespace_keeps_words (s : LinuxOsStr) :
    ∃ r, s.trim_ascii_whitespace = .ok r ∧ r.split_ascii_whitespace = s.split_ascii_whitespace := by
  have trimmed := trimmed_dropWhile s
  obtain ⟨p, q, padded, lead, trail⟩ := trimmed.padded
  exact ⟨_, trim_ascii_whitespace_of_trimmed trimmed,
    ((congrArg LinuxOsStr.split_ascii_whitespace padded).trans (split_ascii_whitespace_padded lead trail)).symm⟩

end MinidumpProcessor
