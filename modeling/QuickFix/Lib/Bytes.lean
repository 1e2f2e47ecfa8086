import Mathlib.Algebra.Ring.Int.Defs
import Mathlib.Algebra.Ring.Nat
import Mathlib.Data.List.Basic
import Mathlib.Data.List.Infix
import Mathlib.Tactic.Lemma

/-!
# Byte strings

Byte strings, their ASCII literals, decimal numerals and UTF-8. Text is kept as its bytes: a numeral
is printed by `dec` and read back by `undec` (`undec_dec`), and the two `from_utf8` readings of a
byte string, the strict and the lossy one, share the recogniser `utf8Head` of one leading character.
-/

namespace QuickFix

/-- A byte string. -/
abbrev Bytes := List UInt8

/-- The bytes of an ASCII literal. -/
def ascii (s : String) : Bytes := s.toList.map fun c => c.toNat.toUInt8

/-! ## Decimal numerals -/

/-- An ASCII digit. -/
def isDigit (b : UInt8) : Bool := 48 ≤ b && b ≤ 57

/-- The decimal numeral of a number, without leading zeros. -/
def dec (n : Nat) : Bytes := (Nat.toDigits 10 n).map fun c => c.toNat.toUInt8

/-- The number a list of digits denotes. -/
def digitsValue (ds : Bytes) : Nat := ds.foldl (fun n d => 10 * n + (d.toNat - 48)) 0

/-- The number a non-empty string of digits denotes. -/
def undec (bs : Bytes) : Option Nat :=
  if bs ≠ [] ∧ bs.all isDigit then some (digitsValue bs) else none

/-- A number on a fixed width, padded with zeros. -/
def padded (width n : Nat) : Bytes :=
  let ds := dec n
  List.replicate (width - ds.length) 48 ++ ds

/-- A digit character has its code between those of `0` and `9`. -/
lemma isDigit_bounds {c : Char} (h : c.isDigit = true) : 48 ≤ c.toNat ∧ c.toNat ≤ 57 := by
  simp only [Char.isDigit, Bool.and_eq_true, decide_eq_true_eq] at h
  obtain ⟨lo, hi⟩ := h
  exact ⟨by simpa [UInt32.le_iff_toNat_le] using lo, by simpa [UInt32.le_iff_toNat_le] using hi⟩

/-- A digit character survives the passage to its byte. -/
lemma toUInt8_digit {c : Char} (h : c.isDigit = true) :
    c.toNat.toUInt8.toNat = c.toNat ∧ isDigit c.toNat.toUInt8 = true := by
  obtain ⟨lo, hi⟩ := isDigit_bounds h
  have e : c.toNat.toUInt8.toNat = c.toNat := by
    simp only [Nat.toUInt8, UInt8.toNat_ofNat']
    omega
  refine ⟨e, ?_⟩
  simp only [isDigit, Bool.and_eq_true, decide_eq_true_eq, UInt8.le_iff_toNat_le, e]
  exact ⟨lo, hi⟩

/-- A numeral has digits only. -/
lemma isDigit_of_mem_dec {n b} (h : b ∈ dec n) : isDigit b = true := by
  simp only [dec, List.mem_map] at h
  obtain ⟨c, mem, rfl⟩ := h
  exact (toUInt8_digit (Nat.isDigit_of_mem_toDigits (by decide) (by decide) mem)).2

/-- A numeral is not empty. -/
lemma dec_ne_nil (n) : dec n ≠ [] := by
  simp [dec, Nat.toDigits_ne_nil]

/-- The value of digit bytes is the value of the digit characters they come from. -/
lemma digitsValue_map {cs : List Char} (h : ∀ c ∈ cs, c.isDigit = true) :
    digitsValue (cs.map fun c => c.toNat.toUInt8) = Nat.ofDigitChars 10 cs 0 := by
  simp only [digitsValue, Nat.ofDigitChars, List.foldl_map]
  generalize 0 = n
  induction cs generalizing n with
  | nil => rfl
  | cons c cs ih =>
    simp only [List.foldl_cons]
    rw [(toUInt8_digit (h c (by simp))).1]
    exact ih (fun d mem => h d (by simp [mem])) _

/-- Reading a numeral gives back the number printed. -/
@[simp] lemma undec_dec (n) : undec (dec n) = some n := by
  have digits : ∀ c ∈ Nat.toDigits 10 n, c.isDigit = true := fun c mem =>
    Nat.isDigit_of_mem_toDigits (by decide) (by decide) mem
  have all : (dec n).all isDigit = true := by
    simpa [List.all_eq_true] using fun b (mem : b ∈ dec n) => isDigit_of_mem_dec mem
  rw [undec, if_pos ⟨dec_ne_nil n, all⟩, dec, digitsValue_map digits,
    Nat.ofDigitChars_ten_toDigits]

/-- A padded numeral has digits only. -/
lemma isDigit_of_mem_padded {width n b} (h : b ∈ padded width n) : isDigit b = true := by
  simp only [padded, List.mem_append, List.mem_replicate] at h
  rcases h with ⟨_, rfl⟩ | h
  · decide
  · exact isDigit_of_mem_dec h

/-- A padded numeral is not empty. -/
lemma padded_ne_nil (width n) : padded width n ≠ [] := by simp [padded, dec_ne_nil]

/-- Leading zeros do not change the value of a numeral. -/
lemma digitsValue_zeros (k ds) : digitsValue (List.replicate k 48 ++ ds) = digitsValue ds := by
  induction k with
  | zero => rfl
  | succ k ih => simpa [List.replicate_succ, digitsValue] using ih

/-- Reading a padded numeral gives back the number printed. -/
@[simp] lemma undec_padded (width n) : undec (padded width n) = some n := by
  have all : (padded width n).all isDigit = true := by
    simpa [List.all_eq_true] using fun b (mem : b ∈ padded width n) => isDigit_of_mem_padded mem
  have ne : padded width n ≠ [] := by simp [padded, dec_ne_nil]
  have val := undec_dec n
  simp only [undec] at val
  split at val <;> simp only [Option.some.injEq, reduceCtorEq] at val
  rw [undec, if_pos ⟨ne, all⟩, padded, digitsValue_zeros, val]

/-- A numeral has as many digits as are needed. -/
lemma length_dec_le {n k : Nat} (pos : 0 < k) (h : n < 10 ^ k) : (dec n).length ≤ k := by
  rw [dec, List.length_map]
  exact (Nat.length_toDigits_le_iff (by decide) pos).mpr h

/-- A padded numeral has its width. -/
lemma length_padded {width n : Nat} (pos : 0 < width) (h : n < 10 ^ width) :
    (padded width n).length = width := by
  have fits := length_dec_le pos h
  simp only [padded, List.length_append, List.length_replicate]
  omega

/-! ## UTF-8 -/

/-- A continuation byte within the given bounds stands at the head. -/
def continues (lo hi : UInt8) : Bytes → Bool
  | [] => false
  | b :: _ => lo ≤ b && b ≤ hi

/-- The bounds of the second byte of a character, by its first, with the character's length. -/
def utf8Lead (b : UInt8) : Option (Nat × UInt8 × UInt8) :=
  if b ≤ 0x7F then some (1, 0, 0)
  else if 0xC2 ≤ b ∧ b ≤ 0xDF then some (2, 0x80, 0xBF)
  else if b = 0xE0 then some (3, 0xA0, 0xBF)
  else if b = 0xED then some (3, 0x80, 0x9F)
  else if 0xE1 ≤ b ∧ b ≤ 0xEF then some (3, 0x80, 0xBF)
  else if b = 0xF0 then some (4, 0x90, 0xBF)
  else if 0xF1 ≤ b ∧ b ≤ 0xF3 then some (4, 0x80, 0xBF)
  else if b = 0xF4 then some (4, 0x80, 0x8F)
  else none

/-- The length of the character at the head, and whether it is complete: an incomplete one is as
long as the bytes that could still start a character. -/
def utf8Head (b : UInt8) (rest : Bytes) : Nat × Bool :=
  match utf8Lead b with
  | none => (1, false)
  | some (len, lo, hi) =>
    if len = 1 then (1, true)
    else if !continues lo hi rest then (1, false)
    else if len = 2 then (2, true)
    else if !continues 0x80 0xBF (rest.drop 1) then (2, false)
    else if len = 3 then (3, true)
    else if !continues 0x80 0xBF (rest.drop 2) then (3, false)
    else (4, true)

/-- Splits a byte string into its characters; `fuel` bounds their number. -/
def utf8Chunks : Nat → Bytes → List (Bytes × Bool)
  | 0, _ => []
  | _, [] => []
  | fuel + 1, b :: rest =>
    let (len, ok) := utf8Head b rest
    ((b :: rest).take len, ok) :: utf8Chunks fuel ((b :: rest).drop len)

/-- Whether a byte string is UTF-8. -/
def utf8Valid (bs : Bytes) : Bool := (utf8Chunks bs.length bs).all (·.2)

/-- The bytes as a string, with `U+FFFD` for every ill-formed part. -/
def utf8Lossy (bs : Bytes) : Bytes :=
  (utf8Chunks bs.length bs).flatMap fun (c, ok) => if ok then c else [0xEF, 0xBF, 0xBD]

/-- ASCII bytes are UTF-8. -/
lemma utf8Valid_ascii {bs : Bytes} (h : ∀ b ∈ bs, b ≤ 0x7F) : utf8Valid bs = true := by
  rw [utf8Valid]
  suffices key : ∀ fuel, (utf8Chunks fuel bs).all (·.2) = true from key _
  intro fuel
  induction fuel generalizing bs with
  | zero => simp [utf8Chunks]
  | succ fuel ih =>
    cases bs with
    | nil => simp [utf8Chunks]
    | cons b rest =>
      have lead : utf8Head b rest = (1, true) := by
        simp [utf8Head, utf8Lead, h b (by simp)]
      simp only [utf8Chunks, lead, List.all_cons, Bool.true_and, List.drop_succ_cons,
        List.drop_zero]
      exact ih fun c mem => h c (by simp [mem])

/-! ## Searching -/

/-- The bytes before and after the first `b`. -/
def splitOnce (b : UInt8) : Bytes → Option (Bytes × Bytes)
  | [] => none
  | c :: cs => if c = b then some ([], cs) else (splitOnce b cs).map fun (l, r) => (c :: l, r)

/-- A byte string without `b` and then `b` is split there. -/
@[simp] lemma splitOnce_append {b : UInt8} {l : Bytes} (h : b ∉ l) (r) :
    splitOnce b (l ++ b :: r) = some (l, r) := by
  induction l with
  | nil => simp [splitOnce]
  | cons c cs ih =>
    simp only [List.mem_cons, not_or] at h
    simp [splitOnce, Ne.symm h.1, ih h.2]

/-- What `splitOnce` returns is the string split at its first `b`. -/
lemma splitOnce_eq {b : UInt8} {bs l r : Bytes} (h : splitOnce b bs = some (l, r)) :
    bs = l ++ b :: r ∧ b ∉ l := by
  induction bs generalizing l with
  | nil => simp [splitOnce] at h
  | cons c cs ih =>
    simp only [splitOnce] at h
    split at h
    case isTrue e =>
      simp only [Option.some.injEq, Prod.mk.injEq] at h
      obtain ⟨rfl, rfl⟩ := h
      simp [e]
    case isFalse ne =>
      simp only [Option.map_eq_some_iff, Prod.exists, Prod.mk.injEq] at h
      obtain ⟨l', r', e, rfl, rfl⟩ := h
      obtain ⟨rfl, mem⟩ := ih e
      exact ⟨rfl, by simp [mem, Ne.symm ne]⟩

/-- The position of the first `b` is where `splitOnce` splits. -/
lemma findIdx_eq (b : UInt8) (bs : Bytes) :
    bs.findIdx? (· == b) = (splitOnce b bs).map (·.1.length) := by
  induction bs with
  | nil => rfl
  | cons c cs ih =>
    rw [List.findIdx?_cons, splitOnce, ih]
    by_cases h : c = b
    · simp [h]
    · simp [h, Function.comp_def]

/-- Whether `needle` occurs in the string as a contiguous part. -/
def hasWindow (needle : Bytes) (bs : Bytes) : Bool := bs.tails.any needle.isPrefixOf

/-- A window occurs exactly when it is an infix. -/
lemma hasWindow_iff {needle bs} : hasWindow needle bs = true ↔ needle <:+: bs := by
  simp only [hasWindow, List.any_eq_true, List.mem_tails, List.isPrefixOf_iff_prefix]
  constructor
  · rintro ⟨t, ⟨u, rfl⟩, v, rfl⟩
    exact ⟨u, v, by simp⟩
  · rintro ⟨u, v, rfl⟩
    exact ⟨needle ++ v, ⟨u, by simp⟩, ⟨v, rfl⟩⟩

end QuickFix
