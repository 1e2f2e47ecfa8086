import QuickFix.Lib.Bytes
import Mathlib.Data.List.Basic

/-!
# Text

The functions of strings by which text files are read: trimming, splitting at a separator, lines. Strings
are byte strings here, with their characters in UTF-8.
-/

namespace QuickFix

/-! ## Trimming -/

/-- The characters with the property `White_Space`. -/
def whitespace : List Bytes :=
  [[9], [10], [11], [12], [13], [32], [0xC2, 0x85], [0xC2, 0xA0], [0xE1, 0x9A, 0x80],
    [0xE2, 0x80, 0x80], [0xE2, 0x80, 0x81], [0xE2, 0x80, 0x82], [0xE2, 0x80, 0x83],
    [0xE2, 0x80, 0x84], [0xE2, 0x80, 0x85], [0xE2, 0x80, 0x86], [0xE2, 0x80, 0x87],
    [0xE2, 0x80, 0x88], [0xE2, 0x80, 0x89], [0xE2, 0x80, 0x8A], [0xE2, 0x80, 0xA8],
    [0xE2, 0x80, 0xA9], [0xE2, 0x80, 0xAF], [0xE2, 0x81, 0x9F], [0xE3, 0x80, 0x80]]

/-- Takes prefixes out of `ps` off the bytes, at most `fuel` of them. -/
def dropPrefixes (ps : List Bytes) : Nat → Bytes → Bytes
  | 0, bs => bs
  | fuel + 1, bs =>
    match ps.find? (·.isPrefixOf bs) with
    | some p => dropPrefixes ps fuel (bs.drop p.length)
    | none => bs

/-- `str::trim`. -/
def trim (bs : Bytes) : Bytes :=
  let bs := dropPrefixes whitespace bs.length bs
  (dropPrefixes (whitespace.map List.reverse) bs.length bs.reverse).reverse

/-- Bytes that no prefix starts like are kept. -/
lemma dropPrefixes_eq {ps : List Bytes} {bs : Bytes} (fuel)
    (other : ∀ p ∈ ps, ∃ c, p.head? = some c ∧ ∀ b ∈ bs.head?, b ≠ c) : dropPrefixes ps fuel bs = bs := by
  cases fuel with
  | zero => rfl
  | succ fuel =>
    have none : ps.find? (·.isPrefixOf bs) = none := by
      rw [List.find?_eq_none]
      intro p mem h
      obtain ⟨c, first, ne⟩ := other p mem
      obtain ⟨rest, rfl⟩ := List.isPrefixOf_iff_prefix.mp h
      cases p with
      | nil => cases first
      | cons d p =>
        cases first
        exact ne c rfl rfl
    rw [dropPrefixes, none]

/-- Text from a digit to a digit has nothing to trim. -/
lemma trim_eq {bs : Bytes} (first : ∀ b ∈ bs.head?, isDigit b = true)
    (last : ∀ b ∈ bs.getLast?, isDigit b = true) : trim bs = bs := by
  have starts : ∀ p ∈ whitespace, ∃ c, p.head? = some c ∧ isDigit c = false := by decide
  have ends : ∀ p ∈ whitespace.map List.reverse, ∃ c, p.head? = some c ∧ isDigit c = false := by decide
  have front : dropPrefixes whitespace bs.length bs = bs := by
    refine dropPrefixes_eq _ fun p mem => ?_
    obtain ⟨c, head, other⟩ := starts p mem
    refine ⟨c, head, fun b here => ?_⟩
    rintro rfl
    rw [first b here] at other
    cases other
  have back : dropPrefixes (whitespace.map List.reverse) bs.length bs.reverse = bs.reverse := by
    refine dropPrefixes_eq _ fun p mem => ?_
    obtain ⟨c, head, other⟩ := ends p mem
    refine ⟨c, head, fun b here => ?_⟩
    rintro rfl
    rw [List.head?_reverse] at here
    rw [last b here] at other
    cases other
  simp only [trim, front, back, List.reverse_reverse]

/-- There is nothing to trim. -/
def Trimmed (bs : Bytes) : Prop := ∀ p ∈ whitespace, ¬ p <+: bs ∧ ¬ p <:+ bs

instance (bs) : Decidable (Trimmed bs) := inferInstanceAs (Decidable (∀ p ∈ whitespace, _))

/-- Bytes that begin with none of the prefixes lose nothing. -/
lemma dropPrefixes_of {ps : List Bytes} {bs : Bytes} (fuel) (other : ∀ p ∈ ps, ¬ p <+: bs) :
    dropPrefixes ps fuel bs = bs := by
  cases fuel with
  | zero => rfl
  | succ fuel =>
    have none : ps.find? (·.isPrefixOf bs) = none := by
      rw [List.find?_eq_none]
      intro p mem h
      exact other p mem (List.isPrefixOf_iff_prefix.mp h)
    rw [dropPrefixes, none]

/-- Trimming takes nothing off what is trimmed. -/
lemma Trimmed.trim_eq {bs : Bytes} (h : Trimmed bs) : trim bs = bs := by
  have front : dropPrefixes whitespace bs.length bs = bs := dropPrefixes_of _ fun p mem => (h p mem).1
  have back : dropPrefixes (whitespace.map List.reverse) bs.length bs.reverse = bs.reverse := by
    apply dropPrefixes_of
    intro q mem
    obtain ⟨p, here, rfl⟩ := List.mem_map.mp mem
    rw [List.reverse_prefix]
    exact (h p here).2
  simp only [trim, front, back, List.reverse_reverse]

/-- What starts a text with a byte it does not have starts the text before that byte. -/
lemma prefix_before {c : UInt8} {p l r : Bytes} (plain : c ∉ p) (h : p <+: l ++ c :: r) : p <+: l := by
  apply List.prefix_of_prefix_length_le h (List.prefix_append l _)
  by_contra longer
  obtain ⟨rest, same⟩ := h
  have at_c : (l ++ c :: r)[l.length]? = some c := by simp
  rw [← same, List.getElem?_append_left (by omega)] at at_c
  exact plain (List.mem_of_getElem? at_c)

/-- Text around a separator has nothing to trim where its parts have nothing. -/
lemma Trimmed.join {c : UInt8} {l r : Bytes} (left : Trimmed l) (right : Trimmed r)
    (plain : ∀ p ∈ whitespace, c ∉ p) : Trimmed (l ++ c :: r) := by
  intro p mem
  constructor
  · intro h
    exact (left p mem).1 (prefix_before (plain p mem) h)
  · intro h
    apply (right p mem).2
    rw [← List.reverse_prefix] at h ⊢
    apply prefix_before (c := c) (r := l.reverse)
    · rw [List.mem_reverse]
      exact plain p mem
    · simpa using h

/-- Bytes that are trimmed do not end in a carriage return. -/
lemma Trimmed.noReturn {bs : Bytes} (h : Trimmed bs) : bs.getLast? ≠ some 13 := by
  intro last
  obtain ⟨init, rfl⟩ := List.getLast?_eq_some_iff.mp last
  exact (h [13] (by decide)).2 (List.suffix_append init [13])

/-! ## Splitting -/

/-- `str::split_once`. -/
def splitOnceAt (sep : Bytes) : Bytes → Option (Bytes × Bytes)
  | [] => none
  | b :: bs =>
    if sep.isPrefixOf (b :: bs) then some ([], (b :: bs).drop sep.length)
    else (splitOnceAt sep bs).map fun (l, r) => (b :: l, r)

/-- Text is split at a separator after which none of its bytes came. -/
lemma splitOnceAt_append {c : UInt8} {sep l : Bytes} (plain : c ∉ l) (r) :
    splitOnceAt (c :: sep) (l ++ c :: sep ++ r) = some (l, r) := by
  induction l with
  | nil => simp [splitOnceAt]
  | cons b l ih =>
    rw [List.mem_cons, not_or] at plain
    rw [List.cons_append, List.cons_append, splitOnceAt, if_neg, ih plain.2]
    · rfl
    · intro h
      obtain ⟨rest, same⟩ := List.isPrefixOf_iff_prefix.mp h
      exact plain.1 (List.cons.inj same).1

/-- `str::splitn` at a byte. -/
def splitN (sep : UInt8) : Nat → Bytes → List Bytes
  | 0, _ => []
  | 1, bs => [bs]
  | n + 2, bs =>
    match splitOnce sep bs with
    | some (l, r) => l :: splitN sep (n + 1) r
    | none => [bs]

/-- Three parts of text. -/
lemma splitN_three {sep : UInt8} {a b : Bytes} (first : sep ∉ a) (second : sep ∉ b) (c) :
    splitN sep 3 (a ++ sep :: (b ++ sep :: c)) = [a, b, c] := by
  simp only [splitN, splitOnce_append first, splitOnce_append second]

/-! ## Lines -/

/-- Removes a carriage return at the end. -/
def stripReturn (bs : Bytes) : Bytes := if bs.getLast? = some 13 then bs.dropLast else bs

/-- `str::lines`: what ends with a line feed, or a carriage return and a line feed, and the rest. -/
def lines (bs : Bytes) : List Bytes :=
  let pieces := bs.splitOn 10
  pieces.dropLast.map stripReturn ++ pieces.getLast?.toList.filter (· ≠ [])

/-- The first line. -/
lemma lines_cons {l : Bytes} (plain : 10 ∉ l) (noReturn : l.getLast? ≠ some 13) (bs) :
    lines (l ++ 10 :: bs) = l :: lines bs := by
  have split : (l ++ 10 :: bs).splitOn 10 = l :: bs.splitOn 10 := by
    rw [List.splitOn_append_cons_self, List.splitOn_eq_singleton plain]
    rfl
  have ne := List.splitOn_ne_nil 10 bs
  simp only [lines, split]
  rw [List.dropLast_cons_of_ne_nil ne, List.getLast?_cons_of_ne_nil ne]
  simp [stripReturn, noReturn]

/-- No bytes are no lines. -/
@[simp] lemma lines_nil : lines [] = [] := rfl

/-- The lines of text that was written line by line. -/
lemma lines_flatMap {α : Type} {f : α → Bytes} (plain : ∀ x, 10 ∉ f x)
    (noReturn : ∀ x, (f x).getLast? ≠ some 13) (xs : List α) (rest) :
    lines (xs.flatMap (fun x => f x ++ [10]) ++ rest) = xs.map f ++ lines rest := by
  induction xs with
  | nil => rfl
  | cons x xs ih =>
    rw [List.flatMap_cons, List.append_assoc, List.append_assoc, List.singleton_append,
      lines_cons (plain x) (noReturn x), ih]
    rfl

/-- Lines that are written are read back. -/
lemma lines_written {ls : List Bytes} (plain : ∀ l ∈ ls, 10 ∉ l ∧ l.getLast? ≠ some 13) :
    lines (ls.flatMap (· ++ [10])) = ls := by
  induction ls with
  | nil => rfl
  | cons l ls ih =>
    have first := plain l List.mem_cons_self
    rw [List.flatMap_cons, List.append_assoc, List.singleton_append, lines_cons first.1 first.2,
      ih fun l' mem => plain l' (List.mem_cons_of_mem l mem)]

end QuickFix
