import QuickFix.Lib.Text
import Mathlib.Logic.Function.Basic

/-!
# Sections of the settings

Model of `Settings::parse` of `src/settings.rs`: `[DEFAULT]` and `[SESSION]` sections of assignments. What
a text says is also stated without the reader, by the blocks its lines make up: each begins with a header,
and the last assignment to a key counts. The reader accepts exactly the texts whose lines make up blocks,
and otherwise names the first line that does not fit (`parse_iff`).
-/

namespace QuickFix

/-- The keys of a section and their values. -/
abbrev Section := Bytes → Option Bytes

namespace Section

/-- A section without entries. -/
def empty : Section := fun _ => none

/-- A later entry replaces an earlier one. -/
def insert (s : Section) (key value : Bytes) : Section := Function.update s key (some value)

/-- The entries of `s` override those there are. -/
def extend (base s : Section) : Section := fun key => (s key).or (base key)

/-- What assignments make up: the last one to a key counts. -/
def of (entries : List (Bytes × Bytes)) : Section := fun key => entries.reverse.lookup key

/-- No entries make up the empty section. -/
@[simp] lemma of_nil : of [] = empty := rfl

/-- The last entry is inserted last. -/
lemma of_snoc (entries key value) : of (entries ++ [(key, value)]) = (of entries).insert key value := by
  funext k
  simp only [of, insert, List.reverse_append, List.reverse_singleton, List.singleton_append,
    List.lookup_cons, Function.update_apply]
  by_cases same : k = key
  · simp [same]
  · rw [beq_false_of_ne same, if_neg same]

/-- Entries are inserted one after the other. -/
lemma foldl_insert (entries more : List (Bytes × Bytes)) :
    more.foldl (fun s e => s.insert e.1 e.2) (of entries) = of (entries ++ more) := by
  induction more generalizing entries with
  | nil => rw [List.append_nil]; rfl
  | cons e more ih =>
    rw [List.foldl_cons, ← of_snoc, ih, List.append_assoc]
    rfl

end Section

/-- The sections of a file. -/
structure Settings where
  defaults : Section := .empty
  sessions : List Section := []

namespace Settings

/-! ## Lines -/

/-- What a line is. -/
inductive Line where
  /-- It is empty, or a comment. -/
  | blank
  | header (name : Bytes)
  | assignment (key value : Bytes)
  | other (text : Bytes)
  deriving DecidableEq

/-- The upper-case form of an ASCII letter. -/
def toUppercase (b : UInt8) : UInt8 := if 97 ≤ b ∧ b ≤ 122 then b - 32 else b

/-- What a line says, once it is trimmed. -/
def Line.of (line : Bytes) : Line :=
  let line := trim line
  if line = [] ∨ line.head? = some 35 then .blank
  else if line.head? = some 91 ∧ line.getLast? = some 93 then
    .header ((trim line.tail.dropLast).map toUppercase)
  else
    match splitOnce 61 line with
    | some (key, value) => .assignment (trim key) (trim value)
    | none => .other line

/-! ## The reader -/

/-- What is wrong with a line. -/
inductive ParseError where
  | unknownSection (line : Nat) (name : Bytes)
  | expectedAssignment (line : Nat) (text : Bytes)
  | keyOutside (line : Nat)

namespace ParseError

/-- The message of an error; `quote` is how text is quoted. -/
def message (quote : Bytes → Bytes) : ParseError → Bytes
  | unknownSection line name => ascii "line " ++ dec line ++ ascii ": unknown section [" ++ name ++ ascii "]"
  | expectedAssignment line text => ascii "line " ++ dec line ++ ascii ": expected key=value, got " ++ quote text
  | keyOutside line => ascii "line " ++ dec line ++ ascii ": key outside of [DEFAULT]/[SESSION]"

/-- The line an error is about. -/
def line : ParseError → Nat
  | unknownSection line _ | expectedAssignment line _ | keyOutside line => line

/-- The message of an error begins with its line. -/
lemma message_line (quote : Bytes → Bytes) (e : ParseError) :
    ascii "line " ++ dec e.line ++ ascii ": " <+: e.message quote := by
  cases e with
  | unknownSection l name => exact ⟨ascii "unknown section [" ++ name ++ ascii "]", by simp [message, line, ascii]⟩
  | expectedAssignment l text =>
    exact ⟨ascii "expected key=value, got " ++ quote text, by simp [message, line, ascii]⟩
  | keyOutside l => exact ⟨ascii "key outside of [DEFAULT]/[SESSION]", by simp [message, line, ascii]⟩

end ParseError

/-- The reader between two lines. -/
structure Reader where
  settings : Settings := {}
  current : Option Section := none
  inDefault : Bool := false

namespace Reader

/-- The current section is over. -/
def flush (r : Reader) : Reader :=
  match r.current with
  | some s => { r with settings.sessions := r.settings.sessions ++ [s], current := none }
  | none => r

/-- Takes a line. -/
def take (r : Reader) (lineNo : Nat) (line : Bytes) : Except ParseError Reader :=
  match Line.of line with
  | .blank => .ok r
  | .header name =>
    if name = ascii "DEFAULT" then .ok { r.flush with inDefault := true }
    else if name = ascii "SESSION" then .ok { r.flush with inDefault := false, current := some .empty }
    else .error (.unknownSection lineNo name)
  | .other text => .error (.expectedAssignment lineNo text)
  | .assignment key value =>
    match r.current with
    | some s => .ok { r with current := some (s.insert key value) }
    | none =>
      if r.inDefault then .ok { r with settings.defaults := r.settings.defaults.insert key value }
      else .error (.keyOutside lineNo)

/-- Takes the lines from the `lineNo`th one on. -/
def takeAll (r : Reader) (lineNo : Nat) : List Bytes → Except ParseError Reader
  | [] => .ok r
  | line :: lines => do (← r.take lineNo line).takeAll (lineNo + 1) lines

end Reader

/-- `Settings::parse`. -/
def parse (text : Bytes) : Except ParseError Settings := do
  return (← Reader.takeAll {} 1 (lines text)).flush.settings

/-! ## What a text says -/

/-- A header and the assignments below it. -/
structure Block where
  isDefault : Bool
  entries : List (Bytes × Bytes)

/-- The name of the section. -/
def Block.name (b : Block) : Bytes := ascii (if b.isDefault then "DEFAULT" else "SESSION")

/-- The settings blocks make up. -/
def ofBlocks (bs : List Block) : Settings where
  defaults := .of ((bs.filter (·.isDefault)).flatMap Block.entries)
  sessions := (bs.filter (!·.isDefault)).map fun b => .of b.entries

/-- A line that makes more of the blocks above it. -/
inductive Continues (bs : List Block) (line : Bytes) : List Block → Prop
  | blank (is : Line.of line = .blank) : Continues bs line bs
  | header (isDefault) (is : Line.of line = .header (Block.name ⟨isDefault, []⟩)) :
      Continues bs line (bs ++ [⟨isDefault, []⟩])
  | assignment {init b key value} (above : bs = init ++ [b]) (is : Line.of line = .assignment key value) :
      Continues bs line (init ++ [{ b with entries := b.entries ++ [(key, value)] }])

/-- The lines make up the blocks. -/
inductive MakesUp : List Bytes → List Block → Prop
  | nil : MakesUp [] []
  | snoc {lines bs line bs'} (h : MakesUp lines bs) (next : Continues bs line bs') : MakesUp (lines ++ [line]) bs'

/-- What is wrong with a line below these blocks. -/
inductive Misfits (bs : List Block) (lineNo : Nat) (line : Bytes) : ParseError → Prop
  | unknownSection {name} (is : Line.of line = .header name) (unknown : ∀ d, name ≠ Block.name ⟨d, []⟩) :
      Misfits bs lineNo line (.unknownSection lineNo name)
  | expectedAssignment {text} (is : Line.of line = .other text) :
      Misfits bs lineNo line (.expectedAssignment lineNo text)
  | keyOutside {key value} (none : bs = []) (is : Line.of line = .assignment key value) :
      Misfits bs lineNo line (.keyOutside lineNo)

/-! ## The reader is right -/

namespace Reader

variable (r : Reader)

/-- Nothing is left open. -/
@[simp] lemma flush_current : r.flush.current = none := by
  unfold flush
  split
  case h_1 => rfl
  case h_2 none => exact none

/-- The defaults are kept. -/
@[simp] lemma flush_defaults : r.flush.settings.defaults = r.settings.defaults := by
  unfold flush
  split
  case h_1 => rfl
  case h_2 => rfl

/-- The open session is added. -/
lemma flush_sessions : r.flush.settings.sessions = r.settings.sessions ++ r.current.toList := by
  unfold flush
  split
  case h_1 s is => rw [is]; rfl
  case h_2 is => rw [is]; exact (List.append_nil _).symm

/-- Takes a header and the assignments below it. -/
def block (b : Block) : Reader :=
  if b.isDefault then
    { r.flush with
      settings.defaults := b.entries.foldl (fun s e => s.insert e.1 e.2) r.flush.settings.defaults
      inDefault := true }
  else { r.flush with current := some (.of b.entries), inDefault := false }

/-- The reader below the blocks. -/
def below (bs : List Block) : Reader := bs.foldl block {}

/-- What is read below one more block. -/
lemma below_snoc (bs b) : below (bs ++ [b]) = (below bs).block b := by
  rw [below, List.foldl_append]
  rfl

/-- A line that continues the blocks is taken. -/
lemma take_continues {bs line bs'} (lineNo) (h : Continues bs line bs') :
    (below bs).take lineNo line = .ok (below bs') := by
  cases h with
  | blank is => rw [take, is]
  | header isDefault is =>
    rw [take, is, below_snoc]
    cases isDefault with
    | true => exact if_pos rfl
    | false => simp +decide [block]
  | @assignment init b key value above is =>
    rw [take, is, above, below_snoc, below_snoc]
    cases d : b.isDefault with
    | true => simp [block, d]
    | false => simp [block, d, Section.of_snoc]

/-- A line that does not fit is an error. -/
lemma take_misfits {bs lineNo line e} (h : Misfits bs lineNo line e) :
    (below bs).take lineNo line = .error e := by
  cases h with
  | unknownSection is unknown =>
    rw [take, is]
    exact (if_neg (unknown true)).trans (if_neg (unknown false))
  | expectedAssignment is => rw [take, is]
  | keyOutside none is =>
    rw [take, is, none]
    rfl

/-- The last line is taken last. -/
lemma takeAll_snoc (lineNo lines line) :
    r.takeAll lineNo (lines ++ [line]) =
      (r.takeAll lineNo lines).bind (·.take (lineNo + lines.length) line) := by
  induction lines generalizing r lineNo with
  | nil =>
    simp only [List.nil_append, takeAll, List.length_nil, Nat.add_zero]
    exact bind_pure (r.take lineNo line)
  | cons first lines ih =>
    simp only [List.cons_append, takeAll]
    cases r.take lineNo first with
    | error e => rfl
    | ok r =>
      refine (ih r (lineNo + 1)).trans ?_
      rw [List.length_cons, Nat.add_right_comm, Nat.add_assoc]
      rfl

/-- A line that does not fit ends the reading. -/
lemma takeAll_error {lineNo lines e} (h : r.takeAll lineNo lines = .error e) (more) :
    r.takeAll lineNo (lines ++ more) = .error e := by
  induction lines generalizing r lineNo with
  | nil => cases h
  | cons first lines ih =>
    simp only [List.cons_append, takeAll] at h ⊢
    cases taken : r.take lineNo first with
    | error e' =>
      rw [taken] at h
      exact h
    | ok r =>
      rw [taken] at h
      exact ih r h

/-- Lines that make up blocks are taken. -/
lemma takeAll_makesUp {lines bs} (h : MakesUp lines bs) : takeAll {} 1 lines = .ok (below bs) := by
  induction h with
  | nil => rfl
  | snoc _ next ih =>
    rw [takeAll_snoc, ih]
    exact take_continues _ next

/-- The first line that does not fit is the error. -/
lemma takeAll_misfits {lines bs line e} (h : MakesUp lines bs) (misfits : Misfits bs (lines.length + 1) line e)
    (more) : takeAll {} 1 (lines ++ line :: more) = .error e := by
  rw [← List.singleton_append, ← List.append_assoc]
  apply takeAll_error
  rw [takeAll_snoc, takeAll_makesUp h, Nat.add_comm]
  exact take_misfits misfits

/-- The entries of all default blocks make up the defaults. -/
lemma below_defaults (bs : List Block) :
    (below bs).settings.defaults = .of ((bs.filter (·.isDefault)).flatMap Block.entries) := by
  induction bs using List.reverseRecOn with
  | nil => rfl
  | append_singleton bs b ih =>
    rw [below_snoc, List.filter_append, List.flatMap_append]
    cases d : b.isDefault with
    | true => simp [block, d, ih, Section.foldl_insert]
    | false => simp [block, d, ih]

/-- The other blocks are the sessions. -/
lemma below_sessions (bs : List Block) : (below bs).flush.settings.sessions =
    (bs.filter (!·.isDefault)).map fun b => .of b.entries := by
  induction bs using List.reverseRecOn with
  | nil => rfl
  | append_singleton bs b ih =>
    rw [below_snoc, List.filter_append, List.map_append, flush_sessions]
    cases d : b.isDefault with
    | true => simp [block, d, ih]
    | false => simp [block, d, ih]

/-- What was read is what the blocks make up. -/
lemma settings_below (bs : List Block) : (below bs).flush.settings = ofBlocks bs := by
  rw [ofBlocks, ← below_defaults, ← below_sessions, ← flush_defaults]

end Reader

/-- A line goes on with the blocks above it, or does not fit. -/
lemma continues_or_misfits (bs lineNo line) :
    (∃ bs', Continues bs line bs') ∨ ∃ e, Misfits bs lineNo line e := by
  cases is : Line.of line with
  | blank => exact .inl ⟨bs, .blank is⟩
  | header name =>
    by_cases known : ∃ d, name = Block.name ⟨d, []⟩
    · obtain ⟨d, rfl⟩ := known
      exact .inl ⟨_, .header d is⟩
    · exact .inr ⟨_, .unknownSection is (not_exists.mp known)⟩
  | other text => exact .inr ⟨_, .expectedAssignment is⟩
  | assignment key value =>
    rcases List.eq_nil_or_concat bs with rfl | ⟨init, b, rfl⟩
    · exact .inr ⟨_, .keyOutside rfl is⟩
    · exact .inl ⟨_, .assignment List.concat_eq_append is⟩

/-- The lines make up blocks, or there is a first one that does not fit. -/
lemma makesUp_or_misfits (lines : List Bytes) : (∃ bs, MakesUp lines bs) ∨
    ∃ before line after bs e, lines = before ++ line :: after ∧ MakesUp before bs ∧
      Misfits bs (before.length + 1) line e := by
  induction lines using List.reverseRecOn with
  | nil => exact .inl ⟨[], .nil⟩
  | append_singleton lines line ih =>
    rcases ih with ⟨bs, made⟩ | ⟨before, first, after, bs, e, rfl, made, misfits⟩
    · rcases continues_or_misfits bs (lines.length + 1) line with ⟨bs', next⟩ | ⟨e, misfits⟩
      · exact .inl ⟨bs', .snoc made next⟩
      · exact .inr ⟨lines, line, [], bs, e, rfl, made, misfits⟩
    · refine .inr ⟨before, first, after ++ [line], bs, e, ?_, made, misfits⟩
      rw [List.append_assoc, List.cons_append]

/-- A text is accepted when its lines make up blocks, and says what these say; otherwise the first line that
does not fit is named. -/
theorem parse_iff (text : Bytes) :
    (∀ s, parse text = .ok s ↔ ∃ bs, MakesUp (lines text) bs ∧ s = ofBlocks bs) ∧
      ∀ e, parse text = .error e ↔ ∃ before line after bs, lines text = before ++ line :: after ∧
        MakesUp before bs ∧ Misfits bs (before.length + 1) line e := by
  have accepted {bs} (made : MakesUp (lines text) bs) : parse text = .ok (ofBlocks bs) := by
    rw [parse, Reader.takeAll_makesUp made, ← Reader.settings_below]
    rfl
  have refused {before line after bs e} (split : lines text = before ++ line :: after)
      (made : MakesUp before bs) (misfits : Misfits bs (before.length + 1) line e) :
      parse text = .error e := by
    rw [parse, split, Reader.takeAll_misfits made misfits]
    rfl
  constructor
  · intro s
    constructor
    · intro read
      rcases makesUp_or_misfits (lines text) with ⟨bs, made⟩ | ⟨_, _, _, _, _, split, made, misfits⟩
      · exact ⟨bs, made, Except.ok.inj (read.symm.trans (accepted made))⟩
      · cases read.symm.trans (refused split made misfits)
    · rintro ⟨bs, made, rfl⟩
      exact accepted made
  · intro e
    constructor
    · intro read
      rcases makesUp_or_misfits (lines text) with ⟨bs, made⟩ | ⟨before, line, after, bs, e', split, made, misfits⟩
      · cases read.symm.trans (accepted made)
      · obtain rfl : e = e' := Except.error.inj (read.symm.trans (refused split made misfits))
        exact ⟨before, line, after, bs, split, made, misfits⟩
    · rintro ⟨before, line, after, bs, split, made, misfits⟩
      exact refused split made misfits

end Settings

end QuickFix
