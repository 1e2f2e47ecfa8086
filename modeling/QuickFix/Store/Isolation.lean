import Mathlib.Data.List.TakeWhile
import QuickFix.Store.Failure
import QuickFix.Session.Config

/-!
# Two stores in one directory

The files of a session are named after it: `FileStore::open_with_sync` of `src/store.rs` joins the prefix
of the session to the directory and sets the four extensions with `Path::with_extension`, which replaces
what follows the last dot of the name. Two stores leave each other alone exactly when the strings of
their sessions differ before the last dot (`filesIsolated_iff`).
-/

namespace QuickFix

open MessageStore

/-! ## Paths -/

/-- `key_of`: the engine accepts one session for each. -/
def SessionId.key (id : SessionId) : Bytes × Bytes × Bytes :=
  (id.beginString, id.senderCompId, id.targetCompId)

/-- Filename prefix for file-based stores: `BeginString-Sender-Target[-Qualifier]`. -/
def SessionId.filePrefix (id : SessionId) : Bytes :=
  let s := id.beginString ++ ascii "-" ++ id.senderCompId ++ ascii "-" ++ id.targetCompId
  if id.qualifier = [] then s else s ++ ascii "-" ++ id.qualifier

/-- `Path::join`. -/
def joinPath (dir file : Bytes) : Bytes :=
  if file.head? = some 47 then file
  else if dir = [] ∨ dir.getLast? = some 47 then dir ++ file
  else dir ++ 47 :: file

/-- The components of a path. Repeated separators and `.` count for nothing. -/
def components (path : Bytes) : List Bytes :=
  (path.splitOn 47).filter fun c => c ≠ [] ∧ c ≠ ascii "."

/-- `Path::file_stem` of a name: what stands before its last dot, if anything does. -/
def fileStem (name : Bytes) : Bytes :=
  let rest := (name.reverse.dropWhile (· ≠ 46)).drop 1
  if rest = [] then name else rest.reverse

/-- Where a path leads from a directory. -/
def walkTo (base : List Bytes) (cs : List Bytes) : List Bytes :=
  cs.foldl (fun at' c => if c = ascii ".." then at'.dropLast else at' ++ [c]) base

/-- The path of the files of a session, without the extension, in the directory `dir` of a process that runs
in `base`. There is none when the path has no name to set an extension of. -/
def storePath (base : List Bytes) (dir : Bytes) (id : SessionId) : Option (List Bytes) :=
  let path := joinPath dir id.filePrefix
  let base := if path.head? = some 47 then [] else base
  match (components path).getLast? with
  | none => none
  | some name =>
    if name = ascii ".." then none
    else some (walkTo base (components path).dropLast ++ [fileStem name])

example : storePath [] (ascii "store")
    { beginString := ascii "FIX.4.4", senderCompId := ascii "S", targetCompId := ascii "T" } =
    some [ascii "store", ascii "FIX.4"] := by decide +kernel

/-! ## The strings of an identity -/

/-- The strings of an identity that name its files. -/
def SessionId.strings (id : SessionId) : List Bytes :=
  [id.beginString, id.senderCompId, id.targetCompId] ++ if id.qualifier = [] then [] else [id.qualifier]

/-- The pieces between the dashes of strings. -/
def pieces (strings : List Bytes) : List Bytes := strings.flatMap (·.splitOn 45)

/-- What stands before the last dot of a piece. -/
def beforeDot (piece : Bytes) : Bytes := ((piece.reverse.dropWhile (· ≠ 46)).drop 1).reverse

/-- The pieces that stand before the last dot; all of them without one. -/
def visible : List Bytes → List Bytes
  | [] => []
  | piece :: rest =>
    if ∃ later ∈ rest, 46 ∈ later then piece :: visible rest
    else if 46 ∈ piece then [beforeDot piece]
    else piece :: rest

/-- The pieces that tell a name. A dot that begins it ends nothing. -/
def told (name : List Bytes) : List Bytes := if visible name = [[]] then name else visible name

/-- The strings that name the files hold no separator. -/
def SessionId.Flat (id : SessionId) : Prop := ∀ string ∈ id.strings, 47 ∉ string

instance : DecidablePred SessionId.Flat := fun id =>
  inferInstanceAs (Decidable (∀ string ∈ id.strings, 47 ∉ string))

/-- The names between the separators of the strings. -/
def SessionId.levels (id : SessionId) : List Bytes := components ([45].intercalate id.strings)

/-- The directory where the names of a session begin. -/
def home (base : List Bytes) (dir : Bytes) (id : SessionId) : List Bytes :=
  if id.beginString.head? = some 47 then []
  else walkTo (if dir.head? = some 47 then [] else base) (components dir)

/-- Two sessions tell their files by the same pieces; with separators in their strings, in the same
directory. -/
inductive SharesFiles (base : List Bytes) (dir : Bytes) (a b : SessionId) : Prop
  | flat (left : a.Flat) (right : b.Flat) (same : told (pieces a.strings) = told (pieces b.strings))
  | nested {folder folder' name name'} (separated : ¬ (a.Flat ∧ b.Flat))
      (left : a.levels = folder ++ [name]) (right : b.levels = folder' ++ [name'])
      (up : name ≠ ascii "..") (up' : name' ≠ ascii "..")
      (folders : walkTo (home base dir a) folder = walkTo (home base dir b) folder')
      (same : told (name.splitOn 45) = told (name'.splitOn 45))

/-- The prefix is the strings, joined by dashes. -/
lemma filePrefix_eq (id : SessionId) : id.filePrefix = [45].intercalate id.strings := by
  rw [SessionId.filePrefix, SessionId.strings]
  split <;> simp [ascii]

/-- To split what was joined is to split the strings. -/
lemma splitOn_joined {strings : List Bytes} (some : strings ≠ []) :
    ([45].intercalate strings).splitOn 45 = pieces strings := by
  induction strings with
  | nil => exact absurd rfl some
  | cons s strings ih =>
    cases strings with
    | nil => simp [pieces]
    | cons s' strings =>
      rw [List.intercalate_cons_cons, List.append_assoc, List.singleton_append,
        List.splitOn_append_cons_self, ih (by simp)]
      rfl

/-- No piece of a split holds what was split at. -/
lemma not_mem_splitOn {x : UInt8} {t piece : Bytes} (mem : piece ∈ t.splitOn x) : x ∉ piece := by
  induction t generalizing piece with
  | nil => simp_all
  | cons c t ih =>
    rw [List.splitOn_cons_eq_if_modifyHead] at mem
    split at mem
    · obtain rfl | mem := List.mem_cons.mp mem
      · exact List.not_mem_nil
      · exact ih mem
    · rename_i other
      obtain ⟨first, rest, eq⟩ := List.exists_cons_of_ne_nil (List.splitOn_ne_nil x t)
      rw [eq, List.modifyHead_cons] at mem
      obtain rfl | mem := List.mem_cons.mp mem
      · have clear : x ∉ first := ih (by simp [eq])
        exact List.not_mem_cons_of_ne_of_not_mem (fun same => other (by simp [same])) clear
      · exact ih (by simp [eq, mem])

/-- What is in joined strings is in one of them, or joins them. -/
lemma exists_mem_joined {x b : UInt8} {strings : List Bytes} (mem : b ∈ [x].intercalate strings)
    (other : b ≠ x) : ∃ s ∈ strings, b ∈ s := by
  induction strings with
  | nil => simp at mem
  | cons s strings ih =>
    cases strings with
    | nil => simpa using mem
    | cons s' strings =>
      rw [List.intercalate_cons_cons, List.append_assoc, List.mem_append, List.singleton_append,
        List.mem_cons] at mem
      obtain mem | same | mem := mem
      · exact ⟨s, by simp, mem⟩
      · exact absurd same other
      · obtain ⟨string, here, mem⟩ := ih mem
        exact ⟨string, by simp [here], mem⟩

/-- What is in a string is in the joined ones. -/
lemma mem_joined {x b : UInt8} {strings : List Bytes} (mem : ∃ s ∈ strings, b ∈ s) :
    b ∈ [x].intercalate strings := by
  induction strings with
  | nil => simp at mem
  | cons s strings ih =>
    cases strings with
    | nil => simpa using mem
    | cons s' strings =>
      rw [List.intercalate_cons_cons, List.append_assoc, List.mem_append, List.singleton_append,
        List.mem_cons]
      obtain ⟨string, here, mem⟩ := mem
      obtain rfl | here := List.mem_cons.mp here
      · exact .inl mem
      · exact .inr (.inr (ih ⟨string, here, mem⟩))

/-- Pieces of which nothing is left when they are joined. -/
lemma joined_eq_nil {ps : List Bytes} (some : ps ≠ []) : [45].intercalate ps = [] ↔ ps = [[]] := by
  cases ps with
  | nil => exact absurd rfl some
  | cons p ps => cases ps <;> simp [List.intercalate_cons_cons]

/-! ## Stems -/

/-- A text is cut at a dot with dotless text after it. -/
lemma beforeDot_append {stem rest : Bytes} (last : 46 ∉ rest) : beforeDot (stem ++ 46 :: rest) = stem := by
  have cut : (stem ++ 46 :: rest).reverse.dropWhile (· ≠ 46) = 46 :: stem.reverse := by
    rw [List.reverse_append, List.reverse_cons, List.append_assoc, List.dropWhile_append_of_pos]
    · rfl
    · intro b mem
      simpa using fun same : b = 46 => last (same ▸ List.mem_reverse.mp mem)
  rw [beforeDot, cut, List.drop_one, List.tail_cons, List.reverse_reverse]

/-- Nothing stands before the last dot of a text without one. -/
lemma beforeDot_dotless {t : Bytes} (dotless : 46 ∉ t) : beforeDot t = [] := by
  have all : t.reverse.dropWhile (· ≠ 46) = [] := by
    rw [List.dropWhile_eq_nil_iff]
    intro b mem
    simpa using fun same : b = 46 => dotless (same ▸ List.mem_reverse.mp mem)
  rw [beforeDot, all, List.drop_nil, List.reverse_nil]

/-- A text with a dot ends with one and with dotless text. -/
lemma exists_lastDot {t : Bytes} (dot : 46 ∈ t) : ∃ stem rest, t = stem ++ 46 :: rest ∧ 46 ∉ rest := by
  obtain ⟨rest, stem, eq, last⟩ := List.eq_append_cons_of_mem (List.mem_reverse.mpr dot)
  refine ⟨stem.reverse, rest.reverse, ?_, by simpa using last⟩
  simpa using congrArg List.reverse eq

/-- The stem of a name is what stands before its last dot, if anything does. -/
lemma fileStem_eq (name : Bytes) :
    fileStem name = if beforeDot name = [] then name else beforeDot name := by
  simp only [fileStem, beforeDot, List.reverse_eq_nil_iff]

/-- Pieces are visible wherever there are any. -/
lemma visible_ne_nil {ps : List Bytes} (some : ps ≠ []) : visible ps ≠ [] := by
  cases ps with
  | nil => exact absurd rfl some
  | cons p ps =>
    rw [visible]
    split <;> [skip; split] <;> simp

/-- The visible pieces make up what stands before the last dot of the joined ones. -/
lemma joined_visible {ps : List Bytes} (some : ps ≠ []) : [45].intercalate (visible ps) =
    if 46 ∈ [45].intercalate ps then beforeDot ([45].intercalate ps) else [45].intercalate ps := by
  induction ps with
  | nil => exact absurd rfl some
  | cons p ps ih =>
    rw [visible]
    split
    case isTrue later =>
      have some : ps ≠ [] := by
        rintro rfl
        simp at later
      have dot : 46 ∈ [45].intercalate ps := mem_joined later
      obtain ⟨stem, rest, eq, last⟩ := exists_lastDot dot
      have ih := ih some
      rw [if_pos dot, eq, beforeDot_append last] at ih
      rw [List.intercalate_cons_of_ne_nil (visible_ne_nil some), ih,
        List.intercalate_cons_of_ne_nil some, eq, ← List.append_assoc, if_pos (by simp),
        beforeDot_append last]
    case isFalse earlier =>
      have dotless : 46 ∉ [45].intercalate ps :=
        fun mem => earlier (exists_mem_joined mem (by decide))
      split
      case isTrue dot =>
        obtain ⟨stem, rest, rfl, last⟩ := exists_lastDot dot
        obtain ⟨more, clear, eq⟩ : ∃ more, 46 ∉ more ∧
            [45].intercalate ((stem ++ 46 :: rest) :: ps) = stem ++ 46 :: more := by
          cases ps with
          | nil => exact ⟨rest, last, by simp⟩
          | cons q ps =>
            refine ⟨rest ++ 45 :: [45].intercalate (q :: ps), by simp [last, dotless], ?_⟩
            simp [List.intercalate_cons_cons]
        rw [eq, if_pos (by simp), beforeDot_append clear, beforeDot_append last,
          List.intercalate_singleton]
      case isFalse dotless' =>
        rw [if_neg]
        intro mem
        obtain ⟨q, here, dot⟩ := exists_mem_joined mem (by decide)
        obtain rfl | here := List.mem_cons.mp here
        · exact dotless' dot
        · exact earlier ⟨q, here, dot⟩

/-- The stem of joined pieces is made up of those that tell the name. -/
lemma fileStem_joined {ps : List Bytes} (some : ps ≠ []) :
    fileStem ([45].intercalate ps) = [45].intercalate (told ps) := by
  have joined := joined_visible some
  have none := joined_eq_nil (visible_ne_nil some)
  rw [fileStem_eq, told]
  by_cases dot : 46 ∈ [45].intercalate ps
  · rw [if_pos dot] at joined
    rw [joined] at none
    simp only [none]
    split
    · rfl
    · exact joined.symm
  · rw [if_neg dot] at joined
    rw [if_pos (beforeDot_dotless dot)]
    split
    · rfl
    · exact joined.symm

/-- A visible piece is one of the pieces, or begins one. -/
lemma prefix_of_visible {ps : List Bytes} {piece} (mem : piece ∈ visible ps) : ∃ p ∈ ps, piece <+: p := by
  induction ps with
  | nil => cases mem
  | cons p ps ih =>
    rw [visible] at mem
    split at mem
    · obtain rfl | mem := List.mem_cons.mp mem
      · exact ⟨piece, by simp, List.prefix_refl _⟩
      · obtain ⟨q, here, pre⟩ := ih mem
        exact ⟨q, by simp [here], pre⟩
    · split at mem
      case isTrue dot =>
        obtain ⟨stem, rest, rfl, last⟩ := exists_lastDot dot
        rw [List.mem_singleton, beforeDot_append last] at mem
        subst mem
        exact ⟨_, List.mem_cons_self, List.prefix_append _ _⟩
      case isFalse => exact ⟨piece, mem, List.prefix_refl _⟩

/-- The pieces that tell a name hold no dash, when its pieces do not. -/
lemma told_dashless {ps : List Bytes} (dashless : ∀ p ∈ ps, 45 ∉ p) : ∀ p ∈ told ps, 45 ∉ p := by
  intro p mem dash
  rw [told] at mem
  split at mem
  · exact dashless p mem dash
  · obtain ⟨q, here, pre⟩ := prefix_of_visible mem
    exact dashless q here (pre.mem dash)

/-- Two names have one stem exactly when the same pieces tell them. -/
lemma fileStem_inj (s t : Bytes) :
    fileStem s = fileStem t ↔ told (s.splitOn 45) = told (t.splitOn 45) := by
  have stem (u : Bytes) : (fileStem u).splitOn 45 = told (u.splitOn 45) := by
    have some := List.splitOn_ne_nil 45 u
    have pieces : fileStem u = [45].intercalate (told (u.splitOn 45)) := by
      rw [← fileStem_joined some, List.intercalate_splitOn]
    have told_ne : told (u.splitOn 45) ≠ [] := by
      rw [told]
      split
      · exact some
      · exact visible_ne_nil some
    rw [pieces, List.splitOn_intercalate 45 (told_dashless fun p mem => not_mem_splitOn mem) told_ne]
  constructor
  · intro same
    rw [← stem, ← stem, same]
  · intro same
    have back (t : Bytes) : [45].intercalate (t.splitOn 45) = t := List.intercalate_splitOn 45
    rw [← back (fileStem s), stem, same, ← stem, back]

/-! ## Where the files are -/

/-- The components of a name in a directory. -/
lemma components_join (dir name : Bytes) : components (joinPath dir name) =
    (if name.head? = some 47 then [] else components dir) ++ components name := by
  have joined (d : Bytes) : components (d ++ 47 :: name) = components d ++ components name := by
    rw [components, List.splitOn_append_cons_self, List.filter_append]
    rfl
  rw [joinPath]
  split
  case isTrue => rfl
  case isFalse =>
    split
    case isFalse => exact joined dir
    case isTrue end' =>
      obtain rfl | slash := end'
      · rfl
      · obtain ⟨d, rfl⟩ := List.getLast?_eq_some_iff.mp slash
        have closed : components (d ++ [47]) = components d := by
          rw [components, List.splitOn_append_cons_self, List.filter_append]
          simp [components]
        rw [closed, List.append_assoc, List.singleton_append]
        exact joined d

/-- The strings of a session are joined by dashes. -/
lemma dash_mem (id : SessionId) : 45 ∈ [45].intercalate id.strings := by
  simp [SessionId.strings]

/-- A session has a name. -/
lemma levels_ne_nil (id : SessionId) : id.levels ≠ [] := by
  intro none
  have dash := dash_mem id
  have back : [47].intercalate (([45].intercalate id.strings).splitOn 47) = [45].intercalate id.strings :=
    List.intercalate_splitOn 47
  rw [← back] at dash
  obtain ⟨level, mem, dash⟩ := exists_mem_joined dash (by decide)
  have skipped := List.filter_eq_nil_iff.mp none level mem
  have : level = [] ∨ level = ascii "." := by
    by_contra h
    exact skipped (by simpa [not_or] using h)
  obtain rfl | rfl := this
  · cases dash
  · revert dash
    decide

/-- A path that begins with the separator of its first string. -/
lemma head_joined (id : SessionId) :
    ([45].intercalate id.strings).head? = some 47 ↔ id.beginString.head? = some 47 := by
  have first : [45].intercalate id.strings = id.beginString ++ 45 :: [45].intercalate id.strings.tail := by
    rw [SessionId.strings, List.cons_append, List.intercalate_cons_of_ne_nil (by simp)]
    simp
  rw [first]
  cases id.beginString <;> simp

/-- A path is absolute when its name is, or the directory that the name is in. -/
lemma head_joinPath (dir name : Bytes) : (joinPath dir name).head? = some 47 ↔
    name.head? = some 47 ∨ dir.head? = some 47 := by
  rw [joinPath]
  split
  case isTrue absolute => simp [absolute]
  case isFalse relative =>
    cases dir with
    | nil => simp [relative]
    | cons b dir => split <;> simp [relative]

/-- The files of a session are in the directory where its names lead, under the stem of the last. -/
lemma storePath_eq_some {base dir id p} : storePath base dir id = some p ↔
    ∃ folder name, id.levels = folder ++ [name] ∧ name ≠ ascii ".." ∧
      p = walkTo (home base dir id) folder ++ [fileStem name] := by
  obtain ⟨name, last⟩ :=
    Option.ne_none_iff_exists'.mp (mt List.getLast?_eq_none_iff.mp (levels_ne_nil id))
  obtain ⟨folder, levels⟩ := List.getLast?_eq_some_iff.mp last
  have absolute : id.filePrefix.head? = some 47 ↔ id.beginString.head? = some 47 := by
    rw [filePrefix_eq, head_joined]
  have path : components (joinPath dir id.filePrefix) =
      (if id.beginString.head? = some 47 then [] else components dir) ++ (folder ++ [name]) := by
    rw [components_join, ← levels, SessionId.levels, ← filePrefix_eq]
    simp only [absolute]
  have walk : walkTo (if (joinPath dir id.filePrefix).head? = some 47 then [] else base)
      (components (joinPath dir id.filePrefix)).dropLast = walkTo (home base dir id) folder := by
    rw [path, ← List.append_assoc, List.dropLast_concat, walkTo, List.foldl_append, home]
    by_cases own : id.beginString.head? = some 47
    · simp [head_joinPath, absolute, own, walkTo]
    · simp [head_joinPath, absolute, own, walkTo]
  have located : storePath base dir id = if name = ascii ".." then none
      else some (walkTo (home base dir id) folder ++ [fileStem name]) := by
    simp only [storePath, walk]
    rw [path, ← List.append_assoc, List.getLast?_concat]
  rw [located]
  constructor
  · intro some
    split at some
    · cases some
    · exact ⟨folder, name, levels, ‹_›, (Option.some.inj some).symm⟩
  · rintro ⟨folder', name', levels', up, rfl⟩
    obtain ⟨rfl, rfl⟩ := List.append_inj' (levels.symm.trans levels') rfl |>.imp_right List.singleton_inj.mp
    rw [if_neg up]

/-- A session without separators in its strings has one name, which is never a directory. -/
lemma SessionId.Flat.levels {id : SessionId} (flat : id.Flat) :
    id.levels = [[45].intercalate id.strings] ∧ [45].intercalate id.strings ≠ ascii ".." := by
  have dash := dash_mem id
  have plain : 47 ∉ [45].intercalate id.strings := by
    intro mem
    obtain ⟨s, here, mem⟩ := exists_mem_joined mem (by decide)
    exact flat s here mem
  have named (t : Bytes) (other : 45 ∉ t) : [45].intercalate id.strings ≠ t := by
    rintro rfl
    exact other dash
  refine ⟨?_, named _ (by decide)⟩
  rw [SessionId.levels, components, List.splitOn_eq_singleton plain, List.filter_cons_of_pos,
    List.filter_nil]
  simpa using ⟨named _ (by decide), named (ascii ".") (by decide)⟩

/-- Such a session begins its names in the directory of the store. -/
lemma SessionId.Flat.home {id : SessionId} (flat : id.Flat) (base dir) :
    QuickFix.home base dir id = walkTo (if dir.head? = some 47 then [] else base) (components dir) := by
  refine if_neg fun absolute => flat id.beginString ?_ (List.mem_of_head? absolute)
  simp [SessionId.strings]

/-- Joined strings have one stem exactly when the same pieces tell them. -/
lemma fileStem_strings (a b : SessionId) :
    fileStem ([45].intercalate a.strings) = fileStem ([45].intercalate b.strings) ↔
      told (pieces a.strings) = told (pieces b.strings) := by
  have strings (id : SessionId) : id.strings ≠ [] := by simp [SessionId.strings]
  rw [fileStem_inj, splitOn_joined (strings a), splitOn_joined (strings b)]

/-- The files of two sessions are the same exactly when the sessions share them by their strings. -/
lemma sharesFiles_iff {base dir a b} : SharesFiles base dir a b ↔
    ∃ p, storePath base dir a = some p ∧ storePath base dir b = some p := by
  constructor
  · intro shares
    cases shares with
    | flat left right same =>
      refine ⟨_, storePath_eq_some.mpr ⟨[], _, left.levels.1, left.levels.2, rfl⟩,
        storePath_eq_some.mpr ⟨[], _, right.levels.1, right.levels.2, ?_⟩⟩
      rw [left.home, right.home, (fileStem_strings a b).mpr same]
    | nested separated left right up up' folders same =>
      refine ⟨_, storePath_eq_some.mpr ⟨_, _, left, up, rfl⟩,
        storePath_eq_some.mpr ⟨_, _, right, up', ?_⟩⟩
      rw [folders, (fileStem_inj _ _).mpr same]
  · rintro ⟨p, left, right⟩
    obtain ⟨folder, name, levels, up, rfl⟩ := storePath_eq_some.mp left
    obtain ⟨folder', name', levels', up', same⟩ := storePath_eq_some.mp right
    obtain ⟨folders, stems⟩ := List.append_inj' same rfl
    have stems : fileStem name = fileStem name' := List.singleton_inj.mp stems
    by_cases flat : a.Flat ∧ b.Flat
    · obtain ⟨-, named⟩ := List.append_inj' (levels.symm.trans flat.1.levels.1 : _ = [] ++ [_]) rfl
      obtain ⟨-, named'⟩ := List.append_inj' (levels'.symm.trans flat.2.levels.1 : _ = [] ++ [_]) rfl
      rw [List.singleton_inj.mp named, List.singleton_inj.mp named'] at stems
      exact .flat flat.1 flat.2 ((fileStem_strings a b).mp stems)
    · exact .nested flat levels levels' up up' folders ((fileStem_inj _ _).mp stems)

/-- Sessions of one version with a dot share their files, when nothing after it holds a dot and nothing a
separator: they are named by what stands before the dot. -/
lemma sharesFiles_version {base dir version minor a b} (some : version ≠ [])
    (same : ∀ id ∈ [a, b], id.beginString = version ++ 46 :: minor)
    (plain : ∀ id ∈ [a, b], id.Flat ∧ ∀ string ∈ minor :: id.strings.tail, 46 ∉ string) :
    SharesFiles base dir a b := by
  have stem {id} (mem : id ∈ [a, b]) : fileStem ([45].intercalate id.strings) = version := by
    have rest : [45].intercalate id.strings = version ++ 46 :: (minor ++ 45 :: [45].intercalate id.strings.tail) := by
      rw [SessionId.strings, List.cons_append, List.intercalate_cons_of_ne_nil (by simp), same id mem]
      simp
    have dotless : 46 ∉ minor ++ 45 :: [45].intercalate id.strings.tail := by
      intro dot
      have dot : 46 ∈ [45].intercalate (minor :: id.strings.tail) := by
        rwa [List.intercalate_cons_of_ne_nil (by simp [SessionId.strings]), List.append_assoc]
      obtain ⟨string, here, dot⟩ := exists_mem_joined dot (by decide)
      exact (plain id mem).2 string here dot
    rw [rest, fileStem_eq, beforeDot_append dotless, if_neg some]
  have left : a ∈ [a, b] := by simp
  have right : b ∈ [a, b] := by simp
  exact .flat (plain a left).1 (plain b right).1
    ((fileStem_strings a b).mp ((stem left).trans (stem right).symm))

/-! ## Two stores -/

/-- What a store answers: the result of an operation, and what the store shows then. -/
structure Answer where
  result : Except Error (List (Nat × Bytes))
  nextSender : Nat
  nextTarget : Nat
  creationTime : UtcTime

/-- An operation on one of two stores, and how its calls of the file system end. -/
structure StoreCall where
  side : Bool
  op : StoreOp
  completions : List Completion := []

/-- The files by their paths, and what the two stores keep in memory. -/
structure Stores where
  files : List Bytes → Disk
  kept : Bool → FileStore

section

variable [Rfc3339]

/-- The result of an operation. -/
def StoreOp.result : StoreOp → Files → Except Error (List (Nat × Bytes))
  | .incrSender, f => (incrNextSenderSeqNum f).1.map fun _ => []
  | .incrTarget, f => (incrNextTargetSeqNum f).1.map fun _ => []
  | .setSender n, f => (setNextSenderSeqNum n f).1.map fun _ => []
  | .setTarget n, f => (setNextTargetSeqNum n f).1.map fun _ => []
  | .save n raw, f => (saveMessage n raw f).1.map fun _ => []
  | .saveAndIncr n raw, f => (saveMessageAndIncr n raw f).1.map fun _ => []
  | .get b e, f => (MessageStore.getMessages b e f).1
  | .refresh now, f => (MessageStore.refresh now f).1.map fun _ => []
  | .reset now, f => (MessageStore.reset now f).1.map fun _ => []
  | .reopen sync now, f => (FileStore.openWithSync sync now f).1.map fun _ => []

/-- What a store answers to an operation. -/
def StoreOp.answer (op : StoreOp) (f : Files) : Answer where
  result := op.result f
  nextSender := nextSenderSeqNum (op.onFiles f)
  nextTarget := nextTargetSeqNum (op.onFiles f)
  creationTime := MessageStore.creationTime (op.onFiles f)

namespace Stores

variable (path : Bool → List Bytes)

/-- The store that is called, on the files at its path. -/
def called (c : StoreCall) (s : Stores) : Files where
  store := s.kept c.side
  disk := s.files (path c.side)
  completions := c.completions

/-- The stores after a call. -/
def after (c : StoreCall) (s : Stores) : Stores where
  files p := if p = path c.side then (c.op.onFiles (s.called path c)).disk else s.files p
  kept side := if side = c.side then (c.op.onFiles (s.called path c)).store else s.kept side

/-- What the stores answer to calls. -/
def answers : List StoreCall → Stores → List (Bool × Answer)
  | [], _ => []
  | c :: cs, s => (c.side, c.op.answer (s.called path c)) :: answers cs (s.after path c)

/-- To one store the other might as well not exist. -/
def Isolated : Prop :=
  ∀ (side : Bool) (s : Stores) (calls : List StoreCall),
    (answers path calls s).filter (·.1 = side) = answers path (calls.filter (·.side = side)) s

/-- What one store depends on is the same. -/
structure Agree (side : Bool) (s t : Stores) : Prop where
  kept : s.kept side = t.kept side
  files : s.files (path side) = t.files (path side)

variable {path : Bool → List Bytes} {side : Bool} {c : StoreCall} {s t : Stores}

omit [Rfc3339] in
/-- A call of its own side does the same to both. -/
lemma Agree.called (h : Agree path c.side s t) : s.called path c = t.called path c := by
  rw [Stores.called, Stores.called, h.kept, h.files]

/-- A call of the one store leaves the other. -/
lemma Agree.other (apart : path true ≠ path false) (other : c.side ≠ side) (h : Agree path side s t) :
    Agree path side (s.after path c) t where
  kept := (if_neg other.symm).trans h.kept
  files := by
    have elsewhere : path side ≠ path c.side := by
      cases side with
      | false =>
        rw [Bool.eq_true_of_not_eq_false other]
        exact apart.symm
      | true =>
        rw [Bool.eq_false_of_not_eq_true other]
        exact apart
    exact (if_neg elsewhere).trans h.files

/-- A call of a store depends on what it depends on. -/
lemma Agree.same (h : Agree path c.side s t) : Agree path c.side (s.after path c) (t.after path c) where
  kept := by simp only [after, if_pos, h.called]
  files := by simp only [after, if_pos, h.called]

/-- Stores at different paths are isolated. -/
lemma isolated_of_apart (apart : path true ≠ path false) : Isolated path := by
  intro side s calls
  suffices ∀ {s t}, Agree path side s t →
      (answers path calls s).filter (·.1 = side) = answers path (calls.filter (·.side = side)) t from
    this ⟨rfl, rfl⟩
  intro s t agree
  induction calls generalizing s t with
  | nil => rfl
  | cons c calls ih =>
    by_cases own : c.side = side
    · subst own
      rw [answers, List.filter_cons_of_pos (by simp), List.filter_cons_of_pos (by simp), answers,
        agree.called, ih agree.same]
    · rw [answers, List.filter_cons_of_neg (by simpa using own),
        List.filter_cons_of_neg (by simpa using own)]
      exact ih (agree.other apart own)

/-- Opening a store reads the counters of the files. -/
lemma nextSender_reopen {f : Files} {sync now counters} (calm : f.completions = [])
    (read : FileStore.countersRead f = some counters) :
    (StoreOp.answer (.reopen sync now) f).nextSender = counters.1 := by
  obtain ⟨store, disk, completions, past⟩ := f
  subst calm
  let f : Files :=
    { store := { cache := { creationTime := now }, sync := sync }
      disk := disk
      past := disk :: disk :: disk :: disk :: past }
  obtain ⟨-, ⟨t, kept⟩, -⟩ := FileStore.load_left now f rfl
  have read : FileStore.countersRead f = some counters := read
  show (FileStore.load now f).2.store.cache.nextSender = _
  rw [kept, FileStore.reread, read]
  rfl

/-- Stores at one path are not: the second one is opened with the numbers of the first. -/
lemma not_isolated_of_shared (shared : path true = path false) : ¬ Isolated path := by
  intro isolated
  let s : Stores := { files := fun _ => {}, kept := fun _ => { cache := { creationTime := 0 } } }
  let set : StoreCall := { side := false, op := .setSender 5 }
  let reopen : StoreCall := { side := true, op := .reopen false 0 }
  have same : [(true, reopen.op.answer ((s.after path set).called path reopen))] =
      [(true, reopen.op.answer (s.called path reopen))] := isolated true s [set, reopen]
  have same : (reopen.op.answer ((s.after path set).called path reopen)).nextSender =
      (reopen.op.answer (s.called path reopen)).nextSender :=
    congrArg Answer.nextSender (congrArg Prod.snd (List.cons.inj same).1)
  have alone : (reopen.op.answer (s.called path reopen)).nextSender = 1 :=
    nextSender_reopen rfl (show FileStore.countersRead _ = some (1, 1) from rfl)
  have written : ((s.after path set).called path reopen).disk.seqnums = FileStore.seqnumsLine 5 1 := by
    show (if path true = path false then _ else _ : Disk).seqnums = _
    rw [if_pos shared]
    show FileStore.overwrite (FileStore.seqnumsLine 5 1) [] = _
    rw [FileStore.overwrite, List.drop_nil, List.append_nil]
  have read : FileStore.countersRead ((s.after path set).called path reopen) = some (5, 1) := by
    rw [FileStore.countersRead, written, FileStore.utf8Valid_seqnumsLine,
      FileStore.parseSeqnums_line (by decide) (by decide)]
    rfl
  have together : (reopen.op.answer ((s.after path set).called path reopen)).nextSender = 5 :=
    nextSender_reopen rfl read
  omega

end Stores

/-- Whatever is done to the stores of the two sessions, and in whichever order, each answers as if the other
did not exist. -/
def FilesIsolated (base : List Bytes) (dir : Bytes) (a b : SessionId) : Prop :=
  ∀ p q, storePath base dir a = some p → storePath base dir b = some q →
    Stores.Isolated fun side => if side then q else p

variable {base : List Bytes} {dir : Bytes} {a b : SessionId}

/-- The stores of two sessions that share their files are not isolated. -/
lemma SharesFiles.not_isolated (shares : SharesFiles base dir a b) : ¬ FilesIsolated base dir a b := by
  obtain ⟨p, left, right⟩ := sharesFiles_iff.mp shares
  exact fun isolated => Stores.not_isolated_of_shared rfl (isolated p p left right)

/-- The stores of two sessions are isolated exactly when the strings of the sessions do not make them share
their files. -/
theorem filesIsolated_iff : FilesIsolated base dir a b ↔ ¬ SharesFiles base dir a b := by
  constructor
  · intro isolated shares
    exact shares.not_isolated isolated
  · intro apart p q left right
    apply Stores.isolated_of_apart
    intro (shared : q = p)
    exact apart (sharesFiles_iff.mpr ⟨p, left, shared ▸ right⟩)

end

/-- A local `S` with the counterparties `A` and `B`. -/
def sessionOf (target : String) : SessionId :=
  { beginString := ascii "FIX.4.4", senderCompId := ascii "S", targetCompId := ascii target }

/-- The sessions with `A` and `B` have the keys that the engine tells apart, and share the files of the name
`FIX.4`. -/
theorem not_filesIsolated_A_B : (sessionOf "A").key ≠ (sessionOf "B").key ∧
    ¬ @FilesIsolated epochText [] (ascii "store") (sessionOf "A") (sessionOf "B") := by
  let := epochText
  have shares : SharesFiles [] (ascii "store") (sessionOf "A") (sessionOf "B") := by
    apply @sharesFiles_version _ _ (ascii "FIX.4") (ascii "4") <;> decide +kernel
  exact ⟨by decide +kernel, shares.not_isolated⟩

end QuickFix
