import EmuHost.Device.Application
import Mathlib.Data.String.Basic

/-!
# File names

Which names have an extension, and which applications have one: what stands behind the last dot of a
name in small letters, unless the name begins with that dot (`HasExtension`). The extension of a
path is the one of its file name, which is what stands behind the last slash if that is a name at all.

Names are compared as texts, by their characters. As each character is stored in bytes whose order
is its own, this is the order of the bytes (`Text.bytes`) that a file system stores.

## Key results

- `Text.bytes_le_iff`: the order of texts is the order of their bytes
- `Path.extension?_iff`: the extension of a path
- `Path.fileName?_of_getLast?`: the last part of a path is its file name
- `Application.ofFile_iff`: the kind of a file
-/

namespace EmuHost

namespace Text

/-! ## The order of names -/

/-- The bytes that a text is stored as. -/
def bytes (s : String) : List UInt8 := s.toUTF8.data.toList

/-- The bytes of a text are those of its characters, in a row. -/
theorem bytes_eq (s : String) : bytes s = s.toList.flatMap String.utf8EncodeChar := by
  show s.toByteArray.data.toList = _
  rw [← String.utf8Encode_toList]
  exact List.toList_data_toByteArray

/-- A character before another one has bytes before its bytes, whatever comes after them: the first
byte tells how many there are, and more of them stand for later characters. -/
theorem utf8EncodeChar_lt {c d : Char} (less : c < d) (x y : List UInt8) :
    String.utf8EncodeChar c ++ x < String.utf8EncodeChar d ++ y := by
  have order : c.val.toNat < d.val.toNat := UInt32.lt_iff_toNat_lt.mp (Char.lt_def.mp less)
  have bound : d.val.toNat < 1114112 := by
    have valid := d.valid
    simp only [UInt32.isValidChar, Nat.isValidChar] at valid
    show d.val.toNat < _
    omega
  unfold String.utf8EncodeChar
  generalize c.val.toNat = m at order
  generalize d.val.toNat = n at order bound
  dsimp only
  -- sixteen pairs of lengths: most leading bytes decide alone, the rest goes on with the next byte
  split_ifs
  all_goals
    simp only [List.cons_append, List.nil_append, List.cons_lt_cons_iff, UInt8.lt_iff_toNat_lt,
      ← UInt8.toNat_inj, UInt8.toNat_ofNat']
    simp (disch := omega) only [Nat.mod_eq_of_lt]
    omega

/-- The order of texts is the order of their bytes. -/
theorem bytes_lt {a b : String} (less : a < b) : bytes a < bytes b := by
  rw [bytes_eq, bytes_eq]
  have order : List.Lex (· < ·) a.toList b.toList := less
  generalize a.toList = cs at order
  generalize b.toList = ds at order
  -- on the order of characters: where the texts differ first, their bytes differ first
  induction order with
  | nil =>
    rw [List.flatMap_cons]
    unfold String.utf8EncodeChar
    dsimp only
    split_ifs <;> exact List.nil_lt_cons _ _
  | rel first => exact utf8EncodeChar_lt first _ _
  | cons _ ih => exact List.append_left_lt ih

/-- Texts are in the order of their bytes. -/
theorem bytes_le_iff {a b : String} : bytes a ≤ bytes b ↔ a ≤ b := by
  constructor
  · intro below
    by_contra above
    exact below (bytes_lt (not_le.mp above))
  · intro below
    rcases below.eq_or_lt with rfl | less
    · exact List.le_refl _
    · exact List.lt_asymm (bytes_lt less)

end Text

/-! ## Extensions -/

/-- A name ends in a dot and an extension, written in capitals or not, and does not begin with that
dot. -/
def HasExtension (extension name : String) : Prop :=
  ∃ stem written, stem ≠ [] ∧ name.toList = stem ++ '.' :: written ∧ '.' ∉ written ∧
    written.map Char.toLower = extension.toList

namespace Path

/-- An element of a list has a last place. -/
theorem exists_last {α : Type} {a : α} {l : List α} (inside : a ∈ l) :
    ∃ front back, l = front ++ a :: back ∧ a ∉ back := by
  obtain ⟨back, front, whole, fresh⟩ := List.eq_append_cons_of_mem (List.mem_reverse.mpr inside)
  refine ⟨front.reverse, back.reverse, ?_, by rwa [List.mem_reverse]⟩
  rw [← List.reverse_reverse l, whole, List.reverse_append, List.reverse_cons, List.append_assoc]
  rfl

/-- A name without a dot is passed as a whole. -/
theorem all_ne_dot {cs : List Char} (plain : '.' ∉ cs) :
    ∀ c ∈ cs.reverse, (c != '.') = true := by
  intro c inside
  exact bne_iff_ne.mpr fun same => plain (same ▸ List.mem_reverse.mp inside)

/-- A name without a dot has no extension. -/
theorem splitExtension?_of_plain {name : String} (plain : '.' ∉ name.toList) :
    splitExtension? name = none := by
  have rest : name.toList.reverse.dropWhile (· != '.') = [] := by
    rw [← List.append_nil name.toList.reverse,
      List.dropWhile_append_of_pos (all_ne_dot plain), List.dropWhile_nil]
  simp only [splitExtension?, rest]

/-- A name is split at its last dot, if there is anything in front of it. -/
theorem splitExtension?_of_dotted {name : String} {front back : List Char}
    (split : name.toList = front ++ '.' :: back) (plain : '.' ∉ back) :
    splitExtension? name =
      if front = [] ∨ name = ".." then none
      else some (String.ofList front, String.ofList back) := by
  -- the name is read from its end, so the last dot is the first one found
  have reversed : name.toList.reverse = back.reverse ++ '.' :: front.reverse := by
    rw [split, List.reverse_append, List.reverse_cons, List.append_assoc]
    rfl
  have extension : name.toList.reverse.takeWhile (· != '.') = back.reverse := by
    rw [reversed, List.takeWhile_append_of_pos (all_ne_dot plain)]
    simp
  have rest : name.toList.reverse.dropWhile (· != '.') = '.' :: front.reverse := by
    rw [reversed, List.dropWhile_append_of_pos (all_ne_dot plain)]
    simp
  simp only [splitExtension?, extension, rest]
  rcases front.eq_nil_or_concat with rfl | ⟨front, c, rfl⟩
  · simp
  · simp

/-- The extension of a name, in small letters. -/
theorem splitExtension?_iff {extension name : String} (named : extension ≠ "") :
    (∃ stem written, splitExtension? name = some (stem, written) ∧
      asciiLower written = extension) ↔ HasExtension extension name := by
  constructor
  · rintro ⟨stem, written, splits, small⟩
    by_cases dotted : '.' ∈ name.toList
    · obtain ⟨front, back, whole, plain⟩ := exists_last dotted
      rw [splitExtension?_of_dotted whole plain] at splits
      split at splits
      · cases splits
      · rename_i proper
        obtain ⟨rfl, rfl⟩ := Prod.mk.inj (Option.some.inj splits)
        refine ⟨front, back, (not_or.mp proper).1, whole, plain, ?_⟩
        rw [← small, asciiLower, String.toList_ofList, String.toList_ofList]
    · rw [splitExtension?_of_plain dotted] at splits
      cases splits
  · rintro ⟨front, back, started, whole, plain, small⟩
    have proper : name ≠ ".." := by
      rintro rfl
      -- one dot before the last one leaves nothing behind it
      have count := congrArg List.length whole
      have first := List.length_pos_iff.mpr started
      simp only [List.length_append, List.length_cons] at count
      have none : back = [] := List.length_eq_zero_iff.mp (by
        have two : "..".toList.length = 2 := rfl
        omega)
      rw [none, List.map_nil, eq_comm, String.toList_eq_nil_iff] at small
      exact named small
    refine ⟨String.ofList front, String.ofList back, ?_, ?_⟩
    · rw [splitExtension?_of_dotted whole plain, if_neg (not_or.mpr ⟨started, proper⟩)]
    · rw [asciiLower, String.toList_ofList, small, String.ofList_toList]

/-- The extension of a path is that of its file name. -/
theorem extension?_iff {p : Path} {extension : String} (named : extension ≠ "") :
    p.extension?.map asciiLower = some extension ↔
      ∃ name, p.fileName? = some name ∧ HasExtension extension name := by
  simp only [← splitExtension?_iff named]
  unfold extension?
  cases p.fileName? with
  | none => simp
  | some name =>
    cases splits : splitExtension? name with
    | none => simp [splits]
    | some parts =>
      obtain ⟨stem, written⟩ := parts
      simp [splits]

/-! ## The last name of a path -/

/-- What may stand for an entry of a directory. -/
structure IsName (name : String) : Prop where
  whole : '/' ∉ name.toList
  named : name ≠ ""
  notHere : name ≠ "."
  notAbove : name ≠ ".."

/-- A path ends in what stands behind its last slash, if it has one. -/
def EndsIn (p : Path) (name : String) : Prop :=
  '/' ∉ name.toList ∧ (p = name ∨ ∃ dir, p.toList = dir ++ '/' :: name.toList)

/-- A text without a slash is one part. -/
theorem parts_of_plain {p : Path} (plain : '/' ∉ p.toList) : p.parts = [p] := by
  rw [parts, List.splitOn_eq_singleton plain, List.map_singleton, String.ofList_toList]

/-- And what is behind the last slash is the last part. -/
theorem parts_of_slash {p : Path} {dir : List Char} {name : String}
    (split : p.toList = dir ++ '/' :: name.toList) (plain : '/' ∉ name.toList) :
    p.parts = parts (String.ofList dir) ++ [name] := by
  rw [parts, split, List.splitOn_append_cons_self, List.splitOn_eq_singleton plain, List.map_append,
    List.map_singleton, String.ofList_toList, parts, String.toList_ofList]

/-- Every path ends in its last part. -/
theorem exists_endsIn (p : Path) : ∃ name, p.EndsIn name ∧ p.parts.getLast? = some name := by
  by_cases slash : '/' ∈ p.toList
  · obtain ⟨dir, back, split, plain⟩ := exists_last slash
    have split : p.toList = dir ++ '/' :: (String.ofList back).toList := by
      rw [String.toList_ofList, split]
    have plain : '/' ∉ (String.ofList back).toList := by rwa [String.toList_ofList]
    refine ⟨String.ofList back, ⟨plain, .inr ⟨dir, split⟩⟩, ?_⟩
    rw [parts_of_slash split plain, List.getLast?_concat]
  · refine ⟨p, ⟨slash, .inl rfl⟩, ?_⟩
    rw [parts_of_plain slash, List.getLast?_singleton]

/-- The last part is the file name, if it is a name at all. -/
theorem fileName?_of_getLast? {p : Path} {name : String} (last : p.parts.getLast? = some name)
    (isName : IsName name) : p.fileName? = some name := by
  have steps : p.steps.getLast? = some name := by
    have kept : (name != "" && name != ".") = true := by
      simp [isName.named, isName.notHere]
    obtain ⟨init, parts⟩ := List.getLast?_eq_some_iff.mp last
    have filtered (l : List String) : ((l ++ [name]).filter fun part => part != "" && part != ".") =
        l.filter (fun part => part != "" && part != ".") ++ [name] := by
      simp only [List.filter_append, List.filter_cons, kept, if_true, List.filter_nil]
    unfold steps
    -- a dot at the start of the path is kept as a step, so it is a case of its own
    dsimp only
    split
    · rename_i rest dotted
      rw [parts] at dotted
      cases init with
      | nil =>
        cases dotted
        exact absurd rfl isName.notHere
      | cons first init =>
        obtain ⟨rfl, rfl⟩ := List.cons.inj dotted
        show ("." :: (init ++ [name]).filter _).getLast? = some name
        rw [filtered, ← List.cons_append, List.getLast?_concat]
    · rw [parts, filtered, List.getLast?_concat]
  rw [fileName?, steps]
  split
  · rename_i same
    exact absurd (Option.some.inj same) isName.notHere
  · rename_i same
    exact absurd (Option.some.inj same) isName.notAbove
  · rfl

end Path

/-! ## Kinds -/

namespace Application

/-- A name has an extension if it is written so in whatever case. -/
theorem hasExtension_iff {extension name : String} (named : extension ≠ "") :
    hasExtension extension name = true ↔ HasExtension extension name := by
  rw [← Path.splitExtension?_iff named, hasExtension]
  cases Path.splitExtension? name with
  | none => simp
  | some parts =>
    obtain ⟨stem, written⟩ := parts
    simp

/-- The kinds of files are told apart by the extension of the file name. -/
theorem ofFile_iff (path : Path) :
    let named (extension : String) : Prop :=
      ∃ name, path.fileName? = some name ∧ HasExtension extension name
    (ofFile path = .xci path ↔ named "xci") ∧ (ofFile path = .nca path ↔ named "nca") ∧
      (ofFile path = .nsp path ↔ named "nsp" ∨ named "pfs0") ∧
      (ofFile path = .homebrew path ↔
        ¬named "xci" ∧ ¬named "nca" ∧ ¬named "nsp" ∧ ¬named "pfs0") := by
  dsimp only
  rw [← Path.extension?_iff (by decide), ← Path.extension?_iff (by decide),
    ← Path.extension?_iff (by decide), ← Path.extension?_iff (by decide), ofFile]
  generalize (Path.extension? path).map asciiLower = extension
  split
  case h_5 xci nca nsp pfs0 =>
    simp only [reduceCtorEq, false_iff, not_or, true_iff]
    exact ⟨xci, nca, ⟨nsp, pfs0⟩, xci, nca, nsp, pfs0⟩
  all_goals simp

end Application

end EmuHost
