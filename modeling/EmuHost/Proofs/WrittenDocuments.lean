import EmuHost.Proofs.WrittenValues
import Mathlib.Data.List.Forall2

/-!
# Documents that were written

A document of tables under headers, each with lines of keys and values, and an empty line between
two tables, is read as these tables (`Toml.read_blocks`). What the reader does to one line is stated
for each kind of line; the text of a table and of a document is then read line by line
(`Draft.Reads`).

## Key results

- `Toml.Draft.Reads.entry`, `Toml.Draft.Reads.header`: one line
- `Toml.read_blocks`: a whole document
-/

namespace EmuHost.Toml

/-- Text that starts with no space is not skipped. -/
theorem skipSpaces_cons {first : Char} (space : isSpace first = false) (rest : List Char) :
    skipSpaces (first :: rest) = first :: rest := by
  rw [skipSpaces, List.dropWhile_cons_of_neg]
  rw [space]
  exact Bool.false_ne_true

/-- Neither is the text of a value. -/
theorem skipSpaces_of_denotes {text : List Char} {v : Value} (denotes : Denotes text v)
    (rest : List Char) : skipSpaces (text ++ rest) = text ++ rest := by
  obtain ⟨c, cs, same, none⟩ := denotes.start
  rw [same, List.cons_append, skipSpaces_cons none]

/-! ## Keys -/

/-- A key that needs no quotes. -/
structure IsKey (key : String) : Prop where
  bare : (key.toList.all isKeyChar && !key.toList.isEmpty) = true

namespace IsKey

variable {name : String} (isKey : IsKey name)

include isKey

/-- All characters of a key are those of keys. -/
theorem chars : ∀ c ∈ name.toList, isKeyChar c = true :=
  List.all_eq_true.1 (Bool.and_eq_true_iff.1 isKey.bare).1

/-- A key has characters. -/
theorem ne_nil : name.toList ≠ [] := by
  have some := (Bool.and_eq_true_iff.1 isKey.bare).2
  rw [Bool.not_eq_true', List.isEmpty_eq_false_iff] at some
  exact some

/-- So it starts with one. -/
theorem start : ∃ first rest, name.toList = first :: rest ∧ isKeyChar first = true := by
  cases same : name.toList with
  | nil => exact absurd same isKey.ne_nil
  | cons first rest =>
    refine ⟨first, rest, rfl, isKey.chars first ?_⟩
    rw [same]
    exact List.mem_cons_self

/-- Neither a header, a comment, a blank nor a line break starts like a key. -/
theorem marks {first : Char} {rest : List Char} (text : name.toList = first :: rest) :
    first ≠ '[' ∧ first ≠ '#' ∧ isSpace first = false ∧
      ∀ more, startsWithBreak (first :: more) = false := by
  have inside := isKey.chars first (text ▸ List.mem_cons_self)
  refine ⟨?_, ?_, ?_, ?_⟩
  · rintro rfl
    cases inside
  · rintro rfl
    cases inside
  · cases space : isSpace first with
    | false => rfl
    | true =>
      simp only [isSpace, Bool.or_eq_true, beq_iff_eq] at space
      rcases space with rfl | rfl <;> cases inside
  · intro more
    unfold startsWithBreak
    split
    · rename_i same
      cases (List.cons.inj same).1
      cases inside
    · rename_i same
      cases (List.cons.inj same).1
      cases inside
    · rfl

/-- A key ends before the first character that no key holds. -/
theorem key {stop : Char} (ends : isKeyChar stop = false) (rest : List Char) :
    ∃ span, Toml.key (name.toList ++ stop :: rest) = .ok (⟨name, span⟩, stop :: rest) := by
  obtain ⟨first, more, text, inside⟩ := isKey.start
  -- no quotes are needed, so the key is read as a bare one
  have bare : lineString? (name.toList ++ stop :: rest) = none := by
    rw [text, List.cons_append, lineString?, if_neg, if_neg]
    · rintro rfl
      cases inside
    · rintro rfl
      cases inside
  have chars := isKey.chars
  have notKey : ¬ isKeyChar stop = true := Bool.eq_false_iff.1 ends
  have word : (name.toList ++ stop :: rest).takeWhile isKeyChar = name.toList := by
    rw [List.takeWhile_append_of_pos chars, List.takeWhile_cons_of_neg notKey, List.append_nil]
  have after : (name.toList ++ stop :: rest).dropWhile isKeyChar = stop :: rest := by
    rw [List.dropWhile_append_of_pos chars, List.dropWhile_cons_of_neg notKey]
  have some : name.toList.isEmpty = false := List.isEmpty_eq_false_iff.2 isKey.ne_nil
  refine ⟨.between (name.toList ++ stop :: rest) (stop :: rest), ?_⟩
  simp only [Toml.key, bare, word, after, some, Bool.false_eq_true, if_false, String.ofList_toList]

/-- A key without a point behind it is a path of one key. -/
theorem dottedKey (limit : Nat) {stop : Char} (ends : isKeyChar stop = false) {rest : List Char}
    (point : ∀ more, skipSpaces (stop :: rest) ≠ '.' :: more) :
    ∃ span, Toml.dottedKey (limit + 1) (name.toList ++ stop :: rest) =
      .ok (([], ⟨name, span⟩), stop :: rest) := by
  obtain ⟨span, read⟩ := isKey.key ends rest
  refine ⟨span, ?_⟩
  simp only [Toml.dottedKey, read, bind, Except.bind, pure, Except.pure]

end IsKey

/-! ## Tables -/

namespace Table

/-- The entries under other keys stay. -/
theorem update_append {key : String} {table : Table} (free : key ∉ table.map (·.1))
    (f : Option (Span × Value) → Except Defect (Span × Value)) (rest : Table) :
    update key f (table ++ rest) = (update key f rest).map (table ++ ·) := by
  induction table with
  | nil =>
    show update key f rest = (update key f rest).map fun after => after
    cases update key f rest <;> rfl
  | cons entry table ih =>
    rw [List.map_cons, List.mem_cons, not_or] at free
    obtain ⟨other, free⟩ := free
    obtain ⟨k, v⟩ := entry
    rw [List.cons_append, update, if_neg (Ne.symm other), ih free]
    cases update key f rest <;> rfl

/-- An entry under a new key goes to the end. -/
theorem update_new {key : String} {table : Table} (free : key ∉ table.map (·.1))
    {f : Option (Span × Value) → Except Defect (Span × Value)} {v : Span × Value}
    (made : f none = .ok v) : update key f table = .ok (table ++ [(key, v)]) := by
  have := update_append free f []
  rw [List.append_nil] at this
  rw [this, update, made]
  rfl

/-- The last entry is changed where it is. -/
theorem update_last {key : String} {table : Table} (free : key ∉ table.map (·.1))
    {f : Option (Span × Value) → Except Defect (Span × Value)} {v w : Span × Value}
    (made : f (some v) = .ok w) :
    update key f (table ++ [(key, v)]) = .ok (table ++ [(key, w)]) := by
  rw [update_append free, update, if_pos rfl, made]
  rfl

/-- A key and its value go into the table that stands last. -/
theorem reach_last {tables held : Table} {name key : Key} {span : Span} {v : Span × Value}
    (last : name.text ∉ tables.map (·.1)) (free : key.text ∉ held.map (·.1)) :
    reach .header (assign [] key v) [name] (tables ++ [(name.text, span, .table .headed held)]) =
      .ok (tables ++ [(name.text, span, .table .headed (held ++ [(key.text, v)]))]) := by
  have added : assign [] key v held = .ok (held ++ [(key.text, v)]) := update_new free rfl
  rw [reach]
  -- there is no way to go, so the value goes into the table itself
  apply update_last last
  show (do return (span, Value.table .headed (← reach .header _ [] held))) = _
  rw [reach, added]
  rfl

/-- What was added takes one key, so the keys of the others stay free. -/
theorem free_append {α : Type} {key : α → String} {a : α} {as : List α} {table : Table}
    {held : String × Span × Value} (taken : held.1 = key a) (new : key a ∉ as.map key)
    (free : ∀ b ∈ a :: as, key b ∉ table.map (·.1)) :
    ∀ b ∈ as, key b ∉ (table ++ [held]).map (·.1) := by
  intro b among
  rw [List.map_append, List.mem_append, List.map_singleton, List.mem_singleton, taken, not_or]
  refine ⟨free b (List.mem_cons_of_mem _ among), fun same => new ?_⟩
  rw [← same]
  exact List.mem_map_of_mem among

end Table

/-! ## Lines -/

/-- An entry as it is written: a line with a key and the text of a value. -/
structure EntryLine where
  key : String
  text : List Char
  value : Value
  isKey : IsKey key
  denotes : Denotes text value

namespace EntryLine

def chars (e : EntryLine) : List Char := e.key.toList ++ " = ".toList ++ e.text ++ ['\n']

/-- What is held of the entry, wherever it stands. -/
def Holds (e : EntryLine) (held : String × Span × Value) : Prop :=
  held.1 = e.key ∧ held.2.2 = e.value

/-- What holds lines holds the first one and the others. -/
theorem exists_of_holds {e : EntryLine} {es : List EntryLine} {entries : Table}
    (held : List.Forall₂ Holds (e :: es) entries) :
    ∃ span rest, entries = (e.key, span, e.value) :: rest ∧ List.Forall₂ Holds es rest := by
  cases held with
  | @cons _ one _ rest first others =>
    obtain ⟨key, span, v⟩ := one
    obtain ⟨rfl, rfl⟩ := first
    exact ⟨span, rest, rfl, others⟩

end EntryLine

namespace Draft

/-- Reading on from one place of a text is reading on from a later place. -/
def Reads (draft : Draft) (text : List Char) (after : Draft) (rest : List Char) : Prop :=
  ∀ fuel, text.length < fuel →
    ∃ left, rest.length < left ∧ draft.lines fuel text = after.lines left rest

namespace Reads

/-- Reading nothing changes nothing. -/
theorem refl (draft : Draft) (text : List Char) : draft.Reads text draft text :=
  fun fuel enough => ⟨fuel, enough, rfl⟩

/-- One reading goes on where the other has ended. -/
theorem trans {first second third : Draft} {text rest last : List Char}
    (left : first.Reads text second rest) (right : second.Reads rest third last) :
    first.Reads text third last := by
  intro fuel enough
  obtain ⟨fuel, enough, same⟩ := left fuel enough
  obtain ⟨fuel, enough, same'⟩ := right fuel enough
  exact ⟨fuel, enough, same.trans same'⟩

/-- A line that is read up to its end. -/
theorem of_line {draft after : Draft} {text rest : List Char} (start : skipSpaces text = text)
    (read : draft.line text = .ok (after, '\n' :: rest)) (shorter : rest.length < text.length) :
    draft.Reads text after rest := by
  intro fuel enough
  -- one unit of fuel is for this line
  obtain ⟨left, rfl⟩ : ∃ left, fuel = left + 1 := ⟨fuel - 1, by omega⟩
  refine ⟨left, by omega, ?_⟩
  rw [lines, start, read]
  rfl

/-- A line that starts like a key holds an entry. -/
theorem line_eq_entry (draft : Draft) {first : Char} {rest : List Char} (bracket : first ≠ '[')
    (hash : first ≠ '#') (plain : startsWithBreak (first :: rest) = false) :
    draft.line (first :: rest) = draft.entry (first :: rest) := by
  have comment : decide (first = '#') = false := decide_eq_false hash
  simp only [line, bracket, if_false, comment, plain, Bool.or_false, Bool.false_eq_true]

/-- An entry is its key, the sign and its value, which goes into the open table. -/
theorem entry_of_parts {draft : Draft} {text rest start left : List Char} {path : List Key}
    {last : Key} {v : Value} {table : Table}
    (readKey : Toml.dottedKey maxKeys text = .ok ((path, last), rest))
    (mark : equals skipSpaces rest = .ok start)
    (readValue : value (2 * start.length) maxDepth start = .ok (v, left))
    (reached : draft.table.reach .header (Table.assign path last (.between start left, v))
      draft.path = .ok table) :
    draft.entry text = .ok ({ draft with table := table }, left) := by
  simp only [Draft.entry, readKey, mark, readValue, reached, bind, Except.bind, pure, Except.pure]

/-- A header is a bracket, the key of a new table and another bracket. -/
theorem header_of_parts {draft : Draft} {text rest left : List Char} {path : List Key} {last : Key}
    {table : Table} (single : (text.tail.head? == some '[') = false)
    (readKey : Toml.dottedKey maxKeys (skipSpaces (text.drop 1)) = .ok ((path, last), rest))
    (closed : skipSpaces rest = ']' :: left)
    (opened : draft.table.openTable path last (.between text left) = .ok table) :
    draft.header text = .ok (⟨table, path ++ [last]⟩, left) := by
  simp only [Draft.header, single, Bool.and_false, Bool.false_eq_true, if_false, readKey, closed,
    opened, bind, Except.bind, pure, Except.pure]

/-- An empty line. -/
theorem blank (draft : Draft) (rest : List Char) : draft.Reads ('\n' :: rest) draft rest := by
  apply of_line rfl
  · rfl
  · rw [List.length_cons]
    omega

/-- A line with a key and a value, in the table that was opened last. -/
theorem entry {tables : Table} {name : Key} {span : Span} {held : Table}
    (last : name.text ∉ tables.map (·.1)) (e : EntryLine) (free : e.key ∉ held.map (·.1))
    (rest : List Char) :
    ∃ added, e.Holds added ∧
      Reads ⟨tables ++ [(name.text, span, .table .headed held)], [name]⟩ (e.chars ++ rest)
        ⟨tables ++ [(name.text, span, .table .headed (held ++ [added]))], [name]⟩ rest := by
  obtain ⟨first, more, text, -⟩ := e.isKey.start
  obtain ⟨bracket, hash, space, plain⟩ := e.isKey.marks text
  have whole : e.chars ++ rest =
      e.key.toList ++ ' ' :: '=' :: ' ' :: (e.text ++ '\n' :: rest) := by
    simp only [EntryLine.chars, List.append_assoc]
    rfl
  -- the blank before the value is passed over and the value starts with none
  have start := skipSpaces_of_denotes e.denotes ('\n' :: rest)
  generalize value : e.text ++ '\n' :: rest = shown at whole start
  have ends : isKeyChar ' ' = false := by decide
  have point : ∀ after, skipSpaces (' ' :: '=' :: ' ' :: shown) ≠ '.' :: after := by
    intro after same
    cases (List.cons.inj same).1
  obtain ⟨keySpan, readKey⟩ := e.isKey.dottedKey 79 ends point
  have mark : equals skipSpaces (' ' :: '=' :: ' ' :: shown) = .ok shown := by
    show Except.ok (skipSpaces shown) = _
    rw [start]
  have read := e.denotes.reads (2 * shown.length) maxDepth rest
  rw [value] at read
  refine ⟨(e.key, .between shown ('\n' :: rest), e.value), ⟨rfl, rfl⟩, ?_⟩
  rw [whole]
  apply of_line
  · rw [text, List.cons_append, skipSpaces_cons space]
  · rw [text, List.cons_append] at readKey ⊢
    rw [line_eq_entry _ bracket hash (plain _)]
    exact entry_of_parts readKey mark read (Table.reach_last last free)
  · rw [← value]
    simp only [List.length_append, List.length_cons]
    omega

/-- The header of a table. -/
theorem header {tables : Table} {name : String} (isKey : IsKey name)
    (free : name ∉ tables.map (·.1)) (path : List Key) (rest : List Char) :
    ∃ key span, key.text = name ∧
      Reads ⟨tables, path⟩ ('[' :: (name.toList ++ ']' :: '\n' :: rest))
        ⟨tables ++ [(name, span, .table .headed [])], [key]⟩ rest := by
  obtain ⟨first, more, text, -⟩ := isKey.start
  obtain ⟨bracket, -, space, -⟩ := isKey.marks text
  have ends : isKeyChar ']' = false := by decide
  have point : ∀ after, skipSpaces (']' :: '\n' :: rest) ≠ '.' :: after := by
    intro after same
    cases (List.cons.inj same).1
  obtain ⟨keySpan, readKey⟩ := isKey.dottedKey 79 ends point
  let line := '[' :: (name.toList ++ ']' :: '\n' :: rest)
  let span := Span.between line ('\n' :: rest)
  have opened : Table.openTable [] ⟨name, keySpan⟩ span tables =
      .ok (tables ++ [(name, span, .table .headed [])]) := by
    rw [Table.openTable, Table.reach]
    exact Table.update_new free rfl
  refine ⟨⟨name, keySpan⟩, span, rfl, ?_⟩
  have single : (line.tail.head? == some '[') = false := by
    show ((name.toList ++ ']' :: '\n' :: rest).head? == some '[') = false
    rw [text]
    exact beq_eq_false_iff_ne.2 fun same => bracket (Option.some.inj same)
  have start : skipSpaces (line.drop 1) = name.toList ++ ']' :: '\n' :: rest := by
    show skipSpaces (name.toList ++ ']' :: '\n' :: rest) = _
    rw [text, List.cons_append, skipSpaces_cons space]
  rw [← start] at readKey
  apply of_line rfl
  · show Draft.header ⟨tables, path⟩ line = _
    exact header_of_parts single readKey rfl opened
  · simp only [List.length_cons, List.length_append]
    omega

/-- The lines of a table, after what the table holds already. -/
theorem entries {tables : Table} {name : Key} {span : Span} {held : Table}
    (last : name.text ∉ tables.map (·.1)) {es : List EntryLine} (distinct : (es.map (·.key)).Nodup)
    (free : ∀ e ∈ es, e.key ∉ held.map (·.1)) (rest : List Char) :
    ∃ added, List.Forall₂ EntryLine.Holds es added ∧
      Reads ⟨tables ++ [(name.text, span, .table .headed held)], [name]⟩
        (es.flatMap EntryLine.chars ++ rest)
        ⟨tables ++ [(name.text, span, .table .headed (held ++ added))], [name]⟩ rest := by
  -- on the lines: each one makes its own key no longer free
  induction es generalizing held with
  | nil =>
    refine ⟨[], .nil, ?_⟩
    rw [List.append_nil]
    exact refl _ rest
  | cons e es ih =>
    rw [List.map_cons, List.nodup_cons] at distinct
    obtain ⟨new, distinct⟩ := distinct
    obtain ⟨one, holds, first⟩ :=
      entry last e (free e List.mem_cons_self) (es.flatMap EntryLine.chars ++ rest)
    obtain ⟨added, all, others⟩ := ih distinct (Table.free_append holds.1 new free)
    refine ⟨one :: added, .cons holds all, ?_⟩
    rw [List.flatMap_cons, List.append_assoc]
    rw [List.append_assoc] at others
    exact first.trans others

end Reads

end Draft

/-! ## Documents -/

/-- A table as it is written: a header and a line for each entry. -/
structure Block where
  key : String
  entries : List EntryLine
  isKey : IsKey key
  distinct : (entries.map (·.key)).Nodup

namespace Block

def text (b : Block) : List Char :=
  '[' :: b.key.toList ++ [']', '\n'] ++ b.entries.flatMap EntryLine.chars

/-- What is held of the table, wherever its parts stand. -/
def Holds (b : Block) (held : String × Span × Value) : Prop :=
  held.1 = b.key ∧
    ∃ entries, held.2.2 = .table .headed entries ∧ List.Forall₂ EntryLine.Holds b.entries entries

/-- What holds blocks holds the first one and the others. -/
theorem exists_of_holds {b : Block} {bs : List Block} {table : Table}
    (held : List.Forall₂ Holds (b :: bs) table) :
    ∃ span entries rest, table = (b.key, span, .table .headed entries) :: rest ∧
      List.Forall₂ EntryLine.Holds b.entries entries ∧ List.Forall₂ Holds bs rest := by
  cases held with
  | @cons _ one _ rest first others =>
    obtain ⟨key, span, v⟩ := one
    obtain ⟨rfl, entries, rfl, lines⟩ := first
    exact ⟨span, entries, rest, rfl, lines, others⟩

/-- A table is read behind the tables that were read before. -/
theorem reads (b : Block) {tables : Table} (free : b.key ∉ tables.map (·.1)) (path : List Key)
    (rest : List Char) :
    ∃ held path', b.Holds held ∧
      Draft.Reads ⟨tables, path⟩ (b.text ++ rest) ⟨tables ++ [held], path'⟩ rest := by
  obtain ⟨key, span, same, opened⟩ :=
    Draft.Reads.header b.isKey free path (b.entries.flatMap EntryLine.chars ++ rest)
  rw [← same] at free opened
  have none : ∀ e ∈ b.entries, e.key ∉ ([] : Table).map (·.1) := fun _ _ => List.not_mem_nil
  obtain ⟨added, all, lines⟩ := Draft.Reads.entries free b.distinct none rest
  refine ⟨(key.text, span, .table .headed added), [key], ⟨same, added, rfl, all⟩, ?_⟩
  have whole : b.text ++ rest =
      '[' :: (b.key.toList ++ ']' :: '\n' :: (b.entries.flatMap EntryLine.chars ++ rest)) := by
    simp only [text, List.cons_append, List.append_assoc, List.nil_append]
  rw [whole, ← same]
  exact opened.trans lines

end Block

/-- The text of a document: its tables with an empty line between two. -/
def joined (blocks : List Block) : List Char := ((blocks.map Block.text).intersperse ['\n']).flatten

/-- Blocks are read behind what was read before, in their order. -/
theorem reads_joined {blocks : List Block} (distinct : (blocks.map (·.key)).Nodup) {tables : Table}
    (free : ∀ b ∈ blocks, b.key ∉ tables.map (·.1)) (path : List Key) :
    ∃ held path', List.Forall₂ Block.Holds blocks held ∧
      Draft.Reads ⟨tables, path⟩ (joined blocks) ⟨tables ++ held, path'⟩ [] := by
  -- on the blocks, with the tables that were read so far
  induction blocks generalizing tables path with
  | nil =>
    refine ⟨[], path, .nil, ?_⟩
    rw [List.append_nil]
    exact Draft.Reads.refl _ []
  | cons b blocks ih =>
    rw [List.map_cons, List.nodup_cons] at distinct
    obtain ⟨new, distinct⟩ := distinct
    -- what follows the table is nothing or an empty line and the other tables
    obtain ⟨rest, whole, skips⟩ : ∃ rest, joined (b :: blocks) = b.text ++ rest ∧
        ∀ draft : Draft, draft.Reads rest draft (joined blocks) := by
      cases blocks with
      | nil => exact ⟨[], rfl, fun draft => Draft.Reads.refl draft []⟩
      | cons c blocks => exact ⟨_, rfl, fun draft => Draft.Reads.blank draft _⟩
    obtain ⟨one, path', holds, first⟩ := b.reads (free b List.mem_cons_self) path rest
    obtain ⟨held, path'', all, others⟩ := ih distinct (Table.free_append holds.1 new free) path'
    refine ⟨one :: held, path'', .cons holds all, ?_⟩
    rw [List.append_assoc] at others
    rw [whole]
    exact (first.trans (skips _)).trans others

/-- A document that is written as tables with empty lines between is read as these tables. -/
theorem read_joined {blocks : List Block} (distinct : (blocks.map (·.key)).Nodup) :
    ∃ table, read (joined blocks) = .ok table ∧ List.Forall₂ Block.Holds blocks table := by
  have none : ∀ b ∈ blocks, b.key ∉ ([] : Table).map (·.1) := fun _ _ => List.not_mem_nil
  obtain ⟨table, path, all, reads⟩ := reads_joined distinct none []
  have mark : (joined blocks).head? ≠ some '\ufeff' := by
    cases blocks with
    | nil =>
      intro same
      cases same
    | cons b blocks =>
      cases blocks <;> exact fun same => absurd (Option.some.inj same) (by decide)
  obtain ⟨left, some, same⟩ := reads ((joined blocks).length + 1) (Nat.lt_succ_self _)
  obtain ⟨fuel, rfl⟩ : ∃ fuel, left = fuel + 1 := ⟨left - 1, by omega⟩
  refine ⟨table, ?_, all⟩
  simp only [read, mark, if_false]
  show (do
    let draft ← Draft.lines ((joined blocks).length + 1) ⟨[], []⟩ (joined blocks)
    return draft.table) = _
  rw [same]
  rfl

end EmuHost.Toml
