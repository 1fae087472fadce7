import EmuHost.Proofs.WrittenDocuments
import EmuHost.Proofs.WrittenFloats
import Mathlib.Data.List.Nodup
import Mathlib.Data.List.Pairwise

/-!
# Settings that are written and read

A setting is written as a text that is read as this setting, or as another one that depends on it
alone (`Stored`). A field of a record is written as a piece of a document, the line of an entry or a
table (`Piece`), and what a table holds of the piece sets the field in any record (`StoredField`).
The fields of a record then make of a start value what each of them makes of it, in whatever order
the table is gone through (`readTable_eq`), because each leaves the others alone (`StoredRecord`).

## Key results

- the instances of `Stored`: what each type of setting is read as
- `StoredRecord.exists_pieces`: what the pieces of a record are read as
-/

namespace EmuHost

open Toml

/-! ## Settings -/

/-- A type of settings whose texts are read as settings again. -/
class Stored (α : Type) [Setting α] where
  /-- What the text of a setting is read as. -/
  reread : α → α
  read_write : ∀ {a : α} {text : List Char}, Setting.write? a = some text →
    ∃ v, Denotes text v ∧ ∀ span, Setting.read span v = .ok (reread a)

namespace Stored

instance : Stored Bool where
  reread b := b
  read_write {b} text written := by
    cases written
    exact ⟨.boolean b, flag_denotes b, fun _ => rfl⟩

instance : Stored String where
  reread s := s
  read_write {s} text written := by
    cases written
    exact ⟨.string s, quoted_denotes s, fun _ => rfl⟩

/-- A count that is too large has no text. -/
instance : Stored Nat where
  reread n := n
  read_write {n} text written := by
    simp only [Setting.write?] at written
    split at written
    · rename_i bounded
      cases written
      refine ⟨.integer n, digits_denotes (isInRange_of_isUnsigned bounded), fun span => ?_⟩
      simp only [Setting.read, bounded, if_true, Int.toNat_natCast]
    · cases written

/-- Infinity and the value that is no number have words of their own. -/
theorem unordered_denotes :
    Denotes "nan".toList (.float .nan) ∧ Denotes "inf".toList (.float (.infinite false)) ∧
      Denotes "-inf".toList (.float (.infinite true)) := by
  refine ⟨?_, ?_, ?_⟩
  · exact IsWord.denotes ⟨List.all_eq_true.1 (by decide), 'n', _, rfl, by decide⟩ rfl
  · exact IsWord.denotes ⟨List.all_eq_true.1 (by decide), 'i', _, rfl, by decide⟩ rfl
  · exact IsWord.denotes ⟨List.all_eq_true.1 (by decide), '-', _, rfl, by decide⟩ rfl

/-- A float is read by way of eight bytes. -/
instance : Stored Binary32 where
  reread := Binary32.reread
  read_write {x} text written := by
    cases written
    obtain ⟨nan, positive, negative⟩ := unordered_denotes
    cases x with
    | nan => exact ⟨_, nan, fun _ => rfl⟩
    | infinite sign =>
      cases sign with
      | false => exact ⟨_, positive, fun _ => rfl⟩
      | true => exact ⟨_, negative, fun _ => rfl⟩
    | finite sign n =>
      refine ⟨_, float_denotes sign n, fun _ => ?_⟩
      rw [Binary32.reread_eq_convert]
      rfl

/-- A name is read as the value that has it, where no value before has the same. -/
@[reducible] def ofNames {α : Type} {values : List α} {name : α → String}
    (named : ∀ v, values.find? (name · == name v) = some v) :
    @Stored α (Setting.ofNames values name) :=
  -- the name finds the first value that has it, which is this one
  letI := Setting.ofNames values name
  { reread := fun v => v
    read_write := by
      intro v text written
      cases written
      refine ⟨.string (name v), quoted_denotes (name v), fun span => ?_⟩
      show Setting.readName values name span (name v) = .ok v
      rw [Setting.readName, named] }

instance : Stored SystemLanguage := ofNames (by intro v; cases v <;> rfl)

instance : Stored RegionCode := ofNames (by intro v; cases v <;> rfl)

instance : Stored BackendThreading := ofNames (by intro v; cases v <;> rfl)

instance : Stored AspectRatio := ofNames (by intro v; cases v <;> rfl)

end Stored

/-! ## Tables -/

/-- A field and what it does to a record. -/
abbrev Setter (σ : Type) := Field σ × (σ → σ)

/-- An entry of a table names a field and sets it. -/
structure Restores {σ : Type} (part : Setter σ) (held : String × Span × Value) : Prop where
  key : held.1 = part.1.key
  assign : ∀ t, part.1.assign held.2.1 held.2.2 t = .ok (part.2 t)

/-- What has a key of its own is found under its key. -/
theorem find?_key {α : Type} {key : α → String} {l : List α} (distinct : (l.map key).Nodup) {a : α}
    (among : a ∈ l) : l.find? (key · == key a) = some a := by
  induction l with
  | nil => cases among
  | cons first l ih =>
    rw [List.map_cons, List.nodup_cons] at distinct
    obtain ⟨new, distinct⟩ := distinct
    -- the first has the key, or it is another one and the search goes on
    rcases List.mem_cons.1 among with rfl | among
    · exact List.find?_cons_of_pos (beq_self_eq_true _)
    · rw [List.find?_cons_of_neg, ih distinct among]
      rw [beq_iff_eq]
      intro same
      rw [same] at new
      exact new (List.mem_map_of_mem among)

/-- Nothing is found under a key that nothing has. -/
theorem find?_unnamed {α : Type} {key : α → String} {l : List α} {name : String}
    (unnamed : name ∉ l.map key) : l.find? (key · == name) = none := by
  rw [List.find?_eq_none]
  intro a among same
  exact unnamed (eq_of_beq same ▸ List.mem_map_of_mem among)

namespace Setter

variable {σ : Type} {parts : List (Setter σ)}

/-- What the field under a key does. -/
def under (parts : List (Setter σ)) (key : String) : σ → σ :=
  match parts.find? (·.1.key == key) with
  | some part => part.2
  | none => id

/-- Under the key of a field there is what the field does. -/
theorem under_key (distinct : (parts.map (·.1.key)).Nodup) {part : Setter σ}
    (among : part ∈ parts) : under parts part.1.key = part.2 := by
  rw [under, find?_key distinct among]

/-- Under any other key nothing is done. -/
theorem under_of_unnamed {key : String} (unnamed : key ∉ parts.map (·.1.key)) :
    under parts key = id := by
  rw [under, find?_unnamed unnamed]

/-- An entry sets the field that it names, or it names none and is passed over. -/
inductive Handles (parts : List (Setter σ)) (held : String × Span × Value) : Prop where
  | sets {part : Setter σ} (among : part ∈ parts) (restores : Restores part held)
  | passes (unnamed : held.1 ∉ parts.map (·.1.key)) (ignored : held.2.2.ignore held.2.1 = .ok ())

/-- An entry is handed to the field that it names. -/
theorem assignEntry_eq (distinct : (parts.map (·.1.key)).Nodup) {held : String × Span × Value}
    (handles : Handles parts held) (t : σ) :
    Field.assignEntry (parts.map (·.1)) t held = .ok (under parts held.1 t) := by
  have keys : (parts.map (·.1)).map Field.key = parts.map (·.1.key) := List.map_map
  -- in both cases the search for the field ends like the search for its setter
  cases handles with
  | @sets part among restores =>
    have found := find?_key (keys ▸ distinct) (List.mem_map_of_mem among)
    rw [← restores.key] at found
    simp only [Field.assignEntry, found]
    rw [restores.assign, restores.key, under_key distinct among]
  | passes unnamed ignored =>
    have none := find?_unnamed (keys ▸ unnamed)
    simp only [Field.assignEntry, none, ignored, under_of_unnamed unnamed]
    rfl

/-- Steps that cannot fail are taken one by one. -/
theorem foldlM_eq_foldl {α β ε : Type} {f : β → α → Except ε β} {g : β → α → β} {l : List α}
    (each : ∀ a ∈ l, ∀ b, f b a = .ok (g b a)) (start : β) :
    l.foldlM f start = .ok (l.foldl g start) := by
  induction l generalizing start with
  | nil => rfl
  | cons a l ih =>
    rw [List.foldlM_cons, each a List.mem_cons_self]
    exact ih (fun b among => each b (List.mem_cons_of_mem _ among)) (g start a)

/-- The order of two keys does not matter. -/
theorem under_commute (distinct : (parts.map (·.1.key)).Nodup)
    (commute : ∀ p ∈ parts, ∀ q ∈ parts, ∀ t, p.2 (q.2 t) = q.2 (p.2 t)) (k l : String) (t : σ) :
    under parts k (under parts l t) = under parts l (under parts k t) := by
  -- a key without a field does nothing, in whatever order
  by_cases knownK : k ∈ parts.map (·.1.key)
  · by_cases knownL : l ∈ parts.map (·.1.key)
    · obtain ⟨p, foundP, rfl⟩ := List.mem_map.1 knownK
      obtain ⟨q, foundQ, rfl⟩ := List.mem_map.1 knownL
      rw [under_key distinct foundP, under_key distinct foundQ]
      exact commute p foundP q foundQ t
    · rw [under_of_unnamed knownL]
      rfl
  · rw [under_of_unnamed knownK]
    rfl

/-- Keys that do nothing may be left out. -/
theorem foldl_under_filter {p : String → Bool} {keys : List String}
    (idle : ∀ key ∈ keys, p key = false → under parts key = id) (start : σ) :
    (keys.filter p).foldl (fun t key => under parts key t) start =
      keys.foldl (fun t key => under parts key t) start := by
  rw [List.foldl_filter]
  apply List.foldl_ext
  intro t key among
  cases taken : p key with
  | true => rfl
  | false =>
    rw [idle key among taken]
    rfl

/-- All fields together do what all keys of a table do, if the fields without a key do nothing. -/
theorem foldl_under (distinct : (parts.map (·.1.key)).Nodup)
    (commute : ∀ p ∈ parts, ∀ q ∈ parts, ∀ t, p.2 (q.2 t) = q.2 (p.2 t)) {keys : List String}
    (unique : keys.Nodup) (unset : ∀ part ∈ parts, part.1.key ∉ keys → part.2 = id) (start : σ) :
    keys.foldl (fun t key => under parts key t) start =
      parts.foldl (fun t part => part.2 t) start := by
  have idleKey : ∀ key ∈ keys, decide (key ∈ parts.map (·.1.key)) = false →
      under parts key = id :=
    fun key _ unnamed => under_of_unnamed (of_decide_eq_false unnamed)
  have idlePart : ∀ key ∈ parts.map (·.1.key), decide (key ∈ keys) = false →
      -- a key that only one of the sides has does nothing
      under parts key = id := by
    intro key known absent
    obtain ⟨part, among, rfl⟩ := List.mem_map.1 known
    rw [under_key distinct among]
    exact unset part among (of_decide_eq_false absent)
  -- the keys that both sides have, in two orders
  have shared : (keys.filter fun key => key ∈ parts.map (·.1.key)).Perm
      ((parts.map (·.1.key)).filter fun key => key ∈ keys) := by
    rw [List.perm_ext_iff_of_nodup (unique.filter _) (distinct.filter _)]
    intro key
    simp only [List.mem_filter, decide_eq_true_eq]
    exact and_comm
  calc keys.foldl (fun t key => under parts key t) start
      = (keys.filter fun key => key ∈ parts.map (·.1.key)).foldl
          (fun t key => under parts key t) start := (foldl_under_filter idleKey start).symm
    _ = ((parts.map (·.1.key)).filter fun key => key ∈ keys).foldl
          (fun t key => under parts key t) start :=
        shared.foldl_eq' (fun k _ l _ t => (under_commute distinct commute k l t).symm) start
    _ = (parts.map (·.1.key)).foldl (fun t key => under parts key t) start :=
        foldl_under_filter idlePart start
    _ = parts.foldl (fun t part => part.2 t) start := by
        rw [List.foldl_map]
        apply List.foldl_ext
        intro t part among
        rw [under_key distinct among]

/-- A record is read as what all of its fields make of it, in whatever order a table names them. -/
theorem readTable_handled (distinct : (parts.map (·.1.key)).Nodup)
    (commute : ∀ p ∈ parts, ∀ q ∈ parts, ∀ t, p.2 (q.2 t) = q.2 (p.2 t)) {table : Table}
    (unique : (table.map (·.1)).Nodup) (each : ∀ e ∈ table, Handles parts e)
    (unset : ∀ part ∈ parts, part.1.key ∉ table.map (·.1) → part.2 = id) (start : σ) :
    Field.readTable (parts.map (·.1)) start table =
      .ok (parts.foldl (fun t part => part.2 t) start) := by
  have sorted := List.mergeSort_perm table fun a b => decide (a.1 ≤ b.1)
  have keys := sorted.map (·.1)
  -- the entries are read in the order of their keys, and the keys are the same
  have read : ∀ e ∈ table.mergeSort fun a b => decide (a.1 ≤ b.1), ∀ t,
      Field.assignEntry (parts.map (·.1)) t e = .ok (under parts e.1 t) :=
    fun e among => assignEntry_eq distinct (each e (sorted.mem_iff.1 among))
  have unsetSorted : ∀ part ∈ parts,
      part.1.key ∉ (table.mergeSort fun a b => decide (a.1 ≤ b.1)).map (·.1) → part.2 = id :=
    fun part among absent => unset part among fun present => absent (keys.mem_iff.2 present)
  rw [Field.readTable, foldlM_eq_foldl read,
    ← foldl_under distinct commute (keys.nodup_iff.2 unique) unsetSorted, List.foldl_map]

end Setter

/-- What is related to a list is related to one of its members. -/
theorem exists_of_mem_right {α β : Type} {R : α → β → Prop} {as : List α} {bs : List β}
    (all : List.Forall₂ R as bs) {b : β} (among : b ∈ bs) : ∃ a ∈ as, R a b := by
  induction all with
  | nil => cases among
  | cons related _ ih =>
    rcases List.mem_cons.1 among with rfl | among
    · exact ⟨_, List.mem_cons_self, related⟩
    · obtain ⟨a, found, related⟩ := ih among
      exact ⟨a, List.mem_cons_of_mem _ found, related⟩

/-- A record is read as what all of its fields make of it where a table has an entry for each. -/
theorem readTable_eq {σ : Type} {parts : List (Setter σ)} (distinct : (parts.map (·.1.key)).Nodup)
    (commute : ∀ p ∈ parts, ∀ q ∈ parts, ∀ t, p.2 (q.2 t) = q.2 (p.2 t)) {table : Table}
    (held : List.Forall₂ Restores parts table) (start : σ) :
    Field.readTable (parts.map (·.1)) start table =
      .ok (parts.foldl (fun t part => part.2 t) start) := by
  have keys : table.map (·.1) = parts.map (·.1.key) := by
    clear distinct commute
    induction held with
    | nil => rfl
    | cons restores _ ih => rw [List.map_cons, List.map_cons, restores.key, ih]
  apply Setter.readTable_handled distinct commute (keys ▸ distinct)
  · intro e among
    obtain ⟨part, found, restores⟩ := exists_of_mem_right held among
    exact .sets found restores
  · intro part among absent
    rw [keys] at absent
    exact absurd (List.mem_map_of_mem among) absent

/-! ## Records -/

/-- Results of a list are results of its members. -/
theorem forall₂_of_mapM {α β : Type} {f : α → Option β} {as : List α} {bs : List β}
    (all : as.mapM f = some bs) : List.Forall₂ (fun a b => f a = some b) as bs := by
  induction as generalizing bs with
  | nil =>
    cases all
    exact .nil
  | cons a as ih =>
    rw [List.mapM_cons] at all
    cases first : f a with
    | none =>
      rw [first] at all
      cases all
    | some b =>
      cases others : as.mapM f with
      | none =>
        rw [first, others] at all
        cases all
      | some rest =>
        rw [first, others] at all
        cases all
        exact .cons first (ih others)

/-- A part of a document under a key: the line of an entry, or a table. -/
class Piece (P : Type) where
  key : P → String
  text : P → List Char
  /-- The text of a piece, given what is written under its key. -/
  wrap : String → List Char → List Char
  /-- Whether this is what a table holds of a piece. -/
  Holds : P → String × Span × Value → Prop

instance : Piece EntryLine where
  key := EntryLine.key
  text := EntryLine.chars
  wrap key text := key.toList ++ " = ".toList ++ text ++ ['\n']
  Holds := EntryLine.Holds

instance : Piece Block where
  key := Block.key
  text := Block.text
  wrap key text := '[' :: key.toList ++ [']', '\n'] ++ text
  Holds := Block.Holds

/-- A field of a record that is written as a piece, and what reading the piece does to a record. -/
structure StoredField (P σ : Type) [Piece P] where
  field : Field σ
  /-- Takes the field over from the record that was written. -/
  restore : σ → σ → σ
  exists_piece : ∀ {s : σ} {text : List Char}, field.write? s = some text →
    ∃ p : P, Piece.key p = field.key ∧ Piece.text p = Piece.wrap P field.key text ∧
      ∀ held, Piece.Holds p held → Restores (field, restore s) held

/-- A record all of whose fields are stored: under keys of their own, and each field leaves the
others as they are. -/
structure StoredRecord (P σ : Type) [Piece P] where
  fields : List (StoredField P σ)
  distinct : (fields.map (·.field.key)).Nodup
  commute : fields.Pairwise fun p q =>
    ∀ s t, p.restore s (q.restore s t) = q.restore s (p.restore s t)

namespace StoredRecord

variable {P σ : Type} [Piece P]

/-- A piece that was written for a field. -/
structure WrittenFor (s : σ) (f : StoredField P σ) (p : P) : Prop where
  key : Piece.key p = f.field.key
  restores : ∀ held, Piece.Holds p held → Restores (f.field, f.restore s) held

/-- The texts of fields are pieces for these fields. -/
theorem exists_writtenFor {s : σ} {fields : List (StoredField P σ)} {texts : List (List Char)}
    (written : (fields.map (·.field)).mapM (fun field => do
      return Piece.wrap P field.key (← field.write? s)) = some texts) :
    ∃ pieces : List P, texts = pieces.map Piece.text ∧
      List.Forall₂ (WrittenFor s) fields pieces := by
  have parallel := List.forall₂_map_left_iff.1 (forall₂_of_mapM written)
  clear written
  -- field by field: what one writes is a piece with its key
  induction parallel with
  | nil => exact ⟨[], rfl, .nil⟩
  | @cons f _ _ _ first _ ih =>
    obtain ⟨pieces, rfl, all⟩ := ih
    obtain ⟨text, written, same⟩ := Option.bind_eq_some_iff.1 first
    cases same
    obtain ⟨p, key, whole, restores⟩ := f.exists_piece written
    exact ⟨p :: pieces, by rw [List.map_cons, whole], .cons ⟨key, restores⟩ all⟩

/-- The keys of the pieces are those of the fields. -/
theorem keys_eq {s : σ} {fields : List (StoredField P σ)} {pieces : List P}
    (all : List.Forall₂ (WrittenFor s) fields pieces) :
    pieces.map Piece.key = fields.map (·.field.key) := by
  induction all with
  | nil => rfl
  | cons writtenFor _ ih => rw [List.map_cons, List.map_cons, writtenFor.key, ih]

/-- What holds the pieces restores the fields. -/
theorem restores_of_holds {s : σ} {fields : List (StoredField P σ)} {pieces : List P}
    (all : List.Forall₂ (WrittenFor s) fields pieces) {table : Table}
    (held : List.Forall₂ Piece.Holds pieces table) :
    List.Forall₂ (fun f => Restores (f.field, f.restore s)) fields table := by
  induction all generalizing table with
  | nil =>
    cases held
    exact .nil
  | cons writtenFor _ ih =>
    cases held with
    | cons holds held => exact .cons (writtenFor.restores _ holds) (ih held)

variable (r : StoredRecord P σ)

/-- What reading the text of a record makes of a start value. -/
def restore (s start : σ) : σ := r.fields.foldl (fun t f => f.restore s t) start

/-- What each field does when the record is read again. -/
def setters (s : σ) : List (Setter σ) := r.fields.map fun f => (f.field, f.restore s)

/-- The setters of a record may be applied in any order. -/
theorem commute_setters (s : σ) :
    ∀ p ∈ r.setters s, ∀ q ∈ r.setters s, ∀ t, p.2 (q.2 t) = q.2 (p.2 t) := by
  have pairs : ∀ f ∈ r.fields, ∀ g ∈ r.fields, ∀ s t,
      f.restore s (g.restore s t) = g.restore s (f.restore s t) :=
    -- each pair is there once, in the order of the record
    r.commute.forall_of_forall_of_flip (fun _ _ _ _ => rfl)
      (r.commute.imp fun swap s t => (swap s t).symm)
  intro p amongP q amongQ t
  obtain ⟨f, foundF, rfl⟩ := List.mem_map.1 amongP
  obtain ⟨g, foundG, rfl⟩ := List.mem_map.1 amongQ
  exact pairs f foundF g foundG s t

/-- The texts of the fields are pieces, and these pieces are read as what the record makes of a
start value. -/
theorem exists_pieces {s : σ} {texts : List (List Char)}
    (written : (r.fields.map (·.field)).mapM (fun field => do
      return Piece.wrap P field.key (← field.write? s)) = some texts) :
    ∃ pieces : List P, texts = pieces.map Piece.text ∧ (pieces.map Piece.key).Nodup ∧
      ∀ table, List.Forall₂ Piece.Holds pieces table → ∀ start,
        Field.readTable (r.fields.map (·.field)) start table = .ok (r.restore s start) := by
  obtain ⟨pieces, same, all⟩ := exists_writtenFor written
  refine ⟨pieces, same, keys_eq all ▸ r.distinct, fun table held start => ?_⟩
  have restores : List.Forall₂ Restores (r.setters s) table :=
    List.forall₂_map_left_iff.2 (restores_of_holds all held)
  have distinct : ((r.setters s).map (·.1.key)).Nodup := by
    rw [setters, List.map_map]
    exact r.distinct
  have read := readTable_eq distinct (r.commute_setters s) restores start
  rw [setters, List.map_map, List.foldl_map] at read
  exact read

end StoredRecord

namespace StoredField

variable {σ : Type}

/-- A field with a value of its own is written as an entry. -/
def of {α : Type} [Setting α] [Stored α] (key : String) (isKey : IsKey key) (get : σ → α)
    (set : α → σ → σ) : StoredField EntryLine σ where
  field := .of key get set
  restore s := set (Stored.reread (get s))
  exists_piece {s} text written := by
    obtain ⟨v, denotes, reads⟩ := Stored.read_write written
    refine ⟨⟨key, text, v, isKey, denotes⟩, rfl, rfl, fun held holds => ⟨holds.1, fun t => ?_⟩⟩
    rw [holds.2]
    simp only [Field.of, reads, bind, Except.bind, pure, Except.pure]

/-- A field that is a record itself is written as a table and read over a start value of its
own. -/
def ofRecord {ρ : Type} (key title : String) (isKey : IsKey key) (r : StoredRecord EntryLine ρ)
    (start : ρ) (get : σ → ρ) (set : ρ → σ → σ) : StoredField Block σ where
  field := .ofRecord key title (r.fields.map (·.field)) start get set
  restore s := set (r.restore (get s) start)
  exists_piece {s} text written := by
    obtain ⟨lines, each, same⟩ := Option.bind_eq_some_iff.1 written
    cases same
    -- the inner record is read over its own start value, whatever the outer one holds
    obtain ⟨entries, rfl, distinct, read⟩ := r.exists_pieces each
    refine ⟨⟨key, entries, isKey, distinct⟩, rfl, ?_, fun held holds => ⟨holds.1, fun t => ?_⟩⟩
    · rw [← List.flatMap_def]
      rfl
    · obtain ⟨table, same, all⟩ := holds.2
      rw [same]
      simp only [Field.ofRecord, Field.readRecord, read table all start, bind, Except.bind, pure,
        Except.pure]

end StoredField

end EmuHost
