import EmuHost.Proofs.ReadTables
import EmuHost.Proofs.StoredSettings

/-!
# Settings that a table gives

A table names some fields of a record and perhaps other keys. What it gives under the name of a
field is of the kind of that field (`Kind.Accepts`) or not. If all of it is, the record is read with
the given values in place of those of the start value, and the other keys are passed over
(`GivenRecord.readTable_fits`); a single value of another kind makes reading fail
(`GivenRecord.readTable_breaks`). The order of the entries does not matter.

A number that cannot be held makes reading fail wherever it stands, even under other keys
(`Toml.Value.unusable?_eq_none_iff`).

## Key results

- `GivenSetting`: the kind of a type of settings and what its values stand for
- `GivenRecord.readTable_fits`, `GivenRecord.readTable_breaks`: records
- `GivenField.ofRecord`: records as the fields of a record
-/

namespace EmuHost

open Toml

/-! ## Parts of tables -/

namespace Toml

/-- The entries of a value, none if it is no table. -/
def Value.entries : Value → Table
  | .table _ entries => entries
  | _ => Table.empty

/-- No number in a value is one that cannot be held. -/
def Value.IsUsable (v : Value) : Prop := ∀ whole, ¬ (Value.unusable whole).IsPart v

namespace Table

/-- No number in a table is one that cannot be held, however deep. -/
def IsUsable (table : Table) : Prop := ∀ entry ∈ table, entry.2.2.IsUsable

/-- The value under a key. -/
def value? (table : Table) (key : String) : Option Value := (table.lookup key).map (·.2)

/-- The entries of the table under a key, none if there is no table. -/
def subtable (table : Table) (key : String) : Table :=
  ((table.value? key).map Value.entries).getD empty

variable {table : Table}

/-- A value that is found is written somewhere. -/
theorem exists_of_value? {key : String} {v : Value} (found : table.value? key = some v) :
    ∃ span, (key, span, v) ∈ table := by
  obtain ⟨⟨span, w⟩, held, rfl⟩ := Option.map_eq_some_iff.1 found
  obtain ⟨front, back, rfl, -⟩ := List.lookup_eq_some_iff.1 held
  exact ⟨span, List.mem_append_right front List.mem_cons_self⟩

/-- And what is written is found, if keys are not written twice. -/
theorem value?_of_mem (unique : (table.map (·.1)).Nodup) {key : String} {span : Span} {v : Value}
    (among : (key, span, v) ∈ table) : table.value? key = some v := by
  -- on the table: the key that is looked up is the first one, or not the first one
  induction table with
  | nil => exact nomatch among
  | cons first rest ih =>
    obtain ⟨k, held⟩ := first
    rw [List.map_cons, List.nodup_cons] at unique
    obtain ⟨new, unique⟩ := unique
    rcases List.mem_cons.1 among with here | later
    · cases here
      simp only [value?, List.lookup_cons, beq_self_eq_true, Option.map_some]
    · have other : (key == k) = false := by
        apply beq_false_of_ne
        intro same
        subst same
        exact new (List.mem_map.2 ⟨_, later, rfl⟩)
      rw [← ih unique later]
      simp only [value?, List.lookup_cons, other]

/-- A table that is found is the subtable. -/
theorem subtable_of_value? {key : String} {origin : TableOrigin} {entries : Table}
    (found : table.value? key = some (.table origin entries)) : table.subtable key = entries := by
  rw [subtable, found]
  rfl

/-- Something stands only in a table that is there. -/
theorem exists_of_subtable {name key : String} {v : Value}
    (found : (table.subtable name).value? key = some v) :
    ∃ origin, ∃ entries : Table, table.value? name = some (.table origin entries) ∧
      entries.value? key = some v := by
  unfold subtable at found
  cases there : table.value? name with
  | none =>
    rw [there] at found
    exact nomatch found
  | some w =>
    rw [there] at found
    -- a value under the name that is no table has nothing in it
    cases w with
    | table origin entries => exact ⟨origin, entries, rfl, found⟩
    | _ => exact nomatch found

/-- A key that is not written has no value. -/
theorem value?_of_notMem {key : String} (absent : key ∉ table.map (·.1)) :
    table.value? key = none := by
  cases found : table.value? key with
  | none => rfl
  | some v =>
    obtain ⟨span, among⟩ := exists_of_value? found
    exact absurd (List.mem_map_of_mem among) absent

end Table

/-! ## Numbers that cannot be held -/

namespace Value

/-- A list is usable if all its items are. -/
theorem isUsable_array {headed : Bool} {items : List (Span × Value)} :
    (Value.array headed items).IsUsable ↔ ∀ item ∈ items, item.2.IsUsable := by
  constructor
  · intro usable item among whole inside
    exact usable whole (.item among inside)
  · intro each whole inside
    cases inside with
    | item among inside => exact each _ among whole inside

/-- A table is usable, as a value, if its entries are. -/
theorem isUsable_table {origin : TableOrigin} {table : Table} :
    (Value.table origin table).IsUsable ↔ table.IsUsable := by
  constructor
  · intro usable entry among whole inside
    exact usable whole (.entry among inside)
  · intro each whole inside
    cases inside with
    | entry among inside => exact each _ among whole inside

/-- What has no parts is usable itself, or not. -/
theorem unusable?_scalar {v : Value} (scalar : v.IsScalar) (span : Span) :
    v.unusable? span = none ↔ v.IsUsable := by
  -- a value without parts is its only part
  constructor
  · intro none whole inside
    obtain rfl := scalar.eq_of_isPart inside
    cases whole <;> exact nomatch none
  · intro usable
    cases v with
    | unusable whole => exact absurd .self (usable whole)
    | array => exact scalar.elim
    | table => exact scalar.elim
    | _ => rfl

mutual

/-- A value is passed over if no number in it is one that cannot be held. -/
theorem unusable?_eq_none_iff (span : Span) : (v : Value) → (v.unusable? span = none ↔ v.IsUsable)
  | .array _ items => by rw [unusable?, firstUnusable?_eq_none_iff items, isUsable_array]
  | .table _ entries => by
    rw [unusable?, Option.map_eq_none_iff, List.head?_eq_none_iff, isUsable_table,
      ← unusables_eq_nil_iff entries]
    exact ⟨fun none => (none ▸ List.mergeSort_perm _ _ : List.Perm [] _).nil_eq.symm,
      fun none => by rw [none, List.mergeSort_nil]⟩
  | .string _ | .integer _ | .float _ | .unusable _ | .boolean _ | .dateTime _ =>
    unusable?_scalar (by trivial) span

/-- Nothing is unusable in a list only if nothing is in the items, one by one. -/
theorem firstUnusable?_eq_none_iff :
    (items : List (Span × Value)) → (firstUnusable? items = none ↔ ∀ item ∈ items, item.2.IsUsable)
  | [] => ⟨fun _ => List.forall_mem_nil _, fun _ => rfl⟩
  | (span, v) :: rest => by
    rw [firstUnusable?, Option.or_eq_none_iff, unusable?_eq_none_iff span v,
      firstUnusable?_eq_none_iff rest, List.forall_mem_cons]

/-- And likewise for the entries of a table. -/
theorem unusables_eq_nil_iff :
    (entries : Table) → (unusables entries = [] ↔ entries.IsUsable)
  | [] => ⟨fun _ => List.forall_mem_nil _, fun _ => rfl⟩
  | (key, span, v) :: rest => by
    rw [unusables, Table.IsUsable, List.forall_mem_cons, ← unusable?_eq_none_iff span v,
      ← Table.IsUsable, ← unusables_eq_nil_iff rest]
    cases v.unusable? span with
    | none => exact ⟨fun none => ⟨rfl, none⟩, fun both => both.2⟩
    | some defect => exact ⟨nofun, fun both => nomatch both.1⟩

end

/-- A value is passed over exactly if it is usable. -/
theorem ignore_ok_iff (span : Span) (v : Value) : v.ignore span = .ok () ↔ v.IsUsable := by
  rw [ignore, ← unusable?_eq_none_iff span v]
  cases v.unusable? span with
  | none => exact ⟨fun _ => rfl, fun _ => rfl⟩
  | some defect => exact ⟨nofun, nofun⟩

end Value

end Toml

/-! ## Kinds -/

/-- What a setting may be given as. -/
inductive Kind where
  | flag
  | text
  /-- A whole number from 0 on in eight bytes. -/
  | count
  /-- A float, or a whole number in eight bytes with a sign or without. -/
  | measure
  /-- One of these names. -/
  | name (names : List String)

/-- Whether a value is of a kind. -/
def Kind.Accepts : Kind → Value → Prop
  | .flag, .boolean _ => True
  | .text, .string _ => True
  | .count, .integer n => 0 ≤ n ∧ n < 2 ^ 64
  | .measure, .float _ => True
  | .measure, .integer n => -2 ^ 63 ≤ n ∧ n < 2 ^ 64
  | .name names, .string s => s ∈ names
  | _, _ => False

/-- A scalar of another kind. -/
def Kind.Refuses (kind : Kind) (v : Value) : Prop := v.IsScalar ∧ ¬ kind.Accepts v

/-- Only usable values are accepted. -/
theorem Kind.Accepts.isUsable {kind : Kind} {v : Value} (accepts : kind.Accepts v) :
    v.IsUsable := by
  intro whole inside
  cases inside with
  -- a number that cannot be held is of no kind, and no kind is that of a list or a table
  | self => cases kind <;> exact accepts
  | item => cases kind <;> exact accepts
  | entry => cases kind <;> exact accepts

/-- A type of settings with the kind of its values and what they stand for. -/
class GivenSetting (α : Type) [Setting α] where
  kind : Kind
  of? : Value → Option α
  accepts_iff : ∀ v, kind.Accepts v ↔ (of? v).isSome = true
  read_of : ∀ {v : Value} {a : α}, of? v = some a → ∀ span, Setting.read span v = .ok a
  read_refuses : ∀ {v : Value}, v.IsScalar → of? v = none → ∀ span,
    ∃ e, (Setting.read span v : Except Defect α) = .error e

/-- A mismatch is always an error, whatever it says. -/
theorem Toml.Value.exists_mismatch {α : Type} (span : Span) (v : Value) (expected : String) :
    ∃ e, (v.mismatch span expected : Except Defect α) = .error e := by
  unfold Value.mismatch
  split
  · exact ⟨_, rfl⟩
  · exact ⟨_, rfl⟩

/-- The whole numbers of 64 bits without a sign. -/
theorem Toml.isUnsigned_iff (n : Int) : isUnsigned 64 n = true ↔ 0 ≤ n ∧ n < 2 ^ 64 := by
  simp only [isUnsigned, Bool.and_eq_true, decide_eq_true_eq]
  norm_cast

/-- A whole number that can be read has one of the two ranges. -/
theorem Toml.isSigned_or_isUnsigned_iff (n : Int) :
    (isSigned 64 n || isUnsigned 64 n) = true ↔ -2 ^ 63 ≤ n ∧ n < 2 ^ 64 := by
  rw [Bool.or_eq_true, isUnsigned_iff]
  simp only [isSigned, Bool.and_eq_true, decide_eq_true_eq]
  norm_num
  omega

namespace GivenSetting

instance : GivenSetting Bool where
  kind := .flag
  of?
    -- the other kinds of values say what was expected, and that is an error
    | .boolean b => some b
    | _ => none
  accepts_iff v := by cases v <;> simp [Kind.Accepts]
  read_of {v a} given span := by
    cases v <;> cases given
    rfl
  read_refuses {v} scalar unread span := by
    cases v with
    | boolean => cases unread
    | _ => exact Value.exists_mismatch ..

instance : GivenSetting String where
  kind := .text
  of?
    | .string s => some s
    | _ => none
  accepts_iff v := by cases v <;> simp [Kind.Accepts]
  read_of {v a} given span := by
    cases v <;> cases given
    rfl
  read_refuses {v} scalar unread span := by
    cases v with
    | string => cases unread
    | _ => exact Value.exists_mismatch ..

instance : GivenSetting Nat where
  kind := .count
  of?
    | .integer n => if isUnsigned 64 n then some n.toNat else none
    | _ => none
  accepts_iff v := by
    cases v with
    | integer n =>
      show _ ↔ (if isUnsigned 64 n then some n.toNat else none).isSome = true
      rw [Option.isSome_ite, isUnsigned_iff]
      exact Iff.rfl
    | _ => simp [Kind.Accepts]
  read_of {v a} given span := by
    cases v with
    | integer n =>
      obtain ⟨fits, same⟩ := Option.ite_none_right_eq_some.1 given
      simp only [Setting.read, fits, if_true]
      exact congrArg _ (Option.some.inj same)
    | _ => exact nomatch given
  read_refuses {v} scalar unread span := by
    cases v with
    | integer n =>
      have large : isUnsigned 64 n = false := by
        rw [Bool.eq_false_iff]
        intro fits
        cases (if_pos fits).symm.trans unread
      simp only [Setting.read, large, Bool.false_eq_true, if_false]
      split
      · exact ⟨_, rfl⟩
      · exact Value.exists_mismatch ..
    | _ => exact Value.exists_mismatch ..

instance : GivenSetting Binary32 where
  kind := .measure
  of?
    | .float x => some (x.convert .single)
    | .integer n => if isSigned 64 n || isUnsigned 64 n then some (.ofInt n) else none
    | _ => none
  accepts_iff v := by
    cases v with
    | integer n =>
      show _ ↔
        (if isSigned 64 n || isUnsigned 64 n then some (Binary.ofInt n) else none).isSome = true
      rw [Option.isSome_ite, isSigned_or_isUnsigned_iff]
      exact Iff.rfl
    | _ => simp [Kind.Accepts]
  read_of {v a} given span := by
    cases v with
    | float x =>
      cases given
      rfl
    | integer n =>
      obtain ⟨fits, same⟩ := Option.ite_none_right_eq_some.1 given
      simp only [Setting.read, fits, if_true]
      exact congrArg _ (Option.some.inj same)
    | _ => exact nomatch given
  read_refuses {v} scalar unread span := by
    cases v with
    | float x => cases unread
    | integer n =>
      have large : (isSigned 64 n || isUnsigned 64 n) = false := by
        rw [Bool.eq_false_iff]
        intro fits
        cases (if_pos fits).symm.trans unread
      simp only [Setting.read, large, Bool.false_eq_true, if_false]
      exact Value.exists_mismatch ..
    | _ => exact Value.exists_mismatch ..

/-- The value with a given name. -/
@[reducible] def ofNames {α : Type} (values : List α) (name : α → String) :
    @GivenSetting α (Setting.ofNames values name) :=
  letI := Setting.ofNames values name
  { kind := .name (values.map name)
    of?
      | .string s => values.find? (name · == s)
      | _ => none
    accepts_iff v := by
      cases v with
      | string s => simp [Kind.Accepts]
      | _ => simp [Kind.Accepts]
    read_of {v a} given span := by
      cases v with
      | string s =>
        have found : values.find? (name · == s) = some a := given
        show Setting.readName values name span s = .ok a
        rw [Setting.readName, found]
      | _ => exact nomatch given
    read_refuses {v} scalar unread span := by
      cases v with
      | string s =>
        have absent : values.find? (name · == s) = none := unread
        show ∃ e, Setting.readName values name span s = .error e
        rw [Setting.readName, absent]
        exact ⟨_, rfl⟩
      | array => exact scalar.elim
      | table => exact scalar.elim
      | _ => exact ⟨_, rfl⟩ }

instance : GivenSetting SystemLanguage := ofNames SystemLanguage.all SystemLanguage.name

instance : GivenSetting RegionCode := ofNames RegionCode.all RegionCode.name

instance : GivenSetting BackendThreading := ofNames BackendThreading.all BackendThreading.name

instance : GivenSetting AspectRatio := ofNames AspectRatio.all AspectRatio.name

end GivenSetting

/-- The setting that a table gives under a key, the default if there is none. -/
def Toml.Table.given {α : Type} [Setting α] [GivenSetting α] (table : Table) (key : String)
    (default : α) : α :=
  ((table.value? key).bind GivenSetting.of?).getD default

/-! ## Rules -/

/-- Which values fit under a key. Some values may neither be accepted nor refused. -/
structure Rule where
  key : String
  Accepts : Value → Prop
  Refuses : Value → Prop

namespace Rule

/-- A value of a kind. -/
def ofKind (k : String × Kind) : Rule := ⟨k.1, k.2.Accepts, k.2.Refuses⟩

/-- What is given under the keys of rules is accepted, and no number that cannot be held is given
under another key. -/
structure Fits (rules : List Rule) (table : Table) : Prop where
  unique : (table.map (·.1)).Nodup
  known : ∀ rule ∈ rules, ∀ v, table.value? rule.key = some v → rule.Accepts v
  unknown : ∀ entry ∈ table, entry.1 ∉ rules.map Rule.key → entry.2.2.IsUsable

/-- What is given under the key of a rule is refused, or a number that cannot be held is given under
another key. -/
inductive Breaks (rules : List Rule) (table : Table) : Prop where
  | known {rule : Rule} {v : Value} (among : rule ∈ rules)
      (given : table.value? rule.key = some v) (refuses : rule.Refuses v)
  | unknown {entry : String × Span × Value} (among : entry ∈ table)
      (unnamed : entry.1 ∉ rules.map Rule.key) (unusable : ¬ entry.2.2.IsUsable)

/-- A table of its own. -/
def ofTable (key : String) (rules : List Rule) : Rule where
  key := key
  Accepts v := ∃ origin entries, v = .table origin entries ∧ Fits rules entries
  Refuses v := ∃ origin entries, v = .table origin entries ∧ Breaks rules entries

/-- A number that cannot be held breaks the rules if each of them refuses a value with such a
number. -/
theorem breaks_of_unusable {rules : List Rule} {table : Table} (unique : (table.map (·.1)).Nodup)
    (known : ∀ rule ∈ rules, ∀ v, table.value? rule.key = some v → ¬ v.IsUsable → rule.Refuses v)
    (unusable : ¬ table.IsUsable) : Breaks rules table := by
  simp only [Table.IsUsable, not_forall] at unusable
  obtain ⟨⟨key, span, v⟩, among, unusable⟩ := unusable
  by_cases named : key ∈ rules.map Rule.key
  · obtain ⟨rule, found, rfl⟩ := List.mem_map.1 named
    have given := Table.value?_of_mem unique among
    exact .known found given (known rule found v given unusable)
  · exact .unknown among named unusable

section Kinds

variable {kinds : List (String × Kind)} {table : Table}
  (accepts : ∀ k ∈ kinds, ∀ v, table.value? k.1 = some v → k.2.Accepts v)
  (unique : (table.map (·.1)).Nodup)

include accepts unique

/-- A usable table whose known entries are of their kinds fits the rules for the kinds. -/
theorem fits_ofKind (usable : table.IsUsable) : Fits (kinds.map ofKind) table where
  unique := unique
  known rule among v given := by
    obtain ⟨k, found, rfl⟩ := List.mem_map.1 among
    exact accepts k found v given
  unknown entry among _ := usable entry among

/-- And an unusable one breaks them, since no kind accepts what is unusable. -/
theorem breaks_ofKind (unusable : ¬ table.IsUsable) : Breaks (kinds.map ofKind) table := by
  refine breaks_of_unusable unique (fun rule among v given bad => ?_) unusable
  obtain ⟨k, found, rfl⟩ := List.mem_map.1 among
  exact absurd (accepts k found v given).isUsable bad

end Kinds

end Rule

/-! ## Records -/

/-- A field of a record with what a value does to it: it replaces what the field holds, or it makes
reading fail, wherever it stands. -/
structure GivenField (σ : Type) where
  field : Field σ
  Accepts : Value → Prop
  Refuses : Value → Prop
  replace : Value → σ → σ
  assign_accepts : ∀ {v}, Accepts v → ∀ span t, field.assign span v t = .ok (replace v t)
  assign_refuses : ∀ {v}, Refuses v → ∀ span t, ∃ e, field.assign span v t = .error e

namespace GivenField

variable {σ : Type} (f : GivenField σ)

def rule : Rule := ⟨f.field.key, f.Accepts, f.Refuses⟩

/-- What a table does to a field. -/
def settle (table : Table) (t : σ) : σ :=
  match table.value? f.field.key with
  | some v => f.replace v t
  | none => t

end GivenField

/-- A record whose fields have keys of their own and leave each other as they are. -/
structure GivenRecord (σ : Type) where
  fields : List (GivenField σ)
  distinct : (fields.map (·.field.key)).Nodup
  commute : fields.Pairwise fun f g =>
    ∀ v w t, f.replace v (g.replace w t) = g.replace w (f.replace v t)

namespace GivenRecord

variable {σ : Type} (r : GivenRecord σ)

def rules : List Rule := r.fields.map GivenField.rule

/-- The rules of a record have the keys of its fields. -/
theorem keys_rules : r.rules.map Rule.key = r.fields.map (·.field.key) := List.map_map

/-- What a table makes of a record. -/
def settle (table : Table) (start : σ) : σ := r.fields.foldl (fun t f => f.settle table t) start

/-- Having no table is the same as having an empty one. -/
theorem settle_subtable {start : σ} (idle : r.settle .empty start = start) (table : Table)
    (key : String) :
    r.settle (table.subtable key) start =
      (table.value? key).elim start fun v => r.settle v.entries start := by
  rw [Table.subtable]
  cases table.value? key with
  | none => exact idle
  | some v => rfl

/-- What each field does when a table is read. -/
def setters (table : Table) : List (Setter σ) := r.fields.map fun f => (f.field, f.settle table)

/-- Two fields are settled in any order if they are replaced in any order. -/
theorem settle_comm {f g : GivenField σ}
    (commute : ∀ v w t, f.replace v (g.replace w t) = g.replace w (f.replace v t)) (table : Table)
    (t : σ) : f.settle table (g.settle table t) = g.settle table (f.settle table t) := by
  simp only [GivenField.settle]
  cases table.value? f.field.key with
  | none => rfl
  | some v =>
    cases table.value? g.field.key with
    | none => rfl
    | some w => exact commute v w t

/-- The setters of a record may be applied in any order. -/
theorem commute_setters (table : Table) :
    ∀ p ∈ r.setters table, ∀ q ∈ r.setters table, ∀ t, p.2 (q.2 t) = q.2 (p.2 t) := by
  have pairs : ∀ f ∈ r.fields, ∀ g ∈ r.fields, ∀ t,
      f.settle table (g.settle table t) = g.settle table (f.settle table t) := by
    -- `commute` has each pair of fields once, in the order of the record
    apply (r.commute.imp fun swap t => settle_comm swap table t).forall_of_forall_of_flip
    · exact fun _ _ _ => rfl
    · exact r.commute.imp fun swap t => (settle_comm swap table t).symm
  intro p amongP q amongQ t
  obtain ⟨f, foundF, rfl⟩ := List.mem_map.1 amongP
  obtain ⟨g, foundG, rfl⟩ := List.mem_map.1 amongQ
  exact pairs f foundF g foundG t

variable {r} {table : Table}

/-- Each entry of a table that fits is handled: by its field, or by passing it over. -/
theorem handles_of_fits (fits : Rule.Fits r.rules table) :
    ∀ e ∈ table, Setter.Handles (r.setters table) e := by
  rintro ⟨key, span, v⟩ among
  -- the two ways to handle an entry are told apart by its key
  by_cases named : key ∈ r.fields.map (·.field.key)
  · obtain ⟨f, found, rfl⟩ := List.mem_map.1 named
    have given := Table.value?_of_mem fits.unique among
    have accepts : f.Accepts v := fits.known f.rule (List.mem_map_of_mem found) v given
    refine .sets (List.mem_map_of_mem found) ⟨rfl, fun t => ?_⟩
    rw [f.assign_accepts accepts]
    simp only [GivenField.settle, given]
  · have keys : (r.setters table).map (·.1.key) = r.fields.map (·.field.key) := List.map_map
    refine .passes (keys ▸ named) ?_
    exact (Value.ignore_ok_iff span v).2 (fits.unknown _ among (r.keys_rules ▸ named))

/-- A record is read with the given values in place of its own. -/
theorem readTable_fits (fits : Rule.Fits r.rules table) (start : σ) :
    Field.readTable (r.fields.map (·.field)) start table = .ok (r.settle table start) := by
  have distinct : ((r.setters table).map (·.1.key)).Nodup := by
    rw [setters, List.map_map]
    exact r.distinct
  have unset : ∀ part ∈ r.setters table, part.1.key ∉ table.map (·.1) → part.2 = id := by
    intro part among absent
    obtain ⟨f, found, rfl⟩ := List.mem_map.1 among
    funext t
    simp only [GivenField.settle, Table.value?_of_notMem absent, id]
  have read := Setter.readTable_handled distinct (r.commute_setters table) fits.unique
    (handles_of_fits fits) unset start
  rw [setters, List.map_map, List.foldl_map] at read
  exact read

/-- A step that fails from everywhere makes the whole way fail. -/
theorem foldlM_error {α β ε : Type} {f : β → α → Except ε β} {a : α}
    (fails : ∀ b, ∃ e, f b a = .error e) {l : List α} (among : a ∈ l) (start : β) :
    ∃ e, l.foldlM f start = .error e := by
  -- on the list: the steps before the one that fails may do what they like
  induction l generalizing start with
  | nil => exact nomatch among
  | cons first rest ih =>
    rw [List.foldlM_cons]
    rcases List.mem_cons.1 among with rfl | later
    · obtain ⟨e, failed⟩ := fails start
      rw [failed]
      exact ⟨e, rfl⟩
    · cases f start first with
      | error e => exact ⟨e, rfl⟩
      | ok next => exact ih later next

/-- A record is not read if anything in the table breaks the rules. -/
theorem readTable_breaks (breaks : Rule.Breaks r.rules table) (start : σ) :
    ∃ e, Field.readTable (r.fields.map (·.field)) start table = .error e := by
  have sorted := List.mergeSort_perm table fun a b => decide (a.1 ≤ b.1)
  have keys : (r.fields.map (·.field)).map Field.key = r.fields.map (·.field.key) := List.map_map
  cases breaks with
  | known among given refuses =>
    obtain ⟨f, known, rfl⟩ := List.mem_map.1 among
    obtain ⟨span, held⟩ := Table.exists_of_value? given
    have found : (r.fields.map (·.field)).find? (·.key == f.field.key) = some f.field :=
      find?_key (keys ▸ r.distinct) (List.mem_map_of_mem known)
    -- the entries are read in sorted order, and this one fails whatever was read before it
    refine foldlM_error (fun t => ?_) (sorted.mem_iff.2 held) start
    simp only [Field.assignEntry, GivenField.rule, found]
    exact f.assign_refuses refuses span t
  | @unknown entry among unnamed unusable =>
    have none := find?_unnamed (keys ▸ r.keys_rules ▸ unnamed)
    refine foldlM_error (fun t => ?_) (sorted.mem_iff.2 among) start
    simp only [Field.assignEntry, none]
    cases ignored : entry.2.2.ignore entry.2.1 with
    | ok done => exact absurd ((Value.ignore_ok_iff _ _).1 ignored) unusable
    | error e => exact ⟨e, rfl⟩

end GivenRecord

namespace GivenField

variable {σ : Type}

/-- A field with a value of its own. -/
def of {α : Type} [Setting α] [GivenSetting α] (key : String) (get : σ → α) (set : α → σ → σ) :
    GivenField σ where
  field := .of key get set
  Accepts := (GivenSetting.kind α).Accepts
  Refuses := (GivenSetting.kind α).Refuses
  replace v t := set ((GivenSetting.of? v).getD (get t)) t
  assign_accepts {v} accepts span t := by
    obtain ⟨a, given⟩ := Option.isSome_iff_exists.1 ((GivenSetting.accepts_iff v).1 accepts)
    simp only [Field.of, GivenSetting.read_of given, given, Option.getD_some, bind, Except.bind,
      pure, Except.pure]
  assign_refuses {v} refuses span t := by
    have unread : (GivenSetting.of? v : Option α) = none := by
      rw [← Option.not_isSome_iff_eq_none, ← GivenSetting.accepts_iff]
      exact refuses.2
    obtain ⟨e, failed⟩ := GivenSetting.read_refuses refuses.1 unread span
    refine ⟨e, ?_⟩
    simp only [Field.of, failed, bind, Except.bind]

/-- The field holds what the table gives, and what it held before if the table gives nothing. -/
theorem settle_of {α : Type} [Setting α] [GivenSetting α] {key : String} {get : σ → α}
    {set : α → σ → σ} (keep : ∀ t, set (get t) t = t) (table : Table) (t : σ) :
    (of key get set).settle table t = set (table.given key (get t)) t := by
  show (match table.value? key with
    | some v => set ((GivenSetting.of? v).getD (get t)) t
    | none => t) = _
  rw [Table.given]
  cases table.value? key with
  | none => exact (keep t).symm
  | some v => rfl

/-- A field that is a record itself, read over a start value of its own. -/
def ofRecord {ρ : Type} (key title : String) (r : GivenRecord ρ) (start : ρ) (get : σ → ρ)
    (set : ρ → σ → σ) : GivenField σ where
  field := .ofRecord key title (r.fields.map (·.field)) start get set
  Accepts := (Rule.ofTable key r.rules).Accepts
  Refuses := (Rule.ofTable key r.rules).Refuses
  replace v := set (r.settle v.entries start)
  assign_accepts := by
    rintro _ ⟨origin, entries, rfl, fits⟩ span t
    simp only [Field.ofRecord, Field.readRecord, r.readTable_fits fits, Value.entries, bind,
      Except.bind, pure, Except.pure]
  assign_refuses := by
    rintro _ ⟨origin, entries, rfl, breaks⟩ span t
    obtain ⟨e, failed⟩ := GivenRecord.readTable_breaks breaks start
    refine ⟨e, ?_⟩
    simp only [Field.ofRecord, Field.readRecord, failed, bind, Except.bind]

/-- The field holds what the table under its key makes of the start value, and what it held before
if there is no value under its key. -/
theorem settle_ofRecord {ρ : Type} {key title : String} {r : GivenRecord ρ} {start : ρ}
    {get : σ → ρ} {set : ρ → σ → σ} (keep : ∀ t, set (get t) t = t) (table : Table) (t : σ) :
    (ofRecord key title r start get set).settle table t =
      set ((table.value? key).elim (get t) fun v => r.settle v.entries start) t := by
  show (match table.value? key with
    | some v => set (r.settle v.entries start) t
    | none => t) = _
  cases table.value? key with
  | none => exact (keep t).symm
  | some v => rfl

end GivenField

end EmuHost
