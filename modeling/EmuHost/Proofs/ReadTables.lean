import EmuHost.Toml.Document

/-!
# Tables that were read

No key stands twice in a table of a document, however deep the table is within others. An entry is
added under a key that is free or replaces the one entry under its key, so every way of putting
tables together keeps this (`Table.Distinct`), and the readers of values and of lines only put
tables together in these ways.

## Key results

- `Toml.Table.Distinct.reach`: keys stay distinct along the way to a table
- `Toml.ReadsDistinct.of_fuel`: values that were read
- `Toml.distinct_of_read`: whole documents
-/

namespace EmuHost.Toml

/-- What goes before a result has succeeded as well. -/
theorem ok_of_bind {α β : Type} {x : Except Defect α} {f : α → Except Defect β} {b : β}
    (succeeds : (x >>= f) = .ok b) : ∃ a, x = .ok a ∧ f a = .ok b := by
  cases x with
  | error e => exact nomatch succeeds
  | ok a => exact ⟨a, rfl, succeeds⟩

/-- Only a result is changed into a result. -/
theorem ok_of_map {α β : Type} {x : Except Defect α} {f : α → β} {b : β}
    (succeeds : x.map f = .ok b) : ∃ a, x = .ok a ∧ f a = b := by
  cases x with
  | error e => exact nomatch succeeds
  | ok a => exact ⟨a, rfl, Except.ok.inj succeeds⟩

namespace Value

/-- A value is a part of itself, of an array that has it among the items, and of a table that has it
under a key, however deep. -/
inductive IsPart (part : Value) : Value → Prop where
  | self : IsPart part part
  | item {headed : Bool} {items : List (Span × Value)} {item : Span × Value} (among : item ∈ items)
      (inside : IsPart part item.2) : IsPart part (.array headed items)
  | entry {origin : TableOrigin} {entries : Table} {entry : String × Span × Value}
      (among : entry ∈ entries) (inside : IsPart part entry.2.2) :
      IsPart part (.table origin entries)

/-- Values that hold no others. -/
def IsScalar : Value → Prop
  | .array .. | .table .. => False
  | _ => True

/-- What has no parts is its only part. -/
theorem IsScalar.eq_of_isPart {v part : Value} (scalar : v.IsScalar) (inside : part.IsPart v) :
    part = v := by
  cases inside with
  | self => rfl
  | item => exact scalar.elim
  | entry => exact scalar.elim

/-- In no table of a value does a key stand twice. -/
def HasDistinctKeys (v : Value) : Prop :=
  ∀ origin entries, (Value.table origin entries).IsPart v → (entries.map (·.1)).Nodup

/-- What has no parts has no keys either. -/
theorem IsScalar.hasDistinctKeys {v : Value} (scalar : v.IsScalar) : v.HasDistinctKeys := by
  intro origin entries inside
  obtain rfl := scalar.eq_of_isPart inside
  exact scalar.elim

/-- A list has distinct keys wherever its items have. -/
theorem hasDistinctKeys_array {headed : Bool} {items : List (Span × Value)}
    (each : ∀ item ∈ items, item.2.HasDistinctKeys) :
    (Value.array headed items).HasDistinctKeys := by
  intro origin entries inside
  cases inside with
  | item among inside => exact each _ among origin entries inside

/-- And its items have them wherever the list has. -/
theorem HasDistinctKeys.of_item {headed : Bool} {items : List (Span × Value)}
    (distinct : (Value.array headed items).HasDistinctKeys) :
    ∀ item ∈ items, item.2.HasDistinctKeys :=
  fun _ among origin entries inside => distinct origin entries (.item among inside)

/-- One more item with distinct keys keeps a list in order. -/
theorem distinct_append {items : List (Span × Value)} {v : Value}
    (each : ∀ item ∈ items, item.2.HasDistinctKeys) (new : v.HasDistinctKeys) (span : Span) :
    ∀ item ∈ items ++ [(span, v)], item.2.HasDistinctKeys := by
  intro item among
  rcases List.mem_append.1 among with before | last
  · exact each item before
  · rw [List.mem_singleton.1 last]
    exact new

end Value

namespace Table

/-- The keys of a table and of all tables within it are distinct. -/
structure Distinct (table : Table) : Prop where
  keys : (table.map (·.1)).Nodup
  values : ∀ entry ∈ table, entry.2.2.HasDistinctKeys

/-- A table in order is a value with distinct keys. -/
theorem Distinct.hasDistinctKeys {table : Table} (distinct : table.Distinct)
    (origin : TableOrigin) : (Value.table origin table).HasDistinctKeys := by
  intro origin entries inside
  cases inside with
  | self => exact distinct.keys
  | entry among inside => exact distinct.values _ among origin entries inside

/-- And a value with distinct keys is a table in order. -/
theorem Distinct.of_table {origin : TableOrigin} {table : Table}
    (distinct : (Value.table origin table).HasDistinctKeys) : table.Distinct where
  keys := distinct origin table .self
  values _ among origin entries inside := distinct origin entries (.entry among inside)

/-- An empty table has no keys to be the same. -/
theorem distinct_empty : Table.empty.Distinct where
  keys := List.nodup_nil
  values _ among := nomatch among

/-! ## Changes of tables -/

/-- An entry is changed in its place, or a new key goes to the end. -/
theorem update_keys {key : String} {f : Option (Span × Value) → Except Defect (Span × Value)}
    {table after : Table} (updated : update key f table = .ok after) :
    after.map (·.1) = table.map (·.1) ∨
      key ∉ table.map (·.1) ∧ after.map (·.1) = table.map (·.1) ++ [key] := by
  -- on the table: the key is looked for entry by entry
  induction table generalizing after with
  | nil =>
    obtain ⟨v, -, same⟩ := ok_of_bind updated
    cases same
    exact .inr ⟨List.not_mem_nil, rfl⟩
  | cons entry rest ih =>
    obtain ⟨k, v⟩ := entry
    rw [update] at updated
    split at updated
    · obtain ⟨w, -, same⟩ := ok_of_bind updated
      cases same
      exact .inl rfl
    · rename_i other
      obtain ⟨changed, inner, same⟩ := ok_of_bind updated
      cases same
      rcases ih inner with kept | ⟨new, added⟩
      · left
        rw [List.map_cons, List.map_cons, kept]
      · right
        rw [List.map_cons, List.map_cons, added]
        exact ⟨List.not_mem_cons_of_ne_of_not_mem (Ne.symm other) new, rfl⟩

/-- Each entry was there before or is what became of the one under the key. -/
theorem update_values {key : String} {f : Option (Span × Value) → Except Defect (Span × Value)}
    {table after : Table} (updated : update key f table = .ok after)
    {entry : String × Span × Value} (among : entry ∈ after) :
    entry ∈ table ∨ ∃ before, f before = .ok entry.2 ∧ ∀ v ∈ before, (key, v) ∈ table := by
  induction table generalizing after with
  | nil =>
    obtain ⟨w, made, same⟩ := ok_of_bind updated
    cases same
    rw [List.mem_singleton] at among
    subst among
    exact .inr ⟨none, made, fun _ none => nomatch none⟩
  | cons first rest ih =>
    obtain ⟨k, v⟩ := first
    rw [update] at updated
    split at updated
    · rename_i same
      obtain ⟨w, made, whole⟩ := ok_of_bind updated
      cases whole
      rcases List.mem_cons.1 among with here | later
      · subst here
        refine .inr ⟨some v, made, fun x found => ?_⟩
        cases found
        exact same ▸ List.mem_cons_self
      · exact .inl (List.mem_cons_of_mem _ later)
    · obtain ⟨changed, inner, whole⟩ := ok_of_bind updated
      cases whole
      rcases List.mem_cons.1 among with here | later
      · exact .inl (here ▸ List.mem_cons_self)
      · rcases ih inner later with before | ⟨before, made, stood⟩
        · exact .inl (List.mem_cons_of_mem _ before)
        · exact .inr ⟨before, made, fun x found => List.mem_cons_of_mem _ (stood x found)⟩

/-- Changing the value under one key keeps the keys distinct if the new value does. -/
theorem Distinct.update {key : String} {f : Option (Span × Value) → Except Defect (Span × Value)}
    {table after : Table} (distinct : table.Distinct)
    (keeps : ∀ before w, f before = .ok w → (∀ v ∈ before, v.2.HasDistinctKeys) →
      w.2.HasDistinctKeys)
    (updated : Table.update key f table = .ok after) : after.Distinct where
  keys := by
    rcases update_keys updated with kept | ⟨new, added⟩
    · exact kept ▸ distinct.keys
    · rw [added, List.nodup_append]
      refine ⟨distinct.keys, List.pairwise_singleton _ key, fun k among l last => ?_⟩
      rintro rfl
      exact new (List.mem_singleton.1 last ▸ among)
  values := by
    intro entry among
    rcases update_values updated among with before | ⟨before, made, stood⟩
    · exact distinct.values entry before
    · exact keeps before entry.2 made fun v found => distinct.values _ (stood v found)

/-- Changing the last table of an array. -/
theorem updateLast_values {f : Table → Except Defect Table} {otherwise : Defect}
    (keeps : ∀ {table after : Table}, table.Distinct → f table = .ok after → after.Distinct)
    {items after : List (Span × Value)} (distinct : ∀ item ∈ items, item.2.HasDistinctKeys)
    (updated : updateLast f otherwise items = .ok after) :
    ∀ item ∈ after, item.2.HasDistinctKeys := by
  -- the array is walked to its end, where the last item must be a table
  fun_induction updateLast f otherwise items generalizing after with
  | case1 span origin entries =>
    obtain ⟨changed, made, whole⟩ := ok_of_bind updated
    cases whole
    intro item among
    rw [List.mem_singleton] at among
    subst among
    have before := distinct _ (List.mem_singleton_self _)
    exact (keeps (.of_table before) made).hasDistinctKeys origin
  | case2 first next rest ih =>
    obtain ⟨changed, made, whole⟩ := ok_of_bind updated
    cases whole
    intro item among
    rcases List.mem_cons.1 among with here | later
    · exact here ▸ distinct first List.mem_cons_self
    · exact ih (fun item among => distinct item (List.mem_cons_of_mem _ among)) made item later
  | case3 => exact nomatch updated

/-- What is done at the end of a way keeps the keys distinct if it does so in the table there. -/
theorem Distinct.reach {route : Route} {finish : Table → Except Defect Table}
    (keeps : ∀ {table after : Table}, table.Distinct → finish table = .ok after → after.Distinct)
    {path : List Key} {table after : Table} (distinct : table.Distinct)
    (reached : Table.reach route finish path table = .ok after) : after.Distinct := by
  induction path generalizing table after with
  | nil => exact keeps distinct reached
  -- on the way: whatever stands under the next key is a table with distinct keys, or becomes one
  | cons key keys ih =>
    refine distinct.update (fun before w made stood => ?_) reached
    -- what stands under the next key of the way: nothing, a table, an array of tables or another
    split at made
    · obtain ⟨inner, further, whole⟩ := ok_of_bind made
      cases whole
      exact (ih distinct_empty further).hasDistinctKeys _
    · split at made
      · obtain ⟨inner, further, whole⟩ := ok_of_bind made
        cases whole
        exact (ih (.of_table (stood _ rfl)) further).hasDistinctKeys _
      · exact nomatch made
    · split at made
      · obtain ⟨items, further, whole⟩ := ok_of_bind made
        cases whole
        exact Value.hasDistinctKeys_array (updateLast_values ih (stood _ rfl).of_item further)
      · exact nomatch made
    · exact nomatch made

/-- A value under a dotted key. -/
theorem Distinct.assign {path : List Key} {last : Key} {v : Span × Value} {table after : Table}
    (value : v.2.HasDistinctKeys) (distinct : table.Distinct)
    (assigned : Table.assign path last v table = .ok after) : after.Distinct := by
  refine distinct.reach (fun distinct added => distinct.update (fun before w made _ => ?_) added)
    assigned
  split at made
  · cases made
    exact value
  · exact nomatch made

/-- A table that a header opens. -/
theorem Distinct.openTable {path : List Key} {last : Key} {header : Span} {table after : Table}
    (distinct : table.Distinct) (opened : Table.openTable path last header table = .ok after) :
    after.Distinct := by
  refine distinct.reach (fun distinct added => distinct.update (fun before w made stood => ?_)
    added) opened
  split at made
  · cases made
    exact distinct_empty.hasDistinctKeys _
  · cases made
    exact (Distinct.of_table (stood _ rfl)).hasDistinctKeys _
  · exact nomatch made

/-- A table that a header adds to an array. -/
theorem Distinct.openItem {path : List Key} {last : Key} {header : Span} {table after : Table}
    (distinct : table.Distinct) (opened : Table.openItem path last header table = .ok after) :
    after.Distinct := by
  have new : (Value.table .headed empty).HasDistinctKeys := distinct_empty.hasDistinctKeys _
  refine distinct.reach (fun distinct added => distinct.update (fun before w made stood => ?_)
    added) opened
  split at made
  · cases made
    exact Value.hasDistinctKeys_array (Value.distinct_append (List.forall_mem_nil _) new header)
  · cases made
    exact Value.hasDistinctKeys_array (Value.distinct_append (stood _ rfl).of_item new header)
  · exact nomatch made

end Table

/-! ## Values -/

/-- Whole numbers have no parts. -/
theorem wholeNumber_isScalar (base : Nat) (negative : Bool) (word : List Char) :
    (wholeNumber base negative word).IsScalar := by
  simp only [wholeNumber]
  split <;> exact trivial

/-- Neither have those that are marked with their base. -/
theorem marked?_isScalar {base : Nat} {word : List Char} {v : Value}
    (reads : marked? base word = some v) : v.IsScalar := by
  simp only [marked?] at reads
  split at reads
  · exact Option.some.inj reads ▸ wholeNumber_isScalar ..
  · exact nomatch reads

/-- Nor decimal ones. -/
theorem decimal?_isScalar {word : List Char} {v : Value} (reads : decimal? word = some v) :
    v.IsScalar := by
  simp only [decimal?, Option.ite_none_left_eq_some] at reads
  replace reads := reads.2
  -- a word with a point, an exponent or none of them
  split at reads
  · obtain ⟨x, -, same⟩ := Option.map_eq_some_iff.1 reads
    subst same
    split <;> exact trivial
  · split at reads
    · exact Option.some.inj reads ▸ wholeNumber_isScalar ..
    · exact Option.some.inj reads ▸ wholeNumber_isScalar ..
    · exact nomatch reads

/-- A word writes a value that holds no others. -/
theorem scalar?_isScalar {word : List Char} {v : Value} (reads : scalar? word = some v) :
    v.IsScalar := by
  unfold scalar? at reads
  split at reads
  · exact Option.some.inj reads ▸ trivial
  · exact Option.some.inj reads ▸ trivial
  · exact marked?_isScalar reads
  · exact marked?_isScalar reads
  · exact marked?_isScalar reads
  · dsimp only at reads
    -- behind a sign: `inf`, `nan`, a date or a decimal number
    split at reads
    · exact Option.some.inj reads ▸ trivial
    · exact Option.some.inj reads ▸ trivial
    · split at reads
      · exact Option.some.inj reads ▸ trivial
      · exact decimal?_isScalar reads

/-- A word that is read has no parts. -/
theorem scalar_isScalar {text rest : List Char} {v : Value} (reads : scalar text = .ok (v, rest)) :
    v.IsScalar := by
  simp only [scalar] at reads
  split at reads
  · rename_i found
    cases reads
    exact scalar?_isScalar found
  · exact nomatch reads

/-- The end of an array or inline table gives what was read up to it, or what is read beyond. -/
theorem closeWith_cases {α : Type} {mark : Char} {message : String} {done result : α}
    {more : List Char → Reading α} {text rest : List Char}
    (closes : closeWith mark message done more text = .ok (result, rest)) :
    result = done ∨ ∃ behind, more behind = .ok (result, rest) := by
  simp only [closeWith] at closes
  split at closes
  · split at closes
    · cases closes
      exact .inl rfl
    split at closes
    · exact .inr ⟨_, closes⟩
    · exact nomatch closes
  · exact nomatch closes

/-- With a given fuel, values, items and entries are read with distinct keys, whatever was read
before them. -/
structure ReadsDistinct (fuel : Nat) : Prop where
  value : ∀ {depth text v rest}, value fuel depth text = .ok (v, rest) → v.HasDistinctKeys
  items : ∀ {depth items text after rest}, (∀ item ∈ items, item.2.HasDistinctKeys) →
    arrayItems fuel depth items text = .ok (after, rest) → ∀ item ∈ after, item.2.HasDistinctKeys
  entries : ∀ {depth table text after rest}, table.Distinct →
    inlineEntries fuel depth table text = .ok (after, rest) → after.Distinct

namespace ReadsDistinct

/-- A value is a string, a word, or holds items or entries that are read with less fuel. -/
theorem value_of_less {fuel : Nat} (less : ∀ lower, fuel = lower + 1 → ReadsDistinct lower)
    {depth : Nat} {text rest : List Char} {v : Value}
    (reads : Toml.value fuel depth text = .ok (v, rest)) : v.HasDistinctKeys := by
  unfold Toml.value at reads
  -- the character that a value begins with tells which kind it is
  split at reads
  · obtain ⟨read, -, same⟩ := ok_of_map reads
    cases same
    exact Value.IsScalar.hasDistinctKeys trivial
  split at reads
  · obtain ⟨⟨items, rest⟩, read, whole⟩ := ok_of_bind reads
    cases whole
    exact Value.hasDistinctKeys_array ((less _ rfl).items (List.forall_mem_nil _) read)
  · obtain ⟨⟨entries, rest⟩, read, whole⟩ := ok_of_bind reads
    cases whole
    exact ((less _ rfl).entries Table.distinct_empty read).hasDistinctKeys _
  · exact nomatch reads
  · exact nomatch reads
  · exact (scalar_isScalar reads).hasDistinctKeys

/-- An item is read with less fuel, and so is what follows it. -/
theorem items_of_less {fuel : Nat} (less : ∀ lower, fuel = lower + 1 → ReadsDistinct lower)
    {depth : Nat} {items after : List (Span × Value)} {text rest : List Char}
    (before : ∀ item ∈ items, item.2.HasDistinctKeys)
    (reads : arrayItems fuel depth items text = .ok (after, rest)) :
    ∀ item ∈ after, item.2.HasDistinctKeys := by
  unfold arrayItems at reads
  split at reads
  · cases reads
    exact before
  · cases reads
  · cases reads
  · -- an item, then the closing bracket or a comma and more items
    obtain ⟨⟨v, behind⟩, read, closes⟩ := ok_of_bind reads
    have now := Value.distinct_append before ((less _ rfl).value read)
    rcases closeWith_cases closes with rfl | ⟨behind, further⟩
    · exact now _
    · exact (less _ rfl).items (now _) further

/-- The value of an entry is read with less fuel, and so is what follows it. -/
theorem entries_of_less {fuel : Nat} (less : ∀ lower, fuel = lower + 1 → ReadsDistinct lower)
    {depth : Nat} {table after : Table} {text rest : List Char} (before : table.Distinct)
    (reads : inlineEntries fuel depth table text = .ok (after, rest)) : after.Distinct := by
  unfold inlineEntries at reads
  split at reads
  · cases reads
    exact before
  · cases reads
  · cases reads
  · -- a key, the equals sign, a value, then the closing brace or a comma and more entries
    obtain ⟨⟨⟨path, last⟩, rest⟩, -, reads⟩ := ok_of_bind reads
    obtain ⟨start, -, reads⟩ := ok_of_bind reads
    obtain ⟨⟨v, rest⟩, read, reads⟩ := ok_of_bind reads
    obtain ⟨table, assigned, closes⟩ := ok_of_bind reads
    have now : table.Distinct := before.assign ((less _ rfl).value read) assigned
    rcases closeWith_cases closes with rfl | ⟨behind, further⟩
    · exact now
    · exact (less _ rfl).entries now further

/-- Values, items and entries are read in turn, each with less fuel than what it is part of. -/
theorem of_fuel (fuel : Nat) : ReadsDistinct fuel := by
  induction fuel with
  | zero =>
    have none (lower : Nat) (same : 0 = lower + 1) : ReadsDistinct lower := nomatch same
    exact ⟨value_of_less none, items_of_less none, entries_of_less none⟩
  | succ fuel ih =>
    have less (lower : Nat) (same : fuel + 1 = lower + 1) : ReadsDistinct lower :=
      Nat.succ.inj same ▸ ih
    exact ⟨value_of_less less, items_of_less less, entries_of_less less⟩

end ReadsDistinct

/-! ## Documents -/

namespace Draft

variable {draft after : Draft} {text rest : List Char}

/-- A header opens a table that was not there, or an array. -/
theorem header_distinct (distinct : draft.table.Distinct)
    (reads : draft.header text = .ok (after, rest)) : after.table.Distinct := by
  obtain ⟨⟨⟨path, last⟩, left⟩, -, reads⟩ := ok_of_bind reads
  dsimp only at reads
  split at reads
  · obtain ⟨table, opened, whole⟩ := ok_of_bind reads
    cases whole
    exact distinct.openTable opened
  · obtain ⟨table, opened, whole⟩ := ok_of_bind reads
    cases whole
    exact distinct.openItem opened
  · exact nomatch reads
  · exact nomatch reads

/-- An entry sets a key that was not there. -/
theorem entry_distinct (distinct : draft.table.Distinct)
    (reads : draft.entry text = .ok (after, rest)) : after.table.Distinct := by
  obtain ⟨⟨⟨path, last⟩, left⟩, -, reads⟩ := ok_of_bind reads
  obtain ⟨start, -, reads⟩ := ok_of_bind reads
  obtain ⟨⟨v, left⟩, read, reads⟩ := ok_of_bind reads
  obtain ⟨table, reached, whole⟩ := ok_of_bind reads
  cases whole
  have value : v.HasDistinctKeys := (ReadsDistinct.of_fuel _).value read
  exact distinct.reach (fun distinct assigned => distinct.assign value assigned) reached

/-- A line is a header, an entry, or nothing. -/
theorem line_distinct (distinct : draft.table.Distinct)
    (reads : draft.line text = .ok (after, rest)) : after.table.Distinct := by
  unfold Draft.line at reads
  split at reads
  · cases reads
    exact distinct
  split at reads
  · exact header_distinct distinct reads
  split at reads
  · cases reads
    exact distinct
  · exact entry_distinct distinct reads

/-- All lines leave the table in order. -/
theorem lines_distinct {fuel : Nat} (distinct : draft.table.Distinct)
    (reads : draft.lines fuel text = .ok after) : after.table.Distinct := by
  -- on the number of lines that are left to read
  induction fuel generalizing draft text with
  | zero =>
    cases reads
    exact distinct
  | succ fuel ih =>
    obtain ⟨⟨next, rest⟩, read, reads⟩ := ok_of_bind reads
    have kept := line_distinct distinct read
    dsimp only at reads
    split at reads
    · cases reads
      exact kept
    split at reads
    · exact ih kept reads
    · exact nomatch reads

end Draft

/-- In a table that was read no key stands twice, nor in any table within it. -/
theorem distinct_of_read {text : List Char} {table : Table} (reads : read text = .ok table) :
    table.Distinct := by
  obtain ⟨draft, read, whole⟩ := ok_of_bind reads
  cases whole
  exact Draft.lines_distinct Table.distinct_empty read

end EmuHost.Toml
