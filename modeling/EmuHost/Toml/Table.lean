import EmuHost.Toml.Value

/-!
# TOML tables

How a document puts its tables together. A header opens a table once, whatever its place in the
document; the tables on the way to it come into being with it and may still be opened later. A
header in double brackets adds a new table to an array, and later ways through the array lead into
its last table. A dotted key leads through tables that no header has opened, and adds its value only
to a table that dotted keys have made.
-/

namespace EmuHost.Toml

/-- A key and where it stands. -/
structure Key where
  text : String
  span : Span
  deriving DecidableEq, Repr

/-- What headers and dotted keys differ in: the tables that they lead through. -/
inductive Route where
  | header
  | dottedKey
  deriving DecidableEq, Repr

namespace Route

/-- The origin of a table that comes into being on the way. -/
def creates : Route → TableOrigin
  | .header => .implied
  | .dottedKey => .dotted

/-- Whether the way may lead into a table, as its `last` one or through it. -/
def enters (last : Bool) : Route → TableOrigin → Bool
  | .header, origin => origin != .inline
  -- a dotted key may pass through a table that headers only imply, but not add to it
  | .dottedKey, origin => origin == .dotted || (origin == .implied && !last)

/-- Whether the way may lead into the last table of an array, as its `last` one or through it. -/
def entersArray (last : Bool) : Route → Bool
  | .header => true
  | .dottedKey => !last

end Route

namespace Table

/-- The table without entries. -/
def empty : Table := []

/-- A key that is not free. -/
def duplicate (key : Key) : Defect := ⟨key.span, "duplicate key"⟩

/-- Replaces or adds the entry under a key. -/
def update (key : String) (f : Option (Span × Value) → Except Defect (Span × Value)) :
    Table → Except Defect Table
  | [] => do return [(key, ← f none)]
  | (k, v) :: rest =>
    if k = key then do return (k, ← f (some v)) :: rest
    else do return (k, v) :: (← update key f rest)

/-- Changes the last table of an array. -/
def updateLast (f : Table → Except Defect Table) (otherwise : Defect) :
    List (Span × Value) → Except Defect (List (Span × Value))
  -- the items of an array that headers have made are tables
  | [(span, .table origin entries)] => do return [(span, .table origin (← f entries))]
  | item :: next :: rest => do return item :: (← updateLast f otherwise (next :: rest))
  | _ => .error otherwise

/-- Changes the table at the end of a way, creating what is missing of the way. -/
def reach (route : Route) (finish : Table → Except Defect Table) :
    List Key → Table → Except Defect Table
  | [], table => finish table
  | key :: keys, table =>
    table.update key.text fun
      -- what is missing comes into being on the way
      | none => do return (key.span, .table route.creates (← reach route finish keys empty))
      | some (span, .table origin entries) =>
        if route.enters keys.isEmpty origin then do
          return (span, .table origin (← reach route finish keys entries))
        else .error (duplicate key)
      | some (span, .array true items) =>
        if route.entersArray keys.isEmpty then do
          let items ← updateLast (reach route finish keys) (duplicate key) items
          return (span, .array true items)
        else .error (duplicate key)
      | some _ => .error (duplicate key)

/-- Adds a value under a free key. -/
def add (key : Key) (v : Span × Value) (table : Table) : Except Defect Table :=
  table.update key.text fun
    | none => .ok v
    | some _ => .error (duplicate key)

/-- Adds a value under a dotted key. -/
def assign (path : List Key) (last : Key) (v : Span × Value) : Table → Except Defect Table :=
  reach .dottedKey (add last v) path

/-- Opens the table that a header names. -/
def openTable (path : List Key) (last : Key) (header : Span) : Table → Except Defect Table :=
  reach .header (update last.text fun
    | none => .ok (header, .table .headed empty)
    -- a table that was only implied may still be opened, once
    | some (_, .table .implied entries) => .ok (header, .table .headed entries)
    | some _ => .error (duplicate last)) path

/-- Adds a table to the array that a header names. -/
def openItem (path : List Key) (last : Key) (header : Span) : Table → Except Defect Table :=
  reach .header (update last.text fun
    | none => .ok (header, .array true [(header, .table .headed empty)])
    | some (span, .array true items) =>
      .ok (span, .array true (items ++ [(header, .table .headed empty)]))
    | some _ => .error (duplicate last)) path

end Table

end EmuHost.Toml
