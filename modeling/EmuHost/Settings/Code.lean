/-!
# Numbered values

The host names enumerated values by number. A table lists its values from number 0 on; a number
outside the table is an `UnknownCode`.
-/

namespace EmuHost

/-- A number that a table of named values does not hold. -/
structure UnknownCode where
  table : String
  code : Int
  deriving DecidableEq, Repr

def UnknownCode.message (e : UnknownCode) : String :=
  "unknown " ++ e.table ++ " value " ++ toString e.code

/-- The value with a given number in a table. -/
def lookUpCode {α : Type} (table : String) (values : List α) (code : Int) :
    Except UnknownCode α :=
  if code < 0 then .error ⟨table, code⟩
  else match values[code.toNat]? with
    | some v => .ok v
    | none => .error ⟨table, code⟩

end EmuHost
