/-
  JSON values.

  Objects keep their fields in order.  A number is kept as its text.  A string is kept as the text it
  denotes; one that holds an escape for half of a surrogate pair denotes none.  `pretty` writes a
  value over several lines, two blanks deeper on each level.
-/
import Retouch.Text.Basic

namespace Retouch

/-- A JSON value. -/
inductive Json where
  | null
  | bool (b : Bool)
  | num (t : Text)
  | str (t : Option Text)
  | arr (items : List Json)
  | obj (fields : List (Option Text × Json))

namespace Json

/-! ## Building values -/

/-- A string with the given text. -/
def text (t : Text) : Json := .str (some t)

/-- A string with the characters of `s`. -/
def string (s : String) : Json := .text s.toList

/-- An integer. -/
def int (n : Int) : Json := .num (toString n).toList

/-- A natural number. -/
def nat (n : Nat) : Json := .num (Text.ofNat n)

/-- A value that may be missing. -/
def opt {α : Type} (f : α → Json) : Option α → Json
  | none => .null
  | some x => f x

/-- An object with the given fields. -/
def object (fields : List (String × Json)) : Json :=
  .obj (fields.map fun (key, value) => (some key.toList, value))

/-- An array of the values `f x`. -/
def array {α : Type} (f : α → Json) (xs : List α) : Json := .arr (xs.map f)

/-! ## Writing -/

/-- A character as it stands in a string. -/
def escapeChar (c : Char) : Text :=
  if c = '"' then ['\\', '"']
  else if c = '\\' then ['\\', '\\']
  else if c.toNat = 0x08 then ['\\', 'b']
  else if c = '\t' then ['\\', 't']
  else if c = '\n' then ['\\', 'n']
  else if c.toNat = 0x0C then ['\\', 'f']
  else if c = '\r' then ['\\', 'r']
  else if c.toNat < 0x20 then
    ['\\', 'u', '0', '0', Nat.digitChar (c.toNat / 16), Nat.digitChar (c.toNat % 16)]
  else [c]

/-- A text between quotes. -/
def quote (t : Text) : Text := ['"'] ++ t.flatMap escapeChar ++ ['"']

/-- A new line on level `level`. -/
def newLine (level : Nat) : Text := '\n' :: List.replicate (2 * level) ' '

mutual

/-- A value on level `level`. -/
def render (level : Nat) : Json → Text
  | .null => "null".toList
  | .bool b => (if b then "true" else "false").toList
  | .num t => t
  | .str t => quote (t.getD [])
  | .arr [] => "[]".toList
  | .arr (item :: items) =>
    ['['] ++ newLine (level + 1) ++ render (level + 1) item ++ renderItems (level + 1) items ++
      newLine level ++ [']']
  | .obj [] => "\x7b\x7d".toList
  | .obj (field :: fields) =>
    ['{'] ++ newLine (level + 1) ++ renderField (level + 1) field ++
      renderFields (level + 1) fields ++ newLine level ++ ['}']

/-- The items after the first. -/
def renderItems (level : Nat) : List Json → Text
  | [] => []
  | item :: items => [','] ++ newLine level ++ render level item ++ renderItems level items

/-- A key and its value. -/
def renderField (level : Nat) : Option Text × Json → Text
  | (key, value) => quote (key.getD []) ++ ": ".toList ++ render level value

/-- The fields after the first. -/
def renderFields (level : Nat) : List (Option Text × Json) → Text
  | [] => []
  | field :: fields =>
    [','] ++ newLine level ++ renderField level field ++ renderFields level fields

end

/-- A value over several lines. -/
def pretty (j : Json) : Text := render 0 j

end Json

end Retouch
