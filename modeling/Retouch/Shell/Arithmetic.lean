/-
  Arithmetic expressions of the shell.

  Values are whole numbers of 64 bits that wrap around.  An expression is read by the precedence of
  its operators and then evaluated; variables hold texts, and an assignment gives one a new value.
-/
import Retouch.Shell.Reader

namespace Retouch.Shell.Arithmetic

/-- Why an expression has no value. -/
inductive Fault where
  /-- The expression is not as the grammar asks. -/
  | malformed (wanted : String)
  | divisionByZero
  /-- The text of a variable is no number. -/
  | illegal (text : Octets)
deriving Repr, DecidableEq

/-- A number brought into 64 bits. -/
def wrap (n : Int) : Int := n.bmod (Nat.pow 2 64)

/-! ## Numbers -/

/-- The value of a digit up to 15. -/
def digitValue (c : Char) : Nat :=
  if c.isDigit then c.toNat - 48 else if c ≤ 'F' then c.toNat - 55 else c.toNat - 87

/-- The number at the start of a text, in decimal, octal or hexadecimal digits, and the number of
    its characters. -/
def readNumber (t : Octets) : Nat × Nat :=
  let value (base : Nat) (digits : Octets) := digits.foldl (fun n c => base * n + digitValue c) 0
  let isHex (c : Char) := c.isDigit || ('a' ≤ c && c ≤ 'f') || ('A' ≤ c && c ≤ 'F')
  match t with
  | '0' :: x :: r =>
    if (x = 'x' ∨ x = 'X') ∧ (r.head?.map isHex).getD false then
      let digits := r.takeWhile isHex
      (value 16 digits, digits.length + 2)
    else
      let digits := (x :: r).takeWhile fun c => '0' ≤ c && c ≤ '7'
      (value 8 digits, digits.length + 1)
  | _ =>
    let digits := t.takeWhile Char.isDigit
    (value 10 digits, digits.length)

/-- The number that a text stands for, with blanks around it and a sign; the empty text is zero. -/
def number? (t : Octets) : Option Int :=
  let t := Text.trim t
  let (negative, t) : Bool × Octets :=
    match t with
    | '-' :: r => (true, r)
    | '+' :: r => (false, r)
    | r => (false, r)
  let (n, length) := readNumber t
  if length = t.length then some (if negative then -n else n) else none

/-! ## Expressions -/

/-- An expression.  An assignment may apply an operator to the old value. -/
inductive Expr where
  | number (n : Int)
  | named (name : Octets)
  | unary (operator : Char) (e : Expr)
  | binary (operator : String) (a b : Expr)
  | conditional (c a b : Expr)
  | assign (name : Octets) (operator : String) (e : Expr)
deriving Repr

/-- A step of reading an expression. -/
abbrev Parse := StateT Octets (Except Fault)

/-- Operators of two operands with their precedence, longer ones first. -/
def operators : List (String × Nat) :=
  [("||", 1), ("&&", 2), ("==", 6), ("!=", 6), ("<=", 7), (">=", 7), ("<<", 8), (">>", 8),
    ("|", 3), ("^", 4), ("&", 5), ("<", 7), (">", 7), ("+", 9), ("-", 9), ("*", 10), ("/", 10),
    ("%", 10)]

/-- Operators that may stand in an assignment. -/
def assigning : List String := ["*", "/", "%", "+", "-", "<<", ">>", "&", "^", "|", ""]

/-- Whether a character is a blank of an expression. -/
def isSpace (c : Char) : Bool := c == ' ' || c == '\t' || c == '\n'

/-- The rest without the blanks at its start. -/
def ahead : Parse Octets := do
  modify (·.dropWhile isSpace)
  get

/-- Goes over a text that has to come next. -/
def expectSign (sign : Char) : Parse Unit := do
  match ← ahead with
  | c :: r => if c = sign then set r else throw (.malformed (String.ofList ['\'', sign, '\'']))
  | [] => throw (.malformed (String.ofList ['\'', sign, '\'']))

/-- The operator of an assignment at the start of a text, and its length with the equals sign. -/
def assignment? (t : Octets) : Option (String × Nat) :=
  let t := t.dropWhile isSpace
  assigning.findSome? fun o =>
    if o.toList.isPrefixOf t ∧ t[o.length]? = some '=' ∧ (o ≠ "" ∨ t[1]? ≠ some '=') then
      some (o, o.length + 1)
    else none

/-- An operand; `whole` reads an expression and `operand` another operand. -/
def readOperand (whole operand : Parse Expr) : Parse Expr := do
  match ← ahead with
  | [] => throw (.malformed "primary")
  | c :: r =>
    if c = '(' then
      set r
      let e ← whole
      expectSign ')'
      return e
    else if c = '!' ∨ c = '~' ∨ c = '-' ∨ c = '+' then
      set r
      return .unary c (← operand)
    else if c.isDigit then
      let (n, length) := readNumber (c :: r)
      set ((c :: r).drop length)
      return .number (min (n : Int) (Nat.pow 2 63 - 1))
    else if Text.isNameStart c then
      let name := (c :: r).takeWhile isNameChar
      let t := (c :: r).drop name.length
      match assignment? t with
      | some (o, length) =>
        set ((t.dropWhile isSpace).drop length)
        return .assign name o (← whole)
      | none =>
        set t
        return .named name
    else throw (.malformed "primary")

/-- Extends an expression by operators of at least a precedence; `fuel` bounds their number. -/
def extend (tighter : Nat → Parse Expr) (least : Nat) :
    (fuel : Nat) → Expr → Parse Expr
  | 0, e => return e
  | fuel + 1, e => do
    let t ← ahead
    match operators.find? fun o => o.1.toList.isPrefixOf t with
    | some (o, p) =>
      if p < least then return e
      else
        set (t.drop o.length)
        let right ← tighter (p + 1)
        extend tighter least fuel (.binary o e right)
    | none => return e

/-- An expression whose operators have at least a precedence, zero for any; `fuel` bounds the
    nesting. -/
def readExpr : (fuel : Nat) → (least : Nat) → Parse Expr
  | 0, _ => throw (.malformed "primary")
  | fuel + 1, least => do
    let first ← readOperand (readExpr fuel 0) (readExpr fuel 11)
    let e ← extend (readExpr fuel) (max least 1) ((← get).length + 1) first
    if least = 0 then
      match ← ahead with
      | '?' :: r =>
        set r
        let a ← readExpr fuel 0
        expectSign ':'
        return .conditional e a (← readExpr fuel 0)
      | _ => return e
    else return e

/-- The expression that a text holds. -/
def parse (t : Octets) : Except Fault Expr := do
  let (e, rest) ← (readExpr (t.length + 2) 0).run t
  if rest.all isSpace then return e else throw (.malformed "EOF")

/-! ## Values -/

/-- The value of a truth. -/
def ofBool (b : Bool) : Int := if b then 1 else 0

/-- The number of 64 bits without a sign that has the same bits. -/
def bits (n : Int) : Nat := (n % Nat.pow 2 64).toNat

/-- The value of an operator. -/
def apply (operator : String) (a b : Int) : Except Fault Int :=
  match operator with
  | "+" => .ok (wrap (a + b))
  | "-" => .ok (wrap (a - b))
  | "*" => .ok (wrap (a * b))
  | "/" => if b = 0 then .error .divisionByZero else .ok (wrap (a.tdiv b))
  | "%" => if b = 0 then .error .divisionByZero else .ok (a.tmod b)
  | "<<" => .ok (wrap (a * Nat.pow 2 (bits b % 64)))
  | ">>" => .ok (a.fdiv (Nat.pow 2 (bits b % 64)))
  | "&" => .ok (wrap (bits a &&& bits b))
  | "|" => .ok (wrap (bits a ||| bits b))
  | "^" => .ok (wrap (bits a ^^^ bits b))
  | "==" => .ok (ofBool (a = b))
  | "!=" => .ok (ofBool (a ≠ b))
  | "<" => .ok (ofBool (a < b))
  | ">" => .ok (ofBool (a > b))
  | "<=" => .ok (ofBool (a ≤ b))
  | ">=" => .ok (ofBool (a ≥ b))
  | _ => .ok b

/-- The values that variables have been given. -/
abbrev Assigned := List (Octets × Int)

/-- The value of a variable. -/
def valueOf (lookup : Octets → Octets) (assigned : Assigned) (name : Octets) : Except Fault Int :=
  match assigned.find? (·.1 == name) with
  | some (_, n) => .ok n
  | none =>
    let text := lookup name
    match number? text with
    | some n => .ok n
    | none => .error (.illegal text)

/-- The value of an expression, and the assignments so far. -/
def eval (lookup : Octets → Octets) : Expr → Assigned → Except Fault (Int × Assigned)
  | .number n, s => .ok (n, s)
  | .named name, s => do return (← valueOf lookup s name, s)
  | .unary o e, s => do
    let (n, s) ← eval lookup e s
    let value :=
      if o = '!' then ofBool (n = 0)
      else if o = '~' then -n - 1
      else if o = '-' then wrap (-n)
      else n
    return (value, s)
  | .binary o a b, s => do
    let (m, s) ← eval lookup a s
    if o = "&&" then
      if m = 0 then return (0, s)
      else
        let (n, s) ← eval lookup b s
        return (ofBool (n ≠ 0), s)
    else if o = "||" then
      if m ≠ 0 then return (1, s)
      else
        let (n, s) ← eval lookup b s
        return (ofBool (n ≠ 0), s)
    else
      let (n, s) ← eval lookup b s
      return (← apply o m n, s)
  | .conditional c a b, s => do
    let (n, s) ← eval lookup c s
    if n ≠ 0 then eval lookup a s else eval lookup b s
  | .assign name o e, s => do
    let (n, s) ← eval lookup e s
    let value ← if o = "" then pure n else do apply o (← valueOf lookup s name) n
    return (value, (name, value) :: s)

/-- The value of the expression in a text, and its assignments, the last one first. -/
def calculate (lookup : Octets → Octets) (t : Octets) : Except Fault (Int × Assigned) := do
  eval lookup (← parse t) []

/-- The decimal text of a number. -/
def ofInt (n : Int) : Octets :=
  if n < 0 then '-' :: Text.ofNat n.natAbs else Text.ofNat n.natAbs

end Retouch.Shell.Arithmetic
