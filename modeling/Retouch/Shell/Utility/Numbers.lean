/-
  Utilities on numbers and expressions.
-/
import Retouch.Shell.Format
import Retouch.Shell.Matching
import Retouch.Shell.Utility.Texts

namespace Retouch.Shell.Utility

/-! ## Rows of numbers -/

/-- A number of a row: its numerator over ten to the number of places, as it was written. -/
structure RowNumber where
  negative : Bool
  num : Nat
  den : Nat
  /-- The places behind the point. -/
  places : Nat
  /-- The length of its text. -/
  width : Nat

/-- The value as an integer times a common denominator. -/
def RowNumber.scaled (r : RowNumber) (scale : Nat) : Int :=
  let n : Int := (r.num * (scale / r.den) : Nat)
  if r.negative then -n else n

/-- The number that an argument of a row stands for; none in place of one without an end. -/
def readRowNumber (t : Octets) : Utility (Option RowNumber) := do
  let bare := t.dropWhile fun c => c == ' ' || c == '+'
  let bad : Utility (Option RowNumber) :=
    misuse ("invalid floating point argument: ".toList ++ quote t) 1
  match Decimal.readNumeral? bare with
  | some (.nan _, _) => misuse ("invalid 'not-a-number' argument: ".toList ++ quote t) 1
  | some (.infinite _, n) => if n = bare.length then return none else bad
  | some (.ratio negative num den, n) =>
    if n ≠ bare.length then bad
    else
      let low := Text.toAsciiLower bare
      let mantissa := low.takeWhile (· != 'e')
      let e := (Arithmetic.number? (low.drop (mantissa.length + 1))).getD 0
      let behind := (mantissa.dropWhile (· != '.')).drop 1
      let places := (behind.length - e).toNat
      return some ⟨negative, num, den, places, mantissa.length + e.toNat⟩
  | none => bad

/-- The numbers from one to another by steps; `fuel` bounds their number. -/
def progression (last step : Int) : (fuel : Nat) → Int → List Int
  | 0, _ => []
  | fuel + 1, n =>
    if (0 < step && last < n) || (step < 0 && n < last) then []
    else n :: progression last step fuel (n + step)

/-- A number with places behind the point. -/
def placedText (places scale : Nat) (n : Int) : Octets :=
  let t := Decimal.fixedText places false n.natAbs scale
  if n < 0 then '-' :: t else t

/-- A number with zeros behind its sign, up to a width. -/
def zeroFilled (width : Nat) (t : Octets) : Octets :=
  match t with
  | '-' :: r => '-' :: List.replicate (width - t.length) '0' ++ r
  | _ => List.replicate (width - t.length) '0' ++ t

/-- The text in front of the directive of a format, the directive, and the text behind it. -/
def rowFormat (t : Octets) : Utility (Octets × Format.Directive × Octets) := do
  let rec split : (fuel : Nat) → Octets → Octets → Option (Octets × Octets)
    | 0, _, _ => none
    | _, _, [] => none
    | fuel + 1, before, '%' :: '%' :: r => split fuel ('%' :: before) r
    | fuel + 1, before, c :: r => if c = '%' then some (before.reverse, r) else split fuel (c :: before) r
  match split (t.length + 1) [] t with
  | none => refuse ("format ".toList ++ quote t ++ " has no % directive".toList) 1
  | some (before, r) =>
    let (kind, d, after, _) := Format.readDirective r []
    match kind with
    | some c =>
      if !"efgaEFGA".toList.contains c then
        refuse ("format ".toList ++ quote t ++ " has unknown %".toList ++ c :: " directive".toList) 1
      match split (after.length + 1) [] after with
      | some _ => refuse ("format ".toList ++ quote t ++ " has too many % directives".toList) 1
      | none => return (before, d, after.foldr (fun c s => if c = '%' && s.head? = some '%' then s else c :: s) [])
    | none => refuse ("format ".toList ++ quote t ++ " ends in %".toList) 1

/-- Whether an argument is a number with a minus sign, and no option. -/
def isNegative (t : Octets) : Bool :=
  match t with
  | '-' :: c :: _ => c.isDigit || c == '.'
  | _ => false

/-- How many numbers there are in a row without an end. -/
def endlessRow : Nat := 20000

/-- Writes numbers in a row. -/
def seq : Utility Unit := do
  let grammar : Grammar := {
    plain := "w", valued := "fs", inFront := true
    long := [("equal-width", 'w'), ("format", 'f'), ("separator", 's')] }
  let args := (← read).args
  -- A negative number is no option.
  let lead := args.takeWhile fun a => !isNegative a
  let onlyOptions := match sortArgs grammar (lead.length + 1) lead with
    | .ok o => o.operands.isEmpty
    | .error _ => false
  let o ← optionsOf grammar
    (if lead.length < args.length && onlyOptions then lead ++ ['-', '-'] :: args.drop lead.length else args)
  let operands := o.operands
  let format ← match o.value? 'f' with
    | some f => some <$> rowFormat f
    | none => pure none
  if format.isSome && o.has 'w' then
    misuse "format string may not be specified when printing equal width strings".toList 1
  if operands.isEmpty then misuse "missing operand".toList 1
  if operands.length > 3 then misuse ("extra operand ".toList ++ quote (operands[3]?.getD [])) 1
  let numbers ← operands.mapM readRowNumber
  let one : RowNumber := ⟨false, 1, 1, 0, 1⟩
  let (first, step, last) : RowNumber × RowNumber × Option RowNumber :=
    match numbers with
    | [b] => (one, one, b)
    | [a, b] => (a.getD one, one, b)
    | [a, s, b] => (a.getD one, s.getD one, b)
    | _ => (one, one, none)
  if step.num = 0 then
    misuse ("invalid Zero increment value: ".toList ++ quote (operands[1]?.getD [])) 1
  let ends := last.getD one
  let scale := first.den * step.den * ends.den
  let places := max first.places step.places
  let start := first.scaled scale
  let by_ := step.scaled scale
  let count := match last with
    | some l => ((l.scaled scale - start).natAbs / by_.natAbs) + 1
    | none => endlessRow
  let limit := match last with | some l => l.scaled scale | none => start + by_ * endlessRow
  if last.isNone then modify fun w => { w with endless := true }
  let row := progression limit by_ count start
  let adjusted (r : RowNumber) : Nat :=
    r.width + places - r.places + (if r.places = 0 && 0 < places then 1 else 0) -
      (if 0 < r.places && places = 0 then 1 else 0)
  let width := max (adjusted first) (adjusted ends)
  let text (n : Int) : Octets :=
    match format with
    | some (before, d, after) =>
      let x := Decimal.Layout.extended.round (.ratio (n < 0) n.natAbs scale)
      before ++ d.decimal 4 (n < 0) x ++ after
    | none =>
      let t := placedText places scale n
      if o.has 'w' then zeroFilled width t else t
  let minus := first.negative && first.num = 0 && format.isNone
  let texts := (row.map text).mapIdx fun i t => if i = 0 && minus then '-' :: t else t
  if !texts.isEmpty then say (endLine (List.intercalate ((o.value? 's').getD ['\n']) texts))

/-! ## Time -/

/-- The microseconds that a text such as `1.5m` stands for; none in place of no end. -/
def interval? (t : Octets) : Option (Option Nat) :=
  match Decimal.readNumeral? t with
  | some (.infinite false, n) => if (t.drop n).isEmpty then some none else none
  | some (.ratio false num den, n) =>
    let scale : Option Nat :=
      match t.drop n with
      | [] | ['s'] => some 1
      | ['m'] => some 60
      | ['h'] => some 3600
      | ['d'] => some 86400
      | _ => none
    scale.map fun k => some (num * k * 1000000 / den)
  | _ => none

/-- A time that is longer than any limit. -/
def foreverMicros : Nat := Nat.pow 10 18

/-- Sleeps for some seconds. -/
def sleep : Utility Unit := do
  let o ← options {}
  if o.operands.isEmpty then misuse "missing operand".toList 1
  let times ← o.operands.mapM fun t => do
    match interval? t with
    | some n => return n.getD foreverMicros
    | none =>
      complain ("invalid time interval ".toList ++ quote t) 1
      return 0
  if (← get).status ≠ 0 then
    warn "Try 'sleep --help' for more information.\n".toList
    throw ()
  modify fun w => { w with asleep := times.foldl (· + ·) 0 }

/-! ## Factors -/

/-- The prime factors of a number from a divisor on; `fuel` bounds the divisors that are tried. -/
def primeFactors : (fuel : Nat) → (n divisor : Nat) → List Nat
  | 0, n, _ => if n ≤ 1 then [] else [n]
  | fuel + 1, n, d =>
    if n ≤ 1 then []
    else if n < d * d then [n]
    else if n % d = 0 then d :: primeFactors fuel (n / d) d
    else primeFactors fuel n (if d = 2 then 3 else d + 2)

/-- Writes the prime factors of numbers. -/
def factor : Utility Unit := do
  let o ← options { plain := "h", long := [("exponents", 'h')] }
  let words ← if o.operands.isEmpty then (do
      let t ← input
      return (t.splitOnP isSpace).filter (!·.isEmpty))
    else pure o.operands
  words.forM fun t => do
    let bare := (t.dropWhile isSpace).dropWhile (· == '+')
    if bare.isEmpty || !bare.all Char.isDigit then
      complain (quote t ++ " is not a valid positive integer".toList) 1
    else
      let n := Text.digitsValue bare
      let factors := primeFactors 3000000 n 2
      sayLine (Text.ofNat n ++ ':' :: (factors.map fun f => ' ' :: Text.ofNat f).flatten)

/-! ## Expressions -/

/-- An expression over texts. -/
inductive TextExpr where
  | text (t : Octets)
  | apply (operator : String) (a b : TextExpr)
  | length (a : TextExpr)
  | index (a b : TextExpr)
  | part (a b c : TextExpr)

/-- The arguments left to be read, and the last one read. -/
abbrev ExprParse := StateT (List Octets × Octets) (Except Octets)

/-- Whether a text is a whole number. -/
def isWhole (t : Octets) : Bool :=
  let digits := match t with | '-' :: r => r | r => r
  !digits.isEmpty && digits.all Char.isDigit

/-- The whole number that a text stands for. -/
def wholeOf (t : Octets) : Int :=
  match t with
  | '-' :: r => -(Text.digitsValue r : Int)
  | r => Text.digitsValue r

/-- Whether a value counts as true. -/
def isTrue (t : Octets) : Bool := !t.isEmpty && !(isWhole t && wholeOf t == 0)

/-- The whole number that an operand stands for. -/
def exprNumber (t : Octets) : Except Octets Int :=
  if isWhole t then .ok (wholeOf t) else .error "non-integer argument".toList

/-- The value of a comparison. -/
def exprCompare (operator : String) (a b : Octets) : Bool :=
  let order : Ordering :=
    if isWhole a && isWhole b then compare (wholeOf a) (wholeOf b)
    else if a < b then .lt else if b < a then .gt else .eq
  match operator with
  | "=" | "==" => order == .eq
  | "!=" => order != .eq
  | "<" => order == .lt
  | "<=" => order != .gt
  | ">" => order == .gt
  | _ => order != .lt

/-- The value of a match at the start of a text: the first group, or the length. -/
def exprMatch (t pattern : Octets) : Except Octets Octets := do
  let r ← match Regex.parse {} pattern with
    | .ok r => .ok r
    | .error m => .error m.toList
  let text := t.toArray
  match (r.matcher {}).matchAt true text 0 with
  | some f => .ok (if 0 < r.groups then f.group text 1 else Text.ofNat f.stop)
  | none => .ok (if 0 < r.groups then [] else ['0'])

/-- The value of an operator of two operands. -/
def exprApply (operator : String) (a b : Octets) : Except Octets Octets := do
  match operator with
  | ":" => exprMatch a b
  | "+" => .ok (Arithmetic.ofInt ((← exprNumber a) + (← exprNumber b)))
  | "-" => .ok (Arithmetic.ofInt ((← exprNumber a) - (← exprNumber b)))
  | "*" => .ok (Arithmetic.ofInt ((← exprNumber a) * (← exprNumber b)))
  | "/" | "%" =>
    let m ← exprNumber a
    let n ← exprNumber b
    if n = 0 then .error "division by zero".toList
    else .ok (Arithmetic.ofInt (if operator = "/" then m.tdiv n else m.tmod n))
  | o => .ok (if exprCompare o a b then ['1'] else ['0'])

/-- The value of an expression.  An operand that makes no difference is not looked at. -/
def TextExpr.value : TextExpr → Except Octets Octets
  | text t => .ok t
  | apply "|" a b => do
    let v ← a.value
    if isTrue v then .ok v
    else
      let w ← b.value
      .ok (if isTrue w then w else ['0'])
  | apply "&" a b => do
    let v ← a.value
    if !isTrue v then .ok ['0']
    else
      let w ← b.value
      .ok (if isTrue w then v else ['0'])
  | apply o a b => do exprApply o (← a.value) (← b.value)
  | length a => do .ok (Text.ofNat (← a.value).length)
  | index a b => do
    let t ← a.value
    let set ← b.value
    .ok (Text.ofNat ((t.findIdx? set.contains).elim 0 (· + 1)))
  | part a b c => do
    let t ← a.value
    let from_ ← b.value
    let count ← c.value
    if !isWhole from_ || !isWhole count then .ok []
    else
      let n := wholeOf from_
      if n ≤ 0 || wholeOf count ≤ 0 then .ok []
      else .ok ((t.drop (n.toNat - 1)).take (wholeOf count).toNat)

/-- The operators by their level, the loosest first. -/
def exprLevels : List (List String) :=
  [["|"], ["&"], ["=", "==", "!=", "<", "<=", ">", ">="], ["+", "-"], ["*", "/", "%"], [":"]]

/-- Goes over an argument. -/
def skipExpr : ExprParse Unit := modify fun (args, last) => (args.drop 1, args.headD last)

/-- The next argument, which has to be there. -/
def nextExpr : ExprParse Octets := do
  match ← get with
  | ([], last) => throw ("syntax error: missing argument after ".toList ++ quote last)
  | (a :: _, _) => return a

/-- An operand; `operand` reads those of named functions. -/
def readExprOperand (whole operand : ExprParse TextExpr) : ExprParse TextExpr := do
  let a ← nextExpr
  match String.ofList a with
  | "(" =>
    skipExpr
    let v ← whole
    match ← get with
    | ([], last) => throw ("syntax error: expecting ')' after ".toList ++ quote last)
    | ([')'] :: _, _) =>
      skipExpr
      return v
    | (b :: _, _) => throw ("syntax error: expecting ')' instead of ".toList ++ quote b)
  | ")" => throw "syntax error: unexpected ')'".toList
  | "+" =>
    skipExpr
    let t ← nextExpr
    skipExpr
    return .text t
  | "length" =>
    skipExpr
    return .length (← operand)
  | "match" =>
    skipExpr
    let t ← operand
    return .apply ":" t (← operand)
  | "index" =>
    skipExpr
    let t ← operand
    return .index t (← operand)
  | "substr" =>
    skipExpr
    let t ← operand
    let n ← operand
    return .part t n (← operand)
  | _ =>
    skipExpr
    return .text a

/-- Operators of a level applied from left to right; `fuel` bounds their number. -/
def extendExpr (operand : ExprParse TextExpr) (operators : List String) :
    (fuel : Nat) → TextExpr → ExprParse TextExpr
  | 0, v => return v
  | fuel + 1, v => do
    match ← get with
    | (o :: _, _) =>
      if operators.any (·.toList == o) then
        skipExpr
        let w ← operand
        extendExpr operand operators fuel (.apply (String.ofList o) v w)
      else return v
    | ([], _) => return v

/-- The expression at a level: an operand, extended by the operators of each level in turn. -/
def readExprLevels (operand : ExprParse TextExpr) : List (List String) → ExprParse TextExpr
  | [] => operand
  | operators :: levels => do
    let v ← readExprLevels operand levels
    extendExpr (readExprLevels operand levels) operators ((← get).1.length + 1) v

/-- An expression at its loosest level or an operand; `depth` bounds the nesting. -/
def readExprWhole : (depth : Nat) → (operandOnly : Bool) → ExprParse TextExpr
  | 0, _ => throw "syntax error".toList
  | depth + 1, operandOnly =>
    let operand := readExprOperand (readExprWhole depth false) (readExprWhole depth true)
    if operandOnly then operand else readExprLevels operand exprLevels

/-- Writes the value of an expression. -/
def expr : Utility Unit := do
  let args := (← read).args
  let args := if args.head? = some ['-', '-'] then args.drop 1 else args
  if args.isEmpty then misuse "missing operand".toList 2
  match (readExprWhole (args.length + 1) false).run (args, []) with
  | .error message => complain message 2
  | .ok (_, (extra :: _, _)) =>
    complain ("syntax error: unexpected argument ".toList ++ quote extra) 2
  | .ok (e, ([], _)) =>
    match e.value with
    | .error message => complain message 2
    | .ok v =>
      sayLine v
      setStatus (if isTrue v then 0 else 1)

end Retouch.Shell.Utility
