/-
  Formatted output: the escapes of `echo` and the directives of `printf`.
-/
import Retouch.Decimal.Notation
import Retouch.Shell.Arithmetic

namespace Retouch.Shell.Format

/-! ## Escapes -/

/-- Whether a character is an octal digit. -/
def isOctal (c : Char) : Bool := '0' ≤ c && c ≤ '7'

/-- The character with the value of some octal digits, brought into a byte. -/
def octal (digits : Octets) : Char :=
  Char.ofNat (digits.foldl (fun n c => 8 * n + (c.toNat - 48)) 0 % 256)

/-- The character that an escape stands for, whose backslash has been read, and the number of
    characters after the backslash. -/
def escape? : Octets → Option (Char × Nat)
  | 'a' :: _ => some ('\x07', 1)
  | 'b' :: _ => some ('\x08', 1)
  | 'e' :: _ => some ('\x1b', 1)
  | 'f' :: _ => some ('\x0c', 1)
  | 'n' :: _ => some ('\n', 1)
  | 'r' :: _ => some ('\r', 1)
  | 't' :: _ => some ('\t', 1)
  | 'v' :: _ => some ('\x0b', 1)
  | '\\' :: _ => some ('\\', 1)
  | c :: t =>
    if isOctal c then
      let digits := ((c :: t).take 3).takeWhile isOctal
      some (octal digits, digits.length)
    else none
  | [] => none

/-- A text with its escapes carried out, and whether an escape asked to end the output; `fuel`
    bounds its length. -/
def unescapeFrom : (fuel : Nat) → Octets → Octets × Bool
  | 0, _ => ([], false)
  | _, [] => ([], false)
  | fuel + 1, c :: t =>
    let plain (c : Char) (t : Octets) : Octets × Bool :=
      let (s, ended) := unescapeFrom fuel t
      (c :: s, ended)
    if c ≠ '\\' then plain c t
    else
      match t with
      | 'c' :: _ => ([], true)
      | '0' :: r =>
        let digits := (r.take 3).takeWhile isOctal
        plain (octal digits) (r.drop digits.length)
      | _ =>
        match escape? t with
        | some (e, n) => plain e (t.drop n)
        | none => plain c t

/-- A text with its escapes carried out, and whether an escape asked to end the output. -/
def unescape (t : Octets) : Octets × Bool := unescapeFrom (t.length + 1) t

/-- What `echo` writes. -/
def echo (args : List Octets) : Octets :=
  let (newline, args) : Bool × List Octets :=
    match args with
    | ['-', 'n'] :: r => (false, r)
    | r => (true, r)
  let (text, ended) := unescape (List.intercalate [' '] args)
  if newline && !ended then text ++ ['\n'] else text

/-! ## Directives -/

/-- What `printf` makes of its arguments. -/
structure Printed where
  /-- The output in pieces, the last one first. -/
  pieces : List Octets := []
  faults : List Octets := []
  status : Nat := 0
  ended : Bool := false

/-- How `printf` speaks: the shell's own command, or the program, which puts quotes around arguments
    and knows more escapes and wider numbers. -/
inductive Dialect where
  | shell
  | program
deriving DecidableEq

/-- A directive: flags, least width, precision and kind. -/
structure Directive where
  flags : Octets
  width : Nat
  precision : Option Nat
  kind : Char
deriving Repr

namespace Directive

/-- Whether a flag is given. -/
def has (d : Directive) (flag : Char) : Bool := d.flags.contains flag

/-- A text brought to the least width. -/
def pad (d : Directive) (t : Octets) : Octets :=
  let gap := List.replicate (d.width - t.length) ' '
  if d.has '-' then t ++ gap else gap ++ t

/-- A number brought to the least width, by zeros behind its sign if they are asked for. -/
def padZeros (d : Directive) (sign digits : Octets) : Octets :=
  let zeros :=
    if d.has '0' && !d.has '-' then List.replicate (d.width - sign.length - digits.length) '0'
    else []
  d.pad (sign ++ zeros ++ digits)

/-- A whole number with its sign, its digits brought to the precision or filled up by zeros.  Zero
    with no precision at all has no digits. -/
def padNumber (d : Directive) (sign digits : Octets) : Octets :=
  let digits := if digits = ['0'] ∧ d.precision = some 0 then [] else digits
  let digits := List.replicate (d.precision.getD 1 - digits.length) '0' ++ digits
  if d.precision.isSome then d.pad (sign ++ digits) else d.padZeros sign digits

/-- The sign of a number. -/
def sign (d : Directive) (negative : Bool) : Octets :=
  if negative then ['-'] else if d.has '+' then ['+'] else if d.has ' ' then [' '] else []

/-- A number in a base with lower-case digits. -/
def inBase (base n : Nat) : Octets := Nat.toDigits base n

/-- The text of a whole number of 64 bits, whose bits count for all kinds but the decimal one. -/
def whole (d : Directive) (n : Int) : Octets :=
  let bits := Arithmetic.bits n
  match d.kind with
  | 'd' | 'i' => d.padNumber (d.sign (n < 0)) (Text.ofNat n.natAbs)
  | 'u' => d.padNumber [] (Text.ofNat bits)
  | 'o' =>
    let digits := inBase 8 bits
    let short := !(digits.length < d.precision.getD 0) && digits.head? != some '0'
    if d.has '#' && short then
      { d with precision := d.precision.map (max (digits.length + 1)) }.padNumber [] ('0' :: digits)
    else if d.has '#' && bits == 0 then { d with precision := some 1 }.padNumber [] digits
    else d.padNumber [] digits
  | 'x' => d.padNumber (if d.has '#' && bits != 0 then ['0', 'x'] else []) (inBase 16 bits)
  | _ =>
    (d.padNumber (if d.has '#' && bits != 0 then ['0', 'X'] else []) (inBase 16 bits)).map Char.toUpper

/-- The digits of a number that is not negative, by the kind of the directive in lower case. -/
def digits (d : Directive) (kind : Char) (lead m : Nat) (q : Int) : Octets :=
  let (num, den) := Decimal.fractionOf m q
  match kind with
  | 'e' => Decimal.scientificText (d.precision.getD 6) (d.has '#') num den
  | 'g' => Decimal.generalText (d.precision.getD 6) (d.has '#') num den
  | 'a' => Decimal.hexadecimalText lead d.precision (d.has '#') m q
  | _ => Decimal.fixedText (d.precision.getD 6) (d.has '#') num den

/-- The text of a floating-point number; `lead` are the binary digits of the first hexadecimal one. -/
def decimal (d : Directive) (lead : Nat) (minus : Bool) (x : Decimal.Exact) : Octets :=
  let kind := d.kind.toLower
  let t :=
    match x with
    | .nan => d.pad (d.sign minus ++ "nan".toList)
    | .infinite negative => d.pad (d.sign negative ++ "inf".toList)
    | .finite negative m q =>
      let body := d.digits kind lead m q
      if kind = 'a' then d.padZeros (d.sign negative ++ body.take 2) (body.drop 2)
      else d.padZeros (d.sign negative) body
  if d.kind = kind then t else t.map Char.toUpper

end Directive

/-! ## Arguments -/

/-- What is wrong with an argument. -/
inductive ArgumentFault where
  | notNumeric
  | trailing
  | range
deriving DecidableEq

/-- The fault in words. -/
def ArgumentFault.text (dialect : Dialect) : ArgumentFault → String
  | .notNumeric =>
    match dialect with
    | .shell => "expected numeric value"
    | .program => "expected a numeric value"
  | .trailing =>
    match dialect with
    | .shell => "not completely converted"
    | .program => "value not completely converted"
  | .range => "Numerical result out of range"

/-- The message about an argument. -/
def ArgumentFault.message (dialect : Dialect) (arg : Octets) (f : ArgumentFault) : Octets :=
  let shown := match dialect with | .shell => arg | .program => '\'' :: arg ++ ['\'']
  shown ++ ": ".toList ++ (f.text dialect).toList

/-- The code of a character after a quote. -/
def quotedCode? : Octets → Option Nat
  | '\'' :: c :: _ => some c.toNat
  | '"' :: c :: _ => some c.toNat
  | _ => none

/-- The whole number that an argument stands for, and what is wrong with it.  Numbers without a sign
    go up to twice as far. -/
def argument (signed : Bool) (t : Octets) : Int × Option ArgumentFault :=
  match quotedCode? t with
  | some n => (n, none)
  | none =>
    let r := Text.trimStart t
    let (negative, digits) : Bool × Octets :=
      match r with
      | '-' :: r => (true, r)
      | '+' :: r => (false, r)
      | r => (false, r)
    let (n, length) := Arithmetic.readNumber digits
    let value : Int := if negative then -n else n
    let fault : Option ArgumentFault := if length < digits.length then some .trailing else none
    if t.isEmpty then (0, none)
    else if length = 0 then (0, some .notNumeric)
    else if signed && value ≥ Nat.pow 2 63 then (Nat.pow 2 63 - 1, fault.or (some .range))
    else if signed && value < -(Nat.pow 2 63 : Int) then (-(Nat.pow 2 63 : Int), fault.or (some .range))
    else if !signed && n ≥ Nat.pow 2 64 then (-1, fault.or (some .range))
    else (value, fault)

/-- The floating-point number that an argument stands for, whether it has a minus sign, and what is
    wrong with it. -/
def decimalArgument (layout : Decimal.Layout) (t : Octets) :
    Decimal.Exact × Bool × Option ArgumentFault :=
  match quotedCode? t with
  | some n => (.finite false n 0, false, none)
  | none =>
    match Decimal.readNumeral? t with
    | none => (.finite false 0 0, false, if t.isEmpty then none else some .notNumeric)
    | some (numeral, length) =>
      let x := layout.round numeral
      let range : Bool :=
        match numeral, x with
        | .ratio _ _ _, .infinite _ => true
        | .ratio _ num _, .finite _ m _ => num != 0 && m == 0
        | _, _ => false
      let minus := match numeral with | .nan negative => negative | _ => false
      (x, minus,
        if length < t.length then some .trailing else if range then some .range else none)

/-- An argument between quotes if it needs them, as a shell would read it. -/
def shellQuoted (t : Octets) : Octets :=
  if !t.isEmpty && t.all fun c => c.isAlphanum || "_-./,:+@%=".toList.contains c then t
  else if !t.contains '\'' then '\'' :: t ++ ['\'']
  else if !t.any fun c => "\"\\$!\x60".toList.contains c then '"' :: t ++ ['"']
  else '\'' :: t.flatMap (fun c => if c = '\'' then "'\\''".toList else [c]) ++ ['\'']

/-- What a directive writes for an argument. -/
def convert (dialect : Dialect) (d : Directive) (arg : Octets) (p : Printed) : Printed :=
  let put (t : Octets) (p : Printed) : Printed := { p with pieces := t :: p.pieces }
  let blame (fault : Option ArgumentFault) (p : Printed) : Printed :=
    match fault with
    | none => p
    | some f => { p with faults := p.faults ++ [f.message dialect arg], status := 1 }
  match d.kind with
  | 's' => put (d.pad (match d.precision with | some n => arg.take n | none => arg)) p
  | 'c' => put (d.pad [arg.headD '\x00']) p
  | 'b' =>
    let (t, ended) := unescape arg
    let t := match d.precision with | some n => t.take n | none => t
    { put (d.pad t) p with ended := ended }
  | 'q' => put (d.pad (shellQuoted arg)) p
  | k =>
    if "diouxX".toList.contains k then
      let (n, fault) := argument (k == 'd' || k == 'i') arg
      blame fault (put (d.whole n) p)
    else
      match dialect with
      | .shell =>
        let (x, minus, fault) := decimalArgument .double arg
        blame fault (put (d.decimal 1 minus x) p)
      | .program =>
        let (x, minus, fault) := decimalArgument .extended arg
        blame fault (put (d.decimal 4 minus x) p)

/-- The next argument, empty if there is none. -/
def shift (args : List Octets) : Octets × List Octets := (args.headD [], args.drop 1)

/-- A number of a directive: digits, or a star for the next argument. -/
def readCount (t : Octets) (args : List Octets) : Option Int × Octets × List Octets :=
  match t with
  | '*' :: r =>
    let (a, args) := shift args
    (some (argument true a).1, r, args)
  | _ =>
    let digits := t.takeWhile Char.isDigit
    (if digits.isEmpty then none else some (Text.digitsValue digits), t.drop digits.length, args)

/-- The directive after a percent sign, what follows it, and the arguments left.  A negative width
    asks for the left margin, a negative precision for none. -/
def readDirective (t : Octets) (args : List Octets) :
    Option Char × Directive × Octets × List Octets :=
  let flags := t.takeWhile fun c => "-+ #0".toList.contains c
  let (width, t, args) := readCount (t.drop flags.length) args
  let (precision, t, args) : Option Int × Octets × List Octets :=
    match t with
    | '.' :: r =>
      let (n, r, args) := readCount r args
      (some (n.getD 0), r, args)
    | _ => (none, t, args)
  let width := width.getD 0
  (t.head?,
    { flags := if width < 0 then '-' :: flags else flags
      width := width.natAbs
      precision := precision.bind fun n => if n < 0 then none else some n.toNat
      kind := t.headD ' ' },
    t.drop 1, args)

/-- The letters of the directives that there are. -/
def kinds : Dialect → List Char
  | .shell => "sdiouxXcbeEfFgGaA".toList
  | .program => "sdiouxXcbeEfFgGaAq".toList

/-- The character that two hexadecimal digits after the letter `x` stand for, which only the program
    knows. -/
def hexEscape? (dialect : Dialect) (t : Octets) : Option (Char × Nat) :=
  match dialect, t with
  | .program, 'x' :: r =>
    let digits := (r.take 2).takeWhile fun c => (Decimal.hexDigit? c).isSome
    if digits.isEmpty then none
    else
      some (Char.ofNat (digits.foldl (fun n c => 16 * n + (Decimal.hexDigit? c).getD 0) 0),
        digits.length + 1)
  | .program, '"' :: _ => some ('"', 1)
  | _, _ => none

/-- One pass over a format; `fuel` bounds its length. -/
def pass (dialect : Dialect) : (fuel : Nat) → Octets → List Octets → Printed → List Octets × Printed
  | 0, _, args, p => (args, p)
  | _, [], args, p => (args, p)
  | fuel + 1, c :: t, args, p =>
    let put (s : Octets) : Printed := { p with pieces := s :: p.pieces }
    if c = '\\' then
      if dialect = .program ∧ t.head? = some 'c' then ([], { p with ended := true })
      else
        match (hexEscape? dialect t).or (escape? t) with
        | some (e, n) => pass dialect fuel (t.drop n) args (put [e])
        | none => pass dialect fuel t args (put [c])
    else if c ≠ '%' then
      let run := t.takeWhile fun c => c != '\\' && c != '%'
      pass dialect fuel (t.drop run.length) args (put (c :: run))
    else
      match t with
      | '%' :: r => pass dialect fuel r args (put ['%'])
      | _ =>
        let stop (m : Octets) : List Octets × Printed :=
          let status := match dialect with | .shell => 2 | .program => 1
          ([], { p with faults := p.faults ++ [m], status := status, ended := true })
        let (kind, d, rest, after) := readDirective t args
        let text := '%' :: t.take (t.length - rest.length)
        match kind with
        | none =>
          stop (match dialect with
            | .shell => "missing format character".toList
            | .program => text ++ ": invalid conversion specification".toList)
        | some k =>
          if (kinds dialect).contains k then
            let (arg, after) := shift after
            let p := convert dialect d arg p
            if p.ended then ([], p) else pass dialect fuel rest after p
          else
            stop (text ++ (match dialect with
              | .shell => ": invalid directive"
              | .program => ": invalid conversion specification").toList)

/-- Passes over a format until no argument is left; a pass that takes none is the last.  `fuel`
    bounds their number. -/
def passes (dialect : Dialect) : (fuel : Nat) → Octets → List Octets → Printed → Printed
  | 0, _, _, p => p
  | fuel + 1, format, args, p =>
    let (left, p) := pass dialect (format.length + 1) format args p
    if p.ended || left.isEmpty || left.length = args.length then p
    else passes dialect fuel format left p

/-- What `printf` makes of a format and arguments. -/
def printf (dialect : Dialect) (format : Octets) (args : List Octets) : Printed :=
  passes dialect (args.length + 1) format args {}

/-- The output. -/
def Printed.output (p : Printed) : Octets := p.pieces.reverse.flatten

end Retouch.Shell.Format
