/-
  Scripts of the shell: words, redirections and commands.

  A word is a list of parts that are expanded one after another; quoted parts are neither split into
  fields nor taken as patterns.  Commands are the simple ones, pipelines, lists and the compound
  commands of the language.
-/
import Retouch.Text.Octets

namespace Retouch.Shell

mutual

/-- A part of a word. -/
inductive Part where
  | text (chars : Octets) (quoted : Bool)
  /-- The value of a parameter, after a change. -/
  | value (name : Octets) (change : Change) (quoted : Bool)
  /-- The output of some commands. -/
  | output (commands : List Command) (quoted : Bool)
  /-- The value of an arithmetic expression. -/
  | number (expression : List Part) (quoted : Bool)

/-- What is done to the value of a parameter.  With `orEmpty`, an empty value counts as none. -/
inductive Change where
  | none
  | length
  | fallback (orEmpty : Bool) (word : List Part)
  | assign (orEmpty : Bool) (word : List Part)
  | require (orEmpty : Bool) (word : List Part)
  | replace (orEmpty : Bool) (word : List Part)
  | cutStart (longest : Bool) (pattern : List Part)
  | cutEnd (longest : Bool) (pattern : List Part)
  /-- Not a change that the language knows. -/
  | unknown

/-- What a descriptor of a command is connected to.  An output may add to a file, and may replace one
    that is there although that is forbidden in general. -/
inductive Redirection where
  | input (descriptor : Nat) (path : List Part)
  | output (descriptor : Nat) (append clobber : Bool) (path : List Part)
  | update (descriptor : Nat) (path : List Part)
  | copy (descriptor : Nat) (from_ : List Part)
  | here (descriptor : Nat) (content : List Part)

/-- A command.  Some know the line where they start. -/
inductive Command where
  | simple (line : Nat) (assignments : List (Octets × List Part)) (words : List (List Part))
      (redirections : List Redirection)
  | pipeline (commands : List Command)
  | negation (command : Command)
  | both (first second : Command)
  | either (first second : Command)
  | background (command : Command)
  | sequence (commands : List Command)
  | branch (clauses : List (Command × Command)) (otherwise : Option Command)
  | loop (whileTrue : Bool) (condition body : Command)
  | each (line : Nat) (name : Octets) (words : Option (List (List Part))) (body : Command)
  | choice (line : Nat) (word : List Part) (clauses : List (List (List Part) × Command))
  | group (line : Nat) (body : Command) (redirections : List Redirection)
  | subshell (line : Nat) (body : Command) (redirections : List Redirection)
  | define (name : Octets) (body : Command)

end

/-- A word. -/
abbrev Word := List Part

/-- The redirections of a command as a whole. -/
def Command.redirections : Command → List Redirection
  | .simple _ _ _ redirections => redirections
  | .group _ _ redirections => redirections
  | .subshell _ _ redirections => redirections
  | _ => []

/-- Which of the held descriptors are still held after a redirection. -/
def Redirection.stillHeld (held : List Nat) : Redirection → List Nat
  | .input d _ | .output d _ _ _ | .update d _ | .here d _ => held.filter (· ≠ d)
  | .copy d from_ =>
    match from_ with
    | [.text source _] =>
      if held.any fun n => (toString n).toList = source then d :: held else held.filter (· ≠ d)
    | _ => held

/-- A fault of the grammar: the line where it was met, and what is wrong. -/
structure SyntaxFault where
  line : Nat
  message : Octets
deriving Repr, DecidableEq

end Retouch.Shell
