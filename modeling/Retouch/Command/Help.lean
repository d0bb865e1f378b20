/-
  The help of the program and of its commands.

  A help text says what a command is for, how it is used, and what its operands and options mean, in
  two columns.
-/
import Retouch.Command.Request
import Retouch.Text.Columns

namespace Retouch.Command

/-- Rows of two columns under a title. -/
def helpSection (title : String) (rows : List (Text × Text)) : Text :=
  let width := (rows.map (·.1.length)).foldl max 0
  "\n".toList ++ title.toList ++ ":\n".toList ++
    (rows.map fun (left, right) =>
      "  ".toList ++ left.padRight width ++ "  ".toList ++ right ++ ['\n']).flatten

/-- The name of a value in the help. -/
def Parameter.placeholder (p : Parameter) : Text := p.name.toList.map Char.toUpper

/-- An option as the help writes it. -/
def Parameter.shown (p : Parameter) : Text :=
  "    --".toList ++ p.name.toList ++
    (if p.kind.isSome then " <".toList ++ p.placeholder ++ ['>'] else [])

/-- What the help says of an option. -/
def Parameter.explained (p : Parameter) : Text :=
  p.about.toList ++
    (match p.initial with
      | some v => " [default: ".toList ++ v.toList ++ [']']
      | none => [])

/-- The row of an option. -/
def Parameter.row (p : Parameter) : Text × Text := (p.shown, p.explained)

/-- The row of the option for help. -/
def helpRow : Text × Text := ("-h, --help".toList, "Print help".toList)

/-- The row of the option for the version. -/
def versionRow : Text × Text := ("-V, --version".toList, "Print version".toList)

/-- The options of a command in the order of the help: the one that is known everywhere comes first,
    since no own option precedes it. -/
def Spec.shownParameters (s : Spec) : List Parameter :=
  s.parameters.filter (· == configOption) ++ s.parameters.filter (· != configOption)

/-- The first lines of a help text. -/
def helpHead (about usage : Text) : Text :=
  about ++ "\n\nUsage: ".toList ++ programName.toList ++ [' '] ++ usage ++ ['\n']

/-- The help of a command. -/
def Spec.help (s : Spec) : Text :=
  let operands := s.operands.map fun o => '<' :: o.name.toList ++ ['>']
  helpHead s.about.toList
      (List.intercalate [' '] (s.name.toList :: "[OPTIONS]".toList :: operands)) ++
    helpSection "Arguments" (operands.zip (s.operands.map (·.about.toList))) ++
    helpSection "Options" (s.shownParameters.map Parameter.row ++ [helpRow])

/-- The help of the program. -/
def programHelp : Text :=
  helpHead programAbout.toList "[OPTIONS] <COMMAND>".toList ++
    helpSection "Commands"
      ((specs.map fun s => (s.name.toList, s.about.toList)) ++
        [(helpName.toList, helpAbout.toList)]) ++
    helpSection "Options" (programSpec.parameters.map Parameter.row ++ [helpRow, versionRow])

/-- The help of the command that shows help. -/
def helpHelp : Text :=
  helpHead helpAbout.toList "help [COMMAND]...".toList ++
    helpSection "Arguments" [("[COMMAND]...".toList, "Print help for the subcommand(s)".toList)]

/-- The help on a topic. -/
def helpText (command : Option String) : Text :=
  match command with
  | none => programHelp
  | some name =>
    match specs.find? (·.name == name) with
    | some spec => spec.help
    | none => if name = helpName then helpHelp else programHelp

/-- The version of the program. -/
def versionText : Text := (programName ++ " " ++ programVersion ++ "\n").toList

end Retouch.Command
