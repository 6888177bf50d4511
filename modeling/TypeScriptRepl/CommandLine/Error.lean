import TypeScriptRepl.CommandLine.Usage

/-! Why a command line is not carried out. -/
namespace TypeScriptRepl.CommandLine

/-- What may help with an argument that is not known: another argument, or writing it after two
dashes. -/
inductive Tip where
  | none
  | similar (a : Argument)
  | afterDashes
deriving Repr, DecidableEq, Inhabited

/-- The command line asks for help or for the version, or it is wrong. `used` are the arguments that
the usage shows; if there are none, it shows the command line in general. -/
inductive Error where
  | help
  | version
  | missingFile (used : List Argument)
  | valueRequired (a : Argument)
  | repeated (a : Argument)
  | surplusValue (value : String) (s : Switch) (used : List Argument)
  | unknown (argument : String) (tip : Tip) (used : List Argument)
deriving Repr, DecidableEq, Inhabited

namespace Error

/-- Help and version are no failures. -/
def exitCode : Error → Nat
  | help | version => 0
  | _ => 2

private def tipText (argument : String) : Tip → String
  | .none => ""
  | .similar a =>
    let name := match a with
      | .config => "--" ++ configLong
      | a => a.text
    "\n\n  tip: a similar argument exists: '" ++ name ++ "'"
  | .afterDashes =>
    "\n\n  tip: to pass '" ++ argument ++ "' as a value, use '-- " ++ argument ++ "'"

private def usageFor (name : String) (used : List Argument) : String :=
  if used.isEmpty then usage name else usageOf name used

/-- What is written about the error. `name` is the name of the program. -/
def text (name : String) (e : Error) : String :=
  let failure (what : String) : String :=
    "error: " ++ what ++ "\n\nFor more information, try '--help'.\n"
  match e with
  | help => CommandLine.help name
  | version => versionText
  | missingFile used =>
    failure ("the following required arguments were not provided:\n  " ++ Argument.file.text ++
      "\n\n" ++ usageOf name used)
  | valueRequired a => failure ("a value is required for '" ++ a.text ++ "' but none was supplied")
  | repeated a =>
    failure ("the argument '" ++ a.text ++ "' cannot be used multiple times\n\n" ++ usage name)
  | surplusValue value s used =>
    failure ("unexpected value '" ++ value ++ "' for '" ++ (Argument.switch s).text ++
      "' found; no more were expected\n\n" ++ usageFor name used)
  | unknown argument tip used =>
    failure ("unexpected argument '" ++ argument ++ "' found" ++ tipText argument tip ++ "\n\n" ++
      usageFor name used)

end Error
end TypeScriptRepl.CommandLine
