import TypeScriptRepl.CommandLine.Basic

/-! How the parts of a command line are written, and what they mean. -/
namespace TypeScriptRepl.CommandLine

namespace Switch

/-- All switches, in the order in which the help lists them. -/
def all : List Switch :=
  [.transpileOnly, .loose, .keep, .noReload, .print, .tempDir, .help, .version]

def long : Switch → String
  | transpileOnly => "transpile-only"
  | loose => "loose"
  | keep => "keep"
  | noReload => "no-reload"
  | print => "print"
  | tempDir => "temp-dir"
  | help => "help"
  | version => "version"

def short? : Switch → Option Char
  | transpileOnly => some 'T'
  | help => some 'h'
  | version => some 'V'
  | _ => none

def meaning : Switch → String
  | transpileOnly => "Skip type checking (ts-node --transpile-only)"
  | loose => "Disable strict, noUnusedLocals and noUnusedParameters"
  | keep => "Keep the generated harness file after the session"
  | noReload => "Leave the .reload command out of the session"
  | print => "Print the generated harness instead of launching it"
  | tempDir => "Write the harness under the OS temp dir instead of next to the source"
  | help => "Print help"
  | version => "Print version"

end Switch

/-- The name of the program, where the command line does not tell. -/
def programName : String := "ts-repl"

def versionText : String := programName ++ " 0.3.0\n"

/-- The long name of the option with a value. -/
def configLong : String := "config"

/-- The long names of all options, in their order. -/
def longNames : List String :=
  ["transpile-only", "loose", "keep", "no-reload", "print", "temp-dir", configLong, "help", "version"]

namespace Argument

/-- The argument with a long name. -/
def ofLong? (name : String) : Option Argument :=
  if name = configLong then some .config else (Switch.all.find? (·.long = name)).map .switch

def text : Argument → String
  | switch s => "--" ++ s.long
  | config => "--" ++ configLong ++ " <PATH>"
  | file => "<FILE>"

end Argument

private def padRight (width : Nat) (s : String) : String :=
  s ++ String.ofList (List.replicate (width - s.length) ' ')

/-- The command line in general. -/
def usage (name : String) : String := "Usage: " ++ name ++ " [OPTIONS] <FILE>"

/-- The command line with the options in `used`, each of them once. -/
def usageOf (name : String) (used : List Argument) : String :=
  "Usage: " ++ name ++ String.join ((used.eraseDups.filter (· ≠ .file)).map (" " ++ ·.text)) ++ " <FILE>"

private def optionRow (short : Option Char) (text meaning : String) : String :=
  let lead := match short with
    | some c => "-" ++ String.singleton c ++ ", "
    | none => "    "
  "  " ++ padRight 22 (lead ++ text) ++ meaning ++ "\n"

private def switchRow (s : Switch) : String :=
  optionRow s.short? (Argument.switch s).text s.meaning

def help (name : String) : String :=
  "Open a TypeScript file in a REPL with every top-level binding in scope\n\n" ++
    usage name ++ "\n\nArguments:\n  <FILE>  TypeScript file to load\n\nOptions:\n" ++
    String.join ((Switch.all.take 6).map switchRow) ++
    optionRow none Argument.config.text
      "Use this config file instead of searching for ts-repl.toml" ++
    String.join ((Switch.all.drop 6).map switchRow)

end TypeScriptRepl.CommandLine
