import TypeScriptRepl.Export.SymbolSet
import TypeScriptRepl.Harness.Bootstrap
import TypeScriptRepl.Harness.Options
import TypeScriptRepl.Json.Quoted

/-! The block that a harness adds to a module: fixed lines, and literals in fixed places. -/
namespace TypeScriptRepl.Harness

/-- The pieces of a block: whole lines, parts of a line, and literals. -/
inductive Piece where
  | lines (text : List String)
  | fixed (text : String)
  | literal (value : String)
  | literals (values : List String)
deriving Repr, DecidableEq, Inhabited

namespace Piece

/-- The literals of a list, with commas between them. `first` says whether none stands before. -/
def literalsText : List String → Bool → List Char
  | [], _ => []
  | v :: vs, first =>
    (if first then [] else [',']) ++ Json.Quoted.encode v.toList ++ literalsText vs false

def text : Piece → List Char
  | lines ls => ls.flatMap fun l => l.toList ++ ['\n']
  | fixed s => s.toList
  | literal v => Json.Quoted.encode v.toList
  | literals vs => '[' :: literalsText vs true ++ [']']

end Piece

/-- The pieces of the block. -/
def pieces (statements : List String) (symbols : SymbolSet) (o : Options) : List Piece :=
  let reload := o.reload?
  [.lines ["", beginMarker, "", "// Additional exports for non-exported top-level symbols"],
    .lines statements,
    .lines ["", "// REPL setup code"],
    .lines (Bootstrap.imports reload.isSome),
    .lines ["", "// Capture all top-level symbols"],
    .fixed "const __ts_repl__allSymbols: string[] = ", .literals symbols.names, .lines [";"]] ++
  (reload.toList.flatMap fun command =>
    [.fixed "const __ts_repl__reloadArgv: string[] = ", .literals command, .lines [";"]]) ++
  [.lines [""],
    .lines Bootstrap.helpers,
    .lines [Bootstrap.sessionHead],
    .fixed "\tconst historyFile = process.env[", .literal o.historyVariable,
    .fixed "] || __ts_repl__path.join(__ts_repl__os.homedir(), ", .literal o.historyFileName,
    .lines [");"],
    .lines (if reload.isSome then ["\tlet reloading = false;"] else []),
    .lines Bootstrap.serverHead,
    .fixed "\t\tprompt: ", .literal o.prompt,
    .lines Bootstrap.serverTail,
    .lines (if reload.isSome then Bootstrap.reloadLines else []),
    .lines Bootstrap.sessionTail,
    .lines [endMarker]]

/-- A line feed, unless the text ends with one. -/
def separator (source : List Char) : List Char :=
  if source.getLast? = some '\n' then [] else ['\n']

/-- The text of the block. -/
def block (statements : List String) (symbols : SymbolSet) (o : Options) : List Char :=
  (pieces statements symbols o).flatMap Piece.text

end TypeScriptRepl.Harness
