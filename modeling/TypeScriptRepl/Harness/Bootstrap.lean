/-!
The lines of a block that are the same in every harness: they read the exports of the module back,
and start a session with them.
-/
namespace TypeScriptRepl.Harness

/-- The first line of the block. -/
def beginMarker : String := "/** BEGIN TS_REPL */"

/-- The last line of the block. -/
def endMarker : String := "/** END TS_REPL */"

namespace Bootstrap

/-- Reading the exports of the module back, and the context of the session. -/
def helpers : List String := [
  "function __ts_repl__listAvailableSymbols(): void \x7b",
  "\tconsole.log('available top-level symbols:');",
  "\tconsole.log(__ts_repl__allSymbols.join('\\n'));",
  "\x7d",
  "",
  "function __ts_repl__loadModuleSymbols(): Record<string, unknown> \x7b",
  "\tconst moduleExports = exports as Record<string, unknown>;",
  "\tconst moduleSymbols: Record<string, unknown> = \x7b\x7d;",
  "\tfor (const [name, value] of Object.entries(moduleExports)) \x7b",
  "\t\tif (!name.startsWith('__ts_repl__')) \x7b",
  "\t\t\tmoduleSymbols[name] = value;",
  "\t\t\x7d",
  "\t\x7d",
  "\tfor (const name of __ts_repl__allSymbols) \x7b",
  "\t\tconst hidden = '__ts_repl__' + name;",
  "\t\tif (hidden in moduleExports) \x7b",
  "\t\t\tmoduleSymbols[name] = moduleExports[hidden];",
  "\t\t\x7d",
  "\t\x7d",
  "\tconst missing = __ts_repl__allSymbols.filter((name) => !(name in moduleSymbols));",
  "\tif (missing.length > 0) \x7b",
  "\t\tconsole.error(`could not load symbols: $\x7bmissing.join(', ')\x7d`);",
  "\t\x7d",
  "\treturn moduleSymbols;",
  "\x7d",
  "",
  "function __ts_repl__createContext(moduleSymbols: Record<string, unknown>): __ts_repl__vm.Context \x7b",
  "\tconst context = __ts_repl__vm.createContext(\x7b\x7d);",
  "\tconst builtins = new Set(__ts_repl__vm.runInContext('Object.getOwnPropertyNames(globalThis)', context) as string[]);",
  "\tconst ambient = globalThis as unknown as Record<string, unknown>;",
  "\tfor (const name of Object.getOwnPropertyNames(globalThis)) \x7b",
  "\t\t// the context's own console writes nowhere",
  "\t\tif (builtins.has(name) && name !== 'console') \x7b",
  "\t\t\tcontinue;",
  "\t\t\x7d",
  "\t\ttry \x7b",
  "\t\t\tcontext[name] = ambient[name];",
  "\t\t\x7d catch \x7b",
  "\t\t\tcontinue;",
  "\t\t\x7d",
  "\t\x7d",
  "\tcontext.require = require;",
  "\tObject.assign(context, moduleSymbols);",
  "\tif (!('listSymbols' in moduleSymbols)) \x7b",
  "\t\tcontext.listSymbols = __ts_repl__listAvailableSymbols;",
  "\t\x7d",
  "\treturn context;",
  "\x7d",
  "",
  "function __ts_repl__isRecoverable(error: unknown): boolean \x7b",
  "\tif (typeof error !== 'object' || error === null) \x7b",
  "\t\treturn false;",
  "\t\x7d",
  "\tconst \x7b name, message \x7d = error as \x7b name?: unknown; message?: unknown \x7d;",
  "\treturn name === 'SyntaxError'",
  "\t\t&& typeof message === 'string'",
  "\t\t&& /^(Unexpected end of input|Unterminated template literal)/.test(message);",
  "\x7d",
  ""]

/-- The beginning of the session, up to the value of the prompt. -/
def serverHead : List String := [
  "",
  "\t// https://nodejs.org/api/repl.html",
  "\tconst server = __ts_repl__repl.start(\x7b"]

/-- The rest of the session, from the end of the value of the prompt on. -/
def serverTail : List String := [
  ",",
  "\t\tuseGlobal: false,",
  "\t\tpreview: true,",
  "\t\teval: (cmd: string, _context: __ts_repl__vm.Context, _filename: string, callback: (err: Error | null, result?: unknown) => void): void => \x7b",
  "\t\t\ttry \x7b",
  "\t\t\t\tcallback(null, __ts_repl__vm.runInContext(cmd, context));",
  "\t\t\t\x7d catch (e) \x7b",
  "\t\t\t\tif (__ts_repl__isRecoverable(e)) \x7b",
  "\t\t\t\t\tcallback(new __ts_repl__repl.Recoverable(e as Error));",
  "\t\t\t\t\x7d else \x7b",
  "\t\t\t\t\tcallback(e as Error);",
  "\t\t\t\t\x7d",
  "\t\t\t\x7d",
  "\t\t\x7d,",
  "\t\x7d);",
  "",
  "\t// completion reads the server's own context",
  "\tObject.assign(server.context, moduleSymbols);",
  "\tserver.context.listSymbols = context.listSymbols;",
  "",
  "\tserver.defineCommand('symbols', \x7b",
  "\t\thelp: 'List the top-level symbols of the loaded module',",
  "\t\taction(): void \x7b",
  "\t\t\t__ts_repl__listAvailableSymbols();",
  "\t\t\tthis.displayPrompt();",
  "\t\t\x7d,",
  "\t\x7d);"]

/-- The command of the session that runs it again. -/
def reloadLines : List String := [
  "",
  "\tserver.defineCommand('reload', \x7b",
  "\t\thelp: 'Restart the session with a freshly compiled module',",
  "\t\taction(): void \x7b",
  "\t\t\treloading = true;",
  "\t\t\tthis.close();",
  "\t\t\x7d,",
  "\t\x7d);",
  "",
  "\tserver.on('exit', () => \x7b",
  "\t\tif (!reloading) \x7b",
  "\t\t\treturn;",
  "\t\t\x7d",
  "\t\tconst child = __ts_repl__childProcess.spawn(__ts_repl__reloadArgv[0], __ts_repl__reloadArgv.slice(1), \x7b",
  "\t\t\tstdio: 'inherit',",
  "\t\t\tenv: process.env,",
  "\t\t\x7d);",
  "\t\tchild.on('exit', (code: number | null) => process.exit(code ?? 0));",
  "\t\x7d);"]

/-- History, and the start of the session. -/
def sessionTail : List String := [
  "",
  "\tserver.setupHistory(historyFile, (err: Error | null) => \x7b",
  "\t\tif (err) \x7b",
  "\t\t\tconsole.error(`Error setting up REPL history: $\x7berr\x7d`);",
  "\t\t\x7d else \x7b",
  "\t\t\tconsole.log(`history: $\x7bhistoryFile\x7d`);",
  "\t\t\x7d",
  "\t\t__ts_repl__listAvailableSymbols();",
  "\t\tserver.displayPrompt();",
  "\t\x7d);",
  "\x7d",
  "",
  "const __ts_repl__moduleSymbols = __ts_repl__loadModuleSymbols();",
  "__ts_repl__startSession(__ts_repl__createContext(__ts_repl__moduleSymbols), __ts_repl__moduleSymbols);",
  ""]

/-- The modules that the block uses; one more if the session can be run again. -/
def imports (reload : Bool) : List String :=
  ["import * as __ts_repl__repl from 'repl';",
    "import * as __ts_repl__vm from 'vm';",
    "import * as __ts_repl__path from 'path';",
    "import * as __ts_repl__os from 'os';"] ++
  if reload then ["import * as __ts_repl__childProcess from 'child_process';"] else []

/-- The line that opens the function which starts the session. -/
def sessionHead : String :=
  "function __ts_repl__startSession(context: __ts_repl__vm.Context, " ++
    "moduleSymbols: Record<string, unknown>): void \x7b"

end Bootstrap
end TypeScriptRepl.Harness
