/-! Words that the tokenizer reads as identifiers first. -/
namespace TypeScriptRepl.Grammar

/-- Each keyword with its terminal. -/
def keywords : List (String × Nat) := [
  ("abstract", 137), ("accessor", 138), ("any", 131), ("as", 9), ("asserts", 149), ("async", 48),
  ("await", 28), ("boolean", 133), ("break", 34), ("case", 40), ("catch", 41), ("class", 47),
  ("const", 19), ("continue", 35), ("debugger", 36), ("declare", 125), ("default", 5),
  ("delete", 95), ("do", 32), ("else", 21), ("enum", 145), ("export", 3), ("extends", 141),
  ("false", 116), ("finally", 42), ("for", 24), ("from", 15), ("function", 49), ("get", 122),
  ("global", 143), ("if", 22), ("implements", 142), ("import", 7), ("in", 29), ("infer", 150),
  ("instanceof", 92), ("interface", 144), ("is", 151), ("keyof", 152), ("let", 18), ("meta", 112),
  ("module", 130), ("namespace", 10), ("never", 155), ("new", 52), ("null", 117), ("number", 132),
  ("object", 136), ("of", 30), ("override", 129), ("private", 127), ("protected", 128),
  ("public", 126), ("readonly", 121), ("require", 140), ("return", 37), ("satisfies", 139),
  ("set", 123), ("static", 120), ("string", 134), ("super", 114), ("switch", 23), ("symbol", 135),
  ("target", 111), ("this", 113), ("throw", 38), ("true", 115), ("try", 33), ("type", 6),
  ("typeof", 14), ("undefined", 118), ("unique", 153), ("unknown", 154), ("using", 53), ("var", 17),
  ("void", 94), ("while", 31), ("with", 16), ("yield", 43)]

end TypeScriptRepl.Grammar
