/-! Scripts: the commands of a small part of the shell language. -/
namespace TypeScriptRepl.Shell

/-- A text without a meaning of its own to the shell. -/
abbrev Bytes := List UInt8

def bytesOf (s : String) : Bytes := s.toUTF8.toList

/-- Parts of a word. A parameter may have another word in its place if it is not set, or also if it is
empty. -/
inductive Piece where
  | text (bytes : Bytes) (quoted : Bool)
  | parameter (name : String) (quoted : Bool)
  | fallback (name : String) (ifEmpty : Bool) (word : List Piece) (quoted : Bool)
deriving Repr, Inhabited

abbrev Word := List Piece

inductive Redirection where
  | file (descriptor : Nat) (append : Bool) (target : Word)
  | same (descriptor as_ : Nat)
  | input (source : Word)
deriving Repr, Inhabited

inductive Command where
  | skip
  | simple (line : Nat) (assignments : List (String × Word)) (words : List Word)
      (redirections : List Redirection)
  | sequence (a b : Command)
  | andThen (a b : Command)
  | orElse (a b : Command)
  | negation (a : Command)
  | each (name : String) (words : Option (List Word)) (body : Command)
  | choice (condition yes no : Command)
  | while_ (condition body : Command)
deriving Repr, Inhabited

end TypeScriptRepl.Shell
