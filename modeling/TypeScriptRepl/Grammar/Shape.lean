import TypeScriptRepl.Grammar.Symbol

/-! Shapes of productions: how a node presents its children. -/
namespace TypeScriptRepl.Grammar

/-- Roles a child can play that matter to a reader of the tree. -/
inductive Field where
  | name | body | declaration | value | alias | source | left
deriving Repr, DecidableEq, Inhabited

/-- `aliases` lists the symbol each structural child is shown as, 0 for its own; `fields` gives the
roles of structural children by position. -/
structure Shape where
  aliases : List Symbol
  fields : List (Field × Nat)
deriving Repr, Inhabited

/-- The shapes that reductions refer to by number. -/
def shapes : Array Shape := #[
  ⟨[], []⟩, ⟨[1], []⟩, ⟨[], [(.declaration, 1)]⟩, ⟨[], [(.name, 0)]⟩, ⟨[375], []⟩,
  ⟨[], [(.body, 1)]⟩, ⟨[376], []⟩, ⟨[376], [(.name, 0)]⟩, ⟨[377], []⟩, ⟨[], [(.declaration, 2)]⟩,
  ⟨[1], [(.left, 0)]⟩, ⟨[378], [(.body, 2)]⟩, ⟨[1], [(.body, 2)]⟩, ⟨[], [(.source, 1)]⟩,
  ⟨[], [(.body, 1), (.name, 0)]⟩, ⟨[0, 379], []⟩, ⟨[0, 380], []⟩, ⟨[0, 1], []⟩, ⟨[], [(.body, 2)]⟩,
  ⟨[], [(.body, 2), (.value, 1)]⟩, ⟨[0, 378], []⟩, ⟨[0, 376], [(.body, 2), (.name, 1)]⟩,
  ⟨[], [(.value, 0)]⟩, ⟨[0, 376], [(.name, 1)]⟩, ⟨[376], [(.name, 0), (.value, 1)]⟩, ⟨[0, 376], []⟩,
  ⟨[0, 153], []⟩, ⟨[], [(.left, 0)]⟩, ⟨[0, 376, 381], [(.body, 2), (.name, 1)]⟩,
  ⟨[], [(.body, 2), (.name, 1)]⟩, ⟨[0, 0, 375], []⟩, ⟨[], [(.value, 2)]⟩, ⟨[], [(.name, 1)]⟩,
  ⟨[], [(.source, 2)]⟩, ⟨[233, 0, 375], []⟩, ⟨[380], [(.left, 0)]⟩, ⟨[], [(.body, 2), (.name, 0)]⟩,
  ⟨[], [(.value, 1)]⟩, ⟨[], [(.body, 3), (.name, 2)]⟩, ⟨[], [(.body, 3)]⟩,
  ⟨[0, 376], [(.body, 3), (.name, 1)]⟩, ⟨[0, 1], [(.body, 3)]⟩, ⟨[], [(.body, 3), (.name, 1)]⟩,
  ⟨[0, 1], [(.left, 1)]⟩, ⟨[], [(.left, 1)]⟩, ⟨[0, 376], [(.name, 1), (.value, 2)]⟩,
  ⟨[0, 0, 376], [(.name, 2)]⟩, ⟨[376], [(.name, 0), (.value, 2)]⟩,
  ⟨[0, 0, 376], [(.body, 3), (.name, 2)]⟩, ⟨[0, 376, 0, 381], [(.body, 3), (.name, 1)]⟩,
  ⟨[], [(.declaration, 3)]⟩, ⟨[], [(.alias, 2), (.name, 0)]⟩, ⟨[0, 376], [(.name, 1), (.value, 3)]⟩,
  ⟨[1], [(.alias, 2), (.name, 0)]⟩, ⟨[], [(.body, 3), (.name, 0)]⟩, ⟨[], [(.name, 2)]⟩,
  ⟨[0, 376], [(.body, 4), (.name, 1)]⟩, ⟨[], [(.body, 4)]⟩, ⟨[], [(.body, 4), (.name, 2)]⟩,
  ⟨[0, 0, 376], [(.body, 4), (.name, 2)]⟩, ⟨[0, 376, 0, 0, 381], [(.body, 4), (.name, 1)]⟩,
  ⟨[1], [(.name, 0)]⟩, ⟨[], [(.value, 3)]⟩, ⟨[0, 0, 0, 376], [(.body, 4), (.name, 3)]⟩,
  ⟨[], [(.alias, 3), (.name, 1)]⟩, ⟨[0, 376], [(.name, 1), (.value, 4)]⟩,
  ⟨[0, 1], [(.alias, 3), (.name, 1)]⟩, ⟨[], [(.body, 4), (.name, 1)]⟩, ⟨[], [(.body, 5)]⟩,
  ⟨[], [(.name, 3)]⟩, ⟨[], [(.body, 5), (.name, 3)]⟩, ⟨[0, 0, 376], [(.body, 5), (.name, 2)]⟩,
  ⟨[0, 0, 0, 376], [(.body, 5), (.name, 3)]⟩, ⟨[], [(.source, 4)]⟩, ⟨[], [(.body, 5), (.name, 2)]⟩,
  ⟨[], [(.body, 3), (.value, 1)]⟩, ⟨[], [(.left, 2)]⟩, ⟨[], [(.body, 6)]⟩, ⟨[], [(.name, 4)]⟩,
  ⟨[0, 0, 0, 375], []⟩, ⟨[0, 0, 0, 376], [(.body, 6), (.name, 3)]⟩, ⟨[], [(.body, 6), (.name, 3)]⟩,
  ⟨[], [(.body, 6), (.name, 4)]⟩, ⟨[], [(.body, 7)]⟩, ⟨[0, 1], [(.name, 1)]⟩,
  ⟨[376], [(.alias, 4), (.name, 0)]⟩, ⟨[], [(.name, 5)]⟩, ⟨[], [(.body, 7), (.name, 4)]⟩,
  ⟨[], [(.body, 7), (.name, 5)]⟩, ⟨[], [(.body, 8)]⟩, ⟨[0, 0, 1], [(.name, 2)]⟩, ⟨[], [(.name, 6)]⟩,
  ⟨[], [(.body, 8), (.name, 5)]⟩, ⟨[], [(.body, 8), (.name, 6)]⟩, ⟨[0, 0, 0, 1], [(.name, 3)]⟩,
  ⟨[], [(.body, 9), (.name, 6)]⟩]

/-- The symbol that child `i` is shown as, if it is not its own. -/
def Shape.aliasAt (s : Shape) (i : Nat) : Option Symbol :=
  match s.aliases[i]? with
  | none | some 0 => none
  | some a => some a

/-- The role of child `i`: the last one listed. -/
def Shape.fieldAt (s : Shape) (i : Nat) : Option Field :=
  (s.fields.reverse.find? (·.2 = i)).map (·.1)

/-- The shape of number `i`. -/
def shape (i : Nat) : Shape := shapes[i]?.getD default

end TypeScriptRepl.Grammar
