import TypeScriptRepl.Proofs.Path.Components
import TypeScriptRepl.Proofs.Session.History

/-! Which overrides of the file of the history stay below the home directory. -/
namespace TypeScriptRepl

open Text

namespace Path

def IsBelow (p base : Path) : Prop := base.components <+: p.components

instance (p base : Path) : Decidable (p.IsBelow base) :=
  inferInstanceAs (Decidable (base.components <+: p.components))

theorem isBelow_join (base : Path) {p : Path} (hp : p.isAbsolute = false) :
    (base.join p).IsBelow base := components_prefix_join base hp

theorem isAbsolute_encode_iff (cs : List Char) :
    isAbsolute ⟨Utf8.encode cs⟩ = true ↔ cs.head? = some '/' := by
  cases cs with
  | nil => decide
  | cons c cs =>
    constructor
    · intro h
      rw [isAbsolute_encode h]
      rfl
    · intro h
      obtain rfl : c = '/' := Option.some.inj h
      rfl

end Path

namespace Session.History

/-- The absolute path after a tilde and a slash, where an override has one. -/
def absoluteRest? : List Char → Option Path
  | '~' :: '/' :: '/' :: rest => some ⟨Utf8.encode ('/' :: rest)⟩
  | _ => none

theorem absoluteRest?_tilde {rest : List Char} :
    absoluteRest? ('~' :: '/' :: rest) =
      if rest.head? = some '/' then some ⟨Utf8.encode rest⟩ else none := by
  cases rest with
  | nil => rfl
  | cons c rest =>
    by_cases hc : c = '/'
    · subst hc
      rfl
    · rw [if_neg (by simpa using hc)]
      unfold absoluteRest?
      split
      · rename_i h
        cases h
        exact absurd rfl hc
      · rfl

theorem absoluteRest?_eq_none {cs : List Char} (h : ∀ rest, cs = '~' :: '/' :: rest → False) :
    absoluteRest? cs = none := by
  unfold absoluteRest?
  split
  · exact (h _ rfl).elim
  · rfl

variable {home : Option Path} {value : Option String}

theorem resolve_of_isAbsolute
    (ha : Path.isAbsolute ⟨Utf8.encode (trim (value.getD "").toList)⟩ = true) :
    resolve home value = some ⟨Utf8.encode (trim (value.getD "").toList)⟩ := by
  have hhead := (Path.isAbsolute_encode_iff _).1 ha
  unfold resolve
  split
  case h_1 heq | h_2 heq | h_3 heq =>
    rw [heq] at hhead
    exact absurd hhead (by simp)
  case h_4 => exact if_pos ha

/-- An override that is neither blank nor absolute names a path by the home directory. -/
theorem resolve_of_relative (ht : trim (value.getD "").toList ≠ [])
    (ha : Path.isAbsolute ⟨Utf8.encode (trim (value.getD "").toList)⟩ = false) :
    ∃ f : Path → Path, resolve home value = home.map f ∧ ∀ h,
      match absoluteRest? (trim (value.getD "").toList) with
      | some p => f h = p
      | none => (f h).IsBelow h := by
  unfold resolve
  split
  case h_1 heq => exact absurd heq ht
  case h_2 heq =>
    rw [heq]
    exact ⟨fun h => h, Option.map_id'.symm, fun h => List.prefix_refl _⟩
  case h_3 rest heq =>
    refine ⟨_, rfl, fun h => ?_⟩
    rw [heq, absoluteRest?_tilde]
    by_cases hr : rest.head? = some '/'
    · rw [if_pos hr]
      exact if_pos ((Path.isAbsolute_encode_iff rest).2 hr)
    · rw [if_neg hr]
      exact Path.isBelow_join h (Bool.eq_false_iff.2 (mt (Path.isAbsolute_encode_iff rest).1 hr))
  case h_4 hrest =>
    refine ⟨_, if_neg (Bool.eq_false_iff.1 ha), fun h => ?_⟩
    rw [absoluteRest?_eq_none hrest]
    exact Path.isBelow_join h ha

/-- Where the file of the history is. A blank override is none, an absolute one is the path itself,
and any other one leads to a path if and only if there is a home directory: to one below it, unless it
goes on with an absolute path after a tilde and a slash. -/
theorem resolve_isBelow_iff (home : Option Path) (value : Option String) :
    (trim (value.getD "").toList = [] →
      resolve home value = home.map (·.join (.ofString ".ts_repl_history"))) ∧
    (Path.isAbsolute ⟨Utf8.encode (trim (value.getD "").toList)⟩ = true →
      resolve home value = some ⟨Utf8.encode (trim (value.getD "").toList)⟩) ∧
    (trim (value.getD "").toList ≠ [] →
      Path.isAbsolute ⟨Utf8.encode (trim (value.getD "").toList)⟩ = false →
      (resolve home value = none ↔ home = none) ∧
      ∀ h p, home = some h → resolve home value = some p →
        (p.IsBelow h ↔ ∀ q ∈ absoluteRest? (trim (value.getD "").toList), q.IsBelow h)) := by
  refine ⟨fun ht => ?_, resolve_of_isAbsolute, fun ht ha => ?_⟩
  · unfold resolve
    rw [ht]
    rfl
  · obtain ⟨f, hf, hbelow⟩ := @resolve_of_relative home value ht ha
    rw [hf]
    refine ⟨Option.map_eq_none_iff, ?_⟩
    rintro h p rfl hp
    obtain rfl : f h = p := Option.some.inj hp
    have hp := hbelow h
    cases hrest : absoluteRest? (trim (value.getD "").toList) with
    | none =>
      rw [hrest] at hp
      exact iff_of_true hp (by simp)
    | some q =>
      rw [hrest] at hp
      obtain rfl : f h = q := hp
      simp

/-- A path below a home directory that is written with a slash at its end. -/
theorem resolve_isBelow_iff_tilde :
    let home := Path.ofString "/home/tester/"
    let override := trim " ~/logs/../ts.log ".toList
    override ≠ [] ∧ Path.isAbsolute ⟨Utf8.encode override⟩ = false ∧
      resolve (some home) (some " ~/logs/../ts.log ") =
        some (.ofString "/home/tester/logs/../ts.log") ∧
      ((Path.ofString "/home/tester/logs/../ts.log").IsBelow home ↔
        ∀ q ∈ absoluteRest? override, q.IsBelow home) := by
  intro home override
  have ht : override ≠ [] := by decide
  have ha : Path.isAbsolute ⟨Utf8.encode override⟩ = false := by decide
  have hr : resolve (some home) (some " ~/logs/../ts.log ") =
      some (.ofString "/home/tester/logs/../ts.log") := by decide
  exact ⟨ht, ha, hr, ((resolve_isBelow_iff (some home) (some " ~/logs/../ts.log ")).2.2 ht ha).2 _ _
    rfl hr⟩

/-- Two slashes after the tilde lead out of the home directory. -/
theorem not_isBelow_resolve_twoSlashes :
    let home := Path.ofString "/home/tester"
    resolve (some home) (some "~//etc/ts.log") = some (.ofString "/etc/ts.log") ∧
      ¬(Path.ofString "/etc/ts.log").IsBelow home := by
  decide

end Session.History
end TypeScriptRepl
