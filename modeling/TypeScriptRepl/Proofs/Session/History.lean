import Mathlib.Data.List.TakeWhile
import TypeScriptRepl.Proofs.Path.Normal
import TypeScriptRepl.Proofs.Text.Utf8
import TypeScriptRepl.Session.Run

/-! The file of the history, as the program names it and as a session opens it. -/
namespace TypeScriptRepl

open Text

namespace Text

theorem isBlank_of_trim {cs : List Char} (h : trim cs = []) : ∀ c ∈ cs, isBlank c = true := by
  cases hd : cs.dropWhile isBlank with
  | nil => exact List.dropWhile_eq_nil_iff.1 hd
  | cons x xs =>
    have hall : (cs.dropWhile isBlank).reverse.dropWhile isBlank = [] := List.reverse_eq_nil_iff.1 h
    have hx : isBlank x = true := by
      apply List.dropWhile_eq_nil_iff.1 hall
      rw [hd, List.mem_reverse]
      exact List.mem_cons_self
    have hn := List.head?_dropWhile_not isBlank cs
    rw [hd] at hn
    simp [hx] at hn

end Text

namespace Path

theorem isAbsolute_encode {c : Char} {cs : List Char} (h : isAbsolute ⟨Utf8.encode (c :: cs)⟩ = true) :
    c = '/' := by
  rw [isAbsolute, decide_eq_true_eq] at h
  obtain ⟨rest, hr⟩ : ∃ rest, Utf8.encode (c :: cs) = slash :: rest := by
    cases hb : Utf8.encode (c :: cs) with
    | nil => rw [hb] at h; cases h
    | cons b rest =>
      rw [hb] at h
      exact ⟨rest, by rw [Option.some.inj h]⟩
  have hp := Utf8.pieces_encode (c :: cs)
  rw [hr, Utf8.pieces_one (by decide), List.map_cons] at hp
  exact (Option.some.inj (List.cons.inj hp).1).symm

end Path

namespace Session

theorem Variables.value?_append (v w : Variables) (name : String) :
    Variables.value? (v ++ w) name = (w.value? name).or (v.value? name) := by
  unfold value?
  rw [List.reverse_append, List.find?_append]
  cases w.reverse.find? (·.1 = name) <;> rfl

namespace History

/-- How a session joins parts to a path: with a slash between them, and made normal. -/
def joined (parts : List (List UInt8)) : Path :=
  Path.normalize ⟨[Path.slash].intercalate (parts.filter (! ·.isEmpty))⟩

/-- The file that a session opens for its history, which it works out by itself: what its variable
names, unless that is empty, or else the file in the home directory. -/
def opened (o : Harness.Options) (home : Path) (environment : Variables) : Path :=
  match environment.value? o.historyVariable with
  | none | some [] => joined [home.bytes, Utf8.encode o.historyFileName.toList]
  | some bytes => ⟨bytes⟩

/-- Whether a variable is set to a text that is blank, but not empty. -/
def IsBlank (value : Option String) : Prop := ∃ t, value = some t ∧ t ≠ "" ∧ trim t.toList = []

variable {home : Path}

/-- A user's own file is an absolute path. -/
theorem resolve_of_not_blank (hh : home.isAbsolute = true) {t : String} (ht : trim t.toList ≠ []) :
    ∃ p, resolve (some home) (some t) = some p ∧ p.isAbsolute = true := by
  unfold resolve
  rw [Option.getD_some]
  split
  case h_1 heq => exact absurd heq ht
  case h_2 => exact ⟨home, rfl, hh⟩
  case h_3 rest _ => exact ⟨_, rfl, Path.isAbsolute_join hh _⟩
  case h_4 =>
    by_cases hp : Path.isAbsolute ⟨Utf8.encode (trim t.toList)⟩ = true
    · exact ⟨_, if_pos hp, hp⟩
    · exact ⟨_, if_neg hp, Path.isAbsolute_join hh _⟩

theorem resolve_of_blank {value : Option String} (h : trim (value.getD "").toList = []) :
    resolve (some home) value =
      some (home.join (.ofString Harness.Options.standard.historyFileName)) := by
  unfold resolve
  rw [h]
  rfl

theorem exists_cons_of_isAbsolute {p : Path} (h : p.isAbsolute = true) :
    ∃ bytes, p.bytes = Path.slash :: bytes := by
  rw [Path.isAbsolute, decide_eq_true_eq] at h
  cases hb : p.bytes with
  | nil => rw [hb] at h; cases h
  | cons b bytes =>
    rw [hb] at h
    exact ⟨bytes, by rw [Option.some.inj h]⟩

/-- The program and a session put a name into the home directory in two ways, which are one but for a
slash at the end of the home directory. -/
theorem normalize_joined (hh : home.isAbsolute = true) {name : List UInt8} (hn : name ≠ [])
    (hr : Path.isAbsolute ⟨name⟩ = false) :
    (joined [home.bytes, name]).normalize = (home.join ⟨name⟩).normalize := by
  obtain ⟨bytes, hb⟩ := exists_cons_of_isAbsolute hh
  have hj : joined [home.bytes, name] = Path.normalize ⟨home.bytes ++ Path.slash :: name⟩ := by
    have hf : [home.bytes, name].filter (! ·.isEmpty) = [home.bytes, name] := by
      simp [hb, hn]
    rw [joined, hf]
    simp [List.intercalate]
  rw [hj, Path.normalize_normalize]
  unfold Path.join
  rw [hr, if_neg Bool.false_ne_true]
  by_cases hs : home.bytes.getLast? = some Path.slash
  · obtain ⟨before, hbefore⟩ := List.getLast?_eq_some_iff.1 hs
    rw [if_pos (by simp [hs]), hbefore, List.append_assoc, List.append_assoc]
    exact Path.normalize_append_slash before name
  · have hne : home.isEmpty = false := by rw [Path.isEmpty, hb]; rfl
    rw [if_neg (by simp [hs, hne])]

variable {o : Harness.Options} {environment : Variables}

/-- A session whose variable is unset or empty opens the file in the home directory. -/
theorem normalize_opened_of_empty (hh : home.isAbsolute = true)
    (ho : o.historyFileName = Harness.Options.standard.historyFileName)
    (he : (environment.value? o.historyVariable).getD [] = []) :
    (opened o home environment).normalize =
      (home.join (.ofString Harness.Options.standard.historyFileName)).normalize := by
  have ho' : opened o home environment =
      joined [home.bytes, Utf8.encode Harness.Options.standard.historyFileName.toList] := by
    unfold opened
    rw [ho]
    cases hv : environment.value? o.historyVariable with
    | none => rfl
    | some bytes =>
      rw [hv, Option.getD_some] at he
      rw [he]
  rw [ho', normalize_joined hh (by decide) (by decide)]
  rfl

theorem opened_of_isAbsolute {p : Path} (hp : p.isAbsolute = true)
    (he : environment.value? o.historyVariable = some p.bytes) : opened o home environment = p := by
  obtain ⟨bytes, hb⟩ := exists_cons_of_isAbsolute hp
  have hs : p = ⟨Path.slash :: bytes⟩ := congrArg Path.mk hb
  unfold opened
  rw [he, hs]

/-- A session whose variable is set to blanks opens a path that starts from where it runs. -/
theorem isAbsolute_opened_of_isBlank {t : String} (hne : t ≠ "") (ht : trim t.toList = [])
    (he : environment.value? o.historyVariable = some (Utf8.encode t.toList)) :
    (opened o home environment).isAbsolute = false := by
  have hl : t.toList ≠ [] := fun h => hne (String.toList_eq_nil_iff.1 h)
  obtain ⟨c, cs, hc⟩ := List.exists_cons_of_ne_nil hl
  have hb : isBlank c = true := isBlank_of_trim ht c (by rw [hc]; exact List.mem_cons_self)
  have hr : Path.isAbsolute ⟨Utf8.encode t.toList⟩ = false := by
    rw [Bool.eq_false_iff, hc]
    intro ha
    rw [Path.isAbsolute_encode ha] at hb
    exact absurd hb (by decide)
  have hn : Utf8.encode t.toList ≠ [] := by
    intro h
    have hd := Utf8.decode?_encode t.toList
    rw [h] at hd
    exact hl (Option.some.inj hd).symm
  obtain ⟨b, bs, hbs⟩ := List.exists_cons_of_ne_nil hn
  unfold opened
  rw [he, hbs]
  rwa [hbs] at hr

/-- The program and a session agree on a value that is not blank. -/
theorem resolve_eq_opened_of_not_blank (hh : home.isAbsolute = true) {t : String}
    (ht : trim t.toList ≠ [])
    (he : environment.value? o.historyVariable =
      (override? (some home) (some t)).map (·.bytes)) :
    resolve (some home) (some t) = some (opened o home environment) := by
  obtain ⟨p, hp, hpa⟩ := resolve_of_not_blank hh ht
  have hn : override? (some home) (some t) = some p := by
    simp [override?, ht, hp]
  rw [hn, Option.map_some] at he
  rw [hp, opened_of_isAbsolute hpa he]

/-- They do not agree on blanks: one path is absolute, the other is not. -/
theorem resolve_ne_opened_of_isBlank (hh : home.isAbsolute = true) {t : String} (hne : t ≠ "")
    (ht : trim t.toList = [])
    (he : environment.value? o.historyVariable = some (Utf8.encode t.toList)) :
    (resolve (some home) (some t)).map Path.normalize ≠
      some (opened o home environment).normalize := by
  have hr : resolve (some home) (some t) = _ := resolve_of_blank ht
  rw [hr, Option.map_some]
  intro h
  have ha := congrArg Path.isAbsolute (Option.some.inj h)
  rw [Path.isAbsolute_normalize, Path.isAbsolute_normalize, Path.isAbsolute_join hh,
    isAbsolute_opened_of_isBlank hne ht he] at ha
  cases ha

end History

variable {s : Surroundings} {value : Option String}

theorem text?_of_value? {v : Variables} {name : String}
    (hv : v.value? name = value.map fun t => Utf8.encode t.toList) : v.text? name = value := by
  unfold Variables.text?
  rw [hv]
  cases value with
  | none => rfl
  | some t => simp [Utf8.decode?_encode]

/-- The variable of the history, as the command of a session sees it. -/
theorem value?_processFor (settings : Settings) (h : HarnessFile) :
    (processFor s settings h).environment.value? Harness.Options.standard.historyVariable =
      (s.history?.map (·.bytes)).or
        (s.environment.value? Harness.Options.standard.historyVariable) := by
  show Variables.value? (s.environment ++ _) _ = _
  rw [Variables.value?_append]
  unfold Launch.of
  cases s.history? <;> rfl

/-- A session opens the file that the program names for the history, up to normal form, if and only
if the variable of the history is not set to blanks: the program takes blanks for none, but leaves
them to the session. -/
theorem opened_eq_resolve_iff (words : List CommandLine.Word) (settings : Settings) (h : HarnessFile)
    (hh : s.home.isAbsolute = true)
    (hv : s.environment.value? Harness.Options.standard.historyVariable =
      value.map fun t => Utf8.encode t.toList) :
    (History.resolve (some s.home) value).map Path.normalize =
        some (History.opened (optionsFor s words settings) s.home
          (processFor s settings h).environment).normalize ↔
      ¬History.IsBlank value := by
  have hhistory : s.history? = History.override? (some s.home) value := by
    rw [Surroundings.history?, text?_of_value? hv]
  have hseen := value?_processFor (s := s) settings h
  rw [hhistory, hv] at hseen
  cases value with
  | none =>
    have hr : History.resolve (some s.home) none = _ := History.resolve_of_blank rfl
    have ho := History.normalize_opened_of_empty hh (o := optionsFor s words settings) rfl
      (congrArg (·.getD []) hseen)
    rw [hr, Option.map_some, ho]
    simp [History.IsBlank]
  | some t =>
    by_cases ht : trim t.toList = []
    · have hn : History.override? (some s.home) (some t) = none := by
        simp [History.override?, ht]
      rw [hn, Option.map_none, Option.none_or] at hseen
      by_cases he : t = ""
      · subst he
        have hr : History.resolve (some s.home) (some "") = _ := History.resolve_of_blank ht
        have ho := History.normalize_opened_of_empty hh (o := optionsFor s words settings) rfl
          (congrArg (·.getD []) hseen)
        rw [hr, Option.map_some, ho]
        simp [History.IsBlank]
      · have hne := History.resolve_ne_opened_of_isBlank hh (o := optionsFor s words settings) he ht
          hseen
        exact iff_of_false hne (not_not_intro ⟨t, rfl, he, ht⟩)
    · have hover : ((History.override? (some s.home) (some t)).map (·.bytes)).isSome = true := by
        obtain ⟨p, hp, -⟩ := History.resolve_of_not_blank hh ht
        simp [History.override?, ht, hp]
      rw [Option.or_of_isSome hover] at hseen
      have heq := History.resolve_eq_opened_of_not_blank hh (o := optionsFor s words settings) ht hseen
      rw [heq, Option.map_some]
      refine iff_of_true rfl ?_
      rintro ⟨t', htt, -, hb⟩
      exact ht (Option.some.inj htt ▸ hb)

def Surroundings.ofHistory (text : String) : Surroundings where
  directory := []
  executable := .ofString "/bin/ts-repl"
  environment := [("HOME", utf8 "/u"), (Harness.Options.standard.historyVariable, utf8 text)]
  userHome := .ofString "/u"
  millis := 0
  disk := .sound
  start := fun _ fs => .ok ⟨.exited 0, [], [], fs⟩

theorem opened_eq_resolve_tilde :
    let s := Surroundings.ofHistory " ~/h "
    let environment := (processFor s .standard ⟨.ofString "/h.ts", false⟩).environment
    (History.resolve (some s.home) (some " ~/h ")).map Path.normalize =
      some (History.opened (optionsFor s [] .standard) s.home environment).normalize :=
  (opened_eq_resolve_iff [] .standard ⟨.ofString "/h.ts", false⟩ (by decide) (by decide)).2
    (by
      rintro ⟨t, ht, -, hb⟩
      cases ht
      exact absurd hb (by decide))

/-- The program names `/u/.ts_repl_history`, but the session opens a file whose name is blank. -/
theorem opened_ne_resolve_blanks :
    let s := Surroundings.ofHistory "   "
    let environment := (processFor s .standard ⟨.ofString "/h.ts", false⟩).environment
    (History.resolve (some s.home) (some "   ")).map Path.normalize ≠
      some (History.opened (optionsFor s [] .standard) s.home environment).normalize := by
  decide

end Session
end TypeScriptRepl
