import TypeScriptRepl.Toml.Trivia

/-! Dates and times of TOML. Only whether a text is one matters. -/
namespace TypeScriptRepl.Toml

open Reader

def outOfRange : String := "value is out of range"

/-- A number with a fixed count of digits, from `low` to `high`. -/
def field (digits low high : Nat) : Reader Nat :=
  (exactly digits isDigit).check fun ds =>
    let n := ds.foldl (fun n d => n * 10 + (d.toNat - 48)) 0
    if low ≤ n ∧ n ≤ high then .ok n else .error outOfRange

def daysIn (year month : Nat) : Nat :=
  if month = 2 then
    if year % 4 = 0 ∧ (year % 100 ≠ 0 ∨ year % 400 = 0) then 29 else 28
  else if month = 4 ∨ month = 6 ∨ month = 9 ∨ month = 11 then 30
  else 31

def date : Reader Unit := do
  let year ← field 4 0 9999
  word "-"
  commit do
    let month ← field 2 1 12
    word "-"
    let _ ← (field 2 1 31).check fun day =>
      if day ≤ daysIn year month then .ok day else .error outOfRange

def time : Reader Unit := do
  let _ ← field 2 0 23
  word ":"
  commit do
    let _ ← field 2 0 59
    word ":"
    let _ ← field 2 0 60
    let _ ← attempt (do word "."; takeWhile₁ isDigit)

def zone : Reader Unit := labelled "time offset" <|
  orElse (do let _ ← char fun c => c = 'Z' || c = 'z')
    (do
      let _ ← char fun c => c = '+' || c = '-'
      commit do
        let _ ← field 2 0 23
        word ":"
        let _ ← field 2 0 59)

def datetime : Reader Unit :=
  orElse
    (labelled "date-time" do
      date
      let _ ← attempt do
        let _ ← char fun c => c = 'T' || c = 't' || c = ' '
        time
        let _ ← attempt zone)
    (labelled "time" time)

end TypeScriptRepl.Toml
