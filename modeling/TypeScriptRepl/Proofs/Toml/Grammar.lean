import TypeScriptRepl.Proofs.Toml.Contents
import TypeScriptRepl.Proofs.Toml.Reader

/-! The texts of TOML 1.0: with what a text begins, what this stands for, and which text is left after it.
-/
namespace TypeScriptRepl.Toml.Spec
open Reader (Many)

/-! ### Blanks, line ends, comments -/

def IsBlank (c : Char) : Prop := c = ' ' ∨ c = '\t'

def IsPlain (c : Char) : Prop := c = '\t' ∨ (0x20 ≤ c.toNat ∧ c.toNat ≠ 0x7f)

def IsDigit (c : Char) : Prop := '0' ≤ c ∧ c ≤ '9'

def IsHexDigit (c : Char) : Prop := IsDigit c ∨ ('a' ≤ c ∧ c ≤ 'f') ∨ ('A' ≤ c ∧ c ≤ 'F')

def Blanks (cs rest : List Char) : Prop := ∃ w, cs = w ++ rest ∧ ∀ c ∈ w, IsBlank c

def Newline (cs rest : List Char) : Prop := cs = '\n' :: rest ∨ cs = '\r' :: '\n' :: rest

def Comment (cs rest : List Char) : Prop := ∃ w, cs = '#' :: w ++ rest ∧ ∀ c ∈ w, IsPlain c

/-- The end of a line, up to its line feed: blanks, and perhaps a comment. -/
def Trailing (cs rest : List Char) : Prop := ∃ mid, Blanks cs mid ∧ (mid = rest ∨ Comment mid rest)

inductive Space : List Char → List Char → Prop
  | done (cs) : Space cs cs
  | blank {c cs rest} (hc : IsBlank c) (h : Space cs rest) : Space (c :: cs) rest
  | newline {cs mid rest} (hn : Newline cs mid) (h : Space mid rest) : Space cs rest

/-- What may stand between the members of an array. -/
inductive Gap : List Char → List Char → Prop
  | done (cs) : Gap cs cs
  | blank {c cs rest} (hc : IsBlank c) (h : Gap cs rest) : Gap (c :: cs) rest
  | line {cs mid next rest} (hc : cs = mid ∨ Comment cs mid) (hn : Newline mid next)
    (h : Gap next rest) : Gap cs rest

/-! ### Strings -/

def digit (c : Char) : Nat :=
  if c ≤ '9' then c.toNat - '0'.toNat
  else if c ≤ 'F' then c.toNat - 'A'.toNat + 10
  else c.toNat - 'a'.toNat + 10

def number (base : Nat) (ds : List Char) : Nat := Nat.ofDigits base (ds.reverse.map digit)

inductive Letter : Char → Char → Prop
  | backspace : Letter 'b' '\x08'
  | tab : Letter 't' '\t'
  | lineFeed : Letter 'n' '\n'
  | formFeed : Letter 'f' '\x0c'
  | carriageReturn : Letter 'r' '\r'
  | quote : Letter '"' '"'
  | backslash : Letter '\\' '\\'

/-- An escape: a letter, or the number of a character in four or eight digits. -/
inductive Escape : List Char → Char → List Char → Prop
  | letter {l c rest} (h : Letter l c) : Escape ('\\' :: l :: rest) c rest
  | number {lead count ds c rest} (hlead : (lead, count) ∈ [('u', 4), ('U', 8)])
    (hlength : ds.length = count) (hds : ∀ d ∈ ds, IsHexDigit d) (hc : c.toNat = number 16 ds) :
    Escape ('\\' :: lead :: ds ++ rest) c rest

inductive BasicChar : List Char → Char → List Char → Prop
  | plain {c rest} (hc : IsPlain c) (hq : c ≠ '"') (hb : c ≠ '\\') : BasicChar (c :: rest) c rest
  | escape {cs c rest} (h : Escape cs c rest) : BasicChar cs c rest

def BasicString (cs s rest : List Char) : Prop :=
  ∃ inside, cs = '"' :: inside ∧ Many BasicChar inside s ('"' :: rest)

def IsLiteral (c : Char) : Prop := IsPlain c ∧ c ≠ '\''

def LiteralString (cs s rest : List Char) : Prop :=
  cs = '\'' :: s ++ '\'' :: rest ∧ ∀ c ∈ s, IsLiteral c

/-- A part of a string on several lines. A backslash at the end of a line takes all blanks and line
ends after it along. -/
inductive BasicContent : List Char → List Char → List Char → Prop
  | char {cs c rest} (h : BasicChar cs c rest) : BasicContent cs [c] rest
  | newline {cs rest} (h : Newline cs rest) : BasicContent cs ['\n'] rest
  | continuation {cs mid next rest} (hb : Blanks cs mid) (hn : Newline mid next)
    (hs : Space next rest) : BasicContent ('\\' :: cs) [] rest

inductive LiteralContent : List Char → List Char → List Char → Prop
  | char {c rest} (hc : IsLiteral c) : LiteralContent (c :: rest) [c] rest
  | newline {cs rest} (h : Newline cs rest) : LiteralContent cs ['\n'] rest

def Parts (Content : List Char → List Char → List Char → Prop) (cs s rest : List Char) : Prop :=
  ∃ parts, Many Content cs parts rest ∧ s = parts.flatten

/-- One or two quotes, which do not end a string that three quotes end. -/
def InnerQuotes (quote : Char) (cs w rest : List Char) : Prop :=
  cs = w ++ rest ∧ (w = [quote] ∨ w = [quote, quote])

/-- A string between three quotes. Quotes in it are followed by a part, or by those that end it. -/
inductive MultilineString (quote : Char) (Content : List Char → List Char → List Char → Prop) :
    List Char → List Char → List Char → Prop
  | intro {cs a b c rest first groups last} (hstart : ∃ start, (cs = start ∨ Newline cs start) ∧
      Parts Content start first a)
    (hgroups : Many (fun cs group rest => ∃ q part more mid mid', group = q ++ part ++ more ∧
      InnerQuotes quote cs q mid ∧ Content mid part mid' ∧ Parts Content mid' more rest) a groups b)
    (hlast : (last = [] ∧ b = c) ∨ InnerQuotes quote b last c)
    (hend : c = quote :: quote :: quote :: rest) :
    MultilineString quote Content (quote :: quote :: quote :: cs)
      (first ++ groups.flatten ++ last) rest

def StringText (cs : List Char) (s : String) (rest : List Char) : Prop :=
  BasicString cs s.toList rest ∨ LiteralString cs s.toList rest ∨
    MultilineString '"' BasicContent cs s.toList rest ∨
    MultilineString '\'' LiteralContent cs s.toList rest

/-! ### Numbers -/

/-- Digits, between which single underscores may stand. -/
def Digits (p : Char → Prop) (cs ds rest : List Char) : Prop :=
  ∃ d es mid, ds = d :: es ∧ p d ∧ cs = d :: mid ∧
    Many (fun cs e rest => p e ∧ (cs = e :: rest ∨ cs = '_' :: e :: rest)) mid es rest

def Sign (cs : List Char) (negative : Bool) (rest : List Char) : Prop :=
  (negative = false ∧ (cs = rest ∨ cs = '+' :: rest)) ∨ (negative = true ∧ cs = '-' :: rest)

/-- A sign and digits, of which the first one is no zero unless it is the only one. -/
def Decimal (cs : List Char) (negative : Bool) (ds rest : List Char) : Prop :=
  ∃ mid, Sign cs negative mid ∧ Digits IsDigit mid ds rest ∧ (ds.head? = some '0' → ds = ['0'])

def withSign (negative : Bool) (n : Nat) : Int := if negative then -n else n

inductive Integer : List Char → Int → List Char → Prop
  | decimal {cs negative ds rest} (h : Decimal cs negative ds rest) :
    Integer cs (withSign negative (number 10 ds)) rest
  | hexadecimal {cs ds rest} (h : Digits IsHexDigit cs ds rest) :
    Integer ('0' :: 'x' :: cs) (number 16 ds) rest
  | octal {cs ds rest} (h : Digits (fun c => '0' ≤ c ∧ c ≤ '7') cs ds rest) :
    Integer ('0' :: 'o' :: cs) (number 8 ds) rest
  | binary {cs ds rest} (h : Digits (fun c => c = '0' ∨ c = '1') cs ds rest) :
    Integer ('0' :: 'b' :: cs) (number 2 ds) rest

def Fraction (cs ds rest : List Char) : Prop := ∃ mid, cs = '.' :: mid ∧ Digits IsDigit mid ds rest

def Exponent (cs : List Char) (e : Int) (rest : List Char) : Prop :=
  ∃ letter a b negative ds, (letter = 'e' ∨ letter = 'E') ∧ cs = letter :: a ∧ Sign a negative b ∧
    Digits IsDigit b ds rest ∧ e = withSign negative (number 10 ds)

/-- A decimal number with a fraction or an exponent, rounded; or one that is no decimal number. -/
inductive Float : List Char → Number.Binary64 → List Char → Prop
  | decimal {cs a b negative ds places e rest} (hwhole : Decimal cs negative ds a)
    (hparts : (Fraction a places b ∧ (Exponent b e rest ∨ (e = 0 ∧ b = rest))) ∨
      (places = [] ∧ Exponent a e rest)) :
    Float cs (.ofDecimal negative (number 10 (ds ++ places)) (e - places.length)) rest
  | infinite {cs negative rest} (h : Sign cs negative ('i' :: 'n' :: 'f' :: rest)) :
    Float cs (.infinite negative) rest
  | nan {cs negative rest} (h : Sign cs negative ('n' :: 'a' :: 'n' :: rest)) : Float cs .nan rest

/-! ### Dates and times -/

def Field (count low high : Nat) (cs : List Char) (n : Nat) (rest : List Char) : Prop :=
  ∃ ds, cs = ds ++ rest ∧ ds.length = count ∧ (∀ d ∈ ds, IsDigit d) ∧ n = number 10 ds ∧
    low ≤ n ∧ n ≤ high

def Date (cs rest : List Char) : Prop :=
  ∃ year month day a b, Field 4 0 9999 cs year ('-' :: a) ∧ Field 2 1 12 a month ('-' :: b) ∧
    Field 2 1 31 b day rest ∧ day ≤ daysIn year month

def Time (cs rest : List Char) : Prop :=
  ∃ hour minute second a b c, Field 2 0 23 cs hour (':' :: a) ∧ Field 2 0 59 a minute (':' :: b) ∧
    Field 2 0 60 b second c ∧
    (c = rest ∨ ∃ ds, ds ≠ [] ∧ (∀ d ∈ ds, IsDigit d) ∧ c = '.' :: ds ++ rest)

def Offset (cs rest : List Char) : Prop :=
  cs = 'Z' :: rest ∨ cs = 'z' :: rest ∨ ∃ sign hour minute a b, (sign = '+' ∨ sign = '-') ∧
    cs = sign :: a ∧ Field 2 0 23 a hour (':' :: b) ∧ Field 2 0 59 b minute rest

def Datetime (cs rest : List Char) : Prop :=
  (∃ a, Date cs a ∧ (a = rest ∨ ∃ t b c, t ∈ ['T', 't', ' '] ∧ a = t :: b ∧ Time b c ∧
    (c = rest ∨ Offset c rest))) ∨ Time cs rest

/-! ### Keys and values -/

def IsBare (c : Char) : Prop :=
  ('a' ≤ c ∧ c ≤ 'z') ∨ ('A' ≤ c ∧ c ≤ 'Z') ∨ IsDigit c ∨ c = '-' ∨ c = '_'

inductive SimpleKey : List Char → String → List Char → Prop
  | bare {w rest} (hne : w ≠ []) (h : ∀ c ∈ w, IsBare c) : SimpleKey (w ++ rest) (String.ofList w) rest
  | basic {cs s rest} (h : BasicString cs s rest) : SimpleKey cs (String.ofList s) rest
  | literal {cs s rest} (h : LiteralString cs s rest) : SimpleKey cs (String.ofList s) rest

def Path (cs : List Char) (names : List String) (rest : List Char) : Prop :=
  ∃ name more mid, names = name :: more ∧ SimpleKey cs name mid ∧
    Many (fun cs name rest => ∃ a b, Blanks cs ('.' :: a) ∧ Blanks a b ∧ SimpleKey b name rest)
      mid more rest

/-- What pairs of keys and values make. None is at the path of another one, or goes on from it. -/
inductive Gathers : List (List Key × Item) → Contents → Prop
  | nil : Gathers [] .empty
  | snoc {ps m ks v} (h : Gathers ps m) (hopen : m.IsOpen [] (Table.names ks))
    (hfree : m (Table.names ks) = none) :
    Gathers (ps ++ [(ks, v)]) (m.edit [] (Table.names ks) (.withValue v))

mutual

inductive Value : List Char → Item → List Char → Prop
  | string {cs s range rest} (h : StringText cs s rest) : Value cs (.string s range) rest
  | integer {cs n range rest} (h : Integer cs n rest) : Value cs (.integer n range) rest
  | float {cs x range rest} (h : Float cs x rest) : Value cs (.float x range) rest
  | true {range rest} : Value ('t' :: 'r' :: 'u' :: 'e' :: rest) (.boolean .true range) rest
  | false {range rest} : Value ('f' :: 'a' :: 'l' :: 's' :: 'e' :: rest) (.boolean .false range) rest
  | datetime {cs range rest} (h : Datetime cs rest) : Value cs (.datetime range) rest
  | array {cs items range rest} (h : Members cs items (']' :: rest)) :
    Value ('[' :: cs) (.array items range) rest
  | inlineTable {cs pairs entries range rest} (h : Pairs cs pairs ('}' :: rest))
    (hentries : Gathers pairs (contents entries)) (hproper : AreProper entries) :
    Value ('{' :: cs) (.table .inline range entries) rest

inductive Members : List Char → List Item → List Char → Prop
  | nil {cs rest} (h : Gap cs rest) : Members cs [] rest
  | last {cs a i b rest} (ha : Gap cs a) (hi : Value a i b) (hb : Gap b rest) : Members cs [i] rest
  | cons {cs a i b c items rest} (ha : Gap cs a) (hi : Value a i b) (hb : Gap b (',' :: c))
    (h : Members c items rest) : Members cs (i :: items) rest

inductive Pair : List Char → List Key × Item → List Char → Prop
  | intro {cs a b c d e ks v rest} (ha : Blanks cs a) (hks : Path a (Table.names ks) b)
    (hb : Blanks b ('=' :: c)) (hc : Blanks c d) (hv : Value d v e) (he : Blanks e rest) :
    Pair cs (ks, v) rest

inductive Pairs : List Char → List (List Key × Item) → List Char → Prop
  | nil {cs rest} (h : Blanks cs rest) : Pairs cs [] rest
  | last {cs p rest} (h : Pair cs p rest) : Pairs cs [p] rest
  | cons {cs p a q ps rest} (h : Pair cs p (',' :: a)) (hps : Pairs a (q :: ps) rest) :
    Pairs cs (p :: q :: ps) rest

end

/-! ### Documents -/

/-- What a line says: it goes on with another table, or has a key with a value. -/
inductive Statement where
  | table (element : Bool) (path : List Key) (range : Range)
  | pair (keys : List Key) (value : Item)

/-- A line without its end. It says at most one thing. -/
inductive Line : List Char → List Statement → List Char → Prop
  | blank {cs rest} (h : Trailing cs rest) : Line cs [] rest
  | table {cs a b c d path range rest} (ha : Blanks cs ('[' :: a)) (hb : Blanks a b)
    (hpath : Path b (Table.names path) c) (hc : Blanks c (']' :: d)) (hd : Trailing d rest) :
    Line cs [.table .false path range] rest
  | element {cs a b c d path range rest} (ha : Blanks cs ('[' :: '[' :: a)) (hb : Blanks a b)
    (hpath : Path b (Table.names path) c) (hc : Blanks c (']' :: ']' :: d)) (hd : Trailing d rest) :
    Line cs [.table .true path range] rest
  | pair {cs a ks v rest} (h : Pair cs (ks, v) a) (ha : a = rest ∨ Comment a rest) :
    Line cs [.pair ks v] rest

inductive Lines : List Char → List Statement → Prop
  | last {cs sts} (h : Line cs sts []) : Lines cs sts
  | cons {cs sts mid next more} (h : Line cs sts mid) (hn : Newline mid next) (hmore : Lines next more) :
    Lines cs (sts ++ more)

/-- A document, which a byte order mark may stand before. -/
def Document (cs : List Char) (sts : List Statement) : Prop :=
  ∃ start, (cs = start ∨ cs = '\uFEFF' :: start) ∧ Lines start sts

/-- What lines make: the path of the header above, below which keys are, and what paths lead to. No key
is there twice, and no header of a table. Keys with dots do not go on with tables that have headers, nor
headers with tables that such keys made. -/
inductive Builds : List Statement → List String → Contents → Prop
  | nil : Builds [] [] .empty
  | pair {sts path m ks v} (h : Builds sts path m) (hopen : m.IsOpen path (path ++ Table.names ks))
    (hfree : m (path ++ Table.names ks) = none) :
    Builds (sts ++ [.pair ks v]) path (m.edit path (path ++ Table.names ks) (.withValue v))
  | table {sts before m path range} (h : Builds sts before m)
    (hopen : m.IsOpen (Table.names path) (Table.names path))
    (hfree : m (Table.names path) = none ∨ m (Table.names path) = some (.table .implied)) :
    Builds (sts ++ [.table .false path range]) (Table.names path)
      (m.edit (Table.names path) (Table.names path) .withHeader)
  | element {sts before m path range} (h : Builds sts before m)
    (hopen : m.IsOpen (Table.names path) (Table.names path))
    (hfree : m (Table.names path) = none ∨ ∃ count, m (Table.names path) = some (.tables count)) :
    Builds (sts ++ [.table .true path range]) (Table.names path)
      (m.edit (Table.names path) (Table.names path) .withElement)

end TypeScriptRepl.Toml.Spec
