import Outbox.Ron.Reader

/-! # The grammar of RON

Which texts are a value, and which value each is, said without a reader.

* `Spacing`: what may stand between two tokens.
* `Named`, `Literal`, `Numeral`, `Fraction`: the tokens.
* `Elements`: what stands between two brackets, a trailing comma allowed.
* `Form`: the texts of a value, given those of what stands inside it. `Writes` is one value within so
  many levels, `Spells` a document without attributes.

Where `wide` is set, an integer may also be one that fits no type. The reader refuses some of these;
no setting takes any.
-/

set_option autoImplicit false

namespace Outbox.Ron

/-! ## Between tokens -/

/-- The rest of a block comment inside so many others: no mark opens another one unnoticed. -/
inductive Comment : Nat → List Char → Prop where
  | done : Comment 0 ['*', '/']
  | close {n : Nat} {s : List Char} : Comment n s → Comment (n + 1) ('*' :: '/' :: s)
  | nest {n : Nat} {s : List Char} : Comment (n + 1) s → Comment n ('/' :: '*' :: s)
  | char {n : Nat} {c : Char} {s : List Char} : ¬['/', '*'] <+: c :: s → ¬['*', '/'] <+: c :: s →
      Comment n s → Comment n (c :: s)

/-- White space and comments. -/
inductive Spacing : List Char → Prop where
  | nil : Spacing []
  | space {c : Char} {s : List Char} : isSpace c = true → Spacing s → Spacing (c :: s)
  | line {t s : List Char} : '\n' ∉ t → Spacing s → Spacing ('/' :: '/' :: (t ++ '\n' :: s))
  | block {t s : List Char} : Comment 0 t → Spacing s → Spacing ('/' :: '*' :: (t ++ s))

/-- White space and comments at the end of a document, where the last line needs no end. -/
inductive LastSpacing : List Char → Prop where
  | whole {s : List Char} : Spacing s → LastSpacing s
  | line {s t : List Char} : Spacing s → '\n' ∉ t → LastSpacing (s ++ '/' :: '/' :: t)

/-! ## Names -/

/-- A name as it is written, plain or raw. -/
inductive Named : List Char → Ident → Prop where
  | plain {c : Char} {s : List Char} : isFirst c = true →
      (∀ d ∈ c :: s, Text.isIdentTail d = true) → Named (c :: s) ⟨false, c :: s⟩
  | raw {s : List Char} : s ≠ [] → (∀ d ∈ s, isRaw d = true) → Named ('r' :: '#' :: s) ⟨true, s⟩

/-- A name that is no word with a value of its own. -/
def Ident.IsFree (i : Ident) : Prop :=
  i.raw = false → constants.lookup i.name = none ∧ i.name ≠ "Some".toList

/-! ## Texts -/

/-- An escape behind its backslash, and the character that it stands for. -/
inductive Escaped (binary : Bool) : List Char → Char → Prop where
  | short {x c : Char} : short x = some c → Escaped binary [x] c
  | octet {x y : Char} {m n : Nat} : hexDigit x = some m → hexDigit y = some n →
      (binary = true ∨ m * 16 + n < 0x80) → Escaped binary ['x', x, y] (Char.ofNat (m * 16 + n))
  | point {ds : List Char} {n : Nat} : binary = false → 0 < ds.length → ds.length ≤ 6 →
      (∀ d ∈ ds, (hexDigit d).isSome = true) → digits 16 0 ds = some n → isScalar n = true →
      Escaped binary ('u' :: '\x7b' :: (ds ++ ['\x7d'])) (Char.ofNat n)

/-- What stands between two quotes, and the text that it spells. -/
inductive Spelled (binary : Bool) : List Char → List Char → Prop where
  | nil : Spelled binary [] []
  | plain {c : Char} {s t : List Char} : c ≠ '"' → c ≠ '\\' → Spelled binary s t →
      Spelled binary (c :: s) (c :: t)
  | escape {e s t : List Char} {c : Char} : Escaped binary e c → Spelled binary s t →
      Spelled binary ('\\' :: (e ++ s)) (c :: t)
  | continued {g s t : List Char} : (∀ c ∈ g, isSpace c = true) →
      (∀ c ∈ s.head?, isSpace c = false) → Spelled binary s t →
      Spelled binary ('\\' :: '\n' :: (g ++ s)) t

/-- A raw text between quotes and so many number signs. -/
def rawText (marks : Nat) (t : List Char) : List Char :=
  List.replicate marks '#' ++ '"' :: (t ++ '"' :: List.replicate marks '#')

/-- Whether a raw text ends no sooner than at its last quote. -/
def FitsRaw (marks : Nat) (t : List Char) : Prop := ¬('"' :: List.replicate marks '#') <:+: t

/-- Literals with quotes. -/
inductive Literal : List Char → Value → Prop where
  | text {s t : List Char} : Spelled false s t → Literal ('"' :: (s ++ ['"'])) (.text t)
  | raw {marks : Nat} {t : List Char} : FitsRaw marks t → Literal ('r' :: rawText marks t) (.text t)
  | char {c : Char} : c ≠ '\\' → Literal ['\'', c, '\''] .scalar
  | escaped {e : List Char} {c : Char} : Escaped false e c →
      Literal ('\'' :: '\\' :: (e ++ ['\''])) .scalar
  | octet {c : Char} : c ≠ '\\' → c.toNat < 0x80 → Literal ['b', '\'', c, '\''] .scalar
  | escapedOctet {e : List Char} {c : Char} : Escaped true e c →
      Literal ('b' :: '\'' :: '\\' :: (e ++ ['\''])) .scalar
  | octets {s t : List Char} : Spelled true s t → Literal ('b' :: '"' :: (s ++ ['"'])) .scalar
  | rawOctets {marks : Nat} {t : List Char} : FitsRaw marks t →
      Literal ('b' :: 'r' :: rawText marks t) .scalar

/-! ## Numbers -/

/-- What may stand before a number. -/
inductive Sign where
  | none
  | plus
  | minus
  deriving DecidableEq, Repr

def Sign.text : Sign → List Char
  | .none => []
  | .plus => ['+']
  | .minus => ['-']

/-- The bases that an integer may be written in. -/
inductive Base where
  | decimal
  | binary
  | octal
  | hexadecimal
  deriving DecidableEq, Repr

namespace Base

def radix : Base → Nat
  | decimal => 10
  | binary => 2
  | octal => 8
  | hexadecimal => 16

def text : Base → List Char
  | decimal => []
  | binary => ['0', 'b']
  | octal => ['0', 'o']
  | hexadecimal => ['0', 'x']

/-- Whether a type may be named behind the digits. It is looked for behind the first run of digits
and their letters, which for two of the bases is a lone zero. -/
def takesSuffix : Base → Bool
  | decimal | binary => true
  | octal | hexadecimal => false

end Base

/-- An integer as it is written. -/
structure Numeral where
  sign : Sign
  base : Base
  run : List Char
  suffix : Option (List Char × Width)

namespace Numeral

def text (m : Numeral) : List Char :=
  m.sign.text ++ (m.base.text ++ (m.run ++ (m.suffix.map Prod.fst).getD []))

/-- Whether the digits spell `n`. They may be grouped by underscores behind the first one. -/
structure Spells (m : Numeral) (n : Nat) : Prop where
  first : ∃ c t, m.run = c :: t ∧ c ≠ '_'
  digits : digits m.base.radix 0 m.run = some n
  suffix : ∀ f ∈ m.suffix, f ∈ suffixes ∧ m.base.takesSuffix = true

def isNegative (m : Numeral) : Bool := m.sign == .minus

/-- The type of the integer: the one it names, or a word of 64 bits. -/
def width (m : Numeral) : Width := (m.suffix.map Prod.snd).getD ⟨m.isNegative, 64⟩

def integer (m : Numeral) (n : Nat) : Integer := ⟨m.isNegative, n, m.suffix.map Prod.snd⟩

/-- Whether a decimal number without a type, which may then be a fraction of any size. -/
def isPlain (m : Numeral) : Bool := m.base == .decimal && m.suffix.isNone

end Numeral

/-- Decimal digits, grouped by underscores behind the first one. -/
def IsRun (s : List Char) : Prop :=
  ∃ c t, s = c :: t ∧ c.isDigit = true ∧ ∀ d ∈ t, d.isDigit = true ∨ d = '_'

/-- The digits of a fraction around its point. -/
inductive Mantissa : List Char → Prop where
  | whole {w : List Char} : IsRun w → Mantissa w
  | point {w : List Char} : IsRun w → Mantissa (w ++ ['.'])
  | both {w p : List Char} : IsRun w → IsRun p → Mantissa (w ++ '.' :: p)
  | part {p : List Char} : IsRun p → Mantissa ('.' :: p)

inductive Exponent : List Char → Prop where
  | none : Exponent []
  | some {e : Char} {s : Sign} {ds : List Char} : e ∈ ['e', 'E'] → IsRun ds →
      Exponent (e :: (s.text ++ ds))

/-- The types that a fraction may name. -/
def fractionSuffixes : List (List Char) := [[], "f32".toList, "f64".toList]

/-- Numbers that are no integers. -/
inductive Fraction : List Char → Prop where
  | finite {s : Sign} {m e f : List Char} : Mantissa m → Exponent e → f ∈ fractionSuffixes →
      (IsRun m → e ++ f ≠ []) → Fraction (s.text ++ (m ++ (e ++ f)))
  | infinite {s : Sign} {w f : List Char} : s ≠ .none → w ∈ ["inf".toList, "NaN".toList] →
      f ∈ fractionSuffixes → Fraction (s.text ++ (w ++ f))

/-! ## Between brackets -/

section Brackets

variable {α : Type}

/-- Elements separated by commas. Behind the last one there may be another comma. -/
inductive Elements (P : List Char → α → Prop) : List Char → List α → Prop where
  | nil {g : List Char} : Spacing g → Elements P g []
  | last {g s g' : List Char} {x : α} : Spacing g → P s x → Spacing g' →
      Elements P (g ++ (s ++ g')) [x]
  | cons {g s g' t : List Char} {x : α} {xs : List α} : Spacing g → P s x → Spacing g' →
      Elements P t xs → Elements P (g ++ (s ++ (g' ++ ',' :: t))) (x :: xs)

/-- A key, a colon and a value. -/
inductive Pair {κ : Type} (K : List Char → κ → Prop) (P : List Char → α → Prop) :
    List Char → κ × α → Prop where
  | mk {k g g' s : List Char} {x : κ} {y : α} : K k x → Spacing g → Spacing g' → P s y →
      Pair K P (k ++ (g ++ ':' :: (g' ++ s))) (x, y)

end Brackets

/-- The name of a field. -/
def FieldName (s : List Char) (name : List Char) : Prop := ∃ i, Named s i ∧ i.name = name

/-- What may stand before the bracket of a record or tuple: nothing, or its name. -/
inductive Header : List Char → Option (List Char) → Prop where
  | none : Header [] none
  | some {s g : List Char} {i : Ident} : Named s i → i.IsFree → Spacing g →
      Header (s ++ g) (some i.name)

/-! ## Values -/

/-- The texts of a value. A bracket may open where `nested` is set; `Item` says what may stand
between brackets and `Content` what inside an option. -/
inductive Form (wide nested : Bool) (Item Content : List Char → Value → Prop) :
    List Char → Value → Prop where
  | constant {s : List Char} {v : Value} : (s, v) ∈ constants → Form wide nested Item Content s v
  | word {s : List Char} {i : Ident} : Named s i → i.IsFree →
      Form wide nested Item Content s (.word i.name)
  | literal {s : List Char} {v : Value} : Literal s v → Form wide nested Item Content s v
  | integer {m : Numeral} {n : Nat} : m.Spells n → m.width.fits m.isNegative n = true →
      Form wide nested Item Content m.text (.integer (m.integer n))
  | large {m : Numeral} {n : Nat} : m.Spells n → m.width.fits m.isNegative n = false →
      (wide || m.isPlain) = true → Form wide nested Item Content m.text .scalar
  | fraction {s : List Char} : Fraction s → Form wide nested Item Content s .scalar
  | unit : Form wide nested Item Content ['(', ')'] (.tuple none [])
  | something {g s : List Char} {v : Value} : nested = true → Spacing g →
      Elements Content s [v] →
      Form wide nested Item Content ("Some".toList ++ (g ++ '(' :: (s ++ [')']))) (.something v)
  | record {h s : List Char} {name : Option (List Char)} {f : List Char × Value}
      {fs : List (List Char × Value)} : nested = true → Header h name →
      Elements (Pair FieldName Item) s (f :: fs) →
      Form wide nested Item Content (h ++ '(' :: (s ++ [')'])) (.record name (f :: fs))
  | tuple {h s : List Char} {name : Option (List Char)} {vs : List Value} : nested = true →
      Header h name → Elements Item s vs →
      Form wide nested Item Content (h ++ '(' :: (s ++ [')'])) (.tuple name vs)
  | list {s : List Char} {vs : List Value} : nested = true → Elements Item s vs →
      Form wide nested Item Content ('[' :: (s ++ [']'])) (.list vs)
  | map {s : List Char} {es : List (Value × Value)} : nested = true →
      Elements (Pair Item Item) s es →
      Form wide nested Item Content ('\x7b' :: (s ++ ['\x7d'])) (.map es)

/-- One value within so many levels. A bracket takes one of them, and so does every element inside
it; the content of an option takes one. -/
def Writes (wide : Bool) : Nat → List Char → Value → Prop
  | 0 => Form wide false (fun _ _ => False) (fun _ _ => False)
  | 1 => Form wide true (fun _ _ => False) (Writes wide 0)
  | depth + 2 => Form wide true (Writes wide depth) (Writes wide (depth + 1))

/-- A document without attributes. -/
inductive Spells (wide : Bool) : List Char → Value → Prop where
  | mk {g s g' : List Char} {v : Value} : Spacing g → Writes wide maxDepth s v → LastSpacing g' →
      Spells wide (g ++ (s ++ g')) v

end Outbox.Ron
