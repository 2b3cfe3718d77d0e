import Mathlib.Data.Nat.Digits.Defs
import Mathlib.Tactic.SplitIfs

/-!
# JSON texts

`Json.parse` reads a JSON text as ECMAScript's `JSON.parse` does.  An unsigned integer is kept
exactly, a page sees the closest double; any other number is kept as it is written.  An escaped
surrogate without its other half becomes U+FFFD, since a text holds no such character.
-/

namespace Rclweb

inductive Json where
  | null
  | bool (value : Bool)
  | integer (value : ℕ)
  | decimal (literal : String)
  | string (value : String)
  | array (items : List Json)
  | object (members : List (String × Json))
  deriving Repr, Inhabited

namespace Json

/-! ## The parser -/

def isSpace (c : Char) : Bool := c = ' ' || c = '\t' || c = '\n' || c = '\r'

def skipSpace : List Char → List Char := List.dropWhile isSpace

def isDigit (c : Char) : Bool := '0' ≤ c && c ≤ '9'

def hexDigit? (c : Char) : Option ℕ :=
  if isDigit c then some (c.toNat - '0'.toNat)
  else if 'a' ≤ c ∧ c ≤ 'f' then some (c.toNat - 'a'.toNat + 10)
  else if 'A' ≤ c ∧ c ≤ 'F' then some (c.toNat - 'A'.toNat + 10)
  else none

def hex4? (a b c d : Char) : Option ℕ := do
  let a ← hexDigit? a
  let b ← hexDigit? b
  let c ← hexDigit? c
  let d ← hexDigit? d
  return a * 4096 + b * 256 + c * 16 + d

/-- The character after a backslash, but for `u`. -/
def escape? (c : Char) : Option Char :=
  if c = '"' ∨ c = '\\' ∨ c = '/' then some c
  else if c = 'b' then some (Char.ofNat 8)
  else if c = 'f' then some (Char.ofNat 12)
  else if c = 'n' then some '\n'
  else if c = 'r' then some '\r'
  else if c = 't' then some '\t'
  else none

/-- The code points of a string up to its closing quote, halves of surrogate pairs on their own. -/
def codePoints : List Char → Option (List ℕ × List Char)
  | '"' :: cs => some ([], cs)
  | '\\' :: 'u' :: a :: b :: c :: d :: cs =>
    (hex4? a b c d).bind fun n => (codePoints cs).map fun p => (n :: p.1, p.2)
  | '\\' :: c :: cs =>
    (escape? c).bind fun e => (codePoints cs).map fun p => (e.toNat :: p.1, p.2)
  | c :: cs =>
    if c.toNat < 0x20 ∨ c = '\\' then none
    else (codePoints cs).map fun p => (c.toNat :: p.1, p.2)
  | [] => none

def isHigh (n : ℕ) : Bool := 0xD800 ≤ n && n < 0xDC00

def isLow (n : ℕ) : Bool := 0xDC00 ≤ n && n < 0xE000

def charOf (n : ℕ) : Char := if isHigh n || isLow n then Char.ofNat 0xFFFD else Char.ofNat n

/-- Put surrogate pairs together. -/
def chars : List ℕ → List Char
  | [] => []
  | [n] => [charOf n]
  | high :: low :: rest =>
    if isHigh high && isLow low then
      Char.ofNat (0x10000 + (high - 0xD800) * 1024 + (low - 0xDC00)) :: chars rest
    else charOf high :: chars (low :: rest)

/-- A string behind its opening quote. -/
def text (cs : List Char) : Option (String × List Char) :=
  (codePoints cs).map fun p => (String.ofList (chars p.1), p.2)

/-- At least one digit. -/
def digits (cs : List Char) : Option (List Char × List Char) :=
  if cs.takeWhile isDigit = [] then none else some (cs.takeWhile isDigit, cs.dropWhile isDigit)

/-- No digit follows a leading zero. -/
def wholePart : List Char → Option (List Char × List Char)
  | '0' :: cs => some (['0'], cs)
  | cs => digits cs

def fraction : List Char → Option (List Char × List Char)
  | '.' :: cs => (digits cs).map fun p => ('.' :: p.1, p.2)
  | cs => some ([], cs)

def exponentSign : List Char → List Char × List Char
  | '+' :: cs => (['+'], cs)
  | '-' :: cs => (['-'], cs)
  | cs => ([], cs)

def exponent (cs : List Char) : Option (List Char × List Char) :=
  match cs with
  | [] => some ([], [])
  | e :: rest =>
    if e = 'e' ∨ e = 'E' then
      (digits (exponentSign rest).2).map fun p => (e :: (exponentSign rest).1 ++ p.1, p.2)
    else some ([], cs)

/-- The number that decimal digits write. -/
def valueOf (cs : List Char) : ℕ := cs.foldl (fun n c => n * 10 + (c.toNat - '0'.toNat)) 0

def number (cs : List Char) : Option (Json × List Char) := do
  let sign := if cs.head? = some '-' then ['-'] else []
  let (whole, rest) ← wholePart (cs.drop sign.length)
  let (fraction, rest) ← fraction rest
  let (exponent, rest) ← exponent rest
  if sign = [] ∧ fraction = [] ∧ exponent = [] then return (.integer (valueOf whole), rest)
  else return (.decimal (String.ofList (sign ++ whole ++ fraction ++ exponent)), rest)

/-- The rest of an input behind a word. -/
def word : List Char → List Char → Option (List Char)
  | [], cs => some cs
  | _ :: _, [] => none
  | w :: ws, c :: cs => if w = c then word ws cs else none

/-- Put a member into an object; a repeated name keeps its place and takes the new value. -/
def insertMember (name : String) (value : Json) : List (String × Json) → List (String × Json)
  | [] => [(name, value)]
  | entry :: rest =>
    if entry.1 = name then (name, value) :: rest else entry :: insertMember name value rest

mutual

/-- **A value**, with the text that follows it.  The fuel bounds the depth. -/
def value : ℕ → List Char → Option (Json × List Char)
  | 0, _ => none
  | fuel + 1, cs =>
    match skipSpace cs with
    | '"' :: cs => (text cs).map fun p => (.string p.1, p.2)
    | '[' :: cs =>
      match skipSpace cs with
      | ']' :: cs => some (.array [], cs)
      | cs => (items fuel cs).map fun p => (.array p.1, p.2)
    | '{' :: cs =>
      match skipSpace cs with
      | '}' :: cs => some (.object [], cs)
      | cs => (members fuel [] cs).map fun p => (.object p.1, p.2)
    | 't' :: cs => (word ['r', 'u', 'e'] cs).map (.bool true, ·)
    | 'f' :: cs => (word ['a', 'l', 's', 'e'] cs).map (.bool false, ·)
    | 'n' :: cs => (word ['u', 'l', 'l'] cs).map (.null, ·)
    | cs => number cs

/-- The items of an array up to its closing bracket. -/
def items : ℕ → List Char → Option (List Json × List Char)
  | 0, _ => none
  | fuel + 1, cs =>
    (value fuel cs).bind fun p =>
      match skipSpace p.2 with
      | ',' :: cs => (items fuel cs).map fun q => (p.1 :: q.1, q.2)
      | ']' :: cs => some ([p.1], cs)
      | _ => none

/-- The members of an object up to its closing brace, behind those of `before`. -/
def members : ℕ → List (String × Json) → List Char → Option (List (String × Json) × List Char)
  | 0, _, _ => none
  | fuel + 1, before, cs =>
    match skipSpace cs with
    | '"' :: cs =>
      (text cs).bind fun name =>
        match skipSpace name.2 with
        | ':' :: cs =>
          (value fuel cs).bind fun p =>
            match skipSpace p.2 with
            | ',' :: cs => members fuel (insertMember name.1 p.1 before) cs
            | '}' :: cs => some (insertMember name.1 p.1 before, cs)
            | _ => none
        | _ => none
    | _ => none

end

/-- **`JSON.parse`**; `none` is a syntax error. -/
def parse (s : String) : Option Json :=
  match value (s.toList.length + 1) s.toList with
  | some (v, rest) => if skipSpace rest = [] then some v else none
  | none => none

end Json
end Rclweb
