import Mathlib

/-!
# JSON values, their canonical form and their text

An object is the list of its fields in the order in which they are enumerated. Numbers
are those of any type with a text of its own.

A string is one of characters, so an escaped surrogate that has no other half is refused where
`JSON.parse` accepts it, and so is a number that the type of numbers does not have: beyond the
largest double `JSON.parse` reads an infinity.
-/
namespace Json

inductive Value (ν : Type) where
  | null
  | bool (b : Bool)
  | number (n : ν)
  | string (s : String)
  | array (items : List (Value ν))
  | object (fields : List (String × Value ν))

/-- How numbers are written and read; a number's text starts and goes on with
characters that no other text does. -/
class NumberText (ν : Type) where
  text : ν → List Char
  /-- The characters of numbers. -/
  digit : Char → Bool
  read : List Char → Option ν

variable {ν : Type}

section Keys

/-- The UTF-16 code units of a character. -/
def codeUnits (c : Char) : List Nat :=
  if c.toNat < 0x10000 then [c.toNat]
  else [0xD800 + (c.toNat - 0x10000) / 0x400, 0xDC00 + (c.toNat - 0x10000) % 0x400]

/-- The value of a key that is an array index. -/
def arrayIndex (key : String) : Option Nat :=
  match key.toNat? with
  | some n => if toString n = key ∧ n < 2 ^ 32 - 1 then some n else none
  | none => none

def lexLE : List Nat → List Nat → Bool
  | [], _ => true
  | _ :: _, [] => false
  | a :: as, b :: bs => a < b || (a = b && lexLE as bs)

/-- The order of a canonical object's fields: keys are sorted by their code units, but
array indices are enumerated first. -/
def keyLE (a b : String) : Bool :=
  match arrayIndex a, arrayIndex b with
  | some m, some n => m ≤ n
  | some _, none => true
  | none, some _ => false
  | none, none => lexLE (a.toList.flatMap codeUnits) (b.toList.flatMap codeUnits)

end Keys

mutual

/-- The same value with the fields of every object in order. -/
def canonicalize : Value ν → Value ν
  | .array items => .array (canonicalizeItems items)
  | .object fields => .object ((canonicalizeFields fields).mergeSort fun a b => keyLE a.1 b.1)
  | .null => .null
  | .bool b => .bool b
  | .number n => .number n
  | .string s => .string s

def canonicalizeItems : List (Value ν) → List (Value ν)
  | [] => []
  | value :: rest => canonicalize value :: canonicalizeItems rest

def canonicalizeFields : List (String × Value ν) → List (String × Value ν)
  | [] => []
  | (key, value) :: rest => (key, canonicalize value) :: canonicalizeFields rest

end

section Text

def hexDigit (n : Nat) : Char :=
  if n < 10 then Char.ofNat (48 + n) else Char.ofNat (87 + n)

def escape (c : Char) : List Char :=
  if c = '"' then ['\\', '"']
  else if c = '\\' then ['\\', '\\']
  else if c = '\x08' then ['\\', 'b']
  else if c = '\t' then ['\\', 't']
  else if c = '\n' then ['\\', 'n']
  else if c = '\x0c' then ['\\', 'f']
  else if c = '\r' then ['\\', 'r']
  else if c.toNat < 32 then ['\\', 'u', '0', '0', hexDigit (c.toNat / 16), hexDigit (c.toNat % 16)]
  else [c]

def quote (s : String) : List Char := '"' :: s.toList.flatMap escape ++ ['"']

/-- What stands between two items: nothing when there is no indentation. -/
def newline (gap indent : List Char) : List Char := if gap = [] then [] else '\n' :: indent

def colon (gap : List Char) : List Char := if gap = [] then [':'] else [':', ' ']

variable [NumberText ν] (gap : List Char)

mutual

/-- `JSON.stringify` with the indentation unit `gap`. -/
def text (indent : List Char) : Value ν → List Char
  | .null => ['n', 'u', 'l', 'l']
  | .bool true => ['t', 'r', 'u', 'e']
  | .bool false => ['f', 'a', 'l', 's', 'e']
  | .number n => NumberText.text n
  | .string s => quote s
  | .array [] => ['[', ']']
  | .array (value :: rest) =>
    '[' :: newline gap (indent ++ gap) ++ text (indent ++ gap) value ++
      itemsText (indent ++ gap) rest ++ newline gap indent ++ [']']
  | .object [] => ['{', '}']
  | .object ((key, value) :: rest) =>
    '{' :: newline gap (indent ++ gap) ++ quote key ++ colon gap ++ text (indent ++ gap) value ++
      fieldsText (indent ++ gap) rest ++ newline gap indent ++ ['}']

def itemsText (indent : List Char) : List (Value ν) → List Char
  | [] => []
  | value :: rest => ',' :: newline gap indent ++ text indent value ++ itemsText indent rest

def fieldsText (indent : List Char) : List (String × Value ν) → List Char
  | [] => []
  | (key, value) :: rest =>
    ',' :: newline gap indent ++ quote key ++ colon gap ++ text indent value ++
      fieldsText indent rest

end

end Text

section Parse

def isBlank (c : Char) : Bool := c = ' ' || c = '\t' || c = '\n' || c = '\r'

def skipBlanks : List Char → List Char
  | [] => []
  | c :: rest => if isBlank c then skipBlanks rest else c :: rest

def hexValue (c : Char) : Option Nat :=
  if '0' ≤ c ∧ c ≤ '9' then some (c.toNat - 48)
  else if 'a' ≤ c ∧ c ≤ 'f' then some (c.toNat - 87)
  else if 'A' ≤ c ∧ c ≤ 'F' then some (c.toNat - 55)
  else none

def hexWord (a b c d : Char) : Option Nat := do
  let a ← hexValue a
  let b ← hexValue b
  let c ← hexValue c
  let d ← hexValue d
  return ((a * 16 + b) * 16 + c) * 16 + d

/-- The character of a simple escape. -/
def unescape : Char → Option Char
  | '"' => some '"'
  | '\\' => some '\\'
  | '/' => some '/'
  | 'b' => some '\x08'
  | 't' => some '\t'
  | 'n' => some '\n'
  | 'f' => some '\x0c'
  | 'r' => some '\r'
  | _ => none

/-- The rest of a string after its opening quote. Two escaped surrogates are one
character; a single one is refused, though JavaScript's strings may hold it. -/
def readString : List Char → Option (List Char × List Char)
  | [] => none
  | '"' :: rest => some ([], rest)
  | '\\' :: 'u' :: a :: b :: c :: d :: '\\' :: 'u' :: a' :: b' :: c' :: d' :: rest => do
    let high ← hexWord a b c d
    if 0xD800 ≤ high ∧ high < 0xDC00 then
      let low ← hexWord a' b' c' d'
      guard (0xDC00 ≤ low ∧ low < 0xE000)
      let (chars, rest) ← readString rest
      return (Char.ofNat (0x10000 + (high - 0xD800) * 0x400 + (low - 0xDC00)) :: chars, rest)
    else
      guard (¬ (0xDC00 ≤ high ∧ high < 0xE000))
      let (chars, rest) ← readString ('\\' :: 'u' :: a' :: b' :: c' :: d' :: rest)
      return (Char.ofNat high :: chars, rest)
  | '\\' :: 'u' :: a :: b :: c :: d :: rest => do
    let code ← hexWord a b c d
    guard (¬ (0xD800 ≤ code ∧ code < 0xE000))
    let (chars, rest) ← readString rest
    return (Char.ofNat code :: chars, rest)
  | '\\' :: c :: rest => do
    let c ← unescape c
    let (chars, rest) ← readString rest
    return (c :: chars, rest)
  | c :: rest => do
    guard (32 ≤ c.toNat)
    let (chars, rest) ← readString rest
    return (c :: chars, rest)

/-- Assign a field: an old one keeps its place. -/
def setField (fields : List (String × Value ν)) (field : String × Value ν) :
    List (String × Value ν) :=
  if fields.any (·.1 = field.1) then fields.map fun old => if old.1 = field.1 then field else old
  else fields ++ [field]

/-- The fields in the order of enumeration: array indices first. -/
def enumerate (fields : List (String × Value ν)) : List (String × Value ν) :=
  (fields.filter fun field => (arrayIndex field.1).isSome).mergeSort (fun a b => keyLE a.1 b.1) ++
    fields.filter fun field => (arrayIndex field.1).isNone

def ofEntries (entries : List (String × Value ν)) : Value ν :=
  .object (enumerate (entries.foldl setField []))

variable [NumberText ν]

mutual

/-- Read one value; the first argument bounds the number of nested calls. -/
def readValue : Nat → List Char → Option (Value ν × List Char)
  | 0, _ => none
  | fuel + 1, input =>
    match skipBlanks input with
    | 'n' :: 'u' :: 'l' :: 'l' :: rest => some (.null, rest)
    | 't' :: 'r' :: 'u' :: 'e' :: rest => some (.bool true, rest)
    | 'f' :: 'a' :: 'l' :: 's' :: 'e' :: rest => some (.bool false, rest)
    | '"' :: rest =>
      (readString rest).map fun (chars, rest) => (.string (String.ofList chars), rest)
    | '[' :: rest =>
      match skipBlanks rest with
      | ']' :: rest => some (.array [], rest)
      | _ => (readItems fuel rest).map fun (items, rest) => (.array items, rest)
    | '{' :: rest =>
      match skipBlanks rest with
      | '}' :: rest => some (.object [], rest)
      | _ => (readFields fuel rest).map fun (fields, rest) => (ofEntries fields, rest)
    | rest =>
      let (digits, rest) := rest.span (NumberText.digit (ν := ν))
      (NumberText.read digits).map fun n => (.number n, rest)

/-- The items up to the closing bracket, of which there is at least one. -/
def readItems : Nat → List Char → Option (List (Value ν) × List Char)
  | 0, _ => none
  | fuel + 1, input => do
    let (value, rest) ← readValue fuel input
    match skipBlanks rest with
    | ']' :: rest => return ([value], rest)
    | ',' :: rest =>
      let (items, rest) ← readItems fuel rest
      return (value :: items, rest)
    | _ => none

def readFields : Nat → List Char → Option (List (String × Value ν) × List Char)
  | 0, _ => none
  | fuel + 1, input =>
    match skipBlanks input with
    | '"' :: rest => do
      let (key, rest) ← readString rest
      match skipBlanks rest with
      | ':' :: rest =>
        let (value, rest) ← readValue fuel rest
        match skipBlanks rest with
        | '}' :: rest => return ([(String.ofList key, value)], rest)
        | ',' :: rest =>
          let (fields, rest) ← readFields fuel rest
          return ((String.ofList key, value) :: fields, rest)
        | _ => none
      | _ => none
    | _ => none

end

/-- `JSON.parse` of a text whose strings and numbers are among those of a value. -/
def parse (input : String) : Option (Value ν) :=
  match readValue (input.toList.length + 1) input.toList with
  | some (value, rest) => if skipBlanks rest = [] then some value else none
  | none => none

end Parse

/-- `JSON.stringify` of a value, indented by `gap` spaces. -/
def stringify [NumberText ν] (gap : Nat) (value : Value ν) : String :=
  String.ofList (text (List.replicate gap ' ') [] value)

end Json
