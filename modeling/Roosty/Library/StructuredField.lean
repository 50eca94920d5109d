import Mathlib.Algebra.Group.Nat.Defs
import Mathlib.Data.Option.Basic
import Roosty.Library.Base64

/-!
# Structured field values

Dictionaries, inner lists and items of HTTP structured fields in their first
version (RFC 8941): the typed values, their serialization and the parser. Keys,
tokens and strings carry the character class that a serializer relies on.
-/

set_option autoImplicit false

namespace Roosty.Library.StructuredField

structure Checked (check : List Char → Bool) where
  text : List Char
  valid : check text = true
deriving DecidableEq

def Checked.of? (check : List Char → Bool) (text : List Char) : Option (Checked check) :=
  if valid : check text = true then some ⟨text, valid⟩ else none

def inRange (low high : Char) (character : Char) : Bool :=
  low.toNat ≤ character.toNat && character.toNat ≤ high.toNat

def isDigit : Char → Bool := inRange '0' '9'
def isLower : Char → Bool := inRange 'a' 'z'
def isUpper : Char → Bool := inRange 'A' 'Z'

/-- The `tchar` class of HTTP tokens. -/
def isTokenChar (character : Char) : Bool :=
  isDigit character || isLower character || isUpper character ||
    "!#$%&'*+-.^_|~".toList.contains character || character.toNat == 0x60

def isPrintable : Char → Bool := inRange ' ' '~'

def isKeyStart (character : Char) : Bool := isLower character || character == '*'

def isKeyChar (character : Char) : Bool :=
  isLower character || isDigit character || "_-.*".toList.contains character

def isTokenStart (character : Char) : Bool :=
  isLower character || isUpper character || character == '*'

def isTokenRest (character : Char) : Bool :=
  isTokenChar character || character == ':' || character == '/'

def startsAndRest (start rest : Char → Bool) : List Char → Bool
  | [] => false
  | first :: others => start first && others.all rest

abbrev Key := Checked (startsAndRest isKeyStart isKeyChar)
abbrev Token := Checked (startsAndRest isTokenStart isTokenRest)
abbrev StringItem := Checked (·.all isPrintable)

structure Bounded where
  value : Int
  bounded : value.natAbs < 10 ^ 15
deriving DecidableEq

inductive BareItem where
  | integer (value : Bounded)
  | decimal (thousandths : Bounded)
  | string (text : StringItem)
  | token (text : Token)
  | byteSequence (bytes : List UInt8)
  | boolean (value : Bool)
deriving DecidableEq

structure Item where
  bareItem : BareItem
  params : List (Key × BareItem)
deriving DecidableEq

structure InnerList where
  items : List Item
  params : List (Key × BareItem)
deriving DecidableEq

inductive ListEntry where
  | item (item : Item)
  | innerList (list : InnerList)
deriving DecidableEq

abbrev Dictionary := List (Key × ListEntry)

def lookup {Value : Type} (entries : List (Key × Value)) (key : List Char) : Option Value :=
  (entries.find? fun entry => entry.1.text == key).map Prod.snd

/-- A repeated key keeps its place and takes the later value. -/
def insert {Value : Type} (entries : List (Key × Value)) (key : Key) (value : Value) :
    List (Key × Value) :=
  if entries.any fun entry => entry.1.text == key.text then
    entries.map fun entry => if entry.1.text == key.text then (entry.1, value) else entry
  else entries ++ [(key, value)]

namespace BareItem

def asInteger : BareItem → Option Int
  | integer value => some value.value
  | _ => none

def asString : BareItem → Option (List Char)
  | string text => some text.text
  | _ => none

def asByteSequence : BareItem → Option (List UInt8)
  | byteSequence bytes => some bytes
  | _ => none

end BareItem

/-!
## Serialization
-/

def escape : List Char → List Char
  | [] => []
  | character :: rest =>
      if character = '\\' ∨ character = '"' then '\\' :: character :: escape rest
      else character :: escape rest

def serializeInteger (value : Int) : List Char :=
  (if value < 0 then ['-'] else []) ++ Nat.toDigits 10 value.natAbs

/-- The fractional digits of a decimal without trailing zeros, at least one. -/
def fraction (thousandths : Nat) : List Char :=
  let digit (place : Nat) := Nat.digitChar (thousandths / place % 10)
  if thousandths % 100 = 0 then [digit 100]
  else if thousandths % 10 = 0 then [digit 100, digit 10]
  else [digit 100, digit 10, digit 1]

def serializeBareItem : BareItem → List Char
  | .integer value => serializeInteger value.value
  | .decimal value =>
      (if value.value < 0 then ['-'] else []) ++ Nat.toDigits 10 (value.value.natAbs / 1000) ++
        '.' :: fraction (value.value.natAbs % 1000)
  | .string text => '"' :: (escape text.text ++ ['"'])
  | .token text => text.text
  | .byteSequence bytes => ':' :: (Base64.encode bytes ++ [':'])
  | .boolean value => ['?', if value then '1' else '0']

def serializeParams (params : List (Key × BareItem)) : List Char :=
  params.flatMap fun param => ';' :: (param.1.text ++
    if param.2 = .boolean true then [] else '=' :: serializeBareItem param.2)

def serializeItem (item : Item) : List Char :=
  serializeBareItem item.bareItem ++ serializeParams item.params

def serializeInnerList (list : InnerList) : List Char :=
  '(' :: ([' '].intercalate (list.items.map serializeItem) ++ ')' :: serializeParams list.params)

/-!
## Parsing

Every parser returns the value it read and the text after it.
-/

def dropSpaces (text : List Char) : List Char := text.dropWhile (· == ' ')

def dropOptionalWhitespace (text : List Char) : List Char :=
  text.dropWhile fun character => character == ' ' || character == '\t'

def parseKey (text : List Char) : Option (Key × List Char) := do
  let key ← Checked.of? _ (text.takeWhile isKeyChar)
  return (key, text.dropWhile isKeyChar)

def Bounded.of? (value : Int) : Option Bounded :=
  if bounded : value.natAbs < 10 ^ 15 then some ⟨value, bounded⟩ else none

def parseUnsigned (sign : Int) (text : List Char) : Option (BareItem × List Char) :=
  let whole := text.takeWhile isDigit
  match text.dropWhile isDigit with
  | '.' :: afterPoint =>
      let part := (afterPoint.takeWhile isDigit).take 3
      let rest := afterPoint.dropWhile isDigit
      if whole.isEmpty || 12 < whole.length || part.isEmpty ||
          3 < (afterPoint.takeWhile isDigit).length then none
      else do
        let thousandths := Nat.ofDigitChars 10 whole 0 * 1000 +
          Nat.ofDigitChars 10 part 0 * 10 ^ (3 - part.length)
        let value ← Bounded.of? (sign * thousandths)
        return (.decimal value, rest)
  | rest =>
      if whole.isEmpty || 15 < whole.length then none
      else do
        let value ← Bounded.of? (sign * Nat.ofDigitChars 10 whole 0)
        return (.integer value, rest)

def parseStringRest : List Char → Option (List Char × List Char)
  | [] => none
  | '"' :: rest => some ([], rest)
  | '\\' :: escaped :: rest =>
      if escaped = '\\' ∨ escaped = '"' then
        (parseStringRest rest).map fun parsed => (escaped :: parsed.1, parsed.2)
      else none
  | character :: rest =>
      if isPrintable character then
        (parseStringRest rest).map fun parsed => (character :: parsed.1, parsed.2)
      else none

def parseBareItem : List Char → Option (BareItem × List Char)
  | '-' :: rest => parseUnsigned (-1) rest
  | '"' :: rest => do
      let (characters, rest) ← parseStringRest rest
      let text ← Checked.of? _ characters
      return (.string text, rest)
  | ':' :: rest => do
      let bytes ← Base64.decodeIndifferent (rest.takeWhile (· != ':'))
      match rest.dropWhile (· != ':') with
      | ':' :: rest => some (.byteSequence bytes, rest)
      | _ => none
  | '?' :: '1' :: rest => some (.boolean true, rest)
  | '?' :: '0' :: rest => some (.boolean false, rest)
  | first :: rest =>
      if isDigit first then parseUnsigned 1 (first :: rest)
      else do
        let token ← Checked.of? _ ((first :: rest).takeWhile isTokenRest)
        return (.token token, (first :: rest).dropWhile isTokenRest)
  | [] => none

/-- The value after an optional equals sign; a missing one stands for true. -/
def parseValue (text : List Char) : Option (BareItem × List Char) :=
  match text with
  | '=' :: rest => parseBareItem rest
  | rest => some (.boolean true, rest)

def parseParams : Nat → List (Key × BareItem) → List Char →
    Option (List (Key × BareItem) × List Char)
  | 0, _, _ => none
  | fuel + 1, params, text =>
      match text with
      | ';' :: rest => do
          let (key, rest) ← parseKey (dropSpaces rest)
          let (value, rest) ← parseValue rest
          parseParams fuel (insert params key value) rest
      | rest => some (params, rest)

def parseItem (text : List Char) : Option (Item × List Char) := do
  let (bareItem, rest) ← parseBareItem text
  let (params, rest) ← parseParams (rest.length + 1) [] rest
  return (⟨bareItem, params⟩, rest)

def parseItems : Nat → List Item → List Char → Option (List Item × List Char)
  | 0, _, _ => none
  | fuel + 1, items, text =>
      match dropSpaces text with
      | ')' :: rest => some (items, rest)
      | rest => do
          let (item, rest) ← parseItem rest
          match rest with
          | ' ' :: _ => parseItems fuel (items ++ [item]) rest
          | ')' :: _ => parseItems fuel (items ++ [item]) rest
          | _ => none

def parseListEntry (text : List Char) : Option (ListEntry × List Char) :=
  match text with
  | '(' :: rest => do
      let (items, rest) ← parseItems (rest.length + 1) [] rest
      let (params, rest) ← parseParams (rest.length + 1) [] rest
      return (.innerList ⟨items, params⟩, rest)
  | rest => do
      let (item, rest) ← parseItem rest
      return (.item item, rest)

def parseMember (text : List Char) : Option (Key × ListEntry × List Char) := do
  let (key, rest) ← parseKey text
  match rest with
  | '=' :: rest =>
      let (entry, rest) ← parseListEntry rest
      return (key, entry, rest)
  | rest =>
      let (params, rest) ← parseParams (rest.length + 1) [] rest
      return (key, .item ⟨.boolean true, params⟩, rest)

def parseMembers : Nat → Dictionary → List Char → Option (Dictionary × List Char)
  | 0, _, _ => none
  | fuel + 1, members, text =>
      if text.isEmpty then some (members, text)
      else do
        let (key, entry, rest) ← parseMember text
        let members := insert members key entry
        match dropOptionalWhitespace rest with
        | [] => some (members, [])
        | ',' :: rest =>
            let rest := dropOptionalWhitespace rest
            if rest.isEmpty then none else parseMembers fuel members rest
        | _ => none

def parseDictionary (text : List Char) : Option Dictionary := do
  let text := dropSpaces text
  let (members, _) ← parseMembers (text.length + 1) [] text
  return members

end Roosty.Library.StructuredField
