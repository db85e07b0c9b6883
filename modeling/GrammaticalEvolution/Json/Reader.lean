import GrammaticalEvolution.Json.Number
import GrammaticalEvolution.Text.Blank
import GrammaticalEvolution.Text.Hex

/-!
# Expressions read from JSON text

Reading goes from left to right and stops at the first fault.  Null values and
objects are well-formed but no expression has them; that is reported only when
the whole value is free of other faults.  At most `openBrackets` arrays and
objects may be open at once.
-/

namespace GrammaticalEvolution.Json

open Text

/-- Most arrays and objects that may be open at once. -/
def openBrackets : Nat := 127

def isSpace (char : Char) : Bool :=
  char == ' ' || char == '\t' || char == '\n' || char == '\r'

def skipSpace (chars : List Char) : List Char :=
  chars.dropWhile isSpace

/-- Four hexadecimal digits.  A text with fewer than four bytes left ends too
early, whatever the bytes are. -/
def readUnit : List Char → Except Fault (Read Nat)
  | first :: second :: third :: fourth :: rest =>
      match hexValue? first, hexValue? second, hexValue? third,
          hexValue? fourth with
      | some first, some second, some third, some fourth =>
          .ok (((first * 16 + second) * 16 + third) * 16 + fourth, rest)
      | _, _, _, _ => .error .malformed
  | chars =>
      if (String.ofList chars).utf8ByteSize < 4 then .error .truncated
      else .error .malformed

def isHighSurrogate (unit : Nat) : Bool :=
  0xd800 ≤ unit && unit ≤ 0xdbff

def isLowSurrogate (unit : Nat) : Bool :=
  0xdc00 ≤ unit && unit ≤ 0xdfff

/-- The second half of a surrogate pair, with its own escape. -/
def readLowSurrogate (high : Nat) : List Char → Except Fault (Read Char)
  | '\\' :: 'u' :: rest => do
      let (low, rest) ← readUnit rest
      if isLowSurrogate low then
        return (Char.ofNat (0x10000 + (high - 0xd800) * 0x400 + (low - 0xdc00)),
          rest)
      else .error .malformed
  | ['\\'] => .error .truncated
  | chars => unexpected chars

/-- A character given by the number of its code unit, or by two of them. -/
def readCode (chars : List Char) : Except Fault (Read Char) := do
  let (unit, rest) ← readUnit chars
  if isHighSurrogate unit then readLowSurrogate unit rest
  else if isLowSurrogate unit then .error .malformed
  else return (Char.ofNat unit, rest)

def readEscape : List Char → Except Fault (Read Char)
  | '"' :: rest => .ok ('"', rest)
  | '\\' :: rest => .ok ('\\', rest)
  | '/' :: rest => .ok ('/', rest)
  | 'b' :: rest => .ok ('\x08', rest)
  | 'f' :: rest => .ok ('\x0c', rest)
  | 'n' :: rest => .ok ('\n', rest)
  | 'r' :: rest => .ok ('\r', rest)
  | 't' :: rest => .ok ('\t', rest)
  | 'u' :: rest => readCode rest
  | chars => unexpected chars

/-- A string after its opening quotation mark.  Every escape and every plain
character uses up one step, so the length of the text suffices. -/
def readStringWithin :
    (steps : Nat) → List Char → Except Fault (Read (List Char))
  | 0, _ => .error .truncated
  | _ + 1, [] => .error .truncated
  | _ + 1, '"' :: rest => .ok ([], rest)
  | steps + 1, '\\' :: rest => do
      let (char, rest) ← readEscape rest
      let (text, rest) ← readStringWithin steps rest
      return (char :: text, rest)
  | steps + 1, char :: rest =>
      if char.toNat < 0x20 then .error .malformed
      else do
        let (text, rest) ← readStringWithin steps rest
        return (char :: text, rest)

def readString (chars : List Char) : Except Fault (Read (List Char)) :=
  readStringWithin (chars.length + 1) chars

def readWord : (word : List Char) → List Char → Except Fault (Read Unit)
  | [], rest => .ok ((), rest)
  | _ :: _, [] => .error .truncated
  | expected :: word, char :: rest =>
      if char = expected then readWord word rest else .error .malformed

/-- How a value is read: `none` stands for one that no expression has. -/
abbrev ValueReader := List Char → Except Fault (Read (Option Expression))

/-- The items of an array, each followed by a comma or the closing bracket. -/
def readItems (readItem : ValueReader) :
    (steps : Nat) → List Char → Except Fault (Read (Option (List Expression)))
  | 0, _ => .error .truncated
  | steps + 1, chars => do
      let (item, rest) ← readItem chars
      match skipSpace rest with
      | ']' :: rest => return (item.map ([·]), rest)
      | ',' :: rest =>
          match skipSpace rest with
          | ']' :: _ => .error .malformed
          | following =>
              let (items, rest) ← readItems readItem steps following
              return ((item.bind fun item => items.map (item :: ·)), rest)
      | other => unexpected other

def readArray (readItem : ValueReader) (chars : List Char) :
    Except Fault (Read (Option Expression)) :=
  match skipSpace chars with
  | ']' :: rest => .ok (some (.list []), rest)
  | [] => .error .truncated
  | following => do
      let (items, rest) ← readItems readItem (following.length + 1) following
      return (items.map .list, rest)

/-- The members of an object, each followed by a comma or the closing brace. -/
def readMembers (readItem : ValueReader) :
    (steps : Nat) → List Char → Except Fault (Read Unit)
  | 0, _ => .error .truncated
  | steps + 1, '"' :: chars => do
      let (_, rest) ← readString chars
      match skipSpace rest with
      | ':' :: rest =>
          let (_, rest) ← readItem rest
          match skipSpace rest with
          | '\x7d' :: rest => return ((), rest)
          | ',' :: rest => readMembers readItem steps (skipSpace rest)
          | other => unexpected other
      | other => unexpected other
  | _ + 1, chars => unexpected chars

/-- An object after its opening brace.  It is read to its end, though no
expression has it. -/
def readObject (readItem : ValueReader) (chars : List Char) :
    Except Fault (Read (Option Expression)) :=
  match skipSpace chars with
  | '\x7d' :: rest => .ok (none, rest)
  | following => do
      let ((), rest) ← readMembers readItem (following.length + 1) following
      return (none, rest)

/-- A value that may open one more bracket exactly if a reader for what stands
inside is given. -/
def readValueWith (inner : Option ValueReader) (chars : List Char) :
    Except Fault (Read (Option Expression)) :=
  match skipSpace chars with
  | '[' :: rest =>
      match inner with
      | some readItem => readArray readItem rest
      | none => .error .malformed
  | '\x7b' :: rest =>
      match inner with
      | some readItem => readObject readItem rest
      | none => .error .malformed
  | '"' :: rest => do
      let (text, rest) ← readString rest
      return (some (.symbol (String.ofList text)), rest)
  | 't' :: rest => do
      let ((), rest) ← readWord "rue".toList rest
      return (some (.atom (.bool true)), rest)
  | 'f' :: rest => do
      let ((), rest) ← readWord "alse".toList rest
      return (some (.atom (.bool false)), rest)
  | 'n' :: rest => do
      let ((), rest) ← readWord "ull".toList rest
      return (none, rest)
  | following => do
      let (number, rest) ← readNumber following
      return (some (.atom number), rest)

/-- A value that may open as many nested brackets as there is room for. -/
def readValue : (room : Nat) → ValueReader
  | 0 => readValueWith none
  | room + 1 => readValueWith (some (readValue room))

/-- The expression that a whole text holds, white space around it aside. -/
def read (chars : List Char) : Except Fault Expression := do
  let (value, rest) ← readValue openBrackets (trim chars)
  match value with
  | none => .error .unfit
  | some expression =>
      if skipSpace rest = [] then return expression else .error .malformed

end GrammaticalEvolution.Json
