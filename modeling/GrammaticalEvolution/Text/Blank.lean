/-!
# White space and lines

White space is the full set of characters with that property.  Lines end at a
line feed, and a carriage return just before it belongs to the line end; a
carriage return elsewhere is an ordinary character.
-/

namespace GrammaticalEvolution.Text

def blankCodes : List Nat :=
  [0x9, 0xa, 0xb, 0xc, 0xd, 0x20, 0x85, 0xa0, 0x1680, 0x2000, 0x2001, 0x2002,
   0x2003, 0x2004, 0x2005, 0x2006, 0x2007, 0x2008, 0x2009, 0x200a, 0x2028,
   0x2029, 0x202f, 0x205f, 0x3000]

def isBlank (char : Char) : Bool :=
  blankCodes.contains char.toNat

/-- A text without the white space at its two ends. -/
def trim (chars : List Char) : List Char :=
  ((chars.dropWhile isBlank).reverse.dropWhile isBlank).reverse

/-- A line without the carriage return that belongs to its end. -/
def dropReturn (line : List Char) : List Char :=
  if line.getLast? = some '\r' then line.dropLast else line

/-- The pieces between line feeds; the last one is what follows the last line
feed, possibly nothing. -/
def pieces : List Char → List (List Char)
  | [] => [[]]
  | char :: rest =>
      if char = '\n' then [] :: pieces rest
      else match pieces rest with
        | [] => [[char]]
        | piece :: others => (char :: piece) :: others

/-- The lines of a text.  Characters after the last line feed are a line of
their own, unless there are none. -/
def lines (chars : List Char) : List (List Char) :=
  let all := pieces chars
  let last := all.getLastD []
  all.dropLast.map dropReturn ++ (if last = [] then [] else [last])

/-- A line that has a character other than white space. -/
def isFilled (line : List Char) : Bool :=
  !(line.all isBlank)

end GrammaticalEvolution.Text
