set_option autoImplicit false

namespace SceneFormula

/-- A text is a sequence of code points; every position and length counts them. -/
abbrev Text := List Char

/-- Code point ranges, both ends included, of the characters that separate words. -/
def blankRanges : List (Nat × Nat) :=
  [(0x9, 0xd), (0x1c, 0x20), (0x85, 0x85), (0xa0, 0xa0), (0x1680, 0x1680), (0x2000, 0x200a),
    (0x2028, 0x2029), (0x202f, 0x202f), (0x205f, 0x205f), (0x3000, 0x3000)]

def inRanges (ranges : List (Nat × Nat)) (code : Nat) : Bool :=
  ranges.any fun range => range.1 ≤ code && code ≤ range.2

def isBlank (c : Char) : Bool :=
  inRanges blankRanges c.toNat

namespace Text

def stripLeft (text : Text) : Text :=
  text.dropWhile isBlank

def stripRight (text : Text) : Text :=
  (text.reverse.dropWhile isBlank).reverse

def strip (text : Text) : Text :=
  text.stripLeft.stripRight

/-- Whether nothing but blanks is in the text. -/
def isAllBlank (text : Text) : Bool :=
  text.all isBlank

/-- A text written in the program's own source. -/
def lit (s : String) : Text :=
  s.toList

end Text
end SceneFormula
