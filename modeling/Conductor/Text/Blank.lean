/-! Blank characters, and texts that hold nothing else. -/

namespace Conductor

/-- Characters that separate words in any script, with the separators of control text. -/
def isBlank (c : Char) : Bool :=
  let n := c.toNat
  (9 ≤ n && n ≤ 13) || (28 ≤ n && n ≤ 32) || n = 0x85 || n = 0xa0 || n = 0x1680 ||
    (0x2000 ≤ n && n ≤ 0x200a) || n = 0x2028 || n = 0x2029 || n = 0x202f || n = 0x205f || n = 0x3000

def trimList (cs : List Char) : List Char :=
  ((cs.dropWhile isBlank).reverse.dropWhile isBlank).reverse

/-- Drops blank characters at both ends. -/
def trim (s : String) : String :=
  String.ofList (trimList s.toList)

def allBlank (s : String) : Bool :=
  s.toList.all isBlank

end Conductor
