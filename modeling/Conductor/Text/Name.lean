import Conductor.Text.Name.Alias
import Conductor.Text.Name.Alphabet
import Conductor.Text.Name.Ancient
import Conductor.Text.Name.Entry
import Conductor.Text.Name.Formula
import Conductor.Text.Name.Glyph
import Conductor.Text.Name.Picture
import Conductor.Text.Name.Script
import Conductor.Text.Name.Sign
import Conductor.Text.Name.Syllable

/-! Characters by their names in Unicode. Most names are in tables; ideographs are named for their code, and
Korean syllables for their letters. -/

namespace Conductor

namespace CharName

def tables : List (List String) :=
  [aliases, alphabets, signs, scripts, pictures, formulas, syllables, ancients, glyphs]

/-- Whether a code lies in one of several ranges. -/
def inRanges (ranges : List (Nat × Nat)) (n : Nat) : Bool :=
  ranges.any fun range => range.1 ≤ n && n ≤ range.2

/-- Four or five hexadecimal digits with capital letters. -/
def codeDigits? (cs : List Char) : Option Nat :=
  if (cs.length = 4 || cs.length = 5) && !cs.any Char.isLower then hexValue cs else none

/-- What follows the start of a text. -/
def after? (start : String) (cs : List Char) : Option (List Char) :=
  if start.toList.isPrefixOf cs then some (cs.drop start.length) else none

def unified : List (Nat × Nat) := [
  (0x3400, 0x4dbf), (0x4e00, 0x9fff), (0x20000, 0x2a6df), (0x2a700, 0x2b738), (0x2b740, 0x2b81d),
  (0x2b820, 0x2cea1), (0x2ceb0, 0x2ebe0), (0x30000, 0x3134a)]

/-- Names that end in the code, with the ranges of their codes. -/
def series : List (String × List (Nat × Nat)) := [
  ("CJK COMPATIBILITY IDEOGRAPH-", [(0xf900, 0xfa6d), (0xfa70, 0xfad9), (0x2f800, 0x2fa1d)]),
  ("KHITAN SMALL SCRIPT CHARACTER-", [(0x18b00, 0x18cd5)]),
  ("NUSHU CHARACTER-", [(0x1b170, 0x1b2fb)])]

/-- Looks up a name that ends in its code, which is written without zeros before it. -/
def inSeries? (name : List Char) : Option Nat :=
  series.findSome? fun entry =>
    match after? entry.1 name with
    | some digits =>
      (codeDigits? digits).filter fun n => inRanges entry.2 n && digits.length = (if n < 0x10000 then 4 else 5)
    | none => none

/-! Korean syllables -/

def leads : List String :=
  ["G", "GG", "N", "D", "DD", "R", "M", "B", "BB", "S", "SS", "", "J", "JJ", "C", "K", "T", "P", "H"]

def vowels : List String :=
  ["A", "AE", "YA", "YAE", "EO", "E", "YEO", "YE", "O", "WA", "WAE", "OE", "YO", "U", "WEO", "WE", "WI", "YU",
    "EU", "YI", "I"]

def tails : List String :=
  ["", "G", "GG", "GS", "N", "NJ", "NH", "D", "L", "LG", "LM", "LB", "LS", "LT", "LP", "LH", "M", "B", "BS",
    "S", "SS", "NG", "J", "C", "K", "T", "P", "H"]

/-- The longest of the letters that a text begins with, by its number, and what follows it. -/
def letter? (letters : List String) (cs : List Char) : Option (Nat × List Char) :=
  let found := letters.zipIdx.filter fun entry => entry.1.toList.isPrefixOf cs
  let size := found.foldl (fun n entry => max n entry.1.length) 0
  (found.find? fun entry => entry.1.length = size).map fun entry => (entry.2, cs.drop size)

def syllable? (cs : List Char) : Option Nat := do
  let (lead, cs) ← letter? leads cs
  let (vowel, cs) ← letter? vowels cs
  let (tail, cs) ← letter? tails cs
  if cs.isEmpty then some (0xac00 + (lead * vowels.length + vowel) * tails.length + tail) else none

/-- The code of a name. Only the names of ideographs and syllables must be in capitals. -/
def code? (name : List Char) : Option Nat :=
  match after? "HANGUL SYLLABLE " name, after? "CJK UNIFIED IDEOGRAPH-" name with
  | some letters, _ => syllable? letters
  | none, some digits => (codeDigits? digits).filter (inRanges unified)
  | none, none =>
    let capitals := name.map Char.toUpper
    (inSeries? capitals).or (tables.findSome? fun table => search capitals [] 0 (table.flatMap String.toList))

end CharName

/-- The character with a name. -/
def charNamed? (name : List Char) : Option Char := (CharName.code? name).map charOf

end Conductor
