/-!
# White space

The characters that separate words, and the operations on texts that depend on them: cutting blanks
off the ends, splitting into words, and folding every run of blanks to a single space.

The class is the white space of Unicode together with the four separators U+001C to U+001F, so a
no-break space separates words like an ordinary one.
-/

namespace SchemaCatalog.Text

def isBlank (c : Char) : Bool :=
  let n := c.toNat
  (9 ≤ n && n ≤ 13) || (0x1c ≤ n && n ≤ 0x20) || n == 0x85 || n == 0xa0 || n == 0x1680
    || (0x2000 ≤ n && n ≤ 0x200a) || n == 0x2028 || n == 0x2029 || n == 0x202f || n == 0x205f
    || n == 0x3000

def dropBlanks (cs : List Char) : List Char := cs.dropWhile isBlank

theorem length_dropBlanks_le (cs : List Char) : (dropBlanks cs).length ≤ cs.length :=
  (List.dropWhile_sublist isBlank).length_le

def dropBlanksRight (cs : List Char) : List Char := (dropBlanks cs.reverse).reverse

def stripChars (cs : List Char) : List Char := dropBlanksRight (dropBlanks cs)

def strip (s : String) : String := String.ofList (stripChars s.toList)

/-- The maximal blank-free runs of a character list: `run` is the run being read, last character
first. -/
def wordsFrom (run : List Char) : List Char → List (List Char)
  | [] => if run.isEmpty then [] else [run.reverse]
  | c :: cs =>
    if isBlank c then
      if run.isEmpty then wordsFrom [] cs else run.reverse :: wordsFrom [] cs
    else wordsFrom (c :: run) cs

/-- The words of a text: its maximal blank-free runs. -/
def words (s : String) : List String := (wordsFrom [] s.toList).map String.ofList

/-- A text with its words parted by single spaces and no blanks at the ends. -/
def foldBlanks (s : String) : String := " ".intercalate (words s)

def stripChar (c : Char) (s : String) : String :=
  String.ofList ((s.toList.dropWhile (· == c)).reverse.dropWhile (· == c)).reverse

end SchemaCatalog.Text
