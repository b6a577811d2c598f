/-!
# Characters and texts

Tables of code points read from compact text, the blank characters and trimming, and the
searches of one text in another.
-/

namespace ScriptHost.Text

/-! ## Tables of code points

Character classes and case maps are tables of the Unicode standard. They are written
compactly as text, hexadecimal numerals separated by blanks, and read once into arrays
sorted by code point. A class is a sorted list of disjoint ranges `lo-hi` (a single code
point stands alone), searched by halving.
-/

/-- The value of one hexadecimal digit written with `0-9` and `A-F`. -/
def hexDigit (c : Char) : Nat :=
  if c.isDigit then c.toNat - '0'.toNat else c.toNat - 'A'.toNat + 10

def hexValue (s : String) : Nat :=
  s.foldl (fun acc c => acc * 16 + hexDigit c) 0

/-- A signed hexadecimal numeral: a leading `-` negates it. -/
def signedHexValue (s : String) : Int :=
  if s.startsWith "-" then -(hexValue (s.drop 1).toString : Int) else (hexValue s : Int)

def fieldsOf (s : String) : List String :=
  (s.splitOn " ").filter (· ≠ "")

/-- Reads one range `lo-hi`, or a single code point `c` as `c-c`. -/
def readRange (s : String) : Nat × Nat :=
  match s.splitOn "-" with
  | [lo, hi] => (hexValue lo, hexValue hi)
  | _ => (hexValue s, hexValue s)

def readRanges (s : String) : Array (Nat × Nat) :=
  ((fieldsOf s).map readRange).toArray

/-- Whether `c` lies in one of the sorted disjoint ranges of `t`, found by halving the
part of the table that can still hold it. -/
def rangesContain (t : Array (Nat × Nat)) (c : Nat) : Bool :=
  search 0 t.size
where
  search (lo hi : Nat) : Bool :=
    if lo < hi then
      let mid := (lo + hi) / 2
      match t[mid]? with
      | none => false
      | some (a, b) =>
          if c < a then search lo mid
          else if b < c then search (mid + 1) hi
          else true
    else false
  termination_by hi - lo

/-! ## Blank characters and trimming

The class `White_Space` of the Unicode standard: the ASCII blanks and controls `\t` to
`\r`, the next line and no-break space characters, the Ogham mark, the typographic spaces
of the general punctuation block, the line and paragraph separators and the ideographic
space. Trimming removes characters of this class from both ends of a text.
-/

/-- The ranges of `White_Space`, in increasing order. -/
def blankRanges : List (Nat × Nat) :=
  [(0x9, 0xD), (0x20, 0x20), (0x85, 0x85), (0xA0, 0xA0), (0x1680, 0x1680),
   (0x2000, 0x200A), (0x2028, 0x2029), (0x202F, 0x202F), (0x205F, 0x205F),
   (0x3000, 0x3000)]

/-- A character of the class `White_Space`. -/
def isBlank (c : Char) : Bool :=
  blankRanges.any fun (lo, hi) => lo ≤ c.toNat && c.toNat ≤ hi

def trimChars (cs : List Char) : List Char :=
  ((cs.dropWhile isBlank).reverse.dropWhile isBlank).reverse

/-- The text with the blanks at both ends removed. -/
def trim (s : String) : String :=
  String.ofList (trimChars s.toList)

/-- Every character that core counts as whitespace is a blank. -/
theorem isBlank_of_isWhitespace (c : Char) (h : c.isWhitespace = true) : isBlank c = true := by
  simp only [Char.isWhitespace, Bool.or_eq_true, decide_eq_true_eq] at h
  rcases h with ((h | h) | h) | h <;>
    simp [isBlank, blankRanges, h]

/-! ## Finding text in text

Prefix, suffix and infix tests on the characters of two texts. The empty text is a
prefix, a suffix and an infix of every text.
-/

/-- Whether `needle` occurs in `hay` as a contiguous run. -/
def containsChars (hay needle : List Char) : Bool :=
  if needle.isPrefixOf hay then true
  else
    match hay with
    | [] => false
    | _ :: rest => containsChars rest needle

/-- The search finds exactly the infixes: no false hits and no misses. -/
theorem containsChars_iff_infix (hay needle : List Char) :
    containsChars hay needle = true ↔ needle <:+: hay := by
  induction hay with
  | nil =>
      rw [containsChars]
      by_cases h : needle.isPrefixOf ([] : List Char) = true
      · simp only [h, if_true, true_iff]
        exact (List.isPrefixOf_iff_prefix.mp h).isInfix
      · simp only [h, Bool.false_eq_true, if_false, false_iff]
        intro hi
        exact h (List.isPrefixOf_iff_prefix.mpr (List.eq_nil_of_infix_nil hi ▸ List.nil_prefix))
  | cons c rest ih =>
      rw [containsChars]
      by_cases h : needle.isPrefixOf (c :: rest) = true
      · simp only [h, if_true, true_iff]
        exact (List.isPrefixOf_iff_prefix.mp h).isInfix
      · simp only [h, Bool.false_eq_true, if_false, ih]
        constructor
        · exact List.infix_cons
        · intro hi
          rcases List.infix_cons_iff.mp hi with hp | hs
          · exact absurd (List.isPrefixOf_iff_prefix.mpr hp) h
          · exact hs

def contains (hay needle : String) : Bool :=
  containsChars hay.toList needle.toList

def startsWith (hay pre : String) : Bool :=
  pre.toList.isPrefixOf hay.toList

def endsWith (hay suf : String) : Bool :=
  suf.toList.reverse.isPrefixOf hay.toList.reverse

end ScriptHost.Text
