import SipBench.Text.CaseTable

/-!
# Letter case

Full case mappings: a character may map to several, a capital sigma at the end of a word has its own
small form, and digraphs have a title case.

* `lower`, `upper`, `capitalize` : the mapped texts
* `foldLetter` : the ASCII letter that a character matches when letter case does not count
-/

namespace SipBench.Text

/-- The image of `c` under a table of runs and a table of sequences, if it has one. -/
def mapCase? (runs : Array CaseRun) (sequences : List (Nat × List Nat)) (c : Char) :
    Option (List Char) :=
  match sequences.lookup c.toNat with
  | some image => some (image.map Char.ofNat)
  | none => (runs.findSome? (·.map? c.toNat)).map fun n => [Char.ofNat n]

/-- The lower case of a character that stands alone. -/
def lowerChar (c : Char) : List Char :=
  if c.toNat < 0x80 then [c.toLower] else (mapCase? lowerRuns lowerSequences c).getD [c]

/-- The upper case of a character. -/
def upperChar (c : Char) : List Char :=
  if c.toNat < 0x80 then [c.toUpper] else (mapCase? upperRuns upperSequences c).getD [c]

/-- The title case of a character, which differs from the upper case for digraphs and some
others. -/
def titleChar (c : Char) : List Char :=
  if c.toNat < 0x80 then [c.toUpper]
  else (mapCase? titleRuns titleSequences c).getD (upperChar c)

/-- Whether `c` is a cased letter. -/
def isCased (c : Char) : Bool := casedRanges.any fun r => r.1 ≤ c.toNat && c.toNat ≤ r.2

/-- Whether `c` is skipped when the letters next to a sigma are looked for. -/
def isCaseIgnorable (c : Char) : Bool :=
  ignorableRanges.any fun r => r.1 ≤ c.toNat && c.toNat ≤ r.2

/-- Whether the nearest character that counts is a cased letter. -/
def meetsCased (cs : List Char) : Bool :=
  match cs.dropWhile isCaseIgnorable with
  | [] => false
  | c :: _ => isCased c

/-- The lower case of `cs`, where `before` holds the characters that precede, the nearest first.  A
capital sigma that ends a word becomes a final sigma. -/
def lowerAfter (before : List Char) : List Char → List Char
  | [] => []
  | c :: cs =>
    (if c.toNat = 0x3a3 then
      if meetsCased before && !meetsCased cs then [Char.ofNat 0x3c2] else [Char.ofNat 0x3c3]
     else lowerChar c) ++ lowerAfter (c :: before) cs

/-- The lower case of a text. -/
def lower (cs : List Char) : List Char := lowerAfter [] cs

/-- The upper case of a text. -/
def upper (cs : List Char) : List Char := cs.flatMap upperChar

/-- The first character in title case and all others in lower case. -/
def capitalize : List Char → List Char
  | [] => []
  | c :: cs => titleChar c ++ lowerAfter [c] cs

/-- The ASCII letter in lower case that `c` matches when letter case does not count: the dotted and
the dotless i match i, the long s matches s and the Kelvin sign matches k. -/
def foldLetter (c : Char) : Char :=
  if c.toNat = 0x130 ∨ c.toNat = 0x131 then 'i'
  else if c.toNat = 0x17f then 's'
  else if c.toNat = 0x212a then 'k'
  else c.toLower

/-- The text in lower case. -/
def lowered (s : String) : String := String.ofList (lower s.toList)

/-- The text in upper case. -/
def uppered (s : String) : String := String.ofList (upper s.toList)

end SipBench.Text
