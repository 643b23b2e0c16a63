/-!
# White space

The characters that separate words and that are trimmed from the ends of a text: the controls from
tab to carriage return, the information separators, next line, and the space, line and paragraph
separators of Unicode.  Zero-width characters are not white space.
-/

namespace SipBench.Text

/-- A white-space character. -/
def isBlank (c : Char) : Bool :=
  let n := c.toNat
  (9 ≤ n && n ≤ 13) || (0x1c ≤ n && n ≤ 0x20) || n == 0x85 || n == 0xa0 || n == 0x1680
    || (0x2000 ≤ n && n ≤ 0x200a) || n == 0x2028 || n == 0x2029 || n == 0x202f || n == 0x205f
    || n == 0x3000

/-- `cs` without the characters at both ends that satisfy `p`. -/
def trimBy (p : Char → Bool) (cs : List Char) : List Char :=
  ((cs.dropWhile p).reverse.dropWhile p).reverse

/-- `cs` without white space at both ends. -/
def trim (cs : List Char) : List Char := trimBy isBlank cs

/-- `cs` without white space at its end. -/
def trimEnd (cs : List Char) : List Char := (cs.reverse.dropWhile isBlank).reverse

/-- The maximal runs free of white space, in order. -/
def words (cs : List Char) : List (List Char) :=
  match _h : cs.dropWhile isBlank with
  | [] => []
  | c :: rest =>
    (c :: rest.takeWhile (!isBlank ·)) :: words (rest.dropWhile (!isBlank ·))
termination_by cs.length
decreasing_by
  have h₁ : (cs.dropWhile isBlank).length ≤ cs.length := (List.dropWhile_sublist _).length_le
  have h₂ : (rest.dropWhile (!isBlank ·)).length ≤ rest.length :=
    (List.dropWhile_sublist _).length_le
  rw [_h, List.length_cons] at h₁
  omega

/-- The pieces of `cs` between the occurrences of `separator`: one more than there are
separators. -/
def splitAt (separator : Char) : List Char → List (List Char)
  | [] => [[]]
  | c :: cs =>
    if c = separator then [] :: splitAt separator cs
    else match splitAt separator cs with
      | [] => [[c]]
      | piece :: pieces => (c :: piece) :: pieces

/-- What stands before the first `separator` and, if there is one, what stands after it. -/
def cutAt (separator : Char) (cs : List Char) : List Char × Option (List Char) :=
  match cs.dropWhile (· ≠ separator) with
  | [] => (cs, none)
  | _ :: rest => (cs.takeWhile (· ≠ separator), some rest)

/-- Whether `piece` occurs somewhere in a list. -/
def occursIn {α : Type} [BEq α] (piece : List α) : List α → Bool
  | [] => piece.isEmpty
  | x :: xs => piece.isPrefixOf (x :: xs) || occursIn piece xs

/-- The text without white space at both ends. -/
def trimmed (s : String) : String := String.ofList (trim s.toList)

end SipBench.Text
