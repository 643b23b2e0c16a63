/-!
# UTF-8

Texts as byte strings.  The decoder is a machine over the octets whose state is the sequence that is
still incomplete; the range of the next octet is part of the state, so that overlong forms,
surrogates and code points beyond the last one are refused at the octet that makes them so.

* `encode` : the octets of a text
* `decode?` : the text, if the octets are well formed
* `decodeLossy` : the text with one replacement character for each maximal ill-formed part
-/

namespace SipBench.Text.Utf8

/-- The octets of a text. -/
def encode (cs : List Char) : List UInt8 := cs.flatMap String.utf8EncodeChar

/-- A sequence that has begun: how many octets are missing, where the next one must lie, and the
bits that were read. -/
structure Incomplete where
  missing : Nat
  low : UInt8
  high : UInt8
  bits : Nat

/-- What an octet can begin. -/
inductive Beginning where
  | char (c : Char)
  | sequence (s : Incomplete)
  | stray

/-- What `b` begins. -/
def beginning (b : UInt8) : Beginning :=
  let n := b.toNat
  if n < 0x80 then .char (Char.ofNat n)
  else if n < 0xc2 then .stray
  else if n < 0xe0 then .sequence ⟨1, 0x80, 0xbf, n - 0xc0⟩
  else if n = 0xe0 then .sequence ⟨2, 0xa0, 0xbf, 0⟩
  else if n = 0xed then .sequence ⟨2, 0x80, 0x9f, 0xd⟩
  else if n < 0xf0 then .sequence ⟨2, 0x80, 0xbf, n - 0xe0⟩
  else if n = 0xf0 then .sequence ⟨3, 0x90, 0xbf, 0⟩
  else if n < 0xf4 then .sequence ⟨3, 0x80, 0xbf, n - 0xf0⟩
  else if n = 0xf4 then .sequence ⟨3, 0x80, 0x8f, 4⟩
  else .stray

/-- The characters of a byte string, with `none` for each maximal ill-formed part; `state` is the
sequence that has begun, if any. -/
def decodeFrom (state : Option Incomplete) : List UInt8 → List (Option Char)
  | [] => if state.isSome then [none] else []
  | b :: bs =>
    let afresh := match beginning b with
      | .char c => some c :: decodeFrom none bs
      | .sequence s => decodeFrom (some s) bs
      | .stray => none :: decodeFrom none bs
    match state with
    | none => afresh
    | some s =>
      if s.low ≤ b && b ≤ s.high then
        let bits := s.bits * 64 + (b.toNat - 0x80)
        if s.missing = 1 then some (Char.ofNat bits) :: decodeFrom none bs
        else decodeFrom (some ⟨s.missing - 1, 0x80, 0xbf, bits⟩) bs
      else none :: afresh

/-- The text of a well-formed byte string. -/
def decode? (bytes : List UInt8) : Option (List Char) := (decodeFrom none bytes).mapM id

/-- The text of a byte string, each maximal ill-formed part read as U+FFFD. -/
def decodeLossy (bytes : List UInt8) : List Char :=
  (decodeFrom none bytes).map (·.getD (Char.ofNat 0xfffd))

end SipBench.Text.Utf8
