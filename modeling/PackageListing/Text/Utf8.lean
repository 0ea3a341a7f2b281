/-
# Bytes as text

Text is stored in bytes by the usual variable-length code: one byte up to `7f`, then two, three
and four bytes, each character by its shortest form, surrogates excluded. `decode` reads any
bytes: what is no character becomes a gap, one gap for the longest start of a character that
breaks off. `text?` refuses gaps and `lossyText` shows them as replacement characters.
-/

namespace PackageListing
namespace Text

/-- A byte that continues a character. -/
def isContinuation (b : UInt8) : Bool :=
  decide (0x80 ≤ b) && decide (b ≤ 0xbf)

/-- The bytes that may follow the first byte `a` of a character of three bytes. -/
def secondOfThree (a b : UInt8) : Bool :=
  if a = 0xe0 then decide (0xa0 ≤ b) && decide (b ≤ 0xbf)
  else if a = 0xed then decide (0x80 ≤ b) && decide (b ≤ 0x9f)
  else isContinuation b

/-- The bytes that may follow the first byte `a` of a character of four bytes. -/
def secondOfFour (a b : UInt8) : Bool :=
  if a = 0xf0 then decide (0x90 ≤ b) && decide (b ≤ 0xbf)
  else if a = 0xf4 then decide (0x80 ≤ b) && decide (b ≤ 0x8f)
  else isContinuation b

/-- The low six bits that a continuation byte carries. -/
def payload (b : UInt8) : Nat :=
  b.toNat % 64

/-- Reads a character, or a gap, that begins with the byte `a`. -/
def decodeFrom (a : UInt8) (rest : List UInt8) : Option Char × List UInt8 :=
  if a < 0x80 then (some (Char.ofNat a.toNat), rest)
  else if decide (0xc2 ≤ a) && decide (a ≤ 0xdf) then
    match rest with
    | b :: rest' =>
      if isContinuation b then
        (some (Char.ofNat (a.toNat % 32 * 64 + payload b)), rest')
      else (none, rest)
    | [] => (none, [])
  else if decide (0xe0 ≤ a) && decide (a ≤ 0xef) then
    match rest with
    | b :: rest' =>
      if secondOfThree a b then
        match rest' with
        | c :: rest'' =>
          if isContinuation c then
            (some (Char.ofNat ((a.toNat % 16 * 64 + payload b) * 64 + payload c)), rest'')
          else (none, rest')
        | [] => (none, [])
      else (none, rest)
    | [] => (none, [])
  else if decide (0xf0 ≤ a) && decide (a ≤ 0xf4) then
    match rest with
    | b :: rest' =>
      if secondOfFour a b then
        match rest' with
        | c :: rest'' =>
          if isContinuation c then
            match rest'' with
            | d :: rest''' =>
              if isContinuation d then
                (some (Char.ofNat
                  (((a.toNat % 8 * 64 + payload b) * 64 + payload c) * 64 + payload d)), rest''')
              else (none, rest'')
            | [] => (none, [])
          else (none, rest')
        | [] => (none, [])
      else (none, rest)
    | [] => (none, [])
  else (none, rest)

theorem length_decodeFrom_le (a : UInt8) (rest : List UInt8) :
    (decodeFrom a rest).2.length ≤ rest.length := by
  unfold decodeFrom
  repeat' split
  all_goals simp only [List.length_cons, List.length_nil]
  all_goals omega

/-- The characters of a byte string, with a gap for what is none. -/
def decode : List UInt8 → List (Option Char)
  | [] => []
  | a :: rest => (decodeFrom a rest).1 :: decode (decodeFrom a rest).2
  termination_by bytes => bytes.length
  decreasing_by
    have := length_decodeFrom_le a rest
    simp only [List.length_cons]; omega

/-- The text of a byte string without gaps. -/
def text? (bytes : List UInt8) : Option (List Char) :=
  (decode bytes).mapM id

/-- The text of a byte string, each gap shown as a replacement character. -/
def lossyText (bytes : List UInt8) : List Char :=
  (decode bytes).map fun c => c.getD '\ufffd'

/-- The bytes of a text. -/
def encode (s : List Char) : List UInt8 :=
  s.flatMap String.utf8EncodeChar

end Text
end PackageListing
