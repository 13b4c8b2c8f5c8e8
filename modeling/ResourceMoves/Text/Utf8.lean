/-!
# UTF-8

Bytes as characters.  Where bytes are not well-formed UTF-8, each longest run of them that begins a
character, or else a single byte, decodes to `none` (`decode`).
-/

namespace ResourceMoves.Text

/-- `b` continues a character. -/
def isContinuation (b : UInt8) : Bool := 0x80 ≤ b && b ≤ 0xbf

/-- The bytes that may follow `lead` directly. -/
def isSecond (lead second : UInt8) : Bool :=
  if lead = 0xe0 then 0xa0 ≤ second && second ≤ 0xbf
  else if lead = 0xed then 0x80 ≤ second && second ≤ 0x9f
  else if lead = 0xf0 then 0x90 ≤ second && second ≤ 0xbf
  else if lead = 0xf4 then 0x80 ≤ second && second ≤ 0x8f
  else isContinuation second

/-- How many bytes follow a lead byte. -/
def followers (lead : UInt8) : Nat :=
  if 0xc2 ≤ lead && lead ≤ 0xdf then 1
  else if 0xe0 ≤ lead && lead ≤ 0xef then 2
  else if 0xf0 ≤ lead && lead ≤ 0xf4 then 3
  else 0

/-- The six bits of a byte that continues a character. -/
def payload (b : UInt8) : Nat := b.toNat % 64

/-- The characters that bytes spell, `none` for bytes that spell none. -/
def decode : List UInt8 → List (Option Char)
  | [] => []
  | a :: r =>
      if a < 0x80 then some (Char.ofNat a.toNat) :: decode r
      else match followers a, r with
        | 1, b :: r' =>
            if isSecond a b then
              some (Char.ofNat (a.toNat % 32 * 64 + payload b)) :: decode r'
            else none :: decode (b :: r')
        | 2, b :: c :: r' =>
            if isSecond a b then
              if isContinuation c then
                some (Char.ofNat ((a.toNat % 16 * 64 + payload b) * 64 + payload c)) :: decode r'
              else none :: decode (c :: r')
            else none :: decode (b :: c :: r')
        | 3, b :: c :: d :: r' =>
            if isSecond a b then
              if isContinuation c then
                if isContinuation d then
                  let n := ((a.toNat % 8 * 64 + payload b) * 64 + payload c) * 64 + payload d
                  some (Char.ofNat n) :: decode r'
                else none :: decode (d :: r')
              else none :: decode (c :: d :: r')
            else none :: decode (b :: c :: d :: r')
        | 3, b :: c :: [] =>
            if isSecond a b then
              if isContinuation c then [none] else none :: decode [c]
            else none :: decode (b :: c :: [])
        | 0, r => none :: decode r
        | _, b :: [] => if isSecond a b then [none] else none :: decode [b]
        | _, r => none :: decode r
termination_by bytes => bytes.length

/-- The text of bytes, with a replacement character where they spell none. -/
def decodeLossy (bytes : List UInt8) : String :=
  .ofList ((decode bytes).map fun c => c.getD '\ufffd')

/-- The text of bytes that are well-formed UTF-8. -/
def decode? (bytes : List UInt8) : Option String :=
  ((decode bytes).mapM id).map String.ofList

/-- The bytes of a text. -/
def encode (s : String) : List UInt8 := s.toUTF8.toList

end ResourceMoves.Text
