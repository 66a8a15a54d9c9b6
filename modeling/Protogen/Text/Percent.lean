import Protogen.Text.Hex
import Protogen.Text.Utf8

/-!
# Percent signs

Bytes that may not stand for themselves are written as a percent sign and two
digits. Reading back turns every such triple into its byte; a percent sign that
begins none stands for itself.
-/

namespace Protogen

namespace Text

def isControl (c : Char) : Bool := decide (c.toNat < 0x20) || c.toNat == 0x7F

def percentByte (b : UInt8) : List Char :=
  ['%', upperHexDigit (b.toNat / 16), upperHexDigit (b.toNat % 16)]

/-- Writes every control, every character beyond ASCII and every character of
`escaped` by its bytes. -/
def percentEncoded (escaped cs : List Char) : List Char :=
  cs.flatMap fun c =>
    if isControl c || decide (0x7F < c.toNat) || escaped.contains c then
      (utf8Bytes (String.singleton c)).flatMap percentByte
    else [c]

def percentDecoded : List UInt8 → List UInt8
  | 0x25 :: a :: b :: rest =>
    match hexDigit? a, hexDigit? b with
    | some high, some low => UInt8.ofNat (high * 16 + low) :: percentDecoded rest
    | _, _ => 0x25 :: percentDecoded (a :: b :: rest)
  | b :: rest => b :: percentDecoded rest
  | [] => []

/-- The text that characters stand for, if they stand for one. -/
def percentDecoded? (cs : List Char) : Option String :=
  ofUtf8? (percentDecoded (utf8Bytes (String.ofList cs)))

end Text

end Protogen
