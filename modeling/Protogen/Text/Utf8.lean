/-!
# Bytes as text

`utf8Bytes` and `ofUtf8?` convert between texts and their encoding. Bytes that
are no encoding of a text are shown with the replacement character: each longest
run that begins a character and cannot be continued counts as one, and so does
each byte that begins none.
-/

namespace Protogen

namespace Text

def utf8Bytes (s : String) : List UInt8 := s.toUTF8.data.toList

def ofUtf8? (bs : List UInt8) : Option String := String.fromUTF8? ⟨⟨bs⟩⟩

theorem ofUtf8?_utf8Bytes (s : String) : ofUtf8? (utf8Bytes s) = some s := by
  simp [ofUtf8?, utf8Bytes, String.fromUTF8?, s.isValidUTF8, String.fromUTF8]

def isContinuation (b : UInt8) : Bool := b &&& 0xC0 == 0x80

/-- Whether `b` may follow the first byte `lead` of a three-byte character. -/
def isSecondOfThree (lead b : UInt8) : Bool :=
  if lead = 0xE0 then 0xA0 ≤ b && b ≤ 0xBF
  else if lead = 0xED then 0x80 ≤ b && b ≤ 0x9F
  else isContinuation b

/-- Whether `b` may follow the first byte `lead` of a four-byte character. -/
def isSecondOfFour (lead b : UInt8) : Bool :=
  if lead = 0xF0 then 0x90 ≤ b && b ≤ 0xBF
  else if lead = 0xF4 then 0x80 ≤ b && b ≤ 0x8F
  else isContinuation b

/-- The low six bits of each byte in turn, below the given high bits. -/
def assemble (high : Nat) (bs : List UInt8) : Char :=
  Char.ofNat (bs.foldl (fun n b => n * 64 + b.toNat % 64) high)

def replacement : Char := '\uFFFD'

def lossyChars : List UInt8 → List Char
  | [] => []
  | b :: bs =>
    if b < 0x80 then Char.ofNat b.toNat :: lossyChars bs
    else if 0xC2 ≤ b && b ≤ 0xDF then
      match bs with
      | c :: cs =>
        if isContinuation c then assemble (b.toNat % 32) [c] :: lossyChars cs
        else replacement :: lossyChars (c :: cs)
      | [] => [replacement]
    else if 0xE0 ≤ b && b ≤ 0xEF then
      match bs with
      | c :: cs =>
        if isSecondOfThree b c then
          match cs with
          | d :: ds =>
            if isContinuation d then assemble (b.toNat % 16) [c, d] :: lossyChars ds
            else replacement :: lossyChars (d :: ds)
          | [] => [replacement]
        else replacement :: lossyChars (c :: cs)
      | [] => [replacement]
    else if 0xF0 ≤ b && b ≤ 0xF4 then
      match bs with
      | c :: cs =>
        if isSecondOfFour b c then
          match cs with
          | d :: ds =>
            if isContinuation d then
              match ds with
              | e :: es =>
                if isContinuation e then assemble (b.toNat % 8) [c, d, e] :: lossyChars es
                else replacement :: lossyChars (e :: es)
              | [] => [replacement]
            else replacement :: lossyChars (d :: ds)
          | [] => [replacement]
        else replacement :: lossyChars (c :: cs)
      | [] => [replacement]
    else replacement :: lossyChars bs

/-- The text that bytes show when each faulty part is replaced. -/
def ofUtf8Lossy (bs : List UInt8) : String :=
  match ofUtf8? bs with
  | some s => s
  | none => String.ofList (lossyChars bs)

end Text

end Protogen
