import Protogen.Text.Mark

/-!
# Direction of writing

Letters are written to the right or to the left, and numbers have a direction of
their own. Signs and marks take the direction of what is around them.
-/

namespace Protogen

namespace Text

inductive Direction
  | rightward
  | leftward
  /-- Numbers as most scripts write them. -/
  | number
  /-- Numbers of the Arabic script. -/
  | arabicNumber
  | mark
  | neutral
  deriving DecidableEq, Repr

/-- The digits of most scripts. -/
def numberRuns : List CodeRun :=
  [⟨0x30, 0x39, 1⟩, ⟨0x6F0, 0x6F9, 1⟩, ⟨0x102E1, 0x102FB, 1⟩]

/-- The digits and signs of Arabic numbers. -/
def arabicNumberRuns : List CodeRun :=
  [⟨0x660, 0x669, 1⟩, ⟨0x66B, 0x66C, 1⟩, ⟨0x10D30, 0x10D39, 1⟩, ⟨0x10E60, 0x10E7E, 1⟩]

/-- The signs without a direction. -/
def neutralRuns : List CodeRun :=
  [⟨0x21, 0x2F, 1⟩, ⟨0x3A, 0x40, 1⟩, ⟨0x5B, 0x60, 1⟩, ⟨0x7B, 0x7E, 1⟩, ⟨0xA1, 0xA7, 1⟩,
   ⟨0xA9, 0xA9, 1⟩, ⟨0xAB, 0xAC, 1⟩, ⟨0xAE, 0xAE, 1⟩, ⟨0xB0, 0xB1, 1⟩, ⟨0xB6, 0xB7, 1⟩,
   ⟨0xBB, 0xBB, 1⟩, ⟨0xBF, 0xBF, 1⟩, ⟨0xD7, 0xD7, 1⟩, ⟨0xF7, 0xF7, 1⟩, ⟨0x2B9, 0x2BA, 1⟩,
   ⟨0x2C2, 0x2CF, 1⟩, ⟨0x2D2, 0x2D7, 1⟩, ⟨0x2DE, 0x2DF, 1⟩, ⟨0x2E5, 0x2ED, 1⟩, ⟨0x2EF, 0x2FF, 1⟩,
   ⟨0x375, 0x375, 1⟩, ⟨0x3F6, 0x3F6, 1⟩, ⟨0x58A, 0x58A, 1⟩, ⟨0x58D, 0x58F, 1⟩, ⟨0x606, 0x607, 1⟩,
   ⟨0x609, 0x60A, 1⟩, ⟨0x60C, 0x60C, 1⟩, ⟨0x60E, 0x60F, 1⟩, ⟨0x66A, 0x66A, 1⟩, ⟨0x6DE, 0x6DE, 1⟩,
   ⟨0x6E9, 0x6E9, 1⟩, ⟨0x7F6, 0x7F9, 1⟩, ⟨0x9F2, 0x9F3, 1⟩, ⟨0x9FB, 0x9FB, 1⟩, ⟨0xAF1, 0xAF1, 1⟩,
   ⟨0xBF3, 0xBFA, 1⟩, ⟨0xC78, 0xC7E, 1⟩, ⟨0xE3F, 0xE3F, 1⟩, ⟨0xF3A, 0xF3D, 1⟩, ⟨0x1390, 0x1399, 1⟩,
   ⟨0x1400, 0x1400, 1⟩, ⟨0x169B, 0x169C, 1⟩, ⟨0x17DB, 0x17DB, 1⟩, ⟨0x17F0, 0x17F9, 1⟩,
   ⟨0x1800, 0x180A, 1⟩, ⟨0x1940, 0x1940, 1⟩, ⟨0x1944, 0x1945, 1⟩, ⟨0x19DE, 0x19FF, 1⟩,
   ⟨0x2010, 0x2010, 1⟩, ⟨0x2012, 0x2016, 1⟩, ⟨0x2018, 0x2023, 1⟩, ⟨0x2027, 0x2027, 1⟩,
   ⟨0x2030, 0x2032, 1⟩, ⟨0x2035, 0x2035, 1⟩, ⟨0x2038, 0x203B, 1⟩, ⟨0x203D, 0x203D, 1⟩,
   ⟨0x203F, 0x2046, 1⟩, ⟨0x204A, 0x2056, 1⟩, ⟨0x2058, 0x205E, 1⟩, ⟨0x20A0, 0x20A7, 1⟩,
   ⟨0x20A9, 0x20C1, 1⟩, ⟨0x2104, 0x2104, 1⟩, ⟨0x2108, 0x2108, 1⟩, ⟨0x2114, 0x2114, 1⟩,
   ⟨0x2117, 0x2118, 1⟩, ⟨0x211E, 0x211F, 1⟩, ⟨0x2123, 0x2129, 2⟩, ⟨0x212E, 0x212E, 1⟩,
   ⟨0x213A, 0x213A, 1⟩, ⟨0x2141, 0x2144, 1⟩, ⟨0x214A, 0x214D, 1⟩, ⟨0x218A, 0x218B, 1⟩,
   ⟨0x2190, 0x222B, 1⟩, ⟨0x222E, 0x222E, 1⟩, ⟨0x2231, 0x2328, 1⟩, ⟨0x232B, 0x2335, 1⟩,
   ⟨0x237B, 0x2394, 1⟩, ⟨0x2396, 0x2429, 1⟩, ⟨0x2440, 0x244A, 1⟩, ⟨0x24EB, 0x26AB, 1⟩,
   ⟨0x26AD, 0x27FF, 1⟩, ⟨0x2900, 0x2A0B, 1⟩, ⟨0x2A0D, 0x2A73, 1⟩, ⟨0x2A77, 0x2ADB, 1⟩,
   ⟨0x2ADD, 0x2B73, 1⟩, ⟨0x2B76, 0x2BFF, 1⟩, ⟨0x2CE5, 0x2CEA, 1⟩, ⟨0x2CF9, 0x2CFF, 1⟩,
   ⟨0x2E00, 0x2E5D, 1⟩, ⟨0x2E80, 0x2E99, 1⟩, ⟨0x2E9B, 0x2E9E, 1⟩, ⟨0x2EA0, 0x2EF2, 1⟩,
   ⟨0x3001, 0x3001, 1⟩, ⟨0x3003, 0x3004, 1⟩, ⟨0x3008, 0x3020, 1⟩, ⟨0x3030, 0x3030, 1⟩,
   ⟨0x3037, 0x3037, 1⟩, ⟨0x303D, 0x303F, 1⟩, ⟨0x30A0, 0x30A0, 1⟩, ⟨0x30FB, 0x30FB, 1⟩,
   ⟨0x31C0, 0x31E5, 1⟩, ⟨0x4DC0, 0x4DFF, 1⟩, ⟨0xA490, 0xA4C6, 1⟩, ⟨0xA60D, 0xA60F, 1⟩,
   ⟨0xA673, 0xA673, 1⟩, ⟨0xA67E, 0xA67F, 1⟩, ⟨0xA700, 0xA721, 1⟩, ⟨0xA788, 0xA788, 1⟩,
   ⟨0xA828, 0xA82B, 1⟩, ⟨0xA838, 0xA839, 1⟩, ⟨0xA874, 0xA877, 1⟩, ⟨0xAB6A, 0xAB6B, 1⟩,
   ⟨0xFD3E, 0xFD4F, 1⟩, ⟨0xFDCF, 0xFDCF, 1⟩, ⟨0xFDFD, 0xFDFF, 1⟩, ⟨0xFE45, 0xFE46, 1⟩,
   ⟨0x10101, 0x10101, 1⟩, ⟨0x10140, 0x1018C, 1⟩, ⟨0x10190, 0x1019C, 1⟩, ⟨0x101A0, 0x101A0, 1⟩,
   ⟨0x1091F, 0x1091F, 1⟩, ⟨0x10B39, 0x10B3F, 1⟩, ⟨0x11052, 0x11065, 1⟩, ⟨0x11660, 0x1166C, 1⟩,
   ⟨0x11FD5, 0x11FF1, 1⟩, ⟨0x16FE2, 0x16FE2, 1⟩, ⟨0x1CC00, 0x1CCD5, 1⟩, ⟨0x1CCFA, 0x1CCFC, 1⟩,
   ⟨0x1CD00, 0x1CEB3, 1⟩, ⟨0x1CEC0, 0x1CED0, 1⟩, ⟨0x1CEE0, 0x1CEF0, 1⟩, ⟨0x1D1E9, 0x1D1EA, 1⟩,
   ⟨0x1D200, 0x1D241, 1⟩, ⟨0x1D245, 0x1D245, 1⟩, ⟨0x1D300, 0x1D356, 1⟩, ⟨0x1E2FF, 0x1E2FF, 1⟩,
   ⟨0x1EEF0, 0x1EEF1, 1⟩, ⟨0x1F000, 0x1F02B, 1⟩, ⟨0x1F030, 0x1F093, 1⟩, ⟨0x1F0A0, 0x1F0AE, 1⟩,
   ⟨0x1F0B1, 0x1F0BF, 1⟩, ⟨0x1F0C1, 0x1F0CF, 1⟩, ⟨0x1F0D1, 0x1F0F5, 1⟩, ⟨0x1F10B, 0x1F10F, 1⟩,
   ⟨0x1F12F, 0x1F12F, 1⟩, ⟨0x1F16D, 0x1F16F, 1⟩, ⟨0x1F1AD, 0x1F1AD, 1⟩, ⟨0x1F260, 0x1F265, 1⟩,
   ⟨0x1F300, 0x1F6D8, 1⟩, ⟨0x1F6DC, 0x1F6EC, 1⟩, ⟨0x1F6F0, 0x1F6FC, 1⟩, ⟨0x1F700, 0x1F7D9, 1⟩,
   ⟨0x1F7E0, 0x1F7EB, 1⟩, ⟨0x1F7F0, 0x1F7F0, 1⟩, ⟨0x1F800, 0x1F80B, 1⟩, ⟨0x1F810, 0x1F847, 1⟩,
   ⟨0x1F850, 0x1F859, 1⟩, ⟨0x1F860, 0x1F887, 1⟩, ⟨0x1F890, 0x1F8AD, 1⟩, ⟨0x1F8B0, 0x1F8BB, 1⟩,
   ⟨0x1F8C0, 0x1F8C1, 1⟩, ⟨0x1F8D0, 0x1F8D8, 1⟩, ⟨0x1F900, 0x1FA57, 1⟩, ⟨0x1FA60, 0x1FA6D, 1⟩,
   ⟨0x1FA70, 0x1FA7C, 1⟩, ⟨0x1FA80, 0x1FA8A, 1⟩, ⟨0x1FA8E, 0x1FAC6, 1⟩, ⟨0x1FAC8, 0x1FAC8, 1⟩,
   ⟨0x1FACD, 0x1FADC, 1⟩, ⟨0x1FADF, 0x1FAEA, 1⟩, ⟨0x1FAEF, 0x1FAF8, 1⟩, ⟨0x1FB00, 0x1FB92, 1⟩,
   ⟨0x1FB94, 0x1FBEF, 1⟩, ⟨0x1FBFA, 0x1FBFA, 1⟩]


/-- Where the scripts that are written to the left have their characters. -/
def leftwardRuns : List CodeRun :=
  [⟨0x590, 0x8FF, 1⟩, ⟨0xFB1D, 0xFDFF, 1⟩, ⟨0xFE70, 0xFEFF, 1⟩, ⟨0x10800, 0x10FFF, 1⟩,
   ⟨0x1E800, 0x1EFFF, 1⟩]

/-- The direction of a character, if it is an assigned one. -/
def direction (c : Char) : Direction :=
  if CodeRun.anyContains numberRuns c.toNat then .number
  else if CodeRun.anyContains arabicNumberRuns c.toNat then .arabicNumber
  else if CodeRun.anyContains neutralRuns c.toNat then .neutral
  else if isNonspacingMark c then .mark
  else if CodeRun.anyContains leftwardRuns c.toNat then .leftward
  else .rightward

end Text

end Protogen
