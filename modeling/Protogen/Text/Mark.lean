import Protogen.Text.Printable

/-!
# Marks

A mark belongs to the letter before it. Some take room of their own on the line,
the others do not.
-/

namespace Protogen

namespace Text

/-- The marks that take room of their own. -/
def spacingMarkRuns : List CodeRun :=
  [⟨0x903, 0x903, 1⟩, ⟨0x93B, 0x93B, 1⟩, ⟨0x93E, 0x940, 1⟩, ⟨0x949, 0x94C, 1⟩, ⟨0x94E, 0x94F, 1⟩,
   ⟨0x982, 0x983, 1⟩, ⟨0x9BE, 0x9C0, 1⟩, ⟨0x9C7, 0x9C8, 1⟩, ⟨0x9CB, 0x9CC, 1⟩, ⟨0x9D7, 0x9D7, 1⟩,
   ⟨0xA03, 0xA03, 1⟩, ⟨0xA3E, 0xA40, 1⟩, ⟨0xA83, 0xA83, 1⟩, ⟨0xABE, 0xAC0, 1⟩, ⟨0xAC9, 0xAC9, 1⟩,
   ⟨0xACB, 0xACC, 1⟩, ⟨0xB02, 0xB03, 1⟩, ⟨0xB3E, 0xB40, 2⟩, ⟨0xB47, 0xB48, 1⟩, ⟨0xB4B, 0xB4C, 1⟩,
   ⟨0xB57, 0xB57, 1⟩, ⟨0xBBE, 0xBBF, 1⟩, ⟨0xBC1, 0xBC2, 1⟩, ⟨0xBC6, 0xBC8, 1⟩, ⟨0xBCA, 0xBCC, 1⟩,
   ⟨0xBD7, 0xBD7, 1⟩, ⟨0xC01, 0xC03, 1⟩, ⟨0xC41, 0xC44, 1⟩, ⟨0xC82, 0xC83, 1⟩, ⟨0xCBE, 0xCBE, 1⟩,
   ⟨0xCC0, 0xCC4, 1⟩, ⟨0xCC7, 0xCC8, 1⟩, ⟨0xCCA, 0xCCB, 1⟩, ⟨0xCD5, 0xCD6, 1⟩, ⟨0xCF3, 0xCF3, 1⟩,
   ⟨0xD02, 0xD03, 1⟩, ⟨0xD3E, 0xD40, 1⟩, ⟨0xD46, 0xD48, 1⟩, ⟨0xD4A, 0xD4C, 1⟩, ⟨0xD57, 0xD57, 1⟩,
   ⟨0xD82, 0xD83, 1⟩, ⟨0xDCF, 0xDD1, 1⟩, ⟨0xDD8, 0xDDF, 1⟩, ⟨0xDF2, 0xDF3, 1⟩, ⟨0xF3E, 0xF3F, 1⟩,
   ⟨0xF7F, 0xF7F, 1⟩, ⟨0x102B, 0x102C, 1⟩, ⟨0x1031, 0x1031, 1⟩, ⟨0x1038, 0x1038, 1⟩,
   ⟨0x103B, 0x103C, 1⟩, ⟨0x1056, 0x1057, 1⟩, ⟨0x1062, 0x1064, 1⟩, ⟨0x1067, 0x106D, 1⟩,
   ⟨0x1083, 0x1084, 1⟩, ⟨0x1087, 0x108C, 1⟩, ⟨0x108F, 0x108F, 1⟩, ⟨0x109A, 0x109C, 1⟩,
   ⟨0x1715, 0x1715, 1⟩, ⟨0x1734, 0x1734, 1⟩, ⟨0x17B6, 0x17B6, 1⟩, ⟨0x17BE, 0x17C5, 1⟩,
   ⟨0x17C7, 0x17C8, 1⟩, ⟨0x1923, 0x1926, 1⟩, ⟨0x1929, 0x192B, 1⟩, ⟨0x1930, 0x1931, 1⟩,
   ⟨0x1933, 0x1938, 1⟩, ⟨0x1A19, 0x1A1A, 1⟩, ⟨0x1A55, 0x1A57, 2⟩, ⟨0x1A61, 0x1A61, 1⟩,
   ⟨0x1A63, 0x1A64, 1⟩, ⟨0x1A6D, 0x1A72, 1⟩, ⟨0x1B04, 0x1B04, 1⟩, ⟨0x1B35, 0x1B35, 1⟩,
   ⟨0x1B3B, 0x1B3B, 1⟩, ⟨0x1B3D, 0x1B41, 1⟩, ⟨0x1B43, 0x1B44, 1⟩, ⟨0x1B82, 0x1B82, 1⟩,
   ⟨0x1BA1, 0x1BA1, 1⟩, ⟨0x1BA6, 0x1BA7, 1⟩, ⟨0x1BAA, 0x1BAA, 1⟩, ⟨0x1BE7, 0x1BE7, 1⟩,
   ⟨0x1BEA, 0x1BEC, 1⟩, ⟨0x1BEE, 0x1BEE, 1⟩, ⟨0x1BF2, 0x1BF3, 1⟩, ⟨0x1C24, 0x1C2B, 1⟩,
   ⟨0x1C34, 0x1C35, 1⟩, ⟨0x1CE1, 0x1CE1, 1⟩, ⟨0x1CF7, 0x1CF7, 1⟩, ⟨0x302E, 0x302F, 1⟩,
   ⟨0xA823, 0xA824, 1⟩, ⟨0xA827, 0xA827, 1⟩, ⟨0xA880, 0xA881, 1⟩, ⟨0xA8B4, 0xA8C3, 1⟩,
   ⟨0xA952, 0xA953, 1⟩, ⟨0xA983, 0xA983, 1⟩, ⟨0xA9B4, 0xA9B5, 1⟩, ⟨0xA9BA, 0xA9BB, 1⟩,
   ⟨0xA9BE, 0xA9C0, 1⟩, ⟨0xAA2F, 0xAA30, 1⟩, ⟨0xAA33, 0xAA34, 1⟩, ⟨0xAA4D, 0xAA4D, 1⟩,
   ⟨0xAA7B, 0xAA7D, 2⟩, ⟨0xAAEB, 0xAAEB, 1⟩, ⟨0xAAEE, 0xAAEF, 1⟩, ⟨0xAAF5, 0xAAF5, 1⟩,
   ⟨0xABE3, 0xABE4, 1⟩, ⟨0xABE6, 0xABE7, 1⟩, ⟨0xABE9, 0xABEA, 1⟩, ⟨0xABEC, 0xABEC, 1⟩,
   ⟨0x11000, 0x11002, 2⟩, ⟨0x11082, 0x11082, 1⟩, ⟨0x110B0, 0x110B2, 1⟩, ⟨0x110B7, 0x110B8, 1⟩,
   ⟨0x1112C, 0x1112C, 1⟩, ⟨0x11145, 0x11146, 1⟩, ⟨0x11182, 0x11182, 1⟩, ⟨0x111B3, 0x111B5, 1⟩,
   ⟨0x111BF, 0x111C0, 1⟩, ⟨0x111CE, 0x111CE, 1⟩, ⟨0x1122C, 0x1122E, 1⟩, ⟨0x11232, 0x11233, 1⟩,
   ⟨0x11235, 0x11235, 1⟩, ⟨0x112E0, 0x112E2, 1⟩, ⟨0x11302, 0x11303, 1⟩, ⟨0x1133E, 0x1133F, 1⟩,
   ⟨0x11341, 0x11344, 1⟩, ⟨0x11347, 0x11348, 1⟩, ⟨0x1134B, 0x1134D, 1⟩, ⟨0x11357, 0x11357, 1⟩,
   ⟨0x11362, 0x11363, 1⟩, ⟨0x113B8, 0x113BA, 1⟩, ⟨0x113C2, 0x113C2, 1⟩, ⟨0x113C5, 0x113C5, 1⟩,
   ⟨0x113C7, 0x113CA, 1⟩, ⟨0x113CC, 0x113CD, 1⟩, ⟨0x113CF, 0x113CF, 1⟩, ⟨0x11435, 0x11437, 1⟩,
   ⟨0x11440, 0x11441, 1⟩, ⟨0x11445, 0x11445, 1⟩, ⟨0x114B0, 0x114B2, 1⟩, ⟨0x114B9, 0x114B9, 1⟩,
   ⟨0x114BB, 0x114BE, 1⟩, ⟨0x114C1, 0x114C1, 1⟩, ⟨0x115AF, 0x115B1, 1⟩, ⟨0x115B8, 0x115BB, 1⟩,
   ⟨0x115BE, 0x115BE, 1⟩, ⟨0x11630, 0x11632, 1⟩, ⟨0x1163B, 0x1163C, 1⟩, ⟨0x1163E, 0x1163E, 1⟩,
   ⟨0x116AC, 0x116AC, 1⟩, ⟨0x116AE, 0x116AF, 1⟩, ⟨0x116B6, 0x116B6, 1⟩, ⟨0x1171E, 0x1171E, 1⟩,
   ⟨0x11720, 0x11721, 1⟩, ⟨0x11726, 0x11726, 1⟩, ⟨0x1182C, 0x1182E, 1⟩, ⟨0x11838, 0x11838, 1⟩,
   ⟨0x11930, 0x11935, 1⟩, ⟨0x11937, 0x11938, 1⟩, ⟨0x1193D, 0x1193D, 1⟩, ⟨0x11940, 0x11942, 2⟩,
   ⟨0x119D1, 0x119D3, 1⟩, ⟨0x119DC, 0x119DF, 1⟩, ⟨0x119E4, 0x119E4, 1⟩, ⟨0x11A39, 0x11A39, 1⟩,
   ⟨0x11A57, 0x11A58, 1⟩, ⟨0x11A97, 0x11A97, 1⟩, ⟨0x11B61, 0x11B61, 1⟩, ⟨0x11B65, 0x11B67, 2⟩,
   ⟨0x11C2F, 0x11C2F, 1⟩, ⟨0x11C3E, 0x11C3E, 1⟩, ⟨0x11CA9, 0x11CA9, 1⟩, ⟨0x11CB1, 0x11CB1, 1⟩,
   ⟨0x11CB4, 0x11CB4, 1⟩, ⟨0x11D8A, 0x11D8E, 1⟩, ⟨0x11D93, 0x11D94, 1⟩, ⟨0x11D96, 0x11D96, 1⟩,
   ⟨0x11EF5, 0x11EF6, 1⟩, ⟨0x11F03, 0x11F03, 1⟩, ⟨0x11F34, 0x11F35, 1⟩, ⟨0x11F3E, 0x11F3F, 1⟩,
   ⟨0x11F41, 0x11F41, 1⟩, ⟨0x1612A, 0x1612C, 1⟩, ⟨0x16F51, 0x16F87, 1⟩, ⟨0x16FF0, 0x16FF1, 1⟩,
   ⟨0x1D165, 0x1D166, 1⟩, ⟨0x1D16D, 0x1D172, 1⟩]

def isSpacingMark (c : Char) : Bool := CodeRun.anyContains spacingMarkRuns c.toNat

/-- Whether the character is a mark that takes no room. -/
def isNonspacingMark (c : Char) : Bool := isGraphemeExtend c && !isSpacingMark c

def isMark (c : Char) : Bool := isGraphemeExtend c || isSpacingMark c

end Text

end Protogen
