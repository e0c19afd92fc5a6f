import Ingress.Text.ShapeTable

/-!
# Marks and joining letters

Data of the Unicode character database for the names of hosts: marks that take a place of their own,
the marks that join consonants, and the letters of cursive scripts that join their neighbours.
-/

namespace Ingress.Text

/-- Marks with a width of their own. -/
def spacingMarkRanges : List CodeRange := [
  ⟨0x903, 0x903⟩, ⟨0x93B, 0x93B⟩, ⟨0x93E, 0x940⟩, ⟨0x949, 0x94C⟩, ⟨0x94E, 0x94F⟩, ⟨0x982, 0x983⟩,
  ⟨0x9BF, 0x9C0⟩, ⟨0x9C7, 0x9CC⟩, ⟨0xA03, 0xA03⟩, ⟨0xA3E, 0xA40⟩, ⟨0xA83, 0xA83⟩, ⟨0xABE, 0xAC0⟩,
  ⟨0xAC9, 0xACC⟩, ⟨0xB02, 0xB03⟩, ⟨0xB40, 0xB40⟩, ⟨0xB47, 0xB4C⟩, ⟨0xBBF, 0xBBF⟩, ⟨0xBC1, 0xBCC⟩,
  ⟨0xC01, 0xC03⟩, ⟨0xC41, 0xC44⟩, ⟨0xC82, 0xC83⟩, ⟨0xCBE, 0xCBE⟩, ⟨0xCC1, 0xCC1⟩, ⟨0xCC3, 0xCC4⟩,
  ⟨0xCF3, 0xCF3⟩, ⟨0xD02, 0xD03⟩, ⟨0xD3F, 0xD40⟩, ⟨0xD46, 0xD4C⟩, ⟨0xD82, 0xD83⟩, ⟨0xDD0, 0xDD1⟩,
  ⟨0xDD8, 0xDDE⟩, ⟨0xDF2, 0xDF3⟩, ⟨0xF3E, 0xF3F⟩, ⟨0xF7F, 0xF7F⟩, ⟨0x102B, 0x102C⟩,
  ⟨0x1031, 0x1031⟩, ⟨0x1038, 0x1038⟩, ⟨0x103B, 0x103C⟩, ⟨0x1056, 0x1057⟩, ⟨0x1062, 0x1064⟩,
  ⟨0x1067, 0x106D⟩, ⟨0x1083, 0x1084⟩, ⟨0x1087, 0x108C⟩, ⟨0x108F, 0x108F⟩, ⟨0x109A, 0x109C⟩,
  ⟨0x17B6, 0x17B6⟩, ⟨0x17BE, 0x17C5⟩, ⟨0x17C7, 0x17C8⟩, ⟨0x1923, 0x1926⟩, ⟨0x1929, 0x1931⟩,
  ⟨0x1933, 0x1938⟩, ⟨0x1A19, 0x1A1A⟩, ⟨0x1A55, 0x1A55⟩, ⟨0x1A57, 0x1A57⟩, ⟨0x1A61, 0x1A61⟩,
  ⟨0x1A63, 0x1A64⟩, ⟨0x1A6D, 0x1A72⟩, ⟨0x1B04, 0x1B04⟩, ⟨0x1B3E, 0x1B41⟩, ⟨0x1B82, 0x1B82⟩,
  ⟨0x1BA1, 0x1BA1⟩, ⟨0x1BA6, 0x1BA7⟩, ⟨0x1BE7, 0x1BE7⟩, ⟨0x1BEA, 0x1BEC⟩, ⟨0x1BEE, 0x1BEE⟩,
  ⟨0x1C24, 0x1C2B⟩, ⟨0x1C34, 0x1C35⟩, ⟨0x1CE1, 0x1CE1⟩, ⟨0x1CF7, 0x1CF7⟩, ⟨0xA823, 0xA824⟩,
  ⟨0xA827, 0xA827⟩, ⟨0xA880, 0xA881⟩, ⟨0xA8B4, 0xA8C3⟩, ⟨0xA952, 0xA952⟩, ⟨0xA983, 0xA983⟩,
  ⟨0xA9B4, 0xA9B5⟩, ⟨0xA9BA, 0xA9BB⟩, ⟨0xA9BE, 0xA9BF⟩, ⟨0xAA2F, 0xAA30⟩, ⟨0xAA33, 0xAA34⟩,
  ⟨0xAA4D, 0xAA4D⟩, ⟨0xAA7B, 0xAA7B⟩, ⟨0xAA7D, 0xAA7D⟩, ⟨0xAAEB, 0xAAEB⟩, ⟨0xAAEE, 0xAAEF⟩,
  ⟨0xAAF5, 0xAAF5⟩, ⟨0xABE3, 0xABE4⟩, ⟨0xABE6, 0xABE7⟩, ⟨0xABE9, 0xABEA⟩, ⟨0xABEC, 0xABEC⟩,
  ⟨0x11000, 0x11000⟩, ⟨0x11002, 0x11002⟩, ⟨0x11082, 0x11082⟩, ⟨0x110B0, 0x110B2⟩,
  ⟨0x110B7, 0x110B8⟩, ⟨0x1112C, 0x1112C⟩, ⟨0x11145, 0x11146⟩, ⟨0x11182, 0x11182⟩,
  ⟨0x111B3, 0x111B5⟩, ⟨0x111BF, 0x111BF⟩, ⟨0x111CE, 0x111CE⟩, ⟨0x1122C, 0x1122E⟩,
  ⟨0x11232, 0x11233⟩, ⟨0x112E0, 0x112E2⟩, ⟨0x11302, 0x11303⟩, ⟨0x1133F, 0x1133F⟩,
  ⟨0x11341, 0x1134C⟩, ⟨0x11362, 0x11363⟩, ⟨0x113B9, 0x113BA⟩, ⟨0x113CA, 0x113CD⟩,
  ⟨0x11435, 0x11437⟩, ⟨0x11440, 0x11441⟩, ⟨0x11445, 0x11445⟩, ⟨0x114B1, 0x114B2⟩,
  ⟨0x114B9, 0x114B9⟩, ⟨0x114BB, 0x114BC⟩, ⟨0x114BE, 0x114BE⟩, ⟨0x114C1, 0x114C1⟩,
  ⟨0x115B0, 0x115B1⟩, ⟨0x115B8, 0x115BB⟩, ⟨0x115BE, 0x115BE⟩, ⟨0x11630, 0x11632⟩,
  ⟨0x1163B, 0x1163C⟩, ⟨0x1163E, 0x1163E⟩, ⟨0x116AC, 0x116AC⟩, ⟨0x116AE, 0x116AF⟩,
  ⟨0x1171E, 0x1171E⟩, ⟨0x11720, 0x11721⟩, ⟨0x11726, 0x11726⟩, ⟨0x1182C, 0x1182E⟩,
  ⟨0x11838, 0x11838⟩, ⟨0x11931, 0x11938⟩, ⟨0x11940, 0x11940⟩, ⟨0x11942, 0x11942⟩,
  ⟨0x119D1, 0x119D3⟩, ⟨0x119DC, 0x119DF⟩, ⟨0x119E4, 0x119E4⟩, ⟨0x11A39, 0x11A39⟩,
  ⟨0x11A57, 0x11A58⟩, ⟨0x11A97, 0x11A97⟩, ⟨0x11B61, 0x11B61⟩, ⟨0x11B65, 0x11B65⟩,
  ⟨0x11B67, 0x11B67⟩, ⟨0x11C2F, 0x11C2F⟩, ⟨0x11C3E, 0x11C3E⟩, ⟨0x11CA9, 0x11CA9⟩,
  ⟨0x11CB1, 0x11CB1⟩, ⟨0x11CB4, 0x11CB4⟩, ⟨0x11D8A, 0x11D8E⟩, ⟨0x11D93, 0x11D94⟩,
  ⟨0x11D96, 0x11D96⟩, ⟨0x11EF5, 0x11EF6⟩, ⟨0x11F03, 0x11F03⟩, ⟨0x11F34, 0x11F35⟩,
  ⟨0x11F3E, 0x11F3F⟩, ⟨0x1612A, 0x1612C⟩, ⟨0x16F51, 0x16F87⟩]

/-- Marks that take the vowel from a consonant and join it to the next one. -/
def viramaRanges : List CodeRange := [
  ⟨0x94D, 0x94D⟩, ⟨0x9CD, 0x9CD⟩, ⟨0xA4D, 0xA4D⟩, ⟨0xACD, 0xACD⟩, ⟨0xB4D, 0xB4D⟩, ⟨0xBCD, 0xBCD⟩,
  ⟨0xC4D, 0xC4D⟩, ⟨0xCCD, 0xCCD⟩, ⟨0xD3B, 0xD3C⟩, ⟨0xD4D, 0xD4D⟩, ⟨0xDCA, 0xDCA⟩, ⟨0xE3A, 0xE3A⟩,
  ⟨0xEBA, 0xEBA⟩, ⟨0xF84, 0xF84⟩, ⟨0x1039, 0x103A⟩, ⟨0x1714, 0x1715⟩, ⟨0x1734, 0x1734⟩,
  ⟨0x17D2, 0x17D2⟩, ⟨0x1A60, 0x1A60⟩, ⟨0x1B44, 0x1B44⟩, ⟨0x1BAA, 0x1BAB⟩, ⟨0x1BF2, 0x1BF3⟩,
  ⟨0x2D7F, 0x2D7F⟩, ⟨0xA806, 0xA806⟩, ⟨0xA82C, 0xA82C⟩, ⟨0xA8C4, 0xA8C4⟩, ⟨0xA953, 0xA953⟩,
  ⟨0xA9C0, 0xA9C0⟩, ⟨0xAAF6, 0xAAF6⟩, ⟨0xABED, 0xABED⟩, ⟨0x10A3F, 0x10A3F⟩, ⟨0x11046, 0x11046⟩,
  ⟨0x11070, 0x11070⟩, ⟨0x1107F, 0x1107F⟩, ⟨0x110B9, 0x110B9⟩, ⟨0x11133, 0x11134⟩,
  ⟨0x111C0, 0x111C0⟩, ⟨0x11235, 0x11235⟩, ⟨0x112EA, 0x112EA⟩, ⟨0x1134D, 0x1134D⟩,
  ⟨0x113CE, 0x113D0⟩, ⟨0x11442, 0x11442⟩, ⟨0x114C2, 0x114C2⟩, ⟨0x115BF, 0x115BF⟩,
  ⟨0x1163F, 0x1163F⟩, ⟨0x116B6, 0x116B6⟩, ⟨0x1172B, 0x1172B⟩, ⟨0x11839, 0x11839⟩,
  ⟨0x1193D, 0x1193E⟩, ⟨0x119E0, 0x119E0⟩, ⟨0x11A34, 0x11A34⟩, ⟨0x11A47, 0x11A47⟩,
  ⟨0x11A99, 0x11A99⟩, ⟨0x11C3F, 0x11C3F⟩, ⟨0x11D44, 0x11D45⟩, ⟨0x11D97, 0x11D97⟩,
  ⟨0x11F41, 0x11F42⟩, ⟨0x1612F, 0x1612F⟩]

/-- Letters that join the letter after them. -/
def forwardJoiningRanges : List CodeRange := [
  ⟨0x620, 0x620⟩, ⟨0x626, 0x626⟩, ⟨0x628, 0x628⟩, ⟨0x62A, 0x62E⟩, ⟨0x633, 0x63F⟩, ⟨0x641, 0x647⟩,
  ⟨0x649, 0x64A⟩, ⟨0x66E, 0x66F⟩, ⟨0x679, 0x687⟩, ⟨0x69A, 0x6BF⟩, ⟨0x6C1, 0x6C2⟩, ⟨0x6CC, 0x6CC⟩,
  ⟨0x6CE, 0x6CE⟩, ⟨0x6D0, 0x6D1⟩, ⟨0x6FA, 0x6FC⟩, ⟨0x6FF, 0x6FF⟩, ⟨0x712, 0x714⟩, ⟨0x71A, 0x71D⟩,
  ⟨0x71F, 0x727⟩, ⟨0x729, 0x729⟩, ⟨0x72B, 0x72B⟩, ⟨0x72D, 0x72E⟩, ⟨0x74E, 0x758⟩, ⟨0x75C, 0x76A⟩,
  ⟨0x76D, 0x770⟩, ⟨0x772, 0x772⟩, ⟨0x775, 0x777⟩, ⟨0x77A, 0x77F⟩, ⟨0x7CA, 0x7EA⟩, ⟨0x841, 0x845⟩,
  ⟨0x848, 0x848⟩, ⟨0x84A, 0x853⟩, ⟨0x855, 0x855⟩, ⟨0x860, 0x860⟩, ⟨0x862, 0x865⟩, ⟨0x868, 0x868⟩,
  ⟨0x886, 0x886⟩, ⟨0x889, 0x88D⟩, ⟨0x88F, 0x8A9⟩, ⟨0x8AF, 0x8B0⟩, ⟨0x8B3, 0x8B8⟩, ⟨0x8BA, 0x8C8⟩,
  ⟨0x1807, 0x1807⟩, ⟨0x1820, 0x1878⟩, ⟨0x1887, 0x18AA⟩, ⟨0xA840, 0xA872⟩, ⟨0x10AC0, 0x10AC4⟩,
  ⟨0x10ACD, 0x10ACD⟩, ⟨0x10AD3, 0x10ADC⟩, ⟨0x10ADE, 0x10AE0⟩, ⟨0x10AEB, 0x10AEE⟩,
  ⟨0x10B80, 0x10B80⟩, ⟨0x10B82, 0x10B82⟩, ⟨0x10B86, 0x10B88⟩, ⟨0x10B8A, 0x10B8B⟩,
  ⟨0x10B8D, 0x10B8D⟩, ⟨0x10B90, 0x10B90⟩, ⟨0x10BAD, 0x10BAE⟩, ⟨0x10D00, 0x10D21⟩,
  ⟨0x10D23, 0x10D23⟩, ⟨0x10EC3, 0x10EC4⟩, ⟨0x10EC6, 0x10EC7⟩, ⟨0x10F30, 0x10F32⟩,
  ⟨0x10F34, 0x10F44⟩, ⟨0x10F51, 0x10F53⟩, ⟨0x10F70, 0x10F73⟩, ⟨0x10F76, 0x10F81⟩,
  ⟨0x10FB0, 0x10FB0⟩, ⟨0x10FB2, 0x10FB3⟩, ⟨0x10FB8, 0x10FB8⟩, ⟨0x10FBB, 0x10FBC⟩,
  ⟨0x10FBE, 0x10FBF⟩, ⟨0x10FC1, 0x10FC1⟩, ⟨0x10FC4, 0x10FC4⟩, ⟨0x10FCA, 0x10FCB⟩,
  ⟨0x1E922, 0x1E943⟩]

/-- Letters that join the letter before them. -/
def backwardJoiningRanges : List CodeRange := [
  ⟨0x620, 0x620⟩, ⟨0x622, 0x63F⟩, ⟨0x641, 0x64A⟩, ⟨0x66E, 0x673⟩, ⟨0x679, 0x6D3⟩, ⟨0x6D5, 0x6D5⟩,
  ⟨0x6EE, 0x6EF⟩, ⟨0x6FA, 0x6FC⟩, ⟨0x6FF, 0x6FF⟩, ⟨0x710, 0x77F⟩, ⟨0x7CA, 0x7EA⟩, ⟨0x840, 0x858⟩,
  ⟨0x860, 0x860⟩, ⟨0x862, 0x865⟩, ⟨0x867, 0x882⟩, ⟨0x886, 0x886⟩, ⟨0x889, 0x8AC⟩, ⟨0x8AE, 0x8C8⟩,
  ⟨0x1807, 0x1807⟩, ⟨0x1820, 0x1878⟩, ⟨0x1887, 0x18AA⟩, ⟨0xA840, 0xA871⟩, ⟨0x10AC0, 0x10AC5⟩,
  ⟨0x10AC7, 0x10AC7⟩, ⟨0x10AC9, 0x10ACA⟩, ⟨0x10ACE, 0x10AD6⟩, ⟨0x10AD8, 0x10AE1⟩,
  ⟨0x10AE4, 0x10AEF⟩, ⟨0x10B80, 0x10B91⟩, ⟨0x10BA9, 0x10BAE⟩, ⟨0x10D01, 0x10D23⟩,
  ⟨0x10EC2, 0x10EC4⟩, ⟨0x10EC6, 0x10EC7⟩, ⟨0x10F30, 0x10F44⟩, ⟨0x10F51, 0x10F54⟩,
  ⟨0x10F70, 0x10F81⟩, ⟨0x10FB0, 0x10FB0⟩, ⟨0x10FB2, 0x10FB6⟩, ⟨0x10FB8, 0x10FBF⟩,
  ⟨0x10FC1, 0x10FC4⟩, ⟨0x10FC9, 0x10FCA⟩, ⟨0x1E922, 0x1E943⟩]

/-- Whether a character is a mark. -/
def isMark (c : Char) : Bool := isExtending c || CodeRange.anyHolds spacingMarkRanges c.toNat

/-- Whether a mark joins two consonants. -/
def isVirama (c : Char) : Bool := CodeRange.anyHolds viramaRanges c.toNat

/-- Whether a letter joins the one after it. -/
def joinsForward (c : Char) : Bool := CodeRange.anyHolds forwardJoiningRanges c.toNat

/-- Whether a letter joins the one before it. -/
def joinsBackward (c : Char) : Bool := CodeRange.anyHolds backwardJoiningRanges c.toNat

end Ingress.Text
