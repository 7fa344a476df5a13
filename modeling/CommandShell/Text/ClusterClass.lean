import CommandShell.Text.Extending

/-!
# How characters form clusters

Neighbouring characters that a reader takes for one form a cluster. Each character belongs to one
class, which decides with what it forms a cluster. The classes are those of the Unicode standard
for extended grapheme clusters, in version 17; the class of extending characters is divided by
what they do in conjuncts of consonants.
-/

namespace CommandShell.Text

/-- What a character does in a cluster. -/
inductive ClusterClass where
  | carriageReturn
  | lineFeed
  /-- A control or format character, which stands alone. -/
  | control
  /-- Adds to the character before it. -/
  | extend
  /-- As `extend`, and joins two consonants. -/
  | linker
  /-- As `extend`, but keeps consonants apart. -/
  | nonJoiner
  /-- As `extend`, and joins two pictures. -/
  | joiner
  /-- A vowel sign with a width of its own. -/
  | spacing
  /-- Stands before the character that it belongs to. -/
  | prepend
  /-- A half of a flag. -/
  | flag
  /-- A leading consonant of a Korean syllable. -/
  | leading
  /-- A vowel of a Korean syllable. -/
  | vowel
  /-- A trailing consonant of a Korean syllable. -/
  | trailing
  /-- A Korean syllable without a trailing consonant. -/
  | openSyllable
  /-- A Korean syllable with a trailing consonant. -/
  | closedSyllable
  | picture
  /-- A consonant that forms conjuncts. -/
  | consonant
  | other
  deriving DecidableEq, Repr

/-- The controls, the separators of lines and paragraphs, the formats that do not belong to a
character, and the unassigned code points that are ignored. -/
def controlRanges : List (Nat × Nat) :=
  [(0x0, 0x1F), (0x7F, 0x9F), (0xAD, 0xAD), (0x61C, 0x61C), (0x180E, 0x180E), (0x200B, 0x200B),
    (0x200E, 0x200F), (0x2028, 0x202E), (0x2060, 0x206F), (0xFEFF, 0xFEFF), (0xFFF0, 0xFFFB),
    (0x13430, 0x1343F), (0x1BCA0, 0x1BCA3), (0x1D173, 0x1D17A), (0xE0000, 0xE001F),
    (0xE0080, 0xE00FF), (0xE01F0, 0xE0FFF)]

/-- The characters that stand before the character that they belong to. -/
def prependRanges : List (Nat × Nat) :=
  [(0x600, 0x605), (0x6DD, 0x6DD), (0x70F, 0x70F), (0x890, 0x891), (0x8E2, 0x8E2), (0xD4E, 0xD4E),
    (0x110BD, 0x110BD), (0x110CD, 0x110CD), (0x111C2, 0x111C3), (0x113D1, 0x113D1),
    (0x1193F, 0x1193F), (0x11941, 0x11941), (0x11A84, 0x11A89), (0x11D46, 0x11D46),
    (0x11F02, 0x11F02)]

/-- The signs with a width of their own that belong to the character before them. -/
def spacingRanges : List (Nat × Nat) :=
  [(0x903, 0x903), (0x93B, 0x93B), (0x93E, 0x940), (0x949, 0x94C), (0x94E, 0x94F), (0x982, 0x983),
    (0x9BF, 0x9C0), (0x9C7, 0x9C8), (0x9CB, 0x9CC), (0xA03, 0xA03), (0xA3E, 0xA40), (0xA83, 0xA83),
    (0xABE, 0xAC0), (0xAC9, 0xAC9), (0xACB, 0xACC), (0xB02, 0xB03), (0xB40, 0xB40), (0xB47, 0xB48),
    (0xB4B, 0xB4C), (0xBBF, 0xBBF), (0xBC1, 0xBC2), (0xBC6, 0xBC8), (0xBCA, 0xBCC), (0xC01, 0xC03),
    (0xC41, 0xC44), (0xC82, 0xC83), (0xCBE, 0xCBE), (0xCC1, 0xCC1), (0xCC3, 0xCC4), (0xCF3, 0xCF3),
    (0xD02, 0xD03), (0xD3F, 0xD40), (0xD46, 0xD48), (0xD4A, 0xD4C), (0xD82, 0xD83), (0xDD0, 0xDD1),
    (0xDD8, 0xDDE), (0xDF2, 0xDF3), (0xE33, 0xE33), (0xEB3, 0xEB3), (0xF3E, 0xF3F), (0xF7F, 0xF7F),
    (0x1031, 0x1031), (0x103B, 0x103C), (0x1056, 0x1057), (0x1084, 0x1084), (0x17B6, 0x17B6),
    (0x17BE, 0x17C5), (0x17C7, 0x17C8), (0x1923, 0x1926), (0x1929, 0x192B), (0x1930, 0x1931),
    (0x1933, 0x1938), (0x1A19, 0x1A1A), (0x1A55, 0x1A55), (0x1A57, 0x1A57), (0x1A6D, 0x1A72),
    (0x1B04, 0x1B04), (0x1B3E, 0x1B41), (0x1B82, 0x1B82), (0x1BA1, 0x1BA1), (0x1BA6, 0x1BA7),
    (0x1BE7, 0x1BE7), (0x1BEA, 0x1BEC), (0x1BEE, 0x1BEE), (0x1C24, 0x1C2B), (0x1C34, 0x1C35),
    (0x1CE1, 0x1CE1), (0x1CF7, 0x1CF7), (0xA823, 0xA824), (0xA827, 0xA827), (0xA880, 0xA881),
    (0xA8B4, 0xA8C3), (0xA952, 0xA952), (0xA983, 0xA983), (0xA9B4, 0xA9B5), (0xA9BA, 0xA9BB),
    (0xA9BE, 0xA9BF), (0xAA2F, 0xAA30), (0xAA33, 0xAA34), (0xAA4D, 0xAA4D), (0xAAEB, 0xAAEB),
    (0xAAEE, 0xAAEF), (0xAAF5, 0xAAF5), (0xABE3, 0xABE4), (0xABE6, 0xABE7), (0xABE9, 0xABEA),
    (0xABEC, 0xABEC), (0x11000, 0x11000), (0x11002, 0x11002), (0x11082, 0x11082),
    (0x110B0, 0x110B2), (0x110B7, 0x110B8), (0x1112C, 0x1112C), (0x11145, 0x11146),
    (0x11182, 0x11182), (0x111B3, 0x111B5), (0x111BF, 0x111BF), (0x111CE, 0x111CE),
    (0x1122C, 0x1122E), (0x11232, 0x11233), (0x112E0, 0x112E2), (0x11302, 0x11303),
    (0x1133F, 0x1133F), (0x11341, 0x11344), (0x11347, 0x11348), (0x1134B, 0x1134C),
    (0x11362, 0x11363), (0x113B9, 0x113BA), (0x113CA, 0x113CA), (0x113CC, 0x113CD),
    (0x11435, 0x11437), (0x11440, 0x11441), (0x11445, 0x11445), (0x114B1, 0x114B2),
    (0x114B9, 0x114B9), (0x114BB, 0x114BC), (0x114BE, 0x114BE), (0x114C1, 0x114C1),
    (0x115B0, 0x115B1), (0x115B8, 0x115BB), (0x115BE, 0x115BE), (0x11630, 0x11632),
    (0x1163B, 0x1163C), (0x1163E, 0x1163E), (0x116AC, 0x116AC), (0x116AE, 0x116AF),
    (0x1171E, 0x1171E), (0x11726, 0x11726), (0x1182C, 0x1182E), (0x11838, 0x11838),
    (0x11931, 0x11935), (0x11937, 0x11938), (0x11940, 0x11940), (0x11942, 0x11942),
    (0x119D1, 0x119D3), (0x119DC, 0x119DF), (0x119E4, 0x119E4), (0x11A39, 0x11A39),
    (0x11A57, 0x11A58), (0x11A97, 0x11A97), (0x11B61, 0x11B61), (0x11B65, 0x11B65),
    (0x11B67, 0x11B67), (0x11C2F, 0x11C2F), (0x11C3E, 0x11C3E), (0x11CA9, 0x11CA9),
    (0x11CB1, 0x11CB1), (0x11CB4, 0x11CB4), (0x11D8A, 0x11D8E), (0x11D93, 0x11D94),
    (0x11D96, 0x11D96), (0x11EF5, 0x11EF6), (0x11F03, 0x11F03), (0x11F34, 0x11F35),
    (0x11F3E, 0x11F3F), (0x1612A, 0x1612C), (0x16F51, 0x16F87)]

/-- The code points with the property `Extended_Pictographic`. -/
def pictureRanges : List (Nat × Nat) :=
  [(0xA9, 0xA9), (0xAE, 0xAE), (0x203C, 0x203C), (0x2049, 0x2049), (0x2122, 0x2122),
    (0x2139, 0x2139), (0x2194, 0x2199), (0x21A9, 0x21AA), (0x231A, 0x231B), (0x2328, 0x2328),
    (0x23CF, 0x23CF), (0x23E9, 0x23F3), (0x23F8, 0x23FA), (0x24C2, 0x24C2), (0x25AA, 0x25AB),
    (0x25B6, 0x25B6), (0x25C0, 0x25C0), (0x25FB, 0x25FE), (0x2600, 0x2604), (0x260E, 0x260E),
    (0x2611, 0x2611), (0x2614, 0x2615), (0x2618, 0x2618), (0x261D, 0x261D), (0x2620, 0x2620),
    (0x2622, 0x2623), (0x2626, 0x2626), (0x262A, 0x262A), (0x262E, 0x262F), (0x2638, 0x263A),
    (0x2640, 0x2640), (0x2642, 0x2642), (0x2648, 0x2653), (0x265F, 0x2660), (0x2663, 0x2663),
    (0x2665, 0x2666), (0x2668, 0x2668), (0x267B, 0x267B), (0x267E, 0x267F), (0x2692, 0x2697),
    (0x2699, 0x2699), (0x269B, 0x269C), (0x26A0, 0x26A1), (0x26A7, 0x26A7), (0x26AA, 0x26AB),
    (0x26B0, 0x26B1), (0x26BD, 0x26BE), (0x26C4, 0x26C5), (0x26C8, 0x26C8), (0x26CE, 0x26CF),
    (0x26D1, 0x26D1), (0x26D3, 0x26D4), (0x26E9, 0x26EA), (0x26F0, 0x26F5), (0x26F7, 0x26FA),
    (0x26FD, 0x26FD), (0x2702, 0x2702), (0x2705, 0x2705), (0x2708, 0x270D), (0x270F, 0x270F),
    (0x2712, 0x2712), (0x2714, 0x2714), (0x2716, 0x2716), (0x271D, 0x271D), (0x2721, 0x2721),
    (0x2728, 0x2728), (0x2733, 0x2734), (0x2744, 0x2744), (0x2747, 0x2747), (0x274C, 0x274C),
    (0x274E, 0x274E), (0x2753, 0x2755), (0x2757, 0x2757), (0x2763, 0x2764), (0x2795, 0x2797),
    (0x27A1, 0x27A1), (0x27B0, 0x27B0), (0x27BF, 0x27BF), (0x2934, 0x2935), (0x2B05, 0x2B07),
    (0x2B1B, 0x2B1C), (0x2B50, 0x2B50), (0x2B55, 0x2B55), (0x3030, 0x3030), (0x303D, 0x303D),
    (0x3297, 0x3297), (0x3299, 0x3299), (0x1F004, 0x1F004), (0x1F02C, 0x1F02F), (0x1F094, 0x1F09F),
    (0x1F0AF, 0x1F0B0), (0x1F0C0, 0x1F0C0), (0x1F0CF, 0x1F0D0), (0x1F0F6, 0x1F0FF),
    (0x1F170, 0x1F171), (0x1F17E, 0x1F17F), (0x1F18E, 0x1F18E), (0x1F191, 0x1F19A),
    (0x1F1AE, 0x1F1E5), (0x1F201, 0x1F20F), (0x1F21A, 0x1F21A), (0x1F22F, 0x1F22F),
    (0x1F232, 0x1F23A), (0x1F23C, 0x1F23F), (0x1F249, 0x1F25F), (0x1F266, 0x1F321),
    (0x1F324, 0x1F393), (0x1F396, 0x1F397), (0x1F399, 0x1F39B), (0x1F39E, 0x1F3F0),
    (0x1F3F3, 0x1F3F5), (0x1F3F7, 0x1F3FA), (0x1F400, 0x1F4FD), (0x1F4FF, 0x1F53D),
    (0x1F549, 0x1F54E), (0x1F550, 0x1F567), (0x1F56F, 0x1F570), (0x1F573, 0x1F57A),
    (0x1F587, 0x1F587), (0x1F58A, 0x1F58D), (0x1F590, 0x1F590), (0x1F595, 0x1F596),
    (0x1F5A4, 0x1F5A5), (0x1F5A8, 0x1F5A8), (0x1F5B1, 0x1F5B2), (0x1F5BC, 0x1F5BC),
    (0x1F5C2, 0x1F5C4), (0x1F5D1, 0x1F5D3), (0x1F5DC, 0x1F5DE), (0x1F5E1, 0x1F5E1),
    (0x1F5E3, 0x1F5E3), (0x1F5E8, 0x1F5E8), (0x1F5EF, 0x1F5EF), (0x1F5F3, 0x1F5F3),
    (0x1F5FA, 0x1F64F), (0x1F680, 0x1F6C5), (0x1F6CB, 0x1F6D2), (0x1F6D5, 0x1F6E5),
    (0x1F6E9, 0x1F6E9), (0x1F6EB, 0x1F6F0), (0x1F6F3, 0x1F6FF), (0x1F7DA, 0x1F7FF),
    (0x1F80C, 0x1F80F), (0x1F848, 0x1F84F), (0x1F85A, 0x1F85F), (0x1F888, 0x1F88F),
    (0x1F8AE, 0x1F8AF), (0x1F8BC, 0x1F8BF), (0x1F8C2, 0x1F8CF), (0x1F8D9, 0x1F8FF),
    (0x1F90C, 0x1F93A), (0x1F93C, 0x1F945), (0x1F947, 0x1F9FF), (0x1FA58, 0x1FA5F),
    (0x1FA6E, 0x1FAFF), (0x1FC00, 0x1FFFD)]

/-- The consonants that form conjuncts. -/
def consonantRanges : List (Nat × Nat) :=
  [(0x915, 0x939), (0x958, 0x95F), (0x978, 0x97F), (0x995, 0x9A8), (0x9AA, 0x9B0), (0x9B2, 0x9B2),
    (0x9B6, 0x9B9), (0x9DC, 0x9DD), (0x9DF, 0x9DF), (0x9F0, 0x9F1), (0xA95, 0xAA8), (0xAAA, 0xAB0),
    (0xAB2, 0xAB3), (0xAB5, 0xAB9), (0xAF9, 0xAF9), (0xB15, 0xB28), (0xB2A, 0xB30), (0xB32, 0xB33),
    (0xB35, 0xB39), (0xB5C, 0xB5D), (0xB5F, 0xB5F), (0xB71, 0xB71), (0xC15, 0xC28), (0xC2A, 0xC39),
    (0xC58, 0xC5A), (0xD15, 0xD3A), (0x1000, 0x102A), (0x103F, 0x103F), (0x1050, 0x1055),
    (0x105A, 0x105D), (0x1061, 0x1061), (0x1065, 0x1066), (0x106E, 0x1070), (0x1075, 0x1081),
    (0x108E, 0x108E), (0x1780, 0x17B3), (0x1A20, 0x1A54), (0x1B0B, 0x1B0C), (0x1B13, 0x1B33),
    (0x1B45, 0x1B4C), (0x1B83, 0x1BA0), (0x1BAE, 0x1BAF), (0x1BBB, 0x1BBD), (0xA989, 0xA98B),
    (0xA98F, 0xA9B2), (0xA9E0, 0xA9E4), (0xA9E7, 0xA9EF), (0xA9FA, 0xA9FE), (0xAA60, 0xAA6F),
    (0xAA71, 0xAA73), (0xAA7A, 0xAA7A), (0xAA7E, 0xAA7F), (0xAAE0, 0xAAEA), (0xABC0, 0xABDA),
    (0x10A00, 0x10A00), (0x10A10, 0x10A13), (0x10A15, 0x10A17), (0x10A19, 0x10A35),
    (0x11103, 0x11126), (0x11144, 0x11144), (0x11147, 0x11147), (0x11380, 0x11389),
    (0x1138B, 0x1138B), (0x1138E, 0x1138E), (0x11390, 0x113B5), (0x11900, 0x11906),
    (0x11909, 0x11909), (0x1190C, 0x11913), (0x11915, 0x11916), (0x11918, 0x1192F),
    (0x11A00, 0x11A00), (0x11A0B, 0x11A32), (0x11A50, 0x11A50), (0x11A5C, 0x11A83),
    (0x11F04, 0x11F10), (0x11F12, 0x11F33)]

/-- The extending characters that join consonants. -/
def linkerRanges : List (Nat × Nat) :=
  [(0x94D, 0x94D), (0x9CD, 0x9CD), (0xACD, 0xACD), (0xB4D, 0xB4D), (0xC4D, 0xC4D), (0xD4D, 0xD4D),
    (0x1039, 0x1039), (0x17D2, 0x17D2), (0x1A60, 0x1A60), (0x1B44, 0x1B44), (0x1BAB, 0x1BAB),
    (0xA9C0, 0xA9C0), (0xAAF6, 0xAAF6), (0x10A3F, 0x10A3F), (0x11133, 0x11133), (0x113D0, 0x113D0),
    (0x1193E, 0x1193E), (0x11A47, 0x11A47), (0x11A99, 0x11A99), (0x11F42, 0x11F42)]

/-- The leading consonants of Korean syllables. -/
def leadingRanges : List (Nat × Nat) :=
  [(0x1100, 0x115F), (0xA960, 0xA97C)]

/-- The vowels of Korean syllables, and those of another script that combine likewise. -/
def vowelRanges : List (Nat × Nat) :=
  [(0x1160, 0x11A7), (0xD7B0, 0xD7C6), (0x16D63, 0x16D63), (0x16D67, 0x16D6A)]

/-- The trailing consonants of Korean syllables. -/
def trailingRanges : List (Nat × Nat) :=
  [(0x11A8, 0x11FF), (0xD7CB, 0xD7FB)]

/-- The Korean syllables. -/
def syllableRange : Nat × Nat := (0xAC00, 0xD7A3)

/-- How many syllables share the leading consonant and the vowel; the first of them has no trailing
consonant. -/
def syllablePeriod : Nat := 28

/-- The halves of flags. -/
def flagRange : Nat × Nat := (0x1F1E6, 0x1F1FF)

/-- The colours of skin, which extend the picture before them. -/
def skinRange : Nat × Nat := (0x1F3FB, 0x1F3FF)

/-- The class of an extending character. -/
def extendClass (c : Char) : ClusterClass :=
  if c = '\u200D' then .joiner
  else if c = '\u200C' then .nonJoiner
  else if inRanges linkerRanges c then .linker
  else .extend

/-- The class of a character that is no control and does not extend others. -/
def baseClass (c : Char) : ClusterClass :=
  if inRanges [syllableRange] c then
    if (c.toNat - syllableRange.1) % syllablePeriod = 0 then .openSyllable else .closedSyllable
  else if inRanges [flagRange] c then .flag
  else if inRanges leadingRanges c then .leading
  else if inRanges vowelRanges c then .vowel
  else if inRanges trailingRanges c then .trailing
  else if inRanges prependRanges c then .prepend
  else if inRanges spacingRanges c then .spacing
  else if inRanges consonantRanges c then .consonant
  else if inRanges pictureRanges c then .picture
  else .other

/-- The class of a character. -/
def clusterClass (c : Char) : ClusterClass :=
  if c = '\r' then .carriageReturn
  else if c = '\n' then .lineFeed
  else if 0x20 ≤ c.toNat && c.toNat < 0x7F then .other
  else if c = '\u200D' || isExtending c || inRanges [skinRange] c then extendClass c
  else if inRanges controlRanges c then .control
  else baseClass c

end CommandShell.Text
