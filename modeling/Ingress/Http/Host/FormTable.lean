import Ingress.Text.CodeRange

/-!
# Forms of characters in host names

Data of the Unicode compatibility processing for host names: which characters are left out, which
are never part of a name, and which stand for others.
-/

namespace Ingress.Http.Host

open Text (CodeRange)

/-- Characters that are left out. -/
def ignoredRanges : List CodeRange := [
  ⟨0xAD, 0xAD⟩, ⟨0x34F, 0x34F⟩, ⟨0x115F, 0x1160⟩, ⟨0x17B4, 0x17B5⟩, ⟨0x180B, 0x180F⟩,
  ⟨0x200B, 0x200B⟩, ⟨0x2060, 0x2064⟩, ⟨0x206A, 0x206F⟩, ⟨0x3164, 0x3164⟩, ⟨0xFE00, 0xFE0F⟩,
  ⟨0xFEFF, 0xFEFF⟩, ⟨0xFFA0, 0xFFA0⟩, ⟨0x1BCA0, 0x1BCA3⟩, ⟨0x1D173, 0x1D17A⟩, ⟨0xE0100, 0xE01EF⟩]

/-- Characters with a shape that are never part of a name: they describe others, stand for a
replacement, or stand for something with a mark that separates the parts of an address. -/
def refusedRanges : List CodeRange := [
  ⟨0xA8, 0xA8⟩, ⟨0xAF, 0xAF⟩, ⟨0xB4, 0xB4⟩, ⟨0xB8, 0xB8⟩, ⟨0x2D8, 0x2DD⟩, ⟨0x37A, 0x37A⟩,
  ⟨0x384, 0x385⟩, ⟨0x1FBD, 0x1FBD⟩, ⟨0x1FBF, 0x1FC1⟩, ⟨0x1FCD, 0x1FCF⟩, ⟨0x1FDD, 0x1FDF⟩,
  ⟨0x1FED, 0x1FEE⟩, ⟨0x1FFD, 0x1FFE⟩, ⟨0x2017, 0x2017⟩, ⟨0x2024, 0x2026⟩, ⟨0x203E, 0x203E⟩,
  ⟨0x2047, 0x2049⟩, ⟨0x2100, 0x2101⟩, ⟨0x2105, 0x2106⟩, ⟨0x2488, 0x249B⟩, ⟨0x2A74, 0x2A74⟩,
  ⟨0x2FF0, 0x2FFF⟩, ⟨0x309B, 0x309C⟩, ⟨0x31EF, 0x31EF⟩, ⟨0x33C2, 0x33C2⟩, ⟨0x33C7, 0x33C7⟩,
  ⟨0x33D8, 0x33D8⟩, ⟨0xFC5E, 0xFC63⟩, ⟨0xFDFA, 0xFDFB⟩, ⟨0xFE12, 0xFE13⟩, ⟨0xFE16, 0xFE16⟩,
  ⟨0xFE19, 0xFE19⟩, ⟨0xFE30, 0xFE30⟩, ⟨0xFE47, 0xFE4C⟩, ⟨0xFE52, 0xFE52⟩, ⟨0xFE55, 0xFE56⟩,
  ⟨0xFE5F, 0xFE5F⟩, ⟨0xFE64, 0xFE65⟩, ⟨0xFE68, 0xFE68⟩, ⟨0xFE6A, 0xFE70⟩, ⟨0xFE72, 0xFE72⟩,
  ⟨0xFE74, 0xFE76⟩, ⟨0xFE78, 0xFE78⟩, ⟨0xFE7A, 0xFE7A⟩, ⟨0xFE7C, 0xFE7C⟩, ⟨0xFE7E, 0xFE7E⟩,
  ⟨0xFF03, 0xFF03⟩, ⟨0xFF05, 0xFF05⟩, ⟨0xFF0F, 0xFF0F⟩, ⟨0xFF1A, 0xFF1A⟩, ⟨0xFF1C, 0xFF1C⟩,
  ⟨0xFF1E, 0xFF20⟩, ⟨0xFF3B, 0xFF3E⟩, ⟨0xFF5C, 0xFF5C⟩, ⟨0xFFE3, 0xFFE3⟩, ⟨0xFFFC, 0xFFFD⟩,
  ⟨0x1F100, 0x1F100⟩]

/-- Characters other than capitals that stand for others beyond ASCII. -/
def variantRanges : List CodeRange := [
  ⟨0xB5, 0xB5⟩, ⟨0x2B1, 0x2B6⟩, ⟨0x2E0, 0x2E4⟩, ⟨0x340, 0x341⟩, ⟨0x343, 0x345⟩, ⟨0x374, 0x374⟩,
  ⟨0x387, 0x387⟩, ⟨0x3D0, 0x3D6⟩, ⟨0x3F0, 0x3F2⟩, ⟨0x3F5, 0x3F5⟩, ⟨0x587, 0x587⟩, ⟨0x675, 0x678⟩,
  ⟨0x958, 0x95F⟩, ⟨0x9DC, 0x9DF⟩, ⟨0xA33, 0xA33⟩, ⟨0xA36, 0xA36⟩, ⟨0xA59, 0xA5B⟩, ⟨0xA5E, 0xA5E⟩,
  ⟨0xB5C, 0xB5D⟩, ⟨0xE33, 0xE33⟩, ⟨0xEB3, 0xEB3⟩, ⟨0xEDC, 0xEDD⟩, ⟨0xF0C, 0xF0C⟩, ⟨0xF43, 0xF43⟩,
  ⟨0xF4D, 0xF4D⟩, ⟨0xF52, 0xF52⟩, ⟨0xF57, 0xF57⟩, ⟨0xF5C, 0xF5C⟩, ⟨0xF69, 0xF69⟩, ⟨0xF73, 0xF73⟩,
  ⟨0xF75, 0xF79⟩, ⟨0xF81, 0xF81⟩, ⟨0xF93, 0xF93⟩, ⟨0xF9D, 0xF9D⟩, ⟨0xFA2, 0xFA2⟩, ⟨0xFA7, 0xFA7⟩,
  ⟨0xFAC, 0xFAC⟩, ⟨0xFB9, 0xFB9⟩, ⟨0x10FC, 0x10FC⟩, ⟨0x13F8, 0x13FD⟩, ⟨0x1C80, 0x1C88⟩,
  ⟨0x1D2D, 0x1D2D⟩, ⟨0x1D32, 0x1D32⟩, ⟨0x1D3D, 0x1D4C⟩, ⟨0x1D51, 0x1D6A⟩, ⟨0x1D78, 0x1D78⟩,
  ⟨0x1D9B, 0x1DBF⟩, ⟨0x1E9B, 0x1E9B⟩, ⟨0x1F71, 0x1F71⟩, ⟨0x1F73, 0x1F73⟩, ⟨0x1F75, 0x1F75⟩,
  ⟨0x1F77, 0x1F77⟩, ⟨0x1F79, 0x1F79⟩, ⟨0x1F7B, 0x1F7B⟩, ⟨0x1F7D, 0x1FA7⟩, ⟨0x1FB2, 0x1FB4⟩,
  ⟨0x1FB7, 0x1FC4⟩, ⟨0x1FC7, 0x1FC7⟩, ⟨0x1FD3, 0x1FD3⟩, ⟨0x1FE3, 0x1FE3⟩, ⟨0x1FF2, 0x1FF4⟩,
  ⟨0x1FF7, 0x1FF7⟩, ⟨0x2011, 0x2011⟩, ⟨0x2033, 0x2034⟩, ⟨0x2036, 0x2037⟩, ⟨0x2057, 0x2057⟩,
  ⟨0x207B, 0x2094⟩, ⟨0x2107, 0x2107⟩, ⟨0x210F, 0x210F⟩, ⟨0x2135, 0x2138⟩, ⟨0x213C, 0x2140⟩,
  ⟨0x222C, 0x222D⟩, ⟨0x222F, 0x2230⟩, ⟨0x2329, 0x232A⟩, ⟨0x2A0C, 0x2A0C⟩, ⟨0x2ADC, 0x2ADC⟩,
  ⟨0x2D6F, 0x2D6F⟩, ⟨0x2E9F, 0x2E9F⟩, ⟨0x2EF3, 0x2FD5⟩, ⟨0x3036, 0x3036⟩, ⟨0x3038, 0x303A⟩,
  ⟨0x309F, 0x309F⟩, ⟨0x30FF, 0x30FF⟩, ⟨0x3131, 0x318E⟩, ⟨0x3192, 0x319F⟩, ⟨0x3244, 0x3247⟩,
  ⟨0x3260, 0x327E⟩, ⟨0x3280, 0x337F⟩, ⟨0xA69C, 0xA69D⟩, ⟨0xA770, 0xA770⟩, ⟨0xA7F8, 0xA7F9⟩,
  ⟨0xAB5C, 0xAB5F⟩, ⟨0xAB69, 0xAB69⟩, ⟨0xAB70, 0xABBF⟩, ⟨0xF900, 0xFA0D⟩, ⟨0xFA10, 0xFA10⟩,
  ⟨0xFA12, 0xFA12⟩, ⟨0xFA15, 0xFA1E⟩, ⟨0xFA20, 0xFA20⟩, ⟨0xFA22, 0xFA22⟩, ⟨0xFA25, 0xFA26⟩,
  ⟨0xFA2A, 0xFB1D⟩, ⟨0xFB1F, 0xFBB1⟩, ⟨0xFBD3, 0xFD3D⟩, ⟨0xFD50, 0xFD8F⟩, ⟨0xFD92, 0xFDC7⟩,
  ⟨0xFDF0, 0xFDFC⟩, ⟨0xFE11, 0xFE18⟩, ⟨0xFE31, 0xFE44⟩, ⟨0xFE51, 0xFE71⟩, ⟨0xFE77, 0xFFEE⟩,
  ⟨0x10781, 0x107BA⟩, ⟨0x1D15E, 0x1D164⟩, ⟨0x1D1BB, 0x1D1C0⟩, ⟨0x1D6A4, 0x1D7CB⟩,
  ⟨0x1E030, 0x1E06D⟩, ⟨0x1EE00, 0x1EEBB⟩, ⟨0x1F200, 0x1F251⟩, ⟨0x2F800, 0x2FA1D⟩]

/-- What characters stand for where ASCII is part of it: the first code point of a run, and for each
one of the run the characters that it stands for. -/
def asciiForms : List (Nat × String) := [
  (0xAA, "a"), (0xB2, "2 3"), (0xB9, "1 o"), (0xBC, "1⁄4 1⁄2 3⁄4"), (0x130, "i̇"), (0x132, "ij ij"),
  (0x13F, "l· l·"), (0x149, "ʼn"), (0x17F, "s"), (0x1C4, "dž dž dž lj lj lj nj nj nj"),
  (0x1F1, "dz dz dz"), (0x2B0, "h"), (0x2B2, "j r"), (0x2B7, "w y"), (0x2E1, "l s x"), (0x37E, ";"),
  (0x1D2C, "a"), (0x1D2E, "b"), (0x1D30, "d e"), (0x1D33, "g h i j k l m n"), (0x1D3C, "o"),
  (0x1D3E, "p r t u w a"), (0x1D47, "b d e"), (0x1D4D, "g"), (0x1D4F, "k m"), (0x1D52, "o"),
  (0x1D56, "p t u"), (0x1D5B, "v"), (0x1D62, "i r u v"), (0x1D9C, "c"), (0x1DA0, "f"),
  (0x1DBB, "z"), (0x1E9A, "aʾ"), (0x1FEF, "`"), (0x203C, "!!"), (0x2070, "0 i"),
  (0x2074, "4 5 6 7 8 9 +"), (0x207C, "= ( ) n 0 1 2 3 4 5 6 7 8 9 +"), (0x208C, "= ( )"),
  (0x2090, "a e o x"), (0x2095, "h k l m n p s t"), (0x20A8, "rs"), (0x2102, "c °c"),
  (0x2109, "°f g h h h h"), (0x2110, "i i l l"), (0x2115, "n no"), (0x2119, "p q r r r"),
  (0x2120, "sm tel tm"), (0x2124, "z"), (0x2128, "z"), (0x212A, "k"), (0x212C, "b c"),
  (0x212F, "e e f"), (0x2133, "m o"), (0x2139, "i"), (0x213B, "fax"), (0x2145, "d d e i j"),
  (0x2150, "1⁄7 1⁄9 1⁄10 1⁄3 2⁄3 1⁄5 2⁄5 3⁄5 4⁄5 1⁄6 5⁄6 1⁄8 3⁄8 5⁄8 7⁄8 1⁄ i ii iii iv v"),
  (0x2165, "vi vii viii ix x xi xii l c d m i ii iii iv v vi vii viii ix x xi xii l c d m"),
  (0x2189, "0⁄3"),
  (0x2460, "1 2 3 4 5 6 7 8 9 10 11 12 13 14 15 16 17 18 19 20 (1) (2) (3) (4) (5) (6)"),
  (0x247A, "(7) (8) (9) (10) (11) (12) (13) (14) (15) (16) (17) (18) (19) (20)"),
  (0x249C, "(a) (b) (c) (d) (e) (f) (g) (h) (i) (j) (k) (l) (m) (n) (o) (p) (q) (r) (s)"),
  (0x24AF, "(t) (u) (v) (w) (x) (y) (z) a b c d e f g h i j k l m n o p q r s t u v w x y"),
  (0x24CF, "z a b c d e f g h i j k l m n o p q r s t u v w x y z 0"), (0x2A75, "== ==="),
  (0x2C7C, "j v"), (0x3002, "."),
  (0x3200, "(ᄀ) (ᄂ) (ᄃ) (ᄅ) (ᄆ) (ᄇ) (ᄉ) (ᄋ) (ᄌ) (ᄎ) (ᄏ) (ᄐ) (ᄑ) (ᄒ) (가) (나) (다) (라) (마)"),
  (0x3213, "(바) (사) (아) (자) (차) (카) (타) (파) (하) (주) (오전) (오후)"),
  (0x3220, "(一) (二) (三) (四) (五) (六) (七) (八) (九) (十) (月) (火) (水) (木) (金) (土) (日) (株) (有)"),
  (0x3233, "(社) (名) (特) (財) (祝) (労) (代) (呼) (学) (監) (企) (資) (協) (祭) (休) (自) (至)"),
  (0x3250, "pte 21 22 23 24 25 26 27 28 29 30 31 32 33 34 35"),
  (0x32B1, "36 37 38 39 40 41 42 43 44 45 46 47 48 49 50 1月 2月 3月 4月 5月 6月 7月 8月 9月 10月"),
  (0x32CA, "11月 12月 hg erg ev ltd"),
  (0x3358, "0点 1点 2点 3点 4点 5点 6点 7点 8点 9点 10点 11点 12点 13点 14点 15点 16点 17点 18点 19点 20点 21点"),
  (0x336E, "22点 23点 24点 hpa da au bar ov pc dm dm2 dm3 iu"),
  (0x3380, "pa na μa ma ka kb mb gb cal kcal pf nf μf μg mg kg hz khz mhz ghz thz μl ml"),
  (0x3397, "dl kl fm nm μm mm cm km mm2 cm2 m2 km2 mm3 cm3 m3 km3 m∕s m∕s2 pa kpa mpa gpa"),
  (0x33AD, "rad rad∕s rad∕s2 ps ns μs ms pv nv μv mv kv mv pw nw μw mw kw mw kω mω"),
  (0x33C3, "bq cc cd c∕kg"), (0x33C8, "db gy ha hp in kk km kt lm ln log lx mb mil mol ph"),
  (0x33D9, "ppm pr sr sv wb v∕m a∕m 1日 2日 3日 4日 5日 6日 7日 8日 9日 10日 11日 12日 13日 14日 15日"),
  (0x33EF, "16日 17日 18日 19日 20日 21日 22日 23日 24日 25日 26日 27日 28日 29日 30日 31日 gal"),
  (0xA7F1, "s c f q"), (0xFB00, "ff fi fl ffi ffl st st"), (0xFB29, "+"), (0xFE10, ","),
  (0xFE14, "; !"), (0xFE33, "_ _ ( ) \x7b \x7d"), (0xFE4D, "_ _ _ ,"), (0xFE54, ";"), (0xFE57, "!"),
  (0xFE59, "( ) \x7b \x7d"), (0xFE60, "& * + -"), (0xFE66, "="), (0xFE69, "$"), (0xFF01, "! \""),
  (0xFF04, "$"), (0xFF06, "& ' ( ) * + , - ."), (0xFF10, "0 1 2 3 4 5 6 7 8 9"), (0xFF1B, ";"),
  (0xFF1D, "="), (0xFF21, "a b c d e f g h i j k l m n o p q r s t u v w x y z"),
  (0xFF3F, "_ ` a b c d e f g h i j k l m n o p q r s t u v w x y z \x7b"), (0xFF5D, "\x7d ~"),
  (0xFF61, "."), (0x107A5, "q"),
  (0x1CCD6, "a b c d e f g h i j k l m n o p q r s t u v w x y z 0 1 2 3 4 5 6 7 8 9"),
  (0x1D400, "a b c d e f g h i j k l m n o p q r s t u v w x y z a b c d e f g h i j k l m"),
  (0x1D427, "n o p q r s t u v w x y z a b c d e f g h i j k l m n o p q r s t u v w x y z"),
  (0x1D44E, "a b c d e f g"),
  (0x1D456, "i j k l m n o p q r s t u v w x y z a b c d e f g h i j k l m n o p q r s t u"),
  (0x1D47D, "v w x y z a b c d e f g h i j k l m n o p q r s t u v w x y z a"), (0x1D49E, "c d"),
  (0x1D4A2, "g"), (0x1D4A5, "j k"), (0x1D4A9, "n o p q"), (0x1D4AE, "s t u v w x y z a b c d"),
  (0x1D4BB, "f"), (0x1D4BD, "h i j k l m n"),
  (0x1D4C5, "p q r s t u v w x y z a b c d e f g h i j k l m n o p q r s t u v w x y z a b"),
  (0x1D4EC, "c d e f g h i j k l m n o p q r s t u v w x y z a b"), (0x1D507, "d e f g"),
  (0x1D50D, "j k l m n o p q"), (0x1D516, "s t u v w x y"),
  (0x1D51E, "a b c d e f g h i j k l m n o p q r s t u v w x y z a b"), (0x1D53B, "d e f g"),
  (0x1D540, "i j k l m"), (0x1D546, "o"), (0x1D54A, "s t u v w x y"),
  (0x1D552, "a b c d e f g h i j k l m n o p q r s t u v w x y z a b c d e f g h i j k l m"),
  (0x1D579, "n o p q r s t u v w x y z a b c d e f g h i j k l m n o p q r s t u v w x y z"),
  (0x1D5A0, "a b c d e f g h i j k l m n o p q r s t u v w x y z a b c d e f g h i j k l m"),
  (0x1D5C7, "n o p q r s t u v w x y z a b c d e f g h i j k l m n o p q r s t u v w x y z"),
  (0x1D5EE, "a b c d e f g h i j k l m n o p q r s t u v w x y z a b c d e f g h i j k l m"),
  (0x1D615, "n o p q r s t u v w x y z a b c d e f g h i j k l m n o p q r s t u v w x y z"),
  (0x1D63C, "a b c d e f g h i j k l m n o p q r s t u v w x y z a b c d e f g h i j k l m"),
  (0x1D663, "n o p q r s t u v w x y z a b c d e f g h i j k l m n o p q r s t u v w x y z"),
  (0x1D68A, "a b c d e f g h i j k l m n o p q r s t u v w x y z"),
  (0x1D7CE, "0 1 2 3 4 5 6 7 8 9 0 1 2 3 4 5 6 7 8 9 0 1 2 3 4 5 6 7 8 9 0 1 2 3 4 5 6 7 8"),
  (0x1D7F5, "9 0 1 2 3 4 5 6 7 8 9"), (0x1F101, "0, 1, 2, 3, 4, 5, 6, 7, 8, 9,"),
  (0x1F110, "(a) (b) (c) (d) (e) (f) (g) (h) (i) (j) (k) (l) (m) (n) (o) (p) (q) (r) (s)"),
  (0x1F123, "(t) (u) (v) (w) (x) (y) (z) 〔s〕 c r cd wz"),
  (0x1F130, "a b c d e f g h i j k l m n o p q r s t u v w x y z hv mv sd ss ppv wc"),
  (0x1F16A, "mc md mr"), (0x1F190, "dj"), (0x1FBF0, "0 1 2 3 4 5 6 7 8 9")]

end Ingress.Http.Host
