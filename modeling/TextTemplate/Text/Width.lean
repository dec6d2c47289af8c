import TextTemplate.Text.CodeRange

/-!
# Display width

How many columns a text takes in a fixed-width display. Wide characters take two columns; marks,
joiners and other invisible characters take none; a line feed takes none, and a carriage return in
front of it neither. Letters that fuse with the letters behind them share a column, and an emoji
sequence counts as one emoji: a text is therefore read from its end, and each character is judged
by what the text behind it begins with. The tables follow Unicode 15.1.
-/

namespace TextTemplate.Text

/-! ## Classes of characters -/

/-- Characters that take two columns. -/
def wideRanges : List (Nat × Nat) := [
  (0x1100, 0x115f), (0x231a, 0x231b), (0x2329, 0x232a), (0x23e9, 0x23ec), (0x23f0, 0x23f0),
  (0x23f3, 0x23f3), (0x25fd, 0x25fe), (0x2614, 0x2615), (0x2648, 0x2653), (0x267f, 0x267f),
  (0x2693, 0x2693), (0x26a1, 0x26a1), (0x26aa, 0x26ab), (0x26bd, 0x26be), (0x26c4, 0x26c5),
  (0x26ce, 0x26ce), (0x26d4, 0x26d4), (0x26ea, 0x26ea), (0x26f2, 0x26f3), (0x26f5, 0x26f5),
  (0x26fa, 0x26fa), (0x26fd, 0x26fd), (0x2705, 0x2705), (0x270a, 0x270b), (0x2728, 0x2728),
  (0x274c, 0x274c), (0x274e, 0x274e), (0x2753, 0x2755), (0x2757, 0x2757), (0x2795, 0x2797),
  (0x27b0, 0x27b0), (0x27bf, 0x27bf), (0x2b1b, 0x2b1c), (0x2b50, 0x2b50), (0x2b55, 0x2b55),
  (0x2e80, 0x2e99), (0x2e9b, 0x2ef3), (0x2f00, 0x2fd5), (0x2ff0, 0x303e), (0x3041, 0x3096),
  (0x3099, 0x30ff), (0x3105, 0x312f), (0x3131, 0x318e), (0x3190, 0x31e3), (0x31ef, 0x321e),
  (0x3220, 0x3247), (0x3250, 0x4dbf), (0x4e00, 0xa48c), (0xa490, 0xa4c6), (0xa960, 0xa97c),
  (0xac00, 0xd7a3), (0xf900, 0xfaff), (0xfe10, 0xfe19), (0xfe30, 0xfe52), (0xfe54, 0xfe66),
  (0xfe68, 0xfe6b), (0xff01, 0xff60), (0xffe0, 0xffe6), (0x16fe0, 0x16fe4), (0x16ff0, 0x16ff1),
  (0x17000, 0x187f7), (0x18800, 0x18cd5), (0x18d00, 0x18d08), (0x1aff0, 0x1aff3),
  (0x1aff5, 0x1affb), (0x1affd, 0x1affe), (0x1b000, 0x1b122), (0x1b132, 0x1b132),
  (0x1b150, 0x1b152), (0x1b155, 0x1b155), (0x1b164, 0x1b167), (0x1b170, 0x1b2fb),
  (0x1f004, 0x1f004), (0x1f0cf, 0x1f0cf), (0x1f18e, 0x1f18e), (0x1f191, 0x1f19a),
  (0x1f200, 0x1f202), (0x1f210, 0x1f23b), (0x1f240, 0x1f248), (0x1f250, 0x1f251),
  (0x1f260, 0x1f265), (0x1f300, 0x1f320), (0x1f32d, 0x1f335), (0x1f337, 0x1f37c),
  (0x1f37e, 0x1f393), (0x1f3a0, 0x1f3ca), (0x1f3cf, 0x1f3d3), (0x1f3e0, 0x1f3f0),
  (0x1f3f4, 0x1f3f4), (0x1f3f8, 0x1f43e), (0x1f440, 0x1f440), (0x1f442, 0x1f4fc),
  (0x1f4ff, 0x1f53d), (0x1f54b, 0x1f54e), (0x1f550, 0x1f567), (0x1f57a, 0x1f57a),
  (0x1f595, 0x1f596), (0x1f5a4, 0x1f5a4), (0x1f5fb, 0x1f64f), (0x1f680, 0x1f6c5),
  (0x1f6cc, 0x1f6cc), (0x1f6d0, 0x1f6d2), (0x1f6d5, 0x1f6d7), (0x1f6dc, 0x1f6df),
  (0x1f6eb, 0x1f6ec), (0x1f6f4, 0x1f6fc), (0x1f7e0, 0x1f7eb), (0x1f7f0, 0x1f7f0),
  (0x1f90c, 0x1f93a), (0x1f93c, 0x1f945), (0x1f947, 0x1f9ff), (0x1fa70, 0x1fa7c),
  (0x1fa80, 0x1fa88), (0x1fa90, 0x1fabd), (0x1fabf, 0x1fac5), (0x1face, 0x1fadb),
  (0x1fae0, 0x1fae8), (0x1faf0, 0x1faf8), (0x20000, 0x2fffd), (0x30000, 0x3fffd)]

/-- Characters that take no column: those that extend the character in front of them, those that are
ignored in display, Hangul vowels and trailing consonants, and signs that enclose what follows. -/
def zeroWidthRanges : List (Nat × Nat) := [
  (0xad, 0xad), (0x300, 0x36f), (0x483, 0x489), (0x591, 0x5bd), (0x5bf, 0x5bf), (0x5c1, 0x5c2),
  (0x5c4, 0x5c5), (0x5c7, 0x5c7), (0x605, 0x605), (0x610, 0x61a), (0x61c, 0x61c), (0x64b, 0x65f),
  (0x670, 0x670), (0x6d6, 0x6dc), (0x6df, 0x6e4), (0x6e7, 0x6e8), (0x6ea, 0x6ed), (0x70f, 0x70f),
  (0x711, 0x711), (0x730, 0x74a), (0x7a6, 0x7b0), (0x7eb, 0x7f3), (0x7fd, 0x7fd), (0x816, 0x819),
  (0x81b, 0x823), (0x825, 0x827), (0x829, 0x82d), (0x859, 0x85b), (0x890, 0x891), (0x898, 0x89f),
  (0x8ca, 0x902), (0x93a, 0x93a), (0x93c, 0x93c), (0x941, 0x948), (0x94d, 0x94d), (0x951, 0x957),
  (0x962, 0x963), (0x981, 0x981), (0x9bc, 0x9bc), (0x9be, 0x9be), (0x9c1, 0x9c4), (0x9cd, 0x9cd),
  (0x9d7, 0x9d7), (0x9e2, 0x9e3), (0x9fe, 0x9fe), (0xa01, 0xa02), (0xa3c, 0xa3c), (0xa41, 0xa42),
  (0xa47, 0xa48), (0xa4b, 0xa4d), (0xa51, 0xa51), (0xa70, 0xa71), (0xa75, 0xa75), (0xa81, 0xa82),
  (0xabc, 0xabc), (0xac1, 0xac5), (0xac7, 0xac8), (0xacd, 0xacd), (0xae2, 0xae3), (0xafa, 0xaff),
  (0xb01, 0xb01), (0xb3c, 0xb3c), (0xb3e, 0xb3f), (0xb41, 0xb44), (0xb4d, 0xb4d), (0xb55, 0xb57),
  (0xb62, 0xb63), (0xb82, 0xb82), (0xbbe, 0xbbe), (0xbc0, 0xbc0), (0xbcd, 0xbcd), (0xbd7, 0xbd7),
  (0xc00, 0xc00), (0xc04, 0xc04), (0xc3c, 0xc3c), (0xc3e, 0xc40), (0xc46, 0xc48), (0xc4a, 0xc4d),
  (0xc55, 0xc56), (0xc62, 0xc63), (0xc81, 0xc81), (0xcbc, 0xcbc), (0xcbf, 0xcc0), (0xcc2, 0xcc2),
  (0xcc6, 0xcc8), (0xcca, 0xccd), (0xcd5, 0xcd6), (0xce2, 0xce3), (0xd00, 0xd01), (0xd3b, 0xd3c),
  (0xd3e, 0xd3e), (0xd41, 0xd44), (0xd4d, 0xd4e), (0xd57, 0xd57), (0xd62, 0xd63), (0xd81, 0xd81),
  (0xdca, 0xdca), (0xdcf, 0xdcf), (0xdd2, 0xdd4), (0xdd6, 0xdd6), (0xddf, 0xddf), (0xe31, 0xe31),
  (0xe34, 0xe3a), (0xe47, 0xe4e), (0xeb1, 0xeb1), (0xeb4, 0xebc), (0xec8, 0xece), (0xf18, 0xf19),
  (0xf35, 0xf35), (0xf37, 0xf37), (0xf39, 0xf39), (0xf71, 0xf7e), (0xf80, 0xf84), (0xf86, 0xf87),
  (0xf8d, 0xf97), (0xf99, 0xfbc), (0xfc6, 0xfc6), (0x102d, 0x1030), (0x1032, 0x1037),
  (0x1039, 0x103a), (0x103d, 0x103e), (0x1058, 0x1059), (0x105e, 0x1060), (0x1071, 0x1074),
  (0x1082, 0x1082), (0x1085, 0x1086), (0x108d, 0x108d), (0x109d, 0x109d), (0x1160, 0x11ff),
  (0x135d, 0x135f), (0x1712, 0x1714), (0x1732, 0x1733), (0x1752, 0x1753), (0x1772, 0x1773),
  (0x17b4, 0x17b5), (0x17b7, 0x17bd), (0x17c6, 0x17c6), (0x17c9, 0x17d3), (0x17dd, 0x17dd),
  (0x180b, 0x180f), (0x1885, 0x1886), (0x18a9, 0x18a9), (0x1920, 0x1922), (0x1927, 0x1928),
  (0x1932, 0x1932), (0x1939, 0x193b), (0x1a17, 0x1a18), (0x1a1b, 0x1a1b), (0x1a56, 0x1a56),
  (0x1a58, 0x1a5e), (0x1a60, 0x1a60), (0x1a62, 0x1a62), (0x1a65, 0x1a6c), (0x1a73, 0x1a7c),
  (0x1a7f, 0x1a7f), (0x1ab0, 0x1ace), (0x1b00, 0x1b03), (0x1b34, 0x1b3d), (0x1b42, 0x1b43),
  (0x1b6b, 0x1b73), (0x1b80, 0x1b81), (0x1ba2, 0x1ba5), (0x1ba8, 0x1ba9), (0x1bab, 0x1bad),
  (0x1be6, 0x1be6), (0x1be8, 0x1be9), (0x1bed, 0x1bed), (0x1bef, 0x1bf1), (0x1c2c, 0x1c33),
  (0x1c36, 0x1c37), (0x1cd0, 0x1cd2), (0x1cd4, 0x1ce0), (0x1ce2, 0x1ce8), (0x1ced, 0x1ced),
  (0x1cf4, 0x1cf4), (0x1cf8, 0x1cf9), (0x1dc0, 0x1dff), (0x200b, 0x200f), (0x202a, 0x202e),
  (0x2060, 0x206f), (0x20d0, 0x20f0), (0x2cef, 0x2cf1), (0x2de0, 0x2dff), (0x302a, 0x302f),
  (0x3099, 0x309a), (0x3164, 0x3164), (0xa66f, 0xa672), (0xa674, 0xa67d), (0xa69e, 0xa69f),
  (0xa6f0, 0xa6f1), (0xa802, 0xa802), (0xa806, 0xa806), (0xa80b, 0xa80b), (0xa825, 0xa826),
  (0xa82c, 0xa82c), (0xa8c4, 0xa8c5), (0xa8e0, 0xa8f1), (0xa8fa, 0xa8fa), (0xa8ff, 0xa8ff),
  (0xa926, 0xa92d), (0xa947, 0xa951), (0xa980, 0xa982), (0xa9b3, 0xa9b3), (0xa9b6, 0xa9b9),
  (0xa9bc, 0xa9bd), (0xa9e5, 0xa9e5), (0xaa29, 0xaa2e), (0xaa31, 0xaa32), (0xaa35, 0xaa36),
  (0xaa43, 0xaa43), (0xaa4c, 0xaa4c), (0xaa7c, 0xaa7c), (0xaab0, 0xaab0), (0xaab2, 0xaab4),
  (0xaab7, 0xaab8), (0xaabe, 0xaabf), (0xaac1, 0xaac1), (0xaaec, 0xaaed), (0xaaf6, 0xaaf6),
  (0xabe5, 0xabe5), (0xabe8, 0xabe8), (0xabed, 0xabed), (0xd7b0, 0xd7c6), (0xd7cb, 0xd7fb),
  (0xfb1e, 0xfb1e), (0xfe00, 0xfe0f), (0xfe20, 0xfe2f), (0xfeff, 0xfeff), (0xff9e, 0xffa0),
  (0xfff0, 0xfff8), (0x101fd, 0x101fd), (0x102e0, 0x102e0), (0x10376, 0x1037a),
  (0x10a01, 0x10a03), (0x10a05, 0x10a06), (0x10a0c, 0x10a0f), (0x10a38, 0x10a3a),
  (0x10a3f, 0x10a3f), (0x10ae5, 0x10ae6), (0x10d24, 0x10d27), (0x10eab, 0x10eac),
  (0x10efd, 0x10eff), (0x10f46, 0x10f50), (0x10f82, 0x10f85), (0x11001, 0x11001),
  (0x11038, 0x11046), (0x11070, 0x11070), (0x11073, 0x11074), (0x1107f, 0x11081),
  (0x110b3, 0x110b6), (0x110b9, 0x110ba), (0x110c2, 0x110c2), (0x11100, 0x11102),
  (0x11127, 0x1112b), (0x1112d, 0x11134), (0x11173, 0x11173), (0x11180, 0x11181),
  (0x111b6, 0x111be), (0x111c2, 0x111c3), (0x111c9, 0x111cc), (0x111cf, 0x111cf),
  (0x1122f, 0x11231), (0x11234, 0x11234), (0x11236, 0x11237), (0x1123e, 0x1123e),
  (0x11241, 0x11241), (0x112df, 0x112df), (0x112e3, 0x112ea), (0x11300, 0x11301),
  (0x1133b, 0x1133c), (0x1133e, 0x1133e), (0x11340, 0x11340), (0x11357, 0x11357),
  (0x11366, 0x1136c), (0x11370, 0x11374), (0x11438, 0x1143f), (0x11442, 0x11444),
  (0x11446, 0x11446), (0x1145e, 0x1145e), (0x114b0, 0x114b0), (0x114b3, 0x114b8),
  (0x114ba, 0x114ba), (0x114bd, 0x114bd), (0x114bf, 0x114c0), (0x114c2, 0x114c3),
  (0x115af, 0x115af), (0x115b2, 0x115b5), (0x115bc, 0x115bd), (0x115bf, 0x115c0),
  (0x115dc, 0x115dd), (0x11633, 0x1163a), (0x1163d, 0x1163d), (0x1163f, 0x11640),
  (0x116ab, 0x116ab), (0x116ad, 0x116ad), (0x116b0, 0x116b5), (0x116b7, 0x116b7),
  (0x1171d, 0x1171f), (0x11722, 0x11725), (0x11727, 0x1172b), (0x1182f, 0x11837),
  (0x11839, 0x1183a), (0x11930, 0x11930), (0x1193b, 0x1193c), (0x1193e, 0x1193f),
  (0x11941, 0x11941), (0x11943, 0x11943), (0x119d4, 0x119d7), (0x119da, 0x119db),
  (0x119e0, 0x119e0), (0x11a01, 0x11a0a), (0x11a33, 0x11a38), (0x11a3a, 0x11a3e),
  (0x11a47, 0x11a47), (0x11a51, 0x11a56), (0x11a59, 0x11a5b), (0x11a84, 0x11a96),
  (0x11a98, 0x11a99), (0x11c30, 0x11c36), (0x11c38, 0x11c3d), (0x11c3f, 0x11c3f),
  (0x11c92, 0x11ca7), (0x11caa, 0x11cb0), (0x11cb2, 0x11cb3), (0x11cb5, 0x11cb6),
  (0x11d31, 0x11d36), (0x11d3a, 0x11d3a), (0x11d3c, 0x11d3d), (0x11d3f, 0x11d47),
  (0x11d90, 0x11d91), (0x11d95, 0x11d95), (0x11d97, 0x11d97), (0x11ef3, 0x11ef4),
  (0x11f00, 0x11f02), (0x11f36, 0x11f3a), (0x11f40, 0x11f40), (0x11f42, 0x11f42),
  (0x13440, 0x13440), (0x13447, 0x13455), (0x16af0, 0x16af4), (0x16b30, 0x16b36),
  (0x16f4f, 0x16f4f), (0x16f8f, 0x16f92), (0x16fe4, 0x16fe4), (0x1bc9d, 0x1bc9e),
  (0x1bca0, 0x1bca3), (0x1cf00, 0x1cf2d), (0x1cf30, 0x1cf46), (0x1d165, 0x1d165),
  (0x1d167, 0x1d169), (0x1d16e, 0x1d182), (0x1d185, 0x1d18b), (0x1d1aa, 0x1d1ad),
  (0x1d242, 0x1d244), (0x1da00, 0x1da36), (0x1da3b, 0x1da6c), (0x1da75, 0x1da75),
  (0x1da84, 0x1da84), (0x1da9b, 0x1da9f), (0x1daa1, 0x1daaf), (0x1e000, 0x1e006),
  (0x1e008, 0x1e018), (0x1e01b, 0x1e021), (0x1e023, 0x1e024), (0x1e026, 0x1e02a),
  (0x1e08f, 0x1e08f), (0x1e130, 0x1e136), (0x1e2ae, 0x1e2ae), (0x1e2ec, 0x1e2ef),
  (0x1e4ec, 0x1e4ef), (0x1e8d0, 0x1e8d6), (0x1e944, 0x1e94a), (0xe0000, 0xe0fff)]

/-- Characters without a column that keep a lam and an alef apart; all others let them join. -/
def separatingRanges : List (Nat × Nat) := [
  (0x605, 0x605), (0x890, 0x891), (0x8e2, 0x8e2), (0x9be, 0x9be), (0x9d7, 0x9d7), (0xb3e, 0xb3e),
  (0xb57, 0xb57), (0xbbe, 0xbbe), (0xbd7, 0xbd7), (0xcc0, 0xcc0), (0xcc2, 0xcc2), (0xcc7, 0xcc8),
  (0xcca, 0xccb), (0xcd5, 0xcd6), (0xd3e, 0xd3e), (0xd4e, 0xd4e), (0xd57, 0xd57), (0xdcf, 0xdcf),
  (0xddf, 0xddf), (0x1160, 0x11ff), (0x180e, 0x180e), (0x1b35, 0x1b35), (0x1b3b, 0x1b3b),
  (0x1b3d, 0x1b3d), (0x1b43, 0x1b43), (0x200c, 0x200d), (0x2065, 0x2069), (0x302e, 0x302f),
  (0x3164, 0x3164), (0xa8fa, 0xa8fa), (0xd7b0, 0xd7c6), (0xd7cb, 0xd7fb), (0xff9e, 0xffa0),
  (0xfff0, 0xfff8), (0x111c2, 0x111c3), (0x1133e, 0x1133e), (0x11357, 0x11357),
  (0x114b0, 0x114b0), (0x114bd, 0x114bd), (0x115af, 0x115af), (0x11930, 0x11930),
  (0x1193f, 0x1193f), (0x11941, 0x11941), (0x11a3a, 0x11a3a), (0x11a84, 0x11a89),
  (0x11d46, 0x11d46), (0x11f02, 0x11f02), (0x1d165, 0x1d165), (0x1d16e, 0x1d172),
  (0xe0000, 0xe0000), (0xe0002, 0xe001f), (0xe0080, 0xe00ff), (0xe01f0, 0xe0fff)]

/-- Characters displayed as emoji without a variation selector. -/
def emojiRanges : List (Nat × Nat) := [
  (0x231a, 0x231b), (0x23e9, 0x23ec), (0x23f0, 0x23f0), (0x23f3, 0x23f3), (0x25fd, 0x25fe),
  (0x2614, 0x2615), (0x2648, 0x2653), (0x267f, 0x267f), (0x2693, 0x2693), (0x26a1, 0x26a1),
  (0x26aa, 0x26ab), (0x26bd, 0x26be), (0x26c4, 0x26c5), (0x26ce, 0x26ce), (0x26d4, 0x26d4),
  (0x26ea, 0x26ea), (0x26f2, 0x26f3), (0x26f5, 0x26f5), (0x26fa, 0x26fa), (0x26fd, 0x26fd),
  (0x2705, 0x2705), (0x270a, 0x270b), (0x2728, 0x2728), (0x274c, 0x274c), (0x274e, 0x274e),
  (0x2753, 0x2755), (0x2757, 0x2757), (0x2795, 0x2797), (0x27b0, 0x27b0), (0x27bf, 0x27bf),
  (0x2b1b, 0x2b1c), (0x2b50, 0x2b50), (0x2b55, 0x2b55), (0x1f004, 0x1f004), (0x1f0cf, 0x1f0cf),
  (0x1f18e, 0x1f18e), (0x1f191, 0x1f19a), (0x1f201, 0x1f201), (0x1f21a, 0x1f21a),
  (0x1f22f, 0x1f22f), (0x1f232, 0x1f236), (0x1f238, 0x1f23a), (0x1f250, 0x1f251),
  (0x1f300, 0x1f320), (0x1f32d, 0x1f335), (0x1f337, 0x1f37c), (0x1f37e, 0x1f393),
  (0x1f3a0, 0x1f3ca), (0x1f3cf, 0x1f3d3), (0x1f3e0, 0x1f3f0), (0x1f3f4, 0x1f3f4),
  (0x1f3f8, 0x1f3fa), (0x1f400, 0x1f43e), (0x1f440, 0x1f440), (0x1f442, 0x1f4fc),
  (0x1f4ff, 0x1f53d), (0x1f54b, 0x1f54e), (0x1f550, 0x1f567), (0x1f57a, 0x1f57a),
  (0x1f595, 0x1f596), (0x1f5a4, 0x1f5a4), (0x1f5fb, 0x1f64f), (0x1f680, 0x1f6c5),
  (0x1f6cc, 0x1f6cc), (0x1f6d0, 0x1f6d2), (0x1f6d5, 0x1f6d7), (0x1f6dc, 0x1f6df),
  (0x1f6eb, 0x1f6ec), (0x1f6f4, 0x1f6fc), (0x1f7e0, 0x1f7eb), (0x1f7f0, 0x1f7f0),
  (0x1f90c, 0x1f93a), (0x1f93c, 0x1f945), (0x1f947, 0x1f9ff), (0x1fa70, 0x1fa7c),
  (0x1fa80, 0x1fa88), (0x1fa90, 0x1fabd), (0x1fabf, 0x1fac5), (0x1face, 0x1fadb),
  (0x1fae0, 0x1fae8), (0x1faf0, 0x1faf8)]

/-- Characters with two forms, between which a variation selector chooses. -/
def variantBaseRanges : List (Nat × Nat) := [
  (0x23, 0x23), (0x2a, 0x2a), (0x30, 0x39), (0xa9, 0xa9), (0xae, 0xae), (0x203c, 0x203c),
  (0x2049, 0x2049), (0x2122, 0x2122), (0x2139, 0x2139), (0x2194, 0x2199), (0x21a9, 0x21aa),
  (0x231a, 0x231b), (0x2328, 0x2328), (0x23cf, 0x23cf), (0x23e9, 0x23ea), (0x23ed, 0x23ef),
  (0x23f1, 0x23f3), (0x23f8, 0x23fa), (0x24c2, 0x24c2), (0x25aa, 0x25ab), (0x25b6, 0x25b6),
  (0x25c0, 0x25c0), (0x25fb, 0x25fe), (0x2600, 0x2604), (0x260e, 0x260e), (0x2611, 0x2611),
  (0x2614, 0x2615), (0x2618, 0x2618), (0x261d, 0x261d), (0x2620, 0x2620), (0x2622, 0x2623),
  (0x2626, 0x2626), (0x262a, 0x262a), (0x262e, 0x262f), (0x2638, 0x263a), (0x2640, 0x2640),
  (0x2642, 0x2642), (0x2648, 0x2653), (0x265f, 0x2660), (0x2663, 0x2663), (0x2665, 0x2666),
  (0x2668, 0x2668), (0x267b, 0x267b), (0x267e, 0x267f), (0x2692, 0x2697), (0x2699, 0x2699),
  (0x269b, 0x269c), (0x26a0, 0x26a1), (0x26a7, 0x26a7), (0x26aa, 0x26ab), (0x26b0, 0x26b1),
  (0x26bd, 0x26be), (0x26c4, 0x26c5), (0x26c8, 0x26c8), (0x26cf, 0x26cf), (0x26d1, 0x26d1),
  (0x26d3, 0x26d4), (0x26e9, 0x26ea), (0x26f0, 0x26f5), (0x26f7, 0x26fa), (0x26fd, 0x26fd),
  (0x2702, 0x2702), (0x2708, 0x2709), (0x270c, 0x270d), (0x270f, 0x270f), (0x2712, 0x2712),
  (0x2714, 0x2714), (0x2716, 0x2716), (0x271d, 0x271d), (0x2721, 0x2721), (0x2733, 0x2734),
  (0x2744, 0x2744), (0x2747, 0x2747), (0x2753, 0x2753), (0x2757, 0x2757), (0x2763, 0x2764),
  (0x27a1, 0x27a1), (0x2934, 0x2935), (0x2b05, 0x2b07), (0x2b1b, 0x2b1c), (0x2b50, 0x2b50),
  (0x2b55, 0x2b55), (0x3030, 0x3030), (0x303d, 0x303d), (0x3297, 0x3297), (0x3299, 0x3299),
  (0x1f004, 0x1f004), (0x1f170, 0x1f171), (0x1f17e, 0x1f17f), (0x1f202, 0x1f202),
  (0x1f21a, 0x1f21a), (0x1f22f, 0x1f22f), (0x1f237, 0x1f237), (0x1f30d, 0x1f30f),
  (0x1f315, 0x1f315), (0x1f31c, 0x1f31c), (0x1f321, 0x1f321), (0x1f324, 0x1f32c),
  (0x1f336, 0x1f336), (0x1f378, 0x1f378), (0x1f37d, 0x1f37d), (0x1f393, 0x1f393),
  (0x1f396, 0x1f397), (0x1f399, 0x1f39b), (0x1f39e, 0x1f39f), (0x1f3a7, 0x1f3a7),
  (0x1f3ac, 0x1f3ae), (0x1f3c2, 0x1f3c2), (0x1f3c4, 0x1f3c4), (0x1f3c6, 0x1f3c6),
  (0x1f3ca, 0x1f3ce), (0x1f3d4, 0x1f3e0), (0x1f3ed, 0x1f3ed), (0x1f3f3, 0x1f3f3),
  (0x1f3f5, 0x1f3f5), (0x1f3f7, 0x1f3f7), (0x1f408, 0x1f408), (0x1f415, 0x1f415),
  (0x1f41f, 0x1f41f), (0x1f426, 0x1f426), (0x1f43f, 0x1f43f), (0x1f441, 0x1f442),
  (0x1f446, 0x1f449), (0x1f44d, 0x1f44e), (0x1f453, 0x1f453), (0x1f46a, 0x1f46a),
  (0x1f47d, 0x1f47d), (0x1f4a3, 0x1f4a3), (0x1f4b0, 0x1f4b0), (0x1f4b3, 0x1f4b3),
  (0x1f4bb, 0x1f4bb), (0x1f4bf, 0x1f4bf), (0x1f4cb, 0x1f4cb), (0x1f4da, 0x1f4da),
  (0x1f4df, 0x1f4df), (0x1f4e4, 0x1f4e6), (0x1f4ea, 0x1f4ed), (0x1f4f7, 0x1f4f7),
  (0x1f4f9, 0x1f4fb), (0x1f4fd, 0x1f4fd), (0x1f508, 0x1f508), (0x1f50d, 0x1f50d),
  (0x1f512, 0x1f513), (0x1f549, 0x1f54a), (0x1f550, 0x1f567), (0x1f56f, 0x1f570),
  (0x1f573, 0x1f579), (0x1f587, 0x1f587), (0x1f58a, 0x1f58d), (0x1f590, 0x1f590),
  (0x1f5a5, 0x1f5a5), (0x1f5a8, 0x1f5a8), (0x1f5b1, 0x1f5b2), (0x1f5bc, 0x1f5bc),
  (0x1f5c2, 0x1f5c4), (0x1f5d1, 0x1f5d3), (0x1f5dc, 0x1f5de), (0x1f5e1, 0x1f5e1),
  (0x1f5e3, 0x1f5e3), (0x1f5e8, 0x1f5e8), (0x1f5ef, 0x1f5ef), (0x1f5f3, 0x1f5f3),
  (0x1f5fa, 0x1f5fa), (0x1f610, 0x1f610), (0x1f687, 0x1f687), (0x1f68d, 0x1f68d),
  (0x1f691, 0x1f691), (0x1f694, 0x1f694), (0x1f698, 0x1f698), (0x1f6ad, 0x1f6ad),
  (0x1f6b2, 0x1f6b2), (0x1f6b9, 0x1f6ba), (0x1f6bc, 0x1f6bc), (0x1f6cb, 0x1f6cb),
  (0x1f6cd, 0x1f6cf), (0x1f6e0, 0x1f6e5), (0x1f6e9, 0x1f6e9), (0x1f6f0, 0x1f6f0),
  (0x1f6f3, 0x1f6f3)]

/-- Emoji that take a skin tone. -/
def skinToneBaseRanges : List (Nat × Nat) := [
  (0x261d, 0x261d), (0x26f9, 0x26f9), (0x270a, 0x270d), (0x1f385, 0x1f385), (0x1f3c2, 0x1f3c4),
  (0x1f3c7, 0x1f3c7), (0x1f3ca, 0x1f3cc), (0x1f442, 0x1f443), (0x1f446, 0x1f450),
  (0x1f466, 0x1f478), (0x1f47c, 0x1f47c), (0x1f481, 0x1f483), (0x1f485, 0x1f487),
  (0x1f48f, 0x1f48f), (0x1f491, 0x1f491), (0x1f4aa, 0x1f4aa), (0x1f574, 0x1f575),
  (0x1f57a, 0x1f57a), (0x1f590, 0x1f590), (0x1f595, 0x1f596), (0x1f645, 0x1f647),
  (0x1f64b, 0x1f64f), (0x1f6a3, 0x1f6a3), (0x1f6b4, 0x1f6b6), (0x1f6c0, 0x1f6c0),
  (0x1f6cc, 0x1f6cc), (0x1f90c, 0x1f90c), (0x1f90f, 0x1f90f), (0x1f918, 0x1f91f),
  (0x1f926, 0x1f926), (0x1f930, 0x1f939), (0x1f93c, 0x1f93e), (0x1f977, 0x1f977),
  (0x1f9b5, 0x1f9b6), (0x1f9b8, 0x1f9b9), (0x1f9bb, 0x1f9bb), (0x1f9cd, 0x1f9cf),
  (0x1f9d1, 0x1f9dd), (0x1fac3, 0x1fac5), (0x1faf0, 0x1faf8)]

/-- Letters joined like alef. -/
def alefRanges : List (Nat × Nat) := [
  (0x622, 0x623), (0x625, 0x625), (0x627, 0x627), (0x671, 0x673), (0x675, 0x675), (0x773, 0x774),
  (0x870, 0x882)]

/-- Letters joined like lam. -/
def lamRanges : List (Nat × Nat) := [
  (0x644, 0x644), (0x6b5, 0x6b8), (0x76a, 0x76a), (0x8a6, 0x8a6), (0x8c7, 0x8c7)]

/-- Khmer letters that can be written below a consonant. -/
def khmerConsonantRanges : List (Nat × Nat) := [
  (0x1780, 0x1782), (0x1784, 0x1787), (0x1789, 0x178c), (0x178e, 0x1793), (0x1795, 0x1798),
  (0x179b, 0x179d), (0x17a0, 0x17a0), (0x17a2, 0x17a2), (0x17a7, 0x17a7), (0x17ab, 0x17ac),
  (0x17af, 0x17af)]

/-- Tifinagh letters. -/
def tifinaghConsonantRanges : List (Nat × Nat) := [
  (0x2d31, 0x2d65), (0x2d6f, 0x2d6f)]

/-- Variation selectors and other invisible signs that do not stop a ligature. -/
def selectorRanges : List (Nat × Nat) := [
  (0x34f, 0x34f), (0x17b4, 0x17b5), (0x180b, 0x180d), (0x180f, 0x180f), (0xfe00, 0xfe0f),
  (0xe0100, 0xe01ef)]

def isFlagLetter (c : Char) : Bool := 0x1f1e6 ≤ c.toNat && c.toNat ≤ 0x1f1ff

def isSkinTone (c : Char) : Bool := 0x1f3fb ≤ c.toNat && c.toNat ≤ 0x1f3ff

def isTagLetter (c : Char) : Bool := 0xe0061 ≤ c.toNat && c.toNat ≤ 0xe007a

def isTagDigit (c : Char) : Bool := 0xe0030 ≤ c.toNat && c.toNat ≤ 0xe0039

/-- The tone letters of Lisu that share a column with a tone letter behind them. -/
def isLisuTone (c : Char) : Bool := 0xa4f8 ≤ c.toNat && c.toNat ≤ 0xa4fb

/-- Emoji with a text form that takes one column. Ideographs in a square are wide in both forms. -/
def hasNarrowForm (c : Char) : Bool :=
  covers variantBaseRanges c && covers emojiRanges c &&
    !(0x1f200 ≤ c.toNat && c.toNat ≤ 0x1f2ff)

/-- Columns of a character that makes no sequence with what stands behind it. -/
def charWidth (c : Char) : Nat :=
  if c.toNat ≤ 0xa0 then 1
  else if c.toNat = 0x17d8 then 3
  else if covers zeroWidthRanges c then 0
  else if covers wideRanges c then 2
  else 1

/-! ## What stands behind a character -/

/-- A letter, with the signs in front of it, that may fuse with the letter that precedes it. Where
only a joiner lets the two fuse, `joined` tells that it is there. -/
inductive Ligature where
  | alef
  | lamed (joined : Bool)
  | bugineseYa (joined : Bool)
  /-- The vowel i in front of a joined ya. -/
  | bugineseVowel
  | khmerConsonant
  | tifinaghConsonant (joined : Bool)
  /-- The consonant joiner in front of a consonant. -/
  | tifinaghJoiner
  | lisuTone
  | orkhonVowel (joined : Bool)
deriving DecidableEq, Repr

/-- What the text behind a character begins with, as far as it matters for the character. -/
inductive Follower where
  | other
  | lineFeed
  | ligature (letter : Ligature)
  | emoji
  | skinTone
  /-- One regional indicator, half a flag. -/
  | flagLetter
  /-- Several regional indicators. -/
  | flagLetters
  /-- A joiner in front of an emoji. -/
  | joinedEmoji
  /-- The sign of a keycap in front of a joined emoji. -/
  | joinedKeycap
  /-- One regional indicator in front of a joined emoji. -/
  | joinedFlagLetter
  /-- Whole flags in front of a joined emoji. -/
  | joinedFlags
  /-- Whole flags in front of a joined emoji, with half a flag in front of them. -/
  | joinedFlagsOdd
  /-- So many tag letters, and behind them the end of a tag in front of a joined emoji. -/
  | tagLetters (count : Nat)
  /-- So many tag digits at the start of a tag in front of a joined emoji. -/
  | tagDigits (count : Nat)
deriving DecidableEq, Repr

/-- What stands behind a character: the follower, and whether a variation selector in front of the
follower asks for the emoji form or for the text form of the character. -/
structure Ahead where
  follower : Follower
  emojiForm : Bool
  textForm : Bool
deriving DecidableEq, Repr

/-- The role a character plays for the one in front of it, whatever follows. -/
def Follower.ofChar (c : Char) : Follower :=
  if c.toNat = 0x5dc then .ligature (.lamed false)
  else if c.toNat = 0x1a10 then .ligature (.bugineseYa false)
  else if c.toNat = 0xa4fc || c.toNat = 0xa4fd then .ligature .lisuTone
  else if c.toNat = 0x10c03 then .ligature (.orkhonVowel false)
  else if isFlagLetter c then .flagLetter
  else if isSkinTone c then .skinTone
  else if covers emojiRanges c then .emoji
  else if covers alefRanges c then .ligature .alef
  else if covers khmerConsonantRanges c then .ligature .khmerConsonant
  else if covers tifinaghConsonantRanges c then .ligature (.tifinaghConsonant false)
  else .other

/-! ## Sequences -/

namespace Ligature

/-- The letter with a joiner in front of it. -/
def join : Ligature → Ligature
  | lamed _ => lamed true
  | bugineseYa _ => bugineseYa true
  | tifinaghConsonant _ => tifinaghConsonant true
  | orkhonVowel _ => orkhonVowel true
  | letter => letter

/-- The columns that `c` adds when it fuses with the letter behind it, and what the text begins with
then. Fusing may also take back a column of the letter. -/
def fuse (c : Char) : Ligature → Option (Int × Follower)
  | alef => if covers lamRanges c then some (0, .other) else none
  | lamed true => if c.toNat = 0x5d0 then some (0, .other) else none
  | bugineseYa true => if c.toNat = 0x1a17 then some (0, .ligature bugineseVowel) else none
  | bugineseVowel => if c.toNat = 0x1a15 then some (0, .other) else none
  | khmerConsonant => if c.toNat = 0x17d2 then some (-1, .other) else none
  | tifinaghConsonant joined =>
    if c.toNat = 0x2d7f then some (1, .ligature tifinaghJoiner)
    else if joined && covers tifinaghConsonantRanges c then some (0, .other)
    else none
  | tifinaghJoiner => if covers tifinaghConsonantRanges c then some (-1, .other) else none
  | lisuTone => if isLisuTone c then some (0, .other) else none
  | orkhonVowel true => if c.toNat = 0x10c32 then some (0, .other) else none
  | _ => none

/-- What a character in front of a letter makes of it: invisible signs leave the letter in place,
and other characters may fuse with it. -/
def widthBefore (c : Char) (letter : Ligature) : Option (Int × Follower) :=
  if letter = alef then
    if charWidth c = 0 && !covers separatingRanges c then some (0, .ligature alef) else fuse c alef
  else if c = '\u200d' then some (0, .ligature letter.join)
  else if covers selectorRanges c then some (0, .ligature letter)
  else fuse c letter

end Ligature

namespace Follower

/-- Whether a character that takes the emoji form in front of the follower belongs to the emoji
behind it. -/
def isJoined (f : Follower) : Bool := f = joinedEmoji || f = joinedKeycap

/-- The columns that `c` adds when it makes one sequence with the follower, and what the text begins
with then. Two regional indicators take two columns together, and with a joined emoji behind them
none of their own. -/
def widthBefore (c : Char) : Follower → Option (Int × Follower)
  | other => none
  | lineFeed => none
  | ligature letter => letter.widthBefore c
  | emoji => if c = '\u200d' then some (0, joinedEmoji) else none
  | skinTone =>
    if covers skinToneBaseRanges c then some (0, emoji)
    else if c = '\u200d' then some (0, joinedEmoji)
    else none
  | flagLetter => if isFlagLetter c then some (1, flagLetters) else none
  | flagLetters =>
    if isFlagLetter c then some (1, flagLetters)
    else if c = '\u200d' then some (0, joinedEmoji)
    else none
  | joinedEmoji =>
    if c = '\u20e3' then some (0, joinedKeycap)
    else if isFlagLetter c then some (1, joinedFlagLetter)
    else if isSkinTone c then some (0, skinTone)
    else if c.toNat = 0xe007f then some (0, tagLetters 0)
    else if covers emojiRanges c then some (0, emoji)
    else none
  | joinedKeycap => none
  | joinedFlagLetter => if isFlagLetter c then some (-1, joinedFlags) else none
  | joinedFlags =>
    if isFlagLetter c then some (3, joinedFlagsOdd)
    else if c = '\u200d' then some (0, joinedEmoji)
    else none
  | joinedFlagsOdd => if isFlagLetter c then some (-1, joinedFlags) else none
  | tagLetters count =>
    if isTagLetter c && count < 6 then some (0, tagLetters (count + 1))
    else if isTagDigit c && count < 5 then some (0, tagDigits 1)
    else if c.toNat = 0x1f3f4 && 3 ≤ count then some (0, emoji)
    else none
  | tagDigits count =>
    if isTagDigit c && count < 3 then some (0, tagDigits (count + 1))
    else if c.toNat = 0x1f3f4 && count = 3 then some (0, emoji)
    else none

end Follower

namespace Ahead

/-- A follower without a variation selector in front of it. -/
def plain (follower : Follower) : Ahead := ⟨follower, false, false⟩

/-- The end of the text, or a character that nothing in front of it depends on. -/
def nothing : Ahead := plain .other

/-- The emoji selector in front of what stands behind it; only letters and joined emoji remain. -/
def selectEmoji (next : Ahead) : Ahead :=
  match next.follower with
  | .ligature _ => ⟨next.follower, true, next.textForm⟩
  | .joinedEmoji | .joinedKeycap => ⟨next.follower, true, false⟩
  | _ => ⟨.other, true, false⟩

/-- The text selector in front of what stands behind it; only letters remain. -/
def selectText (next : Ahead) : Ahead :=
  match next.follower with
  | .ligature _ => ⟨next.follower, next.emojiForm, true⟩
  | _ => ⟨.other, false, true⟩

/-- What stands behind a character that has no emoji form. -/
def withoutEmojiForm (next : Ahead) : Ahead :=
  match next.emojiForm, next.follower with
  | false, _ => next
  | true, .ligature letter => ⟨.ligature letter, false, next.textForm⟩
  | true, _ => nothing

end Ahead

/-! ## Texts -/

/-- The columns that a character without an emoji form adds in front of `next`, and what the longer
text begins with. -/
def plainWidthBefore (c : Char) (next : Ahead) : Int × Ahead :=
  if c = '\n' then (0, .plain .lineFeed)
  else if c = '\r' && next.follower = .lineFeed then (0, .nothing)
  else if c.toNat ≤ 0xa0 then (1, .nothing)
  else if c.toNat = 0xfe0f then (0, next.selectEmoji)
  else if c.toNat = 0xfe0e then (0, next.selectText)
  else if next.textForm && hasNarrowForm c then (1, .nothing)
  else match next.follower.widthBefore c with
    | some (columns, follower) => (columns, .plain follower)
    | none => (charWidth c, .plain (.ofChar c))

/-- The columns that `c` adds in front of `next`, and what the longer text begins with. -/
def widthBefore (c : Char) (next : Ahead) : Int × Ahead :=
  if next.emojiForm && covers variantBaseRanges c then
    (if next.follower.isJoined then 0 else 2, .plain .emoji)
  else plainWidthBefore c next.withoutEmojiForm

/-- Width of a text and what it begins with. -/
def widthAndAhead (cs : List Char) : Int × Ahead :=
  cs.foldr (fun c (total, next) =>
    let (columns, self) := widthBefore c next
    (total + columns, self)) (0, .nothing)

/-- The number of columns that a text takes. -/
def width (cs : List Char) : Nat := (widthAndAhead cs).1.toNat

end TextTemplate.Text
