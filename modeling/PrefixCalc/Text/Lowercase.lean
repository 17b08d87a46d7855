import PrefixCalc.Text.Mark
import PrefixCalc.Text.Runs

/-!
# Small letters

Capital letters of every script and the small letters that belong to them. A sigma at the end of a
word has a form of its own. The tables are those of Unicode 14.

## Main definitions

* `lowercase`: a text in small letters.
-/

namespace PrefixCalc.Text

/-- Runs of capital letters, each with the distance to the small letters. -/
def capitalRuns : List (Run × Int) :=
  [((0x41, 0x5A, 1), 32), ((0xC0, 0xD6, 1), 32), ((0xD8, 0xDE, 1), 32), ((0x100, 0x12E, 2), 1),
    ((0x132, 0x136, 2), 1), ((0x139, 0x147, 2), 1), ((0x14A, 0x176, 2), 1),
    ((0x178, 0x178, 1), -121), ((0x179, 0x17D, 2), 1), ((0x181, 0x181, 1), 210),
    ((0x182, 0x184, 2), 1), ((0x186, 0x186, 1), 206), ((0x187, 0x187, 1), 1),
    ((0x189, 0x18A, 1), 205), ((0x18B, 0x18B, 1), 1), ((0x18E, 0x18E, 1), 79),
    ((0x18F, 0x18F, 1), 202), ((0x190, 0x190, 1), 203), ((0x191, 0x191, 1), 1),
    ((0x193, 0x193, 1), 205), ((0x194, 0x194, 1), 207), ((0x196, 0x196, 1), 211),
    ((0x197, 0x197, 1), 209), ((0x198, 0x198, 1), 1), ((0x19C, 0x19C, 1), 211),
    ((0x19D, 0x19D, 1), 213), ((0x19F, 0x19F, 1), 214), ((0x1A0, 0x1A4, 2), 1),
    ((0x1A6, 0x1A6, 1), 218), ((0x1A7, 0x1A7, 1), 1), ((0x1A9, 0x1A9, 1), 218),
    ((0x1AC, 0x1AC, 1), 1), ((0x1AE, 0x1AE, 1), 218), ((0x1AF, 0x1AF, 1), 1),
    ((0x1B1, 0x1B2, 1), 217), ((0x1B3, 0x1B5, 2), 1), ((0x1B7, 0x1B7, 1), 219),
    ((0x1B8, 0x1B8, 1), 1), ((0x1BC, 0x1BC, 1), 1), ((0x1C4, 0x1C4, 1), 2), ((0x1C5, 0x1C5, 1), 1),
    ((0x1C7, 0x1C7, 1), 2), ((0x1C8, 0x1C8, 1), 1), ((0x1CA, 0x1CA, 1), 2), ((0x1CB, 0x1DB, 2), 1),
    ((0x1DE, 0x1EE, 2), 1), ((0x1F1, 0x1F1, 1), 2), ((0x1F2, 0x1F4, 2), 1),
    ((0x1F6, 0x1F6, 1), -97), ((0x1F7, 0x1F7, 1), -56), ((0x1F8, 0x21E, 2), 1),
    ((0x220, 0x220, 1), -130), ((0x222, 0x232, 2), 1), ((0x23A, 0x23A, 1), 10795),
    ((0x23B, 0x23B, 1), 1), ((0x23D, 0x23D, 1), -163), ((0x23E, 0x23E, 1), 10792),
    ((0x241, 0x241, 1), 1), ((0x243, 0x243, 1), -195), ((0x244, 0x244, 1), 69),
    ((0x245, 0x245, 1), 71), ((0x246, 0x24E, 2), 1), ((0x370, 0x372, 2), 1), ((0x376, 0x376, 1), 1),
    ((0x37F, 0x37F, 1), 116), ((0x386, 0x386, 1), 38), ((0x388, 0x38A, 1), 37),
    ((0x38C, 0x38C, 1), 64), ((0x38E, 0x38F, 1), 63), ((0x391, 0x3A1, 1), 32),
    ((0x3A4, 0x3AB, 1), 32), ((0x3CF, 0x3CF, 1), 8), ((0x3D8, 0x3EE, 2), 1),
    ((0x3F4, 0x3F4, 1), -60), ((0x3F7, 0x3F7, 1), 1), ((0x3F9, 0x3F9, 1), -7),
    ((0x3FA, 0x3FA, 1), 1), ((0x3FD, 0x3FF, 1), -130), ((0x400, 0x40F, 1), 80),
    ((0x410, 0x42F, 1), 32), ((0x460, 0x480, 2), 1), ((0x48A, 0x4BE, 2), 1),
    ((0x4C0, 0x4C0, 1), 15), ((0x4C1, 0x4CD, 2), 1), ((0x4D0, 0x52E, 2), 1),
    ((0x531, 0x556, 1), 48), ((0x10A0, 0x10C5, 1), 7264), ((0x10C7, 0x10C7, 1), 7264),
    ((0x10CD, 0x10CD, 1), 7264), ((0x13A0, 0x13EF, 1), 38864), ((0x13F0, 0x13F5, 1), 8),
    ((0x1C90, 0x1CBA, 1), -3008), ((0x1CBD, 0x1CBF, 1), -3008), ((0x1E00, 0x1E94, 2), 1),
    ((0x1E9E, 0x1E9E, 1), -7615), ((0x1EA0, 0x1EFE, 2), 1), ((0x1F08, 0x1F0F, 1), -8),
    ((0x1F18, 0x1F1D, 1), -8), ((0x1F28, 0x1F2F, 1), -8), ((0x1F38, 0x1F3F, 1), -8),
    ((0x1F48, 0x1F4D, 1), -8), ((0x1F59, 0x1F5F, 2), -8), ((0x1F68, 0x1F6F, 1), -8),
    ((0x1F88, 0x1F8F, 1), -8), ((0x1F98, 0x1F9F, 1), -8), ((0x1FA8, 0x1FAF, 1), -8),
    ((0x1FB8, 0x1FB9, 1), -8), ((0x1FBA, 0x1FBB, 1), -74), ((0x1FBC, 0x1FBC, 1), -9),
    ((0x1FC8, 0x1FCB, 1), -86), ((0x1FCC, 0x1FCC, 1), -9), ((0x1FD8, 0x1FD9, 1), -8),
    ((0x1FDA, 0x1FDB, 1), -100), ((0x1FE8, 0x1FE9, 1), -8), ((0x1FEA, 0x1FEB, 1), -112),
    ((0x1FEC, 0x1FEC, 1), -7), ((0x1FF8, 0x1FF9, 1), -128), ((0x1FFA, 0x1FFB, 1), -126),
    ((0x1FFC, 0x1FFC, 1), -9), ((0x2126, 0x2126, 1), -7517), ((0x212A, 0x212A, 1), -8383),
    ((0x212B, 0x212B, 1), -8262), ((0x2132, 0x2132, 1), 28), ((0x2160, 0x216F, 1), 16),
    ((0x2183, 0x2183, 1), 1), ((0x24B6, 0x24CF, 1), 26), ((0x2C00, 0x2C2F, 1), 48),
    ((0x2C60, 0x2C60, 1), 1), ((0x2C62, 0x2C62, 1), -10743), ((0x2C63, 0x2C63, 1), -3814),
    ((0x2C64, 0x2C64, 1), -10727), ((0x2C67, 0x2C6B, 2), 1), ((0x2C6D, 0x2C6D, 1), -10780),
    ((0x2C6E, 0x2C6E, 1), -10749), ((0x2C6F, 0x2C6F, 1), -10783), ((0x2C70, 0x2C70, 1), -10782),
    ((0x2C72, 0x2C72, 1), 1), ((0x2C75, 0x2C75, 1), 1), ((0x2C7E, 0x2C7F, 1), -10815),
    ((0x2C80, 0x2CE2, 2), 1), ((0x2CEB, 0x2CED, 2), 1), ((0x2CF2, 0x2CF2, 1), 1),
    ((0xA640, 0xA66C, 2), 1), ((0xA680, 0xA69A, 2), 1), ((0xA722, 0xA72E, 2), 1),
    ((0xA732, 0xA76E, 2), 1), ((0xA779, 0xA77B, 2), 1), ((0xA77D, 0xA77D, 1), -35332),
    ((0xA77E, 0xA786, 2), 1), ((0xA78B, 0xA78B, 1), 1), ((0xA78D, 0xA78D, 1), -42280),
    ((0xA790, 0xA792, 2), 1), ((0xA796, 0xA7A8, 2), 1), ((0xA7AA, 0xA7AA, 1), -42308),
    ((0xA7AB, 0xA7AB, 1), -42319), ((0xA7AC, 0xA7AC, 1), -42315), ((0xA7AD, 0xA7AD, 1), -42305),
    ((0xA7AE, 0xA7AE, 1), -42308), ((0xA7B0, 0xA7B0, 1), -42258), ((0xA7B1, 0xA7B1, 1), -42282),
    ((0xA7B2, 0xA7B2, 1), -42261), ((0xA7B3, 0xA7B3, 1), 928), ((0xA7B4, 0xA7C2, 2), 1),
    ((0xA7C4, 0xA7C4, 1), -48), ((0xA7C5, 0xA7C5, 1), -42307), ((0xA7C6, 0xA7C6, 1), -35384),
    ((0xA7C7, 0xA7C9, 2), 1), ((0xA7D0, 0xA7D0, 1), 1), ((0xA7D6, 0xA7D8, 2), 1),
    ((0xA7F5, 0xA7F5, 1), 1), ((0xFF21, 0xFF3A, 1), 32), ((0x10400, 0x10427, 1), 40),
    ((0x104B0, 0x104D3, 1), 40), ((0x10570, 0x1057A, 1), 39), ((0x1057C, 0x1058A, 1), 39),
    ((0x1058C, 0x10592, 1), 39), ((0x10594, 0x10595, 1), 39), ((0x10C80, 0x10CB2, 1), 64),
    ((0x118A0, 0x118BF, 1), 32), ((0x16E40, 0x16E5F, 1), 32), ((0x1E900, 0x1E921, 1), 34)]

/-- The runs of letters that are small or capital. -/
def casedRuns : List Run :=
  [(0x41, 0x5A, 1), (0x61, 0x7A, 1), (0xAA, 0xAA, 1), (0xB5, 0xB5, 1), (0xBA, 0xBA, 1),
    (0xC0, 0xD6, 1), (0xD8, 0xF6, 1), (0xF8, 0x1BA, 1), (0x1BC, 0x1BF, 1), (0x1C4, 0x293, 1),
    (0x295, 0x2AF, 1), (0x370, 0x373, 1), (0x376, 0x377, 1), (0x37B, 0x37D, 1), (0x37F, 0x37F, 1),
    (0x386, 0x388, 2), (0x389, 0x38A, 1), (0x38C, 0x38E, 2), (0x38F, 0x3A1, 1), (0x3A3, 0x3F5, 1),
    (0x3F7, 0x481, 1), (0x48A, 0x52F, 1), (0x531, 0x556, 1), (0x560, 0x588, 1), (0x10A0, 0x10C5, 1),
    (0x10C7, 0x10C7, 1), (0x10CD, 0x10CD, 1), (0x10D0, 0x10FA, 1), (0x10FD, 0x10FF, 1),
    (0x13A0, 0x13F5, 1), (0x13F8, 0x13FD, 1), (0x1C80, 0x1C88, 1), (0x1C90, 0x1CBA, 1),
    (0x1CBD, 0x1CBF, 1), (0x1D00, 0x1D2B, 1), (0x1D6B, 0x1D77, 1), (0x1D79, 0x1D9A, 1),
    (0x1E00, 0x1F15, 1), (0x1F18, 0x1F1D, 1), (0x1F20, 0x1F45, 1), (0x1F48, 0x1F4D, 1),
    (0x1F50, 0x1F57, 1), (0x1F59, 0x1F5F, 2), (0x1F60, 0x1F7D, 1), (0x1F80, 0x1FB4, 1),
    (0x1FB6, 0x1FBC, 1), (0x1FBE, 0x1FBE, 1), (0x1FC2, 0x1FC4, 1), (0x1FC6, 0x1FCC, 1),
    (0x1FD0, 0x1FD3, 1), (0x1FD6, 0x1FDB, 1), (0x1FE0, 0x1FEC, 1), (0x1FF2, 0x1FF4, 1),
    (0x1FF6, 0x1FFC, 1), (0x2102, 0x2102, 1), (0x2107, 0x2107, 1), (0x210A, 0x2113, 1),
    (0x2115, 0x2115, 1), (0x2119, 0x211D, 1), (0x2124, 0x212A, 2), (0x212B, 0x212D, 1),
    (0x212F, 0x2134, 1), (0x2139, 0x2139, 1), (0x213C, 0x213F, 1), (0x2145, 0x2149, 1),
    (0x214E, 0x214E, 1), (0x2160, 0x217F, 1), (0x2183, 0x2184, 1), (0x24B6, 0x24E9, 1),
    (0x2C00, 0x2C7B, 1), (0x2C7E, 0x2CE4, 1), (0x2CEB, 0x2CEE, 1), (0x2CF2, 0x2CF3, 1),
    (0x2D00, 0x2D25, 1), (0x2D27, 0x2D27, 1), (0x2D2D, 0x2D2D, 1), (0xA640, 0xA66D, 1),
    (0xA680, 0xA69B, 1), (0xA722, 0xA76F, 1), (0xA771, 0xA787, 1), (0xA78B, 0xA78E, 1),
    (0xA790, 0xA7CA, 1), (0xA7D0, 0xA7D1, 1), (0xA7D3, 0xA7D5, 2), (0xA7D6, 0xA7D9, 1),
    (0xA7F5, 0xA7F6, 1), (0xA7FA, 0xA7FA, 1), (0xAB30, 0xAB5A, 1), (0xAB60, 0xAB68, 1),
    (0xAB70, 0xABBF, 1), (0xFB00, 0xFB06, 1), (0xFB13, 0xFB17, 1), (0xFF21, 0xFF3A, 1),
    (0xFF41, 0xFF5A, 1), (0x10400, 0x1044F, 1), (0x104B0, 0x104D3, 1), (0x104D8, 0x104FB, 1),
    (0x10570, 0x1057A, 1), (0x1057C, 0x1058A, 1), (0x1058C, 0x10592, 1), (0x10594, 0x10595, 1),
    (0x10597, 0x105A1, 1), (0x105A3, 0x105B1, 1), (0x105B3, 0x105B9, 1), (0x105BB, 0x105BC, 1),
    (0x10C80, 0x10CB2, 1), (0x10CC0, 0x10CF2, 1), (0x118A0, 0x118DF, 1), (0x16E40, 0x16E7F, 1),
    (0x1D400, 0x1D454, 1), (0x1D456, 0x1D49C, 1), (0x1D49E, 0x1D49F, 1), (0x1D4A2, 0x1D4A2, 1),
    (0x1D4A5, 0x1D4A6, 1), (0x1D4A9, 0x1D4AC, 1), (0x1D4AE, 0x1D4B9, 1), (0x1D4BB, 0x1D4BD, 2),
    (0x1D4BE, 0x1D4C3, 1), (0x1D4C5, 0x1D505, 1), (0x1D507, 0x1D50A, 1), (0x1D50D, 0x1D514, 1),
    (0x1D516, 0x1D51C, 1), (0x1D51E, 0x1D539, 1), (0x1D53B, 0x1D53E, 1), (0x1D540, 0x1D544, 1),
    (0x1D546, 0x1D546, 1), (0x1D54A, 0x1D550, 1), (0x1D552, 0x1D6A5, 1), (0x1D6A8, 0x1D6C0, 1),
    (0x1D6C2, 0x1D6DA, 1), (0x1D6DC, 0x1D6FA, 1), (0x1D6FC, 0x1D714, 1), (0x1D716, 0x1D734, 1),
    (0x1D736, 0x1D74E, 1), (0x1D750, 0x1D76E, 1), (0x1D770, 0x1D788, 1), (0x1D78A, 0x1D7A8, 1),
    (0x1D7AA, 0x1D7C2, 1), (0x1D7C4, 0x1D7CB, 1), (0x1DF00, 0x1DF09, 1), (0x1DF0B, 0x1DF1E, 1),
    (0x1E900, 0x1E943, 1), (0x1F130, 0x1F149, 1), (0x1F150, 0x1F169, 1), (0x1F170, 0x1F189, 1)]

/-- The runs of characters, other than marks that take no space, that do not end a word. -/
def innerRuns : List Run :=
  [(0x27, 0x27, 1), (0x2E, 0x2E, 1), (0x3A, 0x3A, 1), (0x5E, 0x60, 2), (0xA8, 0xA8, 1),
    (0xAD, 0xAF, 2), (0xB4, 0xB4, 1), (0xB7, 0xB8, 1), (0x2B0, 0x2FF, 1), (0x374, 0x375, 1),
    (0x37A, 0x37A, 1), (0x384, 0x385, 1), (0x387, 0x387, 1), (0x559, 0x559, 1), (0x55F, 0x55F, 1),
    (0x5F4, 0x5F4, 1), (0x600, 0x605, 1), (0x61C, 0x61C, 1), (0x640, 0x640, 1), (0x6DD, 0x6DD, 1),
    (0x6E5, 0x6E6, 1), (0x70F, 0x70F, 1), (0x7F4, 0x7F5, 1), (0x7FA, 0x7FA, 1), (0x81A, 0x81A, 1),
    (0x824, 0x824, 1), (0x828, 0x828, 1), (0x888, 0x888, 1), (0x890, 0x891, 1), (0x8C9, 0x8C9, 1),
    (0x8E2, 0x8E2, 1), (0x971, 0x971, 1), (0xCBF, 0xCBF, 1), (0xCC6, 0xCC6, 1), (0xE46, 0xE46, 1),
    (0xEC6, 0xEC6, 1), (0x10FC, 0x10FC, 1), (0x17D7, 0x17D7, 1), (0x180E, 0x180E, 1),
    (0x1843, 0x1843, 1), (0x1AA7, 0x1AA7, 1), (0x1C78, 0x1C7D, 1), (0x1D2C, 0x1D6A, 1),
    (0x1D78, 0x1D78, 1), (0x1D9B, 0x1DBF, 1), (0x1FBD, 0x1FBF, 2), (0x1FC0, 0x1FC1, 1),
    (0x1FCD, 0x1FCF, 1), (0x1FDD, 0x1FDF, 1), (0x1FED, 0x1FEF, 1), (0x1FFD, 0x1FFE, 1),
    (0x200B, 0x200F, 1), (0x2018, 0x2019, 1), (0x2024, 0x2024, 1), (0x2027, 0x2027, 1),
    (0x202A, 0x202E, 1), (0x2060, 0x2064, 1), (0x2066, 0x206F, 1), (0x2071, 0x2071, 1),
    (0x207F, 0x207F, 1), (0x2090, 0x209C, 1), (0x2C7C, 0x2C7D, 1), (0x2D6F, 0x2D6F, 1),
    (0x2E2F, 0x2E2F, 1), (0x3005, 0x3005, 1), (0x3031, 0x3035, 1), (0x303B, 0x303B, 1),
    (0x309B, 0x309E, 1), (0x30FC, 0x30FE, 1), (0xA015, 0xA015, 1), (0xA4F8, 0xA4FD, 1),
    (0xA60C, 0xA60C, 1), (0xA67F, 0xA67F, 1), (0xA69C, 0xA69D, 1), (0xA700, 0xA721, 1),
    (0xA770, 0xA770, 1), (0xA788, 0xA78A, 1), (0xA7F2, 0xA7F4, 1), (0xA7F8, 0xA7F9, 1),
    (0xA9CF, 0xA9CF, 1), (0xA9E6, 0xA9E6, 1), (0xAA70, 0xAA70, 1), (0xAADD, 0xAADD, 1),
    (0xAAF3, 0xAAF4, 1), (0xAB5B, 0xAB5F, 1), (0xAB69, 0xAB6B, 1), (0xFBB2, 0xFBC2, 1),
    (0xFE13, 0xFE13, 1), (0xFE52, 0xFE52, 1), (0xFE55, 0xFE55, 1), (0xFEFF, 0xFEFF, 1),
    (0xFF07, 0xFF07, 1), (0xFF0E, 0xFF0E, 1), (0xFF1A, 0xFF1A, 1), (0xFF3E, 0xFF40, 2),
    (0xFF70, 0xFF70, 1), (0xFF9E, 0xFF9F, 1), (0xFFE3, 0xFFE3, 1), (0xFFF9, 0xFFFB, 1),
    (0x10780, 0x10785, 1), (0x10787, 0x107B0, 1), (0x107B2, 0x107BA, 1), (0x110BD, 0x110BD, 1),
    (0x110CD, 0x110CD, 1), (0x11A07, 0x11A08, 1), (0x11C3F, 0x11C3F, 1), (0x13430, 0x13438, 1),
    (0x16B40, 0x16B43, 1), (0x16F93, 0x16F9F, 1), (0x16FE0, 0x16FE1, 1), (0x16FE3, 0x16FE3, 1),
    (0x1AFF0, 0x1AFF3, 1), (0x1AFF5, 0x1AFFB, 1), (0x1AFFD, 0x1AFFE, 1), (0x1BCA0, 0x1BCA3, 1),
    (0x1D173, 0x1D17A, 1), (0x1E137, 0x1E13D, 1), (0x1E94B, 0x1E94B, 1), (0x1F3FB, 0x1F3FF, 1),
    (0xE0001, 0xE0001, 1), (0xE0020, 0xE007F, 1)]

/-- A letter that is small or capital. -/
def isCased (c : Char) : Bool :=
  inRuns casedRuns c.toNat

/-- A character that does not matter where a word ends. -/
def isInner (c : Char) : Bool :=
  isNonspacing c.toNat || inRuns innerRuns c.toNat

/-- The capital sigma. -/
def capitalSigma : Char := '\u03a3'

/-- The capital letter `I` with a dot, which in small letters is `i` and a mark. -/
def dottedI : Char := '\u0130'

/-- What stands for a character in small letters, a sigma apart. -/
def smallLetters (c : Char) : List Char :=
  if c = dottedI then ['i', '\u0307']
  else
    match capitalRuns.find? (·.1.holds c.toNat) with
    | some (_, distance) => [Char.ofNat ((c.toNat : Int) + distance).toNat]
    | none => [c]

/-- A word ends between two texts: there is a letter before, and none behind. The text before is
in reverse. -/
def wordEnds (before behind : List Char) : Bool :=
  (before.dropWhile isInner).head?.any isCased && !(behind.dropWhile isInner).head?.any isCased

/-- The small sigma between two texts. -/
def smallSigma (before behind : List Char) : Char :=
  if wordEnds before behind then '\u03c2' else '\u03c3'

/-- The rest of a text in small letters; what stands before it is in reverse. -/
def lowercaseFrom (before : List Char) : List Char → List Char
  | [] => []
  | c :: cs =>
    (if c = capitalSigma then [smallSigma before cs] else smallLetters c) ++
      lowercaseFrom (c :: before) cs

/-- A text in small letters. -/
def lowercase (cs : List Char) : List Char :=
  lowercaseFrom [] cs

end PrefixCalc.Text
