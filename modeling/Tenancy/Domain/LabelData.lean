import Tenancy.Text.Ranges

/-!
# Domain label data

Properties of the characters that may stand in a label: which letters, digits and marks may not
stand in one, in which direction characters are written, how letters join their neighbours, and to
which scripts they belong.
-/

namespace Tenancy.Domain

open Text

/-- Letters, digits and marks that may not stand in a label. -/
def barredRanges : CodeRanges := [
    (95, 95), (1160, 1161), (1600, 1600), (1632, 1641), (1776, 1785), (2042, 2042), (2548, 2553),
    (2930, 2935), (3056, 3058), (3192, 3198), (3416, 3422), (3440, 3448), (3882, 3891),
    (4352, 4446), (4449, 4607), (4969, 4988), (5870, 5872), (6128, 6137), (6618, 6618),
    (6846, 6846), (8400, 8432), (8576, 8578), (8581, 8584), (9451, 9471), (10102, 10131),
    (11517, 11517), (12321, 12329), (12334, 12335), (12337, 12341), (12347, 12347), (12872, 12879),
    (42608, 42610), (42726, 42735), (43056, 43061), (43360, 43388), (55216, 55238), (55243, 55291),
    (65799, 65843), (65856, 65912), (65930, 65931), (66273, 66299), (66336, 66339), (66369, 66369),
    (66378, 66378), (66513, 66517), (67672, 67679), (67705, 67711), (67751, 67759), (67835, 67839),
    (67862, 67867), (68028, 68029), (68032, 68047), (68050, 68095), (68160, 68168), (68221, 68222),
    (68253, 68255), (68331, 68335), (68440, 68447), (68472, 68479), (68521, 68527), (68858, 68863),
    (69216, 69246), (69405, 69414), (69457, 69460), (69573, 69579), (69714, 69733), (70113, 70132),
    (71482, 71483), (71914, 71922), (72794, 72812), (73664, 73684), (74752, 74862), (93019, 93025),
    (93824, 93846), (119141, 119145), (119149, 119154), (119163, 119170), (119173, 119179),
    (119210, 119213), (119362, 119364), (119520, 119539), (119648, 119672), (125127, 125135),
    (126065, 126123), (126125, 126127), (126129, 126132), (126209, 126253), (126255, 126269),
    (127243, 127244)]

/-- Characters of scripts that are written from right to left. -/
def rightToLeftRanges : CodeRanges := [
    (1488, 1514), (1519, 1524), (1568, 1599), (1601, 1610), (1646, 1647), (1649, 1652),
    (1657, 1747), (1749, 1749), (1765, 1766), (1774, 1775), (1786, 1791), (1808, 1808),
    (1810, 1839), (1869, 1957), (1969, 1969), (1984, 2026), (2036, 2037), (2048, 2069),
    (2074, 2074), (2084, 2084), (2088, 2088), (2112, 2136), (2144, 2154), (2160, 2183),
    (2185, 2190), (2208, 2249), (65139, 65139), (67584, 67589), (67592, 67592), (67594, 67637),
    (67639, 67640), (67644, 67644), (67647, 67669), (67680, 67702), (67712, 67742), (67808, 67826),
    (67828, 67829), (67840, 67861), (67872, 67897), (67968, 68023), (68030, 68031), (68096, 68096),
    (68112, 68115), (68117, 68119), (68121, 68149), (68192, 68220), (68224, 68252), (68288, 68295),
    (68297, 68324), (68352, 68405), (68416, 68437), (68448, 68466), (68480, 68497), (68608, 68680),
    (68800, 68850), (68864, 68899), (69248, 69289), (69296, 69297), (69376, 69404), (69415, 69415),
    (69424, 69445), (69488, 69505), (69552, 69572), (69600, 69622), (124928, 125124),
    (125218, 125251), (125259, 125259), (125264, 125273)]

/-- Digits that are written like Arabic ones. -/
def arabicDigitRanges : CodeRanges := [
    (1632, 1641), (68912, 68921)]

/-- Digits that are written like European ones. -/
def europeanDigitRanges : CodeRanges := [
    (48, 57), (1776, 1785)]

/-- Characters without a direction. -/
def neutralRanges : CodeRanges := [
    (45, 45), (183, 183), (697, 698), (710, 719), (748, 748), (885, 885), (8204, 8205),
    (11823, 11823), (12539, 12539), (42623, 42623), (42775, 42783), (42888, 42888)]

/-- Marks without room of their own that still have the direction of their script. -/
def leftToRightMarks : CodeRanges := [
    (3263, 3263), (3270, 3270), (72199, 72200), (72767, 72767)]

/-- Letters that join the neighbours on both sides. -/
def dualJoiningRanges : CodeRanges := [
    (1568, 1568), (1574, 1574), (1576, 1576), (1578, 1582), (1587, 1599), (1601, 1607),
    (1609, 1610), (1646, 1647), (1657, 1671), (1690, 1727), (1729, 1730), (1740, 1740),
    (1742, 1742), (1744, 1745), (1786, 1788), (1791, 1791), (1810, 1812), (1818, 1821),
    (1823, 1831), (1833, 1833), (1835, 1835), (1837, 1838), (1870, 1880), (1884, 1898),
    (1901, 1904), (1906, 1906), (1909, 1911), (1914, 1919), (1994, 2026), (2113, 2117),
    (2120, 2120), (2122, 2131), (2133, 2133), (2144, 2144), (2146, 2149), (2152, 2152),
    (2182, 2182), (2185, 2189), (2208, 2217), (2223, 2224), (2227, 2232), (2234, 2248),
    (6176, 6264), (6279, 6312), (6314, 6314), (43072, 43121), (68288, 68292), (68307, 68310),
    (68312, 68316), (68318, 68320), (68480, 68480), (68482, 68482), (68486, 68488), (68490, 68491),
    (68493, 68493), (68496, 68496), (68865, 68897), (68899, 68899), (69424, 69426), (69428, 69444),
    (69488, 69491), (69494, 69505), (69552, 69552), (69554, 69555), (69560, 69560), (69563, 69564),
    (69566, 69567), (69569, 69569), (69572, 69572), (125218, 125251)]

/-- Letters that join the neighbour in front only. -/
def rightJoiningRanges : CodeRanges := [
    (1570, 1573), (1575, 1575), (1577, 1577), (1583, 1586), (1608, 1608), (1649, 1651),
    (1672, 1689), (1728, 1728), (1731, 1739), (1741, 1741), (1743, 1743), (1746, 1747),
    (1749, 1749), (1774, 1775), (1808, 1808), (1813, 1817), (1822, 1822), (1832, 1832),
    (1834, 1834), (1836, 1836), (1839, 1839), (1869, 1869), (1881, 1883), (1899, 1900),
    (1905, 1905), (1907, 1908), (1912, 1913), (2112, 2112), (2118, 2119), (2121, 2121),
    (2132, 2132), (2134, 2136), (2151, 2151), (2153, 2154), (2160, 2178), (2190, 2190),
    (2218, 2220), (2222, 2222), (2225, 2226), (2233, 2233), (68293, 68293), (68295, 68295),
    (68297, 68298), (68302, 68306), (68317, 68317), (68321, 68321), (68324, 68324), (68481, 68481),
    (68483, 68485), (68489, 68489), (68492, 68492), (68494, 68495), (68497, 68497), (68898, 68898),
    (69427, 69427), (69492, 69493), (69556, 69558), (69561, 69562), (69565, 69565), (69570, 69571)]

/-- Letters that join the neighbour behind only. -/
def leftJoiningRanges : CodeRanges := [
    (43122, 43122), (68301, 68301), (68311, 68311), (68864, 68864)]

/-- Letters that are passed over like marks when neighbours are looked for. -/
def transparentLetters : CodeRanges := [
    (125259, 125259)]

/-- Greek characters. -/
def greekRanges : CodeRanges := [
    (880, 883), (885, 887), (890, 893), (895, 895), (900, 900), (902, 902), (904, 906), (908, 908),
    (910, 929), (931, 993), (1008, 1023), (7462, 7466), (7517, 7521), (7526, 7530), (7615, 7615),
    (7936, 7957), (7960, 7965), (7968, 8005), (8008, 8013), (8016, 8023), (8025, 8025),
    (8027, 8027), (8029, 8029), (8031, 8061), (8064, 8116), (8118, 8132), (8134, 8147),
    (8150, 8155), (8157, 8175), (8178, 8180), (8182, 8190), (8486, 8486), (43877, 43877),
    (65856, 65934), (65952, 65952), (119296, 119365)]

/-- Hebrew characters. -/
def hebrewRanges : CodeRanges := [
    (1425, 1479), (1488, 1514), (1519, 1524), (64285, 64310), (64312, 64316), (64318, 64318),
    (64320, 64321), (64323, 64324), (64326, 64335)]

/-- Hiragana, Katakana and Han characters. -/
def kanaOrHanRanges : CodeRanges := [
    (11904, 11929), (11931, 12019), (12032, 12245), (12293, 12293), (12295, 12295), (12321, 12329),
    (12344, 12347), (12353, 12438), (12445, 12447), (12449, 12538), (12541, 12543), (12784, 12799),
    (13008, 13054), (13056, 13143), (13312, 19903), (19968, 40959), (63744, 64109), (64112, 64217),
    (65382, 65391), (65393, 65437), (94178, 94179), (94192, 94193), (110576, 110579),
    (110581, 110587), (110589, 110590), (110592, 110882), (110928, 110930), (110948, 110951),
    (127488, 127488), (131072, 173791), (173824, 177976), (177984, 178205), (178208, 183969),
    (183984, 191456), (194560, 195101), (196608, 201546)]

end Tenancy.Domain
