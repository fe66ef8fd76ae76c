import Tenancy.Text.Ranges

/-!
# Domain mapping data

What becomes of the characters of a domain before it is cut into labels. Letters turn small, and
forms of a character that stand for its use in some layout turn into the plain character. Characters
that the canonical composition takes care of are left out, and so are characters that cannot stand
in a domain anyway.
-/

namespace Tenancy.Domain

open Text

/-- Characters that may not stand in a domain. -/
def refusedRanges : CodeRanges := [
    (1216, 1216), (4256, 4293), (4447, 4448), (6068, 6069), (6150, 6150), (8228, 8230),
    (8498, 8498), (8579, 8579), (9352, 9371), (12272, 12283), (12644, 12644), (13250, 13250),
    (13255, 13255), (13272, 13272), (65042, 65042), (65049, 65049), (65072, 65072), (65106, 65106),
    (65440, 65440), (65532, 65533), (127232, 127232), (194664, 194664), (194676, 194676),
    (194847, 194847), (194911, 194911), (195007, 195007)]

/-- Characters that count for nothing. -/
def ignoredRanges : CodeRanges := [
    (847, 847), (6155, 6157), (6159, 6159), (65024, 65039), (917760, 917999)]

/-- Characters that become another one, at a distance that neighbours have in common. -/
def mappedShifts : List CodeShift := [
    ⟨65, 90, 1, 32⟩, ⟨178, 179, 1, -128⟩, ⟨192, 214, 1, 32⟩, ⟨216, 222, 1, 32⟩, ⟨256, 302, 2, 1⟩,
    ⟨313, 317, 2, 1⟩, ⟨321, 327, 2, 1⟩, ⟨330, 374, 2, 1⟩, ⟨377, 381, 2, 1⟩, ⟨393, 394, 1, 205⟩,
    ⟨416, 420, 2, 1⟩, ⟨433, 434, 1, 217⟩, ⟨461, 475, 2, 1⟩, ⟨478, 494, 2, 1⟩, ⟨504, 542, 2, 1⟩,
    ⟨546, 562, 2, 1⟩, ⟨582, 590, 2, 1⟩, ⟨904, 906, 1, 37⟩, ⟨910, 911, 1, 63⟩, ⟨913, 929, 1, 32⟩,
    ⟨931, 939, 1, 32⟩, ⟨984, 1006, 2, 1⟩, ⟨1021, 1023, 1, -130⟩, ⟨1024, 1039, 1, 80⟩,
    ⟨1040, 1071, 1, 32⟩, ⟨1120, 1152, 2, 1⟩, ⟨1162, 1214, 2, 1⟩, ⟨1217, 1229, 2, 1⟩,
    ⟨1232, 1326, 2, 1⟩, ⟨1329, 1366, 1, 48⟩, ⟨5112, 5117, 1, -8⟩, ⟨7299, 7300, 1, -6210⟩,
    ⟨7312, 7354, 1, -3008⟩, ⟨7357, 7359, 1, -3008⟩, ⟨7472, 7473, 1, -7372⟩, ⟨7475, 7482, 1, -7372⟩,
    ⟨7488, 7489, 1, -7372⟩, ⟨7492, 7493, 1, -6900⟩, ⟨7496, 7497, 1, -7396⟩, ⟨7499, 7500, 1, -6896⟩,
    ⟨7508, 7509, 1, -62⟩, ⟨7511, 7512, 1, -7395⟩, ⟨7517, 7519, 1, -6571⟩, ⟨7520, 7521, 1, -6554⟩,
    ⟨7524, 7525, 1, -7407⟩, ⟨7526, 7527, 1, -6580⟩, ⟨7529, 7530, 1, -6563⟩, ⟨7588, 7590, 1, -6972⟩,
    ⟨7598, 7601, 1, -6972⟩, ⟨7603, 7604, 1, -6961⟩, ⟨7606, 7607, 1, -6957⟩, ⟨7609, 7610, 1, -6958⟩,
    ⟨7612, 7614, 1, -6956⟩, ⟨7680, 7828, 2, 1⟩, ⟨7840, 7934, 2, 1⟩, ⟨7944, 7951, 1, -8⟩,
    ⟨7960, 7965, 1, -8⟩, ⟨7976, 7983, 1, -8⟩, ⟨7992, 7999, 1, -8⟩, ⟨8008, 8013, 1, -8⟩,
    ⟨8025, 8031, 2, -8⟩, ⟨8040, 8047, 1, -8⟩, ⟨8120, 8121, 1, -8⟩, ⟨8152, 8153, 1, -8⟩,
    ⟨8168, 8169, 1, -8⟩, ⟨8308, 8313, 1, -8256⟩, ⟨8317, 8318, 1, -8277⟩, ⟨8320, 8329, 1, -8272⟩,
    ⟨8333, 8334, 1, -8293⟩, ⟨8342, 8345, 1, -8235⟩, ⟨8347, 8348, 1, -8232⟩, ⟨8458, 8459, 1, -8355⟩,
    ⟨8473, 8475, 1, -8361⟩, ⟨8492, 8493, 1, -8394⟩, ⟨8496, 8497, 1, -8395⟩, ⟨8501, 8504, 1, -7013⟩,
    ⟨8518, 8519, 1, -8418⟩, ⟨8520, 8521, 1, -8415⟩, ⟨8557, 8558, 1, -8458⟩, ⟨8573, 8574, 1, -8474⟩,
    ⟨9312, 9320, 1, -9263⟩, ⟨9398, 9423, 1, -9301⟩, ⟨9424, 9449, 1, -9327⟩, ⟨11264, 11311, 1, 48⟩,
    ⟨11367, 11371, 2, 1⟩, ⟨11390, 11391, 1, -10815⟩, ⟨11392, 11490, 2, 1⟩, ⟨12345, 12346, 1, 8971⟩,
    ⟨12593, 12594, 1, -8241⟩, ⟨12597, 12598, 1, -8073⟩, ⟨12599, 12601, 1, -8244⟩,
    ⟨12602, 12607, 1, -8074⟩, ⟨12609, 12611, 1, -8251⟩, ⟨12613, 12622, 1, -8252⟩,
    ⟨12623, 12643, 1, -8174⟩, ⟨12645, 12646, 1, -8273⟩, ⟨12647, 12648, 1, -8096⟩,
    ⟨12657, 12658, 1, -8276⟩, ⟨12660, 12661, 1, -8274⟩, ⟨12664, 12668, 1, -8269⟩,
    ⟨12674, 12675, 1, -8081⟩, ⟨12676, 12678, 1, -8237⟩, ⟨12679, 12680, 1, -8195⟩,
    ⟨12682, 12683, 1, -8185⟩, ⟨12897, 12898, 1, -8543⟩, ⟨12899, 12901, 1, -8542⟩,
    ⟨12903, 12904, 1, -8540⟩, ⟨12905, 12909, 1, -8539⟩, ⟨13012, 13013, 1, -554⟩,
    ⟨13028, 13033, 1, -538⟩, ⟨13038, 13042, 1, -528⟩, ⟨13045, 13050, 1, -525⟩,
    ⟨13051, 13054, 1, -524⟩, ⟨42560, 42604, 2, 1⟩, ⟨42624, 42650, 2, 1⟩, ⟨42786, 42798, 2, 1⟩,
    ⟨42802, 42862, 2, 1⟩, ⟨42878, 42886, 2, 1⟩, ⟨42902, 42920, 2, 1⟩, ⟨42932, 42946, 2, 1⟩,
    ⟨43888, 43967, 1, -38864⟩, ⟨64290, 64291, 1, -62799⟩, ⟨64292, 64294, 1, -62793⟩,
    ⟨64381, 64382, 1, -62711⟩, ⟨64415, 64416, 1, -62693⟩, ⟨64421, 64422, 1, -62693⟩,
    ⟨64431, 64432, 1, -62685⟩, ⟨65043, 65044, 1, -64985⟩, ⟨65047, 65048, 1, -52737⟩,
    ⟨65077, 65078, 1, -65037⟩, ⟨65081, 65082, 1, -52773⟩, ⟨65083, 65084, 1, -52779⟩,
    ⟨65085, 65086, 1, -52787⟩, ⟨65087, 65088, 1, -52791⟩, ⟨65089, 65092, 1, -52789⟩,
    ⟨65113, 65114, 1, -65073⟩, ⟨65117, 65118, 1, -52809⟩, ⟨65121, 65122, 1, -65079⟩,
    ⟨65129, 65130, 1, -65093⟩, ⟨65152, 65153, 1, -63583⟩, ⟨65154, 65155, 1, -63584⟩,
    ⟨65156, 65157, 1, -63585⟩, ⟨65158, 65159, 1, -63586⟩, ⟨65160, 65161, 1, -63587⟩,
    ⟨65164, 65165, 1, -63590⟩, ⟨65166, 65167, 1, -63591⟩, ⟨65170, 65171, 1, -63594⟩,
    ⟨65172, 65173, 1, -63595⟩, ⟨65176, 65177, 1, -63598⟩, ⟨65180, 65181, 1, -63601⟩,
    ⟨65184, 65185, 1, -63604⟩, ⟨65188, 65189, 1, -63607⟩, ⟨65192, 65193, 1, -63610⟩,
    ⟨65194, 65195, 1, -63611⟩, ⟨65196, 65197, 1, -63612⟩, ⟨65198, 65199, 1, -63613⟩,
    ⟨65200, 65201, 1, -63614⟩, ⟨65204, 65205, 1, -63617⟩, ⟨65208, 65209, 1, -63620⟩,
    ⟨65212, 65213, 1, -63623⟩, ⟨65216, 65217, 1, -63626⟩, ⟨65220, 65221, 1, -63629⟩,
    ⟨65224, 65225, 1, -63632⟩, ⟨65228, 65229, 1, -63635⟩, ⟨65236, 65237, 1, -63635⟩,
    ⟨65240, 65241, 1, -63638⟩, ⟨65244, 65245, 1, -63641⟩, ⟨65248, 65249, 1, -63644⟩,
    ⟨65252, 65253, 1, -63647⟩, ⟨65256, 65257, 1, -63650⟩, ⟨65260, 65261, 1, -63653⟩,
    ⟨65262, 65263, 1, -63654⟩, ⟨65264, 65265, 1, -63655⟩, ⟨65281, 65312, 1, -65248⟩,
    ⟨65313, 65338, 1, -65216⟩, ⟨65339, 65374, 1, -65248⟩, ⟨65375, 65376, 1, -54746⟩,
    ⟨65378, 65379, 1, -53078⟩, ⟨65397, 65398, 1, -52939⟩, ⟨65413, 65418, 1, -52923⟩,
    ⟨65423, 65427, 1, -52913⟩, ⟨65430, 65435, 1, -52910⟩, ⟨65438, 65439, 1, -52997⟩,
    ⟨65441, 65442, 1, -61089⟩, ⟨65445, 65446, 1, -60921⟩, ⟨65447, 65449, 1, -61092⟩,
    ⟨65450, 65455, 1, -60922⟩, ⟨65457, 65459, 1, -61099⟩, ⟨65461, 65470, 1, -61100⟩,
    ⟨65474, 65479, 1, -61025⟩, ⟨65482, 65487, 1, -61027⟩, ⟨65490, 65495, 1, -61029⟩,
    ⟨65498, 65500, 1, -61031⟩, ⟨65504, 65505, 1, -65342⟩, ⟨65513, 65516, 1, -56921⟩,
    ⟨66560, 66599, 1, 40⟩, ⟨66736, 66771, 1, 40⟩, ⟨66928, 66938, 1, 39⟩, ⟨66940, 66954, 1, 39⟩,
    ⟨66956, 66962, 1, 39⟩, ⟨66964, 66965, 1, 39⟩, ⟨67457, 67458, 1, -66737⟩,
    ⟨67467, 67468, 1, -66869⟩, ⟨67481, 67482, 1, -66799⟩, ⟨67491, 67492, 1, -66861⟩,
    ⟨67496, 67497, 1, -66859⟩, ⟨67507, 67508, 1, -66834⟩, ⟨67510, 67512, 1, -67062⟩,
    ⟨68736, 68786, 1, 64⟩, ⟨71840, 71871, 1, 32⟩, ⟨93760, 93791, 1, 32⟩,
    ⟨119808, 119833, 1, -119711⟩, ⟨119834, 119859, 1, -119737⟩, ⟨119860, 119885, 1, -119763⟩,
    ⟨119886, 119892, 1, -119789⟩, ⟨119894, 119911, 1, -119789⟩, ⟨119912, 119937, 1, -119815⟩,
    ⟨119938, 119963, 1, -119841⟩, ⟨119966, 119967, 1, -119867⟩, ⟨119973, 119974, 1, -119867⟩,
    ⟨119977, 119980, 1, -119867⟩, ⟨119982, 119989, 1, -119867⟩, ⟨119990, 119993, 1, -119893⟩,
    ⟨119997, 120003, 1, -119893⟩, ⟨120005, 120015, 1, -119893⟩, ⟨120016, 120041, 1, -119919⟩,
    ⟨120042, 120067, 1, -119945⟩, ⟨120068, 120069, 1, -119971⟩, ⟨120071, 120074, 1, -119971⟩,
    ⟨120077, 120084, 1, -119971⟩, ⟨120086, 120092, 1, -119971⟩, ⟨120094, 120119, 1, -119997⟩,
    ⟨120120, 120121, 1, -120023⟩, ⟨120123, 120126, 1, -120023⟩, ⟨120128, 120132, 1, -120023⟩,
    ⟨120138, 120144, 1, -120023⟩, ⟨120146, 120171, 1, -120049⟩, ⟨120172, 120197, 1, -120075⟩,
    ⟨120198, 120223, 1, -120101⟩, ⟨120224, 120249, 1, -120127⟩, ⟨120250, 120275, 1, -120153⟩,
    ⟨120276, 120301, 1, -120179⟩, ⟨120302, 120327, 1, -120205⟩, ⟨120328, 120353, 1, -120231⟩,
    ⟨120354, 120379, 1, -120257⟩, ⟨120380, 120405, 1, -120283⟩, ⟨120406, 120431, 1, -120309⟩,
    ⟨120432, 120457, 1, -120335⟩, ⟨120458, 120483, 1, -120361⟩, ⟨120488, 120504, 1, -119543⟩,
    ⟨120506, 120512, 1, -119543⟩, ⟨120514, 120530, 1, -119569⟩, ⟨120532, 120538, 1, -119569⟩,
    ⟨120546, 120562, 1, -119601⟩, ⟨120564, 120570, 1, -119601⟩, ⟨120572, 120588, 1, -119627⟩,
    ⟨120590, 120596, 1, -119627⟩, ⟨120604, 120620, 1, -119659⟩, ⟨120622, 120628, 1, -119659⟩,
    ⟨120630, 120646, 1, -119685⟩, ⟨120648, 120654, 1, -119685⟩, ⟨120662, 120678, 1, -119717⟩,
    ⟨120680, 120686, 1, -119717⟩, ⟨120688, 120704, 1, -119743⟩, ⟨120706, 120712, 1, -119743⟩,
    ⟨120720, 120736, 1, -119775⟩, ⟨120738, 120744, 1, -119775⟩, ⟨120746, 120762, 1, -119801⟩,
    ⟨120764, 120770, 1, -119801⟩, ⟨120782, 120791, 1, -120734⟩, ⟨120792, 120801, 1, -120744⟩,
    ⟨120802, 120811, 1, -120754⟩, ⟨120812, 120821, 1, -120764⟩, ⟨120822, 120831, 1, -120774⟩,
    ⟨125184, 125217, 1, 34⟩, ⟨126464, 126465, 1, -124889⟩, ⟨126474, 126477, 1, -124871⟩,
    ⟨126485, 126486, 1, -124907⟩, ⟨126506, 126509, 1, -124903⟩, ⟨126517, 126518, 1, -124939⟩,
    ⟨126572, 126573, 1, -124967⟩, ⟨126581, 126582, 1, -125003⟩, ⟨126592, 126593, 1, -125017⟩,
    ⟨126596, 126597, 1, -124989⟩, ⟨126603, 126605, 1, -124999⟩, ⟨126613, 126614, 1, -125035⟩,
    ⟨126635, 126637, 1, -125031⟩, ⟨126645, 126646, 1, -125067⟩, ⟨127280, 127305, 1, -127183⟩,
    ⟨130032, 130041, 1, -129984⟩]

/-- Characters that become another one, for code points in a row from the first one on. -/
def mappedRows : CodeRows := [
    (170, [97]), (181, [956]), (185, [49, 111]), (308, [309]), (310, [311]), (376, [255]),
      (383, [115]), (385, [595, 387]), (388, [389]), (390, [596, 392]), (395, [396]), (398, [477,
      601, 603, 402]), (403, [608, 611]), (406, [617, 616, 409]), (412, [623, 626]), (415, [629]),
      (422, [640, 424]), (425, [643]), (428, [429]), (430, [648, 432]), (435, [436]), (437, [438]),
      (439, [658, 441]), (444, [445]), (500, [501]), (502, [405, 447]), (544, [414]), (570, [11365,
      572]), (573, [410, 11366]), (577, [578]), (579, [384, 649, 652]), (688, [104, 614, 106, 114,
      633, 635, 641, 119, 121]), (736, [611, 108, 115, 120, 661]), (837, [953]), (880, [881]),
      (882, [883]), (886, [887]), (895, [1011]), (902, [940]), (908, [972]), (975, [983, 946, 952,
      965, 973, 971, 966, 960]), (1008, [954, 961, 963]), (1012, [952, 949]), (1015, [1016]),
      (1017, [963, 1019]), (3852, [3851]), (4295, [11559]), (4301, [11565]), (4348, [4316]),
      (7296, [1074, 1076, 1086]), (7301, [1090, 1098, 1123, 42571]), (7468, [97, 230, 98]),
      (7474, [477]), (7484, [111, 547, 112, 114]), (7490, [119, 97]), (7494, [7426, 98]),
      (7498, [601]), (7501, [103]), (7503, [107, 109, 331, 111, 596]), (7510, [112]), (7513, [7453,
      623, 118, 7461]), (7522, [105, 114]), (7528, [961]), (7544, [1085]), (7579, [594, 99, 597,
      240, 604, 102, 607, 609, 613]), (7591, [7547, 669, 621, 7557, 671, 625, 624]), (7602, [632]),
      (7605, [427]), (7608, [7452]), (7611, [122]), (7615, [952]), (7835, [7777]), (7838, [223]),
      (8122, [8048, 940]), (8136, [8050, 941, 8052, 942]), (8154, [8054, 943]), (8170, [8058, 973,
      8165]), (8184, [8056, 972, 8060, 974]), (8209, [8208]), (8304, [48, 105]), (8314, [43, 8722,
      61]), (8319, [110]), (8330, [43, 8722, 61]), (8336, [97, 101, 111, 120, 601, 104]),
      (8346, [112]), (8450, [99]), (8455, [603]), (8460, [104, 104, 104, 295, 105, 105, 108, 108]),
      (8469, [110]), (8476, [114, 114]), (8484, [122]), (8486, [969]), (8488, [122]), (8490, [107,
      229]), (8495, [101]), (8499, [109, 111]), (8505, [105]), (8508, [960, 947, 947, 960, 8721]),
      (8517, [100]), (8544, [105]), (8548, [118]), (8553, [120]), (8556, [108]), (8559, [109, 105]),
      (8564, [118]), (8569, [120]), (8572, [108]), (8575, [109]), (9450, [48]), (11360, [11361]),
      (11362, [619, 7549, 637]), (11373, [593, 625, 592, 594]), (11378, [11379]), (11381, [11382]),
      (11388, [106, 118]), (11499, [11500]), (11501, [11502]), (11506, [11507]), (11631, [11617]),
      (11935, [27597]), (12019, [40863]), (12032, [19968, 20008, 20022, 20031, 20057, 20101, 20108,
      20128, 20154, 20799, 20837, 20843, 20866, 20886, 20907, 20960, 20981, 20992, 21147, 21241,
      21269, 21274, 21304, 21313, 21340, 21353, 21378, 21430, 21448, 21475, 22231, 22303, 22763,
      22786, 22794, 22805, 22823, 22899, 23376, 23424, 23544, 23567, 23586, 23608, 23662, 23665,
      24027, 24037, 24049, 24062, 24178, 24186, 24191, 24308, 24318, 24331, 24339, 24400, 24417,
      24435, 24515, 25096, 25142, 25163, 25903, 25908, 25991, 26007, 26020, 26041, 26080, 26085,
      26352, 26376, 26408, 27424, 27490, 27513, 27571, 27595, 27604, 27611, 27663, 27668, 27700,
      28779, 29226, 29238, 29243, 29247, 29255, 29273, 29275, 29356, 29572, 29577, 29916, 29926,
      29976, 29983, 29992, 30000, 30091, 30098, 30326, 30333, 30382, 30399, 30446, 30683, 30690,
      30707, 31034, 31160, 31166, 31348, 31435, 31481, 31859, 31992, 32566, 32593, 32650, 32701,
      32769, 32780, 32786, 32819, 32895, 32905, 33251, 33258, 33267, 33276, 33292, 33307, 33311,
      33390, 33394, 33400, 34381, 34411, 34880, 34892, 34915, 35198, 35211, 35282, 35328, 35895,
      35910, 35925, 35960, 35997, 36196, 36208, 36275, 36523, 36554, 36763, 36784, 36789, 37009,
      37193, 37318, 37324, 37329, 38263, 38272, 38428, 38582, 38585, 38632, 38737, 38750, 38754,
      38761, 38859, 38893, 38899, 38913, 39080, 39131, 39135, 39318, 39321, 39340, 39592, 39640,
      39647, 39717, 39727, 39730, 39740, 39770, 40165, 40565, 40575, 40613, 40635, 40643, 40653,
      40657, 40697, 40701, 40718, 40723, 40736, 40763, 40778, 40786, 40845, 40860, 40864]),
      (12290, [46]), (12342, [12306]), (12344, [21313]), (12595, [4522, 4354]), (12608, [4378]),
      (12612, [4385]), (12649, [4556, 4558, 4563, 4567, 4569, 4380, 4573, 4575]), (12659, [4384]),
      (12662, [4391, 4393]), (12669, [4402, 4406, 4416, 4423, 4428]), (12681, [4488]),
      (12684, [4500, 4510, 4513]), (12690, [19968, 20108, 19977, 22235, 19978, 20013, 19979, 30002,
      20057, 19993, 19969, 22825, 22320, 20154]), (12868, [21839, 24188, 25991, 31631]),
      (12896, [4352]), (12902, [4361]), (12910, [44032, 45208, 45796, 46972, 47560, 48148, 49324,
      50500, 51088, 52264, 52852, 53440, 54028, 54616]), (12926, [50864]), (12928, [19968, 20108,
      19977, 22235, 20116, 20845, 19971, 20843, 20061, 21313, 26376, 28779, 27700, 26408, 37329,
      22303, 26085, 26666, 26377, 31038, 21517, 29305, 36001, 31069, 21172, 31192, 30007, 22899,
      36969, 20778, 21360, 27880, 38917, 20241, 20889, 27491, 19978, 20013, 19979, 24038, 21491,
      21307, 23447, 23398, 30435, 20225, 36039, 21332, 22812]), (13008, [12450, 12452, 12454,
      12456]), (13014, [12461, 12463, 12465, 12467, 12469, 12471, 12473, 12475, 12477, 12479, 12481,
      12484, 12486, 12488]), (13034, [12498, 12501, 12504, 12507]), (13043, [12516, 12518]),
      (42652, [1098, 1100]), (42864, [42863]), (42873, [42874]), (42875, [42876]), (42877, [7545]),
      (42891, [42892]), (42893, [613]), (42896, [42897]), (42898, [42899]), (42922, [614, 604, 609,
      620, 618]), (42928, [670, 647, 669, 43859]), (42948, [42900, 642, 7566, 42952]),
      (42953, [42954]), (42960, [42961]), (42966, [42967]), (42968, [42969]), (42994, [99, 102, 113,
      42998]), (43000, [295, 339]), (43868, [42791, 43831, 619, 43858]), (43881, [653]),
      (64288, [1506, 1488]), (64295, [1512, 1514, 43]), (64336, [1649, 1649, 1659, 1659, 1659, 1659,
      1662, 1662, 1662, 1662, 1664, 1664, 1664, 1664, 1658, 1658, 1658, 1658, 1663, 1663, 1663,
      1663, 1657, 1657, 1657, 1657, 1700, 1700, 1700, 1700, 1702, 1702, 1702, 1702, 1668, 1668,
      1668, 1668, 1667, 1667, 1667, 1667, 1670, 1670, 1670]), (64383, [1671, 1671, 1671, 1677, 1677,
      1676, 1676, 1678, 1678, 1672, 1672, 1688, 1688, 1681, 1681, 1705, 1705, 1705, 1705, 1711,
      1711, 1711, 1711, 1715, 1715, 1715, 1715, 1713, 1713, 1713, 1713, 1722]), (64417, [1723, 1723,
      1723, 1728]), (64423, [1729, 1729, 1729, 1726, 1726, 1726, 1726, 1746]), (64433, [1747]),
      (64467, [1709, 1709, 1709, 1709, 1735, 1735, 1734, 1734, 1736, 1736]), (64478, [1739, 1739,
      1733, 1733, 1737, 1737, 1744, 1744, 1744, 1744, 1609, 1609]), (64508, [1740, 1740, 1740,
      1740]), (65040, [44, 12289]), (65045, [33, 63]), (65073, [8212, 8211, 95, 95]), (65079, [123,
      125]), (65095, [91, 93]), (65101, [95, 95, 95, 44, 12289]), (65108, [59, 58, 63, 33, 8212]),
      (65115, [123, 125]), (65119, [35, 38]), (65123, [45, 60, 62, 61]), (65128, [92]),
      (65131, [64]), (65162, [1574, 1574]), (65168, [1576, 1576]), (65174, [1578, 1578]),
      (65178, [1579, 1579]), (65182, [1580, 1580]), (65186, [1581, 1581]), (65190, [1582, 1582]),
      (65202, [1587, 1587]), (65206, [1588, 1588]), (65210, [1589, 1589]), (65214, [1590, 1590]),
      (65218, [1591, 1591]), (65222, [1592, 1592]), (65226, [1593, 1593]), (65230, [1594, 1594,
      1594, 1601, 1601, 1601]), (65238, [1602, 1602]), (65242, [1603, 1603]), (65246, [1604, 1604]),
      (65250, [1605, 1605]), (65254, [1606, 1606]), (65258, [1607, 1607]), (65266, [1610, 1610,
      1610]), (65377, [46]), (65380, [12289, 12539, 12530, 12449, 12451, 12453, 12455, 12457, 12515,
      12517, 12519, 12483, 12540, 12450, 12452, 12454, 12456]), (65399, [12461, 12463, 12465, 12467,
      12469, 12471, 12473, 12475, 12477, 12479, 12481, 12484, 12486, 12488]), (65419, [12498, 12501,
      12504, 12507]), (65428, [12516, 12518]), (65436, [12527, 12531]), (65443, [4522, 4354]),
      (65456, [4378]), (65460, [4385]), (65506, [172]), (65508, [166, 165, 8361]), (65512, [9474]),
      (65517, [9632, 9675]), (67459, [230, 665, 595]), (67463, [675, 43878, 677, 676]),
      (67469, [7569, 600, 606, 681, 612, 610, 608, 667, 295, 668, 615, 644]), (67483, [620, 122628,
      42894, 622, 122629, 654, 122630, 248]), (67493, [113, 634, 122632]), (67498, [640, 680, 678,
      43879, 679, 648, 11377]), (67506, [655]), (67509, [664]), (67513, [122634, 122654]),
      (119964, [97]), (119970, [103]), (119995, [102]), (120134, [111]), (120484, [305, 567]),
      (120505, [952]), (120513, [8711]), (120531, [963]), (120539, [8706, 949, 952, 954, 966, 961,
      960]), (120563, [952]), (120571, [8711]), (120589, [963]), (120597, [8706, 949, 952, 954, 966,
      961, 960]), (120621, [952]), (120629, [8711]), (120647, [963]), (120655, [8706, 949, 952, 954,
      966, 961, 960]), (120679, [952]), (120687, [8711]), (120705, [963]), (120713, [8706, 949, 952,
      954, 966, 961, 960]), (120737, [952]), (120745, [8711]), (120763, [963]), (120771, [8706, 949,
      952, 954, 966, 961, 960, 989, 989]), (126466, [1580, 1583]), (126469, [1608, 1586, 1581, 1591,
      1610]), (126478, [1587, 1593, 1601, 1589, 1602, 1585, 1588]), (126487, [1582, 1584, 1590,
      1592, 1594, 1646, 1722, 1697, 1647]), (126497, [1576, 1580]), (126500, [1607]),
      (126503, [1581]), (126505, [1610]), (126510, [1587, 1593, 1601, 1589, 1602]),
      (126516, [1588]), (126519, [1582]), (126521, [1590]), (126523, [1594]), (126530, [1580]),
      (126535, [1581]), (126537, [1610]), (126539, [1604]), (126541, [1606, 1587, 1593]),
      (126545, [1589, 1602]), (126548, [1588]), (126551, [1582]), (126553, [1590]),
      (126555, [1594]), (126557, [1722]), (126559, [1647]), (126561, [1576, 1580]),
      (126564, [1607]), (126567, [1581, 1591, 1610, 1603]), (126574, [1587, 1593, 1601, 1589,
      1602]), (126580, [1588]), (126583, [1582]), (126585, [1590, 1592, 1594, 1646]),
      (126590, [1697]), (126594, [1580, 1583]), (126598, [1586, 1581, 1591, 1610]), (126606, [1587,
      1593, 1601, 1589, 1602, 1585, 1588]), (126615, [1582, 1584, 1590, 1592, 1594]),
      (126625, [1576, 1580, 1583]), (126629, [1608, 1586, 1581, 1591, 1610]), (126638, [1587, 1593,
      1601, 1589, 1602, 1585, 1588]), (126647, [1582, 1584, 1590, 1592, 1594]), (127275, [99, 114]),
      (127490, [12469]), (127504, [25163, 23383, 21452, 12487, 20108, 22810, 35299, 22825, 20132,
      26144, 28961, 26009, 21069, 24460, 20877, 26032, 21021, 32066, 29983, 36009, 22768, 21561,
      28436, 25237, 25429, 19968, 19977, 36938, 24038, 20013, 21491, 25351, 36208, 25171, 31105,
      31354, 21512, 28288, 26377, 26376, 30003, 21106, 21942, 37197]), (127568, [24471, 21487])]

/-- Characters that become two. -/
def mappedPairs : List (Nat × Nat × Nat) := [
    (168, 32, 776), (175, 32, 772), (180, 32, 769), (184, 32, 807), (304, 105, 775),
    (306, 105, 106), (307, 105, 106), (319, 108, 183), (320, 108, 183), (329, 700, 110),
    (452, 100, 382), (453, 100, 382), (454, 100, 382), (455, 108, 106), (456, 108, 106),
    (457, 108, 106), (458, 110, 106), (459, 110, 106), (460, 110, 106), (497, 100, 122),
    (498, 100, 122), (499, 100, 122), (728, 32, 774), (729, 32, 775), (730, 32, 778),
    (731, 32, 808), (732, 32, 771), (733, 32, 779), (890, 32, 953), (900, 32, 769),
    (1415, 1381, 1410), (1653, 1575, 1652), (1654, 1608, 1652), (1655, 1735, 1652),
    (1656, 1610, 1652), (3635, 3661, 3634), (3763, 3789, 3762), (3804, 3755, 3737),
    (3805, 3755, 3745), (7834, 97, 702), (8064, 7936, 953), (8065, 7937, 953), (8066, 7938, 953),
    (8067, 7939, 953), (8068, 7940, 953), (8069, 7941, 953), (8070, 7942, 953), (8071, 7943, 953),
    (8072, 7936, 953), (8073, 7937, 953), (8074, 7938, 953), (8075, 7939, 953), (8076, 7940, 953),
    (8077, 7941, 953), (8078, 7942, 953), (8079, 7943, 953), (8080, 7968, 953), (8081, 7969, 953),
    (8082, 7970, 953), (8083, 7971, 953), (8084, 7972, 953), (8085, 7973, 953), (8086, 7974, 953),
    (8087, 7975, 953), (8088, 7968, 953), (8089, 7969, 953), (8090, 7970, 953), (8091, 7971, 953),
    (8092, 7972, 953), (8093, 7973, 953), (8094, 7974, 953), (8095, 7975, 953), (8096, 8032, 953),
    (8097, 8033, 953), (8098, 8034, 953), (8099, 8035, 953), (8100, 8036, 953), (8101, 8037, 953),
    (8102, 8038, 953), (8103, 8039, 953), (8104, 8032, 953), (8105, 8033, 953), (8106, 8034, 953),
    (8107, 8035, 953), (8108, 8036, 953), (8109, 8037, 953), (8110, 8038, 953), (8111, 8039, 953),
    (8114, 8048, 953), (8115, 945, 953), (8116, 940, 953), (8119, 8118, 953), (8124, 945, 953),
    (8125, 32, 787), (8127, 32, 787), (8128, 32, 834), (8130, 8052, 953), (8131, 951, 953),
    (8132, 942, 953), (8135, 8134, 953), (8140, 951, 953), (8178, 8060, 953), (8179, 969, 953),
    (8180, 974, 953), (8183, 8182, 953), (8188, 969, 953), (8189, 32, 769), (8190, 32, 788),
    (8215, 32, 819), (8243, 8242, 8242), (8246, 8245, 8245), (8252, 33, 33), (8254, 32, 773),
    (8263, 63, 63), (8264, 63, 33), (8265, 33, 63), (8360, 114, 115), (8451, 176, 99),
    (8457, 176, 102), (8470, 110, 111), (8480, 115, 109), (8482, 116, 109), (8543, 49, 8260),
    (8545, 105, 105), (8547, 105, 118), (8549, 118, 105), (8552, 105, 120), (8554, 120, 105),
    (8561, 105, 105), (8563, 105, 118), (8565, 118, 105), (8568, 105, 120), (8570, 120, 105),
    (8748, 8747, 8747), (8751, 8750, 8750), (9321, 49, 48), (9322, 49, 49), (9323, 49, 50),
    (9324, 49, 51), (9325, 49, 52), (9326, 49, 53), (9327, 49, 54), (9328, 49, 55), (9329, 49, 56),
    (9330, 49, 57), (9331, 50, 48), (10869, 61, 61), (12443, 32, 12441), (12444, 32, 12442),
    (12447, 12424, 12426), (12543, 12467, 12488), (12881, 50, 49), (12882, 50, 50), (12883, 50, 51),
    (12884, 50, 52), (12885, 50, 53), (12886, 50, 54), (12887, 50, 55), (12888, 50, 56),
    (12889, 50, 57), (12890, 51, 48), (12891, 51, 49), (12892, 51, 50), (12893, 51, 51),
    (12894, 51, 52), (12895, 51, 53), (12924, 52280, 44256), (12925, 51452, 51032), (12977, 51, 54),
    (12978, 51, 55), (12979, 51, 56), (12980, 51, 57), (12981, 52, 48), (12982, 52, 49),
    (12983, 52, 50), (12984, 52, 51), (12985, 52, 52), (12986, 52, 53), (12987, 52, 54),
    (12988, 52, 55), (12989, 52, 56), (12990, 52, 57), (12991, 53, 48), (12992, 49, 26376),
    (12993, 50, 26376), (12994, 51, 26376), (12995, 52, 26376), (12996, 53, 26376),
    (12997, 54, 26376), (12998, 55, 26376), (12999, 56, 26376), (13000, 57, 26376),
    (13004, 104, 103), (13006, 101, 118), (13055, 20196, 21644), (13072, 12462, 12460),
    (13076, 12461, 12525), (13093, 12487, 12471), (13094, 12489, 12523), (13095, 12488, 12531),
    (13096, 12490, 12494), (13104, 12500, 12467), (13105, 12499, 12523), (13111, 12506, 12477),
    (13119, 12507, 12531), (13129, 12511, 12522), (13131, 12513, 12460), (13138, 12522, 12521),
    (13141, 12524, 12512), (13144, 48, 28857), (13145, 49, 28857), (13146, 50, 28857),
    (13147, 51, 28857), (13148, 52, 28857), (13149, 53, 28857), (13150, 54, 28857),
    (13151, 55, 28857), (13152, 56, 28857), (13153, 57, 28857), (13170, 100, 97), (13171, 97, 117),
    (13173, 111, 118), (13174, 112, 99), (13175, 100, 109), (13178, 105, 117),
    (13179, 24179, 25104), (13180, 26157, 21644), (13181, 22823, 27491), (13182, 26126, 27835),
    (13184, 112, 97), (13185, 110, 97), (13186, 956, 97), (13187, 109, 97), (13188, 107, 97),
    (13189, 107, 98), (13190, 109, 98), (13191, 103, 98), (13194, 112, 102), (13195, 110, 102),
    (13196, 956, 102), (13197, 956, 103), (13198, 109, 103), (13199, 107, 103), (13200, 104, 122),
    (13205, 956, 108), (13206, 109, 108), (13207, 100, 108), (13208, 107, 108), (13209, 102, 109),
    (13210, 110, 109), (13211, 956, 109), (13212, 109, 109), (13213, 99, 109), (13214, 107, 109),
    (13217, 109, 50), (13221, 109, 51), (13225, 112, 97), (13232, 112, 115), (13233, 110, 115),
    (13234, 956, 115), (13235, 109, 115), (13236, 112, 118), (13237, 110, 118), (13238, 956, 118),
    (13239, 109, 118), (13240, 107, 118), (13241, 109, 118), (13242, 112, 119), (13243, 110, 119),
    (13244, 956, 119), (13245, 109, 119), (13246, 107, 119), (13247, 109, 119), (13248, 107, 969),
    (13249, 109, 969), (13251, 98, 113), (13252, 99, 99), (13253, 99, 100), (13256, 100, 98),
    (13257, 103, 121), (13258, 104, 97), (13259, 104, 112), (13260, 105, 110), (13261, 107, 107),
    (13262, 107, 109), (13263, 107, 116), (13264, 108, 109), (13265, 108, 110), (13267, 108, 120),
    (13268, 109, 98), (13271, 112, 104), (13274, 112, 114), (13275, 115, 114), (13276, 115, 118),
    (13277, 119, 98), (13280, 49, 26085), (13281, 50, 26085), (13282, 51, 26085),
    (13283, 52, 26085), (13284, 53, 26085), (13285, 54, 26085), (13286, 55, 26085),
    (13287, 56, 26085), (13288, 57, 26085), (64256, 102, 102), (64257, 102, 105), (64258, 102, 108),
    (64261, 115, 116), (64262, 115, 116), (64275, 1396, 1398), (64276, 1396, 1381),
    (64277, 1396, 1387), (64278, 1406, 1398), (64279, 1396, 1389), (64335, 1488, 1500),
    (64477, 1735, 1652), (64490, 1574, 1575), (64491, 1574, 1575), (64492, 1574, 1749),
    (64493, 1574, 1749), (64494, 1574, 1608), (64495, 1574, 1608), (64496, 1574, 1735),
    (64497, 1574, 1735), (64498, 1574, 1734), (64499, 1574, 1734), (64500, 1574, 1736),
    (64501, 1574, 1736), (64502, 1574, 1744), (64503, 1574, 1744), (64504, 1574, 1744),
    (64505, 1574, 1609), (64506, 1574, 1609), (64507, 1574, 1609), (64512, 1574, 1580),
    (64513, 1574, 1581), (64514, 1574, 1605), (64515, 1574, 1609), (64516, 1574, 1610),
    (64517, 1576, 1580), (64518, 1576, 1581), (64519, 1576, 1582), (64520, 1576, 1605),
    (64521, 1576, 1609), (64522, 1576, 1610), (64523, 1578, 1580), (64524, 1578, 1581),
    (64525, 1578, 1582), (64526, 1578, 1605), (64527, 1578, 1609), (64528, 1578, 1610),
    (64529, 1579, 1580), (64530, 1579, 1605), (64531, 1579, 1609), (64532, 1579, 1610),
    (64533, 1580, 1581), (64534, 1580, 1605), (64535, 1581, 1580), (64536, 1581, 1605),
    (64537, 1582, 1580), (64538, 1582, 1581), (64539, 1582, 1605), (64540, 1587, 1580),
    (64541, 1587, 1581), (64542, 1587, 1582), (64543, 1587, 1605), (64544, 1589, 1581),
    (64545, 1589, 1605), (64546, 1590, 1580), (64547, 1590, 1581), (64548, 1590, 1582),
    (64549, 1590, 1605), (64550, 1591, 1581), (64551, 1591, 1605), (64552, 1592, 1605),
    (64553, 1593, 1580), (64554, 1593, 1605), (64555, 1594, 1580), (64556, 1594, 1605),
    (64557, 1601, 1580), (64558, 1601, 1581), (64559, 1601, 1582), (64560, 1601, 1605),
    (64561, 1601, 1609), (64562, 1601, 1610), (64563, 1602, 1581), (64564, 1602, 1605),
    (64565, 1602, 1609), (64566, 1602, 1610), (64567, 1603, 1575), (64568, 1603, 1580),
    (64569, 1603, 1581), (64570, 1603, 1582), (64571, 1603, 1604), (64572, 1603, 1605),
    (64573, 1603, 1609), (64574, 1603, 1610), (64575, 1604, 1580), (64576, 1604, 1581),
    (64577, 1604, 1582), (64578, 1604, 1605), (64579, 1604, 1609), (64580, 1604, 1610),
    (64581, 1605, 1580), (64582, 1605, 1581), (64583, 1605, 1582), (64584, 1605, 1605),
    (64585, 1605, 1609), (64586, 1605, 1610), (64587, 1606, 1580), (64588, 1606, 1581),
    (64589, 1606, 1582), (64590, 1606, 1605), (64591, 1606, 1609), (64592, 1606, 1610),
    (64593, 1607, 1580), (64594, 1607, 1605), (64595, 1607, 1609), (64596, 1607, 1610),
    (64597, 1610, 1580), (64598, 1610, 1581), (64599, 1610, 1582), (64600, 1610, 1605),
    (64601, 1610, 1609), (64602, 1610, 1610), (64603, 1584, 1648), (64604, 1585, 1648),
    (64605, 1609, 1648), (64612, 1574, 1585), (64613, 1574, 1586), (64614, 1574, 1605),
    (64615, 1574, 1606), (64616, 1574, 1609), (64617, 1574, 1610), (64618, 1576, 1585),
    (64619, 1576, 1586), (64620, 1576, 1605), (64621, 1576, 1606), (64622, 1576, 1609),
    (64623, 1576, 1610), (64624, 1578, 1585), (64625, 1578, 1586), (64626, 1578, 1605),
    (64627, 1578, 1606), (64628, 1578, 1609), (64629, 1578, 1610), (64630, 1579, 1585),
    (64631, 1579, 1586), (64632, 1579, 1605), (64633, 1579, 1606), (64634, 1579, 1609),
    (64635, 1579, 1610), (64636, 1601, 1609), (64637, 1601, 1610), (64638, 1602, 1609),
    (64639, 1602, 1610), (64640, 1603, 1575), (64641, 1603, 1604), (64642, 1603, 1605),
    (64643, 1603, 1609), (64644, 1603, 1610), (64645, 1604, 1605), (64646, 1604, 1609),
    (64647, 1604, 1610), (64648, 1605, 1575), (64649, 1605, 1605), (64650, 1606, 1585),
    (64651, 1606, 1586), (64652, 1606, 1605), (64653, 1606, 1606), (64654, 1606, 1609),
    (64655, 1606, 1610), (64656, 1609, 1648), (64657, 1610, 1585), (64658, 1610, 1586),
    (64659, 1610, 1605), (64660, 1610, 1606), (64661, 1610, 1609), (64662, 1610, 1610),
    (64663, 1574, 1580), (64664, 1574, 1581), (64665, 1574, 1582), (64666, 1574, 1605),
    (64667, 1574, 1607), (64668, 1576, 1580), (64669, 1576, 1581), (64670, 1576, 1582),
    (64671, 1576, 1605), (64672, 1576, 1607), (64673, 1578, 1580), (64674, 1578, 1581),
    (64675, 1578, 1582), (64676, 1578, 1605), (64677, 1578, 1607), (64678, 1579, 1605),
    (64679, 1580, 1581), (64680, 1580, 1605), (64681, 1581, 1580), (64682, 1581, 1605),
    (64683, 1582, 1580), (64684, 1582, 1605), (64685, 1587, 1580), (64686, 1587, 1581),
    (64687, 1587, 1582), (64688, 1587, 1605), (64689, 1589, 1581), (64690, 1589, 1582),
    (64691, 1589, 1605), (64692, 1590, 1580), (64693, 1590, 1581), (64694, 1590, 1582),
    (64695, 1590, 1605), (64696, 1591, 1581), (64697, 1592, 1605), (64698, 1593, 1580),
    (64699, 1593, 1605), (64700, 1594, 1580), (64701, 1594, 1605), (64702, 1601, 1580),
    (64703, 1601, 1581), (64704, 1601, 1582), (64705, 1601, 1605), (64706, 1602, 1581),
    (64707, 1602, 1605), (64708, 1603, 1580), (64709, 1603, 1581), (64710, 1603, 1582),
    (64711, 1603, 1604), (64712, 1603, 1605), (64713, 1604, 1580), (64714, 1604, 1581),
    (64715, 1604, 1582), (64716, 1604, 1605), (64717, 1604, 1607), (64718, 1605, 1580),
    (64719, 1605, 1581), (64720, 1605, 1582), (64721, 1605, 1605), (64722, 1606, 1580),
    (64723, 1606, 1581), (64724, 1606, 1582), (64725, 1606, 1605), (64726, 1606, 1607),
    (64727, 1607, 1580), (64728, 1607, 1605), (64729, 1607, 1648), (64730, 1610, 1580),
    (64731, 1610, 1581), (64732, 1610, 1582), (64733, 1610, 1605), (64734, 1610, 1607),
    (64735, 1574, 1605), (64736, 1574, 1607), (64737, 1576, 1605), (64738, 1576, 1607),
    (64739, 1578, 1605), (64740, 1578, 1607), (64741, 1579, 1605), (64742, 1579, 1607),
    (64743, 1587, 1605), (64744, 1587, 1607), (64745, 1588, 1605), (64746, 1588, 1607),
    (64747, 1603, 1604), (64748, 1603, 1605), (64749, 1604, 1605), (64750, 1606, 1605),
    (64751, 1606, 1607), (64752, 1610, 1605), (64753, 1610, 1607), (64757, 1591, 1609),
    (64758, 1591, 1610), (64759, 1593, 1609), (64760, 1593, 1610), (64761, 1594, 1609),
    (64762, 1594, 1610), (64763, 1587, 1609), (64764, 1587, 1610), (64765, 1588, 1609),
    (64766, 1588, 1610), (64767, 1581, 1609), (64768, 1581, 1610), (64769, 1580, 1609),
    (64770, 1580, 1610), (64771, 1582, 1609), (64772, 1582, 1610), (64773, 1589, 1609),
    (64774, 1589, 1610), (64775, 1590, 1609), (64776, 1590, 1610), (64777, 1588, 1580),
    (64778, 1588, 1581), (64779, 1588, 1582), (64780, 1588, 1605), (64781, 1588, 1585),
    (64782, 1587, 1585), (64783, 1589, 1585), (64784, 1590, 1585), (64785, 1591, 1609),
    (64786, 1591, 1610), (64787, 1593, 1609), (64788, 1593, 1610), (64789, 1594, 1609),
    (64790, 1594, 1610), (64791, 1587, 1609), (64792, 1587, 1610), (64793, 1588, 1609),
    (64794, 1588, 1610), (64795, 1581, 1609), (64796, 1581, 1610), (64797, 1580, 1609),
    (64798, 1580, 1610), (64799, 1582, 1609), (64800, 1582, 1610), (64801, 1589, 1609),
    (64802, 1589, 1610), (64803, 1590, 1609), (64804, 1590, 1610), (64805, 1588, 1580),
    (64806, 1588, 1581), (64807, 1588, 1582), (64808, 1588, 1605), (64809, 1588, 1585),
    (64810, 1587, 1585), (64811, 1589, 1585), (64812, 1590, 1585), (64813, 1588, 1580),
    (64814, 1588, 1581), (64815, 1588, 1582), (64816, 1588, 1605), (64817, 1587, 1607),
    (64818, 1588, 1607), (64819, 1591, 1605), (64820, 1587, 1580), (64821, 1587, 1581),
    (64822, 1587, 1582), (64823, 1588, 1580), (64824, 1588, 1581), (64825, 1588, 1582),
    (64826, 1591, 1605), (64827, 1592, 1605), (64828, 1575, 1611), (64829, 1575, 1611),
    (65097, 32, 773), (65098, 32, 773), (65099, 32, 773), (65100, 32, 773), (65136, 32, 1611),
    (65137, 1600, 1611), (65138, 32, 1612), (65140, 32, 1613), (65142, 32, 1614),
    (65143, 1600, 1614), (65144, 32, 1615), (65145, 1600, 1615), (65146, 32, 1616),
    (65147, 1600, 1616), (65148, 32, 1617), (65149, 1600, 1617), (65150, 32, 1618),
    (65151, 1600, 1618), (65269, 1604, 1570), (65270, 1604, 1570), (65271, 1604, 1571),
    (65272, 1604, 1571), (65273, 1604, 1573), (65274, 1604, 1573), (65275, 1604, 1575),
    (65276, 1604, 1575), (65507, 32, 772), (127233, 48, 44), (127234, 49, 44), (127235, 50, 44),
    (127236, 51, 44), (127237, 52, 44), (127238, 53, 44), (127239, 54, 44), (127240, 55, 44),
    (127241, 56, 44), (127242, 57, 44), (127277, 99, 100), (127278, 119, 122), (127306, 104, 118),
    (127307, 109, 118), (127308, 115, 100), (127309, 115, 115), (127311, 119, 99),
    (127338, 109, 99), (127339, 109, 100), (127340, 109, 114), (127376, 100, 106),
    (127488, 12411, 12363), (127489, 12467, 12467)]

/-- Characters that become three or more. -/
def mappedTexts : List (Nat × List Nat) := [
    (188, [49, 8260, 52]), (189, [49, 8260, 50]), (190, [51, 8260, 52]), (901, [32, 776, 769]),
    (3959, [4018, 3953, 3968]), (3961, [4019, 3953, 3968]), (8129, [32, 776, 834]),
    (8141, [32, 787, 768]), (8142, [32, 787, 769]), (8143, [32, 787, 834]), (8157, [32, 788, 768]),
    (8158, [32, 788, 769]), (8159, [32, 788, 834]), (8173, [32, 776, 768]), (8174, [32, 776, 769]),
    (8244, [8242, 8242, 8242]), (8247, [8245, 8245, 8245]), (8279, [8242, 8242, 8242, 8242]),
    (8448, [97, 47, 99]), (8449, [97, 47, 115]), (8453, [99, 47, 111]), (8454, [99, 47, 117]),
    (8481, [116, 101, 108]), (8507, [102, 97, 120]), (8528, [49, 8260, 55]), (8529, [49, 8260, 57]),
    (8530, [49, 8260, 49, 48]), (8531, [49, 8260, 51]), (8532, [50, 8260, 51]),
    (8533, [49, 8260, 53]), (8534, [50, 8260, 53]), (8535, [51, 8260, 53]), (8536, [52, 8260, 53]),
    (8537, [49, 8260, 54]), (8538, [53, 8260, 54]), (8539, [49, 8260, 56]), (8540, [51, 8260, 56]),
    (8541, [53, 8260, 56]), (8542, [55, 8260, 56]), (8546, [105, 105, 105]),
    (8550, [118, 105, 105]), (8551, [118, 105, 105, 105]), (8555, [120, 105, 105]),
    (8562, [105, 105, 105]), (8566, [118, 105, 105]), (8567, [118, 105, 105, 105]),
    (8571, [120, 105, 105]), (8585, [48, 8260, 51]), (8749, [8747, 8747, 8747]),
    (8752, [8750, 8750, 8750]), (9332, [40, 49, 41]), (9333, [40, 50, 41]), (9334, [40, 51, 41]),
    (9335, [40, 52, 41]), (9336, [40, 53, 41]), (9337, [40, 54, 41]), (9338, [40, 55, 41]),
    (9339, [40, 56, 41]), (9340, [40, 57, 41]), (9341, [40, 49, 48, 41]), (9342, [40, 49, 49, 41]),
    (9343, [40, 49, 50, 41]), (9344, [40, 49, 51, 41]), (9345, [40, 49, 52, 41]),
    (9346, [40, 49, 53, 41]), (9347, [40, 49, 54, 41]), (9348, [40, 49, 55, 41]),
    (9349, [40, 49, 56, 41]), (9350, [40, 49, 57, 41]), (9351, [40, 50, 48, 41]),
    (9372, [40, 97, 41]), (9373, [40, 98, 41]), (9374, [40, 99, 41]), (9375, [40, 100, 41]),
    (9376, [40, 101, 41]), (9377, [40, 102, 41]), (9378, [40, 103, 41]), (9379, [40, 104, 41]),
    (9380, [40, 105, 41]), (9381, [40, 106, 41]), (9382, [40, 107, 41]), (9383, [40, 108, 41]),
    (9384, [40, 109, 41]), (9385, [40, 110, 41]), (9386, [40, 111, 41]), (9387, [40, 112, 41]),
    (9388, [40, 113, 41]), (9389, [40, 114, 41]), (9390, [40, 115, 41]), (9391, [40, 116, 41]),
    (9392, [40, 117, 41]), (9393, [40, 118, 41]), (9394, [40, 119, 41]), (9395, [40, 120, 41]),
    (9396, [40, 121, 41]), (9397, [40, 122, 41]), (10764, [8747, 8747, 8747, 8747]),
    (10868, [58, 58, 61]), (10870, [61, 61, 61]), (12800, [40, 4352, 41]), (12801, [40, 4354, 41]),
    (12802, [40, 4355, 41]), (12803, [40, 4357, 41]), (12804, [40, 4358, 41]),
    (12805, [40, 4359, 41]), (12806, [40, 4361, 41]), (12807, [40, 4363, 41]),
    (12808, [40, 4364, 41]), (12809, [40, 4366, 41]), (12810, [40, 4367, 41]),
    (12811, [40, 4368, 41]), (12812, [40, 4369, 41]), (12813, [40, 4370, 41]),
    (12814, [40, 44032, 41]), (12815, [40, 45208, 41]), (12816, [40, 45796, 41]),
    (12817, [40, 46972, 41]), (12818, [40, 47560, 41]), (12819, [40, 48148, 41]),
    (12820, [40, 49324, 41]), (12821, [40, 50500, 41]), (12822, [40, 51088, 41]),
    (12823, [40, 52264, 41]), (12824, [40, 52852, 41]), (12825, [40, 53440, 41]),
    (12826, [40, 54028, 41]), (12827, [40, 54616, 41]), (12828, [40, 51452, 41]),
    (12829, [40, 50724, 51204, 41]), (12830, [40, 50724, 54980, 41]), (12832, [40, 19968, 41]),
    (12833, [40, 20108, 41]), (12834, [40, 19977, 41]), (12835, [40, 22235, 41]),
    (12836, [40, 20116, 41]), (12837, [40, 20845, 41]), (12838, [40, 19971, 41]),
    (12839, [40, 20843, 41]), (12840, [40, 20061, 41]), (12841, [40, 21313, 41]),
    (12842, [40, 26376, 41]), (12843, [40, 28779, 41]), (12844, [40, 27700, 41]),
    (12845, [40, 26408, 41]), (12846, [40, 37329, 41]), (12847, [40, 22303, 41]),
    (12848, [40, 26085, 41]), (12849, [40, 26666, 41]), (12850, [40, 26377, 41]),
    (12851, [40, 31038, 41]), (12852, [40, 21517, 41]), (12853, [40, 29305, 41]),
    (12854, [40, 36001, 41]), (12855, [40, 31069, 41]), (12856, [40, 21172, 41]),
    (12857, [40, 20195, 41]), (12858, [40, 21628, 41]), (12859, [40, 23398, 41]),
    (12860, [40, 30435, 41]), (12861, [40, 20225, 41]), (12862, [40, 36039, 41]),
    (12863, [40, 21332, 41]), (12864, [40, 31085, 41]), (12865, [40, 20241, 41]),
    (12866, [40, 33258, 41]), (12867, [40, 33267, 41]), (12880, [112, 116, 101]),
    (13001, [49, 48, 26376]), (13002, [49, 49, 26376]), (13003, [49, 50, 26376]),
    (13005, [101, 114, 103]), (13007, [108, 116, 100]), (13056, [12450, 12497, 12540, 12488]),
    (13057, [12450, 12523, 12501, 12449]), (13058, [12450, 12531, 12506, 12450]),
    (13059, [12450, 12540, 12523]), (13060, [12452, 12491, 12531, 12464]),
    (13061, [12452, 12531, 12481]), (13062, [12454, 12457, 12531]),
    (13063, [12456, 12473, 12463, 12540, 12489]), (13064, [12456, 12540, 12459, 12540]),
    (13065, [12458, 12531, 12473]), (13066, [12458, 12540, 12512]), (13067, [12459, 12452, 12522]),
    (13068, [12459, 12521, 12483, 12488]), (13069, [12459, 12525, 12522, 12540]),
    (13070, [12460, 12525, 12531]), (13071, [12460, 12531, 12510]), (13073, [12462, 12491, 12540]),
    (13074, [12461, 12517, 12522, 12540]), (13075, [12462, 12523, 12480, 12540]),
    (13077, [12461, 12525, 12464, 12521, 12512]),
    (13078, [12461, 12525, 12513, 12540, 12488, 12523]),
    (13079, [12461, 12525, 12527, 12483, 12488]), (13080, [12464, 12521, 12512]),
    (13081, [12464, 12521, 12512, 12488, 12531]), (13082, [12463, 12523, 12476, 12452, 12525]),
    (13083, [12463, 12525, 12540, 12493]), (13084, [12465, 12540, 12473]),
    (13085, [12467, 12523, 12490]), (13086, [12467, 12540, 12509]),
    (13087, [12469, 12452, 12463, 12523]), (13088, [12469, 12531, 12481, 12540, 12512]),
    (13089, [12471, 12522, 12531, 12464]), (13090, [12475, 12531, 12481]),
    (13091, [12475, 12531, 12488]), (13092, [12480, 12540, 12473]), (13097, [12494, 12483, 12488]),
    (13098, [12495, 12452, 12484]), (13099, [12497, 12540, 12475, 12531, 12488]),
    (13100, [12497, 12540, 12484]), (13101, [12496, 12540, 12524, 12523]),
    (13102, [12500, 12450, 12473, 12488, 12523]), (13103, [12500, 12463, 12523]),
    (13106, [12501, 12449, 12521, 12483, 12489]), (13107, [12501, 12451, 12540, 12488]),
    (13108, [12502, 12483, 12471, 12455, 12523]), (13109, [12501, 12521, 12531]),
    (13110, [12504, 12463, 12479, 12540, 12523]), (13112, [12506, 12491, 12498]),
    (13113, [12504, 12523, 12484]), (13114, [12506, 12531, 12473]), (13115, [12506, 12540, 12472]),
    (13116, [12505, 12540, 12479]), (13117, [12509, 12452, 12531, 12488]),
    (13118, [12508, 12523, 12488]), (13120, [12509, 12531, 12489]), (13121, [12507, 12540, 12523]),
    (13122, [12507, 12540, 12531]), (13123, [12510, 12452, 12463, 12525]),
    (13124, [12510, 12452, 12523]), (13125, [12510, 12483, 12495]), (13126, [12510, 12523, 12463]),
    (13127, [12510, 12531, 12471, 12519, 12531]), (13128, [12511, 12463, 12525, 12531]),
    (13130, [12511, 12522, 12496, 12540, 12523]), (13132, [12513, 12460, 12488, 12531]),
    (13133, [12513, 12540, 12488, 12523]), (13134, [12516, 12540, 12489]),
    (13135, [12516, 12540, 12523]), (13136, [12518, 12450, 12531]),
    (13137, [12522, 12483, 12488, 12523]), (13139, [12523, 12500, 12540]),
    (13140, [12523, 12540, 12502, 12523]), (13142, [12524, 12531, 12488, 12466, 12531]),
    (13143, [12527, 12483, 12488]), (13154, [49, 48, 28857]), (13155, [49, 49, 28857]),
    (13156, [49, 50, 28857]), (13157, [49, 51, 28857]), (13158, [49, 52, 28857]),
    (13159, [49, 53, 28857]), (13160, [49, 54, 28857]), (13161, [49, 55, 28857]),
    (13162, [49, 56, 28857]), (13163, [49, 57, 28857]), (13164, [50, 48, 28857]),
    (13165, [50, 49, 28857]), (13166, [50, 50, 28857]), (13167, [50, 51, 28857]),
    (13168, [50, 52, 28857]), (13169, [104, 112, 97]), (13172, [98, 97, 114]),
    (13176, [100, 109, 50]), (13177, [100, 109, 51]), (13183, [26666, 24335, 20250, 31038]),
    (13192, [99, 97, 108]), (13193, [107, 99, 97, 108]), (13201, [107, 104, 122]),
    (13202, [109, 104, 122]), (13203, [103, 104, 122]), (13204, [116, 104, 122]),
    (13215, [109, 109, 50]), (13216, [99, 109, 50]), (13218, [107, 109, 50]),
    (13219, [109, 109, 51]), (13220, [99, 109, 51]), (13222, [107, 109, 51]),
    (13223, [109, 8725, 115]), (13224, [109, 8725, 115, 50]), (13226, [107, 112, 97]),
    (13227, [109, 112, 97]), (13228, [103, 112, 97]), (13229, [114, 97, 100]),
    (13230, [114, 97, 100, 8725, 115]), (13231, [114, 97, 100, 8725, 115, 50]),
    (13254, [99, 8725, 107, 103]), (13266, [108, 111, 103]), (13269, [109, 105, 108]),
    (13270, [109, 111, 108]), (13273, [112, 112, 109]), (13278, [118, 8725, 109]),
    (13279, [97, 8725, 109]), (13289, [49, 48, 26085]), (13290, [49, 49, 26085]),
    (13291, [49, 50, 26085]), (13292, [49, 51, 26085]), (13293, [49, 52, 26085]),
    (13294, [49, 53, 26085]), (13295, [49, 54, 26085]), (13296, [49, 55, 26085]),
    (13297, [49, 56, 26085]), (13298, [49, 57, 26085]), (13299, [50, 48, 26085]),
    (13300, [50, 49, 26085]), (13301, [50, 50, 26085]), (13302, [50, 51, 26085]),
    (13303, [50, 52, 26085]), (13304, [50, 53, 26085]), (13305, [50, 54, 26085]),
    (13306, [50, 55, 26085]), (13307, [50, 56, 26085]), (13308, [50, 57, 26085]),
    (13309, [51, 48, 26085]), (13310, [51, 49, 26085]), (13311, [103, 97, 108]),
    (64259, [102, 102, 105]), (64260, [102, 102, 108]), (64606, [32, 1612, 1617]),
    (64607, [32, 1613, 1617]), (64608, [32, 1614, 1617]), (64609, [32, 1615, 1617]),
    (64610, [32, 1616, 1617]), (64611, [32, 1617, 1648]), (64754, [1600, 1614, 1617]),
    (64755, [1600, 1615, 1617]), (64756, [1600, 1616, 1617]), (64848, [1578, 1580, 1605]),
    (64849, [1578, 1581, 1580]), (64850, [1578, 1581, 1580]), (64851, [1578, 1581, 1605]),
    (64852, [1578, 1582, 1605]), (64853, [1578, 1605, 1580]), (64854, [1578, 1605, 1581]),
    (64855, [1578, 1605, 1582]), (64856, [1580, 1605, 1581]), (64857, [1580, 1605, 1581]),
    (64858, [1581, 1605, 1610]), (64859, [1581, 1605, 1609]), (64860, [1587, 1581, 1580]),
    (64861, [1587, 1580, 1581]), (64862, [1587, 1580, 1609]), (64863, [1587, 1605, 1581]),
    (64864, [1587, 1605, 1581]), (64865, [1587, 1605, 1580]), (64866, [1587, 1605, 1605]),
    (64867, [1587, 1605, 1605]), (64868, [1589, 1581, 1581]), (64869, [1589, 1581, 1581]),
    (64870, [1589, 1605, 1605]), (64871, [1588, 1581, 1605]), (64872, [1588, 1581, 1605]),
    (64873, [1588, 1580, 1610]), (64874, [1588, 1605, 1582]), (64875, [1588, 1605, 1582]),
    (64876, [1588, 1605, 1605]), (64877, [1588, 1605, 1605]), (64878, [1590, 1581, 1609]),
    (64879, [1590, 1582, 1605]), (64880, [1590, 1582, 1605]), (64881, [1591, 1605, 1581]),
    (64882, [1591, 1605, 1581]), (64883, [1591, 1605, 1605]), (64884, [1591, 1605, 1610]),
    (64885, [1593, 1580, 1605]), (64886, [1593, 1605, 1605]), (64887, [1593, 1605, 1605]),
    (64888, [1593, 1605, 1609]), (64889, [1594, 1605, 1605]), (64890, [1594, 1605, 1610]),
    (64891, [1594, 1605, 1609]), (64892, [1601, 1582, 1605]), (64893, [1601, 1582, 1605]),
    (64894, [1602, 1605, 1581]), (64895, [1602, 1605, 1605]), (64896, [1604, 1581, 1605]),
    (64897, [1604, 1581, 1610]), (64898, [1604, 1581, 1609]), (64899, [1604, 1580, 1580]),
    (64900, [1604, 1580, 1580]), (64901, [1604, 1582, 1605]), (64902, [1604, 1582, 1605]),
    (64903, [1604, 1605, 1581]), (64904, [1604, 1605, 1581]), (64905, [1605, 1581, 1580]),
    (64906, [1605, 1581, 1605]), (64907, [1605, 1581, 1610]), (64908, [1605, 1580, 1581]),
    (64909, [1605, 1580, 1605]), (64910, [1605, 1582, 1580]), (64911, [1605, 1582, 1605]),
    (64914, [1605, 1580, 1582]), (64915, [1607, 1605, 1580]), (64916, [1607, 1605, 1605]),
    (64917, [1606, 1581, 1605]), (64918, [1606, 1581, 1609]), (64919, [1606, 1580, 1605]),
    (64920, [1606, 1580, 1605]), (64921, [1606, 1580, 1609]), (64922, [1606, 1605, 1610]),
    (64923, [1606, 1605, 1609]), (64924, [1610, 1605, 1605]), (64925, [1610, 1605, 1605]),
    (64926, [1576, 1582, 1610]), (64927, [1578, 1580, 1610]), (64928, [1578, 1580, 1609]),
    (64929, [1578, 1582, 1610]), (64930, [1578, 1582, 1609]), (64931, [1578, 1605, 1610]),
    (64932, [1578, 1605, 1609]), (64933, [1580, 1605, 1610]), (64934, [1580, 1581, 1609]),
    (64935, [1580, 1605, 1609]), (64936, [1587, 1582, 1609]), (64937, [1589, 1581, 1610]),
    (64938, [1588, 1581, 1610]), (64939, [1590, 1581, 1610]), (64940, [1604, 1580, 1610]),
    (64941, [1604, 1605, 1610]), (64942, [1610, 1581, 1610]), (64943, [1610, 1580, 1610]),
    (64944, [1610, 1605, 1610]), (64945, [1605, 1605, 1610]), (64946, [1602, 1605, 1610]),
    (64947, [1606, 1581, 1610]), (64948, [1602, 1605, 1581]), (64949, [1604, 1581, 1605]),
    (64950, [1593, 1605, 1610]), (64951, [1603, 1605, 1610]), (64952, [1606, 1580, 1581]),
    (64953, [1605, 1582, 1610]), (64954, [1604, 1580, 1605]), (64955, [1603, 1605, 1605]),
    (64956, [1604, 1580, 1605]), (64957, [1606, 1580, 1581]), (64958, [1580, 1581, 1610]),
    (64959, [1581, 1580, 1610]), (64960, [1605, 1580, 1610]), (64961, [1601, 1605, 1610]),
    (64962, [1576, 1581, 1610]), (64963, [1603, 1605, 1605]), (64964, [1593, 1580, 1605]),
    (64965, [1589, 1605, 1605]), (64966, [1587, 1582, 1610]), (64967, [1606, 1580, 1610]),
    (65008, [1589, 1604, 1746]), (65009, [1602, 1604, 1746]), (65010, [1575, 1604, 1604, 1607]),
    (65011, [1575, 1603, 1576, 1585]), (65012, [1605, 1581, 1605, 1583]),
    (65013, [1589, 1604, 1593, 1605]), (65014, [1585, 1587, 1608, 1604]),
    (65015, [1593, 1604, 1610, 1607]), (65016, [1608, 1587, 1604, 1605]),
    (65017, [1589, 1604, 1609]),
    (65018,
      [1589, 1604, 1609, 32, 1575, 1604, 1604, 1607, 32, 1593, 1604, 1610, 1607, 32, 1608, 1587, 1604,
        1605]),
    (65019, [1580, 1604, 32, 1580, 1604, 1575, 1604, 1607]), (65020, [1585, 1740, 1575, 1604]),
    (127248, [40, 97, 41]), (127249, [40, 98, 41]), (127250, [40, 99, 41]), (127251, [40, 100, 41]),
    (127252, [40, 101, 41]), (127253, [40, 102, 41]), (127254, [40, 103, 41]),
    (127255, [40, 104, 41]), (127256, [40, 105, 41]), (127257, [40, 106, 41]),
    (127258, [40, 107, 41]), (127259, [40, 108, 41]), (127260, [40, 109, 41]),
    (127261, [40, 110, 41]), (127262, [40, 111, 41]), (127263, [40, 112, 41]),
    (127264, [40, 113, 41]), (127265, [40, 114, 41]), (127266, [40, 115, 41]),
    (127267, [40, 116, 41]), (127268, [40, 117, 41]), (127269, [40, 118, 41]),
    (127270, [40, 119, 41]), (127271, [40, 120, 41]), (127272, [40, 121, 41]),
    (127273, [40, 122, 41]), (127274, [12308, 115, 12309]), (127310, [112, 112, 118]),
    (127552, [12308, 26412, 12309]), (127553, [12308, 19977, 12309]),
    (127554, [12308, 20108, 12309]), (127555, [12308, 23433, 12309]),
    (127556, [12308, 28857, 12309]), (127557, [12308, 25171, 12309]),
    (127558, [12308, 30423, 12309]), (127559, [12308, 21213, 12309]),
    (127560, [12308, 25943, 12309])]

end Tenancy.Domain
