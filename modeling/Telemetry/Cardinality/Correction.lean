/-
# Correction of small estimates

The raw estimate of a cardinality sketch overshoots while few registers are occupied.
The overshoot was measured: for each precision there is a row of raw estimates, in
ascending order, with the mean overshoot found at each. Between two measured estimates
the mean of their overshoots is used, and outside of them the first or the last.
Below a switching point of its own for each precision, counting empty registers is more
accurate than a corrected estimate.

All measurements are kept in ten-thousandths.
-/

import Telemetry.Cardinality.Precision

namespace Telemetry.Cardinality.Correction

/-- Raw estimates at which sketches of precision 4 were measured. -/
def estimates4 : List Nat := [
  112378, 117228, 122234, 127397, 132713, 138191, 143827, 149619, 155577, 161697, 174381, 180961,
  187693, 194577, 201618, 208784, 216079, 223542, 231124, 238853, 246718, 254692, 262806, 271017,
  279324, 287751, 296308, 304934, 313670, 331428, 340442, 349518, 358653, 367882, 377142, 386469,
  395870, 405314, 414840, 424365, 433935, 443552, 453194, 462867, 472572, 482336, 492091, 501934,
  511703, 521531, 541263, 551141, 561014, 570889, 580775, 590713, 600621, 610541, 620472, 630381,
  640303, 650239, 660185, 670171, 680131, 690102, 700035, 709979, 719953, 739879, 749872, 759841,
  769843, 779831, 789794, 799766, 809743, 819657, 829605, 839626]

/-- The mean overshoot of precision 4 at each of its measured estimates. -/
def overshoots4 : List Int := [
  102378, 97228, 92234, 87397, 82713, 78191, 73827, 69619, 65577, 61697, 54381, 50961, 47693,
  44577, 41618, 38784, 36079, 33542, 31124, 28853, 26718, 24692, 22806, 21017, 19324, 17751,
  16308, 14934, 13670, 11428, 10442, 9518, 8653, 7882, 7142, 6469, 5870, 5314, 4840, 4365, 3935,
  3552, 3194, 2867, 2572, 2336, 2091, 1934, 1703, 1531, 1263, 1141, 1014, 889, 775, 713, 621, 541,
  472, 381, 303, 239, 185, 171, 131, 102, 35, -21, -47, -121, -128, -159, -157, -169, -206, -234,
  -257, -343, -395, -374]

/-- Raw estimates at which sketches of precision 5 were measured. -/
def estimates5 : List Nat := [
  227793, 232624, 237526, 242499, 247551, 252671, 257870, 263143, 268497, 273918, 284990, 290635,
  296358, 302159, 308036, 313980, 320009, 326112, 332284, 338544, 344866, 351267, 357734, 364289,
  370885, 377572, 384329, 391137, 398029, 412024, 419122, 426289, 433534, 440813, 448186, 455636,
  463135, 470692, 478332, 486041, 493818, 501605, 509464, 517368, 525350, 533363, 541471, 549642,
  557824, 566084, 582758, 591170, 599615, 608083, 616617, 625187, 633830, 642485, 651242, 660005,
  668807, 677654, 686514, 695440, 704366, 713362, 722384, 731481, 740607, 758948, 768127, 777366,
  786621, 795886, 805175, 814493, 823861, 833260, 842696, 852088, 861495, 870956, 880482, 889959,
  899498, 909043, 918549, 928167, 937760, 947382, 966712, 976371, 986016, 995755, 1005466,
  1015170, 1024950, 1034737, 1044495, 1054289, 1064082, 1073864, 1083659, 1093469, 1103289,
  1113171, 1122987, 1132903, 1142813, 1162541, 1172360, 1182248, 1192208, 1202071, 1211932,
  1221817, 1231719, 1241638, 1251537, 1261379, 1271320, 1281246, 1291181, 1301060, 1311071,
  1320975, 1330881, 1340890, 1350827, 1360747, 1380539, 1390494, 1400531, 1410490, 1420400,
  1430259, 1440173, 1450106, 1459999, 1469912, 1479910, 1489820, 1499839, 1509873, 1519814,
  1529879, 1539828, 1549742, 1559693, 1579574, 1589557, 1599561, 1609444, 1619443, 1629443,
  1639438, 1649407, 1659364, 1669347, 1679349]

/-- The mean overshoot of precision 5 at each of its measured estimates. -/
def overshoots5 : List Int := [
  217793, 212624, 207526, 202499, 197551, 192671, 187870, 183143, 178497, 173918, 164990, 160635,
  156358, 152159, 148036, 143980, 140009, 136112, 132284, 128544, 124866, 121267, 117734, 114289,
  110885, 107572, 104329, 101137, 98029, 92024, 89122, 86289, 83534, 80813, 78186, 75636, 73135,
  70692, 68332, 66041, 63818, 61605, 59464, 57368, 55350, 53363, 51471, 49642, 47824, 46084,
  42758, 41170, 39615, 38083, 36617, 35187, 33830, 32485, 31242, 30005, 28807, 27654, 26514,
  25440, 24366, 23362, 22384, 21481, 20607, 18948, 18127, 17366, 16621, 15886, 15175, 14493,
  13861, 13260, 12696, 12088, 11495, 10956, 10482, 9959, 9498, 9043, 8549, 8167, 7760, 7382, 6712,
  6371, 6016, 5755, 5466, 5170, 4950, 4737, 4495, 4289, 4082, 3864, 3659, 3469, 3289, 3171, 2987,
  2903, 2813, 2541, 2360, 2248, 2208, 2071, 1932, 1817, 1719, 1638, 1537, 1379, 1320, 1246, 1181,
  1060, 1071, 975, 881, 890, 827, 747, 539, 494, 531, 490, 400, 259, 173, 106, -1, -88, -90, -180,
  -161, -127, -186, -121, -172, -258, -307, -426, -443, -439, -556, -557, -557, -562, -593, -636,
  -653, -651]

/-- Raw estimates at which sketches of precision 6 were measured. -/
def estimates6 : List Nat := [
  463362, 468214, 478028, 487999, 493039, 503216, 513538, 518756, 529289, 539992, 545402, 556332,
  567412, 578626, 584288, 595733, 607301, 613135, 624930, 636866, 642898, 655062, 667359, 673574,
  686109, 698764, 705170, 718037, 731043, 737619, 750847, 764204, 770918, 784487, 798189, 805096,
  819055, 833105, 847285, 854415, 868806, 883296, 890597, 905254, 920067, 927524, 942499, 957628,
  965228, 980507, 995950, 1003704, 1019327, 1035013, 1042905, 1058800, 1074793, 1082827, 1098939,
  1115192, 1123358, 1139740, 1156265, 1172826, 1181194, 1197885, 1214738, 1223211, 1240204,
  1257278, 1265858, 1283043, 1300353, 1309021, 1326462, 1343924, 1352738, 1370330, 1387980,
  1396844, 1414627, 1432462, 1441409, 1459355, 1477345, 1486429, 1504581, 1522777, 1541029,
  1550180, 1568534, 1586883, 1596094, 1614565, 1633176, 1642464, 1661037, 1679708, 1689084,
  1707781, 1726662, 1736164, 1755058, 1773916, 1783377, 1802289, 1821299, 1830876, 1849958,
  1868974, 1878602, 1897760, 1916949, 1936267, 1945891, 1965218, 1984539, 1994140, 2013451,
  2032910, 2042622, 2061968, 2081333, 2091010, 2110514, 2130007, 2139774, 2159224, 2178757,
  2188546, 2207961, 2227561, 2237330, 2256974, 2276582, 2286429, 2305994, 2325552, 2345261,
  2355028, 2374535, 2394249, 2404138, 2423912, 2443669, 2453612, 2473308, 2493067, 2503069,
  2522660, 2542390, 2552340, 2572110, 2591874, 2601764, 2621539, 2641328, 2651242, 2671095,
  2690866, 2700820, 2720666, 2740653, 2760535, 2770536, 2790447, 2810401, 2820328, 2840209,
  2860228, 2870187, 2890139, 2910117, 2920001, 2939864, 2959879, 2969960, 2989914, 3009927,
  3019973, 3039881, 3059826, 3069802, 3089681, 3109514, 3119489, 3139387, 3159429, 3179400,
  3189423, 3209337, 3229297, 3239347, 3259487, 3279657, 3289657, 3309745, 3329677, 3339668,
  3359584]

/-- The mean overshoot of precision 6 at each of its measured estimates. -/
def overshoots6 : List Int := [
  443362, 438214, 428028, 417999, 413039, 403216, 393538, 388756, 379289, 369992, 365402, 356332,
  347412, 338626, 334288, 325733, 317301, 313135, 304930, 296866, 292898, 285062, 277359, 273574,
  266109, 258764, 255170, 248037, 241043, 237619, 230847, 224204, 220918, 214487, 208189, 205096,
  199055, 193105, 187285, 184415, 178806, 173296, 170597, 165254, 160067, 157524, 152499, 147628,
  145228, 140507, 135950, 133704, 129327, 125013, 122905, 118800, 114793, 112827, 108939, 105192,
  103358, 99740, 96265, 92826, 91194, 87885, 84738, 83211, 80204, 77278, 75858, 73043, 70353,
  69021, 66462, 63924, 62738, 60330, 57980, 56844, 54627, 52462, 51409, 49355, 47345, 46429,
  44581, 42777, 41029, 40180, 38534, 36883, 36094, 34565, 33176, 32464, 31037, 29708, 29084,
  27781, 26662, 26164, 25058, 23916, 23377, 22289, 21299, 20876, 19958, 18974, 18602, 17760,
  16949, 16267, 15891, 15218, 14539, 14140, 13451, 12910, 12622, 11968, 11333, 11010, 10514,
  10007, 9774, 9224, 8757, 8546, 7961, 7561, 7330, 6974, 6582, 6429, 5994, 5552, 5261, 5028, 4535,
  4249, 4138, 3912, 3669, 3612, 3308, 3067, 3069, 2660, 2390, 2340, 2110, 1874, 1764, 1539, 1328,
  1242, 1095, 866, 820, 666, 653, 535, 536, 447, 401, 328, 209, 228, 187, 139, 117, 1, -136, -121,
  -40, -86, -73, -27, -119, -174, -198, -319, -486, -511, -613, -571, -600, -577, -663, -703,
  -653, -513, -343, -343, -255, -323, -332, -416]

/-- Raw estimates at which sketches of precision 7 were measured. -/
def estimates7 : List Nat := [
  929986, 949481, 964310, 979295, 999496, 1014863, 1035604, 1051341, 1067253, 1088750, 1105039,
  1121519, 1143762, 1160591, 1177596, 1200491, 1217864, 1235464, 1259123, 1277012, 1301156,
  1319474, 1337937, 1362822, 1381628, 1400635, 1426209, 1445550, 1465086, 1491335, 1511216,
  1538034, 1558290, 1578691, 1606132, 1626842, 1647701, 1675840, 1697059, 1718436, 1747139,
  1768812, 1790668, 1820048, 1842272, 1872137, 1894571, 1917209, 1947593, 1970532, 1993629,
  2024459, 2047778, 2071225, 2102766, 2126529, 2158585, 2182597, 2206958, 2239293, 2263625,
  2288261, 2321164, 2345928, 2370888, 2404215, 2429329, 2454628, 2488508, 2514020, 2548276,
  2574010, 2599829, 2634388, 2660313, 2686435, 2721466, 2747888, 2774383, 2809783, 2836334,
  2871906, 2898731, 2925483, 2961513, 2988557, 3015660, 3051945, 3079400, 3106763, 3143311,
  3170888, 3198276, 3235189, 3262943, 3300151, 3328087, 3356062, 3393387, 3421440, 3449523,
  3487104, 3515080, 3543318, 3581205, 3609684, 3647667, 3676080, 3704595, 3742764, 3771467,
  3799999, 3838434, 3867217, 3896179, 3934581, 3963399, 3992183, 4030940, 4059937, 4098373,
  4127695, 4156666, 4195655, 4224736, 4254099, 4293242, 4322411, 4351588, 4390669, 4419865,
  4459062, 4488400, 4517797, 4556984, 4586382, 4615647, 4655165, 4684838, 4714358, 4753800,
  4783306, 4812694, 4851723, 4881205, 4920508, 4950038, 4979758, 5019106, 5048708, 5078289,
  5117953, 5147721, 5177473, 5216988, 5246792, 5286412, 5316074, 5345672, 5385170, 5415056,
  5444789, 5484346, 5514060, 5543596, 5583563, 5613355, 5643220, 5682916, 5712852, 5752743,
  5782664, 5812513, 5852417, 5882287, 5911979, 5951693, 5981172, 6011178, 6050863, 6080735,
  6120637, 6150652, 6180472, 6220404, 6250446, 6280001, 6319738, 6349762, 6379966, 6419841,
  6449800, 6479754, 6519605, 6549586, 6589577, 6619730, 6649771, 6689761, 6720013]

/-- The mean overshoot of precision 7 at each of its measured estimates. -/
def overshoots7 : List Int := [
  899986, 879481, 864310, 849295, 829496, 814863, 795604, 781341, 767253, 748750, 735039, 721519,
  703762, 690591, 677596, 660491, 647864, 635464, 619123, 607012, 591156, 579474, 567937, 552822,
  541628, 530635, 516209, 505550, 495086, 481335, 471216, 458034, 448290, 438691, 426132, 416842,
  407701, 395840, 387059, 378436, 367139, 358812, 350668, 340048, 332272, 322137, 314571, 307209,
  297593, 290532, 283629, 274459, 267778, 261225, 252766, 246529, 238585, 232597, 226958, 219293,
  213625, 208261, 201164, 195928, 190888, 184215, 179329, 174628, 168508, 164020, 158276, 154010,
  149829, 144388, 140313, 136435, 131466, 127888, 124383, 119783, 116334, 111906, 108731, 105483,
  101513, 98557, 95660, 91945, 89400, 86763, 83311, 80888, 78276, 75189, 72943, 70151, 68087,
  66062, 63387, 61440, 59523, 57104, 55080, 53318, 51205, 49684, 47667, 46080, 44595, 42764,
  41467, 39999, 38434, 37217, 36179, 34581, 33399, 32183, 30940, 29937, 28373, 27695, 26666,
  25655, 24736, 24099, 23242, 22411, 21588, 20669, 19865, 19062, 18400, 17797, 16984, 16382,
  15647, 15165, 14838, 14358, 13800, 13306, 12694, 11723, 11205, 10508, 10038, 9758, 9106, 8708,
  8289, 7953, 7721, 7473, 6988, 6792, 6412, 6074, 5672, 5170, 5056, 4789, 4346, 4060, 3596, 3563,
  3355, 3220, 2916, 2852, 2743, 2664, 2513, 2417, 2287, 1979, 1693, 1172, 1178, 863, 735, 637,
  652, 472, 404, 446, 1, -262, -238, -34, -159, -200, -246, -395, -414, -423, -270, -229, -239, 13]

/-- Raw estimates at which sketches of precision 8 were measured. -/
def estimates8 : List Nat := [
  1872570, 1901873, 1936531, 1971585, 2007092, 2037924, 2074247, 2111005, 2142921, 2180554,
  2218588, 2257093, 2290427, 2329711, 2369471, 2409762, 2444559, 2485534, 2527013, 2562772,
  2605027, 2647603, 2690685, 2728009, 2771916, 2816195, 2854649, 2899782, 2945261, 2991294,
  3031099, 3077862, 3124987, 3165676, 3213707, 3262200, 3310990, 3353082, 3402615, 3452498,
  3502825, 3546269, 3597261, 3648655, 3693065, 3745160, 3797670, 3850307, 3896034, 3949481,
  4003303, 4049659, 4103765, 4158653, 4213732, 4261374, 4317127, 4372983, 4421303, 4477945,
  4534828, 4592144, 4641298, 4699431, 4757495, 4815823, 4865921, 4924967, 4984163, 5034994,
  5094788, 5154767, 5215083, 5266819, 5327324, 5388186, 5440723, 5501974, 5563378, 5625454,
  5678230, 5740437, 5802835, 5856676, 5919640, 5982807, 6046065, 6100381, 6164307, 6228271,
  6292338, 6347019, 6411513, 6475779, 6531578, 6596887, 6661985, 6727075, 6782917, 6848526,
  6914172, 6970176, 7035890, 7101846, 7168042, 7224804, 7291073, 7357375, 7414503, 7481147,
  7547958, 7614693, 7671622, 7738235, 7805472, 7872776, 7930321, 7997642, 8065426, 8123813,
  8191608, 8259265, 8326893, 8385177, 8453131, 8520843, 8579689, 8647930, 8715802, 8784795,
  8843228, 8912032, 8980818, 9039989, 9108816, 9177343, 9245761, 9304734, 9373311, 9442079,
  9510875, 9570064, 9639143, 9707614, 9766513, 9835870, 9903982, 9973147, 10032323, 10101718,
  10171189, 10230367, 10299879, 10369853, 10438608, 10497971, 10567272, 10636733, 10696229,
  10765861, 10835291, 10904349, 10963488, 11033225, 11103262, 11172621, 11232047, 11301281,
  11371378, 11430760, 11500028, 11569464, 11639337, 11698960, 11768190, 11839146, 11898878,
  11968305, 12038061, 12107914, 12167761, 12237463, 12307134, 12367058, 12436211, 12505579,
  12575426, 12635082, 12705174, 12774880, 12845306, 12905567, 12975418, 13045328, 13105161,
  13175104, 13244722, 13314544, 13374173, 13444252]

/-- The mean overshoot of precision 8 at each of its measured estimates. -/
def overshoots8 : List Int := [
  1802570, 1771873, 1736531, 1701585, 1667092, 1637924, 1604247, 1571005, 1542921, 1510554,
  1478588, 1447093, 1420427, 1389711, 1359471, 1329762, 1304559, 1275534, 1247013, 1222772,
  1195027, 1167603, 1140685, 1118009, 1091916, 1066195, 1044649, 1019782, 995261, 971294, 951099,
  927862, 904987, 885676, 863707, 842200, 820990, 803082, 782615, 762498, 742825, 726269, 707261,
  688655, 673065, 655160, 637670, 620307, 606034, 589481, 573303, 559659, 543765, 528653, 513732,
  501374, 487127, 472983, 461303, 447945, 434828, 422144, 411298, 399431, 387495, 375823, 365921,
  354967, 344163, 334994, 324788, 314767, 305083, 296819, 287324, 278186, 270723, 261974, 253378,
  245454, 238230, 230437, 222835, 216676, 209640, 202807, 196065, 190381, 184307, 178271, 172338,
  167019, 161513, 155779, 151578, 146887, 141985, 137075, 132917, 128526, 124172, 120176, 115890,
  111846, 108042, 104804, 101073, 97375, 94503, 91147, 87958, 84693, 81622, 78235, 75472, 72776,
  70321, 67642, 65426, 63813, 61608, 59265, 56893, 55177, 53131, 50843, 49689, 47930, 45802,
  44795, 43228, 42032, 40818, 39989, 38816, 37343, 35761, 34734, 33311, 32079, 30875, 30064,
  29143, 27614, 26513, 25870, 23982, 23147, 22323, 21718, 21189, 20367, 19879, 19853, 18608,
  17971, 17272, 16733, 16229, 15861, 15291, 14349, 13488, 13225, 13262, 12621, 12047, 11281,
  11378, 10760, 10028, 9464, 9337, 8960, 8190, 9146, 8878, 8305, 8061, 7914, 7761, 7463, 7134,
  7058, 6211, 5579, 5426, 5082, 5174, 4880, 5306, 5567, 5418, 5328, 5161, 5104, 4722, 4544, 4173,
  4252]

/-- Raw estimates at which sketches of precision 9 were measured. -/
def estimates9 : List Nat := [
  3748081, 3816586, 3880989, 3951156, 4017104, 4088917, 4156377, 4230010, 4299110, 4369049,
  4445166, 4516585, 4594364, 4667484, 4746974, 4821688, 4897039, 4979007, 5056019, 5139821,
  5218468, 5303905, 5384053, 5471061, 5552620, 5635166, 5724593, 5808582, 5899768, 5985331,
  6078060, 6164875, 6259401, 6347428, 6436646, 6533418, 6624000, 6722218, 6814188, 6914009,
  7007209, 7101284, 7203439, 7298844, 7402475, 7498943, 7603447, 7701212, 7807296, 7906753,
  8006428, 8114791, 8216101, 8325936, 8428129, 8539514, 8642583, 8754894, 8859244, 8963941,
  9077879, 9184634, 9299535, 9406918, 9522856, 9631052, 9739595, 9857559, 9967485, 10086554,
  10196782, 10317010, 10428341, 10549439, 10662447, 10775769, 10897442, 11011827, 11135028,
  11249786, 11373471, 11489266, 11613801, 11730654, 11847106, 11973214, 12090694, 12217931,
  12336954, 12464268, 12582715, 12701981, 12829897, 12949161, 13078573, 13198796, 13328237,
  13449283, 13579945, 13701347, 13822497, 13954438, 14076075, 14207453, 14329541, 14461701,
  14583982, 14716210, 14839228, 14963207, 15095929, 15219396, 15352646, 15476575, 15610809,
  15735328, 15860305, 15995383, 16120688, 16256122, 16382300, 16518125, 16644361, 16780477,
  16906483, 17031384, 17167504, 17293683, 17430012, 17556582, 17692811, 17820203, 17956842,
  18084064, 18211624, 18348869, 18476215, 18613196, 18740554, 18877773, 19005974, 19133450,
  19271130, 19398758, 19536068, 19664333, 19802186, 19930429, 20069519, 20198001, 20326383,
  20465088, 20594387, 20733184, 20862101, 21000201, 21128669, 21266900, 21396273, 21524974,
  21663738, 21793568, 21931958, 22060810, 22200193, 22329067, 22457566, 22597112, 22726541,
  22865930, 22995127, 23134796, 23264447, 23403303, 23532103, 23662333, 23800869, 23930115,
  24069776, 24200373, 24339172, 24468178, 24607701, 24737764, 24867971, 25007797, 25137078,
  25277746, 25407519, 25547413, 25676471, 25806476, 25944831, 26074642, 26214517, 26344005,
  26483820, 26613962, 26753122, 26882349]

/-- The mean overshoot of precision 9 at each of its measured estimates. -/
def overshoots9 : List Int := [
  3618081, 3546586, 3480989, 3411156, 3347104, 3278917, 3216377, 3150010, 3089110, 3029049,
  2965166, 2906585, 2844364, 2787484, 2726974, 2671688, 2617039, 2559007, 2506019, 2449821,
  2398468, 2343905, 2294053, 2241061, 2192620, 2145166, 2094593, 2048582, 1999768, 1955331,
  1908060, 1864875, 1819401, 1777428, 1736646, 1693418, 1654000, 1612218, 1574188, 1534009,
  1497209, 1461284, 1423439, 1388844, 1352475, 1318943, 1283447, 1251212, 1217296, 1186753,
  1156428, 1124791, 1096101, 1065936, 1038129, 1009514, 982583, 954894, 929244, 903941, 877879,
  854634, 829535, 806918, 782856, 761052, 739595, 717559, 697485, 676554, 656782, 637010, 618341,
  599439, 582447, 565769, 547442, 531827, 515028, 499786, 483471, 469266, 453801, 440654, 427106,
  413214, 400694, 387931, 376954, 364268, 352715, 341981, 329897, 319161, 308573, 298796, 288237,
  279283, 269945, 261347, 252497, 244438, 236075, 227453, 219541, 211701, 203982, 196210, 189228,
  183207, 175929, 169396, 162646, 156575, 150809, 145328, 140305, 135383, 130688, 126122, 122300,
  118125, 114361, 110477, 106483, 101384, 97504, 93683, 90012, 86582, 82811, 80203, 76842, 74064,
  71624, 68869, 66215, 63196, 60554, 57773, 55974, 53450, 51130, 48758, 46068, 44333, 42186,
  40429, 39519, 38001, 36383, 35088, 34387, 33184, 32101, 30201, 28669, 26900, 26273, 24974,
  23738, 23568, 21958, 20810, 20193, 19067, 17566, 17112, 16541, 15930, 15127, 14796, 14447,
  13303, 12103, 12333, 10869, 10115, 9776, 10373, 9172, 8178, 7701, 7764, 7971, 7797, 7078, 7746,
  7519, 7413, 6471, 6476, 4831, 4642, 4517, 4005, 3820, 3962, 3122, 2349]

/-- Raw estimates at which sketches of precision 10 were measured. -/
def estimates10 : List Nat := [
  7508993, 7641165, 7775061, 7910545, 8042546, 8181202, 8321636, 8463724, 8607178, 8752680,
  8899530, 9048250, 9193305, 9345129, 9498464, 9653561, 9810152, 9968457, 10128521, 10289944,
  10446894, 10611527, 10778179, 10946257, 11115534, 11286999, 11459795, 11634268, 11810091,
  11980918, 12160047, 12340508, 12522173, 12705716, 12890447, 13077148, 13265487, 13447912,
  13639021, 13831648, 14025608, 14220349, 14417033, 14614633, 14813405, 15007163, 15208912,
  15413005, 15617443, 15823545, 16030749, 16238952, 16448190, 16658661, 16863167, 17076361,
  17290989, 17507277, 17723409, 17941759, 18160558, 18381343, 18594787, 18817676, 19041787,
  19266185, 19492102, 19719775, 19948120, 20176576, 20398216, 20629873, 20861875, 21094095,
  21328672, 21564012, 21799317, 22036289, 22274002, 22503902, 22743554, 22983546, 23225220,
  23467753, 23710096, 23951866, 24195984, 24431530, 24675968, 24921353, 25167298, 25414411,
  25661490, 25910210, 26159952, 26399924, 26649562, 26900061, 27152393, 27403457, 27654700,
  27907855, 28160279, 28412801, 28657908, 28912033, 29168307, 29424701, 29680473, 29936290,
  30192488, 30449542, 30696877, 30954900, 31212846, 31472517, 31730095, 31991385, 32251095,
  32511306, 32763485, 33021268, 33282953, 33543257, 33807210, 34068730, 34331573, 34593781,
  34857782, 35110601, 35371128, 35634522, 35896502, 36161289, 36426047, 36688421, 36952224,
  37207355, 37471337, 37735414, 38002060, 38268516, 38532425, 38798023, 39062885, 39320317,
  39588451, 39855177, 40120239, 40388362, 40654504, 40921117, 41189067, 41457218, 41714879,
  41979470, 42247467, 42515568, 42783481, 43050315, 43320582, 43588479, 43845471, 44112706,
  44381389, 44650197, 44918573, 45186298, 45452074, 45721325, 45979472, 46249475, 46517132,
  46787187, 47056052, 47324126, 47594968, 47863911, 48132834, 48391105, 48660033, 48930538,
  49200127, 49467877, 49736507, 50006181, 50274196, 50534465, 50802043, 51074278, 51344924,
  51613819, 51884585, 52154427, 52421170, 52678730, 52946934, 53215587, 53486406, 53755933]

/-- The mean overshoot of precision 10 at each of its measured estimates. -/
def overshoots10 : List Int := [
  7238993, 7101165, 6965061, 6830545, 6702546, 6571202, 6441636, 6313724, 6187178, 6062680,
  5939530, 5818250, 5703305, 5585129, 5468464, 5353561, 5240152, 5128457, 5018521, 4909944,
  4806894, 4701527, 4598179, 4496257, 4395534, 4296999, 4199795, 4104268, 4010091, 3920918,
  3830047, 3740508, 3652173, 3565716, 3480447, 3397148, 3315487, 3237912, 3159021, 3081648,
  3005608, 2930349, 2857033, 2784633, 2713405, 2647163, 2578912, 2513005, 2447443, 2383545,
  2320749, 2258952, 2198190, 2138661, 2083167, 2026361, 1970989, 1917277, 1863409, 1811759,
  1760558, 1711343, 1664787, 1617676, 1571787, 1526185, 1482102, 1439775, 1398120, 1356576,
  1318216, 1279873, 1241875, 1204095, 1168672, 1134012, 1099317, 1066289, 1034002, 1003902,
  973554, 943546, 915220, 887753, 860096, 831866, 805984, 781530, 755968, 731353, 707298, 684411,
  661490, 640210, 619952, 599924, 579562, 560061, 542393, 523457, 504700, 487855, 470279, 452801,
  437908, 422033, 408307, 394701, 380473, 366290, 352488, 339542, 326877, 314900, 302846, 292517,
  280095, 271385, 261095, 251306, 243485, 231268, 222953, 213257, 207210, 198730, 191573, 183781,
  177782, 170601, 161128, 154522, 146502, 141289, 136047, 128421, 122224, 117355, 111337, 105414,
  102060, 98516, 92425, 88023, 82885, 80317, 78451, 75177, 70239, 68362, 64504, 61117, 59067,
  57218, 54879, 49470, 47467, 45568, 43481, 40315, 40582, 38479, 35471, 32706, 31389, 30197,
  28573, 26298, 22074, 21325, 19472, 19475, 17132, 17187, 16052, 14126, 14968, 13911, 12834,
  11105, 10033, 10538, 10127, 7877, 6507, 6181, 4196, 4465, 2043, 4278, 4924, 3819, 4585, 4427,
  1170, -1270, -3066, -4413, -3594, -4067]

/-- Raw estimates at which sketches of precision 11 were measured. -/
def estimates11 : List Nat := [
  15025493, 15290093, 15552991, 15823900, 16098143, 16375744, 16651103, 16934836, 17222249,
  17512753, 17801418, 18098753, 18399422, 18702923, 19004100, 19314525, 19628344, 19944777,
  20259203, 20582049, 20908596, 21237893, 21564600, 21899865, 22239087, 22581760, 22927273,
  23268936, 23621455, 23975878, 24333921, 24687182, 25050750, 25417608, 25787756, 26152829,
  26528792, 26908348, 27291960, 27667845, 28054314, 28445495, 28839682, 29229463, 29627679,
  30029145, 30433403, 30832389, 31240987, 31651237, 32067528, 32484271, 32895998, 33317559,
  33743304, 34171134, 34592258, 35022533, 35455560, 35893879, 36324191, 36765666, 37209481,
  37654814, 38095329, 38546003, 38996763, 39451459, 39898483, 40356560, 40816185, 41278250,
  41733633, 42200572, 42668167, 43136681, 43607724, 44072407, 44545910, 45021339, 45497351,
  45969418, 46450737, 46935491, 47421526, 47898375, 48387726, 48875208, 49364900, 49845714,
  50338893, 50830266, 51323854, 51812455, 52308488, 52805421, 53305750, 53798359, 54299583,
  54800095, 55303521, 55809033, 56303247, 56811648, 57322936, 57828386, 58326772, 58838190,
  59350370, 59864824, 60367179, 60881670, 61396967, 61911977, 62420476, 62934785, 63451297,
  63968456, 64483433, 65005372, 65526116, 66045075, 66560147, 67083925, 67604670, 68131481,
  68656549, 69172545, 69695844, 70222888, 70749027, 71269011, 71797359, 72325172, 72852736,
  73372679, 73900333, 74430236, 74960432, 75482508, 76014766, 76542580, 77073555, 77597288,
  78128927, 78660574, 79196067, 79715277, 80246678, 80784066, 81317931, 81850933, 82371662,
  82901985, 83437927, 83974098, 84501323, 85034819, 85566457, 86103283, 86629200, 87163242,
  87697168, 88229484, 88759221, 89294309, 89827230, 90364039, 90892341, 91430224, 91963973,
  92503747, 93028794, 93563799, 94098974, 94637943, 95178678, 95709379, 96246526, 96784996,
  97317654, 97844270, 98381169, 98918301, 99458932, 99988854, 100525632, 101065831, 101601632,
  102129629, 102663944, 103198263, 103736086, 104261248, 104797464, 105330005, 105867107,
  106393367, 106934949, 107478001]

/-- The mean overshoot of precision 11 at each of its measured estimates. -/
def overshoots11 : List Int := [
  14485493, 14210093, 13942991, 13673900, 13408143, 13145744, 12891103, 12634836, 12382249,
  12132753, 11891418, 11648753, 11409422, 11172923, 10944100, 10714525, 10488344, 10264777,
  10049203, 9832049, 9618596, 9407893, 9204600, 8999865, 8799087, 8601760, 8407273, 8218936,
  8031455, 7845878, 7663921, 7487182, 7310750, 7137608, 6967756, 6802829, 6638792, 6478348,
  6321960, 6167845, 6014314, 5865495, 5719682, 5579463, 5437679, 5299145, 5163403, 5032389,
  4900987, 4771237, 4647528, 4524271, 4405998, 4287559, 4173304, 4061134, 3952258, 3842533,
  3735560, 3633879, 3534191, 3435666, 3339481, 3244814, 3155329, 3066003, 2976763, 2891459,
  2808483, 2726560, 2646185, 2568250, 2493633, 2420572, 2348167, 2276681, 2207724, 2142407,
  2075910, 2011339, 1947351, 1889418, 1830737, 1775491, 1721526, 1668375, 1617726, 1565208,
  1514900, 1465714, 1418893, 1370266, 1323854, 1282455, 1238488, 1195421, 1155750, 1118359,
  1079583, 1040095, 1003521, 969033, 933247, 901648, 872936, 838386, 806772, 778190, 750370,
  724824, 697179, 671670, 646967, 621977, 600476, 574785, 551297, 528456, 513433, 495372, 476116,
  455075, 440147, 423925, 404670, 391481, 376549, 362545, 345844, 332888, 319027, 309011, 297359,
  285172, 272736, 262679, 250333, 240236, 230432, 222508, 214766, 202580, 193555, 187288, 178927,
  170574, 166067, 155277, 146678, 144066, 137931, 130933, 121662, 111985, 107927, 104098, 101323,
  94819, 86457, 83283, 79200, 73242, 67168, 59484, 59221, 54309, 47230, 44039, 42341, 40224,
  33973, 33747, 28794, 23799, 18974, 17943, 18678, 19379, 16526, 14996, 7654, 4270, 1169, -1699,
  -1068, -1146, -4368, -4169, -8368, -10371, -16056, -21737, -23914, -28752, -32536, -39995,
  -42893, -46633, -45051, -41999]

/-- Raw estimates at which sketches of precision 12 were measured. -/
def estimates12 : List Nat := [
  30059502, 30583128, 31118888, 31655889, 32204939, 32754315, 33315723, 33877846, 34452008,
  35027342, 35615177, 36203610, 36805398, 37406752, 38019652, 38634443, 39260855, 39888549,
  40527807, 41169331, 41822028, 42474814, 43139597, 43806171, 44484274, 45169586, 45853778,
  46550758, 47249056, 47958890, 48666656, 49389270, 50110318, 50843138, 51575160, 52319140,
  53063733, 53822760, 54577924, 55345845, 56111424, 56892349, 57669905, 58460460, 59251639,
  60055883, 60854583, 61669084, 62481070, 63304829, 64137640, 64966351, 65804636, 66639091,
  67488754, 68332833, 69192097, 70047335, 70913995, 71779485, 72656513, 73529051, 74419107,
  75300328, 76192669, 77083893, 77987227, 78886230, 79800068, 80705412, 81623591, 82539406,
  83468379, 84389137, 85331040, 86267496, 87196765, 88141652, 89082515, 90035857, 90984152,
  91940289, 92895198, 93859735, 94819696, 95788533, 96751502, 97728910, 98700115, 99681901,
  100653262, 101649136, 102635433, 103626649, 104615264, 105616568, 106606853, 107610610,
  108600379, 109610630, 110624647, 111625116, 112642090, 113645184, 114662826, 115668951,
  116687570, 117703925, 118723563, 119744720, 120778823, 121794297, 122819413, 123848288,
  124880230, 125911983, 126950098, 127974622, 129014811, 130047802, 131091093, 132118719,
  133164615, 134200645, 135251497, 136294023, 137341009, 138386453, 139428735, 140479963,
  141516719, 142577513, 143620506, 144674320, 145721631, 146783744, 147827891, 148889349,
  149942678, 151000253, 152051644, 153109976, 154162090, 155225991, 156273270, 157333621,
  158391394, 159458747, 160512572, 161579476, 162644263, 163697888, 164758827, 165819942,
  166891307, 167944875, 169019186, 170085872, 171155058, 172220509, 173295491, 174348240,
  175416147, 176487386, 177557723, 178618955, 179685114, 180744910, 181813519, 182884281,
  183965496, 185034038, 186119061, 187187439, 188265134, 189339040, 190413664, 191487427,
  192551716, 193631707, 194692359, 195773501, 196839892, 197926207, 198990550, 200059699,
  201128623, 202198443, 203262739, 204332886, 205403199, 206476313, 207542945, 208615188,
  209687206, 210770634, 211841540, 212918373, 213990726, 215065875]

/-- The mean overshoot of precision 12 at each of its measured estimates. -/
def overshoots12 : List Int := [
  28979502, 28433128, 27888888, 27355889, 26824939, 26304315, 25785723, 25277846, 24772008,
  24277342, 23785177, 23303610, 22825398, 22356752, 21889652, 21434443, 20980855, 20538549,
  20097807, 19669331, 19242028, 18824814, 18409597, 18006171, 17604274, 17209586, 16823778,
  16440758, 16069056, 15698890, 15336656, 14979270, 14630318, 14283138, 13945160, 13609140,
  13283733, 12962760, 12647924, 12335845, 12031424, 11732349, 11439905, 11150460, 10871639,
  10595883, 10324583, 10059084, 9801070, 9544829, 9297640, 9056351, 8814636, 8579091, 8348754,
  8122833, 7902097, 7687335, 7473995, 7269485, 7066513, 6869051, 6679107, 6490328, 6302669,
  6123893, 5947227, 5776230, 5610068, 5445412, 5283591, 5129406, 4978379, 4829137, 4691040,
  4547496, 4406765, 4271652, 4142515, 4015857, 3894152, 3770289, 3655198, 3539735, 3429696,
  3318533, 3211502, 3108910, 3010115, 2911901, 2813262, 2729136, 2645433, 2556649, 2475264,
  2396568, 2316853, 2240610, 2160379, 2090630, 2024647, 1955116, 1892090, 1825184, 1762826,
  1698951, 1637570, 1583925, 1523563, 1474720, 1428823, 1374297, 1319413, 1278288, 1230230,
  1191983, 1150098, 1104622, 1064811, 1027802, 991093, 948719, 914615, 880645, 851497, 814023,
  791009, 756453, 728735, 699963, 666719, 647513, 620506, 594320, 571631, 553744, 527891, 509349,
  492678, 470253, 451644, 429976, 412090, 395991, 373270, 353621, 341394, 328747, 312572, 299476,
  284263, 267888, 248827, 239942, 231307, 214875, 209186, 205872, 195058, 190509, 185491, 168240,
  156147, 157386, 147723, 138955, 125114, 114910, 103519, 104281, 105496, 104038, 109061, 107439,
  105134, 99040, 103664, 97427, 91716, 91707, 82359, 83501, 79892, 86207, 80550, 69699, 68623,
  58443, 52739, 42886, 43199, 36313, 32945, 25188, 27206, 30634, 31540, 28373, 30726, 25875]

/-- Raw estimates at which sketches of precision 13 were measured. -/
def estimates13 : List Nat := [
  60121356, 61175352, 62241223, 63320916, 64412644, 65518014, 66636522, 67768026, 68911083,
  70069056, 71238610, 72424429, 73627016, 74834438, 76056631, 77292783, 78541271, 79802761,
  81076994, 82362864, 83662922, 84974426, 86297692, 87637045, 88985120, 90347118, 91722264,
  93108420, 94509543, 95919709, 97343595, 98780853, 100227891, 101690487, 103159562, 104642464,
  106133216, 107649124, 109168881, 110698042, 112241295, 113796687, 115358545, 116925304,
  118513988, 120111956, 121718306, 123340674, 124971444, 126614141, 128263402, 129926631,
  131596343, 133284322, 134976066, 136672568, 138382047, 140105354, 141835419, 143576319,
  145321278, 147085920, 148865303, 150641878, 152429688, 154212630, 156011478, 157815909,
  159631474, 161460451, 163291410, 165124514, 166973643, 168823589, 170684892, 172551527,
  174425100, 176304225, 178191692, 180084784, 181987520, 183892802, 185803798, 187729083,
  189647602, 191579170, 193519977, 195468652, 197416983, 199368811, 201329155, 203299642,
  205267377, 207240927, 209222401, 211210298, 213196350, 215191636, 217194021, 219192505,
  221210973, 223218109, 225233340, 227257171, 229272773, 231309485, 233340998, 235368415,
  237400075, 239445852, 241498556, 243553045, 245617641, 247675282, 249719860, 251770992,
  253834716, 255899770, 257972499, 260039832, 262120492, 264203129, 266280869, 268371061,
  270456847, 272531914, 274604298, 276695278, 278792927, 280895296, 282983578, 285081810,
  287183312, 289296853, 291391554, 293491769, 295616062, 297718464, 299827219, 301926985,
  304033378, 306137688, 308245520, 310345919, 312466198, 314591113, 316725913, 318842294,
  320977173, 323115021, 325234024, 327359149, 329470695, 331596034, 333724120, 335833352,
  337965727, 340083919, 342215879, 344337639, 346454136, 348598392, 350742420, 352878232,
  355014470, 357142108, 359257826, 361401710, 363537545, 365650907, 367803987, 369959107,
  372103400, 374256033, 376395243, 378525079, 380671504, 382814814, 384968407, 387126756,
  389259832, 391409341, 393552899, 395695440, 397851344, 399982824, 402150330, 404293866,
  406446431, 408602925, 410754302, 412905295, 415044921, 417196418, 419335423, 421449503,
  423591609, 425746872, 427886696, 430041553]

/-- The mean overshoot of precision 13 at each of its measured estimates. -/
def overshoots13 : List Int := [
  57971356, 56875352, 55791223, 54720916, 53662644, 52618014, 51586522, 50568026, 49561083,
  48569056, 47588610, 46624429, 45667016, 44724438, 43796631, 42882783, 41981271, 41092761,
  40216994, 39352864, 38502922, 37664426, 36837692, 36027045, 35225120, 34437118, 33662264,
  32898420, 32149543, 31409709, 30683595, 29970853, 29267891, 28580487, 27899562, 27232464,
  26573216, 25929124, 25298881, 24678042, 24071295, 23476687, 22888545, 22305304, 21743988,
  21191956, 20648306, 20120674, 19601444, 19094141, 18593402, 18106631, 17626343, 17164322,
  16706066, 16252568, 15812047, 15385354, 14965419, 14556319, 14151278, 13765920, 13385303,
  13011878, 12649688, 12282630, 11931478, 11585909, 11251474, 10930451, 10611410, 10294514,
  9993643, 9693589, 9404892, 9121527, 8845100, 8574225, 8311692, 8054784, 7807520, 7562802,
  7323798, 7099083, 6867602, 6649170, 6439977, 6228652, 6026983, 5828811, 5639155, 5459642,
  5277377, 5100927, 4932401, 4770298, 4606350, 4451636, 4304021, 4152505, 4020973, 3878109,
  3743340, 3617171, 3482773, 3369485, 3250998, 3128415, 3010075, 2905852, 2808556, 2713045,
  2617641, 2525282, 2419860, 2320992, 2234716, 2149770, 2072499, 1989832, 1920492, 1853129,
  1780869, 1721061, 1656847, 1581914, 1504298, 1445278, 1392927, 1345296, 1283578, 1231810,
  1183312, 1146853, 1091554, 1041769, 1016062, 958464, 917219, 866985, 823378, 777688, 735520,
  685919, 656198, 631113, 615913, 582294, 567173, 555021, 524024, 499149, 460695, 436034, 414120,
  373352, 355727, 323919, 305879, 277639, 244136, 238392, 222420, 208232, 194470, 172108, 137826,
  131710, 117545, 80907, 83987, 89107, 83400, 86033, 75243, 55079, 51504, 44814, 48407, 56756,
  39832, 39341, 32899, 25440, 31344, 12824, 30330, 13866, 16431, 22925, 24302, 25295, 14921,
  16418, 5423, -30497, -38391, -33128, -43304, -38447]

/-- Raw estimates at which sketches of precision 14 were measured. -/
def estimates14 : List Nat := [
  120250769, 122358274, 124489343, 126649160, 128833176, 131044226, 133284748, 135546477,
  137835657, 140150580, 142490642, 144856804, 147250435, 149669781, 152113660, 154584655,
  157077941, 159602460, 162161907, 164739754, 167337713, 169962164, 172615783, 175289918,
  177991920, 180715656, 183467662, 186239918, 189036018, 191859683, 194710071, 197592049,
  200490769, 203406297, 206354732, 209328279, 212327449, 215360111, 218407128, 221477522,
  224563610, 227670640, 230792859, 233948917, 237128318, 240322431, 243543154, 246781002,
  250032330, 253305482, 256611743, 259928540, 263274865, 266643039, 270025393, 273423476,
  276848538, 280292106, 283730536, 287199642, 290693782, 294213127, 297750930, 301281735,
  304837685, 308412915, 312016470, 315639634, 319272425, 322923950, 326578974, 330247869,
  333942870, 337648172, 341368257, 345098643, 348825565, 352577633, 356356421, 360150261,
  363942881, 367771825, 371596280, 375421347, 379295982, 383158204, 387033658, 390923235,
  394822933, 398730635, 402665353, 406587705, 410530061, 414492154, 418445425, 422426316,
  426380576, 430383953, 434361730, 438383965, 442417598, 446432606, 450471599, 454489132,
  458531541, 462594207, 466666792, 470765957, 474844131, 478925564, 483027615, 487131737,
  491229752, 495344768, 499444674, 503552870, 507686344, 511839351, 515969842, 520100987,
  524232792, 528384821, 532531423, 536684035, 540830792, 545011108, 549200836, 553361092,
  557500538, 561695262, 565875181, 570082085, 574284028, 578513761, 582698929, 586904683,
  591124956, 595340191, 599557495, 603754433, 608009263, 612237349, 616469916, 620720679,
  624964829, 629173145, 633398492, 637651859, 641896432, 646142904, 650387159, 654658561,
  658947056, 663201185, 667435349, 671709461, 675962770, 680233910, 684490766, 688728903,
  693007116, 697266964, 701489158, 705750842, 710017456, 714292167, 718546532, 722781402,
  727057177, 731338874, 735642388, 739955670, 744229303, 748511080, 752796336, 757068995,
  761344487, 765639906, 769917669, 774189341, 778451350, 782732034, 786993267, 791304585,
  795612582, 799880503, 804168824, 808491708, 812771037, 817062814, 821360943, 825654891,
  829917635, 834196451, 838482643, 842780744, 847072234, 851371795, 855647817, 859899454]

/-- The mean overshoot of precision 14 at each of its measured estimates. -/
def overshoots14 : List Int := [
  115950769, 113758274, 111589343, 109449160, 107333176, 105244226, 103174748, 101136477,
  99125657, 97140580, 95180642, 93246804, 91340435, 89459781, 87603660, 85774655, 83967941,
  82192460, 80441907, 78719754, 77017713, 75342164, 73695783, 72069918, 70471920, 68895656,
  67347662, 65819918, 64316018, 62839683, 61390071, 59962049, 58560769, 57176297, 55824732,
  54498279, 53197449, 51930111, 50677128, 49447522, 48233610, 47040640, 45862859, 44708917,
  43588318, 42482431, 41403154, 40341002, 39292330, 38265482, 37271743, 36288540, 35334865,
  34403039, 33485393, 32583476, 31698538, 30842106, 29980536, 29149642, 28343782, 27563127,
  26800930, 26031735, 25287685, 24562915, 23866470, 23189634, 22512425, 21863950, 21218974,
  20587869, 19982870, 19388172, 18808257, 18238643, 17665565, 17117633, 16596421, 16090261,
  15582881, 15101825, 14626280, 14151347, 13725982, 13288204, 12863658, 12453235, 12052933,
  11660635, 11295353, 10917705, 10560061, 10212154, 9865425, 9546316, 9200576, 8903953, 8581730,
  8303965, 8037598, 7752606, 7491599, 7209132, 6951541, 6714207, 6476792, 6275957, 6054131,
  5835564, 5637615, 5441737, 5239752, 5054768, 4854674, 4662870, 4496344, 4349351, 4169842,
  4000987, 3832792, 3684821, 3531423, 3384035, 3230792, 3111108, 3000836, 2861092, 2700538,
  2595262, 2475181, 2372085, 2274028, 2203761, 2088929, 1994683, 1914956, 1830191, 1747495,
  1644433, 1599263, 1527349, 1459916, 1400679, 1344829, 1253145, 1178492, 1131859, 1076432,
  1022904, 967159, 938561, 927056, 881185, 815349, 789461, 732770, 703910, 660766, 598903, 577116,
  536964, 459158, 420842, 387456, 362167, 316532, 251402, 217177, 198874, 202388, 215670, 189303,
  171080, 156336, 128995, 104487, 99906, 77669, 49341, 11350, -17966, -56733, -45415, -37418,
  -69497, -81176, -58292, -78963, -87186, -89057, -95109, -132365, -163549, -177357, -179256,
  -187766, -188205, -212183, -260546]

/-- Raw estimates at which sketches of precision 15 were measured. -/
def estimates15 : List Nat := [
  240509637, 244721755, 248991817, 253313436, 257681186, 262105973, 266576128, 271103978,
  275684416, 280317369, 285003363, 289737077, 294518914, 299362521, 304252652, 309200407,
  314196864, 319240686, 324340758, 329485217, 334675959, 339937795, 345242325, 350602360,
  356003824, 361462396, 366977202, 372536276, 378138081, 383788007, 389478717, 395231328,
  401032865, 406880742, 412795096, 418737198, 424718226, 430749661, 436836587, 442960778,
  449148533, 455372472, 461657982, 467972200, 474310327, 480690066, 487114374, 493571648,
  500082411, 506626116, 513238214, 519893217, 526544069, 533290216, 540047468, 546873738,
  553705658, 560587413, 567508284, 574454013, 581452352, 588486975, 595523448, 602627611,
  609777526, 616959713, 624165122, 631390909, 638636435, 645933080, 653236567, 660597328,
  667967868, 675400559, 682828075, 690288861, 697783847, 705325197, 712876958, 720474770,
  728079570, 735709428, 743385107, 751088034, 758850361, 766582002, 774323192, 782115956,
  789904052, 797725486, 805550549, 813428137, 821308326, 829224605, 837146225, 845052587,
  853016448, 860980788, 868943365, 876971440, 884993629, 893043665, 901091353, 909212113,
  917342246, 925468277, 933551814, 941699488, 949837015, 958026329, 966230559, 974439750,
  982646496, 990848180, 999063430, 1007334745, 1015559853, 1023827167, 1032131090, 1040392878,
  1048677776, 1056982922, 1065289058, 1073631685, 1081982522, 1090347124, 1098666283, 1107018112,
  1115373152, 1123763940, 1132088206, 1140529382, 1148960112, 1157429718, 1165846434, 1174218862,
  1182658331, 1191009914, 1199454390, 1207934827, 1216373395, 1224832996, 1233306927, 1241789040,
  1250263923, 1258763449, 1267254542, 1275724921, 1284173595, 1292639175, 1301135271, 1309669135,
  1318193640, 1326731999, 1335243413, 1343732024, 1352291033, 1360825989, 1369401797, 1377946817,
  1386531883, 1395040328, 1403600009, 1412161351, 1420663281, 1429215076, 1437783761, 1446340300,
  1454890803, 1463491588, 1471960148, 1480528457, 1489130739, 1497676763, 1506308083, 1514835445,
  1523406806, 1531957257, 1540586734, 1549180858, 1557756773, 1566338778, 1574968411, 1583529741,
  1592142083, 1600693574, 1609228514, 1617777153, 1626320172, 1634829462, 1643424359, 1652070934,
  1660638382, 1669258582, 1677816315, 1686342934, 1694975652, 1703529833, 1712099980, 1720702185]

/-- The mean overshoot of precision 15 at each of its measured estimates. -/
def overshoots15 : List Int := [
  231909637, 227521755, 223191817, 218903436, 214671186, 210495973, 206366128, 202293978,
  198274416, 194297369, 190383363, 186517077, 182698914, 178942521, 175232652, 171570407,
  167966864, 164410686, 160910758, 157455217, 154045959, 150697795, 147402325, 144162360,
  140963824, 137822396, 134737202, 131696276, 128688081, 125738007, 122828717, 119981328,
  117182865, 114430742, 111735096, 109077198, 106458226, 103889661, 101376587, 98900778, 96478533,
  94102472, 91787982, 89502200, 87240327, 85020066, 82834374, 80691648, 78602411, 76546116,
  74558214, 72613217, 70664069, 68800216, 66957468, 65183738, 63415658, 61697413, 60018284,
  58354013, 56752352, 55186975, 53623448, 52127611, 50677526, 49249713, 47855122, 46480909,
  45126435, 43823080, 42526567, 41277328, 40047868, 38880559, 37708075, 36568861, 35463847,
  34405197, 33346958, 32344770, 31349570, 30379428, 29455107, 28558034, 27710361, 26842002,
  25983192, 25175956, 24364052, 23585486, 22800549, 22078137, 21358326, 20674605, 19996225,
  19302587, 18656448, 18020788, 17383365, 16811440, 16233629, 15683665, 15131353, 14642113,
  14172246, 13698277, 13181814, 12729488, 12267015, 11846329, 11450559, 11059750, 10666496,
  10268180, 9883430, 9544745, 9169853, 8837167, 8541090, 8202878, 7887776, 7582922, 7289058,
  7031685, 6782522, 6547124, 6266283, 6018112, 5763152, 5553940, 5278206, 5119382, 4950112,
  4819718, 4626434, 4398862, 4238331, 3989914, 3834390, 3714827, 3543395, 3402996, 3276927,
  3159040, 3033923, 2933449, 2814542, 2684921, 2533595, 2399175, 2295271, 2229135, 2153640,
  2081999, 1993413, 1882024, 1841033, 1775989, 1751797, 1686817, 1671883, 1580328, 1540009,
  1501351, 1403281, 1345076, 1313761, 1270300, 1220803, 1221588, 1090148, 1048457, 1050739,
  996763, 1028083, 955445, 926806, 877257, 896734, 890858, 866773, 848778, 878411, 839741, 842083,
  793574, 728514, 677153, 620172, 529462, 514359, 560934, 528382, 548582, 506315, 432934, 455652,
  409833, 379980, 382185]

/-- Raw estimates at which sketches of precision 16 were measured. -/
def estimates16 : List Nat := [
  481027465, 489454601, 497980321, 506617285, 515357142, 524201722, 533155111, 542209211,
  551373713, 560615555, 569995528, 579478742, 589052691, 598733127, 608531817, 618404000,
  628379049, 638455973, 648651588, 658943439, 669343761, 679832724, 690442905, 701140741,
  711957175, 722865519, 733866948, 744976000, 756185829, 767474810, 778866561, 790356241,
  801918119, 813614560, 825422540, 837297899, 849255304, 861343943, 873492371, 885744435,
  898102236, 910522678, 923065122, 935664188, 948364419, 961178853, 974017244, 987000207,
  1000078684, 1013182008, 1026385783, 1039656007, 1053062884, 1066523723, 1080017315, 1093587073,
  1107316355, 1121064328, 1134881320, 1148804873, 1162797945, 1176827243, 1190936358, 1205157767,
  1219427824, 1233658685, 1248070800, 1262528316, 1277028007, 1291634174, 1306271963, 1320957006,
  1335760451, 1350613604, 1365487971, 1380448829, 1395490880, 1410603493, 1425666297, 1440842151,
  1456108878, 1471396981, 1486686416, 1502032399, 1517439302, 1532977043, 1548469016, 1564010007,
  1579633451, 1595233833, 1610916361, 1626651958, 1642435579, 1658236198, 1674107753, 1690031740,
  1705926764, 1721844559, 1737932305, 1753957158, 1770020091, 1786019744, 1802185187, 1818375729,
  1834541258, 1850716673, 1867082813, 1883364530, 1899664464, 1916009705, 1932419350, 1948829823,
  1965213807, 1981517816, 1998024298, 2014504084, 2031001369, 2047518110, 2064067167, 2080642572,
  2097320419, 2114023184, 2130680555, 2147294037, 2163963099, 2180661528, 2197278144, 2213943209,
  2230661024, 2247492515, 2264188701, 2280952076, 2297746792, 2314609884, 2331398640, 2348214998,
  2365146364, 2382030781, 2398907780, 2415871117, 2432726458, 2449640765, 2466539525, 2483461386,
  2500515937, 2517376429, 2534278246, 2551341321, 2568459589, 2585448134, 2602505285, 2619504899,
  2636477491, 2653449859, 2670461389, 2687467678, 2704534751, 2721607396, 2738778122, 2755899367,
  2773010208, 2790083535, 2807123236, 2824227487, 2841378035, 2858537659, 2875536557, 2892728346,
  2909863117, 2927017330, 2944234633, 2961409702, 2978540051, 2995682655, 3012988508, 3030027484,
  3047205584, 3064206703, 3081193780, 3098277210, 3115287558, 3132484625, 3149684055, 3166926672,
  3184029353, 3201045546, 3218274002, 3235398034, 3252536902, 3269743895, 3286950352, 3304243704,
  3321376580, 3338419568, 3355500073, 3372624057, 3389772172, 3406993920, 3424172182, 3441203773]

/-- The mean overshoot of precision 16 at each of its measured estimates. -/
def overshoots16 : List Int := [
  463827465, 455044601, 446370321, 437807285, 429337142, 420981722, 412735111, 404579211,
  396543713, 388585555, 380755528, 373038742, 365412691, 357893127, 350481817, 343154000,
  335929049, 328795973, 321791588, 314883439, 308073761, 301362724, 294772905, 288260741,
  281877175, 275585519, 269376948, 263286000, 257295829, 251374810, 245566561, 239856241,
  234208119, 228704560, 223312540, 217977899, 212735304, 207623943, 202572371, 197614435,
  192772236, 187992678, 183325122, 178724188, 174224419, 169828853, 165467244, 161250207,
  157118684, 153022008, 149025783, 145086007, 141292884, 137553723, 133837315, 130207073,
  126736355, 123274328, 119891320, 116614873, 113397945, 110227243, 107136358, 104157767,
  101217824, 98248685, 95460800, 92708316, 90008007, 87414174, 84841963, 82327006, 79930451,
  77573604, 75247971, 73008829, 70840880, 68753493, 66616297, 64582151, 62648878, 60736981,
  58816416, 56962399, 55169302, 53497043, 51789016, 50130007, 48553451, 46943833, 45426361,
  43961958, 42535579, 41136198, 39807753, 38521740, 37216764, 35934559, 34812305, 33637158,
  32500091, 31289744, 30255187, 29245729, 28201258, 27176673, 26342813, 25414530, 24514464,
  23659705, 22859350, 22069823, 21253807, 20357816, 19654298, 18934084, 18231369, 17538110,
  16887167, 16262572, 15730419, 15233184, 14690555, 14094037, 13563099, 13061528, 12468144,
  11933209, 11451024, 11072515, 10568701, 10132076, 9716792, 9379884, 8968640, 8574998, 8306364,
  7990781, 7667780, 7421117, 7076458, 6790765, 6479525, 6201386, 6055937, 5706429, 5408246,
  5271321, 5179589, 4968134, 4825285, 4614899, 4387491, 4159859, 3961389, 3767678, 3634751,
  3497396, 3468122, 3389367, 3290208, 3163535, 3003236, 2907487, 2848035, 2807659, 2606557,
  2588346, 2523117, 2477330, 2484633, 2459702, 2390051, 2322655, 2428508, 2267484, 2235584,
  2036703, 1823780, 1697210, 1507558, 1504625, 1494055, 1536672, 1439353, 1245546, 1274002,
  1198034, 1136902, 1133895, 1140352, 1233704, 1156580, 999568, 880073, 794057, 742172, 763920,
  732182, 563773]

/-- Raw estimates at which sketches of precision 17 were measured. -/
def estimates17 : List Nat := [
  962073245, 978935108, 995992071, 1013247238, 1030729397, 1048434020, 1066303968, 1084403623,
  1102720716, 1121257643, 1139985915, 1158938420, 1178096586, 1197461017, 1217023483, 1236805128,
  1256831732, 1277009743, 1297423639, 1317973134, 1338755001, 1359726950, 1380957490, 1402342037,
  1423996876, 1445804876, 1467779738, 1490029976, 1512467182, 1535097474, 1557938874, 1580946575,
  1604154561, 1627543800, 1651112569, 1674918785, 1698909952, 1723045417, 1747381261, 1771838467,
  1796482531, 1821373516, 1846403967, 1871612772, 1897055623, 1922646278, 1948369290, 1974208678,
  2000377754, 2026603996, 2053067340, 2079564660, 2106399931, 2133261833, 2160201576, 2187424739,
  2214779425, 2242168839, 2269796572, 2297556868, 2325564958, 2353617933, 2381769244, 2410040690,
  2438647970, 2467268838, 2496032273, 2525025699, 2554069644, 2583176814, 2612379393, 2641829993,
  2671381403, 2700975034, 2730773130, 2760731342, 2790658745, 2820688359, 2851023611, 2881335164,
  2911681842, 2942295944, 2972944096, 3003667278, 3034510177, 3065439377, 3096613067, 3127761820,
  3159040353, 3190395586, 3221755967, 3253339016, 3284842621, 3316542329, 3348256109, 3380174119,
  3412113743, 3443973936, 3476069865, 3508031508, 3540237895, 3572333487, 3604475064, 3636877631,
  3669180403, 3701630808, 3734317613, 3766885886, 3799625065, 3832380072, 3864941040, 3897711333,
  3930544870, 3963456563, 3996427037, 4029584465, 4062643079, 4095997111, 4129305077, 4162529148,
  4195832551, 4228746643, 4261969469, 4295370156, 4328482613, 4361839520, 4395377819, 4428889436,
  4462238399, 4495888015, 4529464720, 4563037955, 4596725052, 4630570000, 4664281721, 4697878177,
  4731534542, 4765408988, 4799170681, 4832804141, 4866601904, 4900638400, 4934457462, 4968372606,
  5002134006, 5036023302, 5069993797, 5103957135, 5137790978, 5171866034, 5205723401, 5239763028,
  5273718665, 5307616679, 5341511337, 5375404327, 5409607582, 5443839149, 5477693649, 5511557662,
  5545949268, 5580173944, 5614292245, 5648204875, 5682532385, 5716919391, 5751107805, 5785540028,
  5819503201, 5853631314, 5887684565, 5922017108, 5956204996, 5990398117, 6024846548, 6059066527,
  6092965402, 6127192355, 6161452212, 6195488209, 6229879688, 6264277979, 6298546476, 6332834499,
  6367015061, 6401205353, 6435233119, 6469693760, 6504149127, 6538576835, 6573074599, 6607277282,
  6641601581, 6675777741, 6710157697, 6744459994, 6778895135, 6813197504, 6847499638, 6881762702]

/-- The mean overshoot of precision 17 at each of its measured estimates. -/
def overshoots17 : List Int := [
  927663245, 910125108, 892772071, 875617238, 858699397, 841994020, 825463968, 809153623,
  793060716, 777197643, 761515915, 746058420, 730816586, 715771017, 700923483, 686305128,
  671921732, 657689743, 643703639, 629843134, 616225001, 602786950, 589607490, 576592037,
  563836876, 551234876, 538809738, 526649976, 514677182, 502907474, 491338874, 479946575,
  468744561, 457723800, 446892569, 436288785, 425869952, 415605417, 405531261, 395578467,
  385822531, 376303516, 366923967, 357732772, 348765623, 339956278, 331269290, 322698678,
  314467754, 306283996, 298337340, 290434660, 282859931, 275311833, 267851576, 260664739,
  253619425, 246598839, 239816572, 233176868, 226774958, 220417933, 214169244, 208030690,
  202227970, 196448838, 190802273, 185385699, 180029644, 174726814, 169529393, 164569993,
  159711403, 154905034, 150293130, 145841342, 141368745, 136988359, 132913611, 128825164,
  124761842, 120975944, 117214096, 113527278, 109970177, 106489377, 103253067, 100001820,
  96870353, 93815586, 90775967, 87949016, 85042621, 82342329, 79646109, 77164119, 74693743,
  72143936, 69839865, 67391508, 65187895, 62883487, 60615064, 58607631, 56510403, 54550808,
  52837613, 50995886, 49325065, 47680072, 45831040, 44191333, 42624870, 41126563, 39687037,
  38444465, 37093079, 36037111, 34945077, 33759148, 32662551, 31166643, 29979469, 28980156,
  27682613, 26629520, 25767819, 24869436, 23808399, 23058015, 22224720, 21397955, 20675052,
  20110000, 19421721, 18608177, 17854542, 17328988, 16680681, 15904141, 15301904, 14928400,
  14337462, 13852606, 13204006, 12693302, 12253797, 11807135, 11240978, 10906034, 10353401,
  9993028, 9538665, 9026679, 8521337, 8004327, 7807582, 7629149, 7073649, 6537662, 6519268,
  6333944, 6052245, 5554875, 5472385, 5459391, 5237805, 5260028, 4823201, 4541314, 4194565,
  4117108, 3894996, 3688117, 3726548, 3536527, 3035402, 2852355, 2702212, 2338209, 2319688,
  2317979, 2176476, 2054499, 1835061, 1615353, 1233119, 1293760, 1339127, 1356835, 1454599,
  1247282, 1161581, 937741, 907697, 809994, 835135, 727504, 629638, 482702]

/-- Raw estimates at which sketches of precision 18 were measured. -/
def estimates18 : List Nat := [
  1924099771, 1957847269, 1991968341, 2026495800, 2061456461, 2096834222, 2132615622, 2168834166,
  2205455836, 2242503434, 2280024687, 2317875966, 2356189809, 2394923961, 2434052025, 2473588862,
  2513615660, 2554006948, 2594665244, 2635877803, 2677485553, 2719451349, 2761842276, 2804727396,
  2848031868, 2891671850, 2935735542, 2979985900, 3024806381, 3069996976, 3115596412, 3161587937,
  3207975116, 3254775084, 3301862758, 3349434129, 3397324700, 3445493013, 3494112724, 3543243722,
  3592679568, 3642583131, 3692687398, 3743082692, 3793859576, 3845023644, 3896607661, 3948534980,
  4000672700, 4053321826, 4106229247, 4159347996, 4212755230, 4266366305, 4320511343, 4375072641,
  4429784480, 4484821346, 4540255379, 4595607555, 4651520944, 4707847942, 4764332669, 4821333277,
  4878339203, 4935484891, 4992845400, 5050527501, 5108803106, 5167231855, 5225830948, 5284821332,
  5343936098, 5403243102, 5463087821, 5522942497, 5583035191, 5643541948, 5704226799, 5764953267,
  5825888540, 5886737269, 5948284000, 6010084534, 6071460411, 6133378152, 6195708457, 6257919798,
  6320035746, 6382462959, 6445105555, 6507826041, 6571204306, 6634385043, 6697906820, 6761386077,
  6825215204, 6889054345, 6953011800, 7017254664, 7081218603, 7146037906, 7210518510, 7275162312,
  7340076498, 7404563852, 7469619373, 7535073894, 7600753158, 7665937761, 7731320611, 7796782765,
  7862462487, 7928196796, 7994261584, 8060177710, 8126051130, 8191990437, 8257871249, 8324438660,
  8390555010, 8457055691, 8523392949, 8589967968, 8656212541, 8722699304, 8789140114, 8855898148,
  8923366690, 8990313074, 9057564235, 9124604572, 9191564947, 9259046964, 9326175713, 9393741502,
  9461543607, 9528781140, 9596135596, 9663624212, 9731008253, 9798547629, 9866022369, 9933867960,
  10001957288, 10069605061, 10137335952, 10205734447, 10273468938, 10341456154, 10408966338,
  10476341066, 10544193715, 10612363931, 10680406004, 10748471893, 10816335400, 10884493237,
  10952975919, 11021466387, 11089656523, 11158465090, 11226707646, 11294632706, 11362463150,
  11430685279, 11499001543, 11567303485, 11635569188, 11703975696, 11772461441, 11840436541,
  11908771497, 11977053415, 12045431546, 12113944085, 12182183070, 12250373583, 12319231340,
  12388030369, 12456741134, 12525194247, 12593646894, 12662113626, 12730538652, 12799146653,
  12867667014, 12936091738, 13005138204, 13073689428, 13141935600, 13210210548, 13279183219,
  13347650700, 13416074642, 13485185209, 13553759809, 13622347435, 13691219023, 13759461613]

/-- The mean overshoot of precision 18 at each of its measured estimates. -/
def overshoots18 : List Int := [
  1855289771, 1820217269, 1785528341, 1751245800, 1717396461, 1683954222, 1650925622, 1618334166,
  1586135836, 1554373434, 1523084687, 1492125966, 1461619809, 1431543961, 1401862025, 1372588862,
  1343795660, 1315376948, 1287225244, 1259617803, 1232415553, 1205571349, 1179152276, 1153217396,
  1127711868, 1102541850, 1077785542, 1053225900, 1029236381, 1005616976, 982396412, 959577937,
  937155116, 915135084, 893412758, 872174129, 851254700, 830603013, 810412724, 790733722,
  771359568, 752443131, 733737398, 715322692, 697279576, 679633644, 662407661, 645524980,
  628842700, 612681826, 596779247, 581077996, 565675230, 550476305, 535811343, 521552641,
  507454480, 493681346, 480295379, 466837555, 453940944, 441457942, 429122669, 417313277,
  405509203, 393844891, 382385400, 371257501, 360723106, 350331855, 340120948, 330301332,
  320606098, 311093102, 302127821, 293172497, 284445191, 276141948, 268016799, 259933267,
  252048540, 244087269, 236824000, 229804534, 222370411, 215478152, 208998457, 202389798,
  195695746, 189312959, 183145555, 177046041, 171614306, 165985043, 160686820, 155356077,
  150375204, 145404345, 140541800, 135974664, 131128603, 127127906, 122798510, 118632312,
  114736498, 110403852, 106649373, 103293894, 100153158, 96527761, 93100611, 89752765, 86612487,
  83536796, 80791584, 77897710, 74951130, 72080437, 69151249, 66898660, 64205010, 61895691,
  59422949, 57177968, 54612541, 52289304, 49910114, 47858148, 46516690, 44653074, 43084235,
  41314572, 39464947, 38126964, 36445713, 35201502, 34193607, 32611140, 31155596, 29834212,
  28408253, 27127629, 25792369, 24827960, 24097288, 22935061, 21855952, 21444447, 20358938,
  19536154, 18236338, 16791066, 15833715, 15193931, 14426004, 13671893, 12725400, 12073237,
  11735919, 11416387, 10796523, 10795090, 10217646, 9332706, 8353150, 7765279, 7261543, 6753485,
  6209188, 5795696, 5471441, 4636541, 4161497, 3623415, 3191546, 2894085, 2313070, 1693583,
  1741340, 1730369, 1621134, 1264247, 906894, 553626, 168652, -33347, -322986, -718262, -481796,
  -740572, -1304400, -1849452, -1686781, -2029300, -2425358, -2124791, -2360191, -2582565,
  -2530977, -3098387]

/-- The measured estimates for a precision, ascending. -/
def estimates (precision : Precision) : List Nat :=
  match precision.bits with
  | 4 => estimates4
  | 5 => estimates5
  | 6 => estimates6
  | 7 => estimates7
  | 8 => estimates8
  | 9 => estimates9
  | 10 => estimates10
  | 11 => estimates11
  | 12 => estimates12
  | 13 => estimates13
  | 14 => estimates14
  | 15 => estimates15
  | 16 => estimates16
  | 17 => estimates17
  | _ => estimates18

/-- The measured overshoots for a precision, one for each estimate. -/
def overshoots (precision : Precision) : List Int :=
  match precision.bits with
  | 4 => overshoots4
  | 5 => overshoots5
  | 6 => overshoots6
  | 7 => overshoots7
  | 8 => overshoots8
  | 9 => overshoots9
  | 10 => overshoots10
  | 11 => overshoots11
  | 12 => overshoots12
  | 13 => overshoots13
  | 14 => overshoots14
  | 15 => overshoots15
  | 16 => overshoots16
  | 17 => overshoots17
  | _ => overshoots18

/-- The estimate up to which empty registers are counted instead. -/
def switchingPoint (precision : Precision) : Nat :=
  match precision.bits with
  | 4 => 10
  | 5 => 20
  | 6 => 40
  | 7 => 80
  | 8 => 220
  | 9 => 400
  | 10 => 900
  | 11 => 1800
  | 12 => 3100
  | 13 => 6500
  | 14 => 11500
  | 15 => 20000
  | 16 => 50000
  | 17 => 120000
  | _ => 350000

/-- A measurement as a number. -/
def ofTenThousandths (measurement : Int) : Float :=
  Float.ofInt measurement / 10000

/-- The overshoot to expect at a raw estimate, given measured estimates with their
overshoots and the overshoot at the last estimate below it, if there is one. -/
def interpolate (raw : Float) : (earlier : Option Int) → List (Nat × Int) → Float
  | earlier, [] => ofTenThousandths (earlier.getD 0)
  | earlier, (estimate, overshoot) :: later =>
    if ofTenThousandths estimate < raw then interpolate raw (some overshoot) later
    else match earlier with
      | none => ofTenThousandths overshoot
      | some lower => (ofTenThousandths lower + ofTenThousandths overshoot) / 2

/-- The overshoot to expect at a raw estimate. -/
def overshoot (precision : Precision) (raw : Float) : Float :=
  interpolate raw none ((estimates precision).zip (overshoots precision))

end Telemetry.Cardinality.Correction
