set_option autoImplicit false

namespace PacketReplay.Pattern.Unicode

def scripts : List (List String × String) := [
  (["adlm", "adlam"],
    "Wew3h24941"),
  (["aghb", "caucasianalbanian"],
    "mfX2p1B0"),
  (["ahom"],
    "Wub2Q2E4M"),
  (["arab", "arabic"],
    "Wm14151D121V19BP1h31X1m2l1m7U115g21Smoy1o3GgB2l22r170W1Fm341c4Zx3UZ22t13Wut131Q1110201913" ++
    "101060401010121110201010101011102316131310191G52141Gq11"),
  (["armi", "imperialaramaic"],
    "WYY2L18"),
  (["armn", "armenian"],
    "nf1b12n122Ziz14"),
  (["avst", "avestan"],
    "WuY2r136"),
  (["bali", "balinese"],
    "Wu6i21n1"),
  (["bamu", "bamum"],
    "Wrf1t2eem1uH"),
  (["bass", "bassavah"],
    "msw2T25"),
  (["batk", "batak"],
    "W-6p183"),
  (["beng", "bengali"],
    "Wi2317212L1610332821238041142O"),
  (["bhks", "bhaiksuki"],
    "WWd281i11DAS"),
  (["bopo", "bopomofo"],
    "gN1vmBg1m3V"),
  (["brah", "brahmi"],
    "WWa2j24Z190"),
  (["brai", "braille"],
    "WWA_7"),
  (["bugi", "buginese"],
    "Wm6R21"),
  (["buhd", "buhid"],
    "Ww5J"),
  (["cakm", "chakma"],
    "Wea2q11H"),
  (["cans", "canadianaboriginal"],
    "WW5_JmHb2wjW2F"),
  (["cari", "carian"],
    "WrW2m1"),
  (["cham"],
    "Wmg1s19D2923"),
  (["cher", "cherokee"],
    "Wz4r225oxb1l2"),
  (["chrs", "chorasmian"],
    "mzZ2R"),
  (["copt", "coptic", "qaac"],
    "YVDmaAp356"),
  (["cpmn", "cyprominoan"],
    "myh2Y3"),
  (["cprt", "cypriot"],
    "WWY25201h1113020"),
  (["cyrl", "cyrillic"],
    "WW1a42e5mw5AW50i20dZ4VWYU_2kyL1Wmu1z1X10"),
  (["deva", "devanagari"],
    "We2m24E2PWxd1VWmS9"),
  (["diak", "divesakuru"],
    "Wec262027111T112B99"),
  (["dogr", "dogra"],
    "WWc2x1"),
  (["dsrt", "deseret"],
    "WWX2l2"),
  (["dupl", "duployan"],
    "WWl3g35C387923"),
  (["egyp", "egyptianhieroglyphs"],
    "WWi2rY1Awy3"),
  (["elba", "elbasan"],
    "WeX2d1"),
  (["elym", "elymaic"],
    "W_Z2M"),
  (["ethi", "ethiopic"],
    "Wm4e2132610132e1132W1132610132E1u1132Y22V3Pcl6M9616161616161616YfV525259616nbl2613111E"),
  (["geor", "georgian"],
    "Wb4b110502g113my2g122WY4b11050"),
  (["glag", "glagolitic"],
    "WWB_2Wzi361G261114"),
  (["gong", "gunjalagondi"],
    "Whd25111a1111579"),
  (["gonm", "masaramgondi"],
    "Wed26111h130111889"),
  (["goth", "gothic"],
    "mvW2Q"),
  (["gran", "grantha"],
    "Wua2317212L1611142821222060562634"),
  (["grek", "greek"],
    "mR3122310401012101J1-1EFcf64o1444q20WAL252b125271010101U2q11E1D251I2218d90-nY10wkLk2H0_Yq" ++
    "1b2"),
  (["gujr", "gujarati"],
    "Xq2218121L16111429121220F32B76"),
  (["guru", "gurmukhi"],
    "Xm2215412L16111111201441223073107G"),
  (["hang", "hangul"],
    "We4_7kn71X8z2n3UX2UXtTSZKZzACM4m1az9U35252522"),
  (["hani", "han"],
    "WqBP1u2Cr6l1010P8E3aU_j6W2_lKWeMjB2f3eeT1C1kWa1_sf1W1vX46z62Xq5Emf7FjJYj2zGYl1gw45_Y4"),
  (["hano", "hanunoo"],
    "Wv5K"),
  (["hatr", "hatran"],
    "WdY2I1154"),
  (["hebr", "hebrew"],
    "ni1s18Q45efz1P1410111119"),
  (["hira", "hiragana"],
    "XYCr262Xx_2-8I0T2jbG0"),
  (["hluw", "anatolianhieroglyphs"],
    "WWn2cI"),
  (["hmng", "pahawhhmong"],
    "Wuw2b2A9161K5I"),
  (["hmnp", "nyiakengpuachuehmong"],
    "Weu3i13D2941"),
  (["hung", "oldhungarian"],
    "WaZ2o1Do175"),
  (["ital", "olditalic"],
    "WuW2Z192"),
  (["java", "javanese"],
    "Wig1j22941"),
  (["kali", "kayahli"],
    "Weg1j110"),
  (["kana", "katakana"],
    "XbCv222m7Fm6k11t2kWp191i1oYi13161110_82o10E3"),
  (["kawi"],
    "Wud2G1e13S"),
  (["khar", "kharoshthi"],
    "WmY231157121S224978"),
  (["khmr", "khmer"],
    "Wy5z22969cFV"),
  (["khoj", "khojki"],
    "Wma2H1k1"),
  (["kits", "khitansmallscript"],
    "a_x20xu6rEf10"),
  (["knda", "kannada"],
    "Wa3C121M19142812137161132912"),
  (["kthi", "kaithi"],
    "Waa2Y2A0"),
  (["lana", "taitham"],
    "Wn6-11S2A696D"),
  (["laoo", "lao"],
    "Xq3110141N101M2410161923"),
  (["latn", "latin"],
    "X2P6Pl10F05M1U1WEd14xm6b16m1535C1b2X2_7nB0D0GCj4160R0He1ts2VYrUb33Y2211017LDmPg11813syJ6w" ++
    "W1P6PbX251f118bwr1U65"),
  (["lepc", "lepcha"],
    "WW7t13E32"),
  (["limb", "limbu"],
    "We6U1B4B403B"),
  (["lina", "lineara"],
    "WmX2s99LA7"),
  (["linb", "linearb"],
    "WWW2B1P1I111E2DY1w3"),
  (["lisu"],
    "mcf1l1mrU0"),
  (["lyci", "lycian"],
    "WqW2S"),
  (["lydi", "lydian"],
    "WfY2P50"),
  (["mahj", "mahajani"],
    "mga2c1"),
  (["maka", "makasar"],
    "Wtd2O"),
  (["mand", "mandaic"],
    "WY2R20"),
  (["mani", "manichaean"],
    "WsY2c14B"),
  (["marc", "marchen"],
    "mZd2V2L1D"),
  (["medf", "medefaidrin"],
    "Wox2w2"),
  (["mend", "mendekikakui"],
    "WWw3a62F"),
  (["merc", "meroiticcursive"],
    "WjY2N4J2j1"),
  (["mero", "meroitichieroglyphs"],
    "WiY2V"),
  (["mlym", "malayalam"],
    "We3C121o112154F2P"),
  (["modi"],
    "Wmb2a2B9"),
  (["mong", "mongolian"],
    "WW61201J6u27g1rj_1C"),
  (["mroo", "mro"],
    "Wow2U1941"),
  (["mtei", "meeteimayek"],
    "Wtg1Mf6j129"),
  (["mult", "multani"],
    "Wqa2610131E1A"),
  (["mymr", "myanmar"],
    "WW4_4Wgc1UX3VmYRJ"),
  (["nagm", "nagmundari"],
    "mcv3f1"),
  (["nand", "nandinagari"],
    "Wjc272j12A"),
  (["narb", "oldnortharabian"],
    "WqY2V"),
  (["nbat", "nabataean"],
    "WaY2U88"),
  (["newa"],
    "WWb2x214"),
  (["nkoo", "nko"],
    "W-1w122"),
  (["nshu", "nushu"],
    "X_x20kiGhC"),
  (["ogam", "ogham"],
    "Wq5S"),
  (["olck", "olchiki"],
    "mY7l1"),
  (["orkh", "oldturkic"],
    "WWZ2e2"),
  (["orya", "oriya"],
    "Xu2217212L1611142821227241142H"),
  (["osge", "osage"],
    "mbX2Z14Z1"),
  (["osma", "osmanya"],
    "WaX2T29"),
  (["ougr", "olduyghur"],
    "mxZ2P"),
  (["palm", "palmyrene"],
    "WZY2V"),
  (["pauc", "paucinhau"],
    "Wsc2u1"),
  (["perm", "oldpermic"],
    "mwW2g1"),
  (["phag", "phagspa"],
    "WYg1t1"),
  (["phli", "inscriptionalpahlavi"],
    "WxY2I57"),
  (["phlp", "psalterpahlavi"],
    "WyY2H73C6"),
  (["phnx", "phoenician"],
    "WeY2R30"),
  (["plrd", "miao"],
    "Wux2g24u17G"),
  (["prti", "inscriptionalparthian"],
    "WwY2L27"),
  (["rjng", "rejang"],
    "mfg1Z1B0"),
  (["rohg", "hanifirohingya"],
    "WeZ2d189"),
  (["runr", "runic"],
    "Wr5g23A"),
  (["samr", "samaritan"],
    "WW2j12E"),
  (["sarb", "oldsoutharabian"],
    "WpY2V"),
  (["saur", "saurashtra"],
    "Wag1b28B"),
  (["sgnw", "signwriting"],
    "WWs3hKF41E"),
  (["shaw", "shavian"],
    "mYX2l1"),
  (["shrd", "sharada"],
    "Wia2_2"),
  (["sidd", "siddham"],
    "Wib2r12b1"),
  (["sind", "khudawadi"],
    "mra2w159"),
  (["sinh", "sinhala"],
    "Xi321H3N181026304510176922i_W2J"),
  (["sogd", "sogdian"],
    "mvZ2f1"),
  (["sogo", "oldsogdian"],
    "WuZ2d1"),
  (["sora", "sorasompeng"],
    "mca2O79"),
  (["soyo", "soyombo"],
    "moc2o2"),
  (["sund", "sundanese"],
    "Wy6_1W87"),
  (["sylo", "sylotinagri"],
    "WWg1i1"),
  (["syrc", "syriac"],
    "Wu1D1x122m8A"),
  (["tagb", "tagbanwa"],
    "Wx5C1211"),
  (["takr", "takri"],
    "Wqb2v169"),
  (["tale", "taile"],
    "mg6T24"),
  (["talu", "newtailue"],
    "Wi6h14P6A31"),
  (["taml", "tamil"],
    "Yy2115321331101131323B4432132060EKb-a2n1D0"),
  (["tang", "tangut"],
    "W_x20Vt_58_NWG8"),
  (["tavt", "taiviet"],
    "Wqg1Y2O4"),
  (["telu", "telugu"],
    "WW3C121M1F281213711220232978"),
  (["tfng", "tifinagh"],
    "mfBt171E0"),
  (["tglg", "tagalog"],
    "Wu5L90"),
  (["thaa", "thaana"],
    "Wy1n1"),
  (["thai"],
    "Xm3v15R"),
  (["tibt", "tibetan"],
    "Wu3d21Z14c11Z11E1641"),
  (["tirh", "tirhuta"],
    "Wab2d289"),
  (["tnsa", "tangsa"],
    "mpw2k219"),
  (["toto"],
    "mqu3U"),
  (["ugar", "ugaritic"],
    "WyW2T10"),
  (["vaii", "vai"],
    "Wef1h9"),
  (["vith", "vithkuqi"],
    "mhX2A1E16111A1E1611"),
  (["wara", "warangciti"],
    "Wbc2o2C0"),
  (["wcho", "wancho"],
    "Wsu3v150"),
  (["xpeo", "oldpersian"],
    "WzW2Z14D"),
  (["xsux", "cuneiform"],
    "WWe2vSc3k314BZ6"),
  (["yezi", "yezidi"],
    "WqZ2f11221"),
  (["yiii", "yi"],
    "WWe1ia13s1"),
  (["zanb", "zanabazarsquare"],
    "Wmc2d2"),
  (["zinh", "inherited", "qaai"],
    "WOl3r81aEAQ0WN3xg4UXG21C16406031c6_1iG1Y6W1vv33h31bhp1FGDlU0Y70wY40a-k1j12MWH2H726U3owhOl" ++
    "7"),
  (["zyyy", "common"],
    "0W2Q5Qk11E14N0V0XEc1542Jq30906010zJ060E030W10y40aG0X41vc10rC3Y90ll12d21h6110jc10D07315122" ++
    "0bOB2s21A3A1EHW1_1b112251Q1Gf124vKMAL_SW8pJ2V1e3WGz2oCK101OF743x2130w21p4FW1b190m1_1Vm2l1" ++
    "0u2d5Wk6_1WeMX1c32b59q70W50hC0E1okK1m69MY11I13p401VQ5QAA0j11W2616A4Y824i138m2Cp1i1a7Qajk1" ++
    "3yw3v76pDy4p3y1r7Ac12z13G817T4y1r6JCJCs29Od4q21c2112021231B10161W21327161R131410361pA2Z92" ++
    "n1nZ5Z2i2y1YMh14Z3CE2E1E1a1Aj5u1P11Dh14871E5w4tU4G3C3s34-26B40FB4t1896d18T2B41-1pACD2C395" ++
    "t17E2A687o41b3dWXO0U_2"),
  (["gara", "garay"],
    "WgZ2b13S81"),
  (["gukh", "gurungkhema"],
    "Weu2v1"),
  (["krai", "kiratrai"],
    "Wgx2v1"),
  (["onao", "olonal"],
    "mkv3g140"),
  (["sunu", "sunuwar"],
    "W-c2X1E9"),
  (["todr", "todhri"],
    "WkX2p1"),
  (["tutg", "tulutigalari"],
    "Wya2910201b119102013191181")]

end PacketReplay.Pattern.Unicode
