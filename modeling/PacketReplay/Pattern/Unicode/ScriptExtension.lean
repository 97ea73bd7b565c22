set_option autoImplicit false

namespace PacketReplay.Pattern.Unicode

/-- The script extensions that differ from their scripts. -/
def scriptExtensions : List (List String × String) := [
  (["adlm", "adlam"],
    "_m10W10km60nl30-rk3h24941"),
  (["aghb", "caucasianalbanian"],
    "aO0i10i10nkW2p1B0"),
  (["arab", "arabic"],
    "Wm141s61X1m2l1m7U115g21Slw50nl30kep1o3GyD2r170W1Fm341c4ZVRax2UZ22t13Wut131Q11102019131010" ++
    "60401010121110201010101011102316131310191G52141Gq11"),
  (["armn", "armenian"],
    "eO0eHb12n122Ziz14"),
  (["avst", "avestan"],
    "t50uhB1kct1r136"),
  (["beng", "bengali"],
    "yL0qq11H1Q317212L1610332821238041142Ons401021108080204022v_Y10"),
  (["bopo", "bopomofo"],
    "dM012D0G1reB2491CA32060Z609g1m3Vbap11w84"),
  (["bugi", "buginese"],
    "Wm6R21lzZ10"),
  (["buhd", "buhid"],
    "rv519J"),
  (["cakm", "chakma"],
    "cl29mo19sbW2q11H"),
  (["cari", "carian"],
    "t50Yz7020pk30kZr1m1"),
  (["cher", "cherokee"],
    "WO21061M1B1kZ4r225oxb1l2"),
  (["copt", "coptic", "qaac"],
    "t50eI03110i31i3DmaAp356t80ecr1R"),
  (["cpmn", "cyprominoan"],
    "WeW21kqBY3"),
  (["cprt", "cypriot"],
    "WeW224i138Ws15201h1113020"),
  (["cyrl", "cyrillic"],
    "yL0Z221010102050k7l9mw5AW50i20_30d_3VZ20y_T_2kyL1Wmu1z1X10"),
  (["deva", "devanagari"],
    "yL0Zo1o22g1mw4c111sV0_vX19c5VWmS9"),
  (["dogr", "dogra"],
    "ah2BWsd19c-Rx1"),
  (["dupl", "duployan"],
    "t50lI110O1tuA0ZkZ3g35C387927"),
  (["elba", "elbasan"],
    "t50jI0wlW2d1"),
  (["ethi", "ethiopic"],
    "kO0nt3e2132610132e1132W1132610132E1u1132Y22V3Pcl6M9616161616161616YfV525259616nbl2613111E"),
  (["geor", "georgian"],
    "t50nc10su2b110502l1my2g122wS0bb3b11050Z80"),
  (["glag", "glagolitic"],
    "t50hI010-B020X80nx20-w30bz2_2ZF0hXU0mik261G261114"),
  (["gong", "gunjalagondi"],
    "t50ib21w_a25111a1111579"),
  (["gonm", "masaramgondi"],
    "ah21wya26111h130111889"),
  (["goth", "gothic"],
    "t50iI120e10-__1Q"),
  (["gran", "grantha"],
    "ng21H1WKDyc4011U231sV0lmy1317212L1611141921222060562634xY3110"),
  (["grek", "greek"],
    "t50eI1201010A0k1020g172310401012101J1-1EFcf64o1444q22-9L252b125271010101U2q11E1D251I2218-" ++
    "20e60-nY10wkLk2H0_Yq1b2"),
  (["gujr", "gujarati"],
    "ng21H1x8218121L16111429121220F32B76mfd19"),
  (["guru", "gurmukhi"],
    "ng21H1x4215412L16111111201441223073107Gvjd19"),
  (["hang", "hangul"],
    "We4_7Xm72491CE260Z60r1z2n3UX2UXtTSZKZzACM4m1fo91w84w1U35252522"),
  (["hani", "han"],
    "t50ekBP1u2Cr6QF121C1C1C2068x50q4FW1b190m1d1u1m1FBp10u2OA4W3U1_j6W2_lKWu17ulKjB2f3hR1w84yZ" ++
    "S1C1kxOH-s71kj3_sf1W1vX46z62Xq5Emf7FjJYj2zGYl1gw45_Y4"),
  (["hano", "hanunoo"],
    "Wv5M"),
  (["hebr", "hebrew"],
    "dO1eKs18Q45efz1P1410111119"),
  (["hira", "hiragana"],
    "XWC2491CG510413r227w21egp11w84A0j11XZi1-8I0T2jbG0"),
  (["hung", "oldhungarian"],
    "wY8020pk30F0-nt1o1Do175"),
  (["java", "javanese"],
    "Wig1j21A41"),
  (["kali", "kayahli"],
    "Weg1l1"),
  (["kana", "katakana"],
    "bO0T0zcB2491CG51041x233_2m7Fm6k11t2jto11w8-1mYi13161110_82o10E3"),
  (["khoj", "khojki"],
    "ct29Wgd19ckQH1k1"),
  (["knda", "kannada"],
    "ng21H1wOC121M19142812137161132912y-301160N010xvY15"),
  (["kthi", "kaithi"],
    "ch29Xc90-lU9cYQY2A0"),
  (["latn", "latin"],
    "X2P6Pl10C0205M1U1WE30A01210901064RE1110F27111c10504Cr81gc11ez10aW3b16m1535C1b2v107_7l90X2" ++
    "0D0GCp20v1160R0He1ts2VtC0edU7Qb33Y2211017LDk90XGg11813syJ6wW1P6PbX251f118bwr1U65"),
  (["limb", "limbu"],
    "bh20wy3U1B4B403B"),
  (["lina", "lineara"],
    "deW2i1ic1s99LA7"),
  (["linb", "linearb"],
    "WWW2B1P1I111E2DY1w3524i138"),
  (["lisu"],
    "yL0G0yfB1acTl1mrU0"),
  (["lyci", "lycian"],
    "wY80bnu1S"),
  (["lydi", "lydian"],
    "t50vhB0kts1P50"),
  (["mahj", "mahajani"],
    "t50ib2BWsd19seQc1"),
  (["mand", "mandaic"],
    "Wo10_FR20"),
  (["mani", "manichaean"],
    "Wo10_ZX2c14B"),
  (["mero", "meroitichieroglyphs"],
    "zY80Yfw1V"),
  (["mlym", "malayalam"],
    "ng21H1wSC121o112154F2Pww30N0zvY12"),
  (["modi"],
    "mXg19ckRa2B9"),
  (["mong", "mongolian"],
    "WW6P6u27g1ay10n-3153qov1C"),
  (["mult", "multani"],
    "cp29mWY2610131E1A"),
  (["mymr", "myanmar"],
    "WW4_4kac10n5UX3VmYRJ"),
  (["nand", "nandinagari"],
    "ng20I1WS9v_308070rvY15ghS72j12A"),
  (["newa"],
    "ng21Yy401190601010ouz1x214"),
  (["nkoo", "nko"],
    "im10E030WDw122-fz11"),
  (["orkh", "oldturkic"],
    "wY80rk30lkt1e2"),
  (["orya", "oriya"],
    "ng21H1xC217212L1611142821227241142HYh40N0"),
  (["osge", "osage"],
    "XO02060i20tgW2Z14Z1"),
  (["ougr", "olduyghur"],
    "Wo10nbX20zZ1P"),
  (["perm", "oldpermic"],
    "t50eI052A0lB0is_1g1"),
  (["phag", "phagspa"],
    "YW6110fX20o-30zXUt1"),
  (["phlp", "psalterpahlavi"],
    "Wo10_fX2H73C6"),
  (["rohg", "hanifirohingya"],
    "im10E030W10p40hnX2d189"),
  (["runr", "runic"],
    "Wr5u2"),
  (["samr", "samaritan"],
    "WW2j12Eol90"),
  (["shaw", "shavian"],
    "t50uyW2l1"),
  (["shrd", "sharada"],
    "ng20by401021209020YwY1520dgQ_2"),
  (["sind", "khudawadi"],
    "ah21gsd19spQw159"),
  (["sinh", "sinhala"],
    "ah21xW121H3N181026304510176922zt30kdz1J"),
  (["sogd", "sogdian"],
    "Wo10ldY2f1"),
  (["sylo", "sylotinagri"],
    "ah21W49mmd1i1"),
  (["syrc", "syriac"],
    "ZO12110O27111wM0E120W10AAQ0l4D1x122m8Aji5010"),
  (["tagb", "tagbanwa"],
    "rv51f1C1211"),
  (["takr", "takri"],
    "ah21gsd19coRv169"),
  (["tale", "taile"],
    "WO15130pf39ce2T24"),
  (["taml", "tamil"],
    "ng21H1yG115321331101131323B4432132060EK_c40uWZ10jmQ010t11Za3n1D0"),
  (["tang", "tangut"],
    "m_BFlF0mll20Vt_58_NWG8"),
  (["telu", "telugu"],
    "ng21H1wKC121M1F281213711220232978rY411010N0"),
  (["tfng", "tifinagh"],
    "YO01013P0imAt171E0"),
  (["tglg", "tagalog"],
    "Wu5L90L1"),
  (["thaa", "thaana"],
    "im10E120W29s8n1Woz10A0"),
  (["thai"],
    "yL0Q0h10j10ls2v15R"),
  (["tibt", "tibetan"],
    "Wu3d21Z14c11Z11E1641jX83"),
  (["tirh", "tirhuta"],
    "ng21H1lx40C0F0zvY19cYRd289"),
  (["toto"],
    "yL0p-t3U"),
  (["yezi", "yezidi"],
    "im10E030W29sWY2f11221"),
  (["yiii", "yi"],
    "XWC15927_60auRia13s1wqM4"),
  (["zinh", "inherited", "qaai"],
    "lO0201E36202F111H1413ml11xg4UpNr11014iG1Y6Vmet1FGDlU0Yep1j12MWH2H726U3owhOl7"),
  (["zyyy", "common"],
    "0W2Q5Qk11B1114N0V0XE2191030181015542J-306010zJ0t60aG0yg10rC3dX4B2W11U1911161A3A1EHW1_1b11" ++
    "2251Q1Gf124vKMAL_SW8pJ2V1e3WGM1N2913101PYD030D0D0L0nGNV0n1EC3X595_2V0Wk6_1eeMPc32mU0E1arK" ++
    "9MK2B1I13p401VQ5Q5_3616A4oCCp1i1Zmo1v76pDy4p3y1r7Ac12z13G817T4y1r6JCJCs2R6d4q21c211202123" ++
    "1B10161W21327161R131410361pA2Z92n1nZ5Z2i2y1YMh14Z3CE2E1E1a1Aj5u1P11Dh148N5w4tU4G3C3s34-26" ++
    "B40FB4t1896d18T2B41-1pACD2C395t17E2A687o41b3dWXO0U_2"),
  (["gara", "garay"],
    "im10E030WvX2b13S81"),
  (["gukh", "gurungkhema"],
    "bh20wyr2v1"),
  (["onao", "olonal"],
    "ah21gZt3g140"),
  (["sunu", "sunuwar"],
    "WO1109020S030kac2X1E9"),
  (["todr", "todhri"],
    "XO020209010g20XpW2p1"),
  (["tutg", "tulutigalari"],
    "cd39YW4010xvY15x50kqQ910201b119102013191181")]

end PacketReplay.Pattern.Unicode
