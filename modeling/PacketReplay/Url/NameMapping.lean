set_option autoImplicit false

namespace PacketReplay.Domain

/-- The characters that stand for themselves, packed as a list of ranges. -/
def validPacked : String :=
  "0W2Qa1X1610111011413030N07W1101010101010101010101010101010101010101010101010103011101010301" ++
  "0101020101010101010101010101010101010101010101010102010101020102031402032202010102011102030" ++
  "102216A010101010101011101010101010101011403010101010101010101010101010101010101010101010101" ++
  "01010101016202110401010101W39U615w220381V1010101032I0RY18010101010101010101010101030201021p" ++
  "1l11010101010101010101010101010101018101010101010101010101010101010101010101010101010101010" ++
  "2010101010101110101010101010101010101010101010101010101010101010101010101010101010101010101" ++
  "0101010101010101010f1j112221s18Q45HL1t24Z31l12w12a3Ew12m12E1R201A5V7g21q38Z117212L161033282" ++
  "12380832O2215412L161020212014412230A09GA218121L16111429121220F32B761217212L1611142821227274" ++
  "2HA115321331101131323B4432132060EK5C121M1F28121371121123297L121M19142812137152132912CC121o1" ++
  "12154F2P121H3N181026304510176922Cn1164Sb1110141N101B192410161941W1B1r113131313131B124110561" ++
  "G13131313131B121E1Cb1_4m1h11X32d7132610132e1132W1132610132E1u1132Y22V3P6r2A_J1R3u27L9N9JCC1" ++
  "211Cp12d129696A596u27g15b2AU1B4B403f124Bh14P6A3z12W21S2A696D2j12BKi21b58x13E3o1A0r178g15h13" ++
  "0B0I0SC1X1b1_110101010101010101010101010101010101010101010101010101010101010101010101010101" ++
  "0101010101010101010101010101010101010101010101010101010101010101010101014211010101010101010" ++
  "101010101010101010101010101010101010101010101010101010101010101010101010101010101885A78785A" ++
  "78780101010101010p1140F092318213E0L120141B3082202310173C16X271OEW1J030B021513010101040B0635" ++
  "5m1214114x4202t72-7MAW5Wf11c33a31s42f4m1l11031101010401115501010101010101010101010101010101" ++
  "01010101010101010101010101010101010101010101010101010101010101010171013105i110502t180EN9616" ++
  "1616161616161z3Y1P131o2k801o110341r221211-26g1W31Eb2AFe27l10WCiaS3s19xAL0101010101010101010" ++
  "1010101010101010101010101I10101010101010101010101010102v28X11010101010101210101010101010101" ++
  "0101010101010101010101010101010101010101010101710102010101013101110121010101010101010101050" ++
  "501010101010101040102010101010101010Q12o1396t18b28B6p3BT3j21A4W11s19D292c3ORA5252596161h148" ++
  "11q2j1296ZzACM4m1om811011A0101122q70p4W1hBHW21s17j12W1FL1i10iCB1P1I111E2DY1w3524i13t21C30l1" ++
  "j1Y4S3m1FR4Z19T5g15T1a14Do2r329k1Z14d18p1B0d1A1E16113p1Cs99LA7O0_35201h111302M1d288m1I115W1" ++
  "3Q5Qc1t14J2n11157121S2249787_1W1c14B9r13S2Q5P73C6m2e2t3o17j1896FPS81m6U1f11221G588X1j18f1MP" ++
  "c1RKM9j24Z19z114DO796q11H8c19_21JBH1k1-1610131E1A6w1596317212L1611141921222060562634B910201" ++
  "b119102013191181Tx214Ud289c5r12b1Y1a2B96CJv1696JSQ2E4Mv5x1a4o1C72027111T112B99c272j12ARd28o" ++
  "2De279s27u2X1E9681i11DAS3V2L1Df26111h13011188965111a11115796h149s7O7G1e13Sr20Fn1DwSc3k314BZ" ++
  "6io2Y3DlX1GLAwy35cIvr6v1cs1uH7U194m2196T25Ab2A9161K5ImDv1c7w1W1Oi1g24u17GW24B69rc7f1VX3o3zl" ++
  "8316111Y9F0T220E38hCae2g35C387923Wx3r6a123pD6MFGFj12M9p3y1r7Ac12q17D8_16f1Lb2w3JCJCs29Oda1h" ++
  "KF41EmY1U65r661G261114a30m3i13D2941WAUHv150mEf1s6g140W6U1L81W7613111E1a62Fh2f14941nOZ2i2y1o" ++
  "D1k8h14Z3CE2E1E1a1L4V0W1P3Y11Su1PW35w4uU3G3C3v66B40FB4t1896d18T2B41E8d1tA8D2C3A3u1104F2B497" ++
  "o41x2A0bW1_sf1W1ze42jq52mf7FjJYj4gw45ff8"

/-- The characters written as others, packed: for each range of characters its distance from the end
of the range before, one less than its size, the number of characters that the first one is written
as, and these. Where that is one character, the next ones follow on. -/
def mappedPacked : String :=
  "X2P1X3b201W1702W1eO101X3200102W1aO211o1002W1XO001yT202W1dP001n1001l3103n1aY8q1003n1aY8o1003" ++
  "p1aY8q11M1W7161u7X101X8101Z8101b8101d8101f8101h8101j8101l8101n8101p8101r8101t8101v8101x8101" ++
  "z8101_8101X9101Z9101b9101d9101f9101h9101j9101l9102f3dO102f3g3002f3g3001r9101t9201w9101y9101" ++
  "-9102i3t5002i3t5001YA101aA101cA101eA102yLk3001hA101jA101lA101nA101pA101rA101tA101vA101xA101" ++
  "zA101_A101XB101ZB101bB101dB101fB101hB101jB101lB101nB101pB101rB101tB101_7001wB101yB101-B101p" ++
  "3101pI001ZC101bC101qI001eC111sI001iC201zE001vI001xI001oC101WJ001ZJ101fJ001eJ001vC301lJ001oJ" ++
  "101rJ001XD101ZD101bD101WK001eD101ZK201jD101eK001mD111gK001qD101sD101oK001vD301zD702a3-B002a" ++
  "3-B002a3-B002i3g3002i3g3002i3g3002k3g3002k3g3002k3g3001kE101mE101oE101qE101sE101uE101wE101y" ++
  "E201_E101XF101ZF101bF101dF101fF101hF101jF101lF202a3w3002a3w3002a3w3001rF101rC001_D001vF101x" ++
  "F101zF101_F101XG101ZG101bG101dG101fG101hG101jG101lG101nG101pG101rG101tG101vG101xG101zG101_G" ++
  "101-C101ZH101bH101dH101fH101hH101jH101lH101nH101pH701bZB001yH101wC001cZB201YI101WC001fK001i" ++
  "K001dI101fI101hI101jI101lIX301e3001cJ001g3001o3001vJ001xJ001XK001t3001v3V02W1cO002W1dO002W1" ++
  "gO002W1eP002W1ZO002W1hO201ZJ001i3001p3001u3001rKx211WO101pO002eOXO001vT900W101nR101pR101vL1" ++
  "01tR302W1vT301x1001pV402W1XO003W1eOXO001iT001t5021jT101iU111jU1G1nT181ZUZ101tU001oT001uT001" ++
  "bU001jU001hU001cU001WU101vU101xU101zU101_U101XV101ZV101bV101dV101fV101hV101jV101lV101wT001X" ++
  "U001ZU101uT001rT101uV101ZU001xV221xR0F1mY10V1mX1m101XZ1101ZZ1101bZ1101dZ1101fZ1101hZ1101jZ1" ++
  "101lZ1101nZ1101pZ1101rZ1101tZ1101vZ1101xZ1101zZ1101_Z1101Xa1901ha1101ja1101la1101na1101pa11" ++
  "01ra1101ta1101va1101xa1101za1101_a1101Xb1101Zb1101bb1101db1101fb1101hb1101jb1101lb1101nb110" ++
  "1pb1101rb1101tb1101vb1101xb1101zb1101_b1101lc1001Yc1101ac1101cc1101ec1101gc1101ic1101kc1201" ++
  "nc1101pc1101rc1101tc1101vc1101xc1101zc1101_c1101Xd1101Zd1101bd1101dd1101fd1101hd1101jd1101l" ++
  "d1101nd1101pd1101rd1101td1101vd1101xd1101zd1101_d1101Xe1101Ze1101be1101de1101fe1101he1101je" ++
  "1101le1101ne1101pe1101re1101te1101ve1101xe1101ze1101_e1101Xf1101Zf1101bf1101df1101ff1101hf1" ++
  "101jf1101lf12b11Xh1m102bh1Yi1j702dn1qp1002eo1qp1002ds1qp1002go1qp1_M02re2yf2002se2yf2002te2" ++
  "yf2002ye2yf2002Xf2yf2002Yf2yf2002hf2yf2002lf2yf2y302Xj2yj2002Yj2yj2102lj2yj2p202on2yn2202un" ++
  "2yn2Y102sm2yn2002tm2yn2002ym2yn2202hn2yn2z702Xv2yv2002Yv2yv2rM02jo3on3_302js3or3e102hr3vq30" ++
  "02hr3Xr3k101hu3s102Yw3tz3902iw3tz3402nw3tz3402sw3tz3402xw3tz3C02Ww3rz3902nx3ox3102nx3qx3002" ++
  "oz3Wy3003oz3nx3Wy3002pz3Wy3003pz3nx3Wy3702nx3Wy3H02oy3tz3902yy3tz3402Xz3tz3402cz3tz3402hz3t" ++
  "z3C02my3rz3c7b11WeB101dfB501jfBk101yc4Y310tK51m_4sT10r240mZ101oX1001qX1001-X1011XY1001YY100" ++
  "1gY1001ZZ1001hof1001ga76g11mc4221zd4i301X3001c7001Y3111a3001zE071d3101l3001ZH001m3001o3011q" ++
  "3001t3001X3011mI001Ye7001Y3011a3001vI011xI001d3101h3001j3001hA001l3001qI011se7001m3011q3001" ++
  "ze7001lJ001s3001bf7021oT011cU001f3001o3011r3011oT001XU011cUD01zX1Y101oI001Z3001rI001m7001yI" ++
  "001c3001_I001XJ001bJ021eJ001xh7001zK001jJ001bi7001_K001nJ001mJ031oJ001uJ011YK001hD011fK001y" ++
  "e7011hK001w3021mK001uTW201Xm7101Zm7101bm7101dm7101fm7101hm7101jm7101lm7101nm7101pm7101rm710" ++
  "1tm7101vm7101xm7101zm7101_m7101Xn7101Zn7101bn7101dn7101fn7101hn7101jn7101ln7101nn7101pn7101" ++
  "rn7101tn7101vn7101xn7101zn7101_n7101Xo7101Zo7101bo7101do7101fo7101ho7101jo7101lo7101no7101p" ++
  "o7101ro7101to7101vo7101xo7101zo7101_o7101Xp7101Zp7101bp7101dp7101fp7101hp7101jp7101lp7101np" ++
  "7101pp7101rp7101tp7101vp7101xp7101zp7101_p7101Xq7101Zq7101bq7101dq7101fq7101hq7101jq7101lq7" ++
  "101nq7101pq7101rq7502X3-L001Xp7201_6101Xr7101Zr7101br7101dr7101fr7101hr7101jr7101lr7101nr71" ++
  "01pr7101rr7101tr7101vr7101xr7101zr7101_r7101Xs7101Zs7101bs7101ds7101fs7101hs7101js7101ls710" ++
  "1ns7101ps7101rs7101ts7101vs7101xs7101zs7101_s7101Xt7101Zt7101bt7101dt7101ft7101ht7101jt7101" ++
  "lt7101nt7101pt7101rt7101tt7101vt7101xt7101zt7101_t7971Wu7851mu7A71Wv7871mv7851Ww7B01nw7101p" ++
  "w7101rw7101tw7871Wx7101iT101jT101kT101lT101iU101jU101kU202Wu7vT002Xu7vT002Yu7vT002Zu7vT002a" ++
  "u7vT002bu7vT002cu7vT002du7vT002Wu7vT002Xu7vT002Yu7vT002Zu7vT002au7vT002bu7vT002cu7vT002du7v" ++
  "T002Wv7vT002Xv7vT002Yv7vT002Zv7vT002av7vT002bv7vT002cv7vT002dv7vT002Wv7vT002Xv7vT002Yv7vT00" ++
  "2Zv7vT002av7vT002bv7vT002cv7vT002dv7vT002Wx7vT002Xx7vT002Yx7vT002Zx7vT002ax7vT002bx7vT002cx" ++
  "7vT002dx7vT002Wx7vT002Xx7vT002Yx7vT002Zx7vT002ax7vT002bx7vT002cx7vT002dx7vT202mx7vT002nTvT0" ++
  "02iTvT202sz7vT011mz7001mx7001iT002nTvT002W1pO001vT002W1pO002W1YQ003W1eOYQ002qx7vT002tTvT002" ++
  "kTvT202c-7vT001ox7001jT001qx7001kT002tTvT003W1pOWO003W1pOXO003W1pOYQ301mS411m-7001sx7001lT1" ++
  "03W1qOWO003W1qOXO003W1qOYQ301mT411W_7001wx7001jU001b_7003W1eOWO003W1eOXO001W3202yx7vT002fUv" ++
  "T002kUvT202s_7vT001ux7001iU001yx7001kU002fUvT002W1XO002W1qO101W1001W1001W1001W1001W1001W100" ++
  "1W1001W1001W1001W1001W1000501mW8502W1pPN01W1302oX8oX8003oX8oX8oX8102rX8rX8003rX8rX8rX8402X1" ++
  "X1102W1bO802_1_1002_1X1002X1_1D04oX8oX8oX8oX8701W1040550001m1001f3251q1001h1001om8001z1011e" ++
  "1001k3091m1001h1001om8001z1011e1101X3001b3001l3001u3001vI001e3031h3001m3011p3B02o3p3t203X3l" ++
  "1Z3003X3l1p3001Z3002m5Z3103Z3l1l3003Z3l1r3001xI102m5c3011d3001e3001e3001e3001d9001f3001f300" ++
  "1i3001i3101k3002k3l3221m3001o3001o3202p3j3003q3b3i3002q3j3101w3101fU101w3101h3001b7011Y3101" ++
  "b3011b3001kg8001j3001l3031mk1001f3103c3X3u3001WU001pT001pT001WU001nm8401a3011a3011f3603n1aY" ++
  "8t1003n1aY8v1004n1aY8n1m1003n1aY8p1003o1aY8p1003n1aY8r1003o1aY8r1003p1aY8r1003q1aY8r1003n1a" ++
  "Y8s1003r1aY8s1003n1aY8u1003p1aY8u1003r1aY8u1003t1aY8u1002n1aY8001f3002f3f3003f3f3f3002f3s30" ++
  "01s3002s3f3003s3f3f3004s3f3f3f3002f3u3001u3002u3f3003u3f3f3001i3011Z3001j3001f3002f3f3003f3" ++
  "f3f3002f3s3001s3002s3f3003s3f3f3004s3f3f3f3002f3u3001u3002u3f3003u3f3f3001i3011Z3001j3301ai" ++
  "8503m1aY8p1Y502hn8hn8003hn8hn8hn8102kn8kn8003kn8kn8kn8u711eWCr981n1002n1m1002n1n1002n1o1002" ++
  "n1p1002n1q1002n1r1002n1s1002n1t1002n1u1002n1v1002o1m1003e1n1f1003e1o1f1003e1p1f1003e1q1f100" ++
  "3e1r1f1003e1s1f1003e1t1f1003e1u1f1003e1v1f1004e1n1m1f1004e1n1n1f1004e1n1o1f1004e1n1p1f1004e" ++
  "1n1q1f1004e1n1r1f1004e1n1s1f1004e1n1t1f1004e1n1u1f1004e1n1v1f1004e1o1m1f1K03e1X3f1003e1Y3f1" ++
  "003e1Z3f1003e1a3f1003e1b3f1003e1c3f1003e1d3f1003e1e3f1003e1f3f1003e1g3f1003e1h3f1003e1i3f10" ++
  "03e1j3f1003e1k3f1003e1l3f1003e1m3f1003e1n3f1003e1o3f1003e1p3f1003e1q3f1003e1r3f1003e1s3f100" ++
  "3e1t3f1003e1u3f1003e1v3f1003e1w3f10P1X30P1X3001m1Xf104hn8hn8hn8hn8d303w1w1z1002z1z1003z1z1z" ++
  "1b302zsAuPZ9l11mXBm101XZB101hJ001zh7001zJ201eZB101gZB101iZB101nI001nJ001mI001oI101pZB201sZB" ++
  "601g3001s3011_H001XaB101ZaB101baB101daB101faB101haB101jaB101laB101naB101paB101raB101taB101v" ++
  "aB101xaB101zaB101_aB101XbB101ZbB101bbB101dbB101fbB101hbB101jbB101lbB101nbB101pbB101rbB101tb" ++
  "B101vbB101xbB101zbB101_bB101XcB101ZcB101bcB101dcB101fcB101hcB101jcB101lcB101ncB101pcB101rcB" ++
  "101tcB101vcB101xcB101zcB101_cB101XdB101ZdB801idB101kdB401pdBy301XhBl901j-Qp201_yd1C01WmJ001" ++
  "enJ001snJ001_nJ001voJ001bqJ001iqJ001WrJ001wrJ001_fK001bhK001hhK001YiK001siK001hjK001WlK001r" ++
  "lK001WmK001xqK001vtK001ruK001wuK001uvK001XwK001ywK001fxK001YyK001szK001e-K001Z_K001tsL001_u" ++
  "L001hdM001YeM001geM001reM001dfM001phM001mwM001WyM001u_M001lWN001YXN001uXN001kZN001nZN001xkN" ++
  "001blN001nlN001-lN001opN001wpN001_pN001qtN001-tN001huN001puN001mwN001XxN001pxN001Z-N001emO0" ++
  "01snO001hoO001lfP001qfP001diP001tiP001ajP001vjP001WlP001blP001mtP001euP001evP001WvQ001YxQ00" ++
  "1vxQ001pzQ001h-Q001q-Q001x-Q001lWR001qWR001qXR001hZS001gnS001snS001xnS001_nS001doS001voS001" ++
  "xoS001irS001ayS001fyS001ycT001cdT001ueT001_eT001efT001mfT001hiT001oiT001spT001zpT001krT001_" ++
  "rT001ktT001x-T001Y_T001p_T001wfU001ujU001-jU001qpU001hsU001vtU001pZV001udV001svV001nwV001gy" ++
  "V001zzV001XWW1001iWW1001oWW1001pXW1001_ZW1001faW1001ZlW1001glW1001plW1001ylW1001imW1001xmW1" ++
  "001_mW1001kpW1001opW1001upW1001joX1001hpX1001WYY1001iYY1001ZZY1001-hY1001hiY1001okY1001WmY1" ++
  "001tXZ1001cYZ1001rYZ1001uZZ1001zaZ1001ahZ1001mhZ1001pjZ1001hrZ1001gsZ1001xyZ1001mzZ1001rzZ1" ++
  "001naa1001fga1001cka1001ika1001nka1001thb1001Wib1001ymb1001srb1001vrb1001etb1001nwb1001-wb1" ++
  "001Yxb1001fxb1001h-b1001j_b1001p_b1001XWc1001ebc1001xcc1001_cc1001sic1001vic1001ijc1001erc1" ++
  "001usc1001_sc1001bvc1001lvc1001ovc1001yvc1001wwc1001bdd1001rpd1001_pd1001brd1001xrd1001Zsd1" ++
  "001jsd1001nsd1001vtd1001ztd1001kud1001pud1001Wvd1001xvd1001gwd1001owd1001jyd1001yyd1001Wzd1" ++
  "g101W1101k1p101oWC101XwK011awKW302W1vaC002W1waC202eaCgaC_202pbCecCn111We4001gj4001Ye4011ij4" ++
  "021Ze4051mj4001we4021ce4001Xf4091fe40K1Xh4000011qe4011dk4001ik4001kk4001pk4001tk4001vk4001y" ++
  "e4001zk4001_k4011ze4001Wf4011Yf4001df4001ff4041hf4001of4001sf4001Wg4001dg4001ig4011nl4021tg" ++
  "4011ai4001ei4011ni4001qi4001-i4001Xj4301WmJ001iqJ001fmJ001xsL001gmJ001jnJ001hmJ001ofT001voJ" ++
  "001vmJ001XmJ001ffM001mvL001wrJW303e1We4f1003e1Ye4f1003e1Ze4f1003e1be4f1003e1ce4f1003e1de4f1" ++
  "003e1fe4f1003e1he4f1003e1ie4f1003e1ke4f1003e1le4f1003e1me4f1003e1ne4f1003e1oe4f1003e1WWh1f1" ++
  "003e1uai1f1003e1ati1f1003e1yxj1f1003e1ekk1f1003e1qWl1f1003e1ibm1f1003e1agn1f1003e1myn1f1003" ++
  "e1eXp1f1003e1qpp1f1003e1Wcq1f1003e1iuq1f1003e1ugr1f1003e1ydo1f1004e1ann1aWo1f1004e1ann1asr1" ++
  "f1103e1WmJf1003e1iqJf1003e1fmJf1003e1xsLf1003e1qqJf1003e1jhKf1003e1ZmJf1003e1hhKf1003e1zoJf" ++
  "1003e1XwKf1003e1euPf1003e1hZSf1003e1qXRf1003e1evPf1003e1nka1f1003e1_uLf1003e1blPf1003e1gXQf" ++
  "1003e1fuPf1003e1-fUf1003e1jWLf1003e1vpSf1003e1XbZ1f1003e1zgUf1003e1qrKf1003e1ZtJf1003e1yZLf" ++
  "1003e1cxMf1003e1ZtTf1003e1XuJf1003e1dcZ1f1003e1qwKf1003e1jhUf1003e1nuJf1003e1glW1f1003e1plW" ++
  "1f1001lgL001ypN001diP001lyU803m3q3b3002o1n1002o1o1002o1p1002o1q1002o1r1002o1s1002o1t1002o1u" ++
  "1002o1v1002p1m1002p1n1002p1o1002p1p1002p1q1002p1r1001We4011Ye4021be4001fe4011he4041ke4001WW" ++
  "h1001uai1001ati1001yxj1001ekk1001qWl1001ibm1001agn1001myn1001eXp1001qpp1001Wcq1001iuq1001ug" ++
  "r1002uXp1Wdh1002ydo1uwn1001mrn1101WmJ001iqJ001fmJ001xsL001qqJ001jhK001ZmJ001hhK001zoJ001XwK" ++
  "001euP001hZS001qXR001evP001nka1001_uL001blP001gXQ001fuP001-fU001jWL001vpS001XbZ1001zgU001qr" ++
  "K001ukU001tfT001phM001fZa1001gfK001mxK001edR001bWc1001nuJ001viK001ZxQ001gmJ001jnJ001hmJ001c" ++
  "lN001p_K001xvK001tyM001cxM001ZtT001XuJ001dcZ1001qwK001yeM002p1s1002p1t1002p1u1002p1v1002q1m" ++
  "1002q1n1002q1o1002q1p1002q1q1002q1r1002q1s1002q1t1002q1u1002q1v1002r1m1002n1euP002o1euP002p" ++
  "1euP002q1euP002r1euP002s1euP002t1euP002u1euP002v1euP003n1m1euP003n1n1euP003n1o1euP002e3d300" ++
  "3b3o3d3002b3s3003i3q3a3001YbC001abC001cbC001ebC011gbC001jbC001lbC001nbC001pbC001rbC001tbC00" ++
  "1vbC001xbC001zbC001_bC001XcC001acC001ccC001ecC051gcC001ocC001rcC001ucC001xcC041-cC001adC001" ++
  "cdC051edC031ldC002atJiaL004YbCncCydCecC004YbChdCrcCXbC004YbCpdCwcCYbC003YbCydChdC004abChcCp" ++
  "dCmbC003abCpdCXcC003cbCfbCpdC005ebCvbClbCydCfcC004ebCydChbCydC003gbCpdCvbC003gbCydCWdC003hb" ++
  "CabCgdC004hbCfdCZcCecC004hbCjdCgdCydC003ibCjdCpdC003ibCpdC-cC002kbCibC003kbChcCydC004jbCbdC" ++
  "gdCydC004kbChdCWcCydC002jbCjdC005jbCjdCmbCfdCWdC006jbCjdCXdCydCecChdC005jbCjdCldCZcCecC003m" ++
  "bCfdCWdC005mbCfdCWdCecCpdC005lbChdCybCabCjdC004lbCjdCydCjcC003nbCydCvbC003pbChdCgcC003pbCyd" ++
  "CzcC004rbCabClbChdC005rbCpdCXcCydCWdC004tbCgdCpdCmbC003xbCpdCXcC003xbCpdCecC003WcCydCvbC002" ++
  "dcCtbC002fcChdC002ecCpdC002gcCkcC003kcCZcCecC003lcCabCacC005ncCydCxbCpdCecC003ncCydCacC004m" ++
  "cCydCidChdC005qcCYbCvbCecChdC003qcClbChdC002qcCpbC002pcChdC005rcCXbCfdCZcCfcC004rcCZbCydCec" ++
  "C005scCZcCtbCdbChdC003rcCfdCpdC005ucClbC_bCydChdC002wcCzbC003wcChcCocC003ucChdCacC003wcCpdC" ++
  "vbC003wcCydCubC003vcCydC_bC004zcCabCpdCecC003ycChdCecC002xcCpdC003zcCpdCfcC003xcCydChdC003x" ++
  "cCydCpdC004-cCabClbCjdC003-cCabChdC003-cCZcClcC003-cChdClbC005-cCpdCtbCddCpdC004_cClbCjdCpd" ++
  "C002_cCgdC005_cCgdCmcCydChdC002XdCibC004XdCibCecCpdC004XdCydCecChdC003adCydCfcC003adCydChdC" ++
  "003cdCYbCpdC004gdCZcCecChdC002gdCfdC003hdCqcCydC004hdCydCscChdC002idCWdC005idCpdCecCobCpdC0" ++
  "03ldCZcCecC002m1vbS002n1vbS002o1vbS002p1vbS002q1vbS002r1vbS002s1vbS002t1vbS002u1vbS002v1vbS" ++
  "003n1m1vbS003n1n1vbS003n1o1vbS003n1p1vbS003n1q1vbS003n1r1vbS003n1s1vbS003n1t1vbS003n1u1vbS0" ++
  "03n1v1vbS003o1m1vbS003o1n1vbS003o1o1vbS003o1p1vbS003o1q1vbS003e3m3X3002a3X3002X3r3003Y3X3o3" ++
  "002l3s3002m3Z3002a3j3003a3j3o1003a3j3p1002f3r3002ppNmmO002jnPiaL002dfMZxQ002kmPxbR004gXQluN" ++
  "wuJ-fU002m3X3002k3X3002yTX3002j3X3002h3X3002h3Y3002j3Y3002d3Y3003Z3X3i3004h3Z3X3i3002m3c300" ++
  "2k3c3002yTc3002yTd3002j3d3002h3d3002e3w3003h3e3w3003j3e3w3003d3e3w3003q3e3w3002yTi3002j3i30" ++
  "02a3i3002h3i3002c3j3002k3j3002yTj3002j3j3002Z3j3002h3j3003j3j3o1003Z3j3o1002j3o1003h3j3o100" ++
  "3j3j3p1003Z3j3p1002j3p1003h3j3p1003j3rm8p3004j3rm8p3o1002m3X3003h3m3X3003j3m3X3003d3m3X3003" ++
  "o3X3a3005o3X3a3rm8p3006o3X3a3rm8p3o1002m3p3002k3p3002yTp3002j3p3002m3s3002k3s3002yTs3002j3s" ++
  "3002h3s3002j3s3002m3t3002k3t3002yTt3002j3t3002h3t3002j3t3002h3fU002j3fU102Y3n3002Z3Z3002Z3a" ++
  "3004Z3rm8h3d3102a3Y3002d3v3002e3X3002e3m3002f3k3002h3h3002h3j3002h3q3002i3j3002i3k3003i3l3d" ++
  "3002i3u3002j3Y3003j3f3i3003j3l3i3002m3e3103m3m3j3002m3o3002p3o3002p3s3002t3Y3003s3rm8j3003X" ++
  "3rm8j3002n1blP002o1blP002p1blP002q1blP002r1blP002s1blP002t1blP002u1blP002v1blP003n1m1blP003" ++
  "n1n1blP003n1o1blP003n1p1blP003n1q1blP003n1r1blP003n1s1blP003n1t1blP003n1u1blP003n1v1blP003o" ++
  "1m1blP003o1n1blP003o1o1blP003o1p1blP003o1q1blP003o1r1blP003o1s1blP003o1t1blP003o1u1blP003o1" ++
  "v1blP003p1m1blP003p1n1blP003d3X3i3WoS01Xof1101Zof1101bof1101dof1101fof1101hof1101jof1101lof" ++
  "1101nof1101pof1101rof1101tof1101vof1101xof1101zof1101_of1101Xpf1101Zpf1101bpf1101dpf1101fpf" ++
  "1101hpf1101jpf1J01Xqf1101Zqf1101bqf1101dqf1101fqf1101hqf1101jqf1101lqf1101nqf1101pqf1101rqf" ++
  "1101tqf1101vqf1101xqf1101gY1001iY1a401Zvf1101bvf1101dvf1101fvf1101hvf1101jvf1101lvf1301pvf1" ++
  "101rvf1101tvf1101vvf1101xvf1101zvf1101_vf1101Xwf1101Zwf1101bwf1101dwf1101fwf1101hwf1101jwf1" ++
  "101lwf1101nwf1101pwf1101rwf1101twf1101vwf1101xwf1101zwf1101_wf1101Xxf1101Zxf1101bxf1101dxf1" ++
  "101fxf1101hxf1101jxf1101lxf1101lxf1801wxf1101yxf1101vh7001_xf1101Xyf1101Zyf1101byf1101dyf14" ++
  "01iyf1101bJ201nyf1101pyf1301tyf1101vyf1101xyf1101zyf1101_yf1101Xzf1101Zzf1101bzf1101dzf1101" ++
  "fzf1101cJ001yI001XJ001iJ001gJ101-K001dK001zK001pwg1001rzf1101tzf1101vzf1101xzf1101zzf1101_z" ++
  "f1101X-f1101Z-f1101qyf1001YK001ki7001e-f1101g-f1101aJ001j-f1101l-f1101n-f1101p-f1101r-f1101" ++
  "t-f1101v-f1101x-f1101xCK01p3001Z3001c3001n3001s_f1201d9001pAYR01dvf1001tvg1001hJ001owg1901j" ++
  "K6l21Wz4WgJ01eYZ1001qtP001gsZ1001ecZ1001nsR001onJ001b_K001yyd1001yyd1001ngM001nka1001diL001" ++
  "egM001slO001fpT001byV001_nX1001wzX1001udY1001laa1001YmQ001xeR001vcS001--S001zXX1001gha1001n" ++
  "lc1001YqJ001rxK001auQ001xmS001jnX1001-md1001mgN001h_R001jkX1001ahY1001fsO001ukW1001_WY1001g" ++
  "sN001tuP001ghR001ytS001kca1001cyJ001tjK001-sK001acP001psQ001mmS001dtT001XWW1001cmX1001yoX10" ++
  "01llZ1001ovb1001lxc1001wld1001iaU001_hU001WjV001f-W1001aua1001_pd1001ssY1001_cM001auN001WZV" ++
  "001-ZW1001YpS001gcU001YcZ1001ttb1001ucM001YZN001pmQ001wkR001luR001lfV001tnV001hob1001osK001" ++
  "haW1001ykK001ikK001ymU001-jV001n_W1001rpb1001WyY1001lsO001YmQ001-tY1001vnJ001d_M001oWO001dy" ++
  "S001mhT001tuK001xdU001_zJ001fzN001jmJ001icR001uhP001YfV001Z-K001-YM001XuT001fYX1001grY1001w" ++
  "zQ001mzZ1001eaR001-tO001btW1001WzO001bhT001krJ001fhK001fkK001XaQ001ddV001lpW1001osY1001lka1" ++
  "001rtK001YYL001phM001itN001bkP001-_R001gfU001jjb1001gpc1001tqd1001ksd1001xqK001csP001txQ001" ++
  "YxZ1001qpN001miO001WmO001waP001ZvR001fgS001faT001gkU001qlV001lZW1001cvZ1001kdX1001ZXa1001gw" ++
  "a1001tmK001ZrK001zbL001ecS001YcY1001grY1001fsN001r_N001xxO001kzQ001-XV001rxS001atJ001vtL001" ++
  "d_M001wjN001yWO001ozS001fZT001wyV001cYW1001qna1001stb1001ewb1001uWc1001hyJ001kjU001qja1001u" ++
  "rb1001XdO001cqJ001wcK001k_M001_XN001viP001YmQ001kkS001YoT001ydX1001yZa1001jyd1001eqP001knb1" ++
  "001fqK001xxP001p_P001XgR001yqR001fWT001vgT001hZU001meV001-Yc1001jhK001knO001upb1001hXK001ve" ++
  "N001glR001gvZ1001hyN001agO001tWQ001dyS001cqb1001fnK001lWL001bZN001pmP001kwP001ebQ001bdR001c" ++
  "WT001YlT001vxV001lcY1001XdY1001ika1001Ytb1001_vK001wrR001zWL001mkS001uaT001wlX1001Zrb1001tY" ++
  "d1001_qd1001tyP001hkR001elW1001hsU001WvU001oaV001WsS001vaS001uwY1001WsJ001svW1001wnK001dmK0" ++
  "01crN001psO001scV001byM001-eR001qrP001xvZ1001iYY1001job1001hiY1001psN001WgK001WkL201wYM101q" ++
  "pP201-kK001gvS001gsT001yfU001-gU001bhU001liU001swb1001-bV001zzV101omX1101utY1201uXa1001zda1" ++
  "301ldc1001ydc1001efc1001qjd1001-ca1001trb1001kzJ001ddK001jgK001fsK001atK001nwK001ziL001cmL0" ++
  "01epL001WYM001ebM001aZN001kZN001qaO001ehO001kiO001olO001lgP001YlP001nqP001baQ001thR001wmR00" ++
  "1YvR001khS001hnS001YXT001naU001-fU001fgU001egU001mgU001sgU001zgU011jiU001WoU001XqU001W-U001" ++
  "qlV001fmV001XoV001oxV001bWW1001jlW1001vpW1001vpW1001tYX1001meY1001siY1001XuY1001vvY1001pcZ1" ++
  "001eeZ1001szZ1001uXa1001Ztb1001__b1001xXc1001rZO001ktm4001umW1201cnJ001rjK001ehK001WyJ001bg" ++
  "K001WiK001dsK001wtK001ziL001rgL001viL001YlL001wYM001pbM001agM001qgM001YpM001evM001osN001vsN" ++
  "001fxN001jzN001ucO001kgO001eeO001kiO001WhO001olO001qnO001a-O001yWP001oYP001sgP001qpP001tuP0" ++
  "01xuP001swP001vxQ001wzQ001XgR001xsR001hsR001YvR001-WS001khS001dzT001rnS001lrS001gvS001nZT00" ++
  "1ceT001xfT001zmT001_mT001gsT001xsT001qtT001gwT001WwT001icU001nrU001W-U001xZV001xgV001qlV001" ++
  "-vV001bWW1001owW1001l_W1001vxX1001XgY1001ciY1001siY1001_rY1001utY1001hsY1001XuY1001-tY1001j" ++
  "tY1001vvY1001gyY1001eeZ1001uvZ1001oZa1001via1001spa1001ypb1001Ztb1001swb1001x-b1001__b1001h" ++
  "Wc1001xXc1001ouc1001yyd1001gYg4001aYg4001r-i4001zyE001uWG001vXG001foq4001mct4001ps_4001Zwd1" ++
  "001kyd1c102c3c3002c3f3002c3i3003c3c3f3003c3c3i3002p3q3002p3q3C02qh1sh1002qh1bh1002qh1hh1002" ++
  "-h1sh1002qh1jh1502vk1qj1102ol1tj1001Yl1001mk1011pk1021xk1001el1001gl1001h1002fl1Xk1002fl1Yk" ++
  "1003fl1yj1Xk1003fl1yj1Yk1002mk1tj1002mk1uj1002mk1yj1002nk1yj1002ok1yj1002pk1yj1002qk1yj1002" ++
  "rk1yj1002sk1yj1102uk1yj1002vk1yj1002wk1yj1002xk1yj1002yk1yj1102-k1yj1102Wl1yj1002Xl1yj1102Z" ++
  "l1yj1002al1yj1102cl1yj1002dl1yj1002el1yj1002fl1yj1002gl1yj1002rk1vj1002nk1_j1002xk1_j1002al" ++
  "1_j1002mk1yk1001np1001np1001xp1001xp1001xp1001xp1001-p1001-p1001-p1001-p1001Wq1001Wq1001Wq1" ++
  "001Wq1001wp1001wp1001wp1001wp1001_p1001_p1001_p1001_p1001vp1001vp1001vp1001vp1001ar1001ar10" ++
  "01ar1001ar1001cr1001cr1001cr1001cr1001aq1001aq1001aq1001aq1001Zq1001Zq1001Zq1001Zq1001cq100" ++
  "1cq1001cq1011cq1001dq1001dq1001dq1001jq1001jq1001iq1001iq1001kq1001kq1001eq1001eq1001uq1001" ++
  "uq1001nq1001nq1001fr1001fr1001fr1001fr1001lr1001lr1001lr1001lr1001pr1001pr1001pr1001pr1001n" ++
  "r1001nr1001nr1001nr1001wr1011wr1001xr1001xr1001xr1001Ws1011Ws1001Xs1001Xs1001Xs1001-r1001-r" ++
  "1001-r1001-r1001os1011os1001ps1X101jr1001jr1001jr1001jr1001ds1001ds1001cs1001cs1001es1001es" ++
  "1002ds1qp1001hs1001hs1001bs1001bs1001fs1001fs1001ms1001ms1001ms1001ms1001fo1001fo1002cn1dn1" ++
  "002cn1dn1002cn1rs1002cn1rs1002cn1eo1002cn1eo1002cn1ds1002cn1ds1002cn1cs1002cn1cs1002cn1es10" ++
  "02cn1es1002cn1ms1002cn1ms1002cn1ms1002cn1fo1002cn1fo1002cn1fo1001is1001is1001is1001is1002cn" ++
  "1in1002cn1jn1002cn1bo1002cn1fo1002cn1go1002en1in1002en1jn1002en1kn1002en1bo1002en1fo1002en1" ++
  "go1002gn1in1002gn1jn1002gn1kn1002gn1bo1002gn1fo1002gn1go1002hn1in1002hn1bo1002hn1fo1002hn1g" ++
  "o1002in1jn1002in1bo1002jn1in1002jn1bo1002kn1in1002kn1jn1002kn1bo1002pn1in1002pn1jn1002pn1kn" ++
  "1002pn1bo1002rn1jn1002rn1bo1002sn1in1002sn1jn1002sn1kn1002sn1bo1002tn1jn1002tn1bo1002un1bo1" ++
  "002vn1in1002vn1bo1002wn1in1002wn1bo1002Xo1in1002Xo1jn1002Xo1kn1002Xo1bo1002Xo1fo1002Xo1go10" ++
  "02Yo1jn1002Yo1bo1002Yo1fo1002Yo1go1002Zo1dn1002Zo1in1002Zo1jn1002Zo1kn1002Zo1ao1002Zo1bo100" ++
  "2Zo1fo1002Zo1go1002ao1in1002ao1jn1002ao1kn1002ao1bo1002ao1fo1002ao1go1002bo1in1002bo1jn1002" ++
  "bo1kn1002bo1bo1002bo1fo1002bo1go1002co1in1002co1jn1002co1kn1002co1bo1002co1fo1002co1go1002d" ++
  "o1in1002do1bo1002do1fo1002do1go1002go1in1002go1jn1002go1kn1002go1bo1002go1fo1002go1go1002mn" ++
  "1mp1002nn1mp1002fo1mp1003W1io1no1003W1jo1no1003W1ko1no1003W1lo1no1003W1mo1no1003W1no1mp1002" ++
  "cn1nn1002cn1on1002cn1bo1002cn1co1002cn1fo1002cn1go1002en1nn1002en1on1002en1bo1002en1co1002e" ++
  "n1fo1002en1go1002gn1nn1002gn1on1002gn1bo1002gn1co1002gn1fo1002gn1go1002hn1nn1002hn1on1002hn" ++
  "1bo1002hn1co1002hn1fo1002hn1go1002Xo1fo1002Xo1go1002Yo1fo1002Yo1go1002Zo1dn1002Zo1ao1002Zo1" ++
  "bo1002Zo1fo1002Zo1go1002ao1bo1002ao1fo1002ao1go1002bo1dn1002bo1bo1002co1nn1002co1on1002co1b" ++
  "o1002co1co1002co1fo1002co1go1002fo1mp1002go1nn1002go1on1002go1bo1002go1co1002go1fo1002go1go" ++
  "1002cn1in1002cn1jn1002cn1kn1002cn1bo1002cn1do1002en1in1002en1jn1002en1kn1002en1bo1002en1do1" ++
  "002gn1in1002gn1jn1002gn1kn1002gn1bo1002gn1do1002hn1bo1002in1jn1002in1bo1002jn1in1002jn1bo10" ++
  "02kn1in1002kn1bo1002pn1in1002pn1jn1002pn1kn1002pn1bo1002rn1jn1002rn1kn1002rn1bo1002sn1in100" ++
  "2sn1jn1002sn1kn1002sn1bo1002tn1jn1002un1bo1002vn1in1002vn1bo1002wn1in1002wn1bo1002Xo1in1002" ++
  "Xo1jn1002Xo1kn1002Xo1bo1002Yo1jn1002Yo1bo1002Zo1in1002Zo1jn1002Zo1kn1002Zo1ao1002Zo1bo1002a" ++
  "o1in1002ao1jn1002ao1kn1002ao1bo1002ao1do1002bo1in1002bo1jn1002bo1kn1002bo1bo1002co1in1002co" ++
  "1jn1002co1kn1002co1bo1002co1do1002do1in1002do1bo1002do1mp1002go1in1002go1jn1002go1kn1002go1" ++
  "bo1002go1do1002cn1bo1002cn1do1002en1bo1002en1do1002gn1bo1002gn1do1002hn1bo1002hn1do1002pn1b" ++
  "o1002pn1do1002qn1bo1002qn1do1002Zo1ao1002Zo1bo1002ao1bo1002co1bo1002co1do1002go1bo1002go1do" ++
  "1003Wo1ko1no1003Wo1lo1no1003Wo1mo1no1002tn1fo1002tn1go1002vn1fo1002vn1go1002wn1fo1002wn1go1" ++
  "002pn1fo1002pn1go1002qn1fo1002qn1go1002jn1fo1002jn1go1002in1fo1002in1go1002kn1fo1002kn1go10" ++
  "02rn1fo1002rn1go1002sn1fo1002sn1go1002qn1in1002qn1jn1002qn1kn1002qn1bo1002qn1nn1002pn1nn100" ++
  "2rn1nn1002sn1nn1002tn1fo1002tn1go1002vn1fo1002vn1go1002wn1fo1002wn1go1002pn1fo1002pn1go1002" ++
  "qn1fo1002qn1go1002jn1fo1002jn1go1002in1fo1002in1go1002kn1fo1002kn1go1002rn1fo1002rn1go1002s" ++
  "n1fo1002sn1go1002qn1in1002qn1jn1002qn1kn1002qn1bo1002qn1nn1002pn1nn1002rn1nn1002sn1nn1002qn" ++
  "1in1002qn1jn1002qn1kn1002qn1bo1002pn1do1002qn1do1002tn1bo1002pn1in1002pn1jn1002pn1kn1002qn1" ++
  "in1002qn1jn1002qn1kn1002tn1bo1002un1bo1002dn1ho1002dn1ho1I03gn1in1bo1003gn1jn1in1003gn1jn1i" ++
  "n1003gn1jn1bo1003gn1kn1bo1003gn1bo1in1003gn1bo1jn1003gn1bo1kn1003in1bo1jn1003in1bo1jn1003jn" ++
  "1bo1go1003jn1bo1fo1003pn1jn1in1003pn1in1jn1003pn1in1fo1003pn1bo1jn1003pn1bo1jn1003pn1bo1in1" ++
  "003pn1bo1bo1003pn1bo1bo1003rn1jn1jn1003rn1jn1jn1003rn1bo1bo1003qn1jn1bo1003qn1jn1bo1003qn1i" ++
  "n1go1003qn1bo1kn1003qn1bo1kn1003qn1bo1bo1003qn1bo1bo1003sn1jn1fo1003sn1kn1bo1003sn1kn1bo100" ++
  "3tn1bo1jn1003tn1bo1jn1003tn1bo1bo1003tn1bo1go1003vn1in1bo1003vn1bo1bo1003vn1bo1bo1003vn1bo1" ++
  "fo1003wn1bo1bo1003wn1bo1go1003wn1bo1fo1003Xo1kn1bo1003Xo1kn1bo1003Yo1bo1jn1003Yo1bo1bo1003a" ++
  "o1jn1bo1003ao1jn1go1003ao1jn1fo1003ao1in1in1003ao1in1in1003ao1kn1bo1003ao1kn1bo1003ao1bo1jn" ++
  "1003ao1bo1jn1003bo1jn1in1003bo1jn1bo1003bo1jn1go1003bo1in1jn1003bo1in1bo1003bo1kn1in1003bo1" ++
  "kn1bo1203bo1in1kn1003do1bo1in1003do1bo1bo1003co1jn1bo1003co1jn1fo1003co1in1bo1003co1in1bo10" ++
  "03co1in1fo1003co1bo1go1003co1bo1fo1003go1bo1bo1003go1bo1bo1003en1kn1go1003gn1in1go1003gn1in" ++
  "1fo1003gn1kn1go1003gn1kn1fo1003gn1bo1go1003gn1bo1fo1003in1bo1go1003in1jn1fo1003in1bo1fo1003" ++
  "pn1kn1fo1003rn1jn1go1003qn1jn1go1003sn1jn1go1003ao1in1go1003ao1bo1go1003go1jn1go1003go1in1g" ++
  "o1003go1bo1go1003bo1bo1go1003Yo1bo1go1003co1jn1go1003Yo1bo1jn1003ao1jn1bo1003vn1bo1go1003Zo" ++
  "1bo1go1003co1in1jn1003bo1kn1go1003ao1in1bo1003Zo1bo1bo1003ao1in1bo1003co1in1jn1003in1jn1go1" ++
  "003jn1in1go1003bo1in1go1003Xo1bo1go1003en1jn1go1003Zo1bo1bo1003vn1in1bo1003rn1bo1bo1003pn1k" ++
  "n1go1003co1in1go1e103rn1ao1os1003Yo1ao1os1004dn1ao1ao1do1004dn1Zo1en1nn1004bo1jn1bo1ln1004r" ++
  "n1ao1vn1bo1004nn1pn1eo1ao1004vn1ao1go1do1004eo1pn1ao1bo1003rn1ao1fo100Irn1ao1fo1W1dn1ao1ao1" ++
  "do1W1vn1ao1go1do1W1eo1pn1ao1bo1008in1ao1W1in1ao1dn1ao1do1004nn1is1dn1ao13F0001i1001XWC111w1" ++
  "001X1001_1011sWCO01qW8001pW8001_2001_2011e1001x3001z3011qWC011mWC011gWC011eWC031iWC201x2001" ++
  "z2002W1bO002W1bO002W1bO002W1bO001_2001_2001_2001i1001XWC201x1001w1001_1001X1001qW8011e1001x" ++
  "3001z3011qWC001Z1001c1011g1001j1001y1001-1001z1101y2011a1001W2402W1ho1002Wo1ho1002W1io1102W" ++
  "1jo1102W1ko1002Wo1ko1002W1lo1002Wo1lo1002W1mo1002Wo1mo1002W1no1002Wo1no1002W1oo1002Wo1oo101" ++
  "1Xn1011Yn1011Zn1011an1011bn1001cn1001cn1011cn1011dn1001en1001en1011en1011fn1001gn1001gn1011" ++
  "gn1001hn1001hn1011hn1001in1001in1011in1001jn1001jn1011jn1001kn1001kn1011kn1011ln1011mn1011n" ++
  "n1011on1001pn1001pn1011pn1001qn1001qn1011qn1001rn1001rn1011rn1001sn1001sn1011sn1001tn1001tn" ++
  "1011tn1001un1001un1011un1001vn1001vn1011vn1001wn1001wn1001wn1001Xo1001Xo1001Xo1011Xo1001Yo1" ++
  "001Yo1011Yo1001Zo1001Zo1011Zo1001ao1001ao1011ao1001bo1001bo1011bo1001co1001co1011co1001do10" ++
  "01do1011do1011eo1011fo1001go1001go1001go1002ao1Yn1002ao1Yn1002ao1Zn1002ao1Zn1002ao1bn1002ao" ++
  "1bn1002ao1dn1002ao1dn12001V1X10P1X30Z11x2011biA001k1011iWC001XWC001xdC001odC001XbC001ZbC001" ++
  "bbC001dbC001fbC001ZdC001bdC001ddC001ZcC001ydC001YbC001abC001cbC001ebC011gbC001jbC001lbC001n" ++
  "bC001pbC001rbC001tbC001vbC001xbC001zbC001_bC001XcC001acC001ccC001ecC051gcC001ocC001rcC001uc" ++
  "C001xcC041-cC001adC001cdC051edC001ldC001pdC011vaC000011We4001gj4001Ye4011ij4021Ze4051mj4001" ++
  "we4021ce4001Xf4091fe4351Xh4251dh4251jh4221ph4311Y5001i5002W1aO001c5001b5001fb8101Ye9031mi80" ++
  "01Wj9001hk9nW1d11eXX2e4Z11ucX2y4A1tiX21E1ZjX2161pjX2111xjX2hF11mM001c7001vK001pI101ZL001cxg" ++
  "1001bL001aL011sI001ni7001uI001-I001fL001aJ001YJ001WJ001xK001d9001yK001dJ001aK011gL001iJ001a" ++
  "ut3001kyf1001kJ001but3001kK001cut3001u7011sJ001n3001wJ001eut3011zJ001WK001eL001cL001dxg1001" ++
  "dL001eK001nZB101lK011XL001uK021WE001gut3001-ut3bc1o11WcZ2z4L1mhZ2wv2V1Wcc2WiLV1Wpx2W2O1xrx2" ++
  "dlJ30oX4P1X3091m1aZ102tgq3bhq3002ugq3bhq3003ugq3bhq3khq3003ugq3bhq3lhq3003ugq3bhq3mhq3003ug" ++
  "q3bhq3nhq3003ugq3bhq3ohq3E70W202vjq3bhq3002wjq3bhq3003vjq3bhq3khq3003wjq3bhq3khq3003vjq3bhq" ++
  "3lhq3003wjq3bhq3lhq3_HP1X30P1X30P1X3061X31H1f30P1X30P1X3001X3111Z3201d3211g3231k3171p3031X3" ++
  "101c3161e31A1m30P1X30P1X3011X3131a3271g3161p31P1X3011X3131a3141f3101l3361p31P1X30P1X30P1X30" ++
  "P1X30P1X30P1X30P1X30P1X30P1X30P1X30P1X30P1X30P1X3001n9001tH2G1nT001uT061ZU001dm80G1nT001ZU0" ++
  "61ZU001Ym8001rT001uT001wT001cU001XU001WU0G1nT001uT061ZU001dm80G1nT001ZU061ZU001Ym8001rT001u" ++
  "T001wT001cU001XU001WU0G1nT001uT061ZU001dm80G1nT001ZU061ZU001Ym8001rT001uT001wT001cU001XU001" ++
  "WU0G1nT001uT061ZU001dm80G1nT001ZU061ZU001Ym8001rT001uT001wT001cU001XU001WU0G1nT001uT061ZU00" ++
  "1dm80G1nT001ZU061ZU001Ym8001rT001uT001wT001cU001XU001WU001zU001zU291m1091m1091m1091m1091m1m" ++
  "X281mX1021wX10A1-X1001hY1011jY1001fqf1001vc1001sY1001uY1001fd1001lb1001lc1081mX1011wX1011-X" ++
  "1001XY1051ZY1011gY1001na1001sY1001rY1001_Y1001hb1001nof1001nb1oa2X11Yfw3-c111dn1001in1001ln" ++
  "1101eo1001on1001jn1001tn1001go1031Zo1001pn1001vn1001Xo1001rn1001Yo1001nn1001qn1011gn1001kn1" ++
  "001mn1001sn1001un1001wn1001kp1001wr1001Xr1001lp1101en1001in1101do1201jn1101go1031Zo1001pn10" ++
  "01vn1001Xo1001rn1001Yo1101qn1011gn1001kn1101sn1101wn1601in1401jn1101go1101ao1101co1001pn100" ++
  "1vn1101rn1001Yo1101qn1201kn1101sn1101wn1101wr1101lp1101en1001in1101do1201jn1001tn1001go1001" ++
  "Zo1111bo1001pn1001vn1001Xo1001rn1001Yo1101qn1011gn1001kn1101sn1001un1001wn1001kp1101Xr1111d" ++
  "n1001in1001ln1011do1001on1001jn1001tn1001go1121ao1001pn1001vn1001Xo1001rn1001Yo1001nn1001qn" ++
  "1011gn1001kn1001mn1001sn1001un1001wn1501en1001in1001ln1101eo1001on1001jn1001tn1001go1121ao1" ++
  "001pn1001vn1001Xo1001rn1001Yo1001nn1001qn1011gn1001kn1001mn1001sn1001un1001wn1bI02m1i1002n1" ++
  "i1002o1i1002p1i1002q1i1002r1i1002s1i1002t1i1002u1i1002v1i1503e1X3f1003e1Y3f1003e1Z3f1003e1a" ++
  "3f1003e1b3f1003e1c3f1003e1d3f1003e1e3f1003e1f3f1003e1g3f1003e1h3f1003e1i3f1003e1j3f1003e1k3" ++
  "f1003e1l3f1003e1m3f1003e1n3f1003e1o3f1003e1p3f1003e1q3f1003e1r3f1003e1s3f1003e1t3f1003e1u3f" ++
  "1003e1v3f1003e1w3f1003qWCp3rWC001Z3001o3002Z3a3002t3w31P1X3002e3s3002j3s3002p3a3002p3p3003m" ++
  "3m3s3002t3Z3Q02j3Z3002j3a3002j3o3Z102a3g3l302xZChYC002pbCpbC001rbCD01hoO001twM001i-K001dcC0" ++
  "01iqJ001weM001ZlY1001ffM001arJ001WnP001XfS001viP001joK001iyN001jiK001mjP001zmK001YgV001_eT0" ++
  "01fbZ1001mdM001vXL001quR001rqO001rwO001WmJ001fmJ001gYa1001clN001jnJ001p_K001duO001mhZ1001po" ++
  "O001XiU001wpU001eWL001WqR001fuP001euP001pfT001opK001sjL001jga1403qWCivPrWC003qWCfmJrWC003qW" ++
  "CiqJrWC003qWCfyMrWC003qWCvbSrWC003qWCpoOrWC003qWCtsTrWC003qWCzsKrWC003qWCtgPrWC701tyN001l_K" ++
  "-i291m1cW_101znJ001unJ001XoJ001YfW4001WxJ001kzJ001xzJ001YWK001wZK001vaK001ddK001lcK001-aD00" ++
  "1wnX4001jgK001qgK001ahK001thK001yeX4001vbD001dhK001jiK001hgX4001tiK001ajK001isJ001ijK001rjK" ++
  "001_ka5001rlK001ZmK001_cD001xnK001coK001opK001tpK001reD001dsK001fsK001atK001wtK011buK001tuK" ++
  "001fwK001nwK001wwK001pxK001zxK001_xK001_xK001_xK001inY4001mZS001g-K001_-K001ZxY4001h_K001n_" ++
  "K001cWL001-aL001uXL001eYL001eZL001YbL001sdL001meL001pgL001ZhL001aiL001aiL001viL001hjL001pjL" ++
  "001YkL001suL001cmL001tuL001noL001qpL001dmK001kdM001k-L001q_L001jWM001hyL001oXM001nXM001ibM0" ++
  "01adb4001odM001tdM001ceM001weM001YfM001YhM001erb4001gtb4001ilM001xmM001dnM001ukM001cpM001kt" ++
  "D001ytD001euM001-vM001-vM001ekc4001Z-M001u-M001d_M001p_M001uuc4001__M001cWN001pwN001YXN001X" ++
  "yD001WZN001kZN001WcN001jaN001ald4001ZgN001cld4001khN001hhN001yhN011XlN001lXE001zlN001enN001" ++
  "znN001fpN001YZE001Zie4001yZE001mrN001prN001srN001gsN001oye5001-tN001nve4001nve4001XmW1001Yv" ++
  "N001YvN001dcE001uri4001wku4001YxN001hxN001ZdE001wyN001j-N001t-N001v_N001XaO001wfE001yeE001q" ++
  "aO001qsf4001dcO001egO001igO001kgO001igO001whO001kiO001ojO001ajO001ljO001-kO001olO001slO001m" ++
  "mO001xmO001zoO001nrO001qsO001mwO001iug4001zvO001ytO001exO001ZyO001a_O001n_g4001YXP001b-O001" ++
  "fzO001knE001fZP001-ZP001zaP001tZP001ipE001lgP001ihP001gWi4001ZlP001utP001foP001vuE001nqP001" ++
  "euE001atE001oiK001riK001WuP001yqP001jbW1001v-G001tuP001xuP001XvP001-wP001pwP001Z-i4001fwE00" ++
  "1w_P001byP001oYQ001baQ001jZj4001kaQ001_WQ001qeQ001zyE001YgQ001ZjQ001glQ001erQ001Zrj4001xsQ0" ++
  "01uWF001XvQ001dbk4001qwQ001kYF001oxQ001_yQ011wzQ001jqk4001hed4001wtk4001kYR001ybl4001_bR001" ++
  "jcR001dZR001seR001-fR001thR001XgR001fhR001uhR001biR001-el4001qfR001lnR001kpR001pfF001hsR001" ++
  "dsR001nsl4001vlR001kxR001-wl4001kyl4001c-R001vXS001-WS001xWS001siF001gYS001zZS001tZS001jbS0" ++
  "01bfX4001bgS001Zpm4001yiS001hzm4001enS001rnS001moS001emn4001WqS001rqS001rvn4001qWo4001wxS00" ++
  "1hyS001irF001bzS001urF001urF001dYT001yYT001nZT001baT001gcT001xuF001afT001sXp4001-fT001oap40" ++
  "01mhT001_ie4001mmT001Xzp4001uzp4001aYq4001y_F001eWG001qtT001pdq4001odq4001veq4001pfq4011-uT" ++
  "001_uT001gwT001vXG001hyT001cYG001saG001zWr4001kYU001iaU001icU001ZdG001cnr4001sgU001wqr4001b" ++
  "sr4001liU001hlU001lfG001WoU001goU001loU001yhs4001drs4001drs4001ktU001YmG001hzs4001c-U001f-U" ++
  "001dnG001Wat4001ocV001WrG001edV001ZdV001WeV001cyt4001ZhV001XuG001dkV001YmV001boV001qvG001en" ++
  "u4001dou4001vwG001vsu4001wxV001-vu4001ryV001w_V001bWW1001wcv4001Zfv4001WZW1001ejv4001mZW100" ++
  "1_wi4001r-G001obW1001ZeW1001hWH001-fW1001rrM001dzv4001rzv4001pyi4001yyi4001XmW1001amW1001-y" ++
  "Z1001hZH001nqW1001hqW1001zqW1001prK001nrW1001prW1001zrW1001ctW1001yvw4001btW1001zuW1001ZxW1" ++
  "001jzW1001ZvW1001zzW1001d_W1001tYX1001pwW1001g-W1001i-W1001y-W1001sXx4001hhx4001rcx4001hfH0" ++
  "01ndX1001pdX1001seX1001g-y4001ahX1001ivx4001zgH001XhH001nzx4001ocy4001hhH001moX1001yoX1001d" ++
  "pX1001fpX1001frX1001eqX1001kuX1001YtX1001vxX1001evX1001hxX1001cyX1001tkH001X_X1001XWY1001vl" ++
  "H001WZY1001ZZY1001dpz4001tcY1001-cY1001rnH001wdY1001xbD001kb-4001ch-4001-rH001dsH001WrY1001" ++
  "jtY1001gyY1001rYZ1001eb_4001hbZ1001XcZ1001xeZ1001thZ1001lv_4001aWY4001hkZ1001yjZ1001mlZ1001" ++
  "-cY4001qsZ1001uvZ1001okX5001jlX5001qaa1001nda1001nea1001kvX5001xea1001una1011tsa1001ypa1001" ++
  "v_a1001rWb1001w_Y5001hib1001riI001tjb1001thZ5001clI001Zsb1001ojN001Zvb1001bga5001wma5001kpI" ++
  "001spI001W_b1001gWb5001orI001sab5001hWc1001hWc1001fXc1001sjb5001Ydc1001pvI001ffc1001djc1001" ++
  "Ykc1001-lc1001k-I001mvc5001ouc1001WYd1001zdd1001kcJ001jdJ001dhd1001kce5001udJ001bee5001kme5" ++
  "001nqe5001xrd1001sgJ001vtd1001-td1001bud1001lud1001sud1001xvd1001Wmf5YtXMl70"

end PacketReplay.Domain
