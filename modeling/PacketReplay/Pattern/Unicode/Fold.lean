set_option autoImplicit false

namespace PacketReplay.Pattern.Unicode

/-- The groups, packed: for each the distance of its least member from that of the group before,
two less than its size, and the distances between its members. -/
def foldGroupsPacked : String :=
  "X20V00V00V00V00V00V00V00V00V00V01V-b800V00V00V00V00V00V00V01Vh800V00V00V00V00V00V00Vw21cNVA" ++
  "0V00V00V00V00V01VbY800V00V00V00V00V00V00V00V00V00V00V00V00V00V00V00V00V10V00V00V00V00V00V00" ++
  "V00-j7V0u3000100100100100100100100100100100100100100100100100100100100100100100100300100100" ++
  "2001001001001001001001002001001001001001001001001001001001001001001001001001001001001001001" ++
  "0020010010020Y600n600010010j600010i600i600020k200f600g600010i600k600W300o600m600010Y500Wof1" ++
  "00o600q600X400r600010010010v600010v620010v600010u600u600010010w600030020t141002100210020010" ++
  "0100100100100100100200100100100100100100100100210020030010010010010010010010010010010010010" ++
  "010010010010010010010030010010010010010010010010070gnA00020dnA00-nA00-nA00020a200c200010010" ++
  "010010010-mA00xmA00zmA90kgf140ggf120chf100dff100Zgf130Zgf100slA00Wgf140ylAB0clA40Ygf140fff1" ++
  "L0qef100nef1c52p2VaW7g10010030040X400X400X410p360b110a100a100a110_110-100-100YY700V01VT00V0" ++
  "0V01V_100V00V02VOY111Vr100V10V00V00V01VL01Vl111U000V00V01VE00V00V01Vyg700V00V40oX7U07800100" ++
  "10010010010010010010010010010030640020050l200l200l200l200l200l200l200l200l200l200l200l200l2" ++
  "00l200l200l200V00V01VjY600V01ViY600V00V00V00V00V00V00V00V00V01VZY600V00V01VXY602VXY6000V00V" ++
  "00V00V00V00V00V01VxX600V00V00V00V00Vm100110ZX6100100100100100100100100100100100100100100100" ++
  "90010010010010010010010010010010010010010010010010010010010010010010010010010010010E0001001" ++
  "0010010010010020010010010010010010010010010010010010010010010010010010010010010010010010010" ++
  "010010010010010010010010010010010010010010010010010010010010010010020l100l100l100l100l100l1" ++
  "00l100l100l100l100l100l100l100l100l100l100l100l100l100l100l100l100l100l100l100l100l100l100l" ++
  "100l100l100l100l100l100l100l100l100l1fw20_Y700_Y700_Y700_Y700_Y700_Y700_Y700_Y700_Y700_Y700" ++
  "_Y700_Y700_Y700_Y700_Y700_Y700_Y700_Y700_Y700_Y700_Y700_Y700_Y700_Y700_Y700_Y700_Y700_Y700_" ++
  "Y700_Y700_Y700_Y700_Y700_Y700_Y700_Y700_Y700_Y710_Y750_Y720_z200_z200_z200_z200_z200_z200_z" ++
  "200_z200_z200_z200_z200_z200_z200_z200_z200_z200_z200_z200_z200_z200_z200_z200_z200_z200_z2" ++
  "00_z200_z200_z200_z200_z200_z200_z200_z200_z200_z200_z200_z200_z200_z200_z200_z200_z200_z22" ++
  "0_z200_z200_z2WL0l-b100l-b100l-b100l-b100l-b100l-b100l-b100l-b100l-b100l-b100l-b100l-b100l-" ++
  "b100l-b100l-b100l-b100l-b100l-b100l-b100l-b100l-b100l-b100l-b100l-b100l-b100l-b100l-b100l-b" ++
  "100l-b100l-b100l-b100l-b100l-b100l-b100l-b100l-b100l-b100l-b100l-b100l-b100l-b100l-b100l-b1" ++
  "00l-b100l-b100l-b100l-b100l-b100l-b100l-b100l-b100l-b100l-b100l-b100l-b100l-b100l-b100l-b10" ++
  "0l-b100l-b100l-b100l-b100l-b100l-b100l-b100l-b100l-b100l-b100l-b100l-b100l-b100l-b100l-b100" ++
  "l-b100l-b100l-b100l-b100l-b100l-b100l-b1007007007007007007oa21XkY10000l70ZmY130bt3G0tnY1n30" ++
  "0100100100100100100100100100100100100100100100100100100100100100100100100100100100100100100" ++
  "100100100100100100100100100100100100100100100100100110v110010010010010010010010010010010010" ++
  "0100100100100100100100100100100100100100100B00100100100100100100100100100100100100100100100" ++
  "1001001001001001001001001001001001001001001001001001001001001001001001001001001001001001001" ++
  "00100107007007007007007007007807007007007007007A0700700700700700700700780700700700700700700" ++
  "7007807007007007007007B0710710710780700700700700700700700780f200f200r200r200r200r200Z300Z30" ++
  "0_300_300l300l300z300z320700700700700700700700780700700700700700700700780700700700700700700" ++
  "7007807007108F08C07007E07007306D08-90Rj10F00F00F00F00F00F00F00F00F00F00F00F00F00F00F00FJ00o" ++
  "P0P00P00P00P00P00P00P00P00P00P00P00P00P00P00P00P00P00P00P00P00P00P00P00P00P00Pmv10l100l100l" ++
  "100l100l100l100l100l100l100l100l100l100l100l100l100l100l100l100l100l100l100l100l100l100l100" ++
  "l100l100l100l100l100l100l100l100l100l100l100l100l100l100l100l100l100l100l100l100l100l100l1m" ++
  "100600100100600200A001001001001001001001001001001001001001001001001001001001001001001001001" ++
  "00100100100100100100100100100100100100100100100100100100100100100100100100100800100400jgU00" ++
  "100100100100300100100100100100100100100100100100100100100100100J001001001001001001001001001" ++
  "00100100100100d4001001001001001001003001001001001001001001001001001001001001001001001001001" ++
  "00100100100100100100100100100100100100A0010020010010010010040040010010l11001001001001001001" ++
  "00100100100A0_S000100100100100100100100400100200300500100100Q00luK00xW10V00V00V00V00V00V00V" ++
  "00V00V00V00V00V00V00V00V00V00V00V00V00V00V00V00V00V00V00Vbc10d100d100d100d100d100d100d100d1" ++
  "00d100d100d100d100d100d100d100d100d100d100d100d100d100d100d100d100d100d100d100d100d100d100d" ++
  "100d100d100d100d100d100d100d100d100d1e40d100d100d100d100d100d100d100d100d100d100d100d100d10" ++
  "0d100d100d100d100d100d100d100d100d100d100d100d100d100d100d100d100d100d100d100d100d100d100d1" ++
  "y40c100c100c100c100c100c100c100c100c100c100c110c100c100c100c100c100c100c100c100c100c100c100" ++
  "c100c100c100c110c100c100c100c100c100c100c110c100c1gt10_100_100_100_100_100_100_100_100_100_" ++
  "100_100_100_100_100_100_100_100_100_100_100_100_100_100_100_100_100_100_100_100_100_100_100" ++
  "_100_100_100_100_100_100_100_100_100_100_100_100_100_100_100_100_100_100_1z40V00V00V00V00V0" ++
  "0V00V00V00V00V00V00V00V00V00V00V00V00V00V00V00V00Vwv20V00V00V00V00V00V00V00V00V00V00V00V00V" ++
  "00V00V00V00V00V00V00V00V00V00V00V00V00V00V00V00V00V00V00VWiL0V00V00V00V00V00V00V00V00V00V00" ++
  "V00V00V00V00V00V00V00V00V00V00V00V00V00V00V00V00V00V00V00V00V00VWrU0X100X100X100X100X100X10" ++
  "0X100X100X100X100X100X100X100X100X100X100X100X100X100X100X100X100X100X100X100X100X100X100X1" ++
  "00X100X100X100X100X1"

end PacketReplay.Pattern.Unicode
