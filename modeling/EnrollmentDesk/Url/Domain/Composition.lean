import EnrollmentDesk.Text.CodeTable

/-!
# Composed characters

A letter with an accent can be written as one character or as a letter and a combining mark, and
several marks of one letter in more than one order. The composed form (Unicode's normalization form
C) chooses one: all characters are taken apart, marks are put in the order of their combining
classes, and then each mark that makes one character with the letter before it does so.

The tables hold the characters that a mapped domain name may have, which are not capital letters.
-/

namespace EnrollmentDesk.Domain

open Text

/-- The combining classes of marks. -/
def markClasses : CodeTable Nat := .ofText ofHex "
  300-314:E6 315:E8 316-319:DC 31A:E8 31B:D8 31C-320:DC 321-322:CA 323-326:DC 327-328:CA
  329-333:DC 334-338:1 339-33C:DC 33D-346:E6 347-349:DC 34A-34C:E6 34D-34E:DC 350-352:E6
  353-356:DC 357:E6 358:E8 359-35A:DC 35B:E6 35C:E9 35D-35E:EA 35F:E9 360-361:EA 362:E9
  363-36F:E6 483-487:E6 591:DC 592-595:E6 596:DC 597-599:E6 59A:DE 59B:DC 59C-5A1:E6 5A2-5A7:DC
  5A8-5A9:E6 5AA:DC 5AB-5AC:E6 5AD:DE 5AE:E4 5AF:E6 5B0:A 5B1:B 5B2:C 5B3:D 5B4:E 5B5:F 5B6:10
  5B7:11 5B8:12 5B9-5BA:13 5BB:14 5BC:15 5BD:16 5BF:17 5C1:18 5C2:19 5C4:E6 5C5:DC 5C7:12
  610-617:E6 618:1E 619:1F 61A:20 64B:1B 64C:1C 64D:1D 64E:1E 64F:1F 650:20 651:21 652:22
  653-654:E6 655-656:DC 657-65B:E6 65C:DC 65D-65E:E6 65F:DC 670:23 6D6-6DC:E6 6DF-6E2:E6 6E3:DC
  6E4:E6 6E7-6E8:E6 6EA:DC 6EB-6EC:E6 6ED:DC 711:24 730:E6 731:DC 732-733:E6 734:DC 735-736:E6
  737-739:DC 73A:E6 73B-73C:DC 73D:E6 73E:DC 73F-741:E6 742:DC 743:E6 744:DC 745:E6 746:DC 747:E6
  748:DC 749-74A:E6 7EB-7F1:E6 7F2:DC 7F3:E6 7FD:DC 816-819:E6 81B-823:E6 825-827:E6 829-82D:E6
  859-85B:DC 898:E6 899-89B:DC 89C-89F:E6 8CA-8CE:E6 8CF-8D3:DC 8D4-8E1:E6 8E3:DC 8E4-8E5:E6
  8E6:DC 8E7-8E8:E6 8E9:DC 8EA-8EC:E6 8ED-8EF:DC 8F0:1B 8F1:1C 8F2:1D 8F3-8F5:E6 8F6:DC
  8F7-8F8:E6 8F9-8FA:DC 8FB-8FF:E6 93C:7 94D:9 951:E6 952:DC 953-954:E6 9BC:7 9CD:9 9FE:E6 A3C:7
  A4D:9 ABC:7 ACD:9 B3C:7 B4D:9 BCD:9 C3C:7 C4D:9 C55:54 C56:5B CBC:7 CCD:9 D3B-D3C:9 D4D:9 DCA:9
  E38-E39:67 E3A:9 E48-E4B:6B EB8-EB9:76 EBA:9 EC8-ECB:7A F18-F19:DC F35:DC F37:DC F39:D8 F71:81
  F72:82 F74:84 F7A-F7D:82 F80:82 F82-F83:E6 F84:9 F86-F87:E6 FC6:DC 1037:7 1039-103A:9 108D:DC
  135D-135F:E6 1714-1715:9 1734:9 17D2:9 17DD:E6 18A9:E4 1939:DE 193A:E6 193B:DC 1A17:E6 1A18:DC
  1A60:9 1A75-1A7C:E6 1A7F:DC 1AB0-1AB4:E6 1AB5-1ABA:DC 1ABB-1ABC:E6 1ABD:DC 1ABF-1AC0:DC
  1AC1-1AC2:E6 1AC3-1AC4:DC 1AC5-1AC9:E6 1ACA:DC 1ACB-1ACE:E6 1B34:7 1B44:9 1B6B:E6 1B6C:DC
  1B6D-1B73:E6 1BAA-1BAB:9 1BE6:7 1BF2-1BF3:9 1C37:7 1CD0-1CD2:E6 1CD4:1 1CD5-1CD9:DC
  1CDA-1CDB:E6 1CDC-1CDF:DC 1CE0:E6 1CE2-1CE8:1 1CED:DC 1CF4:E6 1CF8-1CF9:E6 1DC0-1DC1:E6 1DC2:DC
  1DC3-1DC9:E6 1DCA:DC 1DCB-1DCC:E6 1DCD:EA 1DCE:D6 1DCF:DC 1DD0:CA 1DD1-1DF5:E6 1DF6:E8
  1DF7-1DF8:E4 1DF9:DC 1DFA:DA 1DFB:E6 1DFC:E9 1DFD:DC 1DFE:E6 1DFF:DC 20D0-20D1:E6 20D2-20D3:1
  20D4-20D7:E6 20D8-20DA:1 20DB-20DC:E6 20E1:E6 20E5-20E6:1 20E7:E6 20E8:DC 20E9:E6 20EA-20EB:1
  20EC-20EF:DC 20F0:E6 2CEF-2CF1:E6 2D7F:9 2DE0-2DFF:E6 302A:DA 302B:E4 302C:E8 302D:DE
  302E-302F:E0 3099-309A:8 A66F:E6 A674-A67D:E6 A69E-A69F:E6 A6F0-A6F1:E6 A806:9 A82C:9 A8C4:9
  A8E0-A8F1:E6 A92B-A92D:DC A953:9 A9B3:7 A9C0:9 AAB0:E6 AAB2-AAB3:E6 AAB4:DC AAB7-AAB8:E6
  AABE-AABF:E6 AAC1:E6 AAF6:9 ABED:9 FB1E:1A FE20-FE26:E6 FE27-FE2D:DC FE2E-FE2F:E6 101FD:DC
  102E0:DC 10376-1037A:E6 10A0D:DC 10A0F:E6 10A38:E6 10A39:1 10A3A:DC 10A3F:9 10AE5:E6 10AE6:DC
  10D24-10D27:E6 10EAB-10EAC:E6 10EFD-10EFF:DC 10F46-10F47:DC 10F48-10F4A:E6 10F4B:DC 10F4C:E6
  10F4D-10F50:DC 10F82:E6 10F83:DC 10F84:E6 10F85:DC 11046:9 11070:9 1107F:9 110B9:9 110BA:7
  11100-11102:E6 11133-11134:9 11173:7 111C0:9 111CA:7 11235:9 11236:7 112E9:7 112EA:9
  1133B-1133C:7 1134D:9 11366-11374:E6 11442:9 11446:7 1145E:E6 114C2:9 114C3:7 115BF:9 115C0:7
  1163F:9 116B6:9 116B7:7 1172B:9 11839:9 1183A:7 1193D-1193E:9 11943:7 119E0:9 11A34:9 11A47:9
  11A99:9 11C3F:9 11D42:7 11D44-11D45:9 11D97:9 11F41-11F42:9 16AF0-16AF4:1 16B30-16B36:E6
  16FF0-16FF1:6 1BC9E:1 1D165-1D166:D8 1D167-1D169:1 1D16D:E2 1D16E-1D172:D8 1D17B-1D182:DC
  1D185-1D189:E6 1D18A-1D18B:DC 1D1AA-1D1AD:E6 1D242-1D244:E6 1E000-1E08F:E6 1E130-1E136:E6
  1E2AE:E6 1E2EC-1E2EF:E6 1E4EC-1E4ED:E8 1E4EE:DC 1E4EF:E6 1E8D0-1E8D6:DC 1E944-1E949:E6 1E94A:7"

/-- The characters made of two: a character, perhaps made of two itself, and what follows it. -/
def composites : CodeTable (Char × Char) := .ofText
  (fun v =>
    match parts (· = '_') v with
    | [a, b] => (Char.ofNat (ofHex a), Char.ofNat (ofHex b))
    | _ => (replacement, replacement)) "
  E0:61_300 E1:61_301 E2:61_302 E3:61_303 E4:61_308 E5:61_30A E7:63_327 E8:65_300 E9:65_301
  EA:65_302 EB:65_308 EC:69_300 ED:69_301 EE:69_302 EF:69_308 F1:6E_303 F2:6F_300 F3:6F_301
  F4:6F_302 F5:6F_303 F6:6F_308 F9:75_300 FA:75_301 FB:75_302 FC:75_308 FD:79_301 FF:79_308
  101:61_304 103:61_306 105:61_328 107:63_301 109:63_302 10B:63_307 10D:63_30C 10F:64_30C
  113:65_304 115:65_306 117:65_307 119:65_328 11B:65_30C 11D:67_302 11F:67_306 121:67_307
  123:67_327 125:68_302 129:69_303 12B:69_304 12D:69_306 12F:69_328 135:6A_302 137:6B_327
  13A:6C_301 13C:6C_327 13E:6C_30C 144:6E_301 146:6E_327 148:6E_30C 14D:6F_304 14F:6F_306
  151:6F_30B 155:72_301 157:72_327 159:72_30C 15B:73_301 15D:73_302 15F:73_327 161:73_30C
  163:74_327 165:74_30C 169:75_303 16B:75_304 16D:75_306 16F:75_30A 171:75_30B 173:75_328
  175:77_302 177:79_302 17A:7A_301 17C:7A_307 17E:7A_30C 1A1:6F_31B 1B0:75_31B 1CE:61_30C
  1D0:69_30C 1D2:6F_30C 1D4:75_30C 1D6:FC_304 1D8:FC_301 1DA:FC_30C 1DC:FC_300 1DF:E4_304
  1E1:227_304 1E3:E6_304 1E7:67_30C 1E9:6B_30C 1EB:6F_328 1ED:1EB_304 1EF:292_30C 1F0:6A_30C
  1F5:67_301 1F9:6E_300 1FB:E5_301 1FD:E6_301 1FF:F8_301 201:61_30F 203:61_311 205:65_30F
  207:65_311 209:69_30F 20B:69_311 20D:6F_30F 20F:6F_311 211:72_30F 213:72_311 215:75_30F
  217:75_311 219:73_326 21B:74_326 21F:68_30C 227:61_307 229:65_327 22B:F6_304 22D:F5_304
  22F:6F_307 231:22F_304 233:79_304 390:3CA_301 3AC:3B1_301 3AD:3B5_301 3AE:3B7_301 3AF:3B9_301
  3B0:3CB_301 3CA:3B9_308 3CB:3C5_308 3CC:3BF_301 3CD:3C5_301 3CE:3C9_301 439:438_306 450:435_300
  451:435_308 453:433_301 457:456_308 45C:43A_301 45D:438_300 45E:443_306 477:475_30F 4C2:436_306
  4D1:430_306 4D3:430_308 4D7:435_306 4DB:4D9_308 4DD:436_308 4DF:437_308 4E3:438_304 4E5:438_308
  4E7:43E_308 4EB:4E9_308 4ED:44D_308 4EF:443_304 4F1:443_308 4F3:443_30B 4F5:447_308 4F9:44B_308
  622:627_653 623:627_654 624:648_654 625:627_655 626:64A_654 6C0:6D5_654 6C2:6C1_654 6D3:6D2_654
  929:928_93C 931:930_93C 934:933_93C 9CB:9C7_9BE 9CC:9C7_9D7 B48:B47_B56 B4B:B47_B3E B4C:B47_B57
  B94:B92_BD7 BCA:BC6_BBE BCB:BC7_BBE BCC:BC6_BD7 C48:C46_C56 CC0:CBF_CD5 CC7:CC6_CD5 CC8:CC6_CD6
  CCA:CC6_CC2 CCB:CCA_CD5 D4A:D46_D3E D4B:D47_D3E D4C:D46_D57 DDA:DD9_DCA DDC:DD9_DCF DDD:DDC_DCA
  DDE:DD9_DDF 1026:1025_102E 1B06:1B05_1B35 1B08:1B07_1B35 1B0A:1B09_1B35 1B0C:1B0B_1B35
  1B0E:1B0D_1B35 1B12:1B11_1B35 1B3B:1B3A_1B35 1B3D:1B3C_1B35 1B40:1B3E_1B35 1B41:1B3F_1B35
  1B43:1B42_1B35 1E01:61_325 1E03:62_307 1E05:62_323 1E07:62_331 1E09:E7_301 1E0B:64_307
  1E0D:64_323 1E0F:64_331 1E11:64_327 1E13:64_32D 1E15:113_300 1E17:113_301 1E19:65_32D
  1E1B:65_330 1E1D:229_306 1E1F:66_307 1E21:67_304 1E23:68_307 1E25:68_323 1E27:68_308
  1E29:68_327 1E2B:68_32E 1E2D:69_330 1E2F:EF_301 1E31:6B_301 1E33:6B_323 1E35:6B_331 1E37:6C_323
  1E39:1E37_304 1E3B:6C_331 1E3D:6C_32D 1E3F:6D_301 1E41:6D_307 1E43:6D_323 1E45:6E_307
  1E47:6E_323 1E49:6E_331 1E4B:6E_32D 1E4D:F5_301 1E4F:F5_308 1E51:14D_300 1E53:14D_301
  1E55:70_301 1E57:70_307 1E59:72_307 1E5B:72_323 1E5D:1E5B_304 1E5F:72_331 1E61:73_307
  1E63:73_323 1E65:15B_307 1E67:161_307 1E69:1E63_307 1E6B:74_307 1E6D:74_323 1E6F:74_331
  1E71:74_32D 1E73:75_324 1E75:75_330 1E77:75_32D 1E79:169_301 1E7B:16B_308 1E7D:76_303
  1E7F:76_323 1E81:77_300 1E83:77_301 1E85:77_308 1E87:77_307 1E89:77_323 1E8B:78_307 1E8D:78_308
  1E8F:79_307 1E91:7A_302 1E93:7A_323 1E95:7A_331 1E96:68_331 1E97:74_308 1E98:77_30A 1E99:79_30A
  1EA1:61_323 1EA3:61_309 1EA5:E2_301 1EA7:E2_300 1EA9:E2_309 1EAB:E2_303 1EAD:1EA1_302
  1EAF:103_301 1EB1:103_300 1EB3:103_309 1EB5:103_303 1EB7:1EA1_306 1EB9:65_323 1EBB:65_309
  1EBD:65_303 1EBF:EA_301 1EC1:EA_300 1EC3:EA_309 1EC5:EA_303 1EC7:1EB9_302 1EC9:69_309
  1ECB:69_323 1ECD:6F_323 1ECF:6F_309 1ED1:F4_301 1ED3:F4_300 1ED5:F4_309 1ED7:F4_303
  1ED9:1ECD_302 1EDB:1A1_301 1EDD:1A1_300 1EDF:1A1_309 1EE1:1A1_303 1EE3:1A1_323 1EE5:75_323
  1EE7:75_309 1EE9:1B0_301 1EEB:1B0_300 1EED:1B0_309 1EEF:1B0_303 1EF1:1B0_323 1EF3:79_300
  1EF5:79_323 1EF7:79_309 1EF9:79_303 1F00:3B1_313 1F01:3B1_314 1F02:1F00_300 1F03:1F01_300
  1F04:1F00_301 1F05:1F01_301 1F06:1F00_342 1F07:1F01_342 1F10:3B5_313 1F11:3B5_314 1F12:1F10_300
  1F13:1F11_300 1F14:1F10_301 1F15:1F11_301 1F20:3B7_313 1F21:3B7_314 1F22:1F20_300 1F23:1F21_300
  1F24:1F20_301 1F25:1F21_301 1F26:1F20_342 1F27:1F21_342 1F30:3B9_313 1F31:3B9_314 1F32:1F30_300
  1F33:1F31_300 1F34:1F30_301 1F35:1F31_301 1F36:1F30_342 1F37:1F31_342 1F40:3BF_313 1F41:3BF_314
  1F42:1F40_300 1F43:1F41_300 1F44:1F40_301 1F45:1F41_301 1F50:3C5_313 1F51:3C5_314 1F52:1F50_300
  1F53:1F51_300 1F54:1F50_301 1F55:1F51_301 1F56:1F50_342 1F57:1F51_342 1F60:3C9_313 1F61:3C9_314
  1F62:1F60_300 1F63:1F61_300 1F64:1F60_301 1F65:1F61_301 1F66:1F60_342 1F67:1F61_342
  1F70:3B1_300 1F72:3B5_300 1F74:3B7_300 1F76:3B9_300 1F78:3BF_300 1F7A:3C5_300 1F7C:3C9_300
  1FB0:3B1_306 1FB1:3B1_304 1FB6:3B1_342 1FC6:3B7_342 1FD0:3B9_306 1FD1:3B9_304 1FD2:3CA_300
  1FD6:3B9_342 1FD7:3CA_342 1FE0:3C5_306 1FE1:3C5_304 1FE2:3CB_300 1FE4:3C1_313 1FE5:3C1_314
  1FE6:3C5_342 1FE7:3CB_342 1FF6:3C9_342 219A:2190_338 219B:2192_338 21AE:2194_338 21CD:21D0_338
  21CE:21D4_338 21CF:21D2_338 2204:2203_338 2209:2208_338 220C:220B_338 2224:2223_338
  2226:2225_338 2241:223C_338 2244:2243_338 2247:2245_338 2249:2248_338 2260:3D_338 2262:2261_338
  226D:224D_338 226E:3C_338 226F:3E_338 2270:2264_338 2271:2265_338 2274:2272_338 2275:2273_338
  2278:2276_338 2279:2277_338 2280:227A_338 2281:227B_338 2284:2282_338 2285:2283_338
  2288:2286_338 2289:2287_338 22AC:22A2_338 22AD:22A8_338 22AE:22A9_338 22AF:22AB_338
  22E0:227C_338 22E1:227D_338 22E2:2291_338 22E3:2292_338 22EA:22B2_338 22EB:22B3_338
  22EC:22B4_338 22ED:22B5_338 304C:304B_3099 304E:304D_3099 3050:304F_3099 3052:3051_3099
  3054:3053_3099 3056:3055_3099 3058:3057_3099 305A:3059_3099 305C:305B_3099 305E:305D_3099
  3060:305F_3099 3062:3061_3099 3065:3064_3099 3067:3066_3099 3069:3068_3099 3070:306F_3099
  3071:306F_309A 3073:3072_3099 3074:3072_309A 3076:3075_3099 3077:3075_309A 3079:3078_3099
  307A:3078_309A 307C:307B_3099 307D:307B_309A 3094:3046_3099 309E:309D_3099 30AC:30AB_3099
  30AE:30AD_3099 30B0:30AF_3099 30B2:30B1_3099 30B4:30B3_3099 30B6:30B5_3099 30B8:30B7_3099
  30BA:30B9_3099 30BC:30BB_3099 30BE:30BD_3099 30C0:30BF_3099 30C2:30C1_3099 30C5:30C4_3099
  30C7:30C6_3099 30C9:30C8_3099 30D0:30CF_3099 30D1:30CF_309A 30D3:30D2_3099 30D4:30D2_309A
  30D6:30D5_3099 30D7:30D5_309A 30D9:30D8_3099 30DA:30D8_309A 30DC:30DB_3099 30DD:30DB_309A
  30F4:30A6_3099 30F7:30EF_3099 30F8:30F0_3099 30F9:30F1_3099 30FA:30F2_3099 30FE:30FD_3099
  105C9:105D2_307 105E4:105DA_307 1109A:11099_110BA 1109C:1109B_110BA 110AB:110A5_110BA
  1112E:11131_11127 1112F:11132_11127 1134B:11347_1133E 1134C:11347_11357 11383:11382_113C9
  11385:11384_113BB 1138E:1138B_113C2 11391:11390_113C9 113C5:113C2_113C2 113C7:113C2_113B8
  113C8:113C2_113C9 114BB:114B9_114BA 114BC:114B9_114B0 114BE:114B9_114BD 115BA:115B8_115AF
  115BB:115B9_115AF 11938:11935_11930 16121:1611E_1611E 16122:1611E_16129 16123:1611E_1611F
  16124:16129_1611F 16125:1611E_16120 16126:16121_1611F 16127:16122_1611F 16128:16121_16120
  16D68:16D67_16D67 16D69:16D63_16D67 16D6A:16D69_16D67"

/-- The combining class of a character: zero unless it is a mark. -/
def markClass (c : Char) : Nat :=
  if c.toNat < 0x80 then 0 else (markClasses.get? c).getD 0

/-! ### Korean syllables

A syllable is made of a leading consonant, a vowel and perhaps a trailing consonant, and its code
point is computed from theirs. -/

/-- The code point of the first syllable. -/
def firstSyllable : Nat := 0xAC00

/-- The number of syllables. -/
def syllableCount : Nat := 11172

/-- The consonants and the vowel of a syllable. -/
def splitSyllable (c : Char) : List Char :=
  let i := c.toNat - firstSyllable
  [Char.ofNat (0x1100 + i / 588), Char.ofNat (0x1161 + i / 28 % 21)] ++
    (if i % 28 = 0 then [] else [Char.ofNat (0x11A7 + i % 28)])

/-- A syllable without a trailing consonant, or with one more character at its end. -/
def joinSyllable? (a b : Char) : Option Char :=
  let m := a.toNat
  let n := b.toNat
  if 0x1100 ≤ m && m < 0x1113 && 0x1161 ≤ n && n < 0x1176 then
    some (Char.ofNat (firstSyllable + 588 * (m - 0x1100) + 28 * (n - 0x1161)))
  else if firstSyllable ≤ m && m < firstSyllable + syllableCount &&
      (m - firstSyllable) % 28 = 0 && 0x11A7 < n && n < 0x11C3 then
    some (Char.ofNat (m + (n - 0x11A7)))
  else none

/-! ### Taking apart and composing -/

/-- The characters that a character is made of, taken apart `depth` times. -/
def takeApart : (depth : Nat) → Char → List Char
  | 0, c => [c]
  | depth + 1, c =>
    if c.toNat < 0x80 then [c]
    else if firstSyllable ≤ c.toNat && c.toNat < firstSyllable + syllableCount then splitSyllable c
    else
      match composites.get? c with
      | some (a, b) => takeApart depth a ++ [b]
      | none => [c]

/-- How many marks a composed character has at most. -/
def maxMarks : Nat := 3

/-- Puts a mark before the marks of greater class that stand last, in a text in reverse. -/
def insertMark (c : Char) : List Char → List Char
  | [] => [c]
  | d :: s => if markClass c < markClass d then d :: insertMark c s else c :: d :: s

/-- Puts the marks after each letter in the order of their classes. -/
def orderMarks (s : List Char) : List Char :=
  (s.foldl (fun done c => if markClass c = 0 then c :: done else insertMark c done) []).reverse

/-- The character that two make. -/
def compose? (a b : Char) : Option Char :=
  match joinSyllable? a b with
  | some c => some c
  | none =>
    if b.toNat < 0x80 then none
    else (composites.rows.find? fun row => row.value = (a, b)).map fun row => Char.ofNat row.first

/-- Composes what follows a letter. `marks` are those of its marks, in reverse, that stayed apart; a
character is kept from the letter by one of no smaller class between them. -/
def composeAfter (letter : Char) (marks : List Char) : List Char → List Char
  | [] => letter :: marks.reverse
  | c :: s =>
    let free := match marks with
      | [] => true
      | d :: _ => markClass d < markClass c
    match if free then compose? letter c else none with
    | some whole => composeAfter whole marks s
    | none =>
      if markClass c = 0 then letter :: marks.reverse ++ composeAfter c [] s
      else composeAfter letter (c :: marks) s

/-- Composes a text whose marks are in order. -/
def composeAll : List Char → List Char
  | [] => []
  | c :: s => if markClass c = 0 then composeAfter c [] s else c :: composeAll s

/-- The composed form of a text. -/
def composed (s : List Char) : List Char :=
  if s.all (·.toNat < 0x80) then s
  else composeAll (orderMarks (s.flatMap (takeApart maxMarks)))

end EnrollmentDesk.Domain
