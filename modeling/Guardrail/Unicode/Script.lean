import Guardrail.Unicode.Ranges

/-!
# Scripts

The script of each code point, the scripts that some characters are used in besides their own, and
the names under which scripts are known.
-/

namespace Guardrail.Unicode

/-- The scripts in ascending order of code points: each word gives the last code point of a run,
and the script of the run. -/
def scriptRuns : List (Nat × String) :=
  runsOfText
  ["40:Zyyy 5A:Latn 60:Zyyy 7A:Latn A9:Zyyy AA:Latn B9:Zyyy BA:Latn BF:Zyyy D6:Latn D7:Zyyy",
   "F6:Latn F7:Zyyy 2B8:Latn 2DF:Zyyy 2E4:Latn 2E9:Zyyy 2EB:Bopo 2FF:Zyyy 36F:Zinh 373:Grek",
   "374:Zyyy 377:Grek 379:Zzzz 37D:Grek 37E:Zyyy 37F:Grek 383:Zzzz 384:Grek 385:Zyyy 386:Grek",
   "387:Zyyy 38A:Grek 38B:Zzzz 38C:Grek 38D:Zzzz 3A1:Grek 3A2:Zzzz 3E1:Grek 3EF:Copt 3FF:Grek",
   "484:Cyrl 486:Zinh 52F:Cyrl 530:Zzzz 556:Armn 558:Zzzz 58A:Armn 58C:Zzzz 58F:Armn 590:Zzzz",
   "5C7:Hebr 5CF:Zzzz 5EA:Hebr 5EE:Zzzz 5F4:Hebr 5FF:Zzzz 604:Arab 605:Zyyy 60B:Arab 60C:Zyyy",
   "61A:Arab 61B:Zyyy 61E:Arab 61F:Zyyy 63F:Arab 640:Zyyy 64A:Arab 655:Zinh 66F:Arab 670:Zinh",
   "6DC:Arab 6DD:Zyyy 6FF:Arab 70D:Syrc 70E:Zzzz 74A:Syrc 74C:Zzzz 74F:Syrc 77F:Arab 7B1:Thaa",
   "7BF:Zzzz 7FA:Nkoo 7FC:Zzzz 7FF:Nkoo 82D:Samr 82F:Zzzz 83E:Samr 83F:Zzzz 85B:Mand 85D:Zzzz",
   "85E:Mand 85F:Zzzz 86A:Syrc 86F:Zzzz 88E:Arab 88F:Zzzz 891:Arab 896:Zzzz 8E1:Arab 8E2:Zyyy",
   "8FF:Arab 950:Deva 954:Zinh 963:Deva 965:Zyyy 97F:Deva 983:Beng 984:Zzzz 98C:Beng 98E:Zzzz",
   "990:Beng 992:Zzzz 9A8:Beng 9A9:Zzzz 9B0:Beng 9B1:Zzzz 9B2:Beng 9B5:Zzzz 9B9:Beng 9BB:Zzzz",
   "9C4:Beng 9C6:Zzzz 9C8:Beng 9CA:Zzzz 9CE:Beng 9D6:Zzzz 9D7:Beng 9DB:Zzzz 9DD:Beng 9DE:Zzzz",
   "9E3:Beng 9E5:Zzzz 9FE:Beng A00:Zzzz A03:Guru A04:Zzzz A0A:Guru A0E:Zzzz A10:Guru A12:Zzzz",
   "A28:Guru A29:Zzzz A30:Guru A31:Zzzz A33:Guru A34:Zzzz A36:Guru A37:Zzzz A39:Guru A3B:Zzzz",
   "A3C:Guru A3D:Zzzz A42:Guru A46:Zzzz A48:Guru A4A:Zzzz A4D:Guru A50:Zzzz A51:Guru A58:Zzzz",
   "A5C:Guru A5D:Zzzz A5E:Guru A65:Zzzz A76:Guru A80:Zzzz A83:Gujr A84:Zzzz A8D:Gujr A8E:Zzzz",
   "A91:Gujr A92:Zzzz AA8:Gujr AA9:Zzzz AB0:Gujr AB1:Zzzz AB3:Gujr AB4:Zzzz AB9:Gujr ABB:Zzzz",
   "AC5:Gujr AC6:Zzzz AC9:Gujr ACA:Zzzz ACD:Gujr ACF:Zzzz AD0:Gujr ADF:Zzzz AE3:Gujr AE5:Zzzz",
   "AF1:Gujr AF8:Zzzz AFF:Gujr B00:Zzzz B03:Orya B04:Zzzz B0C:Orya B0E:Zzzz B10:Orya B12:Zzzz",
   "B28:Orya B29:Zzzz B30:Orya B31:Zzzz B33:Orya B34:Zzzz B39:Orya B3B:Zzzz B44:Orya B46:Zzzz",
   "B48:Orya B4A:Zzzz B4D:Orya B54:Zzzz B57:Orya B5B:Zzzz B5D:Orya B5E:Zzzz B63:Orya B65:Zzzz",
   "B77:Orya B81:Zzzz B83:Taml B84:Zzzz B8A:Taml B8D:Zzzz B90:Taml B91:Zzzz B95:Taml B98:Zzzz",
   "B9A:Taml B9B:Zzzz B9C:Taml B9D:Zzzz B9F:Taml BA2:Zzzz BA4:Taml BA7:Zzzz BAA:Taml BAD:Zzzz",
   "BB9:Taml BBD:Zzzz BC2:Taml BC5:Zzzz BC8:Taml BC9:Zzzz BCD:Taml BCF:Zzzz BD0:Taml BD6:Zzzz",
   "BD7:Taml BE5:Zzzz BFA:Taml BFF:Zzzz C0C:Telu C0D:Zzzz C10:Telu C11:Zzzz C28:Telu C29:Zzzz",
   "C39:Telu C3B:Zzzz C44:Telu C45:Zzzz C48:Telu C49:Zzzz C4D:Telu C54:Zzzz C56:Telu C57:Zzzz",
   "C5A:Telu C5C:Zzzz C5D:Telu C5F:Zzzz C63:Telu C65:Zzzz C6F:Telu C76:Zzzz C7F:Telu C8C:Knda",
   "C8D:Zzzz C90:Knda C91:Zzzz CA8:Knda CA9:Zzzz CB3:Knda CB4:Zzzz CB9:Knda CBB:Zzzz CC4:Knda",
   "CC5:Zzzz CC8:Knda CC9:Zzzz CCD:Knda CD4:Zzzz CD6:Knda CDC:Zzzz CDE:Knda CDF:Zzzz CE3:Knda",
   "CE5:Zzzz CEF:Knda CF0:Zzzz CF3:Knda CFF:Zzzz D0C:Mlym D0D:Zzzz D10:Mlym D11:Zzzz D44:Mlym",
   "D45:Zzzz D48:Mlym D49:Zzzz D4F:Mlym D53:Zzzz D63:Mlym D65:Zzzz D7F:Mlym D80:Zzzz D83:Sinh",
   "D84:Zzzz D96:Sinh D99:Zzzz DB1:Sinh DB2:Zzzz DBB:Sinh DBC:Zzzz DBD:Sinh DBF:Zzzz DC6:Sinh",
   "DC9:Zzzz DCA:Sinh DCE:Zzzz DD4:Sinh DD5:Zzzz DD6:Sinh DD7:Zzzz DDF:Sinh DE5:Zzzz DEF:Sinh",
   "DF1:Zzzz DF4:Sinh E00:Zzzz E3A:Thai E3E:Zzzz E3F:Zyyy E5B:Thai E80:Zzzz E82:Laoo E83:Zzzz",
   "E84:Laoo E85:Zzzz E8A:Laoo E8B:Zzzz EA3:Laoo EA4:Zzzz EA5:Laoo EA6:Zzzz EBD:Laoo EBF:Zzzz",
   "EC4:Laoo EC5:Zzzz EC6:Laoo EC7:Zzzz ECE:Laoo ECF:Zzzz ED9:Laoo EDB:Zzzz EDF:Laoo EFF:Zzzz",
   "F47:Tibt F48:Zzzz F6C:Tibt F70:Zzzz F97:Tibt F98:Zzzz FBC:Tibt FBD:Zzzz FCC:Tibt FCD:Zzzz",
   "FD4:Tibt FD8:Zyyy FDA:Tibt FFF:Zzzz 109F:Mymr 10C5:Geor 10C6:Zzzz 10C7:Geor 10CC:Zzzz",
   "10CD:Geor 10CF:Zzzz 10FA:Geor 10FB:Zyyy 10FF:Geor 11FF:Hang 1248:Ethi 1249:Zzzz 124D:Ethi",
   "124F:Zzzz 1256:Ethi 1257:Zzzz 1258:Ethi 1259:Zzzz 125D:Ethi 125F:Zzzz 1288:Ethi 1289:Zzzz",
   "128D:Ethi 128F:Zzzz 12B0:Ethi 12B1:Zzzz 12B5:Ethi 12B7:Zzzz 12BE:Ethi 12BF:Zzzz 12C0:Ethi",
   "12C1:Zzzz 12C5:Ethi 12C7:Zzzz 12D6:Ethi 12D7:Zzzz 1310:Ethi 1311:Zzzz 1315:Ethi 1317:Zzzz",
   "135A:Ethi 135C:Zzzz 137C:Ethi 137F:Zzzz 1399:Ethi 139F:Zzzz 13F5:Cher 13F7:Zzzz 13FD:Cher",
   "13FF:Zzzz 167F:Cans 169C:Ogam 169F:Zzzz 16EA:Runr 16ED:Zyyy 16F8:Runr 16FF:Zzzz 1715:Tglg",
   "171E:Zzzz 171F:Tglg 1734:Hano 1736:Zyyy 173F:Zzzz 1753:Buhd 175F:Zzzz 176C:Tagb 176D:Zzzz",
   "1770:Tagb 1771:Zzzz 1773:Tagb 177F:Zzzz 17DD:Khmr 17DF:Zzzz 17E9:Khmr 17EF:Zzzz 17F9:Khmr",
   "17FF:Zzzz 1801:Mong 1803:Zyyy 1804:Mong 1805:Zyyy 1819:Mong 181F:Zzzz 1878:Mong 187F:Zzzz",
   "18AA:Mong 18AF:Zzzz 18F5:Cans 18FF:Zzzz 191E:Limb 191F:Zzzz 192B:Limb 192F:Zzzz 193B:Limb",
   "193F:Zzzz 1940:Limb 1943:Zzzz 194F:Limb 196D:Tale 196F:Zzzz 1974:Tale 197F:Zzzz 19AB:Talu",
   "19AF:Zzzz 19C9:Talu 19CF:Zzzz 19DA:Talu 19DD:Zzzz 19DF:Talu 19FF:Khmr 1A1B:Bugi 1A1D:Zzzz",
   "1A1F:Bugi 1A5E:Lana 1A5F:Zzzz 1A7C:Lana 1A7E:Zzzz 1A89:Lana 1A8F:Zzzz 1A99:Lana 1A9F:Zzzz",
   "1AAD:Lana 1AAF:Zzzz 1ACE:Zinh 1AFF:Zzzz 1B4C:Bali 1B4D:Zzzz 1B7F:Bali 1BBF:Sund 1BF3:Batk",
   "1BFB:Zzzz 1BFF:Batk 1C37:Lepc 1C3A:Zzzz 1C49:Lepc 1C4C:Zzzz 1C4F:Lepc 1C7F:Olck 1C8A:Cyrl",
   "1C8F:Zzzz 1CBA:Geor 1CBC:Zzzz 1CBF:Geor 1CC7:Sund 1CCF:Zzzz 1CD2:Zinh 1CD3:Zyyy 1CE0:Zinh",
   "1CE1:Zyyy 1CE8:Zinh 1CEC:Zyyy 1CED:Zinh 1CF3:Zyyy 1CF4:Zinh 1CF7:Zyyy 1CF9:Zinh 1CFA:Zyyy",
   "1CFF:Zzzz 1D25:Latn 1D2A:Grek 1D2B:Cyrl 1D5C:Latn 1D61:Grek 1D65:Latn 1D6A:Grek 1D77:Latn",
   "1D78:Cyrl 1DBE:Latn 1DBF:Grek 1DFF:Zinh 1EFF:Latn 1F15:Grek 1F17:Zzzz 1F1D:Grek 1F1F:Zzzz",
   "1F45:Grek 1F47:Zzzz 1F4D:Grek 1F4F:Zzzz 1F57:Grek 1F58:Zzzz 1F59:Grek 1F5A:Zzzz 1F5B:Grek",
   "1F5C:Zzzz 1F5D:Grek 1F5E:Zzzz 1F7D:Grek 1F7F:Zzzz 1FB4:Grek 1FB5:Zzzz 1FC4:Grek 1FC5:Zzzz",
   "1FD3:Grek 1FD5:Zzzz 1FDB:Grek 1FDC:Zzzz 1FEF:Grek 1FF1:Zzzz 1FF4:Grek 1FF5:Zzzz 1FFE:Grek",
   "1FFF:Zzzz 200B:Zyyy 200D:Zinh 2064:Zyyy 2065:Zzzz 2070:Zyyy 2071:Latn 2073:Zzzz 207E:Zyyy",
   "207F:Latn 208E:Zyyy 208F:Zzzz 209C:Latn 209F:Zzzz 20C0:Zyyy 20CF:Zzzz 20F0:Zinh 20FF:Zzzz",
   "2125:Zyyy 2126:Grek 2129:Zyyy 212B:Latn 2131:Zyyy 2132:Latn 214D:Zyyy 214E:Latn 215F:Zyyy",
   "2188:Latn 218B:Zyyy 218F:Zzzz 2429:Zyyy 243F:Zzzz 244A:Zyyy 245F:Zzzz 27FF:Zyyy 28FF:Brai",
   "2B73:Zyyy 2B75:Zzzz 2B95:Zyyy 2B96:Zzzz 2BFF:Zyyy 2C5F:Glag 2C7F:Latn 2CF3:Copt 2CF8:Zzzz",
   "2CFF:Copt 2D25:Geor 2D26:Zzzz 2D27:Geor 2D2C:Zzzz 2D2D:Geor 2D2F:Zzzz 2D67:Tfng 2D6E:Zzzz",
   "2D70:Tfng 2D7E:Zzzz 2D7F:Tfng 2D96:Ethi 2D9F:Zzzz 2DA6:Ethi 2DA7:Zzzz 2DAE:Ethi 2DAF:Zzzz",
   "2DB6:Ethi 2DB7:Zzzz 2DBE:Ethi 2DBF:Zzzz 2DC6:Ethi 2DC7:Zzzz 2DCE:Ethi 2DCF:Zzzz 2DD6:Ethi",
   "2DD7:Zzzz 2DDE:Ethi 2DDF:Zzzz 2DFF:Cyrl 2E5D:Zyyy 2E7F:Zzzz 2E99:Hani 2E9A:Zzzz 2EF3:Hani",
   "2EFF:Zzzz 2FD5:Hani 2FEF:Zzzz 3004:Zyyy 3005:Hani 3006:Zyyy 3007:Hani 3020:Zyyy 3029:Hani",
   "302D:Zinh 302F:Hang 3037:Zyyy 303B:Hani 303F:Zyyy 3040:Zzzz 3096:Hira 3098:Zzzz 309A:Zinh",
   "309C:Zyyy 309F:Hira 30A0:Zyyy 30FA:Kana 30FC:Zyyy 30FF:Kana 3104:Zzzz 312F:Bopo 3130:Zzzz",
   "318E:Hang 318F:Zzzz 319F:Zyyy 31BF:Bopo 31E5:Zyyy 31EE:Zzzz 31EF:Zyyy 31FF:Kana 321E:Hang",
   "321F:Zzzz 325F:Zyyy 327E:Hang 32CF:Zyyy 32FE:Kana 32FF:Zyyy 3357:Kana 33FF:Zyyy 4DBF:Hani",
   "4DFF:Zyyy 9FFF:Hani A48C:Yiii A48F:Zzzz A4C6:Yiii A4CF:Zzzz A4FF:Lisu A62B:Vaii A63F:Zzzz",
   "A69F:Cyrl A6F7:Bamu A6FF:Zzzz A721:Zyyy A787:Latn A78A:Zyyy A7CD:Latn A7CF:Zzzz A7D1:Latn",
   "A7D2:Zzzz A7D3:Latn A7D4:Zzzz A7DC:Latn A7F1:Zzzz A7FF:Latn A82C:Sylo A82F:Zzzz A839:Zyyy",
   "A83F:Zzzz A877:Phag A87F:Zzzz A8C5:Saur A8CD:Zzzz A8D9:Saur A8DF:Zzzz A8FF:Deva A92D:Kali",
   "A92E:Zyyy A92F:Kali A953:Rjng A95E:Zzzz A95F:Rjng A97C:Hang A97F:Zzzz A9CD:Java A9CE:Zzzz",
   "A9CF:Zyyy A9D9:Java A9DD:Zzzz A9DF:Java A9FE:Mymr A9FF:Zzzz AA36:Cham AA3F:Zzzz AA4D:Cham",
   "AA4F:Zzzz AA59:Cham AA5B:Zzzz AA5F:Cham AA7F:Mymr AAC2:Tavt AADA:Zzzz AADF:Tavt AAF6:Mtei",
   "AB00:Zzzz AB06:Ethi AB08:Zzzz AB0E:Ethi AB10:Zzzz AB16:Ethi AB1F:Zzzz AB26:Ethi AB27:Zzzz",
   "AB2E:Ethi AB2F:Zzzz AB5A:Latn AB5B:Zyyy AB64:Latn AB65:Grek AB69:Latn AB6B:Zyyy AB6F:Zzzz",
   "ABBF:Cher ABED:Mtei ABEF:Zzzz ABF9:Mtei ABFF:Zzzz D7A3:Hang D7AF:Zzzz D7C6:Hang D7CA:Zzzz",
   "D7FB:Hang F8FF:Zzzz FA6D:Hani FA6F:Zzzz FAD9:Hani FAFF:Zzzz FB06:Latn FB12:Zzzz FB17:Armn",
   "FB1C:Zzzz FB36:Hebr FB37:Zzzz FB3C:Hebr FB3D:Zzzz FB3E:Hebr FB3F:Zzzz FB41:Hebr FB42:Zzzz",
   "FB44:Hebr FB45:Zzzz FB4F:Hebr FBC2:Arab FBD2:Zzzz FD3D:Arab FD3F:Zyyy FD8F:Arab FD91:Zzzz",
   "FDC7:Arab FDCE:Zzzz FDCF:Arab FDEF:Zzzz FDFF:Arab FE0F:Zinh FE19:Zyyy FE1F:Zzzz FE2D:Zinh",
   "FE2F:Cyrl FE52:Zyyy FE53:Zzzz FE66:Zyyy FE67:Zzzz FE6B:Zyyy FE6F:Zzzz FE74:Arab FE75:Zzzz",
   "FEFC:Arab FEFE:Zzzz FEFF:Zyyy FF00:Zzzz FF20:Zyyy FF3A:Latn FF40:Zyyy FF5A:Latn FF65:Zyyy",
   "FF6F:Kana FF70:Zyyy FF9D:Kana FF9F:Zyyy FFBE:Hang FFC1:Zzzz FFC7:Hang FFC9:Zzzz FFCF:Hang",
   "FFD1:Zzzz FFD7:Hang FFD9:Zzzz FFDC:Hang FFDF:Zzzz FFE6:Zyyy FFE7:Zzzz FFEE:Zyyy FFF8:Zzzz",
   "FFFD:Zyyy FFFF:Zzzz 1000B:Linb 1000C:Zzzz 10026:Linb 10027:Zzzz 1003A:Linb 1003B:Zzzz",
   "1003D:Linb 1003E:Zzzz 1004D:Linb 1004F:Zzzz 1005D:Linb 1007F:Zzzz 100FA:Linb 100FF:Zzzz",
   "10102:Zyyy 10106:Zzzz 10133:Zyyy 10136:Zzzz 1013F:Zyyy 1018E:Grek 1018F:Zzzz 1019C:Zyyy",
   "1019F:Zzzz 101A0:Grek 101CF:Zzzz 101FC:Zyyy 101FD:Zinh 1027F:Zzzz 1029C:Lyci 1029F:Zzzz",
   "102D0:Cari 102DF:Zzzz 102E0:Zinh 102FB:Zyyy 102FF:Zzzz 10323:Ital 1032C:Zzzz 1032F:Ital",
   "1034A:Goth 1034F:Zzzz 1037A:Perm 1037F:Zzzz 1039D:Ugar 1039E:Zzzz 1039F:Ugar 103C3:Xpeo",
   "103C7:Zzzz 103D5:Xpeo 103FF:Zzzz 1044F:Dsrt 1047F:Shaw 1049D:Osma 1049F:Zzzz 104A9:Osma",
   "104AF:Zzzz 104D3:Osge 104D7:Zzzz 104FB:Osge 104FF:Zzzz 10527:Elba 1052F:Zzzz 10563:Aghb",
   "1056E:Zzzz 1056F:Aghb 1057A:Vith 1057B:Zzzz 1058A:Vith 1058B:Zzzz 10592:Vith 10593:Zzzz",
   "10595:Vith 10596:Zzzz 105A1:Vith 105A2:Zzzz 105B1:Vith 105B2:Zzzz 105B9:Vith 105BA:Zzzz",
   "105BC:Vith 105BF:Zzzz 105F3:Todr 105FF:Zzzz 10736:Lina 1073F:Zzzz 10755:Lina 1075F:Zzzz",
   "10767:Lina 1077F:Zzzz 10785:Latn 10786:Zzzz 107B0:Latn 107B1:Zzzz 107BA:Latn 107FF:Zzzz",
   "10805:Cprt 10807:Zzzz 10808:Cprt 10809:Zzzz 10835:Cprt 10836:Zzzz 10838:Cprt 1083B:Zzzz",
   "1083C:Cprt 1083E:Zzzz 1083F:Cprt 10855:Armi 10856:Zzzz 1085F:Armi 1087F:Palm 1089E:Nbat",
   "108A6:Zzzz 108AF:Nbat 108DF:Zzzz 108F2:Hatr 108F3:Zzzz 108F5:Hatr 108FA:Zzzz 108FF:Hatr",
   "1091B:Phnx 1091E:Zzzz 1091F:Phnx 10939:Lydi 1093E:Zzzz 1093F:Lydi 1097F:Zzzz 1099F:Mero",
   "109B7:Merc 109BB:Zzzz 109CF:Merc 109D1:Zzzz 109FF:Merc 10A03:Khar 10A04:Zzzz 10A06:Khar",
   "10A0B:Zzzz 10A13:Khar 10A14:Zzzz 10A17:Khar 10A18:Zzzz 10A35:Khar 10A37:Zzzz 10A3A:Khar",
   "10A3E:Zzzz 10A48:Khar 10A4F:Zzzz 10A58:Khar 10A5F:Zzzz 10A7F:Sarb 10A9F:Narb 10ABF:Zzzz",
   "10AE6:Mani 10AEA:Zzzz 10AF6:Mani 10AFF:Zzzz 10B35:Avst 10B38:Zzzz 10B3F:Avst 10B55:Prti",
   "10B57:Zzzz 10B5F:Prti 10B72:Phli 10B77:Zzzz 10B7F:Phli 10B91:Phlp 10B98:Zzzz 10B9C:Phlp",
   "10BA8:Zzzz 10BAF:Phlp 10BFF:Zzzz 10C48:Orkh 10C7F:Zzzz 10CB2:Hung 10CBF:Zzzz 10CF2:Hung",
   "10CF9:Zzzz 10CFF:Hung 10D27:Rohg 10D2F:Zzzz 10D39:Rohg 10D3F:Zzzz 10D65:Gara 10D68:Zzzz",
   "10D85:Gara 10D8D:Zzzz 10D8F:Gara 10E5F:Zzzz 10E7E:Arab 10E7F:Zzzz 10EA9:Yezi 10EAA:Zzzz",
   "10EAD:Yezi 10EAF:Zzzz 10EB1:Yezi 10EC1:Zzzz 10EC4:Arab 10EFB:Zzzz 10EFF:Arab 10F27:Sogo",
   "10F2F:Zzzz 10F59:Sogd 10F6F:Zzzz 10F89:Ougr 10FAF:Zzzz 10FCB:Chrs 10FDF:Zzzz 10FF6:Elym",
   "10FFF:Zzzz 1104D:Brah 11051:Zzzz 11075:Brah 1107E:Zzzz 1107F:Brah 110C2:Kthi 110CC:Zzzz",
   "110CD:Kthi 110CF:Zzzz 110E8:Sora 110EF:Zzzz 110F9:Sora 110FF:Zzzz 11134:Cakm 11135:Zzzz",
   "11147:Cakm 1114F:Zzzz 11176:Mahj 1117F:Zzzz 111DF:Shrd 111E0:Zzzz 111F4:Sinh 111FF:Zzzz",
   "11211:Khoj 11212:Zzzz 11241:Khoj 1127F:Zzzz 11286:Mult 11287:Zzzz 11288:Mult 11289:Zzzz",
   "1128D:Mult 1128E:Zzzz 1129D:Mult 1129E:Zzzz 112A9:Mult 112AF:Zzzz 112EA:Sind 112EF:Zzzz",
   "112F9:Sind 112FF:Zzzz 11303:Gran 11304:Zzzz 1130C:Gran 1130E:Zzzz 11310:Gran 11312:Zzzz",
   "11328:Gran 11329:Zzzz 11330:Gran 11331:Zzzz 11333:Gran 11334:Zzzz 11339:Gran 1133A:Zzzz",
   "1133B:Zinh 11344:Gran 11346:Zzzz 11348:Gran 1134A:Zzzz 1134D:Gran 1134F:Zzzz 11350:Gran",
   "11356:Zzzz 11357:Gran 1135C:Zzzz 11363:Gran 11365:Zzzz 1136C:Gran 1136F:Zzzz 11374:Gran",
   "1137F:Zzzz 11389:Tutg 1138A:Zzzz 1138B:Tutg 1138D:Zzzz 1138E:Tutg 1138F:Zzzz 113B5:Tutg",
   "113B6:Zzzz 113C0:Tutg 113C1:Zzzz 113C2:Tutg 113C4:Zzzz 113C5:Tutg 113C6:Zzzz 113CA:Tutg",
   "113CB:Zzzz 113D5:Tutg 113D6:Zzzz 113D8:Tutg 113E0:Zzzz 113E2:Tutg 113FF:Zzzz 1145B:Newa",
   "1145C:Zzzz 11461:Newa 1147F:Zzzz 114C7:Tirh 114CF:Zzzz 114D9:Tirh 1157F:Zzzz 115B5:Sidd",
   "115B7:Zzzz 115DD:Sidd 115FF:Zzzz 11644:Modi 1164F:Zzzz 11659:Modi 1165F:Zzzz 1166C:Mong",
   "1167F:Zzzz 116B9:Takr 116BF:Zzzz 116C9:Takr 116CF:Zzzz 116E3:Mymr 116FF:Zzzz 1171A:Ahom",
   "1171C:Zzzz 1172B:Ahom 1172F:Zzzz 11746:Ahom 117FF:Zzzz 1183B:Dogr 1189F:Zzzz 118F2:Wara",
   "118FE:Zzzz 118FF:Wara 11906:Diak 11908:Zzzz 11909:Diak 1190B:Zzzz 11913:Diak 11914:Zzzz",
   "11916:Diak 11917:Zzzz 11935:Diak 11936:Zzzz 11938:Diak 1193A:Zzzz 11946:Diak 1194F:Zzzz",
   "11959:Diak 1199F:Zzzz 119A7:Nand 119A9:Zzzz 119D7:Nand 119D9:Zzzz 119E4:Nand 119FF:Zzzz",
   "11A47:Zanb 11A4F:Zzzz 11AA2:Soyo 11AAF:Zzzz 11ABF:Cans 11AF8:Pauc 11AFF:Zzzz 11B09:Deva",
   "11BBF:Zzzz 11BE1:Sunu 11BEF:Zzzz 11BF9:Sunu 11BFF:Zzzz 11C08:Bhks 11C09:Zzzz 11C36:Bhks",
   "11C37:Zzzz 11C45:Bhks 11C4F:Zzzz 11C6C:Bhks 11C6F:Zzzz 11C8F:Marc 11C91:Zzzz 11CA7:Marc",
   "11CA8:Zzzz 11CB6:Marc 11CFF:Zzzz 11D06:Gonm 11D07:Zzzz 11D09:Gonm 11D0A:Zzzz 11D36:Gonm",
   "11D39:Zzzz 11D3A:Gonm 11D3B:Zzzz 11D3D:Gonm 11D3E:Zzzz 11D47:Gonm 11D4F:Zzzz 11D59:Gonm",
   "11D5F:Zzzz 11D65:Gong 11D66:Zzzz 11D68:Gong 11D69:Zzzz 11D8E:Gong 11D8F:Zzzz 11D91:Gong",
   "11D92:Zzzz 11D98:Gong 11D9F:Zzzz 11DA9:Gong 11EDF:Zzzz 11EF8:Maka 11EFF:Zzzz 11F10:Kawi",
   "11F11:Zzzz 11F3A:Kawi 11F3D:Zzzz 11F5A:Kawi 11FAF:Zzzz 11FB0:Lisu 11FBF:Zzzz 11FF1:Taml",
   "11FFE:Zzzz 11FFF:Taml 12399:Xsux 123FF:Zzzz 1246E:Xsux 1246F:Zzzz 12474:Xsux 1247F:Zzzz",
   "12543:Xsux 12F8F:Zzzz 12FF2:Cpmn 12FFF:Zzzz 13455:Egyp 1345F:Zzzz 143FA:Egyp 143FF:Zzzz",
   "14646:Hluw 160FF:Zzzz 16139:Gukh 167FF:Zzzz 16A38:Bamu 16A3F:Zzzz 16A5E:Mroo 16A5F:Zzzz",
   "16A69:Mroo 16A6D:Zzzz 16A6F:Mroo 16ABE:Tnsa 16ABF:Zzzz 16AC9:Tnsa 16ACF:Zzzz 16AED:Bass",
   "16AEF:Zzzz 16AF5:Bass 16AFF:Zzzz 16B45:Hmng 16B4F:Zzzz 16B59:Hmng 16B5A:Zzzz 16B61:Hmng",
   "16B62:Zzzz 16B77:Hmng 16B7C:Zzzz 16B8F:Hmng 16D3F:Zzzz 16D79:Krai 16E3F:Zzzz 16E9A:Medf",
   "16EFF:Zzzz 16F4A:Plrd 16F4E:Zzzz 16F87:Plrd 16F8E:Zzzz 16F9F:Plrd 16FDF:Zzzz 16FE0:Tang",
   "16FE1:Nshu 16FE3:Hani 16FE4:Kits 16FEF:Zzzz 16FF1:Hani 16FFF:Zzzz 187F7:Tang 187FF:Zzzz",
   "18AFF:Tang 18CD5:Kits 18CFE:Zzzz 18CFF:Kits 18D08:Tang 1AFEF:Zzzz 1AFF3:Kana 1AFF4:Zzzz",
   "1AFFB:Kana 1AFFC:Zzzz 1AFFE:Kana 1AFFF:Zzzz 1B000:Kana 1B11F:Hira 1B122:Kana 1B131:Zzzz",
   "1B132:Hira 1B14F:Zzzz 1B152:Hira 1B154:Zzzz 1B155:Kana 1B163:Zzzz 1B167:Kana 1B16F:Zzzz",
   "1B2FB:Nshu 1BBFF:Zzzz 1BC6A:Dupl 1BC6F:Zzzz 1BC7C:Dupl 1BC7F:Zzzz 1BC88:Dupl 1BC8F:Zzzz",
   "1BC99:Dupl 1BC9B:Zzzz 1BC9F:Dupl 1BCA3:Zyyy 1CBFF:Zzzz 1CCF9:Zyyy 1CCFF:Zzzz 1CEB3:Zyyy",
   "1CEFF:Zzzz 1CF2D:Zinh 1CF2F:Zzzz 1CF46:Zinh 1CF4F:Zzzz 1CFC3:Zyyy 1CFFF:Zzzz 1D0F5:Zyyy",
   "1D0FF:Zzzz 1D126:Zyyy 1D128:Zzzz 1D166:Zyyy 1D169:Zinh 1D17A:Zyyy 1D182:Zinh 1D184:Zyyy",
   "1D18B:Zinh 1D1A9:Zyyy 1D1AD:Zinh 1D1EA:Zyyy 1D1FF:Zzzz 1D245:Grek 1D2BF:Zzzz 1D2D3:Zyyy",
   "1D2DF:Zzzz 1D2F3:Zyyy 1D2FF:Zzzz 1D356:Zyyy 1D35F:Zzzz 1D378:Zyyy 1D3FF:Zzzz 1D454:Zyyy",
   "1D455:Zzzz 1D49C:Zyyy 1D49D:Zzzz 1D49F:Zyyy 1D4A1:Zzzz 1D4A2:Zyyy 1D4A4:Zzzz 1D4A6:Zyyy",
   "1D4A8:Zzzz 1D4AC:Zyyy 1D4AD:Zzzz 1D4B9:Zyyy 1D4BA:Zzzz 1D4BB:Zyyy 1D4BC:Zzzz 1D4C3:Zyyy",
   "1D4C4:Zzzz 1D505:Zyyy 1D506:Zzzz 1D50A:Zyyy 1D50C:Zzzz 1D514:Zyyy 1D515:Zzzz 1D51C:Zyyy",
   "1D51D:Zzzz 1D539:Zyyy 1D53A:Zzzz 1D53E:Zyyy 1D53F:Zzzz 1D544:Zyyy 1D545:Zzzz 1D546:Zyyy",
   "1D549:Zzzz 1D550:Zyyy 1D551:Zzzz 1D6A5:Zyyy 1D6A7:Zzzz 1D7CB:Zyyy 1D7CD:Zzzz 1D7FF:Zyyy",
   "1DA8B:Sgnw 1DA9A:Zzzz 1DA9F:Sgnw 1DAA0:Zzzz 1DAAF:Sgnw 1DEFF:Zzzz 1DF1E:Latn 1DF24:Zzzz",
   "1DF2A:Latn 1DFFF:Zzzz 1E006:Glag 1E007:Zzzz 1E018:Glag 1E01A:Zzzz 1E021:Glag 1E022:Zzzz",
   "1E024:Glag 1E025:Zzzz 1E02A:Glag 1E02F:Zzzz 1E06D:Cyrl 1E08E:Zzzz 1E08F:Cyrl 1E0FF:Zzzz",
   "1E12C:Hmnp 1E12F:Zzzz 1E13D:Hmnp 1E13F:Zzzz 1E149:Hmnp 1E14D:Zzzz 1E14F:Hmnp 1E28F:Zzzz",
   "1E2AE:Toto 1E2BF:Zzzz 1E2F9:Wcho 1E2FE:Zzzz 1E2FF:Wcho 1E4CF:Zzzz 1E4F9:Nagm 1E5CF:Zzzz",
   "1E5FA:Onao 1E5FE:Zzzz 1E5FF:Onao 1E7DF:Zzzz 1E7E6:Ethi 1E7E7:Zzzz 1E7EB:Ethi 1E7EC:Zzzz",
   "1E7EE:Ethi 1E7EF:Zzzz 1E7FE:Ethi 1E7FF:Zzzz 1E8C4:Mend 1E8C6:Zzzz 1E8D6:Mend 1E8FF:Zzzz",
   "1E94B:Adlm 1E94F:Zzzz 1E959:Adlm 1E95D:Zzzz 1E95F:Adlm 1EC70:Zzzz 1ECB4:Zyyy 1ED00:Zzzz",
   "1ED3D:Zyyy 1EDFF:Zzzz 1EE03:Arab 1EE04:Zzzz 1EE1F:Arab 1EE20:Zzzz 1EE22:Arab 1EE23:Zzzz",
   "1EE24:Arab 1EE26:Zzzz 1EE27:Arab 1EE28:Zzzz 1EE32:Arab 1EE33:Zzzz 1EE37:Arab 1EE38:Zzzz",
   "1EE39:Arab 1EE3A:Zzzz 1EE3B:Arab 1EE41:Zzzz 1EE42:Arab 1EE46:Zzzz 1EE47:Arab 1EE48:Zzzz",
   "1EE49:Arab 1EE4A:Zzzz 1EE4B:Arab 1EE4C:Zzzz 1EE4F:Arab 1EE50:Zzzz 1EE52:Arab 1EE53:Zzzz",
   "1EE54:Arab 1EE56:Zzzz 1EE57:Arab 1EE58:Zzzz 1EE59:Arab 1EE5A:Zzzz 1EE5B:Arab 1EE5C:Zzzz",
   "1EE5D:Arab 1EE5E:Zzzz 1EE5F:Arab 1EE60:Zzzz 1EE62:Arab 1EE63:Zzzz 1EE64:Arab 1EE66:Zzzz",
   "1EE6A:Arab 1EE6B:Zzzz 1EE72:Arab 1EE73:Zzzz 1EE77:Arab 1EE78:Zzzz 1EE7C:Arab 1EE7D:Zzzz",
   "1EE7E:Arab 1EE7F:Zzzz 1EE89:Arab 1EE8A:Zzzz 1EE9B:Arab 1EEA0:Zzzz 1EEA3:Arab 1EEA4:Zzzz",
   "1EEA9:Arab 1EEAA:Zzzz 1EEBB:Arab 1EEEF:Zzzz 1EEF1:Arab 1EFFF:Zzzz 1F02B:Zyyy 1F02F:Zzzz",
   "1F093:Zyyy 1F09F:Zzzz 1F0AE:Zyyy 1F0B0:Zzzz 1F0BF:Zyyy 1F0C0:Zzzz 1F0CF:Zyyy 1F0D0:Zzzz",
   "1F0F5:Zyyy 1F0FF:Zzzz 1F1AD:Zyyy 1F1E5:Zzzz 1F1FF:Zyyy 1F200:Hira 1F202:Zyyy 1F20F:Zzzz",
   "1F23B:Zyyy 1F23F:Zzzz 1F248:Zyyy 1F24F:Zzzz 1F251:Zyyy 1F25F:Zzzz 1F265:Zyyy 1F2FF:Zzzz",
   "1F6D7:Zyyy 1F6DB:Zzzz 1F6EC:Zyyy 1F6EF:Zzzz 1F6FC:Zyyy 1F6FF:Zzzz 1F776:Zyyy 1F77A:Zzzz",
   "1F7D9:Zyyy 1F7DF:Zzzz 1F7EB:Zyyy 1F7EF:Zzzz 1F7F0:Zyyy 1F7FF:Zzzz 1F80B:Zyyy 1F80F:Zzzz",
   "1F847:Zyyy 1F84F:Zzzz 1F859:Zyyy 1F85F:Zzzz 1F887:Zyyy 1F88F:Zzzz 1F8AD:Zyyy 1F8AF:Zzzz",
   "1F8BB:Zyyy 1F8BF:Zzzz 1F8C1:Zyyy 1F8FF:Zzzz 1FA53:Zyyy 1FA5F:Zzzz 1FA6D:Zyyy 1FA6F:Zzzz",
   "1FA7C:Zyyy 1FA7F:Zzzz 1FA89:Zyyy 1FA8E:Zzzz 1FAC6:Zyyy 1FACD:Zzzz 1FADC:Zyyy 1FADE:Zzzz",
   "1FAE9:Zyyy 1FAEF:Zzzz 1FAF8:Zyyy 1FAFF:Zzzz 1FB92:Zyyy 1FB93:Zzzz 1FBF9:Zyyy 1FFFF:Zzzz",
   "2A6DF:Hani 2A6FF:Zzzz 2B739:Hani 2B73F:Zzzz 2B81D:Hani 2B81F:Zzzz 2CEA1:Hani 2CEAF:Zzzz",
   "2EBE0:Hani 2EBEF:Zzzz 2EE5D:Hani 2F7FF:Zzzz 2FA1D:Hani 2FFFF:Zzzz 3134A:Hani 3134F:Zzzz",
   "323AF:Hani E0000:Zzzz E0001:Zyyy E001F:Zzzz E007F:Zyyy E00FF:Zzzz E01EF:Zinh 10FFFF:Zzzz"]

/-- Short and long names of the scripts. -/
def scriptNames : List (List String) :=
  [["Adlm", "Adlam"], ["Aghb", "Caucasian_Albanian"], ["Ahom", "Ahom"],
    ["Arab", "Arabic"], ["Armi", "Imperial_Aramaic"], ["Armn", "Armenian"],
    ["Avst", "Avestan"], ["Bali", "Balinese"], ["Bamu", "Bamum"],
    ["Bass", "Bassa_Vah"], ["Batk", "Batak"], ["Beng", "Bengali"],
    ["Bhks", "Bhaiksuki"], ["Bopo", "Bopomofo"], ["Brah", "Brahmi"],
    ["Brai", "Braille"], ["Bugi", "Buginese"], ["Buhd", "Buhid"],
    ["Cakm", "Chakma"], ["Cans", "Canadian_Aboriginal"], ["Cari", "Carian"],
    ["Cham", "Cham"], ["Cher", "Cherokee"], ["Chrs", "Chorasmian"],
    ["Copt", "Coptic", "Qaac"], ["Cpmn", "Cypro_Minoan"], ["Cprt", "Cypriot"],
    ["Cyrl", "Cyrillic"], ["Deva", "Devanagari"], ["Diak", "Dives_Akuru"],
    ["Dogr", "Dogra"], ["Dsrt", "Deseret"], ["Dupl", "Duployan"],
    ["Egyp", "Egyptian_Hieroglyphs"], ["Elba", "Elbasan"], ["Elym", "Elymaic"],
    ["Ethi", "Ethiopic"], ["Gara", "Garay"], ["Geor", "Georgian"],
    ["Glag", "Glagolitic"], ["Gong", "Gunjala_Gondi"], ["Gonm", "Masaram_Gondi"],
    ["Goth", "Gothic"], ["Gran", "Grantha"], ["Grek", "Greek"],
    ["Gujr", "Gujarati"], ["Gukh", "Gurung_Khema"], ["Guru", "Gurmukhi"],
    ["Hang", "Hangul"], ["Hani", "Han"], ["Hano", "Hanunoo"],
    ["Hatr", "Hatran"], ["Hebr", "Hebrew"], ["Hira", "Hiragana"],
    ["Hluw", "Anatolian_Hieroglyphs"], ["Hmng", "Pahawh_Hmong"], ["Hmnp", "Nyiakeng_Puachue_Hmong"],
    ["Hung", "Old_Hungarian"], ["Ital", "Old_Italic"], ["Java", "Javanese"],
    ["Kali", "Kayah_Li"], ["Kana", "Katakana"], ["Kawi", "Kawi"],
    ["Khar", "Kharoshthi"], ["Khmr", "Khmer"], ["Khoj", "Khojki"],
    ["Kits", "Khitan_Small_Script"], ["Knda", "Kannada"], ["Krai", "Kirat_Rai"],
    ["Kthi", "Kaithi"], ["Lana", "Tai_Tham"], ["Laoo", "Lao"],
    ["Latn", "Latin"], ["Lepc", "Lepcha"], ["Limb", "Limbu"],
    ["Lina", "Linear_A"], ["Linb", "Linear_B"], ["Lisu", "Lisu"],
    ["Lyci", "Lycian"], ["Lydi", "Lydian"], ["Mahj", "Mahajani"],
    ["Maka", "Makasar"], ["Mand", "Mandaic"], ["Mani", "Manichaean"],
    ["Marc", "Marchen"], ["Medf", "Medefaidrin"], ["Mend", "Mende_Kikakui"],
    ["Merc", "Meroitic_Cursive"], ["Mero", "Meroitic_Hieroglyphs"], ["Mlym", "Malayalam"],
    ["Modi", "Modi"], ["Mong", "Mongolian"], ["Mroo", "Mro"],
    ["Mtei", "Meetei_Mayek"], ["Mult", "Multani"], ["Mymr", "Myanmar"],
    ["Nagm", "Nag_Mundari"], ["Nand", "Nandinagari"], ["Narb", "Old_North_Arabian"],
    ["Nbat", "Nabataean"], ["Newa", "Newa"], ["Nkoo", "Nko"],
    ["Nshu", "Nushu"], ["Ogam", "Ogham"], ["Olck", "Ol_Chiki"],
    ["Onao", "Ol_Onal"], ["Orkh", "Old_Turkic"], ["Orya", "Oriya"],
    ["Osge", "Osage"], ["Osma", "Osmanya"], ["Ougr", "Old_Uyghur"],
    ["Palm", "Palmyrene"], ["Pauc", "Pau_Cin_Hau"], ["Perm", "Old_Permic"],
    ["Phag", "Phags_Pa"], ["Phli", "Inscriptional_Pahlavi"], ["Phlp", "Psalter_Pahlavi"],
    ["Phnx", "Phoenician"], ["Plrd", "Miao"], ["Prti", "Inscriptional_Parthian"],
    ["Rjng", "Rejang"], ["Rohg", "Hanifi_Rohingya"], ["Runr", "Runic"],
    ["Samr", "Samaritan"], ["Sarb", "Old_South_Arabian"], ["Saur", "Saurashtra"],
    ["Sgnw", "SignWriting"], ["Shaw", "Shavian"], ["Shrd", "Sharada"],
    ["Sidd", "Siddham"], ["Sind", "Khudawadi"], ["Sinh", "Sinhala"],
    ["Sogd", "Sogdian"], ["Sogo", "Old_Sogdian"], ["Sora", "Sora_Sompeng"],
    ["Soyo", "Soyombo"], ["Sund", "Sundanese"], ["Sunu", "Sunuwar"],
    ["Sylo", "Syloti_Nagri"], ["Syrc", "Syriac"], ["Tagb", "Tagbanwa"],
    ["Takr", "Takri"], ["Tale", "Tai_Le"], ["Talu", "New_Tai_Lue"],
    ["Taml", "Tamil"], ["Tang", "Tangut"], ["Tavt", "Tai_Viet"],
    ["Telu", "Telugu"], ["Tfng", "Tifinagh"], ["Tglg", "Tagalog"],
    ["Thaa", "Thaana"], ["Thai", "Thai"], ["Tibt", "Tibetan"],
    ["Tirh", "Tirhuta"], ["Tnsa", "Tangsa"], ["Todr", "Todhri"],
    ["Toto", "Toto"], ["Tutg", "Tulu_Tigalari"], ["Ugar", "Ugaritic"],
    ["Vaii", "Vai"], ["Vith", "Vithkuqi"], ["Wara", "Warang_Citi"],
    ["Wcho", "Wancho"], ["Xpeo", "Old_Persian"], ["Xsux", "Cuneiform"],
    ["Yezi", "Yezidi"], ["Yiii", "Yi"], ["Zanb", "Zanabazar_Square"],
    ["Zinh", "Inherited", "Qaai"], ["Zyyy", "Common"]]

/-- The code points of a script, given by its short name. -/
def scriptRanges (name : String) : List (Nat × Nat) :=
  rangesOfRuns scriptRuns (· = name)

/-- The script of a code point, by its short name. -/
def scriptOf (n : Nat) : String :=
  valueInRuns scriptRuns n

end Guardrail.Unicode
