import Guardrail.Unicode.Ranges

/-!
# General categories

The general category of each code point, and the names under which categories and their groups
are known. Surrogates are no characters, and their category has no name.
-/

namespace Guardrail.Unicode

/-- The categories in ascending order of code points: each word gives the last code point of a
run, and the category of the run. -/
def categoryRuns : List (Nat × String) :=
  runsOfText
  ["1F:Cc 20:Zs 23:Po 24:Sc 27:Po 28:Ps 29:Pe 2A:Po 2B:Sm 2C:Po 2D:Pd 2F:Po 39:Nd 3B:Po 3E:Sm",
   "40:Po 5A:Lu 5B:Ps 5C:Po 5D:Pe 5E:Sk 5F:Pc 60:Sk 7A:Ll 7B:Ps 7C:Sm 7D:Pe 7E:Sm 9F:Cc A0:Zs",
   "A1:Po A5:Sc A6:So A7:Po A8:Sk A9:So AA:Lo AB:Pi AC:Sm AD:Cf AE:So AF:Sk B0:So B1:Sm B3:No",
   "B4:Sk B5:Ll B7:Po B8:Sk B9:No BA:Lo BB:Pf BE:No BF:Po D6:Lu D7:Sm DE:Lu F6:Ll F7:Sm FF:Ll",
   "100:Lu 101:Ll 102:Lu 103:Ll 104:Lu 105:Ll 106:Lu 107:Ll 108:Lu 109:Ll 10A:Lu 10B:Ll 10C:Lu",
   "10D:Ll 10E:Lu 10F:Ll 110:Lu 111:Ll 112:Lu 113:Ll 114:Lu 115:Ll 116:Lu 117:Ll 118:Lu 119:Ll",
   "11A:Lu 11B:Ll 11C:Lu 11D:Ll 11E:Lu 11F:Ll 120:Lu 121:Ll 122:Lu 123:Ll 124:Lu 125:Ll 126:Lu",
   "127:Ll 128:Lu 129:Ll 12A:Lu 12B:Ll 12C:Lu 12D:Ll 12E:Lu 12F:Ll 130:Lu 131:Ll 132:Lu 133:Ll",
   "134:Lu 135:Ll 136:Lu 138:Ll 139:Lu 13A:Ll 13B:Lu 13C:Ll 13D:Lu 13E:Ll 13F:Lu 140:Ll 141:Lu",
   "142:Ll 143:Lu 144:Ll 145:Lu 146:Ll 147:Lu 149:Ll 14A:Lu 14B:Ll 14C:Lu 14D:Ll 14E:Lu 14F:Ll",
   "150:Lu 151:Ll 152:Lu 153:Ll 154:Lu 155:Ll 156:Lu 157:Ll 158:Lu 159:Ll 15A:Lu 15B:Ll 15C:Lu",
   "15D:Ll 15E:Lu 15F:Ll 160:Lu 161:Ll 162:Lu 163:Ll 164:Lu 165:Ll 166:Lu 167:Ll 168:Lu 169:Ll",
   "16A:Lu 16B:Ll 16C:Lu 16D:Ll 16E:Lu 16F:Ll 170:Lu 171:Ll 172:Lu 173:Ll 174:Lu 175:Ll 176:Lu",
   "177:Ll 179:Lu 17A:Ll 17B:Lu 17C:Ll 17D:Lu 180:Ll 182:Lu 183:Ll 184:Lu 185:Ll 187:Lu 188:Ll",
   "18B:Lu 18D:Ll 191:Lu 192:Ll 194:Lu 195:Ll 198:Lu 19B:Ll 19D:Lu 19E:Ll 1A0:Lu 1A1:Ll 1A2:Lu",
   "1A3:Ll 1A4:Lu 1A5:Ll 1A7:Lu 1A8:Ll 1A9:Lu 1AB:Ll 1AC:Lu 1AD:Ll 1AF:Lu 1B0:Ll 1B3:Lu 1B4:Ll",
   "1B5:Lu 1B6:Ll 1B8:Lu 1BA:Ll 1BB:Lo 1BC:Lu 1BF:Ll 1C3:Lo 1C4:Lu 1C5:Lt 1C6:Ll 1C7:Lu 1C8:Lt",
   "1C9:Ll 1CA:Lu 1CB:Lt 1CC:Ll 1CD:Lu 1CE:Ll 1CF:Lu 1D0:Ll 1D1:Lu 1D2:Ll 1D3:Lu 1D4:Ll 1D5:Lu",
   "1D6:Ll 1D7:Lu 1D8:Ll 1D9:Lu 1DA:Ll 1DB:Lu 1DD:Ll 1DE:Lu 1DF:Ll 1E0:Lu 1E1:Ll 1E2:Lu 1E3:Ll",
   "1E4:Lu 1E5:Ll 1E6:Lu 1E7:Ll 1E8:Lu 1E9:Ll 1EA:Lu 1EB:Ll 1EC:Lu 1ED:Ll 1EE:Lu 1F0:Ll 1F1:Lu",
   "1F2:Lt 1F3:Ll 1F4:Lu 1F5:Ll 1F8:Lu 1F9:Ll 1FA:Lu 1FB:Ll 1FC:Lu 1FD:Ll 1FE:Lu 1FF:Ll 200:Lu",
   "201:Ll 202:Lu 203:Ll 204:Lu 205:Ll 206:Lu 207:Ll 208:Lu 209:Ll 20A:Lu 20B:Ll 20C:Lu 20D:Ll",
   "20E:Lu 20F:Ll 210:Lu 211:Ll 212:Lu 213:Ll 214:Lu 215:Ll 216:Lu 217:Ll 218:Lu 219:Ll 21A:Lu",
   "21B:Ll 21C:Lu 21D:Ll 21E:Lu 21F:Ll 220:Lu 221:Ll 222:Lu 223:Ll 224:Lu 225:Ll 226:Lu 227:Ll",
   "228:Lu 229:Ll 22A:Lu 22B:Ll 22C:Lu 22D:Ll 22E:Lu 22F:Ll 230:Lu 231:Ll 232:Lu 239:Ll 23B:Lu",
   "23C:Ll 23E:Lu 240:Ll 241:Lu 242:Ll 246:Lu 247:Ll 248:Lu 249:Ll 24A:Lu 24B:Ll 24C:Lu 24D:Ll",
   "24E:Lu 293:Ll 294:Lo 2AF:Ll 2C1:Lm 2C5:Sk 2D1:Lm 2DF:Sk 2E4:Lm 2EB:Sk 2EC:Lm 2ED:Sk 2EE:Lm",
   "2FF:Sk 36F:Mn 370:Lu 371:Ll 372:Lu 373:Ll 374:Lm 375:Sk 376:Lu 377:Ll 379:Cn 37A:Lm 37D:Ll",
   "37E:Po 37F:Lu 383:Cn 385:Sk 386:Lu 387:Po 38A:Lu 38B:Cn 38C:Lu 38D:Cn 38F:Lu 390:Ll 3A1:Lu",
   "3A2:Cn 3AB:Lu 3CE:Ll 3CF:Lu 3D1:Ll 3D4:Lu 3D7:Ll 3D8:Lu 3D9:Ll 3DA:Lu 3DB:Ll 3DC:Lu 3DD:Ll",
   "3DE:Lu 3DF:Ll 3E0:Lu 3E1:Ll 3E2:Lu 3E3:Ll 3E4:Lu 3E5:Ll 3E6:Lu 3E7:Ll 3E8:Lu 3E9:Ll 3EA:Lu",
   "3EB:Ll 3EC:Lu 3ED:Ll 3EE:Lu 3F3:Ll 3F4:Lu 3F5:Ll 3F6:Sm 3F7:Lu 3F8:Ll 3FA:Lu 3FC:Ll 42F:Lu",
   "45F:Ll 460:Lu 461:Ll 462:Lu 463:Ll 464:Lu 465:Ll 466:Lu 467:Ll 468:Lu 469:Ll 46A:Lu 46B:Ll",
   "46C:Lu 46D:Ll 46E:Lu 46F:Ll 470:Lu 471:Ll 472:Lu 473:Ll 474:Lu 475:Ll 476:Lu 477:Ll 478:Lu",
   "479:Ll 47A:Lu 47B:Ll 47C:Lu 47D:Ll 47E:Lu 47F:Ll 480:Lu 481:Ll 482:So 487:Mn 489:Me 48A:Lu",
   "48B:Ll 48C:Lu 48D:Ll 48E:Lu 48F:Ll 490:Lu 491:Ll 492:Lu 493:Ll 494:Lu 495:Ll 496:Lu 497:Ll",
   "498:Lu 499:Ll 49A:Lu 49B:Ll 49C:Lu 49D:Ll 49E:Lu 49F:Ll 4A0:Lu 4A1:Ll 4A2:Lu 4A3:Ll 4A4:Lu",
   "4A5:Ll 4A6:Lu 4A7:Ll 4A8:Lu 4A9:Ll 4AA:Lu 4AB:Ll 4AC:Lu 4AD:Ll 4AE:Lu 4AF:Ll 4B0:Lu 4B1:Ll",
   "4B2:Lu 4B3:Ll 4B4:Lu 4B5:Ll 4B6:Lu 4B7:Ll 4B8:Lu 4B9:Ll 4BA:Lu 4BB:Ll 4BC:Lu 4BD:Ll 4BE:Lu",
   "4BF:Ll 4C1:Lu 4C2:Ll 4C3:Lu 4C4:Ll 4C5:Lu 4C6:Ll 4C7:Lu 4C8:Ll 4C9:Lu 4CA:Ll 4CB:Lu 4CC:Ll",
   "4CD:Lu 4CF:Ll 4D0:Lu 4D1:Ll 4D2:Lu 4D3:Ll 4D4:Lu 4D5:Ll 4D6:Lu 4D7:Ll 4D8:Lu 4D9:Ll 4DA:Lu",
   "4DB:Ll 4DC:Lu 4DD:Ll 4DE:Lu 4DF:Ll 4E0:Lu 4E1:Ll 4E2:Lu 4E3:Ll 4E4:Lu 4E5:Ll 4E6:Lu 4E7:Ll",
   "4E8:Lu 4E9:Ll 4EA:Lu 4EB:Ll 4EC:Lu 4ED:Ll 4EE:Lu 4EF:Ll 4F0:Lu 4F1:Ll 4F2:Lu 4F3:Ll 4F4:Lu",
   "4F5:Ll 4F6:Lu 4F7:Ll 4F8:Lu 4F9:Ll 4FA:Lu 4FB:Ll 4FC:Lu 4FD:Ll 4FE:Lu 4FF:Ll 500:Lu 501:Ll",
   "502:Lu 503:Ll 504:Lu 505:Ll 506:Lu 507:Ll 508:Lu 509:Ll 50A:Lu 50B:Ll 50C:Lu 50D:Ll 50E:Lu",
   "50F:Ll 510:Lu 511:Ll 512:Lu 513:Ll 514:Lu 515:Ll 516:Lu 517:Ll 518:Lu 519:Ll 51A:Lu 51B:Ll",
   "51C:Lu 51D:Ll 51E:Lu 51F:Ll 520:Lu 521:Ll 522:Lu 523:Ll 524:Lu 525:Ll 526:Lu 527:Ll 528:Lu",
   "529:Ll 52A:Lu 52B:Ll 52C:Lu 52D:Ll 52E:Lu 52F:Ll 530:Cn 556:Lu 558:Cn 559:Lm 55F:Po 588:Ll",
   "589:Po 58A:Pd 58C:Cn 58E:So 58F:Sc 590:Cn 5BD:Mn 5BE:Pd 5BF:Mn 5C0:Po 5C2:Mn 5C3:Po 5C5:Mn",
   "5C6:Po 5C7:Mn 5CF:Cn 5EA:Lo 5EE:Cn 5F2:Lo 5F4:Po 5FF:Cn 605:Cf 608:Sm 60A:Po 60B:Sc 60D:Po",
   "60F:So 61A:Mn 61B:Po 61C:Cf 61F:Po 63F:Lo 640:Lm 64A:Lo 65F:Mn 669:Nd 66D:Po 66F:Lo 670:Mn",
   "6D3:Lo 6D4:Po 6D5:Lo 6DC:Mn 6DD:Cf 6DE:So 6E4:Mn 6E6:Lm 6E8:Mn 6E9:So 6ED:Mn 6EF:Lo 6F9:Nd",
   "6FC:Lo 6FE:So 6FF:Lo 70D:Po 70E:Cn 70F:Cf 710:Lo 711:Mn 72F:Lo 74A:Mn 74C:Cn 7A5:Lo 7B0:Mn",
   "7B1:Lo 7BF:Cn 7C9:Nd 7EA:Lo 7F3:Mn 7F5:Lm 7F6:So 7F9:Po 7FA:Lm 7FC:Cn 7FD:Mn 7FF:Sc 815:Lo",
   "819:Mn 81A:Lm 823:Mn 824:Lm 827:Mn 828:Lm 82D:Mn 82F:Cn 83E:Po 83F:Cn 858:Lo 85B:Mn 85D:Cn",
   "85E:Po 85F:Cn 86A:Lo 86F:Cn 887:Lo 888:Sk 88E:Lo 88F:Cn 891:Cf 896:Cn 89F:Mn 8C8:Lo 8C9:Lm",
   "8E1:Mn 8E2:Cf 902:Mn 903:Mc 939:Lo 93A:Mn 93B:Mc 93C:Mn 93D:Lo 940:Mc 948:Mn 94C:Mc 94D:Mn",
   "94F:Mc 950:Lo 957:Mn 961:Lo 963:Mn 965:Po 96F:Nd 970:Po 971:Lm 980:Lo 981:Mn 983:Mc 984:Cn",
   "98C:Lo 98E:Cn 990:Lo 992:Cn 9A8:Lo 9A9:Cn 9B0:Lo 9B1:Cn 9B2:Lo 9B5:Cn 9B9:Lo 9BB:Cn 9BC:Mn",
   "9BD:Lo 9C0:Mc 9C4:Mn 9C6:Cn 9C8:Mc 9CA:Cn 9CC:Mc 9CD:Mn 9CE:Lo 9D6:Cn 9D7:Mc 9DB:Cn 9DD:Lo",
   "9DE:Cn 9E1:Lo 9E3:Mn 9E5:Cn 9EF:Nd 9F1:Lo 9F3:Sc 9F9:No 9FA:So 9FB:Sc 9FC:Lo 9FD:Po 9FE:Mn",
   "A00:Cn A02:Mn A03:Mc A04:Cn A0A:Lo A0E:Cn A10:Lo A12:Cn A28:Lo A29:Cn A30:Lo A31:Cn A33:Lo",
   "A34:Cn A36:Lo A37:Cn A39:Lo A3B:Cn A3C:Mn A3D:Cn A40:Mc A42:Mn A46:Cn A48:Mn A4A:Cn A4D:Mn",
   "A50:Cn A51:Mn A58:Cn A5C:Lo A5D:Cn A5E:Lo A65:Cn A6F:Nd A71:Mn A74:Lo A75:Mn A76:Po A80:Cn",
   "A82:Mn A83:Mc A84:Cn A8D:Lo A8E:Cn A91:Lo A92:Cn AA8:Lo AA9:Cn AB0:Lo AB1:Cn AB3:Lo AB4:Cn",
   "AB9:Lo ABB:Cn ABC:Mn ABD:Lo AC0:Mc AC5:Mn AC6:Cn AC8:Mn AC9:Mc ACA:Cn ACC:Mc ACD:Mn ACF:Cn",
   "AD0:Lo ADF:Cn AE1:Lo AE3:Mn AE5:Cn AEF:Nd AF0:Po AF1:Sc AF8:Cn AF9:Lo AFF:Mn B00:Cn B01:Mn",
   "B03:Mc B04:Cn B0C:Lo B0E:Cn B10:Lo B12:Cn B28:Lo B29:Cn B30:Lo B31:Cn B33:Lo B34:Cn B39:Lo",
   "B3B:Cn B3C:Mn B3D:Lo B3E:Mc B3F:Mn B40:Mc B44:Mn B46:Cn B48:Mc B4A:Cn B4C:Mc B4D:Mn B54:Cn",
   "B56:Mn B57:Mc B5B:Cn B5D:Lo B5E:Cn B61:Lo B63:Mn B65:Cn B6F:Nd B70:So B71:Lo B77:No B81:Cn",
   "B82:Mn B83:Lo B84:Cn B8A:Lo B8D:Cn B90:Lo B91:Cn B95:Lo B98:Cn B9A:Lo B9B:Cn B9C:Lo B9D:Cn",
   "B9F:Lo BA2:Cn BA4:Lo BA7:Cn BAA:Lo BAD:Cn BB9:Lo BBD:Cn BBF:Mc BC0:Mn BC2:Mc BC5:Cn BC8:Mc",
   "BC9:Cn BCC:Mc BCD:Mn BCF:Cn BD0:Lo BD6:Cn BD7:Mc BE5:Cn BEF:Nd BF2:No BF8:So BF9:Sc BFA:So",
   "BFF:Cn C00:Mn C03:Mc C04:Mn C0C:Lo C0D:Cn C10:Lo C11:Cn C28:Lo C29:Cn C39:Lo C3B:Cn C3C:Mn",
   "C3D:Lo C40:Mn C44:Mc C45:Cn C48:Mn C49:Cn C4D:Mn C54:Cn C56:Mn C57:Cn C5A:Lo C5C:Cn C5D:Lo",
   "C5F:Cn C61:Lo C63:Mn C65:Cn C6F:Nd C76:Cn C77:Po C7E:No C7F:So C80:Lo C81:Mn C83:Mc C84:Po",
   "C8C:Lo C8D:Cn C90:Lo C91:Cn CA8:Lo CA9:Cn CB3:Lo CB4:Cn CB9:Lo CBB:Cn CBC:Mn CBD:Lo CBE:Mc",
   "CBF:Mn CC4:Mc CC5:Cn CC6:Mn CC8:Mc CC9:Cn CCB:Mc CCD:Mn CD4:Cn CD6:Mc CDC:Cn CDE:Lo CDF:Cn",
   "CE1:Lo CE3:Mn CE5:Cn CEF:Nd CF0:Cn CF2:Lo CF3:Mc CFF:Cn D01:Mn D03:Mc D0C:Lo D0D:Cn D10:Lo",
   "D11:Cn D3A:Lo D3C:Mn D3D:Lo D40:Mc D44:Mn D45:Cn D48:Mc D49:Cn D4C:Mc D4D:Mn D4E:Lo D4F:So",
   "D53:Cn D56:Lo D57:Mc D5E:No D61:Lo D63:Mn D65:Cn D6F:Nd D78:No D79:So D7F:Lo D80:Cn D81:Mn",
   "D83:Mc D84:Cn D96:Lo D99:Cn DB1:Lo DB2:Cn DBB:Lo DBC:Cn DBD:Lo DBF:Cn DC6:Lo DC9:Cn DCA:Mn",
   "DCE:Cn DD1:Mc DD4:Mn DD5:Cn DD6:Mn DD7:Cn DDF:Mc DE5:Cn DEF:Nd DF1:Cn DF3:Mc DF4:Po E00:Cn",
   "E30:Lo E31:Mn E33:Lo E3A:Mn E3E:Cn E3F:Sc E45:Lo E46:Lm E4E:Mn E4F:Po E59:Nd E5B:Po E80:Cn",
   "E82:Lo E83:Cn E84:Lo E85:Cn E8A:Lo E8B:Cn EA3:Lo EA4:Cn EA5:Lo EA6:Cn EB0:Lo EB1:Mn EB3:Lo",
   "EBC:Mn EBD:Lo EBF:Cn EC4:Lo EC5:Cn EC6:Lm EC7:Cn ECE:Mn ECF:Cn ED9:Nd EDB:Cn EDF:Lo EFF:Cn",
   "F00:Lo F03:So F12:Po F13:So F14:Po F17:So F19:Mn F1F:So F29:Nd F33:No F34:So F35:Mn F36:So",
   "F37:Mn F38:So F39:Mn F3A:Ps F3B:Pe F3C:Ps F3D:Pe F3F:Mc F47:Lo F48:Cn F6C:Lo F70:Cn F7E:Mn",
   "F7F:Mc F84:Mn F85:Po F87:Mn F8C:Lo F97:Mn F98:Cn FBC:Mn FBD:Cn FC5:So FC6:Mn FCC:So FCD:Cn",
   "FCF:So FD4:Po FD8:So FDA:Po FFF:Cn 102A:Lo 102C:Mc 1030:Mn 1031:Mc 1037:Mn 1038:Mc 103A:Mn",
   "103C:Mc 103E:Mn 103F:Lo 1049:Nd 104F:Po 1055:Lo 1057:Mc 1059:Mn 105D:Lo 1060:Mn 1061:Lo",
   "1064:Mc 1066:Lo 106D:Mc 1070:Lo 1074:Mn 1081:Lo 1082:Mn 1084:Mc 1086:Mn 108C:Mc 108D:Mn",
   "108E:Lo 108F:Mc 1099:Nd 109C:Mc 109D:Mn 109F:So 10C5:Lu 10C6:Cn 10C7:Lu 10CC:Cn 10CD:Lu",
   "10CF:Cn 10FA:Ll 10FB:Po 10FC:Lm 10FF:Ll 1248:Lo 1249:Cn 124D:Lo 124F:Cn 1256:Lo 1257:Cn",
   "1258:Lo 1259:Cn 125D:Lo 125F:Cn 1288:Lo 1289:Cn 128D:Lo 128F:Cn 12B0:Lo 12B1:Cn 12B5:Lo",
   "12B7:Cn 12BE:Lo 12BF:Cn 12C0:Lo 12C1:Cn 12C5:Lo 12C7:Cn 12D6:Lo 12D7:Cn 1310:Lo 1311:Cn",
   "1315:Lo 1317:Cn 135A:Lo 135C:Cn 135F:Mn 1368:Po 137C:No 137F:Cn 138F:Lo 1399:So 139F:Cn",
   "13F5:Lu 13F7:Cn 13FD:Ll 13FF:Cn 1400:Pd 166C:Lo 166D:So 166E:Po 167F:Lo 1680:Zs 169A:Lo",
   "169B:Ps 169C:Pe 169F:Cn 16EA:Lo 16ED:Po 16F0:Nl 16F8:Lo 16FF:Cn 1711:Lo 1714:Mn 1715:Mc",
   "171E:Cn 1731:Lo 1733:Mn 1734:Mc 1736:Po 173F:Cn 1751:Lo 1753:Mn 175F:Cn 176C:Lo 176D:Cn",
   "1770:Lo 1771:Cn 1773:Mn 177F:Cn 17B3:Lo 17B5:Mn 17B6:Mc 17BD:Mn 17C5:Mc 17C6:Mn 17C8:Mc",
   "17D3:Mn 17D6:Po 17D7:Lm 17DA:Po 17DB:Sc 17DC:Lo 17DD:Mn 17DF:Cn 17E9:Nd 17EF:Cn 17F9:No",
   "17FF:Cn 1805:Po 1806:Pd 180A:Po 180D:Mn 180E:Cf 180F:Mn 1819:Nd 181F:Cn 1842:Lo 1843:Lm",
   "1878:Lo 187F:Cn 1884:Lo 1886:Mn 18A8:Lo 18A9:Mn 18AA:Lo 18AF:Cn 18F5:Lo 18FF:Cn 191E:Lo",
   "191F:Cn 1922:Mn 1926:Mc 1928:Mn 192B:Mc 192F:Cn 1931:Mc 1932:Mn 1938:Mc 193B:Mn 193F:Cn",
   "1940:So 1943:Cn 1945:Po 194F:Nd 196D:Lo 196F:Cn 1974:Lo 197F:Cn 19AB:Lo 19AF:Cn 19C9:Lo",
   "19CF:Cn 19D9:Nd 19DA:No 19DD:Cn 19FF:So 1A16:Lo 1A18:Mn 1A1A:Mc 1A1B:Mn 1A1D:Cn 1A1F:Po",
   "1A54:Lo 1A55:Mc 1A56:Mn 1A57:Mc 1A5E:Mn 1A5F:Cn 1A60:Mn 1A61:Mc 1A62:Mn 1A64:Mc 1A6C:Mn",
   "1A72:Mc 1A7C:Mn 1A7E:Cn 1A7F:Mn 1A89:Nd 1A8F:Cn 1A99:Nd 1A9F:Cn 1AA6:Po 1AA7:Lm 1AAD:Po",
   "1AAF:Cn 1ABD:Mn 1ABE:Me 1ACE:Mn 1AFF:Cn 1B03:Mn 1B04:Mc 1B33:Lo 1B34:Mn 1B35:Mc 1B3A:Mn",
   "1B3B:Mc 1B3C:Mn 1B41:Mc 1B42:Mn 1B44:Mc 1B4C:Lo 1B4D:Cn 1B4F:Po 1B59:Nd 1B60:Po 1B6A:So",
   "1B73:Mn 1B7C:So 1B7F:Po 1B81:Mn 1B82:Mc 1BA0:Lo 1BA1:Mc 1BA5:Mn 1BA7:Mc 1BA9:Mn 1BAA:Mc",
   "1BAD:Mn 1BAF:Lo 1BB9:Nd 1BE5:Lo 1BE6:Mn 1BE7:Mc 1BE9:Mn 1BEC:Mc 1BED:Mn 1BEE:Mc 1BF1:Mn",
   "1BF3:Mc 1BFB:Cn 1BFF:Po 1C23:Lo 1C2B:Mc 1C33:Mn 1C35:Mc 1C37:Mn 1C3A:Cn 1C3F:Po 1C49:Nd",
   "1C4C:Cn 1C4F:Lo 1C59:Nd 1C77:Lo 1C7D:Lm 1C7F:Po 1C88:Ll 1C89:Lu 1C8A:Ll 1C8F:Cn 1CBA:Lu",
   "1CBC:Cn 1CBF:Lu 1CC7:Po 1CCF:Cn 1CD2:Mn 1CD3:Po 1CE0:Mn 1CE1:Mc 1CE8:Mn 1CEC:Lo 1CED:Mn",
   "1CF3:Lo 1CF4:Mn 1CF6:Lo 1CF7:Mc 1CF9:Mn 1CFA:Lo 1CFF:Cn 1D2B:Ll 1D6A:Lm 1D77:Ll 1D78:Lm",
   "1D9A:Ll 1DBF:Lm 1DFF:Mn 1E00:Lu 1E01:Ll 1E02:Lu 1E03:Ll 1E04:Lu 1E05:Ll 1E06:Lu 1E07:Ll",
   "1E08:Lu 1E09:Ll 1E0A:Lu 1E0B:Ll 1E0C:Lu 1E0D:Ll 1E0E:Lu 1E0F:Ll 1E10:Lu 1E11:Ll 1E12:Lu",
   "1E13:Ll 1E14:Lu 1E15:Ll 1E16:Lu 1E17:Ll 1E18:Lu 1E19:Ll 1E1A:Lu 1E1B:Ll 1E1C:Lu 1E1D:Ll",
   "1E1E:Lu 1E1F:Ll 1E20:Lu 1E21:Ll 1E22:Lu 1E23:Ll 1E24:Lu 1E25:Ll 1E26:Lu 1E27:Ll 1E28:Lu",
   "1E29:Ll 1E2A:Lu 1E2B:Ll 1E2C:Lu 1E2D:Ll 1E2E:Lu 1E2F:Ll 1E30:Lu 1E31:Ll 1E32:Lu 1E33:Ll",
   "1E34:Lu 1E35:Ll 1E36:Lu 1E37:Ll 1E38:Lu 1E39:Ll 1E3A:Lu 1E3B:Ll 1E3C:Lu 1E3D:Ll 1E3E:Lu",
   "1E3F:Ll 1E40:Lu 1E41:Ll 1E42:Lu 1E43:Ll 1E44:Lu 1E45:Ll 1E46:Lu 1E47:Ll 1E48:Lu 1E49:Ll",
   "1E4A:Lu 1E4B:Ll 1E4C:Lu 1E4D:Ll 1E4E:Lu 1E4F:Ll 1E50:Lu 1E51:Ll 1E52:Lu 1E53:Ll 1E54:Lu",
   "1E55:Ll 1E56:Lu 1E57:Ll 1E58:Lu 1E59:Ll 1E5A:Lu 1E5B:Ll 1E5C:Lu 1E5D:Ll 1E5E:Lu 1E5F:Ll",
   "1E60:Lu 1E61:Ll 1E62:Lu 1E63:Ll 1E64:Lu 1E65:Ll 1E66:Lu 1E67:Ll 1E68:Lu 1E69:Ll 1E6A:Lu",
   "1E6B:Ll 1E6C:Lu 1E6D:Ll 1E6E:Lu 1E6F:Ll 1E70:Lu 1E71:Ll 1E72:Lu 1E73:Ll 1E74:Lu 1E75:Ll",
   "1E76:Lu 1E77:Ll 1E78:Lu 1E79:Ll 1E7A:Lu 1E7B:Ll 1E7C:Lu 1E7D:Ll 1E7E:Lu 1E7F:Ll 1E80:Lu",
   "1E81:Ll 1E82:Lu 1E83:Ll 1E84:Lu 1E85:Ll 1E86:Lu 1E87:Ll 1E88:Lu 1E89:Ll 1E8A:Lu 1E8B:Ll",
   "1E8C:Lu 1E8D:Ll 1E8E:Lu 1E8F:Ll 1E90:Lu 1E91:Ll 1E92:Lu 1E93:Ll 1E94:Lu 1E9D:Ll 1E9E:Lu",
   "1E9F:Ll 1EA0:Lu 1EA1:Ll 1EA2:Lu 1EA3:Ll 1EA4:Lu 1EA5:Ll 1EA6:Lu 1EA7:Ll 1EA8:Lu 1EA9:Ll",
   "1EAA:Lu 1EAB:Ll 1EAC:Lu 1EAD:Ll 1EAE:Lu 1EAF:Ll 1EB0:Lu 1EB1:Ll 1EB2:Lu 1EB3:Ll 1EB4:Lu",
   "1EB5:Ll 1EB6:Lu 1EB7:Ll 1EB8:Lu 1EB9:Ll 1EBA:Lu 1EBB:Ll 1EBC:Lu 1EBD:Ll 1EBE:Lu 1EBF:Ll",
   "1EC0:Lu 1EC1:Ll 1EC2:Lu 1EC3:Ll 1EC4:Lu 1EC5:Ll 1EC6:Lu 1EC7:Ll 1EC8:Lu 1EC9:Ll 1ECA:Lu",
   "1ECB:Ll 1ECC:Lu 1ECD:Ll 1ECE:Lu 1ECF:Ll 1ED0:Lu 1ED1:Ll 1ED2:Lu 1ED3:Ll 1ED4:Lu 1ED5:Ll",
   "1ED6:Lu 1ED7:Ll 1ED8:Lu 1ED9:Ll 1EDA:Lu 1EDB:Ll 1EDC:Lu 1EDD:Ll 1EDE:Lu 1EDF:Ll 1EE0:Lu",
   "1EE1:Ll 1EE2:Lu 1EE3:Ll 1EE4:Lu 1EE5:Ll 1EE6:Lu 1EE7:Ll 1EE8:Lu 1EE9:Ll 1EEA:Lu 1EEB:Ll",
   "1EEC:Lu 1EED:Ll 1EEE:Lu 1EEF:Ll 1EF0:Lu 1EF1:Ll 1EF2:Lu 1EF3:Ll 1EF4:Lu 1EF5:Ll 1EF6:Lu",
   "1EF7:Ll 1EF8:Lu 1EF9:Ll 1EFA:Lu 1EFB:Ll 1EFC:Lu 1EFD:Ll 1EFE:Lu 1F07:Ll 1F0F:Lu 1F15:Ll",
   "1F17:Cn 1F1D:Lu 1F1F:Cn 1F27:Ll 1F2F:Lu 1F37:Ll 1F3F:Lu 1F45:Ll 1F47:Cn 1F4D:Lu 1F4F:Cn",
   "1F57:Ll 1F58:Cn 1F59:Lu 1F5A:Cn 1F5B:Lu 1F5C:Cn 1F5D:Lu 1F5E:Cn 1F5F:Lu 1F67:Ll 1F6F:Lu",
   "1F7D:Ll 1F7F:Cn 1F87:Ll 1F8F:Lt 1F97:Ll 1F9F:Lt 1FA7:Ll 1FAF:Lt 1FB4:Ll 1FB5:Cn 1FB7:Ll",
   "1FBB:Lu 1FBC:Lt 1FBD:Sk 1FBE:Ll 1FC1:Sk 1FC4:Ll 1FC5:Cn 1FC7:Ll 1FCB:Lu 1FCC:Lt 1FCF:Sk",
   "1FD3:Ll 1FD5:Cn 1FD7:Ll 1FDB:Lu 1FDC:Cn 1FDF:Sk 1FE7:Ll 1FEC:Lu 1FEF:Sk 1FF1:Cn 1FF4:Ll",
   "1FF5:Cn 1FF7:Ll 1FFB:Lu 1FFC:Lt 1FFE:Sk 1FFF:Cn 200A:Zs 200F:Cf 2015:Pd 2017:Po 2018:Pi",
   "2019:Pf 201A:Ps 201C:Pi 201D:Pf 201E:Ps 201F:Pi 2027:Po 2028:Zl 2029:Zp 202E:Cf 202F:Zs",
   "2038:Po 2039:Pi 203A:Pf 203E:Po 2040:Pc 2043:Po 2044:Sm 2045:Ps 2046:Pe 2051:Po 2052:Sm",
   "2053:Po 2054:Pc 205E:Po 205F:Zs 2064:Cf 2065:Cn 206F:Cf 2070:No 2071:Lm 2073:Cn 2079:No",
   "207C:Sm 207D:Ps 207E:Pe 207F:Lm 2089:No 208C:Sm 208D:Ps 208E:Pe 208F:Cn 209C:Lm 209F:Cn",
   "20C0:Sc 20CF:Cn 20DC:Mn 20E0:Me 20E1:Mn 20E4:Me 20F0:Mn 20FF:Cn 2101:So 2102:Lu 2106:So",
   "2107:Lu 2109:So 210A:Ll 210D:Lu 210F:Ll 2112:Lu 2113:Ll 2114:So 2115:Lu 2117:So 2118:Sm",
   "211D:Lu 2123:So 2124:Lu 2125:So 2126:Lu 2127:So 2128:Lu 2129:So 212D:Lu 212E:So 212F:Ll",
   "2133:Lu 2134:Ll 2138:Lo 2139:Ll 213B:So 213D:Ll 213F:Lu 2144:Sm 2145:Lu 2149:Ll 214A:So",
   "214B:Sm 214D:So 214E:Ll 214F:So 215F:No 2182:Nl 2183:Lu 2184:Ll 2188:Nl 2189:No 218B:So",
   "218F:Cn 2194:Sm 2199:So 219B:Sm 219F:So 21A0:Sm 21A2:So 21A3:Sm 21A5:So 21A6:Sm 21AD:So",
   "21AE:Sm 21CD:So 21CF:Sm 21D1:So 21D2:Sm 21D3:So 21D4:Sm 21F3:So 22FF:Sm 2307:So 2308:Ps",
   "2309:Pe 230A:Ps 230B:Pe 231F:So 2321:Sm 2328:So 2329:Ps 232A:Pe 237B:So 237C:Sm 239A:So",
   "23B3:Sm 23DB:So 23E1:Sm 2429:So 243F:Cn 244A:So 245F:Cn 249B:No 24E9:So 24FF:No 25B6:So",
   "25B7:Sm 25C0:So 25C1:Sm 25F7:So 25FF:Sm 266E:So 266F:Sm 2767:So 2768:Ps 2769:Pe 276A:Ps",
   "276B:Pe 276C:Ps 276D:Pe 276E:Ps 276F:Pe 2770:Ps 2771:Pe 2772:Ps 2773:Pe 2774:Ps 2775:Pe",
   "2793:No 27BF:So 27C4:Sm 27C5:Ps 27C6:Pe 27E5:Sm 27E6:Ps 27E7:Pe 27E8:Ps 27E9:Pe 27EA:Ps",
   "27EB:Pe 27EC:Ps 27ED:Pe 27EE:Ps 27EF:Pe 27FF:Sm 28FF:So 2982:Sm 2983:Ps 2984:Pe 2985:Ps",
   "2986:Pe 2987:Ps 2988:Pe 2989:Ps 298A:Pe 298B:Ps 298C:Pe 298D:Ps 298E:Pe 298F:Ps 2990:Pe",
   "2991:Ps 2992:Pe 2993:Ps 2994:Pe 2995:Ps 2996:Pe 2997:Ps 2998:Pe 29D7:Sm 29D8:Ps 29D9:Pe",
   "29DA:Ps 29DB:Pe 29FB:Sm 29FC:Ps 29FD:Pe 2AFF:Sm 2B2F:So 2B44:Sm 2B46:So 2B4C:Sm 2B73:So",
   "2B75:Cn 2B95:So 2B96:Cn 2BFF:So 2C2F:Lu 2C5F:Ll 2C60:Lu 2C61:Ll 2C64:Lu 2C66:Ll 2C67:Lu",
   "2C68:Ll 2C69:Lu 2C6A:Ll 2C6B:Lu 2C6C:Ll 2C70:Lu 2C71:Ll 2C72:Lu 2C74:Ll 2C75:Lu 2C7B:Ll",
   "2C7D:Lm 2C80:Lu 2C81:Ll 2C82:Lu 2C83:Ll 2C84:Lu 2C85:Ll 2C86:Lu 2C87:Ll 2C88:Lu 2C89:Ll",
   "2C8A:Lu 2C8B:Ll 2C8C:Lu 2C8D:Ll 2C8E:Lu 2C8F:Ll 2C90:Lu 2C91:Ll 2C92:Lu 2C93:Ll 2C94:Lu",
   "2C95:Ll 2C96:Lu 2C97:Ll 2C98:Lu 2C99:Ll 2C9A:Lu 2C9B:Ll 2C9C:Lu 2C9D:Ll 2C9E:Lu 2C9F:Ll",
   "2CA0:Lu 2CA1:Ll 2CA2:Lu 2CA3:Ll 2CA4:Lu 2CA5:Ll 2CA6:Lu 2CA7:Ll 2CA8:Lu 2CA9:Ll 2CAA:Lu",
   "2CAB:Ll 2CAC:Lu 2CAD:Ll 2CAE:Lu 2CAF:Ll 2CB0:Lu 2CB1:Ll 2CB2:Lu 2CB3:Ll 2CB4:Lu 2CB5:Ll",
   "2CB6:Lu 2CB7:Ll 2CB8:Lu 2CB9:Ll 2CBA:Lu 2CBB:Ll 2CBC:Lu 2CBD:Ll 2CBE:Lu 2CBF:Ll 2CC0:Lu",
   "2CC1:Ll 2CC2:Lu 2CC3:Ll 2CC4:Lu 2CC5:Ll 2CC6:Lu 2CC7:Ll 2CC8:Lu 2CC9:Ll 2CCA:Lu 2CCB:Ll",
   "2CCC:Lu 2CCD:Ll 2CCE:Lu 2CCF:Ll 2CD0:Lu 2CD1:Ll 2CD2:Lu 2CD3:Ll 2CD4:Lu 2CD5:Ll 2CD6:Lu",
   "2CD7:Ll 2CD8:Lu 2CD9:Ll 2CDA:Lu 2CDB:Ll 2CDC:Lu 2CDD:Ll 2CDE:Lu 2CDF:Ll 2CE0:Lu 2CE1:Ll",
   "2CE2:Lu 2CE4:Ll 2CEA:So 2CEB:Lu 2CEC:Ll 2CED:Lu 2CEE:Ll 2CF1:Mn 2CF2:Lu 2CF3:Ll 2CF8:Cn",
   "2CFC:Po 2CFD:No 2CFF:Po 2D25:Ll 2D26:Cn 2D27:Ll 2D2C:Cn 2D2D:Ll 2D2F:Cn 2D67:Lo 2D6E:Cn",
   "2D6F:Lm 2D70:Po 2D7E:Cn 2D7F:Mn 2D96:Lo 2D9F:Cn 2DA6:Lo 2DA7:Cn 2DAE:Lo 2DAF:Cn 2DB6:Lo",
   "2DB7:Cn 2DBE:Lo 2DBF:Cn 2DC6:Lo 2DC7:Cn 2DCE:Lo 2DCF:Cn 2DD6:Lo 2DD7:Cn 2DDE:Lo 2DDF:Cn",
   "2DFF:Mn 2E01:Po 2E02:Pi 2E03:Pf 2E04:Pi 2E05:Pf 2E08:Po 2E09:Pi 2E0A:Pf 2E0B:Po 2E0C:Pi",
   "2E0D:Pf 2E16:Po 2E17:Pd 2E19:Po 2E1A:Pd 2E1B:Po 2E1C:Pi 2E1D:Pf 2E1F:Po 2E20:Pi 2E21:Pf",
   "2E22:Ps 2E23:Pe 2E24:Ps 2E25:Pe 2E26:Ps 2E27:Pe 2E28:Ps 2E29:Pe 2E2E:Po 2E2F:Lm 2E39:Po",
   "2E3B:Pd 2E3F:Po 2E40:Pd 2E41:Po 2E42:Ps 2E4F:Po 2E51:So 2E54:Po 2E55:Ps 2E56:Pe 2E57:Ps",
   "2E58:Pe 2E59:Ps 2E5A:Pe 2E5B:Ps 2E5C:Pe 2E5D:Pd 2E7F:Cn 2E99:So 2E9A:Cn 2EF3:So 2EFF:Cn",
   "2FD5:So 2FEF:Cn 2FFF:So 3000:Zs 3003:Po 3004:So 3005:Lm 3006:Lo 3007:Nl 3008:Ps 3009:Pe",
   "300A:Ps 300B:Pe 300C:Ps 300D:Pe 300E:Ps 300F:Pe 3010:Ps 3011:Pe 3013:So 3014:Ps 3015:Pe",
   "3016:Ps 3017:Pe 3018:Ps 3019:Pe 301A:Ps 301B:Pe 301C:Pd 301D:Ps 301F:Pe 3020:So 3029:Nl",
   "302D:Mn 302F:Mc 3030:Pd 3035:Lm 3037:So 303A:Nl 303B:Lm 303C:Lo 303D:Po 303F:So 3040:Cn",
   "3096:Lo 3098:Cn 309A:Mn 309C:Sk 309E:Lm 309F:Lo 30A0:Pd 30FA:Lo 30FB:Po 30FE:Lm 30FF:Lo",
   "3104:Cn 312F:Lo 3130:Cn 318E:Lo 318F:Cn 3191:So 3195:No 319F:So 31BF:Lo 31E5:So 31EE:Cn",
   "31EF:So 31FF:Lo 321E:So 321F:Cn 3229:No 3247:So 324F:No 3250:So 325F:No 327F:So 3289:No",
   "32B0:So 32BF:No 33FF:So 4DBF:Lo 4DFF:So A014:Lo A015:Lm A48C:Lo A48F:Cn A4C6:So A4CF:Cn",
   "A4F7:Lo A4FD:Lm A4FF:Po A60B:Lo A60C:Lm A60F:Po A61F:Lo A629:Nd A62B:Lo A63F:Cn A640:Lu",
   "A641:Ll A642:Lu A643:Ll A644:Lu A645:Ll A646:Lu A647:Ll A648:Lu A649:Ll A64A:Lu A64B:Ll",
   "A64C:Lu A64D:Ll A64E:Lu A64F:Ll A650:Lu A651:Ll A652:Lu A653:Ll A654:Lu A655:Ll A656:Lu",
   "A657:Ll A658:Lu A659:Ll A65A:Lu A65B:Ll A65C:Lu A65D:Ll A65E:Lu A65F:Ll A660:Lu A661:Ll",
   "A662:Lu A663:Ll A664:Lu A665:Ll A666:Lu A667:Ll A668:Lu A669:Ll A66A:Lu A66B:Ll A66C:Lu",
   "A66D:Ll A66E:Lo A66F:Mn A672:Me A673:Po A67D:Mn A67E:Po A67F:Lm A680:Lu A681:Ll A682:Lu",
   "A683:Ll A684:Lu A685:Ll A686:Lu A687:Ll A688:Lu A689:Ll A68A:Lu A68B:Ll A68C:Lu A68D:Ll",
   "A68E:Lu A68F:Ll A690:Lu A691:Ll A692:Lu A693:Ll A694:Lu A695:Ll A696:Lu A697:Ll A698:Lu",
   "A699:Ll A69A:Lu A69B:Ll A69D:Lm A69F:Mn A6E5:Lo A6EF:Nl A6F1:Mn A6F7:Po A6FF:Cn A716:Sk",
   "A71F:Lm A721:Sk A722:Lu A723:Ll A724:Lu A725:Ll A726:Lu A727:Ll A728:Lu A729:Ll A72A:Lu",
   "A72B:Ll A72C:Lu A72D:Ll A72E:Lu A731:Ll A732:Lu A733:Ll A734:Lu A735:Ll A736:Lu A737:Ll",
   "A738:Lu A739:Ll A73A:Lu A73B:Ll A73C:Lu A73D:Ll A73E:Lu A73F:Ll A740:Lu A741:Ll A742:Lu",
   "A743:Ll A744:Lu A745:Ll A746:Lu A747:Ll A748:Lu A749:Ll A74A:Lu A74B:Ll A74C:Lu A74D:Ll",
   "A74E:Lu A74F:Ll A750:Lu A751:Ll A752:Lu A753:Ll A754:Lu A755:Ll A756:Lu A757:Ll A758:Lu",
   "A759:Ll A75A:Lu A75B:Ll A75C:Lu A75D:Ll A75E:Lu A75F:Ll A760:Lu A761:Ll A762:Lu A763:Ll",
   "A764:Lu A765:Ll A766:Lu A767:Ll A768:Lu A769:Ll A76A:Lu A76B:Ll A76C:Lu A76D:Ll A76E:Lu",
   "A76F:Ll A770:Lm A778:Ll A779:Lu A77A:Ll A77B:Lu A77C:Ll A77E:Lu A77F:Ll A780:Lu A781:Ll",
   "A782:Lu A783:Ll A784:Lu A785:Ll A786:Lu A787:Ll A788:Lm A78A:Sk A78B:Lu A78C:Ll A78D:Lu",
   "A78E:Ll A78F:Lo A790:Lu A791:Ll A792:Lu A795:Ll A796:Lu A797:Ll A798:Lu A799:Ll A79A:Lu",
   "A79B:Ll A79C:Lu A79D:Ll A79E:Lu A79F:Ll A7A0:Lu A7A1:Ll A7A2:Lu A7A3:Ll A7A4:Lu A7A5:Ll",
   "A7A6:Lu A7A7:Ll A7A8:Lu A7A9:Ll A7AE:Lu A7AF:Ll A7B4:Lu A7B5:Ll A7B6:Lu A7B7:Ll A7B8:Lu",
   "A7B9:Ll A7BA:Lu A7BB:Ll A7BC:Lu A7BD:Ll A7BE:Lu A7BF:Ll A7C0:Lu A7C1:Ll A7C2:Lu A7C3:Ll",
   "A7C7:Lu A7C8:Ll A7C9:Lu A7CA:Ll A7CC:Lu A7CD:Ll A7CF:Cn A7D0:Lu A7D1:Ll A7D2:Cn A7D3:Ll",
   "A7D4:Cn A7D5:Ll A7D6:Lu A7D7:Ll A7D8:Lu A7D9:Ll A7DA:Lu A7DB:Ll A7DC:Lu A7F1:Cn A7F4:Lm",
   "A7F5:Lu A7F6:Ll A7F7:Lo A7F9:Lm A7FA:Ll A801:Lo A802:Mn A805:Lo A806:Mn A80A:Lo A80B:Mn",
   "A822:Lo A824:Mc A826:Mn A827:Mc A82B:So A82C:Mn A82F:Cn A835:No A837:So A838:Sc A839:So",
   "A83F:Cn A873:Lo A877:Po A87F:Cn A881:Mc A8B3:Lo A8C3:Mc A8C5:Mn A8CD:Cn A8CF:Po A8D9:Nd",
   "A8DF:Cn A8F1:Mn A8F7:Lo A8FA:Po A8FB:Lo A8FC:Po A8FE:Lo A8FF:Mn A909:Nd A925:Lo A92D:Mn",
   "A92F:Po A946:Lo A951:Mn A953:Mc A95E:Cn A95F:Po A97C:Lo A97F:Cn A982:Mn A983:Mc A9B2:Lo",
   "A9B3:Mn A9B5:Mc A9B9:Mn A9BB:Mc A9BD:Mn A9C0:Mc A9CD:Po A9CE:Cn A9CF:Lm A9D9:Nd A9DD:Cn",
   "A9DF:Po A9E4:Lo A9E5:Mn A9E6:Lm A9EF:Lo A9F9:Nd A9FE:Lo A9FF:Cn AA28:Lo AA2E:Mn AA30:Mc",
   "AA32:Mn AA34:Mc AA36:Mn AA3F:Cn AA42:Lo AA43:Mn AA4B:Lo AA4C:Mn AA4D:Mc AA4F:Cn AA59:Nd",
   "AA5B:Cn AA5F:Po AA6F:Lo AA70:Lm AA76:Lo AA79:So AA7A:Lo AA7B:Mc AA7C:Mn AA7D:Mc AAAF:Lo",
   "AAB0:Mn AAB1:Lo AAB4:Mn AAB6:Lo AAB8:Mn AABD:Lo AABF:Mn AAC0:Lo AAC1:Mn AAC2:Lo AADA:Cn",
   "AADC:Lo AADD:Lm AADF:Po AAEA:Lo AAEB:Mc AAED:Mn AAEF:Mc AAF1:Po AAF2:Lo AAF4:Lm AAF5:Mc",
   "AAF6:Mn AB00:Cn AB06:Lo AB08:Cn AB0E:Lo AB10:Cn AB16:Lo AB1F:Cn AB26:Lo AB27:Cn AB2E:Lo",
   "AB2F:Cn AB5A:Ll AB5B:Sk AB5F:Lm AB68:Ll AB69:Lm AB6B:Sk AB6F:Cn ABBF:Ll ABE2:Lo ABE4:Mc",
   "ABE5:Mn ABE7:Mc ABE8:Mn ABEA:Mc ABEB:Po ABEC:Mc ABED:Mn ABEF:Cn ABF9:Nd ABFF:Cn D7A3:Lo",
   "D7AF:Cn D7C6:Lo D7CA:Cn D7FB:Lo D7FF:Cn DFFF:Cs F8FF:Co FA6D:Lo FA6F:Cn FAD9:Lo FAFF:Cn",
   "FB06:Ll FB12:Cn FB17:Ll FB1C:Cn FB1D:Lo FB1E:Mn FB28:Lo FB29:Sm FB36:Lo FB37:Cn FB3C:Lo",
   "FB3D:Cn FB3E:Lo FB3F:Cn FB41:Lo FB42:Cn FB44:Lo FB45:Cn FBB1:Lo FBC2:Sk FBD2:Cn FD3D:Lo",
   "FD3E:Pe FD3F:Ps FD4F:So FD8F:Lo FD91:Cn FDC7:Lo FDCE:Cn FDCF:So FDEF:Cn FDFB:Lo FDFC:Sc",
   "FDFF:So FE0F:Mn FE16:Po FE17:Ps FE18:Pe FE19:Po FE1F:Cn FE2F:Mn FE30:Po FE32:Pd FE34:Pc",
   "FE35:Ps FE36:Pe FE37:Ps FE38:Pe FE39:Ps FE3A:Pe FE3B:Ps FE3C:Pe FE3D:Ps FE3E:Pe FE3F:Ps",
   "FE40:Pe FE41:Ps FE42:Pe FE43:Ps FE44:Pe FE46:Po FE47:Ps FE48:Pe FE4C:Po FE4F:Pc FE52:Po",
   "FE53:Cn FE57:Po FE58:Pd FE59:Ps FE5A:Pe FE5B:Ps FE5C:Pe FE5D:Ps FE5E:Pe FE61:Po FE62:Sm",
   "FE63:Pd FE66:Sm FE67:Cn FE68:Po FE69:Sc FE6B:Po FE6F:Cn FE74:Lo FE75:Cn FEFC:Lo FEFE:Cn",
   "FEFF:Cf FF00:Cn FF03:Po FF04:Sc FF07:Po FF08:Ps FF09:Pe FF0A:Po FF0B:Sm FF0C:Po FF0D:Pd",
   "FF0F:Po FF19:Nd FF1B:Po FF1E:Sm FF20:Po FF3A:Lu FF3B:Ps FF3C:Po FF3D:Pe FF3E:Sk FF3F:Pc",
   "FF40:Sk FF5A:Ll FF5B:Ps FF5C:Sm FF5D:Pe FF5E:Sm FF5F:Ps FF60:Pe FF61:Po FF62:Ps FF63:Pe",
   "FF65:Po FF6F:Lo FF70:Lm FF9D:Lo FF9F:Lm FFBE:Lo FFC1:Cn FFC7:Lo FFC9:Cn FFCF:Lo FFD1:Cn",
   "FFD7:Lo FFD9:Cn FFDC:Lo FFDF:Cn FFE1:Sc FFE2:Sm FFE3:Sk FFE4:So FFE6:Sc FFE7:Cn FFE8:So",
   "FFEC:Sm FFEE:So FFF8:Cn FFFB:Cf FFFD:So FFFF:Cn 1000B:Lo 1000C:Cn 10026:Lo 10027:Cn 1003A:Lo",
   "1003B:Cn 1003D:Lo 1003E:Cn 1004D:Lo 1004F:Cn 1005D:Lo 1007F:Cn 100FA:Lo 100FF:Cn 10102:Po",
   "10106:Cn 10133:No 10136:Cn 1013F:So 10174:Nl 10178:No 10189:So 1018B:No 1018E:So 1018F:Cn",
   "1019C:So 1019F:Cn 101A0:So 101CF:Cn 101FC:So 101FD:Mn 1027F:Cn 1029C:Lo 1029F:Cn 102D0:Lo",
   "102DF:Cn 102E0:Mn 102FB:No 102FF:Cn 1031F:Lo 10323:No 1032C:Cn 10340:Lo 10341:Nl 10349:Lo",
   "1034A:Nl 1034F:Cn 10375:Lo 1037A:Mn 1037F:Cn 1039D:Lo 1039E:Cn 1039F:Po 103C3:Lo 103C7:Cn",
   "103CF:Lo 103D0:Po 103D5:Nl 103FF:Cn 10427:Lu 1044F:Ll 1049D:Lo 1049F:Cn 104A9:Nd 104AF:Cn",
   "104D3:Lu 104D7:Cn 104FB:Ll 104FF:Cn 10527:Lo 1052F:Cn 10563:Lo 1056E:Cn 1056F:Po 1057A:Lu",
   "1057B:Cn 1058A:Lu 1058B:Cn 10592:Lu 10593:Cn 10595:Lu 10596:Cn 105A1:Ll 105A2:Cn 105B1:Ll",
   "105B2:Cn 105B9:Ll 105BA:Cn 105BC:Ll 105BF:Cn 105F3:Lo 105FF:Cn 10736:Lo 1073F:Cn 10755:Lo",
   "1075F:Cn 10767:Lo 1077F:Cn 10785:Lm 10786:Cn 107B0:Lm 107B1:Cn 107BA:Lm 107FF:Cn 10805:Lo",
   "10807:Cn 10808:Lo 10809:Cn 10835:Lo 10836:Cn 10838:Lo 1083B:Cn 1083C:Lo 1083E:Cn 10855:Lo",
   "10856:Cn 10857:Po 1085F:No 10876:Lo 10878:So 1087F:No 1089E:Lo 108A6:Cn 108AF:No 108DF:Cn",
   "108F2:Lo 108F3:Cn 108F5:Lo 108FA:Cn 108FF:No 10915:Lo 1091B:No 1091E:Cn 1091F:Po 10939:Lo",
   "1093E:Cn 1093F:Po 1097F:Cn 109B7:Lo 109BB:Cn 109BD:No 109BF:Lo 109CF:No 109D1:Cn 109FF:No",
   "10A00:Lo 10A03:Mn 10A04:Cn 10A06:Mn 10A0B:Cn 10A0F:Mn 10A13:Lo 10A14:Cn 10A17:Lo 10A18:Cn",
   "10A35:Lo 10A37:Cn 10A3A:Mn 10A3E:Cn 10A3F:Mn 10A48:No 10A4F:Cn 10A58:Po 10A5F:Cn 10A7C:Lo",
   "10A7E:No 10A7F:Po 10A9C:Lo 10A9F:No 10ABF:Cn 10AC7:Lo 10AC8:So 10AE4:Lo 10AE6:Mn 10AEA:Cn",
   "10AEF:No 10AF6:Po 10AFF:Cn 10B35:Lo 10B38:Cn 10B3F:Po 10B55:Lo 10B57:Cn 10B5F:No 10B72:Lo",
   "10B77:Cn 10B7F:No 10B91:Lo 10B98:Cn 10B9C:Po 10BA8:Cn 10BAF:No 10BFF:Cn 10C48:Lo 10C7F:Cn",
   "10CB2:Lu 10CBF:Cn 10CF2:Ll 10CF9:Cn 10CFF:No 10D23:Lo 10D27:Mn 10D2F:Cn 10D39:Nd 10D3F:Cn",
   "10D49:Nd 10D4D:Lo 10D4E:Lm 10D4F:Lo 10D65:Lu 10D68:Cn 10D6D:Mn 10D6E:Pd 10D6F:Lm 10D85:Ll",
   "10D8D:Cn 10D8F:Sm 10E5F:Cn 10E7E:No 10E7F:Cn 10EA9:Lo 10EAA:Cn 10EAC:Mn 10EAD:Pd 10EAF:Cn",
   "10EB1:Lo 10EC1:Cn 10EC4:Lo 10EFB:Cn 10EFF:Mn 10F1C:Lo 10F26:No 10F27:Lo 10F2F:Cn 10F45:Lo",
   "10F50:Mn 10F54:No 10F59:Po 10F6F:Cn 10F81:Lo 10F85:Mn 10F89:Po 10FAF:Cn 10FC4:Lo 10FCB:No",
   "10FDF:Cn 10FF6:Lo 10FFF:Cn 11000:Mc 11001:Mn 11002:Mc 11037:Lo 11046:Mn 1104D:Po 11051:Cn",
   "11065:No 1106F:Nd 11070:Mn 11072:Lo 11074:Mn 11075:Lo 1107E:Cn 11081:Mn 11082:Mc 110AF:Lo",
   "110B2:Mc 110B6:Mn 110B8:Mc 110BA:Mn 110BC:Po 110BD:Cf 110C1:Po 110C2:Mn 110CC:Cn 110CD:Cf",
   "110CF:Cn 110E8:Lo 110EF:Cn 110F9:Nd 110FF:Cn 11102:Mn 11126:Lo 1112B:Mn 1112C:Mc 11134:Mn",
   "11135:Cn 1113F:Nd 11143:Po 11144:Lo 11146:Mc 11147:Lo 1114F:Cn 11172:Lo 11173:Mn 11175:Po",
   "11176:Lo 1117F:Cn 11181:Mn 11182:Mc 111B2:Lo 111B5:Mc 111BE:Mn 111C0:Mc 111C4:Lo 111C8:Po",
   "111CC:Mn 111CD:Po 111CE:Mc 111CF:Mn 111D9:Nd 111DA:Lo 111DB:Po 111DC:Lo 111DF:Po 111E0:Cn",
   "111F4:No 111FF:Cn 11211:Lo 11212:Cn 1122B:Lo 1122E:Mc 11231:Mn 11233:Mc 11234:Mn 11235:Mc",
   "11237:Mn 1123D:Po 1123E:Mn 11240:Lo 11241:Mn 1127F:Cn 11286:Lo 11287:Cn 11288:Lo 11289:Cn",
   "1128D:Lo 1128E:Cn 1129D:Lo 1129E:Cn 112A8:Lo 112A9:Po 112AF:Cn 112DE:Lo 112DF:Mn 112E2:Mc",
   "112EA:Mn 112EF:Cn 112F9:Nd 112FF:Cn 11301:Mn 11303:Mc 11304:Cn 1130C:Lo 1130E:Cn 11310:Lo",
   "11312:Cn 11328:Lo 11329:Cn 11330:Lo 11331:Cn 11333:Lo 11334:Cn 11339:Lo 1133A:Cn 1133C:Mn",
   "1133D:Lo 1133F:Mc 11340:Mn 11344:Mc 11346:Cn 11348:Mc 1134A:Cn 1134D:Mc 1134F:Cn 11350:Lo",
   "11356:Cn 11357:Mc 1135C:Cn 11361:Lo 11363:Mc 11365:Cn 1136C:Mn 1136F:Cn 11374:Mn 1137F:Cn",
   "11389:Lo 1138A:Cn 1138B:Lo 1138D:Cn 1138E:Lo 1138F:Cn 113B5:Lo 113B6:Cn 113B7:Lo 113BA:Mc",
   "113C0:Mn 113C1:Cn 113C2:Mc 113C4:Cn 113C5:Mc 113C6:Cn 113CA:Mc 113CB:Cn 113CD:Mc 113CE:Mn",
   "113CF:Mc 113D0:Mn 113D1:Lo 113D2:Mn 113D3:Lo 113D5:Po 113D6:Cn 113D8:Po 113E0:Cn 113E2:Mn",
   "113FF:Cn 11434:Lo 11437:Mc 1143F:Mn 11441:Mc 11444:Mn 11445:Mc 11446:Mn 1144A:Lo 1144F:Po",
   "11459:Nd 1145B:Po 1145C:Cn 1145D:Po 1145E:Mn 11461:Lo 1147F:Cn 114AF:Lo 114B2:Mc 114B8:Mn",
   "114B9:Mc 114BA:Mn 114BE:Mc 114C0:Mn 114C1:Mc 114C3:Mn 114C5:Lo 114C6:Po 114C7:Lo 114CF:Cn",
   "114D9:Nd 1157F:Cn 115AE:Lo 115B1:Mc 115B5:Mn 115B7:Cn 115BB:Mc 115BD:Mn 115BE:Mc 115C0:Mn",
   "115D7:Po 115DB:Lo 115DD:Mn 115FF:Cn 1162F:Lo 11632:Mc 1163A:Mn 1163C:Mc 1163D:Mn 1163E:Mc",
   "11640:Mn 11643:Po 11644:Lo 1164F:Cn 11659:Nd 1165F:Cn 1166C:Po 1167F:Cn 116AA:Lo 116AB:Mn",
   "116AC:Mc 116AD:Mn 116AF:Mc 116B5:Mn 116B6:Mc 116B7:Mn 116B8:Lo 116B9:Po 116BF:Cn 116C9:Nd",
   "116CF:Cn 116E3:Nd 116FF:Cn 1171A:Lo 1171C:Cn 1171D:Mn 1171E:Mc 1171F:Mn 11721:Mc 11725:Mn",
   "11726:Mc 1172B:Mn 1172F:Cn 11739:Nd 1173B:No 1173E:Po 1173F:So 11746:Lo 117FF:Cn 1182B:Lo",
   "1182E:Mc 11837:Mn 11838:Mc 1183A:Mn 1183B:Po 1189F:Cn 118BF:Lu 118DF:Ll 118E9:Nd 118F2:No",
   "118FE:Cn 11906:Lo 11908:Cn 11909:Lo 1190B:Cn 11913:Lo 11914:Cn 11916:Lo 11917:Cn 1192F:Lo",
   "11935:Mc 11936:Cn 11938:Mc 1193A:Cn 1193C:Mn 1193D:Mc 1193E:Mn 1193F:Lo 11940:Mc 11941:Lo",
   "11942:Mc 11943:Mn 11946:Po 1194F:Cn 11959:Nd 1199F:Cn 119A7:Lo 119A9:Cn 119D0:Lo 119D3:Mc",
   "119D7:Mn 119D9:Cn 119DB:Mn 119DF:Mc 119E0:Mn 119E1:Lo 119E2:Po 119E3:Lo 119E4:Mc 119FF:Cn",
   "11A00:Lo 11A0A:Mn 11A32:Lo 11A38:Mn 11A39:Mc 11A3A:Lo 11A3E:Mn 11A46:Po 11A47:Mn 11A4F:Cn",
   "11A50:Lo 11A56:Mn 11A58:Mc 11A5B:Mn 11A89:Lo 11A96:Mn 11A97:Mc 11A99:Mn 11A9C:Po 11A9D:Lo",
   "11AA2:Po 11AAF:Cn 11AF8:Lo 11AFF:Cn 11B09:Po 11BBF:Cn 11BE0:Lo 11BE1:Po 11BEF:Cn 11BF9:Nd",
   "11BFF:Cn 11C08:Lo 11C09:Cn 11C2E:Lo 11C2F:Mc 11C36:Mn 11C37:Cn 11C3D:Mn 11C3E:Mc 11C3F:Mn",
   "11C40:Lo 11C45:Po 11C4F:Cn 11C59:Nd 11C6C:No 11C6F:Cn 11C71:Po 11C8F:Lo 11C91:Cn 11CA7:Mn",
   "11CA8:Cn 11CA9:Mc 11CB0:Mn 11CB1:Mc 11CB3:Mn 11CB4:Mc 11CB6:Mn 11CFF:Cn 11D06:Lo 11D07:Cn",
   "11D09:Lo 11D0A:Cn 11D30:Lo 11D36:Mn 11D39:Cn 11D3A:Mn 11D3B:Cn 11D3D:Mn 11D3E:Cn 11D45:Mn",
   "11D46:Lo 11D47:Mn 11D4F:Cn 11D59:Nd 11D5F:Cn 11D65:Lo 11D66:Cn 11D68:Lo 11D69:Cn 11D89:Lo",
   "11D8E:Mc 11D8F:Cn 11D91:Mn 11D92:Cn 11D94:Mc 11D95:Mn 11D96:Mc 11D97:Mn 11D98:Lo 11D9F:Cn",
   "11DA9:Nd 11EDF:Cn 11EF2:Lo 11EF4:Mn 11EF6:Mc 11EF8:Po 11EFF:Cn 11F01:Mn 11F02:Lo 11F03:Mc",
   "11F10:Lo 11F11:Cn 11F33:Lo 11F35:Mc 11F3A:Mn 11F3D:Cn 11F3F:Mc 11F40:Mn 11F41:Mc 11F42:Mn",
   "11F4F:Po 11F59:Nd 11F5A:Mn 11FAF:Cn 11FB0:Lo 11FBF:Cn 11FD4:No 11FDC:So 11FE0:Sc 11FF1:So",
   "11FFE:Cn 11FFF:Po 12399:Lo 123FF:Cn 1246E:Nl 1246F:Cn 12474:Po 1247F:Cn 12543:Lo 12F8F:Cn",
   "12FF0:Lo 12FF2:Po 12FFF:Cn 1342F:Lo 1343F:Cf 13440:Mn 13446:Lo 13455:Mn 1345F:Cn 143FA:Lo",
   "143FF:Cn 14646:Lo 160FF:Cn 1611D:Lo 16129:Mn 1612C:Mc 1612F:Mn 16139:Nd 167FF:Cn 16A38:Lo",
   "16A3F:Cn 16A5E:Lo 16A5F:Cn 16A69:Nd 16A6D:Cn 16A6F:Po 16ABE:Lo 16ABF:Cn 16AC9:Nd 16ACF:Cn",
   "16AED:Lo 16AEF:Cn 16AF4:Mn 16AF5:Po 16AFF:Cn 16B2F:Lo 16B36:Mn 16B3B:Po 16B3F:So 16B43:Lm",
   "16B44:Po 16B45:So 16B4F:Cn 16B59:Nd 16B5A:Cn 16B61:No 16B62:Cn 16B77:Lo 16B7C:Cn 16B8F:Lo",
   "16D3F:Cn 16D42:Lm 16D6A:Lo 16D6C:Lm 16D6F:Po 16D79:Nd 16E3F:Cn 16E5F:Lu 16E7F:Ll 16E96:No",
   "16E9A:Po 16EFF:Cn 16F4A:Lo 16F4E:Cn 16F4F:Mn 16F50:Lo 16F87:Mc 16F8E:Cn 16F92:Mn 16F9F:Lm",
   "16FDF:Cn 16FE1:Lm 16FE2:Po 16FE3:Lm 16FE4:Mn 16FEF:Cn 16FF1:Mc 16FFF:Cn 187F7:Lo 187FF:Cn",
   "18CD5:Lo 18CFE:Cn 18D08:Lo 1AFEF:Cn 1AFF3:Lm 1AFF4:Cn 1AFFB:Lm 1AFFC:Cn 1AFFE:Lm 1AFFF:Cn",
   "1B122:Lo 1B131:Cn 1B132:Lo 1B14F:Cn 1B152:Lo 1B154:Cn 1B155:Lo 1B163:Cn 1B167:Lo 1B16F:Cn",
   "1B2FB:Lo 1BBFF:Cn 1BC6A:Lo 1BC6F:Cn 1BC7C:Lo 1BC7F:Cn 1BC88:Lo 1BC8F:Cn 1BC99:Lo 1BC9B:Cn",
   "1BC9C:So 1BC9E:Mn 1BC9F:Po 1BCA3:Cf 1CBFF:Cn 1CCEF:So 1CCF9:Nd 1CCFF:Cn 1CEB3:So 1CEFF:Cn",
   "1CF2D:Mn 1CF2F:Cn 1CF46:Mn 1CF4F:Cn 1CFC3:So 1CFFF:Cn 1D0F5:So 1D0FF:Cn 1D126:So 1D128:Cn",
   "1D164:So 1D166:Mc 1D169:Mn 1D16C:So 1D172:Mc 1D17A:Cf 1D182:Mn 1D184:So 1D18B:Mn 1D1A9:So",
   "1D1AD:Mn 1D1EA:So 1D1FF:Cn 1D241:So 1D244:Mn 1D245:So 1D2BF:Cn 1D2D3:No 1D2DF:Cn 1D2F3:No",
   "1D2FF:Cn 1D356:So 1D35F:Cn 1D378:No 1D3FF:Cn 1D419:Lu 1D433:Ll 1D44D:Lu 1D454:Ll 1D455:Cn",
   "1D467:Ll 1D481:Lu 1D49B:Ll 1D49C:Lu 1D49D:Cn 1D49F:Lu 1D4A1:Cn 1D4A2:Lu 1D4A4:Cn 1D4A6:Lu",
   "1D4A8:Cn 1D4AC:Lu 1D4AD:Cn 1D4B5:Lu 1D4B9:Ll 1D4BA:Cn 1D4BB:Ll 1D4BC:Cn 1D4C3:Ll 1D4C4:Cn",
   "1D4CF:Ll 1D4E9:Lu 1D503:Ll 1D505:Lu 1D506:Cn 1D50A:Lu 1D50C:Cn 1D514:Lu 1D515:Cn 1D51C:Lu",
   "1D51D:Cn 1D537:Ll 1D539:Lu 1D53A:Cn 1D53E:Lu 1D53F:Cn 1D544:Lu 1D545:Cn 1D546:Lu 1D549:Cn",
   "1D550:Lu 1D551:Cn 1D56B:Ll 1D585:Lu 1D59F:Ll 1D5B9:Lu 1D5D3:Ll 1D5ED:Lu 1D607:Ll 1D621:Lu",
   "1D63B:Ll 1D655:Lu 1D66F:Ll 1D689:Lu 1D6A5:Ll 1D6A7:Cn 1D6C0:Lu 1D6C1:Sm 1D6DA:Ll 1D6DB:Sm",
   "1D6E1:Ll 1D6FA:Lu 1D6FB:Sm 1D714:Ll 1D715:Sm 1D71B:Ll 1D734:Lu 1D735:Sm 1D74E:Ll 1D74F:Sm",
   "1D755:Ll 1D76E:Lu 1D76F:Sm 1D788:Ll 1D789:Sm 1D78F:Ll 1D7A8:Lu 1D7A9:Sm 1D7C2:Ll 1D7C3:Sm",
   "1D7C9:Ll 1D7CA:Lu 1D7CB:Ll 1D7CD:Cn 1D7FF:Nd 1D9FF:So 1DA36:Mn 1DA3A:So 1DA6C:Mn 1DA74:So",
   "1DA75:Mn 1DA83:So 1DA84:Mn 1DA86:So 1DA8B:Po 1DA9A:Cn 1DA9F:Mn 1DAA0:Cn 1DAAF:Mn 1DEFF:Cn",
   "1DF09:Ll 1DF0A:Lo 1DF1E:Ll 1DF24:Cn 1DF2A:Ll 1DFFF:Cn 1E006:Mn 1E007:Cn 1E018:Mn 1E01A:Cn",
   "1E021:Mn 1E022:Cn 1E024:Mn 1E025:Cn 1E02A:Mn 1E02F:Cn 1E06D:Lm 1E08E:Cn 1E08F:Mn 1E0FF:Cn",
   "1E12C:Lo 1E12F:Cn 1E136:Mn 1E13D:Lm 1E13F:Cn 1E149:Nd 1E14D:Cn 1E14E:Lo 1E14F:So 1E28F:Cn",
   "1E2AD:Lo 1E2AE:Mn 1E2BF:Cn 1E2EB:Lo 1E2EF:Mn 1E2F9:Nd 1E2FE:Cn 1E2FF:Sc 1E4CF:Cn 1E4EA:Lo",
   "1E4EB:Lm 1E4EF:Mn 1E4F9:Nd 1E5CF:Cn 1E5ED:Lo 1E5EF:Mn 1E5F0:Lo 1E5FA:Nd 1E5FE:Cn 1E5FF:Po",
   "1E7DF:Cn 1E7E6:Lo 1E7E7:Cn 1E7EB:Lo 1E7EC:Cn 1E7EE:Lo 1E7EF:Cn 1E7FE:Lo 1E7FF:Cn 1E8C4:Lo",
   "1E8C6:Cn 1E8CF:No 1E8D6:Mn 1E8FF:Cn 1E921:Lu 1E943:Ll 1E94A:Mn 1E94B:Lm 1E94F:Cn 1E959:Nd",
   "1E95D:Cn 1E95F:Po 1EC70:Cn 1ECAB:No 1ECAC:So 1ECAF:No 1ECB0:Sc 1ECB4:No 1ED00:Cn 1ED2D:No",
   "1ED2E:So 1ED3D:No 1EDFF:Cn 1EE03:Lo 1EE04:Cn 1EE1F:Lo 1EE20:Cn 1EE22:Lo 1EE23:Cn 1EE24:Lo",
   "1EE26:Cn 1EE27:Lo 1EE28:Cn 1EE32:Lo 1EE33:Cn 1EE37:Lo 1EE38:Cn 1EE39:Lo 1EE3A:Cn 1EE3B:Lo",
   "1EE41:Cn 1EE42:Lo 1EE46:Cn 1EE47:Lo 1EE48:Cn 1EE49:Lo 1EE4A:Cn 1EE4B:Lo 1EE4C:Cn 1EE4F:Lo",
   "1EE50:Cn 1EE52:Lo 1EE53:Cn 1EE54:Lo 1EE56:Cn 1EE57:Lo 1EE58:Cn 1EE59:Lo 1EE5A:Cn 1EE5B:Lo",
   "1EE5C:Cn 1EE5D:Lo 1EE5E:Cn 1EE5F:Lo 1EE60:Cn 1EE62:Lo 1EE63:Cn 1EE64:Lo 1EE66:Cn 1EE6A:Lo",
   "1EE6B:Cn 1EE72:Lo 1EE73:Cn 1EE77:Lo 1EE78:Cn 1EE7C:Lo 1EE7D:Cn 1EE7E:Lo 1EE7F:Cn 1EE89:Lo",
   "1EE8A:Cn 1EE9B:Lo 1EEA0:Cn 1EEA3:Lo 1EEA4:Cn 1EEA9:Lo 1EEAA:Cn 1EEBB:Lo 1EEEF:Cn 1EEF1:Sm",
   "1EFFF:Cn 1F02B:So 1F02F:Cn 1F093:So 1F09F:Cn 1F0AE:So 1F0B0:Cn 1F0BF:So 1F0C0:Cn 1F0CF:So",
   "1F0D0:Cn 1F0F5:So 1F0FF:Cn 1F10C:No 1F1AD:So 1F1E5:Cn 1F202:So 1F20F:Cn 1F23B:So 1F23F:Cn",
   "1F248:So 1F24F:Cn 1F251:So 1F25F:Cn 1F265:So 1F2FF:Cn 1F3FA:So 1F3FF:Sk 1F6D7:So 1F6DB:Cn",
   "1F6EC:So 1F6EF:Cn 1F6FC:So 1F6FF:Cn 1F776:So 1F77A:Cn 1F7D9:So 1F7DF:Cn 1F7EB:So 1F7EF:Cn",
   "1F7F0:So 1F7FF:Cn 1F80B:So 1F80F:Cn 1F847:So 1F84F:Cn 1F859:So 1F85F:Cn 1F887:So 1F88F:Cn",
   "1F8AD:So 1F8AF:Cn 1F8BB:So 1F8BF:Cn 1F8C1:So 1F8FF:Cn 1FA53:So 1FA5F:Cn 1FA6D:So 1FA6F:Cn",
   "1FA7C:So 1FA7F:Cn 1FA89:So 1FA8E:Cn 1FAC6:So 1FACD:Cn 1FADC:So 1FADE:Cn 1FAE9:So 1FAEF:Cn",
   "1FAF8:So 1FAFF:Cn 1FB92:So 1FB93:Cn 1FBEF:So 1FBF9:Nd 1FFFF:Cn 2A6DF:Lo 2A6FF:Cn 2B739:Lo",
   "2B73F:Cn 2B81D:Lo 2B81F:Cn 2CEA1:Lo 2CEAF:Cn 2EBE0:Lo 2EBEF:Cn 2EE5D:Lo 2F7FF:Cn 2FA1D:Lo",
   "2FFFF:Cn 3134A:Lo 3134F:Cn 323AF:Lo E0000:Cn E0001:Cf E001F:Cn E007F:Cf E00FF:Cn E01EF:Mn",
   "EFFFF:Cn FFFFD:Co FFFFF:Cn 10FFFD:Co 10FFFF:Cn"]

/-- Short and long names of the categories and of their groups. -/
def categoryNames : List (List String) :=
  [["C", "Other"],
    ["Cc", "Control", "Cntrl"],
    ["Cf", "Format"],
    ["Cn", "Unassigned"],
    ["Co", "Private_Use"],
    ["L", "Letter"],
    ["LC", "Cased_Letter"],
    ["Ll", "Lowercase_Letter"],
    ["Lm", "Modifier_Letter"],
    ["Lo", "Other_Letter"],
    ["Lt", "Titlecase_Letter"],
    ["Lu", "Uppercase_Letter"],
    ["M", "Mark", "Combining_Mark"],
    ["Mc", "Spacing_Mark"],
    ["Me", "Enclosing_Mark"],
    ["Mn", "Nonspacing_Mark"],
    ["N", "Number"],
    ["Nd", "Decimal_Number", "Digit"],
    ["Nl", "Letter_Number"],
    ["No", "Other_Number"],
    ["P", "Punctuation", "Punct"],
    ["Pc", "Connector_Punctuation"],
    ["Pd", "Dash_Punctuation"],
    ["Pe", "Close_Punctuation"],
    ["Pf", "Final_Punctuation"],
    ["Pi", "Initial_Punctuation"],
    ["Po", "Other_Punctuation"],
    ["Ps", "Open_Punctuation"],
    ["S", "Symbol"],
    ["Sc", "Currency_Symbol"],
    ["Sk", "Modifier_Symbol"],
    ["Sm", "Math_Symbol"],
    ["So", "Other_Symbol"],
    ["Z", "Separator"],
    ["Zl", "Line_Separator"],
    ["Zp", "Paragraph_Separator"],
    ["Zs", "Space_Separator"]]

/-- Whether a category, given by its short name, belongs to a category or group. -/
def inCategory (group short : String) : Bool :=
  if group = "LC" then short = "Lu" || short = "Ll" || short = "Lt"
  else if group.length = 1 then short.toList.head? = group.toList.head?
  else group = short

/-- The code points of a category or group, given by its short name. -/
def categoryRanges (group : String) : List (Nat × Nat) :=
  rangesOfRuns categoryRuns (inCategory group)

/-- The code points of any of several categories or groups. -/
def categoriesRanges (groups : List String) : List (Nat × Nat) :=
  rangesOfRuns categoryRuns fun short => groups.any (inCategory · short)

/-- The category of a code point, by its short name. -/
def categoryOf (n : Nat) : String :=
  valueInRuns categoryRuns n

end Guardrail.Unicode
