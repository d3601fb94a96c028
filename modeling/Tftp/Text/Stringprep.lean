import Tftp.Text.CodeTable

/-! # Stringprep tables

    The tables of RFC 3454 that the nameprep profile (RFC 3491) uses, over Unicode 3.2, written as
    the range tables and mappings of `CodeTable`:

    * B.1: code points that are mapped to nothing, such as the soft hyphen and joiners;
    * B.2: the case folding that is used together with NFKC normalization;
    * the code points that nameprep prohibits: tables C.1.2 (spaces beyond ASCII), C.2.2
      (controls beyond ASCII), C.3 (private use), C.4 (non-characters), C.5 (surrogates), C.6
      (inappropriate for plain text), C.7 (inappropriate for canonical representation), C.8
      (display properties and deprecated characters) and C.9 (tagging characters);
    * D.1: code points of bidirectional category R or AL, and D.2: those of category L. -/

namespace Tftp.Stringprep

/-- Table B.1 as a range table. -/
def mappedToNothingTable : List String := [
  "AD 34F 1806 180B-180D 200B-200D 2060 FE00-FE0F FEFF"]

/-- Table B.2 as a mapping. -/
def caseFoldingTable : List String := [
  "41:61 42:62 43:63 44:64 45:65 46:66 47:67 48:68 49:69 4A:6A 4B:6B 4C:6C 4D:6D 4E:6E 4F:6F 50:70",
  "51:71 52:72 53:73 54:74 55:75 56:76 57:77 58:78 59:79 5A:7A B5:3BC C0:E0 C1:E1 C2:E2 C3:E3 C4:E4",
  "C5:E5 C6:E6 C7:E7 C8:E8 C9:E9 CA:EA CB:EB CC:EC CD:ED CE:EE CF:EF D0:F0 D1:F1 D2:F2 D3:F3 D4:F4",
  "D5:F5 D6:F6 D8:F8 D9:F9 DA:FA DB:FB DC:FC DD:FD DE:FE DF:73.73 100:101 102:103 104:105 106:107",
  "108:109 10A:10B 10C:10D 10E:10F 110:111 112:113 114:115 116:117 118:119 11A:11B 11C:11D 11E:11F",
  "120:121 122:123 124:125 126:127 128:129 12A:12B 12C:12D 12E:12F 130:69.307 132:133 134:135",
  "136:137 139:13A 13B:13C 13D:13E 13F:140 141:142 143:144 145:146 147:148 149:2BC.6E 14A:14B",
  "14C:14D 14E:14F 150:151 152:153 154:155 156:157 158:159 15A:15B 15C:15D 15E:15F 160:161 162:163",
  "164:165 166:167 168:169 16A:16B 16C:16D 16E:16F 170:171 172:173 174:175 176:177 178:FF 179:17A",
  "17B:17C 17D:17E 17F:73 181:253 182:183 184:185 186:254 187:188 189:256 18A:257 18B:18C 18E:1DD",
  "18F:259 190:25B 191:192 193:260 194:263 196:269 197:268 198:199 19C:26F 19D:272 19F:275 1A0:1A1",
  "1A2:1A3 1A4:1A5 1A6:280 1A7:1A8 1A9:283 1AC:1AD 1AE:288 1AF:1B0 1B1:28A 1B2:28B 1B3:1B4 1B5:1B6",
  "1B7:292 1B8:1B9 1BC:1BD 1C4:1C6 1C5:1C6 1C7:1C9 1C8:1C9 1CA:1CC 1CB:1CC 1CD:1CE 1CF:1D0 1D1:1D2",
  "1D3:1D4 1D5:1D6 1D7:1D8 1D9:1DA 1DB:1DC 1DE:1DF 1E0:1E1 1E2:1E3 1E4:1E5 1E6:1E7 1E8:1E9 1EA:1EB",
  "1EC:1ED 1EE:1EF 1F0:6A.30C 1F1:1F3 1F2:1F3 1F4:1F5 1F6:195 1F7:1BF 1F8:1F9 1FA:1FB 1FC:1FD",
  "1FE:1FF 200:201 202:203 204:205 206:207 208:209 20A:20B 20C:20D 20E:20F 210:211 212:213 214:215",
  "216:217 218:219 21A:21B 21C:21D 21E:21F 220:19E 222:223 224:225 226:227 228:229 22A:22B 22C:22D",
  "22E:22F 230:231 232:233 23A:2C65 23B:23C 23D:19A 23E:2C66 241:242 243:180 244:289 245:28C",
  "246:247 248:249 24A:24B 24C:24D 24E:24F 345:3B9 370:371 372:373 376:377 37A:20.3B9 37F:3F3",
  "386:3AC 388:3AD 389:3AE 38A:3AF 38C:3CC 38E:3CD 38F:3CE 390:3B9.308.301 391:3B1 392:3B2 393:3B3",
  "394:3B4 395:3B5 396:3B6 397:3B7 398:3B8 399:3B9 39A:3BA 39B:3BB 39C:3BC 39D:3BD 39E:3BE 39F:3BF",
  "3A0:3C0 3A1:3C1 3A3:3C3 3A4:3C4 3A5:3C5 3A6:3C6 3A7:3C7 3A8:3C8 3A9:3C9 3AA:3CA 3AB:3CB",
  "3B0:3C5.308.301 3C2:3C3 3CF:3D7 3D0:3B2 3D1:3B8 3D2:3C5 3D3:3CD 3D4:3CB 3D5:3C6 3D6:3C0 3D8:3D9",
  "3DA:3DB 3DC:3DD 3DE:3DF 3E0:3E1 3E2:3E3 3E4:3E5 3E6:3E7 3E8:3E9 3EA:3EB 3EC:3ED 3EE:3EF 3F0:3BA",
  "3F1:3C1 3F2:3C3 3F4:3B8 3F5:3B5 3F7:3F8 3F9:3C3 3FA:3FB 3FD:37B 3FE:37C 3FF:37D 400:450 401:451",
  "402:452 403:453 404:454 405:455 406:456 407:457 408:458 409:459 40A:45A 40B:45B 40C:45C 40D:45D",
  "40E:45E 40F:45F 410:430 411:431 412:432 413:433 414:434 415:435 416:436 417:437 418:438 419:439",
  "41A:43A 41B:43B 41C:43C 41D:43D 41E:43E 41F:43F 420:440 421:441 422:442 423:443 424:444 425:445",
  "426:446 427:447 428:448 429:449 42A:44A 42B:44B 42C:44C 42D:44D 42E:44E 42F:44F 460:461 462:463",
  "464:465 466:467 468:469 46A:46B 46C:46D 46E:46F 470:471 472:473 474:475 476:477 478:479 47A:47B",
  "47C:47D 47E:47F 480:481 48A:48B 48C:48D 48E:48F 490:491 492:493 494:495 496:497 498:499 49A:49B",
  "49C:49D 49E:49F 4A0:4A1 4A2:4A3 4A4:4A5 4A6:4A7 4A8:4A9 4AA:4AB 4AC:4AD 4AE:4AF 4B0:4B1 4B2:4B3",
  "4B4:4B5 4B6:4B7 4B8:4B9 4BA:4BB 4BC:4BD 4BE:4BF 4C0:4CF 4C1:4C2 4C3:4C4 4C5:4C6 4C7:4C8 4C9:4CA",
  "4CB:4CC 4CD:4CE 4D0:4D1 4D2:4D3 4D4:4D5 4D6:4D7 4D8:4D9 4DA:4DB 4DC:4DD 4DE:4DF 4E0:4E1 4E2:4E3",
  "4E4:4E5 4E6:4E7 4E8:4E9 4EA:4EB 4EC:4ED 4EE:4EF 4F0:4F1 4F2:4F3 4F4:4F5 4F6:4F7 4F8:4F9 4FA:4FB",
  "4FC:4FD 4FE:4FF 500:501 502:503 504:505 506:507 508:509 50A:50B 50C:50D 50E:50F 510:511 512:513",
  "514:515 516:517 518:519 51A:51B 51C:51D 51E:51F 520:521 522:523 524:525 526:527 528:529 52A:52B",
  "52C:52D 52E:52F 531:561 532:562 533:563 534:564 535:565 536:566 537:567 538:568 539:569 53A:56A",
  "53B:56B 53C:56C 53D:56D 53E:56E 53F:56F 540:570 541:571 542:572 543:573 544:574 545:575 546:576",
  "547:577 548:578 549:579 54A:57A 54B:57B 54C:57C 54D:57D 54E:57E 54F:57F 550:580 551:581 552:582",
  "553:583 554:584 555:585 556:586 587:565.582 10A0:2D00 10A1:2D01 10A2:2D02 10A3:2D03 10A4:2D04",
  "10A5:2D05 10A6:2D06 10A7:2D07 10A8:2D08 10A9:2D09 10AA:2D0A 10AB:2D0B 10AC:2D0C 10AD:2D0D",
  "10AE:2D0E 10AF:2D0F 10B0:2D10 10B1:2D11 10B2:2D12 10B3:2D13 10B4:2D14 10B5:2D15 10B6:2D16",
  "10B7:2D17 10B8:2D18 10B9:2D19 10BA:2D1A 10BB:2D1B 10BC:2D1C 10BD:2D1D 10BE:2D1E 10BF:2D1F",
  "10C0:2D20 10C1:2D21 10C2:2D22 10C3:2D23 10C4:2D24 10C5:2D25 10C7:2D27 10CD:2D2D 13A0:AB70",
  "13A1:AB71 13A2:AB72 13A3:AB73 13A4:AB74 13A5:AB75 13A6:AB76 13A7:AB77 13A8:AB78 13A9:AB79",
  "13AA:AB7A 13AB:AB7B 13AC:AB7C 13AD:AB7D 13AE:AB7E 13AF:AB7F 13B0:AB80 13B1:AB81 13B2:AB82",
  "13B3:AB83 13B4:AB84 13B5:AB85 13B6:AB86 13B7:AB87 13B8:AB88 13B9:AB89 13BA:AB8A 13BB:AB8B",
  "13BC:AB8C 13BD:AB8D 13BE:AB8E 13BF:AB8F 13C0:AB90 13C1:AB91 13C2:AB92 13C3:AB93 13C4:AB94",
  "13C5:AB95 13C6:AB96 13C7:AB97 13C8:AB98 13C9:AB99 13CA:AB9A 13CB:AB9B 13CC:AB9C 13CD:AB9D",
  "13CE:AB9E 13CF:AB9F 13D0:ABA0 13D1:ABA1 13D2:ABA2 13D3:ABA3 13D4:ABA4 13D5:ABA5 13D6:ABA6",
  "13D7:ABA7 13D8:ABA8 13D9:ABA9 13DA:ABAA 13DB:ABAB 13DC:ABAC 13DD:ABAD 13DE:ABAE 13DF:ABAF",
  "13E0:ABB0 13E1:ABB1 13E2:ABB2 13E3:ABB3 13E4:ABB4 13E5:ABB5 13E6:ABB6 13E7:ABB7 13E8:ABB8",
  "13E9:ABB9 13EA:ABBA 13EB:ABBB 13EC:ABBC 13ED:ABBD 13EE:ABBE 13EF:ABBF 13F0:13F8 13F1:13F9",
  "13F2:13FA 13F3:13FB 13F4:13FC 13F5:13FD 1C90:10D0 1C91:10D1 1C92:10D2 1C93:10D3 1C94:10D4",
  "1C95:10D5 1C96:10D6 1C97:10D7 1C98:10D8 1C99:10D9 1C9A:10DA 1C9B:10DB 1C9C:10DC 1C9D:10DD",
  "1C9E:10DE 1C9F:10DF 1CA0:10E0 1CA1:10E1 1CA2:10E2 1CA3:10E3 1CA4:10E4 1CA5:10E5 1CA6:10E6",
  "1CA7:10E7 1CA8:10E8 1CA9:10E9 1CAA:10EA 1CAB:10EB 1CAC:10EC 1CAD:10ED 1CAE:10EE 1CAF:10EF",
  "1CB0:10F0 1CB1:10F1 1CB2:10F2 1CB3:10F3 1CB4:10F4 1CB5:10F5 1CB6:10F6 1CB7:10F7 1CB8:10F8",
  "1CB9:10F9 1CBA:10FA 1CBD:10FD 1CBE:10FE 1CBF:10FF 1E00:1E01 1E02:1E03 1E04:1E05 1E06:1E07",
  "1E08:1E09 1E0A:1E0B 1E0C:1E0D 1E0E:1E0F 1E10:1E11 1E12:1E13 1E14:1E15 1E16:1E17 1E18:1E19",
  "1E1A:1E1B 1E1C:1E1D 1E1E:1E1F 1E20:1E21 1E22:1E23 1E24:1E25 1E26:1E27 1E28:1E29 1E2A:1E2B",
  "1E2C:1E2D 1E2E:1E2F 1E30:1E31 1E32:1E33 1E34:1E35 1E36:1E37 1E38:1E39 1E3A:1E3B 1E3C:1E3D",
  "1E3E:1E3F 1E40:1E41 1E42:1E43 1E44:1E45 1E46:1E47 1E48:1E49 1E4A:1E4B 1E4C:1E4D 1E4E:1E4F",
  "1E50:1E51 1E52:1E53 1E54:1E55 1E56:1E57 1E58:1E59 1E5A:1E5B 1E5C:1E5D 1E5E:1E5F 1E60:1E61",
  "1E62:1E63 1E64:1E65 1E66:1E67 1E68:1E69 1E6A:1E6B 1E6C:1E6D 1E6E:1E6F 1E70:1E71 1E72:1E73",
  "1E74:1E75 1E76:1E77 1E78:1E79 1E7A:1E7B 1E7C:1E7D 1E7E:1E7F 1E80:1E81 1E82:1E83 1E84:1E85",
  "1E86:1E87 1E88:1E89 1E8A:1E8B 1E8C:1E8D 1E8E:1E8F 1E90:1E91 1E92:1E93 1E94:1E95 1E96:68.331",
  "1E97:74.308 1E98:77.30A 1E99:79.30A 1E9A:61.2BE 1E9B:1E61 1E9E:73.73 1EA0:1EA1 1EA2:1EA3",
  "1EA4:1EA5 1EA6:1EA7 1EA8:1EA9 1EAA:1EAB 1EAC:1EAD 1EAE:1EAF 1EB0:1EB1 1EB2:1EB3 1EB4:1EB5",
  "1EB6:1EB7 1EB8:1EB9 1EBA:1EBB 1EBC:1EBD 1EBE:1EBF 1EC0:1EC1 1EC2:1EC3 1EC4:1EC5 1EC6:1EC7",
  "1EC8:1EC9 1ECA:1ECB 1ECC:1ECD 1ECE:1ECF 1ED0:1ED1 1ED2:1ED3 1ED4:1ED5 1ED6:1ED7 1ED8:1ED9",
  "1EDA:1EDB 1EDC:1EDD 1EDE:1EDF 1EE0:1EE1 1EE2:1EE3 1EE4:1EE5 1EE6:1EE7 1EE8:1EE9 1EEA:1EEB",
  "1EEC:1EED 1EEE:1EEF 1EF0:1EF1 1EF2:1EF3 1EF4:1EF5 1EF6:1EF7 1EF8:1EF9 1EFA:1EFB 1EFC:1EFD",
  "1EFE:1EFF 1F08:1F00 1F09:1F01 1F0A:1F02 1F0B:1F03 1F0C:1F04 1F0D:1F05 1F0E:1F06 1F0F:1F07",
  "1F18:1F10 1F19:1F11 1F1A:1F12 1F1B:1F13 1F1C:1F14 1F1D:1F15 1F28:1F20 1F29:1F21 1F2A:1F22",
  "1F2B:1F23 1F2C:1F24 1F2D:1F25 1F2E:1F26 1F2F:1F27 1F38:1F30 1F39:1F31 1F3A:1F32 1F3B:1F33",
  "1F3C:1F34 1F3D:1F35 1F3E:1F36 1F3F:1F37 1F48:1F40 1F49:1F41 1F4A:1F42 1F4B:1F43 1F4C:1F44",
  "1F4D:1F45 1F50:3C5.313 1F52:3C5.313.300 1F54:3C5.313.301 1F56:3C5.313.342 1F59:1F51 1F5B:1F53",
  "1F5D:1F55 1F5F:1F57 1F68:1F60 1F69:1F61 1F6A:1F62 1F6B:1F63 1F6C:1F64 1F6D:1F65 1F6E:1F66",
  "1F6F:1F67 1F80:1F00.3B9 1F81:1F01.3B9 1F82:1F02.3B9 1F83:1F03.3B9 1F84:1F04.3B9 1F85:1F05.3B9",
  "1F86:1F06.3B9 1F87:1F07.3B9 1F88:1F00.3B9 1F89:1F01.3B9 1F8A:1F02.3B9 1F8B:1F03.3B9",
  "1F8C:1F04.3B9 1F8D:1F05.3B9 1F8E:1F06.3B9 1F8F:1F07.3B9 1F90:1F20.3B9 1F91:1F21.3B9",
  "1F92:1F22.3B9 1F93:1F23.3B9 1F94:1F24.3B9 1F95:1F25.3B9 1F96:1F26.3B9 1F97:1F27.3B9",
  "1F98:1F20.3B9 1F99:1F21.3B9 1F9A:1F22.3B9 1F9B:1F23.3B9 1F9C:1F24.3B9 1F9D:1F25.3B9",
  "1F9E:1F26.3B9 1F9F:1F27.3B9 1FA0:1F60.3B9 1FA1:1F61.3B9 1FA2:1F62.3B9 1FA3:1F63.3B9",
  "1FA4:1F64.3B9 1FA5:1F65.3B9 1FA6:1F66.3B9 1FA7:1F67.3B9 1FA8:1F60.3B9 1FA9:1F61.3B9",
  "1FAA:1F62.3B9 1FAB:1F63.3B9 1FAC:1F64.3B9 1FAD:1F65.3B9 1FAE:1F66.3B9 1FAF:1F67.3B9",
  "1FB2:1F70.3B9 1FB3:3B1.3B9 1FB4:3AC.3B9 1FB6:3B1.342 1FB7:3B1.342.3B9 1FB8:1FB0 1FB9:1FB1",
  "1FBA:1F70 1FBB:1F71 1FBC:3B1.3B9 1FBE:3B9 1FC2:1F74.3B9 1FC3:3B7.3B9 1FC4:3AE.3B9 1FC6:3B7.342",
  "1FC7:3B7.342.3B9 1FC8:1F72 1FC9:1F73 1FCA:1F74 1FCB:1F75 1FCC:3B7.3B9 1FD2:3B9.308.300",
  "1FD3:3B9.308.301 1FD6:3B9.342 1FD7:3B9.308.342 1FD8:1FD0 1FD9:1FD1 1FDA:1F76 1FDB:1F77",
  "1FE2:3C5.308.300 1FE3:3C5.308.301 1FE4:3C1.313 1FE6:3C5.342 1FE7:3C5.308.342 1FE8:1FE0 1FE9:1FE1",
  "1FEA:1F7A 1FEB:1F7B 1FEC:1FE5 1FF2:1F7C.3B9 1FF3:3C9.3B9 1FF4:3CE.3B9 1FF6:3C9.342",
  "1FF7:3C9.342.3B9 1FF8:1F78 1FF9:1F79 1FFA:1F7C 1FFB:1F7D 1FFC:3C9.3B9 20A8:72.73 2102:63",
  "2103:B0.63 2107:25B 2109:B0.66 210B:68 210C:68 210D:68 2110:69 2111:69 2112:6C 2115:6E",
  "2116:6E.6F 2119:70 211A:71 211B:72 211C:72 211D:72 2120:73.6D 2121:74.65.6C 2122:74.6D 2124:7A",
  "2126:3C9 2128:7A 212A:6B 212B:E5 212C:62 212D:63 2130:65 2131:66 2132:214E 2133:6D 213E:3B3",
  "213F:3C0 2145:64 2160:2170 2161:2171 2162:2172 2163:2173 2164:2174 2165:2175 2166:2176 2167:2177",
  "2168:2178 2169:2179 216A:217A 216B:217B 216C:217C 216D:217D 216E:217E 216F:217F 2183:2184",
  "24B6:24D0 24B7:24D1 24B8:24D2 24B9:24D3 24BA:24D4 24BB:24D5 24BC:24D6 24BD:24D7 24BE:24D8",
  "24BF:24D9 24C0:24DA 24C1:24DB 24C2:24DC 24C3:24DD 24C4:24DE 24C5:24DF 24C6:24E0 24C7:24E1",
  "24C8:24E2 24C9:24E3 24CA:24E4 24CB:24E5 24CC:24E6 24CD:24E7 24CE:24E8 24CF:24E9 2C00:2C30",
  "2C01:2C31 2C02:2C32 2C03:2C33 2C04:2C34 2C05:2C35 2C06:2C36 2C07:2C37 2C08:2C38 2C09:2C39",
  "2C0A:2C3A 2C0B:2C3B 2C0C:2C3C 2C0D:2C3D 2C0E:2C3E 2C0F:2C3F 2C10:2C40 2C11:2C41 2C12:2C42",
  "2C13:2C43 2C14:2C44 2C15:2C45 2C16:2C46 2C17:2C47 2C18:2C48 2C19:2C49 2C1A:2C4A 2C1B:2C4B",
  "2C1C:2C4C 2C1D:2C4D 2C1E:2C4E 2C1F:2C4F 2C20:2C50 2C21:2C51 2C22:2C52 2C23:2C53 2C24:2C54",
  "2C25:2C55 2C26:2C56 2C27:2C57 2C28:2C58 2C29:2C59 2C2A:2C5A 2C2B:2C5B 2C2C:2C5C 2C2D:2C5D",
  "2C2E:2C5E 2C2F:2C5F 2C60:2C61 2C62:26B 2C63:1D7D 2C64:27D 2C67:2C68 2C69:2C6A 2C6B:2C6C 2C6D:251",
  "2C6E:271 2C6F:250 2C70:252 2C72:2C73 2C75:2C76 2C7E:23F 2C7F:240 2C80:2C81 2C82:2C83 2C84:2C85",
  "2C86:2C87 2C88:2C89 2C8A:2C8B 2C8C:2C8D 2C8E:2C8F 2C90:2C91 2C92:2C93 2C94:2C95 2C96:2C97",
  "2C98:2C99 2C9A:2C9B 2C9C:2C9D 2C9E:2C9F 2CA0:2CA1 2CA2:2CA3 2CA4:2CA5 2CA6:2CA7 2CA8:2CA9",
  "2CAA:2CAB 2CAC:2CAD 2CAE:2CAF 2CB0:2CB1 2CB2:2CB3 2CB4:2CB5 2CB6:2CB7 2CB8:2CB9 2CBA:2CBB",
  "2CBC:2CBD 2CBE:2CBF 2CC0:2CC1 2CC2:2CC3 2CC4:2CC5 2CC6:2CC7 2CC8:2CC9 2CCA:2CCB 2CCC:2CCD",
  "2CCE:2CCF 2CD0:2CD1 2CD2:2CD3 2CD4:2CD5 2CD6:2CD7 2CD8:2CD9 2CDA:2CDB 2CDC:2CDD 2CDE:2CDF",
  "2CE0:2CE1 2CE2:2CE3 2CEB:2CEC 2CED:2CEE 2CF2:2CF3 3371:68.70.61 3373:61.75 3375:6F.76 3380:70.61",
  "3381:6E.61 3382:3BC.61 3383:6D.61 3384:6B.61 3385:6B.62 3386:6D.62 3387:67.62 338A:70.66",
  "338B:6E.66 338C:3BC.66 3390:68.7A 3391:6B.68.7A 3392:6D.68.7A 3393:67.68.7A 3394:74.68.7A",
  "33A9:70.61 33AA:6B.70.61 33AB:6D.70.61 33AC:67.70.61 33B4:70.76 33B5:6E.76 33B6:3BC.76",
  "33B7:6D.76 33B8:6B.76 33B9:6D.76 33BA:70.77 33BB:6E.77 33BC:3BC.77 33BD:6D.77 33BE:6B.77",
  "33BF:6D.77 33C0:6B.3C9 33C1:6D.3C9 33C3:62.71 33C6:63.2215.6B.67 33C7:63.6F.2E 33C8:64.62",
  "33C9:67.79 33CB:68.70 33CD:6B.6B 33CE:6B.6D 33D7:70.68 33D9:70.70.6D 33DA:70.72 33DC:73.76",
  "33DD:77.62 A640:A641 A642:A643 A644:A645 A646:A647 A648:A649 A64A:A64B A64C:A64D A64E:A64F",
  "A650:A651 A652:A653 A654:A655 A656:A657 A658:A659 A65A:A65B A65C:A65D A65E:A65F A660:A661",
  "A662:A663 A664:A665 A666:A667 A668:A669 A66A:A66B A66C:A66D A680:A681 A682:A683 A684:A685",
  "A686:A687 A688:A689 A68A:A68B A68C:A68D A68E:A68F A690:A691 A692:A693 A694:A695 A696:A697",
  "A698:A699 A69A:A69B A722:A723 A724:A725 A726:A727 A728:A729 A72A:A72B A72C:A72D A72E:A72F",
  "A732:A733 A734:A735 A736:A737 A738:A739 A73A:A73B A73C:A73D A73E:A73F A740:A741 A742:A743",
  "A744:A745 A746:A747 A748:A749 A74A:A74B A74C:A74D A74E:A74F A750:A751 A752:A753 A754:A755",
  "A756:A757 A758:A759 A75A:A75B A75C:A75D A75E:A75F A760:A761 A762:A763 A764:A765 A766:A767",
  "A768:A769 A76A:A76B A76C:A76D A76E:A76F A779:A77A A77B:A77C A77D:1D79 A77E:A77F A780:A781",
  "A782:A783 A784:A785 A786:A787 A78B:A78C A78D:265 A790:A791 A792:A793 A796:A797 A798:A799",
  "A79A:A79B A79C:A79D A79E:A79F A7A0:A7A1 A7A2:A7A3 A7A4:A7A5 A7A6:A7A7 A7A8:A7A9 A7AA:266",
  "A7AB:25C A7AC:261 A7AD:26C A7AE:26A A7B0:29E A7B1:287 A7B2:29D A7B3:AB53 A7B4:A7B5 A7B6:A7B7",
  "A7B8:A7B9 A7BA:A7BB A7BC:A7BD A7BE:A7BF A7C0:A7C1 A7C2:A7C3 A7C4:A794 A7C5:282 A7C6:1D8E",
  "A7C7:A7C8 A7C9:A7CA A7D0:A7D1 A7D6:A7D7 A7D8:A7D9 A7F5:A7F6 FB00:66.66 FB01:66.69 FB02:66.6C",
  "FB03:66.66.69 FB04:66.66.6C FB05:73.74 FB06:73.74 FB13:574.576 FB14:574.565 FB15:574.56B",
  "FB16:57E.576 FB17:574.56D FF21:FF41 FF22:FF42 FF23:FF43 FF24:FF44 FF25:FF45 FF26:FF46 FF27:FF47",
  "FF28:FF48 FF29:FF49 FF2A:FF4A FF2B:FF4B FF2C:FF4C FF2D:FF4D FF2E:FF4E FF2F:FF4F FF30:FF50",
  "FF31:FF51 FF32:FF52 FF33:FF53 FF34:FF54 FF35:FF55 FF36:FF56 FF37:FF57 FF38:FF58 FF39:FF59",
  "FF3A:FF5A 10400:10428 10401:10429 10402:1042A 10403:1042B 10404:1042C 10405:1042D 10406:1042E",
  "10407:1042F 10408:10430 10409:10431 1040A:10432 1040B:10433 1040C:10434 1040D:10435 1040E:10436",
  "1040F:10437 10410:10438 10411:10439 10412:1043A 10413:1043B 10414:1043C 10415:1043D 10416:1043E",
  "10417:1043F 10418:10440 10419:10441 1041A:10442 1041B:10443 1041C:10444 1041D:10445 1041E:10446",
  "1041F:10447 10420:10448 10421:10449 10422:1044A 10423:1044B 10424:1044C 10425:1044D 10426:1044E",
  "10427:1044F 104B0:104D8 104B1:104D9 104B2:104DA 104B3:104DB 104B4:104DC 104B5:104DD 104B6:104DE",
  "104B7:104DF 104B8:104E0 104B9:104E1 104BA:104E2 104BB:104E3 104BC:104E4 104BD:104E5 104BE:104E6",
  "104BF:104E7 104C0:104E8 104C1:104E9 104C2:104EA 104C3:104EB 104C4:104EC 104C5:104ED 104C6:104EE",
  "104C7:104EF 104C8:104F0 104C9:104F1 104CA:104F2 104CB:104F3 104CC:104F4 104CD:104F5 104CE:104F6",
  "104CF:104F7 104D0:104F8 104D1:104F9 104D2:104FA 104D3:104FB 10570:10597 10571:10598 10572:10599",
  "10573:1059A 10574:1059B 10575:1059C 10576:1059D 10577:1059E 10578:1059F 10579:105A0 1057A:105A1",
  "1057C:105A3 1057D:105A4 1057E:105A5 1057F:105A6 10580:105A7 10581:105A8 10582:105A9 10583:105AA",
  "10584:105AB 10585:105AC 10586:105AD 10587:105AE 10588:105AF 10589:105B0 1058A:105B1 1058C:105B3",
  "1058D:105B4 1058E:105B5 1058F:105B6 10590:105B7 10591:105B8 10592:105B9 10594:105BB 10595:105BC",
  "10C80:10CC0 10C81:10CC1 10C82:10CC2 10C83:10CC3 10C84:10CC4 10C85:10CC5 10C86:10CC6 10C87:10CC7",
  "10C88:10CC8 10C89:10CC9 10C8A:10CCA 10C8B:10CCB 10C8C:10CCC 10C8D:10CCD 10C8E:10CCE 10C8F:10CCF",
  "10C90:10CD0 10C91:10CD1 10C92:10CD2 10C93:10CD3 10C94:10CD4 10C95:10CD5 10C96:10CD6 10C97:10CD7",
  "10C98:10CD8 10C99:10CD9 10C9A:10CDA 10C9B:10CDB 10C9C:10CDC 10C9D:10CDD 10C9E:10CDE 10C9F:10CDF",
  "10CA0:10CE0 10CA1:10CE1 10CA2:10CE2 10CA3:10CE3 10CA4:10CE4 10CA5:10CE5 10CA6:10CE6 10CA7:10CE7",
  "10CA8:10CE8 10CA9:10CE9 10CAA:10CEA 10CAB:10CEB 10CAC:10CEC 10CAD:10CED 10CAE:10CEE 10CAF:10CEF",
  "10CB0:10CF0 10CB1:10CF1 10CB2:10CF2 118A0:118C0 118A1:118C1 118A2:118C2 118A3:118C3 118A4:118C4",
  "118A5:118C5 118A6:118C6 118A7:118C7 118A8:118C8 118A9:118C9 118AA:118CA 118AB:118CB 118AC:118CC",
  "118AD:118CD 118AE:118CE 118AF:118CF 118B0:118D0 118B1:118D1 118B2:118D2 118B3:118D3 118B4:118D4",
  "118B5:118D5 118B6:118D6 118B7:118D7 118B8:118D8 118B9:118D9 118BA:118DA 118BB:118DB 118BC:118DC",
  "118BD:118DD 118BE:118DE 118BF:118DF 16E40:16E60 16E41:16E61 16E42:16E62 16E43:16E63 16E44:16E64",
  "16E45:16E65 16E46:16E66 16E47:16E67 16E48:16E68 16E49:16E69 16E4A:16E6A 16E4B:16E6B 16E4C:16E6C",
  "16E4D:16E6D 16E4E:16E6E 16E4F:16E6F 16E50:16E70 16E51:16E71 16E52:16E72 16E53:16E73 16E54:16E74",
  "16E55:16E75 16E56:16E76 16E57:16E77 16E58:16E78 16E59:16E79 16E5A:16E7A 16E5B:16E7B 16E5C:16E7C",
  "16E5D:16E7D 16E5E:16E7E 16E5F:16E7F 1D400:61 1D401:62 1D402:63 1D403:64 1D404:65 1D405:66",
  "1D406:67 1D407:68 1D408:69 1D409:6A 1D40A:6B 1D40B:6C 1D40C:6D 1D40D:6E 1D40E:6F 1D40F:70",
  "1D410:71 1D411:72 1D412:73 1D413:74 1D414:75 1D415:76 1D416:77 1D417:78 1D418:79 1D419:7A",
  "1D434:61 1D435:62 1D436:63 1D437:64 1D438:65 1D439:66 1D43A:67 1D43B:68 1D43C:69 1D43D:6A",
  "1D43E:6B 1D43F:6C 1D440:6D 1D441:6E 1D442:6F 1D443:70 1D444:71 1D445:72 1D446:73 1D447:74",
  "1D448:75 1D449:76 1D44A:77 1D44B:78 1D44C:79 1D44D:7A 1D468:61 1D469:62 1D46A:63 1D46B:64",
  "1D46C:65 1D46D:66 1D46E:67 1D46F:68 1D470:69 1D471:6A 1D472:6B 1D473:6C 1D474:6D 1D475:6E",
  "1D476:6F 1D477:70 1D478:71 1D479:72 1D47A:73 1D47B:74 1D47C:75 1D47D:76 1D47E:77 1D47F:78",
  "1D480:79 1D481:7A 1D49C:61 1D49E:63 1D49F:64 1D4A2:67 1D4A5:6A 1D4A6:6B 1D4A9:6E 1D4AA:6F",
  "1D4AB:70 1D4AC:71 1D4AE:73 1D4AF:74 1D4B0:75 1D4B1:76 1D4B2:77 1D4B3:78 1D4B4:79 1D4B5:7A",
  "1D4D0:61 1D4D1:62 1D4D2:63 1D4D3:64 1D4D4:65 1D4D5:66 1D4D6:67 1D4D7:68 1D4D8:69 1D4D9:6A",
  "1D4DA:6B 1D4DB:6C 1D4DC:6D 1D4DD:6E 1D4DE:6F 1D4DF:70 1D4E0:71 1D4E1:72 1D4E2:73 1D4E3:74",
  "1D4E4:75 1D4E5:76 1D4E6:77 1D4E7:78 1D4E8:79 1D4E9:7A 1D504:61 1D505:62 1D507:64 1D508:65",
  "1D509:66 1D50A:67 1D50D:6A 1D50E:6B 1D50F:6C 1D510:6D 1D511:6E 1D512:6F 1D513:70 1D514:71",
  "1D516:73 1D517:74 1D518:75 1D519:76 1D51A:77 1D51B:78 1D51C:79 1D538:61 1D539:62 1D53B:64",
  "1D53C:65 1D53D:66 1D53E:67 1D540:69 1D541:6A 1D542:6B 1D543:6C 1D544:6D 1D546:6F 1D54A:73",
  "1D54B:74 1D54C:75 1D54D:76 1D54E:77 1D54F:78 1D550:79 1D56C:61 1D56D:62 1D56E:63 1D56F:64",
  "1D570:65 1D571:66 1D572:67 1D573:68 1D574:69 1D575:6A 1D576:6B 1D577:6C 1D578:6D 1D579:6E",
  "1D57A:6F 1D57B:70 1D57C:71 1D57D:72 1D57E:73 1D57F:74 1D580:75 1D581:76 1D582:77 1D583:78",
  "1D584:79 1D585:7A 1D5A0:61 1D5A1:62 1D5A2:63 1D5A3:64 1D5A4:65 1D5A5:66 1D5A6:67 1D5A7:68",
  "1D5A8:69 1D5A9:6A 1D5AA:6B 1D5AB:6C 1D5AC:6D 1D5AD:6E 1D5AE:6F 1D5AF:70 1D5B0:71 1D5B1:72",
  "1D5B2:73 1D5B3:74 1D5B4:75 1D5B5:76 1D5B6:77 1D5B7:78 1D5B8:79 1D5B9:7A 1D5D4:61 1D5D5:62",
  "1D5D6:63 1D5D7:64 1D5D8:65 1D5D9:66 1D5DA:67 1D5DB:68 1D5DC:69 1D5DD:6A 1D5DE:6B 1D5DF:6C",
  "1D5E0:6D 1D5E1:6E 1D5E2:6F 1D5E3:70 1D5E4:71 1D5E5:72 1D5E6:73 1D5E7:74 1D5E8:75 1D5E9:76",
  "1D5EA:77 1D5EB:78 1D5EC:79 1D5ED:7A 1D608:61 1D609:62 1D60A:63 1D60B:64 1D60C:65 1D60D:66",
  "1D60E:67 1D60F:68 1D610:69 1D611:6A 1D612:6B 1D613:6C 1D614:6D 1D615:6E 1D616:6F 1D617:70",
  "1D618:71 1D619:72 1D61A:73 1D61B:74 1D61C:75 1D61D:76 1D61E:77 1D61F:78 1D620:79 1D621:7A",
  "1D63C:61 1D63D:62 1D63E:63 1D63F:64 1D640:65 1D641:66 1D642:67 1D643:68 1D644:69 1D645:6A",
  "1D646:6B 1D647:6C 1D648:6D 1D649:6E 1D64A:6F 1D64B:70 1D64C:71 1D64D:72 1D64E:73 1D64F:74",
  "1D650:75 1D651:76 1D652:77 1D653:78 1D654:79 1D655:7A 1D670:61 1D671:62 1D672:63 1D673:64",
  "1D674:65 1D675:66 1D676:67 1D677:68 1D678:69 1D679:6A 1D67A:6B 1D67B:6C 1D67C:6D 1D67D:6E",
  "1D67E:6F 1D67F:70 1D680:71 1D681:72 1D682:73 1D683:74 1D684:75 1D685:76 1D686:77 1D687:78",
  "1D688:79 1D689:7A 1D6A8:3B1 1D6A9:3B2 1D6AA:3B3 1D6AB:3B4 1D6AC:3B5 1D6AD:3B6 1D6AE:3B7",
  "1D6AF:3B8 1D6B0:3B9 1D6B1:3BA 1D6B2:3BB 1D6B3:3BC 1D6B4:3BD 1D6B5:3BE 1D6B6:3BF 1D6B7:3C0",
  "1D6B8:3C1 1D6B9:3B8 1D6BA:3C3 1D6BB:3C4 1D6BC:3C5 1D6BD:3C6 1D6BE:3C7 1D6BF:3C8 1D6C0:3C9",
  "1D6D3:3C3 1D6E2:3B1 1D6E3:3B2 1D6E4:3B3 1D6E5:3B4 1D6E6:3B5 1D6E7:3B6 1D6E8:3B7 1D6E9:3B8",
  "1D6EA:3B9 1D6EB:3BA 1D6EC:3BB 1D6ED:3BC 1D6EE:3BD 1D6EF:3BE 1D6F0:3BF 1D6F1:3C0 1D6F2:3C1",
  "1D6F3:3B8 1D6F4:3C3 1D6F5:3C4 1D6F6:3C5 1D6F7:3C6 1D6F8:3C7 1D6F9:3C8 1D6FA:3C9 1D70D:3C3",
  "1D71C:3B1 1D71D:3B2 1D71E:3B3 1D71F:3B4 1D720:3B5 1D721:3B6 1D722:3B7 1D723:3B8 1D724:3B9",
  "1D725:3BA 1D726:3BB 1D727:3BC 1D728:3BD 1D729:3BE 1D72A:3BF 1D72B:3C0 1D72C:3C1 1D72D:3B8",
  "1D72E:3C3 1D72F:3C4 1D730:3C5 1D731:3C6 1D732:3C7 1D733:3C8 1D734:3C9 1D747:3C3 1D756:3B1",
  "1D757:3B2 1D758:3B3 1D759:3B4 1D75A:3B5 1D75B:3B6 1D75C:3B7 1D75D:3B8 1D75E:3B9 1D75F:3BA",
  "1D760:3BB 1D761:3BC 1D762:3BD 1D763:3BE 1D764:3BF 1D765:3C0 1D766:3C1 1D767:3B8 1D768:3C3",
  "1D769:3C4 1D76A:3C5 1D76B:3C6 1D76C:3C7 1D76D:3C8 1D76E:3C9 1D781:3C3 1D790:3B1 1D791:3B2",
  "1D792:3B3 1D793:3B4 1D794:3B5 1D795:3B6 1D796:3B7 1D797:3B8 1D798:3B9 1D799:3BA 1D79A:3BB",
  "1D79B:3BC 1D79C:3BD 1D79D:3BE 1D79E:3BF 1D79F:3C0 1D7A0:3C1 1D7A1:3B8 1D7A2:3C3 1D7A3:3C4",
  "1D7A4:3C5 1D7A5:3C6 1D7A6:3C7 1D7A7:3C8 1D7A8:3C9 1D7BB:3C3 1E900:1E922 1E901:1E923 1E902:1E924",
  "1E903:1E925 1E904:1E926 1E905:1E927 1E906:1E928 1E907:1E929 1E908:1E92A 1E909:1E92B 1E90A:1E92C",
  "1E90B:1E92D 1E90C:1E92E 1E90D:1E92F 1E90E:1E930 1E90F:1E931 1E910:1E932 1E911:1E933 1E912:1E934",
  "1E913:1E935 1E914:1E936 1E915:1E937 1E916:1E938 1E917:1E939 1E918:1E93A 1E919:1E93B 1E91A:1E93C",
  "1E91B:1E93D 1E91C:1E93E 1E91D:1E93F 1E91E:1E940 1E91F:1E941 1E920:1E942 1E921:1E943"]

/-- The union of the tables that nameprep prohibits, as a range table. -/
def prohibitedTable : List String := [
  "80-A0 340-341 6DD 70F 1680 180E 2000-200F 2028-202F 205F-2063 206A-206F 2FF0-2FFB 3000 D800-F8FF",
  "FDD0-FDEF FEFF FFF9-FFFF 1D173-1D17A 1FFFE-1FFFF 2FFFE-2FFFF 3FFFE-3FFFF 4FFFE-4FFFF 5FFFE-5FFFF",
  "6FFFE-6FFFF 7FFFE-7FFFF 8FFFE-8FFFF 9FFFE-9FFFF AFFFE-AFFFF BFFFE-BFFFF CFFFE-CFFFF DFFFE-DFFFF",
  "E0001 E0020-E007F EFFFE-10FFFF"]

/-- Table D.1 as a range table. -/
def rightToLeftTable : List String := [
  "5BE 5C0 5C3 5D0-5EA 5F0-5F4 61B 61F 621-63A 640-64A 66D-66F 671-6D5 6DD 6E5-6E6 6FA-6FE 700-70D",
  "710 712-72C 780-7A5 7B1 200F FB1D FB1F-FB28 FB2A-FB36 FB38-FB3C FB3E FB40-FB41 FB43-FB44",
  "FB46-FBB1 FBD3-FD3D FD50-FD8F FD92-FDC7 FDF0-FDFC FE70-FE74 FE76-FEFC"]

/-- Table D.2 as a range table. -/
def leftToRightTable : List String := [
  "41-5A 61-7A AA B5 BA C0-D6 D8-F6 F8-220 222-233 250-2AD 2B0-2B8 2BB-2C1 2D0-2D1 2E0-2E4 2EE 37A",
  "386 388-38A 38C 38E-3A1 3A3-3CE 3D0-3F5 400-482 48A-4CE 4D0-4F5 4F8-4F9 500-50F 531-556 559-55F",
  "561-587 589 903 905-939 93D-940 949-94C 950 958-961 964-970 982-983 985-98C 98F-990 993-9A8",
  "9AA-9B0 9B2 9B6-9B9 9BE-9C0 9C7-9C8 9CB-9CC 9D7 9DC-9DD 9DF-9E1 9E6-9F1 9F4-9FA A05-A0A A0F-A10",
  "A13-A28 A2A-A30 A32-A33 A35-A36 A38-A39 A3E-A40 A59-A5C A5E A66-A6F A72-A74 A83 A85-A8B A8D",
  "A8F-A91 A93-AA8 AAA-AB0 AB2-AB3 AB5-AB9 ABD-AC0 AC9 ACB-ACC AD0 AE0 AE6-AEF B02-B03 B05-B0C",
  "B0F-B10 B13-B28 B2A-B30 B32-B33 B36-B39 B3D-B3E B40 B47-B48 B4B-B4C B57 B5C-B5D B5F-B61 B66-B70",
  "B83 B85-B8A B8E-B90 B92-B95 B99-B9A B9C B9E-B9F BA3-BA4 BA8-BAA BAE-BB5 BB7-BB9 BBE-BBF BC1-BC2",
  "BC6-BC8 BCA-BCC BD7 BE7-BF2 C01-C03 C05-C0C C0E-C10 C12-C28 C2A-C33 C35-C39 C41-C44 C60-C61",
  "C66-C6F C82-C83 C85-C8C C8E-C90 C92-CA8 CAA-CB3 CB5-CB9 CBE CC0-CC4 CC7-CC8 CCA-CCB CD5-CD6 CDE",
  "CE0-CE1 CE6-CEF D02-D03 D05-D0C D0E-D10 D12-D28 D2A-D39 D3E-D40 D46-D48 D4A-D4C D57 D60-D61",
  "D66-D6F D82-D83 D85-D96 D9A-DB1 DB3-DBB DBD DC0-DC6 DCF-DD1 DD8-DDF DF2-DF4 E01-E30 E32-E33",
  "E40-E46 E4F-E5B E81-E82 E84 E87-E88 E8A E8D E94-E97 E99-E9F EA1-EA3 EA5 EA7 EAA-EAB EAD-EB0",
  "EB2-EB3 EBD EC0-EC4 EC6 ED0-ED9 EDC-EDD F00-F17 F1A-F34 F36 F38 F3E-F47 F49-F6A F7F F85 F88-F8B",
  "FBE-FC5 FC7-FCC FCF 1000-1021 1023-1027 1029-102A 102C 1031 1038 1040-1057 10A0-10C5 10D0-10F8",
  "10FB 1100-1159 115F-11A2 11A8-11F9 1200-1206 1208-1246 1248 124A-124D 1250-1256 1258 125A-125D",
  "1260-1286 1288 128A-128D 1290-12AE 12B0 12B2-12B5 12B8-12BE 12C0 12C2-12C5 12C8-12CE 12D0-12D6",
  "12D8-12EE 12F0-130E 1310 1312-1315 1318-131E 1320-1346 1348-135A 1361-137C 13A0-13F4 1401-1676",
  "1681-169A 16A0-16F0 1700-170C 170E-1711 1720-1731 1735-1736 1740-1751 1760-176C 176E-1770",
  "1780-17B6 17BE-17C5 17C7-17C8 17D4-17DA 17DC 17E0-17E9 1810-1819 1820-1877 1880-18A8 1E00-1E9B",
  "1EA0-1EF9 1F00-1F15 1F18-1F1D 1F20-1F45 1F48-1F4D 1F50-1F57 1F59 1F5B 1F5D 1F5F-1F7D 1F80-1FB4",
  "1FB6-1FBC 1FBE 1FC2-1FC4 1FC6-1FCC 1FD0-1FD3 1FD6-1FDB 1FE0-1FEC 1FF2-1FF4 1FF6-1FFC 200E 2071",
  "207F 2102 2107 210A-2113 2115 2119-211D 2124 2126 2128 212A-212D 212F-2131 2133-2139 213D-213F",
  "2145-2149 2160-2183 2336-237A 2395 249C-24E9 3005-3007 3021-3029 3031-3035 3038-303C 3041-3096",
  "309D-309F 30A1-30FA 30FC-30FF 3105-312C 3131-318E 3190-31B7 31F0-321C 3220-3243 3260-327B",
  "327F-32B0 32C0-32CB 32D0-32FE 3300-3376 337B-33DD 33E0-33FE 3400-4DB5 4E00-9FA5 A000-A48C",
  "AC00-D7A3 E000-FA2D FA30-FA6A FB00-FB06 FB13-FB17 FF21-FF3A FF41-FF5A FF66-FFBE FFC2-FFC7",
  "FFCA-FFCF FFD2-FFD7 FFDA-FFDC 10300-1031E 10320-10323 10330-1034A 10400-10425 10428-1044D",
  "1D000-1D0F5 1D100-1D126 1D12A-1D166 1D16A-1D172 1D183-1D184 1D18C-1D1A9 1D1AE-1D1DD 1D400-1D454",
  "1D456-1D49C 1D49E-1D49F 1D4A2 1D4A5-1D4A6 1D4A9-1D4AC 1D4AE-1D4B9 1D4BB 1D4BD-1D4C0 1D4C2-1D4C3",
  "1D4C5-1D505 1D507-1D50A 1D50D-1D514 1D516-1D51C 1D51E-1D539 1D53B-1D53E 1D540-1D544 1D546",
  "1D54A-1D550 1D552-1D6A3 1D6A8-1D7C9 20000-2A6D6 2F800-2FA1D F0000-FFFFD 100000-10FFFD"]

/-- Table B.1, read. -/
def mappedToNothing : Array (Nat × Nat) := CodeTable.ranges mappedToNothingTable

/-- Table B.2, read. -/
def caseFolding : Array (Nat × List Nat) := CodeTable.mapping caseFoldingTable

/-- The prohibited code points, read. -/
def prohibited : Array (Nat × Nat) := CodeTable.ranges prohibitedTable

/-- Table D.1, read. -/
def rightToLeft : Array (Nat × Nat) := CodeTable.ranges rightToLeftTable

/-- Table D.2, read. -/
def leftToRight : Array (Nat × Nat) := CodeTable.ranges leftToRightTable

/-- The code point is mapped to nothing. -/
def isMappedToNothing (n : Nat) : Bool := CodeTable.holds mappedToNothing n

/-- The case folding of a code point: what table B.2 maps it to, or itself. -/
def fold (n : Nat) : List Nat := (CodeTable.find? caseFolding n).getD [n]

/-- Nameprep prohibits the code point. -/
def isProhibited (n : Nat) : Bool := CodeTable.holds prohibited n

/-- The code point belongs to a right-to-left script. -/
def isRightToLeft (n : Nat) : Bool := CodeTable.holds rightToLeft n

/-- The code point belongs to a left-to-right script. -/
def isLeftToRight (n : Nat) : Bool := CodeTable.holds leftToRight n

end Tftp.Stringprep
