import RuleGateway.Text.Property

/-!
# What characters become in a name

A name is written with small letters and without look-alikes, so most characters
outside ASCII that a text may hold become others in a name, vanish from it, or
keep a name from having them. The table is the mapping of the Unicode standard
for names, by which a character that only changes shape is replaced by what it
stands for.
-/

namespace RuleGateway.Domain

/-- The table `mapping` from 80 on: the letters of alphabets. -/
def mappedLetters : Property := .ofText "
  80X a0T20 a1V a8T20,308 a9V aaT61 abV adI aeV afT20,304 b0V b2S32 b4T20,301 b5T3bc b6V b8T20,327
  b9T31 baT6f bbV bcT31,2044,34 bdT31,2044,32 beT33,2044,34 bfV c0Se0 d7V d8Sf8 dfV 100A101
  130T69,307 131V 132T69,6a 134A135 138V 139A13a 13fT6c,b7 141A142 149T2bc,6e 14aA14b 178Tff
  179A17a 17fT73 180V 181T253 182A183 186T254 187T188 188V 189S256 18bT18c 18cV 18eT1dd 18fT259
  190T25b 191T192 192V 193T260 194T263 195V 196T269 197T268 198T199 199V 19cT26f 19dT272 19eV
  19fT275 1a0A1a1 1a6T280 1a7T1a8 1a8V 1a9T283 1aaV 1acT1ad 1adV 1aeT288 1afT1b0 1b0V 1b1S28a
  1b3A1b4 1b7T292 1b8T1b9 1b9V 1bcT1bd 1bdV 1c4T64,17e 1c7T6c,6a 1caT6e,6a 1cdA1ce 1ddV 1deA1df
  1f0V 1f1T64,7a 1f4T1f5 1f5V 1f6T195 1f7T1bf 1f8A1f9 220T19e 221V 222A223 234V 23aT2c65 23bT23c
  23cV 23dT19a 23eT2c66 23fV 241T242 242V 243T180 244T289 245T28c 246A247 250V 2b0T68 2b1T266
  2b2T6a 2b3T72 2b4T279 2b5T27b 2b6T281 2b7T77 2b8T79 2b9V 2d8T20,306 2d9T20,307 2daT20,30a
  2dbT20,328 2dcT20,303 2ddT20,30b 2deV 2e0T263 2e1T6c 2e2T73 2e3T78 2e4T295 2e5V 340S300 342V
  343T313 344T308,301 345T3b9 346V 34fI 350V 370A371 374T2b9 375V 376T377 377V 378X 37aT20,3b9 37bV
  37eT3b 37fT3f3 380X 384T20,301 385T20,308,301 386T3ac 387Tb7 388S3ad 38bX 38cT3cc 38dX 38eS3cd
  390V 391S3b1 3a2X 3a3S3c3 3acV 3cfT3d7 3d0T3b2 3d1T3b8 3d2T3c5 3d3T3cd 3d4T3cb 3d5T3c6 3d6T3c0
  3d7V 3d8A3d9 3f0T3ba 3f1T3c1 3f2T3c3 3f3V 3f4T3b8 3f5T3b5 3f6V 3f7T3f8 3f8V 3f9T3c3 3faT3fb 3fbV
  3fdS37b 400S450 410S430 430V 460A461 482V 48aA48b 4c0T4cf 4c1A4c2 4cfV 4d0A4d1 530X 531S561 557X
  559V 587T565,582 588V 58bX 58dV 590X 591V 5c8X 5d0V 5ebX 5efV 5f5X 606V 61cX 61dV 675T627,674
  676T648,674 677T6c7,674 678T64a,674 679V 6ddX 6deV 70eX 710V 74bX 74dV 7b2X 7c0V 7fbX 7fdV 82eX
  830V 83fX 840V 85cX 85eV 85fX 860V 86bX 870V 890X 897V 8e2X 8e3V 958T915,93c 959T916,93c
  95aT917,93c 95bT91c,93c 95cT921,93c 95dT922,93c 95eT92b,93c 95fT92f,93c 960V 984X 985V 98dX 98fV
  991X 993V 9a9X 9aaV 9b1X 9b2V 9b3X 9b6V 9baX 9bcV 9c5X 9c7V 9c9X 9cbV 9cfX 9d7V 9d8X 9dcT9a1,9bc
  9ddT9a2,9bc 9deX 9dfT9af,9bc 9e0V 9e4X 9e6V 9ffX a01V a04X a05V a0bX a0fV a11X a13V a29X a2aV
  a31X a32V a33Ta32,a3c a34X a35V a36Ta38,a3c a37X a38V a3aX a3cV a3dX a3eV a43X a47V a49X a4bV
  a4eX a51V a52X a59Ta16,a3c a5aTa17,a3c a5bTa1c,a3c a5cV a5dX a5eTa2b,a3c a5fX a66V a77X a81V a84X
  a85V a8eX a8fV a92X a93V aa9X aaaV ab1X ab2V ab4X ab5V abaX abcV ac6X ac7V acaX acbV aceX ad0V
  ad1X ae0V ae4X ae6V af2X af9V b00X b01V b04X b05V b0dX b0fV b11X b13V b29X b2aV b31X b32V b34X
  b35V b3aX b3cV b45X b47V b49X b4bV b4eX b55V b58X b5cTb21,b3c b5dTb22,b3c b5eX b5fV b64X b66V
  b78X b82V b84X b85V b8bX b8eV b91X b92V b96X b99V b9bX b9cV b9dX b9eV ba0X ba3V ba5X ba8V babX
  baeV bbaX bbeV bc3X bc6V bc9X bcaV bceX bd0V bd1X bd7V bd8X be6V bfbX c00V c0dX c0eV c11X c12V
  c29X c2aV c3aX c3cV c45X c46V c49X c4aV c4eX c55V c57X c58V c5bX c5cV c5eX c60V c64X c66V c70X
  c77V c8dX c8eV c91X c92V ca9X caaV cb4X cb5V cbaX cbcV cc5X cc6V cc9X ccaV cceX cd5V cd7X cdcV
  cdfX ce0V ce4X ce6V cf0X cf1V cf4X d00V d0dX d0eV d11X d12V d45X d46V d49X d4aV d50X d54V d64X
  d66V d80X d81V d84X d85V d97X d9aV db2X db3V dbcX dbdV dbeX dc0V dc7X dcaV dcbX dcfV dd5X dd6V
  dd7X dd8V de0X de6V df0X df2V df5X e01V e33Te4d,e32 e34V e3bX e3fV e5cX e81V e83X e84V e85X e86V
  e8bX e8cV ea4X ea5V ea6X ea7V eb3Tecd,eb2 eb4V ebeX ec0V ec5X ec6V ec7X ec8V ecfX ed0V edaX
  edcTeab,e99 eddTeab,ea1 edeV ee0X f00V f0cTf0b f0dV f43Tf42,fb7 f44V f48X f49V f4dTf4c,fb7 f4eV
  f52Tf51,fb7 f53V f57Tf56,fb7 f58V f5cTf5b,fb7 f5dV f69Tf40,fb5 f6aV f6dX f71V f73Tf71,f72 f74V
  f75Tf71,f74 f76Tfb2,f80 f77Tfb2,f71,f80 f78Tfb3,f80 f79Tfb3,f71,f80 f7aV f81Tf71,f80 f82V
  f93Tf92,fb7 f94V f98X f99V f9dTf9c,fb7 f9eV fa2Tfa1,fb7 fa3V fa7Tfa6,fb7 fa8V facTfab,fb7 fadV
  fb9Tf90,fb5 fbaV fbdX fbeV fcdX fceV fdbX 1000V 10a0S2d00 10c6X 10c7T2d27 10c8X 10cdT2d2d 10ceX
  10d0V 10fcT10dc 10fdV 115fI 1161V 1249X 124aV 124eX 1250V 1257X 1258V 1259X 125aV 125eX 1260V
  1289X 128aV 128eX 1290V 12b1X 12b2V 12b6X 12b8V 12bfX 12c0V 12c1X 12c2V 12c6X 12c8V 12d7X 12d8V
  1311X 1312V 1316X 1318V 135bX 135dV 137dX 1380V 139aX 13a0V 13f6X 13f8S13f0 13feX 1400V 1680X
  1681V 169dX 16a0V 16f9X 1700V 1716X 171fV 1737X 1740V 1754X 1760V 176dX 176eV 1771X 1772V 1774X
  1780V 17b4I 17b6V 17deX 17e0V 17eaX 17f0V 17faX 1800V 180bI 1810V 181aX 1820V 1879X 1880V 18abX
  18b0V 18f6X 1900V 191fX 1920V 192cX 1930V 193cX 1940V 1941X 1944V 196eX 1970V 1975X 1980V 19acX
  19b0V 19caX 19d0V 19dbX 19deV 1a1cX 1a1eV 1a5fX 1a60V 1a7dX 1a7fV 1a8aX 1a90V 1a9aX 1aa0V 1aaeX
  1ab0V 1adeX 1ae0V 1aecX 1b00V 1b4dX 1b4eV 1bf4X 1bfcV 1c38X 1c3bV 1c4aX 1c4dV 1c80T432 1c81T434
  1c82T43e 1c83S441 1c85T442 1c86T44a 1c87T463 1c88Ta64b 1c89T1c8a 1c8aV 1c8bX 1c90S10d0 1cbbX
  1cbdS10fd 1cc0V 1cc8X 1cd0V 1cfbX 1d00V 1d2cT61 1d2dTe6 1d2eT62 1d2fV 1d30S64 1d32T1dd 1d33S67
  1d3bV 1d3cT6f 1d3dT223 1d3eT70 1d3fT72 1d40S74 1d42T77 1d43T61 1d44S250 1d46T1d02 1d47T62 1d48S64
  1d4aT259 1d4bS25b 1d4dT67 1d4eV 1d4fT6b 1d50T6d 1d51T14b 1d52T6f 1d53T254 1d54S1d16 1d56T70
  1d57S74 1d59T1d1d 1d5aT26f 1d5bT76 1d5cT1d25 1d5dS3b2 1d60S3c6 1d62T69 1d63T72 1d64S75 1d66S3b2
  1d68T3c1 1d69S3c6 1d6bV 1d78T43d 1d79V 1d9bT252 1d9cT63 1d9dT255 1d9eTf0 1d9fT25c 1da0T66
  1da1T25f 1da2T261 1da3T265 1da4S268 1da7T1d7b 1da8T29d 1da9T26d 1daaT1d85 1dabT29f 1dacT271
  1dadT270 1daeS272 1db2T278 1db3S282 1db5T1ab 1db6S289 1db8T1d1c 1db9S28b 1dbbT7a 1dbcS290
  1dbfT3b8 1dc0V 1e00A1e01 1e96V 1e9aT61,2be 1e9bT1e61 1e9cV 1e9eTdf 1e9fV 1ea0A1ea1 1f00V
  1f08S1f00 1f10V 1f16X 1f18S1f10 1f1eX 1f20V 1f28S1f20 1f30V 1f38S1f30 1f40V 1f46X 1f48S1f40 1f4eX
  1f50V 1f58X 1f59T1f51 1f5aX 1f5bT1f53 1f5cX 1f5dT1f55 1f5eX 1f5fT1f57 1f60V 1f68S1f60 1f70V
  1f71T3ac 1f72V 1f73T3ad 1f74V 1f75T3ae 1f76V 1f77T3af 1f78V 1f79T3cc 1f7aV 1f7bT3cd 1f7cV
  1f7dT3ce 1f7eX 1f80T1f00,3b9 1f81T1f01,3b9 1f82T1f02,3b9 1f83T1f03,3b9 1f84T1f04,3b9
  1f85T1f05,3b9 1f86T1f06,3b9 1f87T1f07,3b9 1f88T1f00,3b9 1f89T1f01,3b9 1f8aT1f02,3b9 1f8bT1f03,3b9
  1f8cT1f04,3b9 1f8dT1f05,3b9 1f8eT1f06,3b9 1f8fT1f07,3b9 1f90T1f20,3b9 1f91T1f21,3b9 1f92T1f22,3b9
  1f93T1f23,3b9 1f94T1f24,3b9 1f95T1f25,3b9 1f96T1f26,3b9 1f97T1f27,3b9 1f98T1f20,3b9 1f99T1f21,3b9
  1f9aT1f22,3b9 1f9bT1f23,3b9 1f9cT1f24,3b9 1f9dT1f25,3b9 1f9eT1f26,3b9 1f9fT1f27,3b9 1fa0T1f60,3b9
  1fa1T1f61,3b9 1fa2T1f62,3b9 1fa3T1f63,3b9 1fa4T1f64,3b9 1fa5T1f65,3b9 1fa6T1f66,3b9 1fa7T1f67,3b9
  1fa8T1f60,3b9 1fa9T1f61,3b9 1faaT1f62,3b9 1fabT1f63,3b9 1facT1f64,3b9 1fadT1f65,3b9 1faeT1f66,3b9
  1fafT1f67,3b9 1fb0V 1fb2T1f70,3b9 1fb3T3b1,3b9 1fb4T3ac,3b9 1fb5X 1fb6V 1fb7T1fb6,3b9 1fb8S1fb0
  1fbaT1f70 1fbbT3ac 1fbcT3b1,3b9 1fbdT20,313 1fbeT3b9 1fbfT20,313 1fc0T20,342 1fc1T20,308,342
  1fc2T1f74,3b9 1fc3T3b7,3b9 1fc4T3ae,3b9 1fc5X 1fc6V 1fc7T1fc6,3b9 1fc8T1f72 1fc9T3ad 1fcaT1f74
  1fcbT3ae 1fccT3b7,3b9 1fcdT20,313,300 1fceT20,313,301 1fcfT20,313,342 1fd0V 1fd3T390 1fd4X 1fd6V
  1fd8S1fd0 1fdaT1f76 1fdbT3af 1fdcX 1fddT20,314,300 1fdeT20,314,301 1fdfT20,314,342 1fe0V 1fe3T3b0
  1fe4V 1fe8S1fe0 1feaT1f7a 1febT3cd 1fecT1fe5 1fedT20,308,300 1feeT20,308,301 1fefT60 1ff0X
  1ff2T1f7c,3b9 1ff3T3c9,3b9 1ff4T3ce,3b9 1ff5X 1ff6V 1ff7T1ff6,3b9 1ff8T1f78 1ff9T3cc 1ffaT1f7c
  1ffbT3ce 1ffcT3c9,3b9 1ffdT20,301 1ffeT20,314 1fffX"

/-- The table `mapping` from 2000 on: punctuation, signs and radicals. -/
def mappedSigns : Property := .ofText "
  2000T20 200bI 200cV 200eX 2010V 2011T2010 2012V 2017T20,333 2018V 2024X 2027V 2028X 202fT20 2030V
  2033T2032,2032 2034T2032,2032,2032 2035V 2036T2035,2035 2037T2035,2035,2035 2038V 203cT21,21
  203dV 203eT20,305 203fV 2047T3f,3f 2048T3f,21 2049T21,3f 204aV 2057T2032,2032,2032,2032 2058V
  205fT20 2060I 2065X 206aI 2070T30 2071T69 2072X 2074S34 207aT2b 207bT2212 207cT3d 207dS28 207fT6e
  2080S30 208aT2b 208bT2212 208cT3d 208dS28 208fX 2090T61 2091T65 2092T6f 2093T78 2094T259 2095T68
  2096S6b 209aT70 209bS73 209dX 20a0V 20a8T72,73 20a9V 20c2X 20d0V 20f1X 2100T61,2f,63
  2101T61,2f,73 2102T63 2103Tb0,63 2104V 2105T63,2f,6f 2106T63,2f,75 2107T25b 2108V 2109Tb0,66
  210aS67 210cT68 210fT127 2110T69 2112T6c 2114V 2115T6e 2116T6e,6f 2117V 2119S70 211cT72 211eV
  2120T73,6d 2121T74,65,6c 2122T74,6d 2123V 2124T7a 2125V 2126T3c9 2127V 2128T7a 2129V 212aT6b
  212bTe5 212cS62 212eV 212fT65 2131T66 2132T214e 2133T6d 2134T6f 2135S5d0 2139T69 213aV
  213bT66,61,78 213cT3c0 213dT3b3 213fT3c0 2140T2211 2141V 2145T64 2147T65 2148S69 214aV
  2150T31,2044,37 2151T31,2044,39 2152T31,2044,31,30 2153T31,2044,33 2154T32,2044,33
  2155T31,2044,35 2156T32,2044,35 2157T33,2044,35 2158T34,2044,35 2159T31,2044,36 215aT35,2044,36
  215bT31,2044,38 215cT33,2044,38 215dT35,2044,38 215eT37,2044,38 215fT31,2044 2160T69 2161T69,69
  2162T69,69,69 2163T69,76 2164T76 2165T76,69 2166T76,69,69 2167T76,69,69,69 2168T69,78 2169T78
  216aT78,69 216bT78,69,69 216cT6c 216dS63 216fT6d 2170T69 2171T69,69 2172T69,69,69 2173T69,76
  2174T76 2175T76,69 2176T76,69,69 2177T76,69,69,69 2178T69,78 2179T78 217aT78,69 217bT78,69,69
  217cT6c 217dS63 217fT6d 2180V 2183T2184 2184V 2189T30,2044,33 218aV 218cX 2190V 222cT222b,222b
  222dT222b,222b,222b 222eV 222fT222e,222e 2230T222e,222e,222e 2231V 2329S3008 232bV 242aX 2440V
  244bX 2460S31 2469T31,30 246aT31,31 246bT31,32 246cT31,33 246dT31,34 246eT31,35 246fT31,36
  2470T31,37 2471T31,38 2472T31,39 2473T32,30 2474T28,31,29 2475T28,32,29 2476T28,33,29
  2477T28,34,29 2478T28,35,29 2479T28,36,29 247aT28,37,29 247bT28,38,29 247cT28,39,29
  247dT28,31,30,29 247eT28,31,31,29 247fT28,31,32,29 2480T28,31,33,29 2481T28,31,34,29
  2482T28,31,35,29 2483T28,31,36,29 2484T28,31,37,29 2485T28,31,38,29 2486T28,31,39,29
  2487T28,32,30,29 2488X 249cT28,61,29 249dT28,62,29 249eT28,63,29 249fT28,64,29 24a0T28,65,29
  24a1T28,66,29 24a2T28,67,29 24a3T28,68,29 24a4T28,69,29 24a5T28,6a,29 24a6T28,6b,29 24a7T28,6c,29
  24a8T28,6d,29 24a9T28,6e,29 24aaT28,6f,29 24abT28,70,29 24acT28,71,29 24adT28,72,29 24aeT28,73,29
  24afT28,74,29 24b0T28,75,29 24b1T28,76,29 24b2T28,77,29 24b3T28,78,29 24b4T28,79,29 24b5T28,7a,29
  24b6S61 24d0S61 24eaT30 24ebV 2a0cT222b,222b,222b,222b 2a0dV 2a74T3a,3a,3d 2a75T3d,3d
  2a76T3d,3d,3d 2a77V 2adcT2add,338 2addV 2b74X 2b76V 2c00S2c30 2c30V 2c60T2c61 2c61V 2c62T26b
  2c63T1d7d 2c64T27d 2c65V 2c67A2c68 2c6dT251 2c6eT271 2c6fT250 2c70T252 2c71V 2c72T2c73 2c73V
  2c75T2c76 2c76V 2c7cT6a 2c7dT76 2c7eS23f 2c80A2c81 2ce4V 2cebA2cec 2cefV 2cf2T2cf3 2cf3V 2cf4X
  2cf9V 2d26X 2d27V 2d28X 2d2dV 2d2eX 2d30V 2d68X 2d6fT2d61 2d70V 2d71X 2d7fV 2d97X 2da0V 2da7X
  2da8V 2dafX 2db0V 2db7X 2db8V 2dbfX 2dc0V 2dc7X 2dc8V 2dcfX 2dd0V 2dd7X 2dd8V 2ddfX 2de0V 2e5eX
  2e80V 2e9aX 2e9bV 2e9fT6bcd 2ea0V 2ef3T9f9f 2ef4X 2f00T4e00 2f01T4e28 2f02T4e36 2f03T4e3f
  2f04T4e59 2f05T4e85 2f06T4e8c 2f07T4ea0 2f08T4eba 2f09T513f 2f0aT5165 2f0bT516b 2f0cT5182
  2f0dT5196 2f0eT51ab 2f0fT51e0 2f10T51f5 2f11T5200 2f12T529b 2f13T52f9 2f14T5315 2f15T531a
  2f16T5338 2f17T5341 2f18T535c 2f19T5369 2f1aT5382 2f1bT53b6 2f1cT53c8 2f1dT53e3 2f1eT56d7
  2f1fT571f 2f20T58eb 2f21T5902 2f22T590a 2f23T5915 2f24T5927 2f25T5973 2f26T5b50 2f27T5b80
  2f28T5bf8 2f29T5c0f 2f2aT5c22 2f2bT5c38 2f2cT5c6e 2f2dT5c71 2f2eT5ddb 2f2fT5de5 2f30T5df1
  2f31T5dfe 2f32T5e72 2f33T5e7a 2f34T5e7f 2f35T5ef4 2f36T5efe 2f37T5f0b 2f38T5f13 2f39T5f50
  2f3aT5f61 2f3bT5f73 2f3cT5fc3 2f3dT6208 2f3eT6236 2f3fT624b 2f40T652f 2f41T6534 2f42T6587
  2f43T6597 2f44T65a4 2f45T65b9 2f46T65e0 2f47T65e5 2f48T66f0 2f49T6708 2f4aT6728 2f4bT6b20
  2f4cT6b62 2f4dT6b79 2f4eT6bb3 2f4fT6bcb 2f50T6bd4 2f51T6bdb 2f52T6c0f 2f53T6c14 2f54T6c34
  2f55T706b 2f56T722a 2f57T7236 2f58T723b 2f59T723f 2f5aT7247 2f5bT7259 2f5cT725b 2f5dT72ac
  2f5eT7384 2f5fT7389 2f60T74dc 2f61T74e6 2f62T7518 2f63T751f 2f64T7528 2f65T7530 2f66T758b
  2f67T7592 2f68T7676 2f69T767d 2f6aT76ae 2f6bT76bf 2f6cT76ee 2f6dT77db 2f6eT77e2 2f6fT77f3
  2f70T793a 2f71T79b8 2f72T79be 2f73T7a74 2f74T7acb 2f75T7af9 2f76T7c73 2f77T7cf8 2f78T7f36
  2f79T7f51 2f7aT7f8a 2f7bT7fbd 2f7cT8001 2f7dT800c 2f7eT8012 2f7fT8033 2f80T807f 2f81T8089
  2f82T81e3 2f83T81ea 2f84T81f3 2f85T81fc 2f86T820c 2f87T821b 2f88T821f 2f89T826e 2f8aT8272
  2f8bT8278 2f8cT864d 2f8dT866b 2f8eT8840 2f8fT884c 2f90T8863 2f91T897e 2f92T898b 2f93T89d2
  2f94T8a00 2f95T8c37 2f96T8c46 2f97T8c55 2f98T8c78 2f99T8c9d 2f9aT8d64 2f9bT8d70 2f9cT8db3
  2f9dT8eab 2f9eT8eca 2f9fT8f9b 2fa0T8fb0 2fa1T8fb5 2fa2T9091 2fa3T9149 2fa4T91c6 2fa5T91cc
  2fa6T91d1 2fa7T9577 2fa8T9580 2fa9T961c 2faaT96b6 2fabT96b9 2facT96e8 2fadT9751 2faeT975e
  2fafT9762 2fb0T9769 2fb1T97cb 2fb2T97ed 2fb3T97f3 2fb4T9801 2fb5T98a8 2fb6T98db 2fb7T98df
  2fb8T9996 2fb9T9999 2fbaT99ac 2fbbT9aa8 2fbcT9ad8 2fbdT9adf 2fbeT9b25 2fbfT9b2f 2fc0T9b32
  2fc1T9b3c 2fc2T9b5a 2fc3T9ce5 2fc4T9e75 2fc5T9e7f 2fc6T9ea5 2fc7T9ebb 2fc8T9ec3 2fc9T9ecd
  2fcaT9ed1 2fcbT9ef9 2fccT9efd 2fcdT9f0e 2fceT9f13 2fcfT9f20 2fd0T9f3b 2fd1T9f4a 2fd2T9f52
  2fd3T9f8d 2fd4T9f9c 2fd5T9fa0 2fd6X 3000T20 3001V 3002T2e 3003V 3036T3012 3037V 3038T5341
  3039S5344 303bV 3040X 3041V 3097X 3099V 309bT20,3099 309cT20,309a 309dV 309fT3088,308a 30a0V
  30ffT30b3,30c8"

/-- The table `mapping` from 3100 on: letters in circles and squares, and the scripts behind them. -/
def mappedSquares : Property := .ofText "
  3100X 3105V 3130X 3131S1100 3133T11aa 3134T1102 3135S11ac 3137S1103 313aS11b0 3140T111a 3141S1106
  3144T1121 3145S1109 314fS1161 3164I 3165S1114 3167S11c7 3169T11cc 316aT11ce 316bT11d3 316cT11d7
  316dT11d9 316eT111c 316fT11dd 3170T11df 3171S111d 3173T1120 3174S1122 3176T1127 3177T1129
  3178S112b 317dT1132 317eT1136 317fT1140 3180T1147 3181T114c 3182S11f1 3184S1157 3187S1184
  3189T1188 318aS1191 318cT1194 318dT119e 318eT11a1 318fX 3190V 3192T4e00 3193T4e8c 3194T4e09
  3195T56db 3196T4e0a 3197T4e2d 3198T4e0b 3199T7532 319aT4e59 319bT4e19 319cT4e01 319dT5929
  319eT5730 319fT4eba 31a0V 31e6X 31f0V 3200T28,1100,29 3201T28,1102,29 3202T28,1103,29
  3203T28,1105,29 3204T28,1106,29 3205T28,1107,29 3206T28,1109,29 3207T28,110b,29 3208T28,110c,29
  3209T28,110e,29 320aT28,110f,29 320bT28,1110,29 320cT28,1111,29 320dT28,1112,29 320eT28,ac00,29
  320fT28,b098,29 3210T28,b2e4,29 3211T28,b77c,29 3212T28,b9c8,29 3213T28,bc14,29 3214T28,c0ac,29
  3215T28,c544,29 3216T28,c790,29 3217T28,cc28,29 3218T28,ce74,29 3219T28,d0c0,29 321aT28,d30c,29
  321bT28,d558,29 321cT28,c8fc,29 321dT28,c624,c804,29 321eT28,c624,d6c4,29 321fX 3220T28,4e00,29
  3221T28,4e8c,29 3222T28,4e09,29 3223T28,56db,29 3224T28,4e94,29 3225T28,516d,29 3226T28,4e03,29
  3227T28,516b,29 3228T28,4e5d,29 3229T28,5341,29 322aT28,6708,29 322bT28,706b,29 322cT28,6c34,29
  322dT28,6728,29 322eT28,91d1,29 322fT28,571f,29 3230T28,65e5,29 3231T28,682a,29 3232T28,6709,29
  3233T28,793e,29 3234T28,540d,29 3235T28,7279,29 3236T28,8ca1,29 3237T28,795d,29 3238T28,52b4,29
  3239T28,4ee3,29 323aT28,547c,29 323bT28,5b66,29 323cT28,76e3,29 323dT28,4f01,29 323eT28,8cc7,29
  323fT28,5354,29 3240T28,796d,29 3241T28,4f11,29 3242T28,81ea,29 3243T28,81f3,29 3244T554f
  3245T5e7c 3246T6587 3247T7b8f 3248V 3250T70,74,65 3251T32,31 3252T32,32 3253T32,33 3254T32,34
  3255T32,35 3256T32,36 3257T32,37 3258T32,38 3259T32,39 325aT33,30 325bT33,31 325cT33,32
  325dT33,33 325eT33,34 325fT33,35 3260T1100 3261S1102 3263S1105 3266T1109 3267S110b 3269S110e
  326eTac00 326fTb098 3270Tb2e4 3271Tb77c 3272Tb9c8 3273Tbc14 3274Tc0ac 3275Tc544 3276Tc790
  3277Tcc28 3278Tce74 3279Td0c0 327aTd30c 327bTd558 327cTcc38,ace0 327dTc8fc,c758 327eTc6b0 327fV
  3280T4e00 3281T4e8c 3282T4e09 3283T56db 3284T4e94 3285T516d 3286T4e03 3287T516b 3288T4e5d
  3289T5341 328aT6708 328bT706b 328cT6c34 328dT6728 328eT91d1 328fT571f 3290T65e5 3291T682a
  3292T6709 3293T793e 3294T540d 3295T7279 3296T8ca1 3297T795d 3298T52b4 3299T79d8 329aT7537
  329bT5973 329cT9069 329dT512a 329eT5370 329fT6ce8 32a0T9805 32a1T4f11 32a2T5199 32a3T6b63
  32a4T4e0a 32a5T4e2d 32a6T4e0b 32a7T5de6 32a8T53f3 32a9T533b 32aaT5b97 32abT5b66 32acT76e3
  32adT4f01 32aeT8cc7 32afT5354 32b0T591c 32b1T33,36 32b2T33,37 32b3T33,38 32b4T33,39 32b5T34,30
  32b6T34,31 32b7T34,32 32b8T34,33 32b9T34,34 32baT34,35 32bbT34,36 32bcT34,37 32bdT34,38
  32beT34,39 32bfT35,30 32c0T31,6708 32c1T32,6708 32c2T33,6708 32c3T34,6708 32c4T35,6708
  32c5T36,6708 32c6T37,6708 32c7T38,6708 32c8T39,6708 32c9T31,30,6708 32caT31,31,6708
  32cbT31,32,6708 32ccT68,67 32cdT65,72,67 32ceT65,76 32cfT6c,74,64 32d0T30a2 32d1T30a4 32d2T30a6
  32d3T30a8 32d4S30aa 32d6T30ad 32d7T30af 32d8T30b1 32d9T30b3 32daT30b5 32dbT30b7 32dcT30b9
  32ddT30bb 32deT30bd 32dfT30bf 32e0T30c1 32e1T30c4 32e2T30c6 32e3T30c8 32e4S30ca 32eaT30d2
  32ebT30d5 32ecT30d8 32edT30db 32eeS30de 32f3T30e4 32f4T30e6 32f5S30e8 32fbS30ef 32ffT4ee4,548c
  3300T30a2,30d1,30fc,30c8 3301T30a2,30eb,30d5,30a1 3302T30a2,30f3,30da,30a2 3303T30a2,30fc,30eb
  3304T30a4,30cb,30f3,30b0 3305T30a4,30f3,30c1 3306T30a6,30a9,30f3 3307T30a8,30b9,30af,30fc,30c9
  3308T30a8,30fc,30ab,30fc 3309T30aa,30f3,30b9 330aT30aa,30fc,30e0 330bT30ab,30a4,30ea
  330cT30ab,30e9,30c3,30c8 330dT30ab,30ed,30ea,30fc 330eT30ac,30ed,30f3 330fT30ac,30f3,30de
  3310T30ae,30ac 3311T30ae,30cb,30fc 3312T30ad,30e5,30ea,30fc 3313T30ae,30eb,30c0,30fc
  3314T30ad,30ed 3315T30ad,30ed,30b0,30e9,30e0 3316T30ad,30ed,30e1,30fc,30c8,30eb
  3317T30ad,30ed,30ef,30c3,30c8 3318T30b0,30e9,30e0 3319T30b0,30e9,30e0,30c8,30f3
  331aT30af,30eb,30bc,30a4,30ed 331bT30af,30ed,30fc,30cd 331cT30b1,30fc,30b9 331dT30b3,30eb,30ca
  331eT30b3,30fc,30dd 331fT30b5,30a4,30af,30eb 3320T30b5,30f3,30c1,30fc,30e0
  3321T30b7,30ea,30f3,30b0 3322T30bb,30f3,30c1 3323T30bb,30f3,30c8 3324T30c0,30fc,30b9
  3325T30c7,30b7 3326T30c9,30eb 3327T30c8,30f3 3328T30ca,30ce 3329T30ce,30c3,30c8
  332aT30cf,30a4,30c4 332bT30d1,30fc,30bb,30f3,30c8 332cT30d1,30fc,30c4 332dT30d0,30fc,30ec,30eb
  332eT30d4,30a2,30b9,30c8,30eb 332fT30d4,30af,30eb 3330T30d4,30b3 3331T30d3,30eb
  3332T30d5,30a1,30e9,30c3,30c9 3333T30d5,30a3,30fc,30c8 3334T30d6,30c3,30b7,30a7,30eb
  3335T30d5,30e9,30f3 3336T30d8,30af,30bf,30fc,30eb 3337T30da,30bd 3338T30da,30cb,30d2
  3339T30d8,30eb,30c4 333aT30da,30f3,30b9 333bT30da,30fc,30b8 333cT30d9,30fc,30bf
  333dT30dd,30a4,30f3,30c8 333eT30dc,30eb,30c8 333fT30db,30f3 3340T30dd,30f3,30c9
  3341T30db,30fc,30eb 3342T30db,30fc,30f3 3343T30de,30a4,30af,30ed 3344T30de,30a4,30eb
  3345T30de,30c3,30cf 3346T30de,30eb,30af 3347T30de,30f3,30b7,30e7,30f3 3348T30df,30af,30ed,30f3
  3349T30df,30ea 334aT30df,30ea,30d0,30fc,30eb 334bT30e1,30ac 334cT30e1,30ac,30c8,30f3
  334dT30e1,30fc,30c8,30eb 334eT30e4,30fc,30c9 334fT30e4,30fc,30eb 3350T30e6,30a2,30f3
  3351T30ea,30c3,30c8,30eb 3352T30ea,30e9 3353T30eb,30d4,30fc 3354T30eb,30fc,30d6,30eb
  3355T30ec,30e0 3356T30ec,30f3,30c8,30b2,30f3 3357T30ef,30c3,30c8 3358T30,70b9 3359T31,70b9
  335aT32,70b9 335bT33,70b9 335cT34,70b9 335dT35,70b9 335eT36,70b9 335fT37,70b9 3360T38,70b9
  3361T39,70b9 3362T31,30,70b9 3363T31,31,70b9 3364T31,32,70b9 3365T31,33,70b9 3366T31,34,70b9
  3367T31,35,70b9 3368T31,36,70b9 3369T31,37,70b9 336aT31,38,70b9 336bT31,39,70b9 336cT32,30,70b9
  336dT32,31,70b9 336eT32,32,70b9 336fT32,33,70b9 3370T32,34,70b9 3371T68,70,61 3372T64,61
  3373T61,75 3374T62,61,72 3375T6f,76 3376T70,63 3377T64,6d 3378T64,6d,32 3379T64,6d,33 337aT69,75
  337bT5e73,6210 337cT662d,548c 337dT5927,6b63 337eT660e,6cbb 337fT682a,5f0f,4f1a,793e 3380T70,61
  3381T6e,61 3382T3bc,61 3383T6d,61 3384T6b,61 3385T6b,62 3386T6d,62 3387T67,62 3388T63,61,6c
  3389T6b,63,61,6c 338aT70,66 338bT6e,66 338cT3bc,66 338dT3bc,67 338eT6d,67 338fT6b,67 3390T68,7a
  3391T6b,68,7a 3392T6d,68,7a 3393T67,68,7a 3394T74,68,7a 3395T3bc,6c 3396T6d,6c 3397T64,6c
  3398T6b,6c 3399T66,6d 339aT6e,6d 339bT3bc,6d 339cT6d,6d 339dT63,6d 339eT6b,6d 339fT6d,6d,32
  33a0T63,6d,32 33a1T6d,32 33a2T6b,6d,32 33a3T6d,6d,33 33a4T63,6d,33 33a5T6d,33 33a6T6b,6d,33
  33a7T6d,2215,73 33a8T6d,2215,73,32 33a9T70,61 33aaT6b,70,61 33abT6d,70,61 33acT67,70,61
  33adT72,61,64 33aeT72,61,64,2215,73 33afT72,61,64,2215,73,32 33b0T70,73 33b1T6e,73 33b2T3bc,73
  33b3T6d,73 33b4T70,76 33b5T6e,76 33b6T3bc,76 33b7T6d,76 33b8T6b,76 33b9T6d,76 33baT70,77
  33bbT6e,77 33bcT3bc,77 33bdT6d,77 33beT6b,77 33bfT6d,77 33c0T6b,3c9 33c1T6d,3c9 33c2X 33c3T62,71
  33c4T63,63 33c5T63,64 33c6T63,2215,6b,67 33c7X 33c8T64,62 33c9T67,79 33caT68,61 33cbT68,70
  33ccT69,6e 33cdT6b,6b 33ceT6b,6d 33cfT6b,74 33d0T6c,6d 33d1T6c,6e 33d2T6c,6f,67 33d3T6c,78
  33d4T6d,62 33d5T6d,69,6c 33d6T6d,6f,6c 33d7T70,68 33d8X 33d9T70,70,6d 33daT70,72 33dbT73,72
  33dcT73,76 33ddT77,62 33deT76,2215,6d 33dfT61,2215,6d 33e0T31,65e5 33e1T32,65e5 33e2T33,65e5
  33e3T34,65e5 33e4T35,65e5 33e5T36,65e5 33e6T37,65e5 33e7T38,65e5 33e8T39,65e5 33e9T31,30,65e5
  33eaT31,31,65e5 33ebT31,32,65e5 33ecT31,33,65e5 33edT31,34,65e5 33eeT31,35,65e5 33efT31,36,65e5
  33f0T31,37,65e5 33f1T31,38,65e5 33f2T31,39,65e5 33f3T32,30,65e5 33f4T32,31,65e5 33f5T32,32,65e5
  33f6T32,33,65e5 33f7T32,34,65e5 33f8T32,35,65e5 33f9T32,36,65e5 33faT32,37,65e5 33fbT32,38,65e5
  33fcT32,39,65e5 33fdT33,30,65e5 33feT33,31,65e5 33ffT67,61,6c 3400V a48dX a490V a4c7X a4d0V a62cX
  a640Aa641 a66eV a680Aa681 a69cT44a a69dT44c a69eV a6f8X a700V a722Aa723 a730V a732Aa733 a770Ta76f
  a771V a779Aa77a a77dT1d79 a77eAa77f a788V a78bTa78c a78cV a78dT265 a78eV a790Aa791 a794V
  a796Aa797 a7aaT266 a7abT25c a7acT261 a7adT26c a7aeT26a a7afV a7b0T29e a7b1T287 a7b2T29d a7b3Tab53
  a7b4Aa7b5 a7c4Ta794 a7c5T282 a7c6T1d8e a7c7Aa7c8 a7cbT264 a7ccAa7cd a7dcT19b a7ddX a7f1T73
  a7f2T63 a7f3T66 a7f4T71 a7f5Ta7f6 a7f6V a7f8T127 a7f9T153 a7faV a82dX a830V a83aX a840V a878X
  a880V a8c6X a8ceV a8daX a8e0V a954X a95fV a97dX a980V a9ceX a9cfV a9daX a9deV a9ffX aa00V aa37X
  aa40V aa4eX aa50V aa5aX aa5cV aac3X aadbV aaf7X ab01V ab07X ab09V ab0fX ab11V ab17X ab20V ab27X
  ab28V ab2fX ab30V ab5cTa727 ab5dTab37 ab5eT26b ab5fTab52 ab60V ab69T28d ab6aV ab6cX ab70S13a0
  abc0V abeeX abf0V abfaX ac00V d7a4X d7b0V d7c7X d7cbV d7fcX"

/-- The table `mapping` from f900 on: ideographs and ligatures that are kept for other encodings. -/
def mappedIdeographs : Property := .ofText "
  f900T8c48 f901T66f4 f902T8eca f903T8cc8 f904T6ed1 f905T4e32 f906T53e5 f907T9f9c f909T5951
  f90aT91d1 f90bT5587 f90cT5948 f90dT61f6 f90eT7669 f90fT7f85 f910T863f f911T87ba f912T88f8
  f913T908f f914T6a02 f915T6d1b f916T70d9 f917T73de f918T843d f919T916a f91aT99f1 f91bT4e82
  f91cT5375 f91dT6b04 f91eT721b f91fT862d f920T9e1e f921T5d50 f922T6feb f923T85cd f924T8964
  f925T62c9 f926T81d8 f927T881f f928T5eca f929T6717 f92aT6d6a f92bT72fc f92cT90ce f92dT4f86
  f92eT51b7 f92fT52de f930T64c4 f931T6ad3 f932T7210 f933T76e7 f934T8001 f935T8606 f936T865c
  f937T8def f938T9732 f939T9b6f f93aT9dfa f93bT788c f93cT797f f93dT7da0 f93eT83c9 f93fT9304
  f940T9e7f f941T8ad6 f942T58df f943T5f04 f944T7c60 f945T807e f946T7262 f947T78ca f948T8cc2
  f949T96f7 f94aT58d8 f94bT5c62 f94cT6a13 f94dT6dda f94eT6f0f f94fT7d2f f950T7e37 f951T964b
  f952T52d2 f953T808b f954T51dc f955T51cc f956T7a1c f957T7dbe f958T83f1 f959T9675 f95aT8b80
  f95bT62cf f95cT6a02 f95dT8afe f95eT4e39 f95fT5be7 f960T6012 f961T7387 f962T7570 f963T5317
  f964T78fb f965T4fbf f966T5fa9 f967T4e0d f968T6ccc f969T6578 f96aT7d22 f96bT53c3 f96cT585e
  f96dT7701 f96eT8449 f96fT8aaa f970T6bba f971T8fb0 f972T6c88 f973T62fe f974T82e5 f975T63a0
  f976T7565 f977T4eae f978T5169 f979T51c9 f97aT6881 f97bT7ce7 f97cT826f f97dT8ad2 f97eT91cf
  f97fT52f5 f980T5442 f981T5973 f982T5eec f983T65c5 f984T6ffe f985T792a f986T95ad f987T9a6a
  f988T9e97 f989T9ece f98aT529b f98bT66c6 f98cT6b77 f98dT8f62 f98eT5e74 f98fT6190 f990T6200
  f991T649a f992T6f23 f993T7149 f994T7489 f995T79ca f996T7df4 f997T806f f998T8f26 f999T84ee
  f99aT9023 f99bT934a f99cT5217 f99dT52a3 f99eT54bd f99fT70c8 f9a0T88c2 f9a1T8aaa f9a2T5ec9
  f9a3T5ff5 f9a4T637b f9a5T6bae f9a6T7c3e f9a7T7375 f9a8T4ee4 f9a9T56f9 f9aaT5be7 f9abT5dba
  f9acT601c f9adT73b2 f9aeT7469 f9afT7f9a f9b0T8046 f9b1T9234 f9b2T96f6 f9b3T9748 f9b4T9818
  f9b5T4f8b f9b6T79ae f9b7T91b4 f9b8T96b8 f9b9T60e1 f9baT4e86 f9bbT50da f9bcT5bee f9bdT5c3f
  f9beT6599 f9bfT6a02 f9c0T71ce f9c1T7642 f9c2T84fc f9c3T907c f9c4T9f8d f9c5T6688 f9c6T962e
  f9c7T5289 f9c8T677b f9c9T67f3 f9caT6d41 f9cbT6e9c f9ccT7409 f9cdT7559 f9ceT786b f9cfT7d10
  f9d0T985e f9d1T516d f9d2T622e f9d3T9678 f9d4T502b f9d5T5d19 f9d6T6dea f9d7T8f2a f9d8T5f8b
  f9d9T6144 f9daT6817 f9dbT7387 f9dcT9686 f9ddT5229 f9deT540f f9dfT5c65 f9e0T6613 f9e1T674e
  f9e2T68a8 f9e3T6ce5 f9e4T7406 f9e5T75e2 f9e6T7f79 f9e7T88cf f9e8T88e1 f9e9T91cc f9eaT96e2
  f9ebT533f f9ecT6eba f9edT541d f9eeT71d0 f9efT7498 f9f0T85fa f9f1T96a3 f9f2T9c57 f9f3T9e9f
  f9f4T6797 f9f5T6dcb f9f6T81e8 f9f7T7acb f9f8T7b20 f9f9T7c92 f9faT72c0 f9fbT7099 f9fcT8b58
  f9fdT4ec0 f9feT8336 f9ffT523a fa00T5207 fa01T5ea6 fa02T62d3 fa03T7cd6 fa04T5b85 fa05T6d1e
  fa06T66b4 fa07T8f3b fa08T884c fa09T964d fa0aT898b fa0bT5ed3 fa0cT5140 fa0dT55c0 fa0eV fa10T585a
  fa11V fa12T6674 fa13V fa15T51de fa16T732a fa17T76ca fa18T793c fa19T795e fa1aT7965 fa1bT798f
  fa1cT9756 fa1dT7cbe fa1eT7fbd fa1fV fa20T8612 fa21V fa22T8af8 fa23V fa25T9038 fa26T90fd fa27V
  fa2aT98ef fa2bT98fc fa2cT9928 fa2dT9db4 fa2eT90de fa2fT96b7 fa30T4fae fa31T50e7 fa32T514d
  fa33T52c9 fa34T52e4 fa35T5351 fa36T559d fa37T5606 fa38T5668 fa39T5840 fa3aT58a8 fa3bT5c64
  fa3cT5c6e fa3dT6094 fa3eT6168 fa3fT618e fa40T61f2 fa41T654f fa42T65e2 fa43T6691 fa44T6885
  fa45T6d77 fa46T6e1a fa47T6f22 fa48T716e fa49T722b fa4aT7422 fa4bT7891 fa4cT793e fa4dT7949
  fa4eT7948 fa4fT7950 fa50T7956 fa51T795d fa52S798d fa54T7a40 fa55T7a81 fa56T7bc0 fa57T7df4
  fa58T7e09 fa59T7e41 fa5aT7f72 fa5bT8005 fa5cT81ed fa5dT8279 fa5fT8457 fa60T8910 fa61T8996
  fa62T8b01 fa63T8b39 fa64T8cd3 fa65T8d08 fa66T8fb6 fa67T9038 fa68T96e3 fa69T97ff fa6aT983b
  fa6bT6075 fa6cT242ee fa6dT8218 fa6eX fa70T4e26 fa71T51b5 fa72T5168 fa73T4f80 fa74T5145 fa75T5180
  fa76T52c7 fa77T52fa fa78T559d fa79T5555 fa7aT5599 fa7bT55e2 fa7cT585a fa7dT58b3 fa7eT5944
  fa7fT5954 fa80T5a62 fa81T5b28 fa82T5ed2 fa83T5ed9 fa84T5f69 fa85T5fad fa86T60d8 fa87T614e
  fa88T6108 fa89T618e fa8aT6160 fa8bT61f2 fa8cT6234 fa8dT63c4 fa8eT641c fa8fT6452 fa90T6556
  fa91T6674 fa92T6717 fa93T671b fa94T6756 fa95T6b79 fa96T6bba fa97T6d41 fa98T6edb fa99T6ecb
  fa9aT6f22 fa9bT701e fa9cT716e fa9dT77a7 fa9eT7235 fa9fT72af faa0T732a faa1T7471 faa2T7506
  faa3T753b faa4T761d faa5T761f faa6T76ca faa7T76db faa8T76f4 faa9T774a faaaT7740 faabT78cc
  faacT7ab1 faadT7bc0 faaeT7c7b faafT7d5b fab0T7df4 fab1T7f3e fab2T8005 fab3T8352 fab4T83ef
  fab5T8779 fab6T8941 fab7T8986 fab8T8996 fab9T8abf fabaT8af8 fabbT8acb fabcT8b01 fabdT8afe
  fabeT8aed fabfT8b39 fac0T8b8a fac1T8d08 fac2T8f38 fac3T9072 fac4T9199 fac5T9276 fac6T967c
  fac7T96e3 fac8T9756 fac9T97db facaT97ff facbT980b faccT983b facdT9b12 faceT9f9c facfT2284a
  fad0T22844 fad1T233d5 fad2T3b9d fad3T4018 fad4T4039 fad5T25249 fad6T25cd0 fad7T27ed3 fad8T9f43
  fad9T9f8e fadaX fb00T66,66 fb01T66,69 fb02T66,6c fb03T66,66,69 fb04T66,66,6c fb05T73,74 fb07X
  fb13T574,576 fb14T574,565 fb15T574,56b fb16T57e,576 fb17T574,56d fb18X fb1dT5d9,5b4 fb1eV
  fb1fT5f2,5b7 fb20T5e2 fb21T5d0 fb22S5d3 fb24S5db fb27T5e8 fb28T5ea fb29T2b fb2aT5e9,5c1
  fb2bT5e9,5c2 fb2cT5e9,5bc,5c1 fb2dT5e9,5bc,5c2 fb2eT5d0,5b7 fb2fT5d0,5b8 fb30T5d0,5bc
  fb31T5d1,5bc fb32T5d2,5bc fb33T5d3,5bc fb34T5d4,5bc fb35T5d5,5bc fb36T5d6,5bc fb37X fb38T5d8,5bc
  fb39T5d9,5bc fb3aT5da,5bc fb3bT5db,5bc fb3cT5dc,5bc fb3dX fb3eT5de,5bc fb3fX fb40T5e0,5bc
  fb41T5e1,5bc fb42X fb43T5e3,5bc fb44T5e4,5bc fb45X fb46T5e6,5bc fb47T5e7,5bc fb48T5e8,5bc
  fb49T5e9,5bc fb4aT5ea,5bc fb4bT5d5,5b9 fb4cT5d1,5bf fb4dT5db,5bf fb4eT5e4,5bf fb4fT5d0,5dc"

/-- The table `mapping` from fb50 on: Arabic letters as they are joined, and letters of other widths. -/
def mappedForms : Property := .ofText "
  fb50T671 fb52T67b fb56T67e fb5aT680 fb5eT67a fb62T67f fb66T679 fb6aT6a4 fb6eT6a6 fb72T684
  fb76T683 fb7aT686 fb7eT687 fb82T68d fb84T68c fb86T68e fb88T688 fb8aT698 fb8cT691 fb8eT6a9
  fb92T6af fb96T6b3 fb9aT6b1 fb9eT6ba fba0T6bb fba4T6c0 fba6T6c1 fbaaT6be fbaeT6d2 fbb0T6d3 fbb2V
  fbd3T6ad fbd7T6c7 fbd9T6c6 fbdbT6c8 fbddT6c7,674 fbdeT6cb fbe0T6c5 fbe2T6c9 fbe4T6d0 fbe8T649
  fbeaT626,627 fbecT626,6d5 fbeeT626,648 fbf0T626,6c7 fbf2T626,6c6 fbf4T626,6c8 fbf6T626,6d0
  fbf9T626,649 fbfcT6cc fc00T626,62c fc01T626,62d fc02T626,645 fc03T626,649 fc04T626,64a
  fc05T628,62c fc06T628,62d fc07T628,62e fc08T628,645 fc09T628,649 fc0aT628,64a fc0bT62a,62c
  fc0cT62a,62d fc0dT62a,62e fc0eT62a,645 fc0fT62a,649 fc10T62a,64a fc11T62b,62c fc12T62b,645
  fc13T62b,649 fc14T62b,64a fc15T62c,62d fc16T62c,645 fc17T62d,62c fc18T62d,645 fc19T62e,62c
  fc1aT62e,62d fc1bT62e,645 fc1cT633,62c fc1dT633,62d fc1eT633,62e fc1fT633,645 fc20T635,62d
  fc21T635,645 fc22T636,62c fc23T636,62d fc24T636,62e fc25T636,645 fc26T637,62d fc27T637,645
  fc28T638,645 fc29T639,62c fc2aT639,645 fc2bT63a,62c fc2cT63a,645 fc2dT641,62c fc2eT641,62d
  fc2fT641,62e fc30T641,645 fc31T641,649 fc32T641,64a fc33T642,62d fc34T642,645 fc35T642,649
  fc36T642,64a fc37T643,627 fc38T643,62c fc39T643,62d fc3aT643,62e fc3bT643,644 fc3cT643,645
  fc3dT643,649 fc3eT643,64a fc3fT644,62c fc40T644,62d fc41T644,62e fc42T644,645 fc43T644,649
  fc44T644,64a fc45T645,62c fc46T645,62d fc47T645,62e fc48T645,645 fc49T645,649 fc4aT645,64a
  fc4bT646,62c fc4cT646,62d fc4dT646,62e fc4eT646,645 fc4fT646,649 fc50T646,64a fc51T647,62c
  fc52T647,645 fc53T647,649 fc54T647,64a fc55T64a,62c fc56T64a,62d fc57T64a,62e fc58T64a,645
  fc59T64a,649 fc5aT64a,64a fc5bT630,670 fc5cT631,670 fc5dT649,670 fc5eT20,64c,651 fc5fT20,64d,651
  fc60T20,64e,651 fc61T20,64f,651 fc62T20,650,651 fc63T20,651,670 fc64T626,631 fc65T626,632
  fc66T626,645 fc67T626,646 fc68T626,649 fc69T626,64a fc6aT628,631 fc6bT628,632 fc6cT628,645
  fc6dT628,646 fc6eT628,649 fc6fT628,64a fc70T62a,631 fc71T62a,632 fc72T62a,645 fc73T62a,646
  fc74T62a,649 fc75T62a,64a fc76T62b,631 fc77T62b,632 fc78T62b,645 fc79T62b,646 fc7aT62b,649
  fc7bT62b,64a fc7cT641,649 fc7dT641,64a fc7eT642,649 fc7fT642,64a fc80T643,627 fc81T643,644
  fc82T643,645 fc83T643,649 fc84T643,64a fc85T644,645 fc86T644,649 fc87T644,64a fc88T645,627
  fc89T645,645 fc8aT646,631 fc8bT646,632 fc8cT646,645 fc8dT646,646 fc8eT646,649 fc8fT646,64a
  fc90T649,670 fc91T64a,631 fc92T64a,632 fc93T64a,645 fc94T64a,646 fc95T64a,649 fc96T64a,64a
  fc97T626,62c fc98T626,62d fc99T626,62e fc9aT626,645 fc9bT626,647 fc9cT628,62c fc9dT628,62d
  fc9eT628,62e fc9fT628,645 fca0T628,647 fca1T62a,62c fca2T62a,62d fca3T62a,62e fca4T62a,645
  fca5T62a,647 fca6T62b,645 fca7T62c,62d fca8T62c,645 fca9T62d,62c fcaaT62d,645 fcabT62e,62c
  fcacT62e,645 fcadT633,62c fcaeT633,62d fcafT633,62e fcb0T633,645 fcb1T635,62d fcb2T635,62e
  fcb3T635,645 fcb4T636,62c fcb5T636,62d fcb6T636,62e fcb7T636,645 fcb8T637,62d fcb9T638,645
  fcbaT639,62c fcbbT639,645 fcbcT63a,62c fcbdT63a,645 fcbeT641,62c fcbfT641,62d fcc0T641,62e
  fcc1T641,645 fcc2T642,62d fcc3T642,645 fcc4T643,62c fcc5T643,62d fcc6T643,62e fcc7T643,644
  fcc8T643,645 fcc9T644,62c fccaT644,62d fccbT644,62e fcccT644,645 fccdT644,647 fcceT645,62c
  fccfT645,62d fcd0T645,62e fcd1T645,645 fcd2T646,62c fcd3T646,62d fcd4T646,62e fcd5T646,645
  fcd6T646,647 fcd7T647,62c fcd8T647,645 fcd9T647,670 fcdaT64a,62c fcdbT64a,62d fcdcT64a,62e
  fcddT64a,645 fcdeT64a,647 fcdfT626,645 fce0T626,647 fce1T628,645 fce2T628,647 fce3T62a,645
  fce4T62a,647 fce5T62b,645 fce6T62b,647 fce7T633,645 fce8T633,647 fce9T634,645 fceaT634,647
  fcebT643,644 fcecT643,645 fcedT644,645 fceeT646,645 fcefT646,647 fcf0T64a,645 fcf1T64a,647
  fcf2T640,64e,651 fcf3T640,64f,651 fcf4T640,650,651 fcf5T637,649 fcf6T637,64a fcf7T639,649
  fcf8T639,64a fcf9T63a,649 fcfaT63a,64a fcfbT633,649 fcfcT633,64a fcfdT634,649 fcfeT634,64a
  fcffT62d,649 fd00T62d,64a fd01T62c,649 fd02T62c,64a fd03T62e,649 fd04T62e,64a fd05T635,649
  fd06T635,64a fd07T636,649 fd08T636,64a fd09T634,62c fd0aT634,62d fd0bT634,62e fd0cT634,645
  fd0dT634,631 fd0eT633,631 fd0fT635,631 fd10T636,631 fd11T637,649 fd12T637,64a fd13T639,649
  fd14T639,64a fd15T63a,649 fd16T63a,64a fd17T633,649 fd18T633,64a fd19T634,649 fd1aT634,64a
  fd1bT62d,649 fd1cT62d,64a fd1dT62c,649 fd1eT62c,64a fd1fT62e,649 fd20T62e,64a fd21T635,649
  fd22T635,64a fd23T636,649 fd24T636,64a fd25T634,62c fd26T634,62d fd27T634,62e fd28T634,645
  fd29T634,631 fd2aT633,631 fd2bT635,631 fd2cT636,631 fd2dT634,62c fd2eT634,62d fd2fT634,62e
  fd30T634,645 fd31T633,647 fd32T634,647 fd33T637,645 fd34T633,62c fd35T633,62d fd36T633,62e
  fd37T634,62c fd38T634,62d fd39T634,62e fd3aT637,645 fd3bT638,645 fd3cT627,64b fd3eV
  fd50T62a,62c,645 fd51T62a,62d,62c fd53T62a,62d,645 fd54T62a,62e,645 fd55T62a,645,62c
  fd56T62a,645,62d fd57T62a,645,62e fd58T62c,645,62d fd5aT62d,645,64a fd5bT62d,645,649
  fd5cT633,62d,62c fd5dT633,62c,62d fd5eT633,62c,649 fd5fT633,645,62d fd61T633,645,62c
  fd62T633,645,645 fd64T635,62d,62d fd66T635,645,645 fd67T634,62d,645 fd69T634,62c,64a
  fd6aT634,645,62e fd6cT634,645,645 fd6eT636,62d,649 fd6fT636,62e,645 fd71T637,645,62d
  fd73T637,645,645 fd74T637,645,64a fd75T639,62c,645 fd76T639,645,645 fd78T639,645,649
  fd79T63a,645,645 fd7aT63a,645,64a fd7bT63a,645,649 fd7cT641,62e,645 fd7eT642,645,62d
  fd7fT642,645,645 fd80T644,62d,645 fd81T644,62d,64a fd82T644,62d,649 fd83T644,62c,62c
  fd85T644,62e,645 fd87T644,645,62d fd89T645,62d,62c fd8aT645,62d,645 fd8bT645,62d,64a
  fd8cT645,62c,62d fd8dT645,62c,645 fd8eT645,62e,62c fd8fT645,62e,645 fd90V fd92T645,62c,62e
  fd93T647,645,62c fd94T647,645,645 fd95T646,62d,645 fd96T646,62d,649 fd97T646,62c,645
  fd99T646,62c,649 fd9aT646,645,64a fd9bT646,645,649 fd9cT64a,645,645 fd9eT628,62e,64a
  fd9fT62a,62c,64a fda0T62a,62c,649 fda1T62a,62e,64a fda2T62a,62e,649 fda3T62a,645,64a
  fda4T62a,645,649 fda5T62c,645,64a fda6T62c,62d,649 fda7T62c,645,649 fda8T633,62e,649
  fda9T635,62d,64a fdaaT634,62d,64a fdabT636,62d,64a fdacT644,62c,64a fdadT644,645,64a
  fdaeT64a,62d,64a fdafT64a,62c,64a fdb0T64a,645,64a fdb1T645,645,64a fdb2T642,645,64a
  fdb3T646,62d,64a fdb4T642,645,62d fdb5T644,62d,645 fdb6T639,645,64a fdb7T643,645,64a
  fdb8T646,62c,62d fdb9T645,62e,64a fdbaT644,62c,645 fdbbT643,645,645 fdbcT644,62c,645
  fdbdT646,62c,62d fdbeT62c,62d,64a fdbfT62d,62c,64a fdc0T645,62c,64a fdc1T641,645,64a
  fdc2T628,62d,64a fdc3T643,645,645 fdc4T639,62c,645 fdc5T635,645,645 fdc6T633,62e,64a
  fdc7T646,62c,64a fdc8V fdd0X fdf0T635,644,6d2 fdf1T642,644,6d2 fdf2T627,644,644,647
  fdf3T627,643,628,631 fdf4T645,62d,645,62f fdf5T635,644,639,645 fdf6T631,633,648,644
  fdf7T639,644,64a,647 fdf8T648,633,644,645 fdf9T635,644,649
  fdfaT635,644,649,20,627,644,644,647,20,639,644,64a,647,20,648,633,644,645
  fdfbT62c,644,20,62c,644,627,644,647 fdfcT631,6cc,627,644 fdfdV fe00I fe10T2c fe11T3001 fe12X
  fe13S3a fe15T21 fe16T3f fe17S3016 fe19X fe20V fe30X fe31T2014 fe32T2013 fe33T5f fe35S28 fe37T7b
  fe38T7d fe39S3014 fe3bS3010 fe3dS300a fe3fS3008 fe41S300c fe45V fe47T5b fe48T5d fe49T20,305
  fe4dT5f fe50T2c fe51T3001 fe52X fe54T3b fe55T3a fe56T3f fe57T21 fe58T2014 fe59S28 fe5bT7b fe5cT7d
  fe5dS3014 fe5fT23 fe60T26 fe61S2a fe63T2d fe64T3c fe65T3e fe66T3d fe67X fe68T5c fe69S24 fe6bT40
  fe6cX fe70T20,64b fe71T640,64b fe72T20,64c fe73V fe74T20,64d fe75X fe76T20,64e fe77T640,64e
  fe78T20,64f fe79T640,64f fe7aT20,650 fe7bT640,650 fe7cT20,651 fe7dT640,651 fe7eT20,652
  fe7fT640,652 fe80S621 fe82S622 fe84S623 fe86S624 fe88S625 fe8aT626 fe8dT627 fe8fT628 fe93T629
  fe95T62a fe99T62b fe9dT62c fea1T62d fea5T62e fea9T62f feabT630 feadT631 feafT632 feb1T633
  feb5T634 feb9T635 febdT636 fec1T637 fec5T638 fec9T639 fecdT63a fed1T641 fed5T642 fed9T643
  feddT644 fee1T645 fee5T646 fee9T647 feedT648 feefT649 fef1T64a fef5T644,622 fef7T644,623
  fef9T644,625 fefbT644,627 fefdX feffI ff00X ff01S21 ff21S61 ff3bS5b ff5fS2985 ff61T2e ff62S300c
  ff64T3001 ff65T30fb ff66T30f2 ff67T30a1 ff68T30a3 ff69T30a5 ff6aT30a7 ff6bT30a9 ff6cT30e3
  ff6dT30e5 ff6eT30e7 ff6fT30c3 ff70T30fc ff71T30a2 ff72T30a4 ff73T30a6 ff74T30a8 ff75S30aa
  ff77T30ad ff78T30af ff79T30b1 ff7aT30b3 ff7bT30b5 ff7cT30b7 ff7dT30b9 ff7eT30bb ff7fT30bd
  ff80T30bf ff81T30c1 ff82T30c4 ff83T30c6 ff84T30c8 ff85S30ca ff8bT30d2 ff8cT30d5 ff8dT30d8
  ff8eT30db ff8fS30de ff94T30e4 ff95T30e6 ff96S30e8 ff9cT30ef ff9dT30f3 ff9eS3099 ffa0I ffa1S1100
  ffa3T11aa ffa4T1102 ffa5S11ac ffa7S1103 ffaaS11b0 ffb0T111a ffb1S1106 ffb4T1121 ffb5S1109 ffbfX
  ffc2S1161 ffc8X ffcaS1167 ffd0X ffd2S116d ffd8X ffdaS1173 ffddX ffe0Sa2 ffe2Tac ffe3T20,304
  ffe4Ta6 ffe5Ta5 ffe6T20a9 ffe7X ffe8T2502 ffe9S2190 ffedT25a0 ffeeT25cb ffefX"

/-- The table `mapping` from 10000 on: historic scripts and letters of mathematics. -/
def mappedHistoric : Property := .ofText "
  10000V 1000cX 1000dV 10027X 10028V 1003bX 1003cV 1003eX 1003fV 1004eX 10050V 1005eX 10080V 100fbX
  10100V 10103X 10107V 10134X 10137V 1018fX 10190V 1019dX 101a0V 101a1X 101d0V 101feX 10280V 1029dX
  102a0V 102d1X 102e0V 102fcX 10300V 10324X 1032dV 1034bX 10350V 1037bX 10380V 1039eX 1039fV 103c4X
  103c8V 103d6X 10400S10428 10428V 1049eX 104a0V 104aaX 104b0S104d8 104d4X 104d8V 104fcX 10500V
  10528X 10530V 10564X 1056fV 10570S10597 1057bX 1057cS105a3 1058bX 1058cS105b3 10593X 10594S105bb
  10596X 10597V 105a2X 105a3V 105b2X 105b3V 105baX 105bbV 105bdX 105c0V 105f4X 10600V 10737X 10740V
  10756X 10760V 10768X 10780V 10781S2d0 10783Te6 10784T299 10785T253 10786X 10787T2a3 10788Tab66
  10789T2a5 1078aT2a4 1078bS256 1078dT1d91 1078eT258 1078fT25e 10790T2a9 10791T264 10792T262
  10793T260 10794T29b 10795T127 10796T29c 10797T267 10798T284 10799S2aa 1079bT26c 1079cT1df04
  1079dTa78e 1079eT26e 1079fT1df05 107a0T28e 107a1T1df06 107a2Tf8 107a3S276 107a5T71 107a6T27a
  107a7T1df08 107a8S27d 107aaT280 107abT2a8 107acT2a6 107adTab67 107aeT2a7 107afT288 107b0T2c71
  107b1X 107b2T28f 107b3S2a1 107b5T298 107b6S1c0 107b9T1df0a 107baT1df1e 107bbX 10800V 10806X
  10808V 10809X 1080aV 10836X 10837V 10839X 1083cV 1083dX 1083fV 10856X 10857V 1089fX 108a7V 108b0X
  108e0V 108f3X 108f4V 108f6X 108fbV 1091cX 1091fV 1093aX 1093fV 1095aX 10980V 109b8X 109bcV 109d0X
  109d2V 10a04X 10a05V 10a07X 10a0cV 10a14X 10a15V 10a18X 10a19V 10a36X 10a38V 10a3bX 10a3fV 10a49X
  10a50V 10a59X 10a60V 10aa0X 10ac0V 10ae7X 10aebV 10af7X 10b00V 10b36X 10b39V 10b56X 10b58V 10b73X
  10b78V 10b92X 10b99V 10b9dX 10ba9V 10bb0X 10c00V 10c49X 10c80S10cc0 10cb3X 10cc0V 10cf3X 10cfaV
  10d28X 10d30V 10d3aX 10d40V 10d50S10d70 10d66X 10d69V 10d86X 10d8eV 10d90X 10e60V 10e7fX 10e80V
  10eaaX 10eabV 10eaeX 10eb0V 10eb2X 10ec2V 10ec8X 10ed0V 10ed9X 10efaV 10f28X 10f30V 10f5aX 10f70V
  10f8aX 10fb0V 10fccX 10fe0V 10ff7X 11000V 1104eX 11052V 11076X 1107fV 110bdX 110beV 110c3X 110d0V
  110e9X 110f0V 110faX 11100V 11135X 11136V 11148X 11150V 11177X 11180V 111e0X 111e1V 111f5X 11200V
  11212X 11213V 11242X 11280V 11287X 11288V 11289X 1128aV 1128eX 1128fV 1129eX 1129fV 112aaX 112b0V
  112ebX 112f0V 112faX 11300V 11304X 11305V 1130dX 1130fV 11311X 11313V 11329X 1132aV 11331X 11332V
  11334X 11335V 1133aX 1133bV 11345X 11347V 11349X 1134bV 1134eX 11350V 11351X 11357V 11358X 1135dV
  11364X 11366V 1136dX 11370V 11375X 11380V 1138aX 1138bV 1138cX 1138eV 1138fX 11390V 113b6X 113b7V
  113c1X 113c2V 113c3X 113c5V 113c6X 113c7V 113cbX 113ccV 113d6X 113d7V 113d9X 113e1V 113e3X 11400V
  1145cX 1145dV 11462X 11480V 114c8X 114d0V 114daX 11580V 115b6X 115b8V 115deX 11600V 11645X 11650V
  1165aX 11660V 1166dX 11680V 116baX 116c0V 116caX 116d0V 116e4X 11700V 1171bX 1171dV 1172cX 11730V
  11747X 11800V 1183cX 118a0S118c0 118c0V 118f3X 118ffV 11907X 11909V 1190aX 1190cV 11914X 11915V
  11917X 11918V 11936X 11937V 11939X 1193bV 11947X 11950V 1195aX 119a0V 119a8X 119aaV 119d8X 119daV
  119e5X 11a00V 11a48X 11a50V 11aa3X 11ab0V 11af9X 11b00V 11b0aX 11b60V 11b68X 11bc0V 11be2X 11bf0V
  11bfaX 11c00V 11c09X 11c0aV 11c37X 11c38V 11c46X 11c50V 11c6dX 11c70V 11c90X 11c92V 11ca8X 11ca9V
  11cb7X 11d00V 11d07X 11d08V 11d0aX 11d0bV 11d37X 11d3aV 11d3bX 11d3cV 11d3eX 11d3fV 11d48X 11d50V
  11d5aX 11d60V 11d66X 11d67V 11d69X 11d6aV 11d8fX 11d90V 11d92X 11d93V 11d99X 11da0V 11daaX 11db0V
  11ddcX 11de0V 11deaX 11ee0V 11ef9X 11f00V 11f11X 11f12V 11f3bX 11f3eV 11f5bX 11fb0V 11fb1X 11fc0V
  11ff2X 11fffV 1239aX 12400V 1246fX 12470V 12475X 12480V 12544X 12f90V 12ff3X 13000V 13430X 13440V
  13456X 13460V 143fbX 14400V 14647X 16100V 1613aX 16800V 16a39X 16a40V 16a5fX 16a60V 16a6aX 16a6eV
  16abfX 16ac0V 16acaX 16ad0V 16aeeX 16af0V 16af6X 16b00V 16b46X 16b50V 16b5aX 16b5bV 16b62X 16b63V
  16b78X 16b7dV 16b90X 16d40V 16d7aX 16e40S16e60 16e60V 16e9bX 16ea0S16ebb 16eb9X 16ebbV 16ed4X
  16f00V 16f4bX 16f4fV 16f88X 16f8fV 16fa0X 16fe0V 16fe5X 16ff0V 16ff7X 17000V 18cd6X 18cffV 18d1fX
  18d80V 18df3X 1aff0V 1aff4X 1aff5V 1affcX 1affdV 1afffX 1b000V 1b123X 1b132V 1b133X 1b150V 1b153X
  1b155V 1b156X 1b164V 1b168X 1b170V 1b2fcX 1bc00V 1bc6bX 1bc70V 1bc7dX 1bc80V 1bc89X 1bc90V 1bc9aX
  1bc9cV 1bca0I 1bca4X 1cc00V 1ccd6S61 1ccf0S30 1ccfaV 1ccfdX 1cd00V 1ceb4X 1cebaV 1ced1X 1cee0V
  1cef1X 1cf00V 1cf2eX 1cf30V 1cf47X 1cf50V 1cfc4X 1d000V 1d0f6X 1d100V 1d127X 1d129V
  1d15eT1d157,1d165 1d15fT1d158,1d165 1d160T1d158,1d165,1d16e 1d161T1d158,1d165,1d16f
  1d162T1d158,1d165,1d170 1d163T1d158,1d165,1d171 1d164T1d158,1d165,1d172 1d165V 1d173I 1d17bV
  1d1bbT1d1b9,1d165 1d1bcT1d1ba,1d165 1d1bdT1d1b9,1d165,1d16e 1d1beT1d1ba,1d165,1d16e
  1d1bfT1d1b9,1d165,1d16f 1d1c0T1d1ba,1d165,1d16f 1d1c1V 1d1ebX 1d200V 1d246X 1d2c0V 1d2d4X 1d2e0V
  1d2f4X 1d300V 1d357X 1d360V 1d379X 1d400S61 1d41aS61 1d434S61 1d44eS61 1d455X 1d456S69 1d468S61
  1d482S61 1d49cT61 1d49dX 1d49eS63 1d4a0X 1d4a2T67 1d4a3X 1d4a5S6a 1d4a7X 1d4a9S6e 1d4adX 1d4aeS73
  1d4b6S61 1d4baX 1d4bbT66 1d4bcX 1d4bdS68 1d4c4X 1d4c5S70 1d4d0S61 1d4eaS61 1d504S61 1d506X
  1d507S64 1d50bX 1d50dS6a 1d515X 1d516S73 1d51dX 1d51eS61 1d538S61 1d53aX 1d53bS64 1d53fX 1d540S69
  1d545X 1d546T6f 1d547X 1d54aS73 1d551X 1d552S61 1d56cS61 1d586S61 1d5a0S61 1d5baS61 1d5d4S61
  1d5eeS61 1d608S61 1d622S61 1d63cS61 1d656S61 1d670S61 1d68aS61 1d6a4T131 1d6a5T237 1d6a6X
  1d6a8S3b1 1d6b9T3b8 1d6baS3c3 1d6c1T2207 1d6c2S3b1 1d6d3T3c3 1d6d5S3c4 1d6dbT2202 1d6dcT3b5
  1d6ddT3b8 1d6deT3ba 1d6dfT3c6 1d6e0T3c1 1d6e1T3c0 1d6e2S3b1 1d6f3T3b8 1d6f4S3c3 1d6fbT2207
  1d6fcS3b1 1d70dT3c3 1d70fS3c4 1d715T2202 1d716T3b5 1d717T3b8 1d718T3ba 1d719T3c6 1d71aT3c1
  1d71bT3c0 1d71cS3b1 1d72dT3b8 1d72eS3c3 1d735T2207 1d736S3b1 1d747T3c3 1d749S3c4 1d74fT2202
  1d750T3b5 1d751T3b8 1d752T3ba 1d753T3c6 1d754T3c1 1d755T3c0 1d756S3b1 1d767T3b8 1d768S3c3
  1d76fT2207 1d770S3b1 1d781T3c3 1d783S3c4 1d789T2202 1d78aT3b5 1d78bT3b8 1d78cT3ba 1d78dT3c6
  1d78eT3c1 1d78fT3c0 1d790S3b1 1d7a1T3b8 1d7a2S3c3 1d7a9T2207 1d7aaS3b1 1d7bbT3c3 1d7bdS3c4
  1d7c3T2202 1d7c4T3b5 1d7c5T3b8 1d7c6T3ba 1d7c7T3c6 1d7c8T3c1 1d7c9T3c0 1d7caT3dd 1d7ccX 1d7ceS30
  1d7d8S30 1d7e2S30 1d7ecS30 1d7f6S30 1d800V 1da8cX 1da9bV 1daa0X 1daa1V 1dab0X 1df00V 1df1fX
  1df25V 1df2bX 1e000V 1e007X 1e008V 1e019X 1e01bV 1e022X 1e023V 1e025X 1e026V 1e02bX 1e030S430
  1e039S43a 1e03cS43e 1e047T44b 1e048S44d 1e04aTa689 1e04bT4d9 1e04cT456 1e04dT458 1e04eT4e9
  1e04fT4af 1e050T4cf 1e051S430 1e05aS43a 1e05cS43e 1e05eT441 1e05fS443 1e065S44a 1e067T491
  1e068T456 1e069T455 1e06aT45f 1e06bT4ab 1e06cTa651 1e06dT4b1 1e06eX 1e08fV 1e090X 1e100V 1e12dX
  1e130V 1e13eX 1e140V 1e14aX 1e14eV 1e150X 1e290V 1e2afX 1e2c0V 1e2faX 1e2ffV 1e300X 1e4d0V 1e4faX
  1e5d0V 1e5fbX 1e5ffV 1e600X 1e6c0V 1e6dfX 1e6e0V 1e6f6X 1e6feV 1e700X 1e7e0V 1e7e7X 1e7e8V 1e7ecX
  1e7edV 1e7efX 1e7f0V 1e7ffX 1e800V 1e8c5X 1e8c7V 1e8d7X 1e900S1e922 1e922V 1e94cX 1e950V 1e95aX
  1e95eV 1e960X 1ec71V 1ecb5X 1ed01V 1ed3eX 1ee00S627 1ee02T62c 1ee03T62f 1ee04X 1ee05T648
  1ee06T632 1ee07T62d 1ee08T637 1ee09T64a 1ee0aS643 1ee0eT633 1ee0fT639 1ee10T641 1ee11T635
  1ee12T642 1ee13T631 1ee14T634 1ee15S62a 1ee17T62e 1ee18T630 1ee19T636 1ee1aT638 1ee1bT63a
  1ee1cT66e 1ee1dT6ba 1ee1eT6a1 1ee1fT66f 1ee20X 1ee21T628 1ee22T62c 1ee23X 1ee24T647 1ee25X
  1ee27T62d 1ee28X 1ee29T64a 1ee2aS643 1ee2eT633 1ee2fT639 1ee30T641 1ee31T635 1ee32T642 1ee33X
  1ee34T634 1ee35S62a 1ee37T62e 1ee38X 1ee39T636 1ee3aX 1ee3bT63a 1ee3cX 1ee42T62c 1ee43X 1ee47T62d
  1ee48X 1ee49T64a 1ee4aX 1ee4bT644 1ee4cX 1ee4dT646 1ee4eT633 1ee4fT639 1ee50X 1ee51T635 1ee52T642
  1ee53X 1ee54T634 1ee55X 1ee57T62e 1ee58X 1ee59T636 1ee5aX 1ee5bT63a 1ee5cX 1ee5dT6ba 1ee5eX
  1ee5fT66f 1ee60X 1ee61T628 1ee62T62c 1ee63X 1ee64T647 1ee65X 1ee67T62d 1ee68T637 1ee69T64a
  1ee6aT643 1ee6bX 1ee6cS645 1ee6eT633 1ee6fT639 1ee70T641 1ee71T635 1ee72T642 1ee73X 1ee74T634
  1ee75S62a 1ee77T62e 1ee78X 1ee79T636 1ee7aT638 1ee7bT63a 1ee7cT66e 1ee7dX 1ee7eT6a1 1ee7fX
  1ee80S627 1ee82T62c 1ee83T62f 1ee84S647 1ee86T632 1ee87T62d 1ee88T637 1ee89T64a 1ee8aX 1ee8bS644
  1ee8eT633 1ee8fT639 1ee90T641 1ee91T635 1ee92T642 1ee93T631 1ee94T634 1ee95S62a 1ee97T62e
  1ee98T630 1ee99T636 1ee9aT638 1ee9bT63a 1ee9cX 1eea1T628 1eea2T62c 1eea3T62f 1eea4X 1eea5T648
  1eea6T632 1eea7T62d 1eea8T637 1eea9T64a 1eeaaX 1eeabS644 1eeaeT633 1eeafT639 1eeb0T641 1eeb1T635
  1eeb2T642 1eeb3T631 1eeb4T634 1eeb5S62a 1eeb7T62e 1eeb8T630 1eeb9T636 1eebaT638 1eebbT63a 1eebcX
  1eef0V 1eef2X 1f000V 1f02cX 1f030V 1f094X 1f0a0V 1f0afX 1f0b1V 1f0c0X 1f0c1V 1f0d0X 1f0d1V 1f0f6X"

/-- The table `mapping` from 1f100 on: pictures and the ideographs behind them. -/
def mappedRest : Property := .ofText "
  1f101T30,2c 1f102T31,2c 1f103T32,2c 1f104T33,2c 1f105T34,2c 1f106T35,2c 1f107T36,2c 1f108T37,2c
  1f109T38,2c 1f10aT39,2c 1f10bV 1f110T28,61,29 1f111T28,62,29 1f112T28,63,29 1f113T28,64,29
  1f114T28,65,29 1f115T28,66,29 1f116T28,67,29 1f117T28,68,29 1f118T28,69,29 1f119T28,6a,29
  1f11aT28,6b,29 1f11bT28,6c,29 1f11cT28,6d,29 1f11dT28,6e,29 1f11eT28,6f,29 1f11fT28,70,29
  1f120T28,71,29 1f121T28,72,29 1f122T28,73,29 1f123T28,74,29 1f124T28,75,29 1f125T28,76,29
  1f126T28,77,29 1f127T28,78,29 1f128T28,79,29 1f129T28,7a,29 1f12aT3014,73,3015 1f12bT63 1f12cT72
  1f12dT63,64 1f12eT77,7a 1f12fV 1f130S61 1f14aT68,76 1f14bT6d,76 1f14cT73,64 1f14dT73,73
  1f14eT70,70,76 1f14fT77,63 1f150V 1f16aT6d,63 1f16bT6d,64 1f16cT6d,72 1f16dV 1f190T64,6a 1f191V
  1f1aeX 1f1e6V 1f200T307b,304b 1f201T30b3,30b3 1f202T30b5 1f203X 1f210T624b 1f211T5b57 1f212T53cc
  1f213T30c7 1f214T4e8c 1f215T591a 1f216T89e3 1f217T5929 1f218T4ea4 1f219T6620 1f21aT7121
  1f21bT6599 1f21cT524d 1f21dT5f8c 1f21eT518d 1f21fT65b0 1f220T521d 1f221T7d42 1f222T751f
  1f223T8ca9 1f224T58f0 1f225T5439 1f226T6f14 1f227T6295 1f228T6355 1f229T4e00 1f22aT4e09
  1f22bT904a 1f22cT5de6 1f22dT4e2d 1f22eT53f3 1f22fT6307 1f230T8d70 1f231T6253 1f232T7981
  1f233T7a7a 1f234T5408 1f235T6e80 1f236T6709 1f237T6708 1f238T7533 1f239T5272 1f23aT55b6
  1f23bT914d 1f23cX 1f240T3014,672c,3015 1f241T3014,4e09,3015 1f242T3014,4e8c,3015
  1f243T3014,5b89,3015 1f244T3014,70b9,3015 1f245T3014,6253,3015 1f246T3014,76d7,3015
  1f247T3014,52dd,3015 1f248T3014,6557,3015 1f249X 1f250T5f97 1f251T53ef 1f252X 1f260V 1f266X
  1f300V 1f6d9X 1f6dcV 1f6edX 1f6f0V 1f6fdX 1f700V 1f7daX 1f7e0V 1f7ecX 1f7f0V 1f7f1X 1f800V 1f80cX
  1f810V 1f848X 1f850V 1f85aX 1f860V 1f888X 1f890V 1f8aeX 1f8b0V 1f8bcX 1f8c0V 1f8c2X 1f8d0V 1f8d9X
  1f900V 1fa58X 1fa60V 1fa6eX 1fa70V 1fa7dX 1fa80V 1fa8bX 1fa8eV 1fac7X 1fac8V 1fac9X 1facdV 1faddX
  1fadfV 1faebX 1faefV 1faf9X 1fb00V 1fb93X 1fb94V 1fbf0S30 1fbfaV 1fbfbX 20000V 2a6e0X 2a700V
  2b81eX 2b820V 2ceaeX 2ceb0V 2ebe1X 2ebf0V 2ee5eX 2f800T4e3d 2f801T4e38 2f802T4e41 2f803T20122
  2f804T4f60 2f805T4fae 2f806T4fbb 2f807T5002 2f808T507a 2f809T5099 2f80aT50e7 2f80bT50cf
  2f80cT349e 2f80dT2063a 2f80eT514d 2f80fT5154 2f810T5164 2f811T5177 2f812T2051c 2f813T34b9
  2f814T5167 2f815T518d 2f816T2054b 2f817T5197 2f818T51a4 2f819T4ecc 2f81aT51ac 2f81bT51b5
  2f81cT291df 2f81dT51f5 2f81eT5203 2f81fT34df 2f820T523b 2f821T5246 2f822T5272 2f823T5277
  2f824T3515 2f825T52c7 2f826T52c9 2f827T52e4 2f828T52fa 2f829S5305 2f82bT5317 2f82cT5349
  2f82dT5351 2f82eT535a 2f82fT5373 2f830T537d 2f831T537f 2f834T20a2c 2f835T7070 2f836T53ca
  2f837T53df 2f838T20b63 2f839T53eb 2f83aT53f1 2f83bT5406 2f83cT549e 2f83dT5438 2f83eT5448
  2f83fT5468 2f840T54a2 2f841T54f6 2f842T5510 2f843T5553 2f844T5563 2f845T5584 2f847T5599
  2f848T55ab 2f849T55b3 2f84aT55c2 2f84bT5716 2f84cT5606 2f84dT5717 2f84eT5651 2f84fT5674
  2f850T5207 2f851T58ee 2f852T57ce 2f853T57f4 2f854T580d 2f855T578b 2f856T5832 2f857T5831
  2f858T58ac 2f859T214e4 2f85aT58f2 2f85bT58f7 2f85cT5906 2f85dT591a 2f85eT5922 2f85fT5962
  2f860T216a8 2f861T216ea 2f862T59ec 2f863T5a1b 2f864T5a27 2f865T59d8 2f866T5a66 2f867T36ee
  2f868T36fc 2f869T5b08 2f86aT5b3e 2f86cT219c8 2f86dT5bc3 2f86eT5bd8 2f86fT5be7 2f870T5bf3
  2f871T21b18 2f872T5bff 2f873T5c06 2f874T5f53 2f875T5c22 2f876T3781 2f877T5c60 2f878T5c6e
  2f879T5cc0 2f87aT5c8d 2f87bT21de4 2f87cT5d43 2f87dT21de6 2f87eT5d6e 2f87fT5d6b 2f880T5d7c
  2f881S5de1 2f883T382f 2f884T5dfd 2f885T5e28 2f886T5e3d 2f887T5e69 2f888T3862 2f889T22183
  2f88aT387c 2f88bT5eb0 2f88cT5eb3 2f88dT5eb6 2f88eT5eca 2f88fT2a392 2f890T5efe 2f891T22331
  2f893T8201 2f894T5f22 2f896T38c7 2f897T232b8 2f898T261da 2f899T5f62 2f89aT5f6b 2f89bT38e3
  2f89cT5f9a 2f89dT5fcd 2f89eT5fd7 2f89fT5ff9 2f8a0T6081 2f8a1T393a 2f8a2T391c 2f8a3T6094
  2f8a4T226d4 2f8a5T60c7 2f8a6T6148 2f8a7T614c 2f8a8T614e 2f8a9T614c 2f8aaT617a 2f8abT618e
  2f8acT61b2 2f8adT61a4 2f8aeT61af 2f8afT61de 2f8b0T61f2 2f8b1T61f6 2f8b2T6210 2f8b3T621b
  2f8b4T625d 2f8b5T62b1 2f8b6T62d4 2f8b7T6350 2f8b8T22b0c 2f8b9T633d 2f8baT62fc 2f8bbT6368
  2f8bcT6383 2f8bdT63e4 2f8beT22bf1 2f8bfT6422 2f8c0T63c5 2f8c1T63a9 2f8c2T3a2e 2f8c3T6469
  2f8c4T647e 2f8c5T649d 2f8c6T6477 2f8c7T3a6c 2f8c8T654f 2f8c9T656c 2f8caT2300a 2f8cbT65e3
  2f8ccT66f8 2f8cdT6649 2f8ceT3b19 2f8cfT6691 2f8d0T3b08 2f8d1T3ae4 2f8d2T5192 2f8d3T5195
  2f8d4T6700 2f8d5T669c 2f8d6T80ad 2f8d7T43d9 2f8d8T6717 2f8d9T671b 2f8daT6721 2f8dbT675e
  2f8dcT6753 2f8ddT233c3 2f8deT3b49 2f8dfT67fa 2f8e0T6785 2f8e1T6852 2f8e2T6885 2f8e3T2346d
  2f8e4T688e 2f8e5T681f 2f8e6T6914 2f8e7T3b9d 2f8e8T6942 2f8e9T69a3 2f8eaT69ea 2f8ebT6aa8
  2f8ecT236a3 2f8edT6adb 2f8eeT3c18 2f8efT6b21 2f8f0T238a7 2f8f1T6b54 2f8f2T3c4e 2f8f3T6b72
  2f8f4T6b9f 2f8f5S6bba 2f8f7T23a8d 2f8f8T21d0b 2f8f9T23afa 2f8faT6c4e 2f8fbT23cbc 2f8fcT6cbf
  2f8fdT6ccd 2f8feT6c67 2f8ffT6d16 2f900T6d3e 2f901T6d77 2f902T6d41 2f903T6d69 2f904T6d78
  2f905T6d85 2f906T23d1e 2f907T6d34 2f908T6e2f 2f909T6e6e 2f90aT3d33 2f90bT6ecb 2f90cT6ec7
  2f90dT23ed1 2f90eT6df9 2f90fT6f6e 2f910T23f5e 2f911T23f8e 2f912T6fc6 2f913T7039 2f914T701e
  2f915T701b 2f916T3d96 2f917T704a 2f918T707d 2f919T7077 2f91aT70ad 2f91bT20525 2f91cT7145
  2f91dT24263 2f91eT719c 2f91fT243ab 2f920T7228 2f921T7235 2f922T7250 2f923T24608 2f924T7280
  2f925T7295 2f926T24735 2f927T24814 2f928T737a 2f929T738b 2f92aT3eac 2f92bT73a5 2f92cT3eb8
  2f92eT7447 2f92fT745c 2f930T7471 2f931T7485 2f932T74ca 2f933T3f1b 2f934T7524 2f935T24c36
  2f936T753e 2f937T24c92 2f938T7570 2f939T2219f 2f93aT7610 2f93bT24fa1 2f93cT24fb8 2f93dT25044
  2f93eT3ffc 2f93fT4008 2f940T76f4 2f941T250f3 2f942T250f2 2f943T25119 2f944T25133 2f945S771e
  2f947T771f 2f948T774a 2f949T4039 2f94aT778b 2f94bT4046 2f94cT4096 2f94dT2541d 2f94eT784e
  2f94fT788c 2f950T78cc 2f951T40e3 2f952T25626 2f953T7956 2f954T2569a 2f955T256c5 2f956T798f
  2f957T79eb 2f958T412f 2f959T7a40 2f95aT7a4a 2f95bT7a4f 2f95cT2597c 2f95dT25aa7 2f95fT7aee
  2f960T4202 2f961T25bab 2f962T7bc6 2f963T7bc9 2f964T4227 2f965T25c80 2f966T7cd2 2f967T42a0
  2f968T7ce8 2f969T7ce3 2f96aT7d00 2f96bT25f86 2f96cT7d63 2f96dT4301 2f96eT7dc7 2f96fT7e02
  2f970T7e45 2f971T4334 2f972T26228 2f973T26247 2f974T4359 2f975T262d9 2f976T7f7a 2f977T2633e
  2f978T7f95 2f979T7ffa 2f97aT8005 2f97bT264da 2f97cT26523 2f97dT8060 2f97eT265a8 2f97fT8070
  2f980T2335f 2f981T43d5 2f982T80b2 2f983T8103 2f984T440b 2f985T813e 2f986T5ab5 2f987T267a7
  2f988T267b5 2f989T23393 2f98aT2339c 2f98bT8201 2f98cT8204 2f98dT8f9e 2f98eT446b 2f98fT8291
  2f990T828b 2f991T829d 2f992T52b3 2f993T82b1 2f994T82b3 2f995T82bd 2f996T82e6 2f997T26b3c
  2f998T82e5 2f999T831d 2f99aT8363 2f99bT83ad 2f99cT8323 2f99dT83bd 2f99eT83e7 2f99fT8457
  2f9a0T8353 2f9a1T83ca 2f9a2T83cc 2f9a3T83dc 2f9a4T26c36 2f9a5T26d6b 2f9a6T26cd5 2f9a7T452b
  2f9a8T84f1 2f9a9T84f3 2f9aaT8516 2f9abT273ca 2f9acT8564 2f9adT26f2c 2f9aeT455d 2f9afT4561
  2f9b0T26fb1 2f9b1T270d2 2f9b2T456b 2f9b3T8650 2f9b4T865c 2f9b5T8667 2f9b6T8669 2f9b7T86a9
  2f9b8T8688 2f9b9T870e 2f9baT86e2 2f9bbT8779 2f9bcT8728 2f9bdT876b 2f9beT8786 2f9bfT45d7
  2f9c0T87e1 2f9c1T8801 2f9c2T45f9 2f9c3T8860 2f9c4T8863 2f9c5T27667 2f9c6T88d7 2f9c7T88de
  2f9c8T4635 2f9c9T88fa 2f9caT34bb 2f9cbT278ae 2f9ccT27966 2f9cdT46be 2f9ceT46c7 2f9cfT8aa0
  2f9d0T8aed 2f9d1T8b8a 2f9d2T8c55 2f9d3T27ca8 2f9d4T8cab 2f9d5T8cc1 2f9d6T8d1b 2f9d7T8d77
  2f9d8T27f2f 2f9d9T20804 2f9daT8dcb 2f9dbT8dbc 2f9dcT8df0 2f9ddT208de 2f9deT8ed4 2f9dfT8f38
  2f9e0T285d2 2f9e1T285ed 2f9e2T9094 2f9e3T90f1 2f9e4T9111 2f9e5T2872e 2f9e6T911b 2f9e7T9238
  2f9e8S92d7 2f9eaT927c 2f9ebT93f9 2f9ecT9415 2f9edT28bfa 2f9eeT958b 2f9efT4995 2f9f0T95b7
  2f9f1T28d77 2f9f2T49e6 2f9f3T96c3 2f9f4T5db2 2f9f5T9723 2f9f6T29145 2f9f7T2921a 2f9f8T4a6e
  2f9f9T4a76 2f9faT97e0 2f9fbT2940a 2f9fcT4ab2 2f9fdT29496 2f9feT980b 2fa00T9829 2fa01T295b6
  2fa02T98e2 2fa03T4b33 2fa04T9929 2fa05T99a7 2fa06T99c2 2fa07T99fe 2fa08T4bce 2fa09T29b30
  2fa0aT9b12 2fa0bT9c40 2fa0cT9cfd 2fa0dT4cce 2fa0eT4ced 2fa0fT9d67 2fa10T2a0ce 2fa11T4cf8
  2fa12T2a105 2fa13T2a20e 2fa14T2a291 2fa15T9ebb 2fa16T4d56 2fa17T9ef9 2fa18T9efe 2fa19T9f05
  2fa1aT9f0f 2fa1bT9f16 2fa1cT9f3b 2fa1dT2a600 2fa1eX 30000V 3134bX 31350V 3347aX e0100I e01f0X"

/-- What becomes of the characters outside ASCII: `V` they stay, `I` they
vanish, `X` no name has them, `T` they become the given text, `S` a run of them
becomes the run of the same length that starts at the given one, `A` every
second one of a run does and the others stay. -/
def mapping : Property :=
  mappedLetters ++ mappedSigns ++ mappedSquares ++ mappedIdeographs ++ mappedForms ++
    mappedHistoric ++ mappedRest

/-- What a character becomes, none if no name has it. -/
def mapChar? (c : Char) : Option Text :=
  let n := c.toNat
  if n < 0x80 then some [c.toLower]
  else
    match mapping.step? n with
    | none => none
    | some step =>
      let shifted := Char.ofNat (step.points.headD n + (n - step.first))
      match step.value with
      | 'V' => some [c]
      | 'I' => some []
      | 'T' => some (step.points.map Char.ofNat)
      | 'S' => some [shifted]
      | 'A' => some (if (n - step.first) % 2 = 0 then [shifted] else [c])
      | _ => none

/-- What a text becomes, none if it has a character that no name has. -/
def map? (text : Text) : Option Text := (text.mapM mapChar?).map List.flatten

end RuleGateway.Domain
