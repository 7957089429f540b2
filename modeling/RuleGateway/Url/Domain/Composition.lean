import RuleGateway.Text.Property

/-!
# Composed characters

A letter with a mark can often be written in two ways, as one character or as
the letter followed by the mark, and marks that do not touch can stand in any
order. A name has one form: everything is taken apart, the marks behind a letter
are sorted by class, and what belongs together is put together again. Korean
syllables are composed by arithmetic, all else by tables of the characters that
names may have.
-/

namespace RuleGateway.Domain

/-- The classes of marks: `C` with the class, by which marks behind a letter are
sorted, and `S` for characters that are no such marks. -/
def markClasses : Property := .ofText "
  300Ce6 315Ce8 316Cdc 31aCe8 31bCd8 31cCdc 321Cca 323Cdc 327Cca 329Cdc 334C1 339Cdc 33dCe6 347Cdc
  34aCe6 34dCdc 350Ce6 353Cdc 357Ce6 358Ce8 359Cdc 35bCe6 35cCe9 35dCea 35fCe9 360Cea 362Ce9
  363Ce6 371S 483Ce6 488S 591Cdc 592Ce6 596Cdc 597Ce6 59aCde 59bCdc 59cCe6 5a2Cdc 5a8Ce6 5aaCdc
  5abCe6 5adCde 5aeCe4 5afCe6 5b0Ca 5b1Cb 5b2Cc 5b3Cd 5b4Ce 5b5Cf 5b6C10 5b7C11 5b8C12 5b9C13
  5bbC14 5bcC15 5bdC16 5beS 5bfC17 5c0S 5c1C18 5c2C19 5c3S 5c4Ce6 5c5Cdc 5c6S 5c7C12 5d0S 610Ce6
  618C1e 619C1f 61aC20 61bS 64bC1b 64cC1c 64dC1d 64eC1e 64fC1f 650C20 651C21 652C22 653Ce6 655Cdc
  657Ce6 65cCdc 65dCe6 65fCdc 660S 670C23 671S 6d6Ce6 6deS 6dfCe6 6e3Cdc 6e4Ce6 6e5S 6e7Ce6 6e9S
  6eaCdc 6ebCe6 6edCdc 6eeS 711C24 712S 730Ce6 731Cdc 732Ce6 734Cdc 735Ce6 737Cdc 73aCe6 73bCdc
  73dCe6 73eCdc 73fCe6 742Cdc 743Ce6 744Cdc 745Ce6 746Cdc 747Ce6 748Cdc 749Ce6 74dS 7ebCe6 7f2Cdc
  7f3Ce6 7f4S 7fdCdc 7feS 816Ce6 81aS 81bCe6 824S 825Ce6 828S 829Ce6 830S 859Cdc 85eS 897Ce6
  899Cdc 89cCe6 8a0S 8caCe6 8cfCdc 8d4Ce6 8e3Cdc 8e4Ce6 8e6Cdc 8e7Ce6 8e9Cdc 8eaCe6 8edCdc 8f0C1b
  8f1C1c 8f2C1d 8f3Ce6 8f6Cdc 8f7Ce6 8f9Cdc 8fbCe6 900S 93cC7 93dS 94dC9 94eS 951Ce6 952Cdc 953Ce6
  955S 9bcC7 9bdS 9cdC9 9ceS 9feCe6 a01S a3cC7 a3eS a4dC9 a51S abcC7 abdS acdC9 ad0S b3cC7 b3dS
  b4dC9 b55S bcdC9 bd0S c3cC7 c3dS c4dC9 c55C54 c56C5b c58S cbcC7 cbdS ccdC9 cd5S d3bC9 d3dS d4dC9
  d4eS dcaC9 dcfS e38C67 e3aC9 e3fS e48C6b e4cS eb8C76 ebaC9 ebbS ec8C7a eccS f18Cdc f1aS f35Cdc
  f36S f37Cdc f38S f39Cd8 f3aS f71C81 f72C82 f74C84 f7aC82 f7eS f80C82 f82Ce6 f84C9 f85S f86Ce6
  f88S fc6Cdc fc7S 1037C7 1038S 1039C9 103bS 108dCdc 108eS 135dCe6 1360S 1714C9 171fS 1734C9 1735S
  17d2C9 17d3S 17ddCe6 17e0S 18a9Ce4 18aaS 1939Cde 193aCe6 193bCdc 1940S 1a17Ce6 1a18Cdc 1a19S
  1a60C9 1a61S 1a75Ce6 1a7fCdc 1a80S 1ab0Ce6 1ab5Cdc 1abbCe6 1abdCdc 1abeS 1abfCdc 1ac1Ce6 1ac3Cdc
  1ac5Ce6 1acaCdc 1acbCe6 1addCdc 1ae0Ce6 1ae6Cdc 1ae7Ce6 1aebCea 1b00S 1b34C7 1b35S 1b44C9 1b45S
  1b6bCe6 1b6cCdc 1b6dCe6 1b74S 1baaC9 1bacS 1be6C7 1be7S 1bf2C9 1bfcS 1c37C7 1c3bS 1cd0Ce6 1cd3S
  1cd4C1 1cd5Cdc 1cdaCe6 1cdcCdc 1ce0Ce6 1ce1S 1ce2C1 1ce9S 1cedCdc 1ceeS 1cf4Ce6 1cf5S 1cf8Ce6
  1cfaS 1dc0Ce6 1dc2Cdc 1dc3Ce6 1dcaCdc 1dcbCe6 1dcdCea 1dceCd6 1dcfCdc 1dd0Cca 1dd1Ce6 1df6Ce8
  1df7Ce4 1df9Cdc 1dfaCda 1dfbCe6 1dfcCe9 1dfdCdc 1dfeCe6 1dffCdc 1e01S 20d0Ce6 20d2C1 20d4Ce6
  20d8C1 20dbCe6 20ddS 20e1Ce6 20e2S 20e5C1 20e7Ce6 20e8Cdc 20e9Ce6 20eaC1 20ecCdc 20f0Ce6 2104S
  2cefCe6 2cf3S 2d7fC9 2d80S 2de0Ce6 2e00S 302aCda 302bCe4 302cCe8 302dCde 302eCe0 3030S 3099C8
  309dS a66fCe6 a670S a674Ce6 a67eS a69eCe6 a6a0S a6f0Ce6 a6f2S a806C9 a807S a82cC9 a830S a8c4C9
  a8c5S a8e0Ce6 a8f2S a92bCdc a92eS a953C9 a95fS a9b3C7 a9b4S a9c0C9 a9c1S aab0Ce6 aab1S aab2Ce6
  aab4Cdc aab5S aab7Ce6 aab9S aabeCe6 aac0S aac1Ce6 aac2S aaf6C9 ab01S abedC9 abf0S fb1eC1a fbb2S
  fe20Ce6 fe27Cdc fe2eCe6 fe45S 101fdCdc 10280S 102e0Cdc 102e1S 10376Ce6 10380S 10a0dCdc 10a0eS
  10a0fCe6 10a10S 10a38Ce6 10a39C1 10a3aCdc 10a3fC9 10a40S 10ae5Ce6 10ae6Cdc 10aebS 10d24Ce6
  10d30S 10d69Ce6 10d6eS 10eabCe6 10eadS 10efaCdc 10efcS 10efdCdc 10f00S 10f46Cdc 10f48Ce6
  10f4bCdc 10f4cCe6 10f4dCdc 10f51S 10f82Ce6 10f83Cdc 10f84Ce6 10f85Cdc 10f86S 11046C9 11047S
  11070C9 11071S 1107fC9 11080S 110b9C9 110baC7 110bbS 11100Ce6 11103S 11133C9 11136S 11173C7
  11174S 111c0C9 111c1S 111caC7 111cbS 11235C9 11236C7 11237S 112e9C7 112eaC9 112f0S 1133bC7
  1133dS 1134dC9 11350S 11366Ce6 11380S 113ceC9 113d1S 11442C9 11443S 11446C7 11447S 1145eCe6
  1145fS 114c2C9 114c3C7 114c4S 115bfC9 115c0C7 115c1S 1163fC9 11640S 116b6C9 116b7C7 116b8S
  1172bC9 11730S 11839C9 1183aC7 1183bS 1193dC9 1193fS 11943C7 11944S 119e0C9 119e1S 11a34C9
  11a35S 11a47C9 11a50S 11a99C9 11a9aS 11c3fC9 11c40S 11d42C7 11d43S 11d44C9 11d46S 11d97C9 11d98S
  11f41C9 11f43S 1612fC9 16130S 16af0C1 16af5S 16b30Ce6 16b37S 16ff0C6 16ff2S 1bc9eC1 1bc9fS
  1d165Cd8 1d167C1 1d16aS 1d16dCe2 1d16eCd8 1d17bCdc 1d183S 1d185Ce6 1d18aCdc 1d18cS 1d1aaCe6
  1d1aeS 1d242Ce6 1d245S 1e000Ce6 1e100S 1e130Ce6 1e137S 1e2aeCe6 1e2c0S 1e2ecCe6 1e2f0S 1e4ecCe8
  1e4eeCdc 1e4efCe6 1e4f0S 1e5eeCe6 1e5efCdc 1e5f0S 1e6e3Ce6 1e6e4S 1e6e6Ce6 1e6e7S 1e6eeCe6
  1e6f0S 1e6f5Ce6 1e6feS 1e8d0Cdc 1e922S 1e944Ce6 1e94aC7 1e94bS"

/-- Each character that is composed of two others, with these. -/
def pairs : Property := .ofText "
  e0P61,300 e1P61,301 e2P61,302 e3P61,303 e4P61,308 e5P61,30a e7P63,327 e8P65,300 e9P65,301
  eaP65,302 ebP65,308 ecP69,300 edP69,301 eeP69,302 efP69,308 f1P6e,303 f2P6f,300 f3P6f,301
  f4P6f,302 f5P6f,303 f6P6f,308 f9P75,300 faP75,301 fbP75,302 fcP75,308 fdP79,301 ffP79,308
  101P61,304 103P61,306 105P61,328 107P63,301 109P63,302 10bP63,307 10dP63,30c 10fP64,30c
  113P65,304 115P65,306 117P65,307 119P65,328 11bP65,30c 11dP67,302 11fP67,306 121P67,307
  123P67,327 125P68,302 129P69,303 12bP69,304 12dP69,306 12fP69,328 135P6a,302 137P6b,327
  13aP6c,301 13cP6c,327 13eP6c,30c 144P6e,301 146P6e,327 148P6e,30c 14dP6f,304 14fP6f,306
  151P6f,30b 155P72,301 157P72,327 159P72,30c 15bP73,301 15dP73,302 15fP73,327 161P73,30c
  163P74,327 165P74,30c 169P75,303 16bP75,304 16dP75,306 16fP75,30a 171P75,30b 173P75,328
  175P77,302 177P79,302 17aP7a,301 17cP7a,307 17eP7a,30c 1a1P6f,31b 1b0P75,31b 1ceP61,30c
  1d0P69,30c 1d2P6f,30c 1d4P75,30c 1d6Pfc,304 1d8Pfc,301 1daPfc,30c 1dcPfc,300 1dfPe4,304
  1e1P227,304 1e3Pe6,304 1e7P67,30c 1e9P6b,30c 1ebP6f,328 1edP1eb,304 1efP292,30c 1f0P6a,30c
  1f5P67,301 1f9P6e,300 1fbPe5,301 1fdPe6,301 1ffPf8,301 201P61,30f 203P61,311 205P65,30f
  207P65,311 209P69,30f 20bP69,311 20dP6f,30f 20fP6f,311 211P72,30f 213P72,311 215P75,30f
  217P75,311 219P73,326 21bP74,326 21fP68,30c 227P61,307 229P65,327 22bPf6,304 22dPf5,304
  22fP6f,307 231P22f,304 233P79,304 390P3ca,301 3acP3b1,301 3adP3b5,301 3aeP3b7,301 3afP3b9,301
  3b0P3cb,301 3caP3b9,308 3cbP3c5,308 3ccP3bf,301 3cdP3c5,301 3ceP3c9,301 439P438,306 450P435,300
  451P435,308 453P433,301 457P456,308 45cP43a,301 45dP438,300 45eP443,306 477P475,30f 4c2P436,306
  4d1P430,306 4d3P430,308 4d7P435,306 4dbP4d9,308 4ddP436,308 4dfP437,308 4e3P438,304 4e5P438,308
  4e7P43e,308 4ebP4e9,308 4edP44d,308 4efP443,304 4f1P443,308 4f3P443,30b 4f5P447,308 4f9P44b,308
  622P627,653 623P627,654 624P648,654 625P627,655 626P64a,654 6c0P6d5,654 6c2P6c1,654 6d3P6d2,654
  929P928,93c 931P930,93c 934P933,93c 9cbP9c7,9be 9ccP9c7,9d7 b48Pb47,b56 b4bPb47,b3e b4cPb47,b57
  b94Pb92,bd7 bcaPbc6,bbe bcbPbc7,bbe bccPbc6,bd7 c48Pc46,c56 cc0Pcbf,cd5 cc7Pcc6,cd5 cc8Pcc6,cd6
  ccaPcc6,cc2 ccbPcca,cd5 d4aPd46,d3e d4bPd47,d3e d4cPd46,d57 ddaPdd9,dca ddcPdd9,dcf dddPddc,dca
  ddePdd9,ddf 1026P1025,102e 1b06P1b05,1b35 1b08P1b07,1b35 1b0aP1b09,1b35 1b0cP1b0b,1b35
  1b0eP1b0d,1b35 1b12P1b11,1b35 1b3bP1b3a,1b35 1b3dP1b3c,1b35 1b40P1b3e,1b35 1b41P1b3f,1b35
  1b43P1b42,1b35 1e01P61,325 1e03P62,307 1e05P62,323 1e07P62,331 1e09Pe7,301 1e0bP64,307
  1e0dP64,323 1e0fP64,331 1e11P64,327 1e13P64,32d 1e15P113,300 1e17P113,301 1e19P65,32d
  1e1bP65,330 1e1dP229,306 1e1fP66,307 1e21P67,304 1e23P68,307 1e25P68,323 1e27P68,308 1e29P68,327
  1e2bP68,32e 1e2dP69,330 1e2fPef,301 1e31P6b,301 1e33P6b,323 1e35P6b,331 1e37P6c,323
  1e39P1e37,304 1e3bP6c,331 1e3dP6c,32d 1e3fP6d,301 1e41P6d,307 1e43P6d,323 1e45P6e,307
  1e47P6e,323 1e49P6e,331 1e4bP6e,32d 1e4dPf5,301 1e4fPf5,308 1e51P14d,300 1e53P14d,301
  1e55P70,301 1e57P70,307 1e59P72,307 1e5bP72,323 1e5dP1e5b,304 1e5fP72,331 1e61P73,307
  1e63P73,323 1e65P15b,307 1e67P161,307 1e69P1e63,307 1e6bP74,307 1e6dP74,323 1e6fP74,331
  1e71P74,32d 1e73P75,324 1e75P75,330 1e77P75,32d 1e79P169,301 1e7bP16b,308 1e7dP76,303
  1e7fP76,323 1e81P77,300 1e83P77,301 1e85P77,308 1e87P77,307 1e89P77,323 1e8bP78,307 1e8dP78,308
  1e8fP79,307 1e91P7a,302 1e93P7a,323 1e95P7a,331 1e96P68,331 1e97P74,308 1e98P77,30a 1e99P79,30a
  1ea1P61,323 1ea3P61,309 1ea5Pe2,301 1ea7Pe2,300 1ea9Pe2,309 1eabPe2,303 1eadP1ea1,302
  1eafP103,301 1eb1P103,300 1eb3P103,309 1eb5P103,303 1eb7P1ea1,306 1eb9P65,323 1ebbP65,309
  1ebdP65,303 1ebfPea,301 1ec1Pea,300 1ec3Pea,309 1ec5Pea,303 1ec7P1eb9,302 1ec9P69,309
  1ecbP69,323 1ecdP6f,323 1ecfP6f,309 1ed1Pf4,301 1ed3Pf4,300 1ed5Pf4,309 1ed7Pf4,303
  1ed9P1ecd,302 1edbP1a1,301 1eddP1a1,300 1edfP1a1,309 1ee1P1a1,303 1ee3P1a1,323 1ee5P75,323
  1ee7P75,309 1ee9P1b0,301 1eebP1b0,300 1eedP1b0,309 1eefP1b0,303 1ef1P1b0,323 1ef3P79,300
  1ef5P79,323 1ef7P79,309 1ef9P79,303 1f00P3b1,313 1f01P3b1,314 1f02P1f00,300 1f03P1f01,300
  1f04P1f00,301 1f05P1f01,301 1f06P1f00,342 1f07P1f01,342 1f10P3b5,313 1f11P3b5,314 1f12P1f10,300
  1f13P1f11,300 1f14P1f10,301 1f15P1f11,301 1f20P3b7,313 1f21P3b7,314 1f22P1f20,300 1f23P1f21,300
  1f24P1f20,301 1f25P1f21,301 1f26P1f20,342 1f27P1f21,342 1f30P3b9,313 1f31P3b9,314 1f32P1f30,300
  1f33P1f31,300 1f34P1f30,301 1f35P1f31,301 1f36P1f30,342 1f37P1f31,342 1f40P3bf,313 1f41P3bf,314
  1f42P1f40,300 1f43P1f41,300 1f44P1f40,301 1f45P1f41,301 1f50P3c5,313 1f51P3c5,314 1f52P1f50,300
  1f53P1f51,300 1f54P1f50,301 1f55P1f51,301 1f56P1f50,342 1f57P1f51,342 1f60P3c9,313 1f61P3c9,314
  1f62P1f60,300 1f63P1f61,300 1f64P1f60,301 1f65P1f61,301 1f66P1f60,342 1f67P1f61,342 1f70P3b1,300
  1f72P3b5,300 1f74P3b7,300 1f76P3b9,300 1f78P3bf,300 1f7aP3c5,300 1f7cP3c9,300 1fb0P3b1,306
  1fb1P3b1,304 1fb6P3b1,342 1fc6P3b7,342 1fd0P3b9,306 1fd1P3b9,304 1fd2P3ca,300 1fd6P3b9,342
  1fd7P3ca,342 1fe0P3c5,306 1fe1P3c5,304 1fe2P3cb,300 1fe4P3c1,313 1fe5P3c1,314 1fe6P3c5,342
  1fe7P3cb,342 1ff6P3c9,342 219aP2190,338 219bP2192,338 21aeP2194,338 21cdP21d0,338 21ceP21d4,338
  21cfP21d2,338 2204P2203,338 2209P2208,338 220cP220b,338 2224P2223,338 2226P2225,338
  2241P223c,338 2244P2243,338 2247P2245,338 2249P2248,338 2260P3d,338 2262P2261,338 226dP224d,338
  226eP3c,338 226fP3e,338 2270P2264,338 2271P2265,338 2274P2272,338 2275P2273,338 2278P2276,338
  2279P2277,338 2280P227a,338 2281P227b,338 2284P2282,338 2285P2283,338 2288P2286,338
  2289P2287,338 22acP22a2,338 22adP22a8,338 22aeP22a9,338 22afP22ab,338 22e0P227c,338
  22e1P227d,338 22e2P2291,338 22e3P2292,338 22eaP22b2,338 22ebP22b3,338 22ecP22b4,338
  22edP22b5,338 304cP304b,3099 304eP304d,3099 3050P304f,3099 3052P3051,3099 3054P3053,3099
  3056P3055,3099 3058P3057,3099 305aP3059,3099 305cP305b,3099 305eP305d,3099 3060P305f,3099
  3062P3061,3099 3065P3064,3099 3067P3066,3099 3069P3068,3099 3070P306f,3099 3071P306f,309a
  3073P3072,3099 3074P3072,309a 3076P3075,3099 3077P3075,309a 3079P3078,3099 307aP3078,309a
  307cP307b,3099 307dP307b,309a 3094P3046,3099 309eP309d,3099 30acP30ab,3099 30aeP30ad,3099
  30b0P30af,3099 30b2P30b1,3099 30b4P30b3,3099 30b6P30b5,3099 30b8P30b7,3099 30baP30b9,3099
  30bcP30bb,3099 30beP30bd,3099 30c0P30bf,3099 30c2P30c1,3099 30c5P30c4,3099 30c7P30c6,3099
  30c9P30c8,3099 30d0P30cf,3099 30d1P30cf,309a 30d3P30d2,3099 30d4P30d2,309a 30d6P30d5,3099
  30d7P30d5,309a 30d9P30d8,3099 30daP30d8,309a 30dcP30db,3099 30ddP30db,309a 30f4P30a6,3099
  30f7P30ef,3099 30f8P30f0,3099 30f9P30f1,3099 30faP30f2,3099 30feP30fd,3099 105c9P105d2,307
  105e4P105da,307 1109aP11099,110ba 1109cP1109b,110ba 110abP110a5,110ba 1112eP11131,11127
  1112fP11132,11127 1134bP11347,1133e 1134cP11347,11357 11383P11382,113c9 11385P11384,113bb
  1138eP1138b,113c2 11391P11390,113c9 113c5P113c2,113c2 113c7P113c2,113b8 113c8P113c2,113c9
  114bbP114b9,114ba 114bcP114b9,114b0 114beP114b9,114bd 115baP115b8,115af 115bbP115b9,115af
  11938P11935,11930 16121P1611e,1611e 16122P1611e,16129 16123P1611e,1611f 16124P16129,1611f
  16125P1611e,16120 16126P16121,1611f 16127P16122,1611f 16128P16121,16120 16d68P16d67,16d67
  16d69P16d63,16d67 16d6aP16d69,16d67"

/-- The class of a character, zero if it is no mark that is sorted. -/
def markClass (c : Char) : Nat :=
  match markClasses.step? c.toNat with
  | some step => if step.value = 'C' then step.points.headD 0 else 0
  | none => 0

section Syllables

/-- The first syllable, and the first leading consonant, vowel and trailing
consonant; one place before the first trailing consonant stands for none. -/
def syllableBase : Nat := 0xAC00
def leadBase : Nat := 0x1100
def vowelBase : Nat := 0x1161
def trailBase : Nat := 0x11A7

/-- How many vowels and trails there are, and how many syllables in all. -/
def vowelCount : Nat := 21
def trailCount : Nat := 28
def syllableCount : Nat := 19 * vowelCount * trailCount

/-- The parts of a syllable. -/
def syllableParts? (n : Nat) : Option (List Nat) :=
  if syllableBase ≤ n ∧ n < syllableBase + syllableCount then
    let k := n - syllableBase
    let lead := leadBase + k / (vowelCount * trailCount)
    let vowel := vowelBase + k / trailCount % vowelCount
    some ([lead, vowel] ++ if k % trailCount = 0 then [] else [trailBase + k % trailCount])
  else none

/-- The syllable of a lead and a vowel, or of a syllable without trail and a
trail. -/
def syllable? (a b : Nat) : Option Nat :=
  if leadBase ≤ a ∧ a < leadBase + 19 ∧ vowelBase ≤ b ∧ b < vowelBase + vowelCount then
    some (syllableBase + ((a - leadBase) * vowelCount + (b - vowelBase)) * trailCount)
  else if syllableBase ≤ a ∧ a < syllableBase + syllableCount ∧
      (a - syllableBase) % trailCount = 0 ∧ trailBase < b ∧ b < trailBase + trailCount then
    some (a + (b - trailBase))
  else none

end Syllables

/-- The two characters that a character is composed of. -/
def pair? (n : Nat) : Option (List Nat) :=
  ((pairs.step? n).filter (·.first == n)).map (·.points)

/-- A character taken apart. The first argument bounds how often: no character
is composed more than three times. -/
def takeApart : Nat → Nat → List Nat
  | 0, n => [n]
  | times + 1, n =>
    match (syllableParts? n).or (pair? n) with
    | some parts => parts.flatMap (takeApart times)
    | none => [n]

/-- The character that two characters compose. -/
def compose? (a b : Char) : Option Char :=
  ((syllable? a.toNat b.toNat).or
    ((pairs.find? (·.points == [a.toNat, b.toNat])).map (·.first))).map Char.ofNat

/-- A character before the first one of a list that is not of a lower class, as
far as marks reach. -/
def insertMark (c : Char) : Text → Text
  | [] => [c]
  | d :: rest =>
    if markClass d ≠ 0 ∧ markClass d < markClass c then d :: insertMark c rest
    else c :: d :: rest

/-- The text with the marks behind each letter sorted by class. Marks of one
class keep their order. -/
def sortMarks (text : Text) : Text :=
  text.foldr (fun c sorted => if markClass c = 0 then c :: sorted else insertMark c sorted) []

/-- The composer between characters: what is done, the letter that the next mark
may be put on, and the marks behind it that could not be; the texts have their
last character first. -/
structure Composer where
  done : Text := []
  letter : Option Char := none
  marks : Text := []

namespace Composer

/-- All that was composed, last character first. -/
def reversed (composer : Composer) : Text :=
  composer.marks ++ composer.letter.toList ++ composer.done

/-- The letter that a character can be put on. A mark of the same class or a
higher one in between is in the way. -/
def base? (composer : Composer) (c : Char) : Option Char :=
  match composer.marks with
  | [] => composer.letter
  | mark :: _ => if markClass mark < markClass c then composer.letter else none

/-- One more character. -/
def step (composer : Composer) (c : Char) : Composer :=
  match (composer.base? c).bind (compose? · c) with
  | some composed => { composer with letter := some composed }
  | none =>
    if markClass c = 0 then { done := composer.reversed, letter := some c }
    else { composer with marks := c :: composer.marks }

end Composer

/-- The composed form of a text. -/
def compose (text : Text) : Text :=
  let apart := (text.flatMap fun c => takeApart 4 c.toNat).map Char.ofNat
  ((sortMarks apart).foldl Composer.step {}).reversed.reverse

end RuleGateway.Domain
