import RuleGateway.Text.Property

/-!
# Quoted texts

A text in double quotes for a log. Whatever would not be seen as it is, a quote
or a character that leaves no mark of its own, is written as an escape.
-/

namespace RuleGateway.Text

/-- Where characters leave no mark of their own (`H`) and where they do (`S`),
from the end of ASCII on. Controls, format characters, separators, code points
without a character and marks that extend the letter before them leave none. -/
def sight : Property := .ofText "
  7fH a1S adH aeS 300H 370S 378H 37aS 380H 384S 38bH 38cS 38dH 38eS 3a2H 3a3S 483H 48aS 530H 531S
  557H 559S 58bH 58dS 590H 5beS 5bfH 5c0S 5c1H 5c3S 5c4H 5c6S 5c7H 5d0S 5ebH 5efS 5f5H 606S 610H
  61bS 61cH 61dS 64bH 660S 670H 671S 6d6H 6deS 6dfH 6e5S 6e7H 6e9S 6eaH 6eeS 70eH 710S 711H 712S
  730H 74dS 7a6H 7b1S 7b2H 7c0S 7ebH 7f4S 7fbH 7feS 816H 81aS 81bH 824S 825H 828S 829H 830S 83fH
  840S 859H 85eS 85fH 860S 86bH 870S 890H 8a0S 8caH 903S 93aH 93bS 93cH 93dS 941H 949S 94dH 94eS
  951H 958S 962H 964S 981H 982S 984H 985S 98dH 98fS 991H 993S 9a9H 9aaS 9b1H 9b2S 9b3H 9b6S 9baH
  9bdS 9beH 9bfS 9c1H 9c7S 9c9H 9cbS 9cdH 9ceS 9cfH 9dcS 9deH 9dfS 9e2H 9e6S 9feH a03S a04H a05S
  a0bH a0fS a11H a13S a29H a2aS a31H a32S a34H a35S a37H a38S a3aH a3eS a41H a59S a5dH a5eS a5fH
  a66S a70H a72S a75H a76S a77H a83S a84H a85S a8eH a8fS a92H a93S aa9H aaaS ab1H ab2S ab4H ab5S
  abaH abdS ac1H ac9S acaH acbS acdH ad0S ad1H ae0S ae2H ae6S af2H af9S afaH b02S b04H b05S b0dH
  b0fS b11H b13S b29H b2aS b31H b32S b34H b35S b3aH b3dS b3eH b40S b41H b47S b49H b4bS b4dH b5cS
  b5eH b5fS b62H b66S b78H b83S b84H b85S b8bH b8eS b91H b92S b96H b99S b9bH b9cS b9dH b9eS ba0H
  ba3S ba5H ba8S babH baeS bbaH bbfS bc0H bc1S bc3H bc6S bc9H bcaS bcdH bd0S bd1H be6S bfbH c01S
  c04H c05S c0dH c0eS c11H c12S c29H c2aS c3aH c3dS c3eH c41S c45H c58S c5bH c5cS c5eH c60S c62H
  c66S c70H c77S c81H c82S c8dH c8eS c91H c92S ca9H caaS cb4H cb5S cbaH cbdS cbfH cc1S cc2H cc3S
  cc5H cdcS cdfH ce0S ce2H ce6S cf0H cf1S cf4H d02S d0dH d0eS d11H d12S d3bH d3dS d3eH d3fS d41H
  d46S d49H d4aS d4dH d4eS d50H d54S d57H d58S d62H d66S d80H d82S d84H d85S d97H d9aS db2H db3S
  dbcH dbdS dbeH dc0S dc7H dd0S dd2H dd8S ddfH de6S df0H df2S df5H e01S e31H e32S e34H e3fS e47H
  e4fS e5cH e81S e83H e84S e85H e86S e8bH e8cS ea4H ea5S ea6H ea7S eb1H eb2S eb4H ebdS ebeH ec0S
  ec5H ec6S ec7H ed0S edaH edcS ee0H f00S f18H f1aS f35H f36S f37H f38S f39H f3aS f48H f49S f6dH
  f7fS f80H f85S f86H f88S f8dH fbeS fc6H fc7S fcdH fceS fdbH 1000S 102dH 1031S 1032H 1038S 1039H
  103bS 103dH 103fS 1058H 105aS 105eH 1061S 1071H 1075S 1082H 1083S 1085H 1087S 108dH 108eS 109dH
  109eS 10c6H 10c7S 10c8H 10cdS 10ceH 10d0S 1249H 124aS 124eH 1250S 1257H 1258S 1259H 125aS 125eH
  1260S 1289H 128aS 128eH 1290S 12b1H 12b2S 12b6H 12b8S 12bfH 12c0S 12c1H 12c2S 12c6H 12c8S 12d7H
  12d8S 1311H 1312S 1316H 1318S 135bH 1360S 137dH 1380S 139aH 13a0S 13f6H 13f8S 13feH 1400S 1680H
  1681S 169dH 16a0S 16f9H 1700S 1712H 171fS 1732H 1735S 1737H 1740S 1752H 1760S 176dH 176eS 1771H
  1780S 17b4H 17b6S 17b7H 17beS 17c6H 17c7S 17c9H 17d4S 17ddH 17e0S 17eaH 17f0S 17faH 1800S 180bH
  1810S 181aH 1820S 1879H 1880S 1885H 1887S 18a9H 18aaS 18abH 18b0S 18f6H 1900S 191fH 1923S 1927H
  1929S 192cH 1930S 1932H 1933S 1939H 1940S 1941H 1944S 196eH 1970S 1975H 1980S 19acH 19b0S 19caH
  19d0S 19dbH 19deS 1a17H 1a19S 1a1bH 1a1eS 1a56H 1a57S 1a58H 1a61S 1a62H 1a63S 1a65H 1a6dS 1a73H
  1a80S 1a8aH 1a90S 1a9aH 1aa0S 1aaeH 1b04S 1b34H 1b3eS 1b42H 1b45S 1b4dH 1b4eS 1b6bH 1b74S 1b80H
  1b82S 1ba2H 1ba6S 1ba8H 1baeS 1be6H 1be7S 1be8H 1beaS 1bedH 1beeS 1befH 1bfcS 1c2cH 1c34S 1c36H
  1c3bS 1c4aH 1c4dS 1c8bH 1c90S 1cbbH 1cbdS 1cc8H 1cd3S 1cd4H 1ce1S 1ce2H 1ce9S 1cedH 1ceeS 1cf4H
  1cf5S 1cf8H 1cfaS 1cfbH 1d00S 1dc0H 1e00S 1f16H 1f18S 1f1eH 1f20S 1f46H 1f48S 1f4eH 1f50S 1f58H
  1f59S 1f5aH 1f5bS 1f5cH 1f5dS 1f5eH 1f5fS 1f7eH 1f80S 1fb5H 1fb6S 1fc5H 1fc6S 1fd4H 1fd6S 1fdcH
  1fddS 1ff0H 1ff2S 1ff5H 1ff6S 1fffH 2010S 2028H 2030S 205fH 2070S 2072H 2074S 208fH 2090S 209dH
  20a0S 20c2H 2100S 218cH 2190S 242aH 2440S 244bH 2460S 2b74H 2b76S 2cefH 2cf2S 2cf4H 2cf9S 2d26H
  2d27S 2d28H 2d2dS 2d2eH 2d30S 2d68H 2d6fS 2d71H 2d80S 2d97H 2da0S 2da7H 2da8S 2dafH 2db0S 2db7H
  2db8S 2dbfH 2dc0S 2dc7H 2dc8S 2dcfH 2dd0S 2dd7H 2dd8S 2ddfH 2e00S 2e5eH 2e80S 2e9aH 2e9bS 2ef4H
  2f00S 2fd6H 2ff0S 3000H 3001S 302aH 3030S 3040H 3041S 3097H 309bS 3100H 3105S 3130H 3131S 318fH
  3190S 31e6H 31efS 321fH 3220S a48dH a490S a4c7H a4d0S a62cH a640S a66fH a673S a674H a67eS a69eH
  a6a0S a6f0H a6f2S a6f8H a700S a7ddH a7f1S a802H a803S a806H a807S a80bH a80cS a825H a827S a82cH
  a830S a83aH a840S a878H a880S a8c4H a8ceS a8daH a8f2S a8ffH a900S a926H a92eS a947H a952S a953H
  a95fS a97dH a983S a9b3H a9b4S a9b6H a9baS a9bcH a9beS a9c0H a9c1S a9ceH a9cfS a9daH a9deS a9e5H
  a9e6S a9ffH aa00S aa29H aa2fS aa31H aa33S aa35H aa40S aa43H aa44S aa4cH aa4dS aa4eH aa50S aa5aH
  aa5cS aa7cH aa7dS aab0H aab1S aab2H aab5S aab7H aab9S aabeH aac0S aac1H aac2S aac3H aadbS aaecH
  aaeeS aaf6H ab01S ab07H ab09S ab0fH ab11S ab17H ab20S ab27H ab28S ab2fH ab30S ab6cH ab70S abe5H
  abe6S abe8H abe9S abedH abf0S abfaH ac00S d7a4H d7b0S d7c7H d7cbS d7fcH f900S fa6eH fa70S fadaH
  fb00S fb07H fb13S fb18H fb1dS fb1eH fb1fS fb37H fb38S fb3dH fb3eS fb3fH fb40S fb42H fb43S fb45H
  fb46S fdd0H fdf0S fe00H fe10S fe1aH fe30S fe53H fe54S fe67H fe68S fe6cH fe70S fe75H fe76S fefdH
  ff01S ff9eH ffa0S ffbfH ffc2S ffc8H ffcaS ffd0H ffd2S ffd8H ffdaS ffddH ffe0S ffe7H ffe8S ffefH
  fffcS fffeH 10000S 1000cH 1000dS 10027H 10028S 1003bH 1003cS 1003eH 1003fS 1004eH 10050S 1005eH
  10080S 100fbH 10100S 10103H 10107S 10134H 10137S 1018fH 10190S 1019dH 101a0S 101a1H 101d0S
  101fdH 10280S 1029dH 102a0S 102d1H 102e1S 102fcH 10300S 10324H 1032dS 1034bH 10350S 10376H
  10380S 1039eH 1039fS 103c4H 103c8S 103d6H 10400S 1049eH 104a0S 104aaH 104b0S 104d4H 104d8S
  104fcH 10500S 10528H 10530S 10564H 1056fS 1057bH 1057cS 1058bH 1058cS 10593H 10594S 10596H
  10597S 105a2H 105a3S 105b2H 105b3S 105baH 105bbS 105bdH 105c0S 105f4H 10600S 10737H 10740S
  10756H 10760S 10768H 10780S 10786H 10787S 107b1H 107b2S 107bbH 10800S 10806H 10808S 10809H
  1080aS 10836H 10837S 10839H 1083cS 1083dH 1083fS 10856H 10857S 1089fH 108a7S 108b0H 108e0S
  108f3H 108f4S 108f6H 108fbS 1091cH 1091fS 1093aH 1093fS 1095aH 10980S 109b8H 109bcS 109d0H
  109d2S 10a01H 10a10S 10a14H 10a15S 10a18H 10a19S 10a36H 10a40S 10a49H 10a50S 10a59H 10a60S
  10aa0H 10ac0S 10ae5H 10aebS 10af7H 10b00S 10b36H 10b39S 10b56H 10b58S 10b73H 10b78S 10b92H
  10b99S 10b9dH 10ba9S 10bb0H 10c00S 10c49H 10c80S 10cb3H 10cc0S 10cf3H 10cfaS 10d24H 10d30S
  10d3aH 10d40S 10d66H 10d6eS 10d86H 10d8eS 10d90H 10e60S 10e7fH 10e80S 10eaaH 10eadS 10eaeH
  10eb0S 10eb2H 10ec2S 10ec8H 10ed0S 10ed9H 10f00S 10f28H 10f30S 10f46H 10f51S 10f5aH 10f70S
  10f82H 10f86S 10f8aH 10fb0S 10fccH 10fe0S 10ff7H 11000S 11001H 11002S 11038H 11047S 1104eH
  11052S 11070H 11071S 11073H 11075S 11076H 11082S 110b3H 110b7S 110b9H 110bbS 110bdH 110beS
  110c2H 110d0S 110e9H 110f0S 110faH 11103S 11127H 1112cS 1112dH 11136S 11148H 11150S 11173H
  11174S 11177H 11182S 111b6H 111bfS 111c0H 111c1S 111c9H 111cdS 111cfH 111d0S 111e0H 111e1S
  111f5H 11200S 11212H 11213S 1122fH 11232S 11234H 11238S 1123eH 1123fS 11241H 11280S 11287H
  11288S 11289H 1128aS 1128eH 1128fS 1129eH 1129fS 112aaH 112b0S 112dfH 112e0S 112e3H 112f0S
  112faH 11302S 11304H 11305S 1130dH 1130fS 11311H 11313S 11329H 1132aS 11331H 11332S 11334H
  11335S 1133aH 1133dS 1133eH 1133fS 11340H 11341S 11345H 11347S 11349H 1134bS 1134dH 11350S
  11351H 1135dS 11364H 11380S 1138aH 1138bS 1138cH 1138eS 1138fH 11390S 113b6H 113b7S 113b8H
  113b9S 113bbH 113caS 113cbH 113ccS 113ceH 113d1S 113d2H 113d3S 113d6H 113d7S 113d9H 11400S
  11438H 11440S 11442H 11445S 11446H 11447S 1145cH 1145dS 1145eH 1145fS 11462H 11480S 114b0H
  114b1S 114b3H 114b9S 114baH 114bbS 114bdH 114beS 114bfH 114c1S 114c2H 114c4S 114c8H 114d0S
  114daH 11580S 115afH 115b0S 115b2H 115b8S 115bcH 115beS 115bfH 115c1S 115dcH 11600S 11633H
  1163bS 1163dH 1163eS 1163fH 11641S 11645H 11650S 1165aH 11660S 1166dH 11680S 116abH 116acS
  116adH 116aeS 116b0H 116b8S 116baH 116c0S 116caH 116d0S 116e4H 11700S 1171bH 1171eS 1171fH
  11720S 11722H 11726S 11727H 11730S 11747H 11800S 1182fH 11838S 11839H 1183bS 1183cH 118a0S
  118f3H 118ffS 11907H 11909S 1190aH 1190cS 11914H 11915S 11917H 11918S 11930H 11931S 11936H
  11937S 11939H 1193fS 11943H 11944S 11947H 11950S 1195aH 119a0S 119a8H 119aaS 119d4H 119dcS
  119e0H 119e1S 119e5H 11a00S 11a01H 11a0bS 11a33H 11a39S 11a3bH 11a3fS 11a47H 11a50S 11a51H
  11a57S 11a59H 11a5cS 11a8aH 11a97S 11a98H 11a9aS 11aa3H 11ab0S 11af9H 11b00S 11b0aH 11b61S
  11b62H 11b65S 11b66H 11b67S 11b68H 11bc0S 11be2H 11bf0S 11bfaH 11c00S 11c09H 11c0aS 11c30H
  11c3eS 11c3fH 11c40S 11c46H 11c50S 11c6dH 11c70S 11c90H 11ca9S 11caaH 11cb1S 11cb2H 11cb4S
  11cb5H 11d00S 11d07H 11d08S 11d0aH 11d0bS 11d31H 11d46S 11d47H 11d50S 11d5aH 11d60S 11d66H
  11d67S 11d69H 11d6aS 11d8fH 11d93S 11d95H 11d96S 11d97H 11d98S 11d99H 11da0S 11daaH 11db0S
  11ddcH 11de0S 11deaH 11ee0S 11ef3H 11ef5S 11ef9H 11f02S 11f11H 11f12S 11f36H 11f3eS 11f40H
  11f43S 11f5aH 11fb0S 11fb1H 11fc0S 11ff2H 11fffS 1239aH 12400S 1246fH 12470S 12475H 12480S
  12544H 12f90S 12ff3H 13000S 13430H 13441S 13447H 13460S 143fbH 14400S 14647H 16100S 1611eH
  1612aS 1612dH 16130S 1613aH 16800S 16a39H 16a40S 16a5fH 16a60S 16a6aH 16a6eS 16abfH 16ac0S
  16acaH 16ad0S 16aeeH 16af5S 16af6H 16b00S 16b30H 16b37S 16b46H 16b50S 16b5aH 16b5bS 16b62H
  16b63S 16b78H 16b7dS 16b90H 16d40S 16d7aH 16e40S 16e9bH 16ea0S 16eb9H 16ebbS 16ed4H 16f00S
  16f4bH 16f50S 16f88H 16f93S 16fa0H 16fe0S 16fe4H 16ff2S 16ff7H 17000S 18cd6H 18cffS 18d1fH
  18d80S 18df3H 1aff0S 1aff4H 1aff5S 1affcH 1affdS 1afffH 1b000S 1b123H 1b132S 1b133H 1b150S
  1b153H 1b155S 1b156H 1b164S 1b168H 1b170S 1b2fcH 1bc00S 1bc6bH 1bc70S 1bc7dH 1bc80S 1bc89H
  1bc90S 1bc9aH 1bc9cS 1bc9dH 1bc9fS 1bca0H 1cc00S 1ccfdH 1cd00S 1ceb4H 1cebaS 1ced1H 1cee0S
  1cef1H 1cf50S 1cfc4H 1d000S 1d0f6H 1d100S 1d127H 1d129S 1d165H 1d16aS 1d16dH 1d183S 1d185H
  1d18cS 1d1aaH 1d1aeS 1d1ebH 1d200S 1d242H 1d245S 1d246H 1d2c0S 1d2d4H 1d2e0S 1d2f4H 1d300S
  1d357H 1d360S 1d379H 1d400S 1d455H 1d456S 1d49dH 1d49eS 1d4a0H 1d4a2S 1d4a3H 1d4a5S 1d4a7H
  1d4a9S 1d4adH 1d4aeS 1d4baH 1d4bbS 1d4bcH 1d4bdS 1d4c4H 1d4c5S 1d506H 1d507S 1d50bH 1d50dS
  1d515H 1d516S 1d51dH 1d51eS 1d53aH 1d53bS 1d53fH 1d540S 1d545H 1d546S 1d547H 1d54aS 1d551H
  1d552S 1d6a6H 1d6a8S 1d7ccH 1d7ceS 1da00H 1da37S 1da3bH 1da6dS 1da75H 1da76S 1da84H 1da85S
  1da8cH 1df00S 1df1fH 1df25S 1df2bH 1e030S 1e06eH 1e100S 1e12dH 1e137S 1e13eH 1e140S 1e14aH
  1e14eS 1e150H 1e290S 1e2aeH 1e2c0S 1e2ecH 1e2f0S 1e2faH 1e2ffS 1e300H 1e4d0S 1e4ecH 1e4f0S
  1e4faH 1e5d0S 1e5eeH 1e5f0S 1e5fbH 1e5ffS 1e600H 1e6c0S 1e6dfH 1e6e0S 1e6e3H 1e6e4S 1e6e6H
  1e6e7S 1e6eeH 1e6f0S 1e6f5H 1e6feS 1e700H 1e7e0S 1e7e7H 1e7e8S 1e7ecH 1e7edS 1e7efH 1e7f0S
  1e7ffH 1e800S 1e8c5H 1e8c7S 1e8d0H 1e900S 1e944H 1e94bS 1e94cH 1e950S 1e95aH 1e95eS 1e960H
  1ec71S 1ecb5H 1ed01S 1ed3eH 1ee00S 1ee04H 1ee05S 1ee20H 1ee21S 1ee23H 1ee24S 1ee25H 1ee27S
  1ee28H 1ee29S 1ee33H 1ee34S 1ee38H 1ee39S 1ee3aH 1ee3bS 1ee3cH 1ee42S 1ee43H 1ee47S 1ee48H
  1ee49S 1ee4aH 1ee4bS 1ee4cH 1ee4dS 1ee50H 1ee51S 1ee53H 1ee54S 1ee55H 1ee57S 1ee58H 1ee59S
  1ee5aH 1ee5bS 1ee5cH 1ee5dS 1ee5eH 1ee5fS 1ee60H 1ee61S 1ee63H 1ee64S 1ee65H 1ee67S 1ee6bH
  1ee6cS 1ee73H 1ee74S 1ee78H 1ee79S 1ee7dH 1ee7eS 1ee7fH 1ee80S 1ee8aH 1ee8bS 1ee9cH 1eea1S
  1eea4H 1eea5S 1eeaaH 1eeabS 1eebcH 1eef0S 1eef2H 1f000S 1f02cH 1f030S 1f094H 1f0a0S 1f0afH
  1f0b1S 1f0c0H 1f0c1S 1f0d0H 1f0d1S 1f0f6H 1f100S 1f1aeH 1f1e6S 1f203H 1f210S 1f23cH 1f240S
  1f249H 1f250S 1f252H 1f260S 1f266H 1f300S 1f6d9H 1f6dcS 1f6edH 1f6f0S 1f6fdH 1f700S 1f7daH
  1f7e0S 1f7ecH 1f7f0S 1f7f1H 1f800S 1f80cH 1f810S 1f848H 1f850S 1f85aH 1f860S 1f888H 1f890S
  1f8aeH 1f8b0S 1f8bcH 1f8c0S 1f8c2H 1f8d0S 1f8d9H 1f900S 1fa58H 1fa60S 1fa6eH 1fa70S 1fa7dH
  1fa80S 1fa8bH 1fa8eS 1fac7H 1fac8S 1fac9H 1facdS 1faddH 1fadfS 1faebH 1faefS 1faf9H 1fb00S
  1fb93H 1fb94S 1fbfbH 20000S 2a6e0H 2a700S 2b81eH 2b820S 2ceaeH 2ceb0S 2ebe1H 2ebf0S 2ee5eH
  2f800S 2fa1eH 30000S 3134bH 31350S 3347aH"

/-- The characters that leave no mark of their own. -/
def isInvisible (c : Char) : Bool := c.toNat < 0x20 || sight.holds 'H' c

/-- A character inside quotes: quotes, backslashes and characters that leave no
mark are escaped. -/
def quoteChar (c : Char) : Text :=
  match c with
  | '"' => ['\\', '"']
  | '\\' => ['\\', '\\']
  | '\n' => ['\\', 'n']
  | '\r' => ['\\', 'r']
  | '\t' => ['\\', 't']
  | '\x00' => ['\\', '0']
  | _ =>
    if isInvisible c then ['\\', 'u', '\x7b'] ++ Nat.toDigits 16 c.toNat ++ ['\x7d'] else [c]

/-- The text in quotes. -/
def quoted (text : Text) : Text := '"' :: text.flatMap quoteChar ++ ['"']

end RuleGateway.Text
