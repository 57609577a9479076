import FieldSelection.Text.Packed
/-!
# Scripts

The code points of each script of the Unicode Character Database (version 16.0), by the
script's long name, as packed ranges (`Text.unpackRanges`): once by the Script property,
which gives each code point one script, and once by Script_Extensions, which counts a code
point for every script it is used with. Scripts with no code point are left out.
-/

namespace FieldSelection.Text

/-- The code points of each script, by the Script property. -/
def scriptRanges : List (String × String) := [
  ("Adlam",
    "%Y+0$B4941"),
  ("Ahom",
    "$(W0Q2E4M"),
  ("Anatolian_Hieroglyphs",
    "$@!0[6"),
  ("Arabic",
    "#?04151D121V19BP1%B1#1$G#F*GU115$A1S#w[G%IG:A2$F2#L70#0F%G41&6%Z3U$32#N3#~W031Q1110201913101060401010121110201010101011102316131310191G52141G#K1"),
  ("Armenian",
    "#,H#52#H22#x;34"),
  ("Avestan",
    "$$W0#L36"),
  ("Balinese",
    ")W0$C1#H"),
  ("Bamum",
    "#,_0$N#?+8@O"),
  ("Bassa_Vah",
    "$Y|GT25"),
  ("Batak",
    ")y0#J83"),
  ("Bengali",
    "$;0317212L1610332821238041142O"),
  ("Bhaiksuki",
    "$*!081#C1DAS"),
  ("Bopomofo",
    "~A1:?P#A%GV"),
  ("Brahmi",
    "$&!0$D4#390"),
  ("Braille",
    ".!0*V"),
  ("Buginese",
    ")?0R21"),
  ("Buhid",
    "(Y0J"),
  ("Canadian_Aboriginal",
    "(!0]V@G$5$!<QF"),
  ("Carian",
    "$!_0#G"),
  ("Caucasian_Albanian",
    "$#,G#JB0"),
  ("Chakma",
    "$&+0#K1H"),
  ("Cham",
    "#.?0#M9D2923"),
  ("Cherokee",
    "&x0$L25#(ZI$F"),
  ("Chorasmian",
    "$%xGR"),
  ("Common",
    "0$0Q5Q#E1E14N0V0=1#6542J%K0906010]T060E030#00&S0?40&11#)P0;L3,20#>F2$71)B110#)D0D073151220W5B2$M1A3A1EH#0#V#512251Q1G#924^PMALwV+0]J2V1%8?0$T;IK101OF743$R130$Q1&JF#0#590#G#VV$G#F0$O(7)=0#V|+0#1%62(59*K0(00;B0E1^=I1)G9M#21I13&J01VQ5QAA0#D1$0616A4+224#C38$GC#J#C*4Q#=<43%YS*P6<J&S%J#S*LA#62#T3G817T4#S)LJCJC$M9O&7$K1$6112021231B10161$01327161R131410361.J2,32#H(%H$3$C#S|2#B4%3CE2E1E1#4A(D#OP11D#B4871E5&QyN4G3C3%M4$U6B40FB4#N896#78T2B41#U.JCD2C395#N7E2A687&I1%5W#!70U$V"),
  ("Coptic",
    "z2D.&G%J56"),
  ("Cuneiform",
    "$+!0wP%6%E14B)3"),
  ("Cypriot",
    "$$!05201#B113020"),
  ("Cypro_Minoan",
    "$:wG%2"),
  ("Cyrillic",
    "#!0&42(8(YGA(00$C0&%7Vy$0$V_wE1#W?0#T#10"),
  ("Deseret",
    "$#!0$F"),
  ("Devanagari",
    "$+0$G4E2P#*Z0Vw?09"),
  ("Dives_Akuru",
    "$)+062027111T112B99"),
  ("Dogra",
    "$)!0#R"),
  ("Duployan",
    "%>!0%A5C387923"),
  ("Egyptian_Hieroglyphs",
    "$;!0#$LA%wQ"),
  ("Elbasan",
    "$#+0#7"),
  ("Elymaic",
    "$%z0M"),
  ("Ethiopic",
    "&?0$8132610132#8132#0132610132E1#O132$22V3P)>6M9616161616161616z,2525259616$>(H613111E"),
  ("Garay",
    "$%.0#53S81"),
  ("Georgian",
    "&(0#510502#A13$wG#A22&$0#51050"),
  ("Glagolitic",
    ":!0$V%;x061G261114"),
  ("Gothic",
    "$!XGQ"),
  ("Grantha",
    "$&W0317212L1611142821222060562634"),
  ("Greek",
    "ZG3122310401012101J1#UEF),64#I444$K0.0L252#525271010101U2#K1E1D251I2218,70#$@U0_=Q$EH0#^$V$5"),
  ("Gujarati",
    "$^1218121L16111429121220F32B76"),
  ("Gunjala_Gondi",
    "$*:05111#4111579"),
  ("Gurmukhi",
    "$?1215412L16111111201441223073107G"),
  ("Gurung_Khema",
    "$W+0#P"),
  ("Han",
    ":^0P1$OC)L#F010P8E3y4)<V$0^>V|+0:D2%9x+81C1#&!E#,|V#0&#P6)T2(^1E*,GF]D$<2?T#>2&YA5&$V"),
  ("Hangul",
    "&+0*V*@E1+1$T%HU$1Ux~1S^3.x3CM4#G,x4U35252522"),
  ("Hanifi_Rohingya",
    "$%+0#789"),
  ("Hanunoo",
    "(X0K"),
  ("Hatran",
    "$$*0I1154"),
  ("Hebrew",
    "#;H#M8Q45#x,8P1410111119"),
  ("Hiragana",
    ";$1$L62$zZ1+UI0T2?(D0"),
  ("Imperial_Aramaic",
    "$$$0L18"),
  ("Inherited",
    "W0%F+L1=4AQ0~03&.RU?121C16406031)6#V?C1)2#0%XP3%B1#]:5FGDyF0*20&$Q0#=y4#D2M@02H726U3W:YI*F"),
  ("Inscriptional_Pahlavi",
    "$$Z0I57"),
  ("Inscriptional_Parthian",
    "$$Y0L27"),
  ("Javanese",
    "#.;0$D2941"),
  ("Kaithi",
    "$&&0$2A0"),
  ("Kannada",
    "%&0C121M19142812137161132912"),
  ("Katakana",
    ";(1$P22*GF)G#E1$N#]!E91#C#;$I3161110+V2#I0E3"),
  ("Kawi",
    "$*W0G1#83S"),
  ("Kayah_Li",
    "#.+0#D10"),
  ("Kharoshthi",
    "$$?031157121S224978"),
  ("Khitan_Small_Script",
    "$Zz40)WR=L#90"),
  ("Khmer",
    "(w0$T2969>6V"),
  ("Khojki",
    "$&?0H1#E"),
  ("Khudawadi",
    "$&_G#Q59"),
  ("Kirat_Rai",
    "$Z.0#P"),
  ("Lao",
    "%^1110141N101M2410161923"),
  ("Latin",
    "$1P6P#F0F05M1U1=0#74)?R#56#G535C1$5$1*V:H0D0GC&D160R0H#8$|NVy_2%53$2211017LDXG#A1813]wM6#!QP6P$#551#918#_Y5U65"),
  ("Lepcha",
    "*!0#N3E32"),
  ("Limbu",
    ")+0U1B4B403B"),
  ("Linear_A",
    "$#?0,M9LA7"),
  ("Linear_B",
    "$!!0B1P1I111E2D#2%Q"),
  ("Lisu",
    "#,)G#Fy_G0"),
  ("Lycian",
    "$!^0S"),
  ("Lydian",
    "$$,0P50"),
  ("Mahajani",
    "$&.G#6"),
  ("Makasar",
    "$*~0O"),
  ("Malayalam",
    "%+0C121#I12154F2P"),
  ("Mandaic",
    "$$0R20"),
  ("Manichaean",
    "$$|0#64B"),
  ("Marchen",
    "$*%GV2L1D"),
  ("Masaram_Gondi",
    "$*+06111#B30111889"),
  ("Medefaidrin",
    "$Z[0$Q"),
  ("Meetei_Mayek",
    "#.~0M)9#D29"),
  ("Mende_Kikakui",
    "%Y!0)42F"),
  ("Meroitic_Cursive",
    "$$<0N4J2#D"),
  ("Meroitic_Hieroglyphs",
    "$$;0V"),
  ("Miao",
    "$ZW0$A4#O7G"),
  ("Modi",
    "$(?0$4B9"),
  ("Mongolian",
    ")!01201J6$O7#A#z<LC"),
  ("Mro",
    "$Y[0U1941"),
  ("Multani",
    "$&^0610131E1A"),
  ("Myanmar",
    "&!0&V#).0U%1VZ$GJ"),
  ("Nabataean",
    "$$&0U88"),
  ("Nag_Mundari",
    "%X)G#9"),
  ("Nandinagari",
    "$)<072#D2A"),
  ("New_Tai_Lue",
    ");0#B4P6A31"),
  ("Newa",
    "$(!0$R14"),
  ("Nko",
    "#y0#Q22"),
  ("Nushu",
    "$Zz10?;E;B"),
  ("Nyiakeng_Puachue_Hmong",
    "%W+0#C3D2941"),
  ("Ogham",
    "(^0S"),
  ("Ol_Chiki",
    "*$G#F"),
  ("Ol_Onal",
    "%X=G#A40"),
  ("Old_Hungarian",
    "$%&0#ID#I75"),
  ("Old_Italic",
    "$!W0#392"),
  ("Old_North_Arabian",
    "$$^0V"),
  ("Old_Permic",
    "$!YG#A"),
  ("Old_Persian",
    "$!x0#34D"),
  ("Old_Sogdian",
    "$%W0#7"),
  ("Old_South_Arabian",
    "$$]0V"),
  ("Old_Turkic",
    "$%!0$8"),
  ("Old_Uyghur",
    "$%ZGP"),
  ("Oriya",
    "$W1217212L1611142821227241142H"),
  ("Osage",
    "$#(G#34#3"),
  ("Osmanya",
    "$#&0T29"),
  ("Pahawh_Hmong",
    "$YW0$5A9161K5I"),
  ("Palmyrene",
    "$$%0V"),
  ("Pau_Cin_Hau",
    "$)|0#O"),
  ("Phags_Pa",
    "#.$0#N"),
  ("Phoenician",
    "$$+0R30"),
  ("Psalter_Pahlavi",
    "$$w0H73C6"),
  ("Rejang",
    "#.,G#3B0"),
  ("Runic",
    "(_0$A3A"),
  ("Samaritan",
    "$!0#D2E"),
  ("Saurashtra",
    "#.&0$58B"),
  ("Sharada",
    "$&;0$V"),
  ("Shavian",
    "$#$G#F"),
  ("Siddham",
    "$(;0#L2#5"),
  ("SignWriting",
    "%|!0^BF41E"),
  ("Sinhala",
    "%;121H3N181026304510176922$!zCJ"),
  ("Sogdian",
    "$%XG#9"),
  ("Sora_Sompeng",
    "$&)GO79"),
  ("Soyombo",
    "$)[G$I"),
  ("Sundanese",
    ")w0#V+07"),
  ("Sunuwar",
    "$)y0#1E9"),
  ("Syloti_Nagri",
    "#.!0#C"),
  ("Syriac",
    "#W0D1#R22+GA"),
  ("Tagalog",
    "(W0L90"),
  ("Tagbanwa",
    "(Z0C1211"),
  ("Tai_Le",
    ").GT24"),
  ("Tai_Tham",
    ")@0#U1S2A696D"),
  ("Tai_Viet",
    "#.^0$2O4"),
  ("Takri",
    "$(^0#P69"),
  ("Tamil",
    "$w2115321331101131323B4432132060EK$&y5#HD0"),
  ("Tangsa",
    "$Y]G$E19"),
  ("Tangut",
    "$Zz00V(zN8~V?08"),
  ("Telugu",
    "%!0C121M1F281213711220232978"),
  ("Thaana",
    "#w0#H"),
  ("Thai",
    "%?1#P5R"),
  ("Tibetan",
    "%W0$71#34#61#31E1641"),
  ("Tifinagh",
    ":,G#N71E0"),
  ("Tirhuta",
    "$(&0$789"),
  ("Todhri",
    "$#=0#J"),
  ("Toto",
    "%W^GU"),
  ("Tulu_Tigalari",
    "$&w0910201#519102013191181"),
  ("Ugaritic",
    "$!w0T10"),
  ("Vai",
    "#,+0,B"),
  ("Vithkuqi",
    "$#:GA1E16111A1E1611"),
  ("Wancho",
    "%W|0#P50"),
  ("Warang_Citi",
    "$)(0$IC0"),
  ("Yezidi",
    "$%^0#91221"),
  ("Yi",
    "#+!0#&C3#M"),
  ("Zanabazar_Square",
    "$)?0$7")
  ]

/-- The code points used with each script, by the Script_Extensions property. -/
def scriptExtensionRanges : List (String × String) := [
  ("Adlam",
    "#?V0#00%W_V$B4941"),
  ("Ahom",
    "$(W0Q2E4M"),
  ("Anatolian_Hieroglyphs",
    "$@!0[6"),
  ("Arabic",
    "#?041)M1#1$G#F*GU115$A1S#w[G%IG<S2#L70#0F%G41&6z3R$Z4U$32#N3#~W031Q1110201913101060401010121110201010101011102316131310191G52141G#K1"),
  ("Armenian",
    "#,H#52#H22#x;34"),
  ("Avestan",
    "$$W0#L36"),
  ("Balinese",
    ")W0$C1#H"),
  ("Bamum",
    "#,_0$N#?+8@O"),
  ("Bassa_Vah",
    "$Y|GT25"),
  ("Batak",
    ")y0#J83"),
  ("Bengali",
    "$.H1H1Q317212L1610332821238041142O&|H01021108080204022#$zP0"),
  ("Bhaiksuki",
    "$*!081#C1DAS"),
  ("Bopomofo",
    "~A1:+L2491CA32060)309#A%GV#]&51+Q4"),
  ("Brahmi",
    "$&!0$D4#390"),
  ("Braille",
    ".!0*V"),
  ("Buginese",
    ")?0R21#%xF0"),
  ("Buhid",
    "(XL19J"),
  ("Canadian_Aboriginal",
    "(!0]V@G$5$!<QF"),
  ("Carian",
    "$!_0#G"),
  ("Caucasian_Albanian",
    "$#,G#JB0"),
  ("Chakma",
    "$>69#[G9$!(M#K1H"),
  ("Cham",
    "#.?0#M9D2923"),
  ("Cherokee",
    "&x0$L25#(ZI$F"),
  ("Chorasmian",
    "$%xGR"),
  ("Common",
    "0$0Q5Q#E1E14N0V0=1#6542J%K0906010]T0)N0?40#.S0;L3#WI2$+IB2#01#K1A3A1EH#0#V#512251Q1G#924^PMALwV+0]J2V1%8?0$21P;IG30D0D0L0?HNV0#HEC3(195$VV0)=0#V|+8P%62yG0E1^_49MK2B1I13&J01VQ5Q5%V616A4;IC#J#C#[?3*P6<J&S%J#S*LA#62#T3G817T4#S)LJCJC$MR6&7$K1$6112021231B10161$01327161R131410361.J2,32#H(%H$3$C#S|2#B4%3CE2E1E1#4A(D#OP11D#B48N5&QyN4G3C3%M4$U6B40FB4#N896#78T2B41#U.JCD2C395#N7E2A687&I1%5W#!70U$V"),
  ("Coptic",
    "z2D.&G%J56#_>0R"),
  ("Cuneiform",
    "$+!0wP%6%E14B)3"),
  ("Cypriot",
    "$!+024#C38#|05201#B113020"),
  ("Cypro_Minoan",
    "$!+01:^E%2"),
  ("Cyrillic",
    "#!0,F(YGA(00$C0%V0%z7V$30xzS$V_wE1#W?0#T#10"),
  ("Deseret",
    "$#!0$F"),
  ("Devanagari",
    "$+0$I2#A&YG#611zM0##XV9(6Vw?09"),
  ("Dives_Akuru",
    "$)+062027111T112B99"),
  ("Dogra",
    "$:4B#*|09Zy6#R"),
  ("Duployan",
    "%>!0%A5C387927"),
  ("Egyptian_Hieroglyphs",
    "$;!0#$LA%wQ"),
  ("Elbasan",
    "$#+0#7"),
  ("Elymaic",
    "$%z0M"),
  ("Ethiopic",
    "&?0$8132610132#8132#0132610132E1#O132$22V3P)>6M9616161616161616z,2525259616$>(H613111E"),
  ("Garay",
    "$%.0#53S81"),
  ("Georgian",
    "&(0#510502#F$wG#A22&$0#51050"),
  ("Glagolitic",
    "#&4020,ZO$V>30y#B0$=;G61G261114"),
  ("Gothic",
    "$!XGQ"),
  ("Grantha",
    "$.H1H1^0D&)S011U231zM0#w?F317212L1611141921222060562634%$R110"),
  ("Greek",
    "Y2020#A3122310401012101J1#UEF),64#I444$K2,UL252#525271010101U2#K1E1D251I2218,70#$@U0_=Q$EH0#^$V$5"),
  ("Gujarati",
    "$.H1H1+R218121L16111429121220F32B76#*,G9"),
  ("Gunjala_Gondi",
    "$:41$&zQ5111#4111579"),
  ("Gurmukhi",
    "$.H1H1&R215412L16111111201441223073107G#*<P9"),
  ("Gurung_Khema",
    "$W+0#P"),
  ("Han",
    ":^0P1$OC)L#B21C1C1C2068(R0&KF#0#590#G#7#O#GFB#J0$OOA4%0U1)<V$0^>V#W07^>O:D2%9ZB1+Q4w%S1C1WZEH*|U1%<E#,|V#0&#P6)T2(^1E*,GF]D$<2?T#>2&YA5&$V"),
  ("Hangul",
    "&+0*V*?12491CE260)30#L$T%HU$1Ux~1S^3.x3CM4#G,[91+Q4#QU35252522"),
  ("Hanifi_Rohingya",
    "#?C0E030#00&J0$#@B#789"),
  ("Hanunoo",
    "(X0M"),
  ("Hatran",
    "$$*0I1154"),
  ("Hebrew",
    "#;H#M8Q45#x,8P1410111119"),
  ("Hiragana",
    ";!12491CG510413$L27$Q1#].81+Q4A0#D1#;%1+UI0T2?(D0"),
  ("Imperial_Aramaic",
    "$$$0L18"),
  ("Inherited",
    "W0$1111S#>G1&.RU~J#L1014?C1)2V#~+GFGDyF0#]+2#D2M@02H726U3W:YI*F"),
  ("Inscriptional_Pahlavi",
    "$$Z0I57"),
  ("Inscriptional_Parthian",
    "$$Y0L27"),
  ("Javanese",
    "#.;0$D1A41"),
  ("Kaithi",
    "$:69#*|09Y$6$2A0"),
  ("Kannada",
    "$.H1H1WQC121M19142812137161132912%yS01070N010#$XR5"),
  ("Katakana",
    ";!12491CG51041$R33$V*GF)G#E1$N#[~D1+Q#U#;$G3161110+V2#I0E3"),
  ("Kawi",
    "$*W0G1#83S"),
  ("Kayah_Li",
    "#.+0#F"),
  ("Kharoshthi",
    "$$?031157121S224978"),
  ("Khitan_Small_Script",
    "$Zz40)WR=L#90"),
  ("Khmer",
    "(w0$T2969>6V"),
  ("Khojki",
    "$~69#*.09Y=6H1#E"),
  ("Khudawadi",
    "$:41#*|A9Y]M#Q59"),
  ("Kirat_Rai",
    "$Z.0#P"),
  ("Lao",
    "%^1110141N101M2410161923"),
  ("Latin",
    "$1P6P#F0F05M1U1=0#74%UC+L1#)A1#x80%!4#56#G535C1$5$1*V,F0$10D0GC$J0#P160R0H#8$|NVy^07Q%53$2211017LD,E0?1#A1813]wM6#!QP6P$#551#918#_Y5U65"),
  ("Lepcha",
    "*!0#N3E32"),
  ("Limbu",
    "$:50%wQU1B4B403B"),
  ("Linear_A",
    "$!+7#C#)C,M9LA7"),
  ("Linear_B",
    "$!!0B1P1I111E2D#2%Q524#C38"),
  ("Lisu",
    "#,)G#Fy_G0"),
  ("Lycian",
    "$!^0S"),
  ("Lydian",
    "$$,0P50"),
  ("Mahajani",
    "$:4B#*|09Y+M#6"),
  ("Makasar",
    "$*~0O"),
  ("Malayalam",
    "$.H1H1wQC121#I12154F2P%YQ0#$YL2"),
  ("Mandaic",
    "#[00>VR20"),
  ("Manichaean",
    "#[00$#%V#64B"),
  ("Marchen",
    "$*%GV2L1D"),
  ("Masaram_Gondi",
    "$:41$&wQ6111#B30111889"),
  ("Medefaidrin",
    "$Z[0$Q"),
  ("Meetei_Mayek",
    "#.~0M)9#D29"),
  ("Mende_Kikakui",
    "%Y!0)42F"),
  ("Meroitic_Cursive",
    "$$<0N4J2#D"),
  ("Meroitic_Hieroglyphs",
    "$$;0V"),
  ("Miao",
    "$ZW0$A4#O7G"),
  ("Modi",
    "#.#G9Z=6$4B9"),
  ("Mongolian",
    ")!0P6$O7#A#w40#x@GC"),
  ("Mro",
    "$Y[0U1941"),
  ("Multani",
    "$]69$$!G610131E1A"),
  ("Myanmar",
    "&!0&V#)&E0(HU%1VZ$GJ"),
  ("Nabataean",
    "$$&0U88"),
  ("Nag_Mundari",
    "%X)G#9"),
  ("Nandinagari",
    "$:41w09%zP08070#$XL5w:A72#D2A"),
  ("New_Tai_Lue",
    ");0#B4P6A31"),
  ("Newa",
    "$(!0$R14"),
  ("Nko",
    "#?C0E030<0#Q22#x,U1"),
  ("Nushu",
    "$Zz10?;E;B"),
  ("Nyiakeng_Puachue_Hmong",
    "%W+0#C3D2941"),
  ("Ogham",
    "(^0S"),
  ("Ol_Chiki",
    "*$G#F"),
  ("Ol_Onal",
    "%X=G#A40"),
  ("Old_Hungarian",
    "$%&0#ID#I75"),
  ("Old_Italic",
    "$!W0#392"),
  ("Old_North_Arabian",
    "$$^0V"),
  ("Old_Permic",
    "#&30#z|C#A"),
  ("Old_Persian",
    "$!x0#34D"),
  ("Old_Sogdian",
    "$%W0#7"),
  ("Old_South_Arabian",
    "$$]0V"),
  ("Old_Turkic",
    "$%!0$8"),
  ("Old_Uyghur",
    "#[00$#(H0#%TP"),
  ("Oriya",
    "$.H1H1;R217212L1611142821227241142H&:20N0"),
  ("Osage",
    "$#(G#34#3"),
  ("Osmanya",
    "$#&0T29"),
  ("Pahawh_Hmong",
    "$YW0$5A9161K5I"),
  ("Palmyrene",
    "$$%0V"),
  ("Pau_Cin_Hau",
    "$)|0#O"),
  ("Phags_Pa",
    ")!2110#&#Q#N"),
  ("Phoenician",
    "$$+0R30"),
  ("Psalter_Pahlavi",
    "#[00$#,VH73C6"),
  ("Rejang",
    "#.,G#3B0"),
  ("Runic",
    "(_0$A3A"),
  ("Samaritan",
    "$!0#D2E"),
  ("Saurashtra",
    "#.&0$58B"),
  ("Sharada",
    "$.H0&w50102120#x&V$V"),
  ("Shavian",
    "$#$G#F"),
  ("Siddham",
    "$(;0#L2#5"),
  ("SignWriting",
    "%|!0^BF41E"),
  ("Sinhala",
    "$:41#!R21H3N181026304510176922$!zCJ"),
  ("Sogdian",
    "#[00$$*F#9"),
  ("Sora_Sompeng",
    "$&)GO79"),
  ("Soyombo",
    "$)[G$I"),
  ("Sundanese",
    ")w0#V+07"),
  ("Sunuwar",
    "$)y0#1E9"),
  ("Syloti_Nagri",
    "$:41&09#*?G#C"),
  ("Syriac",
    "#?C0E120#00AAQ0&FD1#R22+GA(;D010"),
  ("Tagalog",
    "(W0L90L1"),
  ("Tagbanwa",
    "(XL1#9C1211"),
  ("Tai_Le",
    "&$09$+6T24"),
  ("Tai_Tham",
    ")@0#U1S2A696D"),
  ("Tai_Viet",
    "#.^0$2O4"),
  ("Takri",
    "$:41#*|A9Z[6#P69"),
  ("Tamil",
    "$.H1H1?S115321331101131323B4432132060EK&)V0#%!O0Y?D010#N1%&3#HD0"),
  ("Tangsa",
    "$Y]G$E19"),
  ("Tangut",
    "$Zz00V(zN8~V?08"),
  ("Telugu",
    "$.H1H1^QC121M1F281213711220232978&$Q0N0"),
  ("Thaana",
    "#?C0E120$09+M#H#x[00A0"),
  ("Thai",
    "%?1#P5R"),
  ("Tibetan",
    "%W0$71#34#61#31E1641"),
  ("Tifinagh",
    ":,G#N71E0"),
  ("Tirhuta",
    "$.H1H1&wC0#$XT9Z$6$789"),
  ("Todhri",
    "$#=0#J"),
  ("Toto",
    "%W^GU"),
  ("Tulu_Tigalari",
    "$&w0910201#519102013191181"),
  ("Ugaritic",
    "$!w0T10"),
  ("Vai",
    "#,+0,B"),
  ("Vithkuqi",
    "$#:GA1E16111A1E1611"),
  ("Wancho",
    "%W|0#P50"),
  ("Warang_Citi",
    "$)(0$IC0"),
  ("Yezidi",
    "#?C0E030$09$$!M#91221"),
  ("Yi",
    ";!115927)V0ZW4#&C3#M|^Q4"),
  ("Zanabazar_Square",
    "$)?0$7")
  ]

end FieldSelection.Text
