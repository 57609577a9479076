import FieldSelection.Text.Packed
/-!
# Binary properties

The code points of each binary property of the Unicode Character Database (version 16.0)
that a regular expression may name, by the property's long name, as packed ranges
(`Text.unpackRanges`).
-/

namespace FieldSelection.Text

/-- The code points of each binary property. -/
def binaryPropertyRanges : List (String × String) := [
  ("ASCII_Hex_Digit",
    "#G975Q5"),
  ("Alphabetic",
    "$1P6P#F0A0405M1U1=94BE47010$M0TH1123106012101J1$I1&A8(51#5206#8#7D101111108Q43TA5#N16E%5174742A220G#FD%4O#091405N2IJO7A5N15808#9AB366$B1F124EDI17212L16103337212110804114C1A04215412L16111111444121407310H5B218121L16111438121130F3L34217212L161114372121914114D0G115321331101131323B4432123060#8C121M1F37121281122023S317121M1914371212816113D2CC121#8271212105374M5121H3N181026851017I1D#P5660#J110141N101I12241060E3#00#V71#34I4F1#3$3#M1024G#VA32#510502#A1.C132610132#8132#0132610132E1#O132$2#5FG$L253]B2G1P5$A3A7JBKCJCC1211C#J2IE040$3$O7#A5$5AU1B48NT24B#B4P#MR4#U2J#I0N1B2#H#J1E17#J#923A#B1AE#MM2A#32A5#A22#931511305(VJ#1B+L252#525271010101U2#K1610321633254C5216%K0D0GC%5040291034601010131A235440H#8XD#J#WM*46331C#510502#N70GM96161616161616161V#F0=L2P874244$L621$P135#A1$THV#GF?0)<V$0_^C$3#D2+C3FA1K#E573%G#782%62$2211017LJ1#0O#JC$310#C53012A#05#2DS3#I1BF0GFA41#M9DIM3$41010O22F23B5252596161#A1D6%QL.x3CM4#G++4:D2%9#66C45B1C141011111%B#1:AI#V2#L#8B%K41&6#4P6PB$O35252522#3B1P1I111E2D#2%Q$5#K+BS3#G#FVDT5#A5T2#34714#A&TI#34#34#78#JCA1E16111A1E16113#JC,M9LA7O51#918$55201#B11302MAM9U$1I11ALAP$6#N61$031157121S#AS3S#371RR#LALAIDH%E$8#N#ID#ID#7#2R305M*Q#91131G2#N03SA08L#AH#EKRM9$5#B4A#O90DON#IH38#2309#V1391A010#3H1#12063#U610131E197#ON317212L161114372121306056S910201#519102013113010#C$11213K2U$12110(O#L26P5#2#U1030#R#L20$7Q2DL6(P#O%7#VV72027111T112123$T72#D251011R#I29H$750I$8)7#0V81#C1610#HT2L1D$96111#B3011121021O5111#4111310.7M9G1#832%F0$FwP%6%EH)3$[C%0F##FH5P%wQ5[6)_P#E#|H@O7UH$EHTI#FG3VK5I<G#C)J#V&0$A4#O7G$0110C1E(zN8#)L#99+~7316111,2F0T220E38;B$+4%A5C387940(Z1$K1$6112021231B10161$01327161R131410361.J2O1O1U1O1U1O1U1O1U1O17#XKU65)L61G2611145#T#10%G#CA6G0.1TI#B>4R*4T20>F613111E1)4#R$33030#(K31Q1110201913101060401010121110201010101011102316131310191G52141G]KP6P6P%]M#,|V#0&#P6)T2(^1E*,GF]D$<2?T#>2&YA5&$V"),
  ("Bidi_Control",
    "#?S0)>H1Q4#N3"),
  ("Bidi_Mirrored",
    "#81I010S010T010#D0F0%]U3#YT1$;S1A1#M1E1(H0)033530313313101048501H539110172U2350912I5194214N2F83K171##TD$A023111253523D;JL251D807530441124401221A521CI13201020135162O1B14311214#A271#750103452403410+00?333111E129#B7<B927#]@T551(21I010S010T0101111#_ZN0#P0#P0#P0#P0"),
  ("Case_Ignorable",
    "#7060B0#3010$7040104021>N(V41409110*R6)F050#H#C10111110#C0B5AA10#30AKG0%571913#1010UQ$RA#QA4020ON#B2#C07158#9#P#N010474036A1D0F0#Q04380K1Q021#P041412230U130B1#P0441140K1M510#Q020138071B1U0#T0C0#I030#N012521371B1T0#Q0206051K1S1#P14380K1T0$807210$Q026B8%20289016$91R01010#ND14115A1#390%63151121P142G3D02160F0$U0]02xI2T1U1U1$0116802A3050#D4#J0$11#20%M2419062)R120#Q0161010276920#708U#H3#G0141050#88C1#032112#O0113012#Q721$05$I21C16406031#I#UD0#2%4<T012B2D2D2D1C481A02024#H41910D0GC#J#0$wB1%H2%T0F0%0V#F0=L0#433450$T5$T2ZWM0#*25+E0%231910S3$G1E#1$E0N2%7231803040P150&N1QHD0#67PA#E2#G02321H0L1$252121C080#30B0#J012215110R0E15110%4492%P02040]XG0&JG@TF30CF#2020(907060B0#3010#F0#D1$30L2?10*20&L4#!551#918[621153#8240(51@T3#60Q410,R1$F3$6A#H3%R0#ME#9021A2#H3212040A0#I2#4417#U0C1#K8A320$V220116020&T037L1#P130#5634$65D01010E1$L72210N0$K5104111*E36111R1$L72011%A0102510%522314+3811+011040&G32140#09#8523809522#EC11;M61510$IL261111%Q530111610$813010.R1B1#K45010N0()LG6E:)8B32$=04#R693>S2#81>20#VG$0111?!B31611%&U113&[S#D2M@029F26U3&K2#xR#M4#H80E0M41E#.G61G2611145#T#10(0D:G0#T3>R4*U1~06%D7$_F4W%!10U$V&0*F"),
  ("Cased",
    "$1P6P#F0A0405M1U1)2134)F1#371U4%00#A32123106012101J1$I1&A8(51#59#8$WN#510502#A13_0$L25$&2A5#A22$0(V$0+L252#525271010101U2#K1610321633254C5216%K0D0GC%5040291034601010131540235440HV31XH#J#WM*46331C#51050y+I#DIT&4%5331#T211017L412XL#A1D6$F]Y06C4#!9P6P#(5$F%0#34#3%KA1E16111A1E1611=30221#918#)5#ID#I$TLAL$WQ#V_:0#VX;0$K1$6112021231B10161$01327161R131410361.J2O1O1U1O1U1O1U1O1U1O17#XK91J65+5#T$&I$3#zCP6P6P"),
  ("Changes_When_Casefolded",
    "$1P$Q0AM17#00101010101010101010101010101010101010101010101010101010201010101010101011101010101010101010101010101010101010101010101110101011101112231112311110101110201112101130711111101010101010101020101010101010101021101210101010101010101010101010101010101010101010101010101010107111201310101010*M0#A0103080601210111G18M0C231101010101010101010101010112110112#I#G010101010101010101010101010101010901010101010101010101010101010101010101010101010101010111010101010102010101010101010101010101010101010101010101010101010101010101010101010101010101010101010101010102#5#G0$WO#51050XA5$&296#A22.00101010101010101010101010101010101010101010101010101010101010101010101010101010101010101010101010101010101010101010101010101010101010101010101010101051201010101010101010101010101010101010101010101010101010101010101010101010101010101010101010101010109785A78785B010101087G#F22255225B3C45225,903160#DFJ0XIP#XG#F#G0122010101310208210101010101010101010101010101010101010101010101010101010101010101010101010101010101010101010101010801040y.D010101010101010101010101010101010101010101010J010101010101010101010101010&7010101010101030101010101010101010101010101010101010101010101010101010101010A010111010101040102010301010101010101010101414101010101010101310113050101010O0ZQ$F]Y06C4#!9P#)5#7&8#3&SA1E1611#~A#I&TL$XQV_;0Vy_0#1"),
  ("Changes_When_Casemapped",
    "$1P6P#Q0AM1U1#V1$J1R2D21104$S1H6Q1110113113142011207020113550A1(60#A32132106012101J1#E3#0141&48(51#5A#6$WO#510502#A22_0$L25$&2A5#A22(P030G0%H&R201%L252#525271010101U2#K1610321633254C5216,903160R0HV31XH#J#WM%G11117%57331C#51050y+I#DIR&6D2#T9E32241O1T2146O1YS0S$F]Y06C4#!9P6P#(5$F%0#34#3%KA1E16111A1E1611#|3#ID#I$TLAL$WQ#V_:0#Vy^0$3"),
  ("Changes_When_Lowercased",
    "$1P%5M16#101010101010101010101010101010101010101010101010101010102010101010101010201010101010101010101010101010101010101010101011101031101112231112311110101110201112101130711111101010101010101020101010101010101021101210101010101010101010101010101010101010101010101010101010107111201310101010,10103080601210111G18#308010101010101010101010105020112#I#G010101010101010101010101010101010901010101010101010101010101010101010101010101010101010111010101010102010101010101010101010101010101010101010101010101010101010101010101010101010101010101010101010102#5$Y9#51050|I$L$&J06#A22.001010101010101010101010101010101010101010101010101010101010101010101010101010101010101010101010101010101010101010101010101010101010101010101010101010901010101010101010101010101010101010101010101010101010101010101010101010101010101010101010101010109785A78785B010101087O7878784B4B3C4B4,903160#DFJ0XIP#XG#F#G0122010101310208210101010101010101010101010101010101010101010101010101010101010101010101010101010101010101010101010801040y.D010101010101010101010101010101010101010101010J010101010101010101010101010&7010101010101030101010101010101010101010101010101010101010101010101010101010A010111010101040102010301010101010101010101414101010101010101310113050101010O0_XBP#)5#7&8#3&SA1E1611#~A#I&TL$XQV_;0Vy_0#1"),
  ("Changes_When_Titlecased",
    "%1P#Q0#9N171010101010101010101010101010101010101010101010101010101020101010101010111010101010101010101010101010101010101010101010201012201020305020322020101020402030102030104011111010101010101010111010101010101010121010301010101010101010101010101010101010101030101010101010101080211040101010151110113113142011207020113550A1(60#B0103032I0R#21132101010101010101010101014102020#K#F101010101010101010101010101010101090101010101010101010101010101010101010101010101010101020101010101011101010101010101010101010101010101010101010101010101010101010101010101010101010101010101010101010#H#6%]G5$&2810*E030G0%I0101010101010101010101010101010101010101010101010101010101010101010101010101010101010101010101010101010101010101010101010101010101010101010101010101650101010101010101010101010101010101010101010101010101010101010101010101010101010101010101010101885A78785A7878D2787878411603211832187A211.M0#1F40YBP#Y6#F10311010106020A010101010101010101010101010101010101010101010101010101010101010101010101010101010101010101010101010801040C#51050y+J010101010101010101010101010101010101010101010J010101010101010101010101010&7010101010101030101010101010101010101010101010101010101010101010101010101010A010201010101040401120101010101010101010B01010101010101040102030501010Q0YS0S$F]Y06C4##9P#)D#7&8#3&RA1E1611#W3#I%TL$XQV_;0Vy_2#1"),
  ("Changes_When_Uppercased",
    "%1P#Q0#9N1710101010101010101010101010101010101010101010101010101010201010101010101110101010101010101010101010101010101010101010102010122010203050203220201010204020301020301051111110101010101010111010101010101010111110301010101010101010101010101010101010101030101010101010101080211040101010151110113113142011207020113550A1(60#B0103032I0R#21132101010101010101010101014102020#K#F101010101010101010101010101010101090101010101010101010101010101010101010101010101010101020101010101011101010101010101010101010101010101010101010101010101010101010101010101010101010101010101010101010#H#6$Y8#A22~O5$&2810*E030G0%I0101010101010101010101010101010101010101010101010101010101010101010101010101010101010101010101010101010101010101010101010101010101010101010101010101650101010101010101010101010101010101010101010101010101010101010101010101010101010101010101010101885A78785A7878D2#K114010321140332187A21140.H0#1F40YBP#Y6#F10311010106020A010101010101010101010101010101010101010101010101010101010101010101010101010101010101010101010101010801040C#51050y+J010101010101010101010101010101010101010101010J010101010101010101010101010&7010101010101030101010101010101010101010101010101010101010101010101010101010A010201010101040401120101010101010101010B01010101010101040102030501010Q0YS0S$F]Y06C4##9P#)D#7&8#3&RA1E1611#W3#I%TL$XQV_;0Vy_2#1"),
  ("Dash",
    "#D0#.S0#J0%[10#!50$!95#T0#70F0;60%!4020V140S0<U0J0%F0#];G1#50A0(90%]00,U0"),
  ("Default_Ignorable_Code_Point",
    "(D0_10|C0$Y21#[J1$L4#zR4Q4#HF&*K0#]&RF*F0(00$F8#>(73()F7W:^5%zV"),
  ("Deprecated",
    ".90#,90$+3010$#91$)55_P1Z~)M0"),
  ("Diacritic",
    "$U010$70604021>N&U1755H14091*T4)H0#NG1Q101110&6741&614132$3Q$RA#QA#21%U7#99GR#T0G033S0$A0G0%E0G0%E0G0#F2#S0G070%N0%E0G0%E0G0%D1G0%S0%S510%B0D4$B1R0101041$2211#U0%G011#8144P610A1|12xK1(JA90.R2,P720#GE2A%80F0#68#M1&A1$05$IO406022#I#U$PB#5A<T012B2D2D2D1%*G2,T0>Q5%93$V0x:I0C110S1$I1E#1%62%D1)A0RH#P3#40$V0C0#40&L2$13#J0%4492&01]XG0W1F+E010#F0#D1$30~S0#&V51#918XA1@R5$23;F2$6A#H3)00#90$81%O1#U0$C092%81(I1$H0G0O634$P2G1$V030%R1*R1%U0%M1%J0+D1+2140&S0$J0I0$H0<50+2011$H0=20(*CE:)P0$=04#R6#$OG$G1>zU31611*W1#D2M@02358726U3%^2#T)26:N0#T3~U1~06%D212"),
  ("Emoji",
    "#306059%F040*wD0C0)O0M0$Q5F1:F1C0(60PA42)70*71A090#Q314902021204020112030318250105BB1201110I021I5101131502141B15120511011K155132040202510201010603060A1F02040104210B1#G290E0E0:K1=F2J1#J040#)Q0C0[P010%>:A0)A0(01C1E029$BP11N0K028L1(E#12%F21122$I221+61#UB51N7127C0232041D120819052C28220104060306$L#G$557224930113029*3B40+R#E191(O%GC395#N7E2A68"),
  ("Emoji_Component",
    "#306059*yJ0)L0#~,B0#wyMP>R4#<G3W#]C$V"),
  ("Emoji_Modifier",
    "%wzR4"),
  ("Emoji_Modifier_Base",
    ",?T0)R0G3%]%N0#S22022%L12ALI3042127010O0)9140L041(E234$J0G290B0@V02087609922#O0#T11110H21C*52#A8"),
  ("Emoji_Presentation",
    "+WQ1)D33020?91L1#IB#B0J0D081H1518050L0711040207041S0#30104210#T2O0E0YR1#J040%@(E0)A0(U029$BP10O0K02412L1(E#0C81$51LC#A44CG303$6101(Q2#UD31NI0Q1D0$M$K#G$560322243B178*3B40+R#E191(O%GC395#N7E2A68"),
  ("Extended_Pictographic",
    "(9040*wD0C0)O0M0$Q5F1:F1C0$V0$60PA42)70*71A090#Q3151B1%HA%L2A1010603060A1F02040104210B4#D290E0E0:K1=F2J1#J040#)Q0C0[P010%>:6*VD2V0#S5C1E029I#OREA0K028139<H5,T8+9#G%V%KB$L#AC3#O7A5#87U$HC#E191<O+0zT"),
  ("Extender",
    "(N0?O1ZE0<P0YQ0~G0%V0$.30#O0]30;E0$40&w90#B4%71$T2ZWM0#>M0y20M0&90%C0L1_%R0$!G1#=B0#00#>D0]82#)F0^(91#&S110w.O1$!62"),
  ("Grapheme_Base",
    "#0$U#1C1[H%G72546101J1)V7(51#52#H22#E01020209Q45H9B01#DLF1%48061204V201TT$OB0E#A963N4090307E1O501A5UH#9#P#M10138312792S1117212L1610333011612110D1124N5015412L1611111142O310792210C018121L16111433801130F14B708117212L16111430206121F1124HB015321331101131323B5011321230LK6217121M1F3033J2202149791A121M19143111112111H1114912EA121#8201152121142194P211H3N18102691667922C#F11B78C#5110141N1019119024109923#0N2Q10101D1#3I05024#H7151C#5#C4060212O233F4C11251E1#710502:O132610132#8132#0132610132E1#O132$25S3P6$L252^S3$O7H309I229HEC12F#J207711B839696A596$O742#1105$5AU43224115703#924B#B4P6A3#O213#N10901185D9696D$M#F7014191S9B2V41203#N102210318#F815E3#T5#A2AB0D0731512205(V$0+L252#525271010101U2#K1E1D251I22181A5N7#GG12Q1C3#0#V&B4^PMAL#WJ2V1.N315#C10502#N71FM9616161616161616#1$T#2P1$OC)LQ#P6F1$L4%45#A1$T1$L9#F1w]C3#M9.RK#E40AV2$F258)D211017LF12131O24496#N8$3ABOC1#58OB1BT6#F11412F1A461O1#86121B21710292V1#I1031242010OG27B5252596161#R4%K1113396.x3CM4#G++4:D2%9#66C4501N141011111%SG<S2#L70#0FG9M#21I13441&64&S2U352525223616D12B1P1I111E2D#2%Q524#C3$N1C30#F#C&3S3#GGQ4#39T5#5AT1#44D#A&T296#34#34#78#JBB1E16111A1E16113#JC,M9LA7O51#918$55201#B11302M1$788#GI115#03Q50$0#N4J2#EF3121SA8787#V#0#46B9#L3S2Q5P73C6$G$8#N#ID#I7#9C96#58N81)GU1#93021G2#R#78LB8MH43#6RKM901#LF64T1120C#G412113EO799#3509H8#212B#J99411F1JBH1R31102511#V610131E1A6#E12D98117212L161114301013212220C6S910201#5137020131110101211#7#N81301K1012U#F11601110202389(6#E1163202Q#4#I811023B96CJ#A10116011696JSQ51409M(P#E9020%4$IC72027111N141140131299$672#98313R0A#7614790613#DD028D$879(M#1E9681#5E015AS3VP07020$B6111#5L09965111#441101079,MI239E1#381101M$M0F#HDwQ%6%E14B)3$[C%2D##FH5P%wQ5[6)_PTC239#|6@O7U194$G196T70A#F7EA9161K5I<G#P)6$Q%5$A5#NBC$03C1E(zN8#)L#99+~7316111,2F0T220E38;B$+4%A5C38792020%Z0*P6<J&S%J#S*LA#62#R1033L17T4#SL$130%QJCJC$M9O&7$K1$6112021231B10161$01327161R131410361.J2,32@H#N3#I71D16#%KU65+5#T&I#CA62941.0TI#B4950=GR49)MT2A40>0613111E1)428#G$3704941WH$3$C#S)231Q1110201913101060401010121110201010101011102316131310191G52141G#K1+E#B4%3CE2E1E1#4A(D#OSD#B4871E5&QyN4G3C3%M4$U6B40FB4#N896#78T2B41#U.JCD2C395#N7E2A687&I1%5#!6#,|V#0&#P6)T2(^1E*,GF]D$<2?T#>2&YA5&$V"),
  ("Grapheme_Extend",
    "W0%F+J6+7#C10111110$8A#GKG0%56252113#30UQ$RA#Q890O3181214#B2#R8#AN1V#N010474036A1T0#Q010238090A1Q021#P041412230U130B1#P0441140K1M510#Q011138072A1U0#R010C090#8030#N012521371B1T0#Q02020305171B1S1#P110238090A1T0$8040221080$H026C7%2028B6$91R01010#ND14115A1#390%63151121P142G3D02160F0_V2xI2T1U1U1$0116802A90#D210%L1#20%M2419062)R120#Q0161010276920#GU#H3#G61050#88C1#032112#O0113012#Q721&O21C16406031)6#V?C0)3#0$zU2&D0%0V@A5%91x=K319#01$G1+G03040P150&N1QHD0#67PA#E2#G02321#70$352121C080#F0#J012215110#A180*E02040]XG0~1FGF:E1[T0*20&L4#^621153#8240(51@T3$14,T1$F3$6A#H3%R0#ME#9021A2#H32170#T2#4417#U0C1#K8A320$V220116020&T037L1#P11010M0E634$65D01010E1$L72210N0$H02510201111*B0236111R1$L72011%A0102510%522314+3811*L0A11040&G32140#09#8523809522#EC11;M61510$IL261111%Q530111610$813010.R1B1#K45010N0(*506E:)8B32$=04#R6#!O0#V3$H0](O1&]1#D2M?U012448726U3&K2#xR#M4#H80E0M41E#.G61G261114%40(06:N0#T3>S3*U1~06%D6W(|L$V&0*F"),
  ("Hex_Digit",
    "#G975Q5#z_9975Q5"),
  ("IDS_Binary_Operator",
    ":zG129>H0"),
  ("IDS_Trinary_Operator",
    ":zI1"),
  ("IDS_Unary_Operator",
    ":zU1"),
  ("ID_Compat_Math_Continue",
    "(I150*xM03A1E:J040M0%<(20P0V0P0V0P0V0P0V0P0"),
  ("ID_Compat_Math_Start",
    "+?2040M0%<(20P0V0P0V0P0V0P0V0P0"),
  ("ID_Continue",
    "#G97P401P#F0A010205M1U1=94BE47010H%K11231064101J1$I1&A142(51#5206#88#C101111108Q43TA5$94%517291I20G#Q2%4E#L40202#DIR4A5N158$A1&0291I17212L1610332821238041142BA0102215412L16111111201441223073107FB218121L16111429121220F329961217212L1611142821227241142910G115321331101131323B4432132060E9GC121M1F2812137112202329G317121M19142812137161132912CC121#I1214537429A5121H3N181026304510176921D#P5E19#7110141N101M2410161923#00N169B01010491#34J1H1#390#P$96$D2#510502#A1.C132610132#8132#0132610132E1#O132$22298EFG$L253]B2G1P5$A3A7L9LBJCC1211C$J304129#121A6$O7#A5$5AU1B4BA#724B#B4P6A#5R4#U1S2A69D08D1F#H$C39H8C%JC#N893#G2A5#A22G21#65?L252#525271010101U2#K1610321633254C5216F1#H1J0S0D0GC#JC403BH0402910256010101F235440H#8$]N*468C#510502#N70FN96161616161616161V?52PE14244$L261$U5#A1$THV#GF?0)<V$0_^C$3#D2+C3RK#F491%I#582%62$2211017L#L40J#JC$5A96N301#G2#3CS3$0EA6U1#M9D296M3$8O22F24A5252596161#A1D6%Q11296.x3CM4#G++4:D2%9#66C45B1C141011111%B#1:AI#V2#L#8B4FGF31O2#041&6J97P401PA$P35252522#3B1P1I111E2D#2%Q$5#K&80&2S3#GF0VVDT5#A5T2#34714#A&T296#34#34#78#JCA1E16111A1E16113#JC,M9LA7O51#918$55201#B11302MAM9U$1I11ALAP$6#N61$031157121S2240#0S3S#371TP#LALAIDH%E$8#N#ID#ID#7896#5341M*Q#91131G2#N#0A08#0VL#AKRM9$6VF9#R70DO796#K19438#3209$4431C10#3H1#463#U610131E197#Q596317212L1611141921222060562634B910201#51910201317D1T$A5943U$51089(6#L28N5#2$030B9#6#O796JSQ2E4966(P#Q%5$9L72027111T1128C9$672#D2711R#U808$930I$8)7#0F9681#C18F9OT2L1D$96111#B3011188965111#4111579,MM9G1#834DA$L0$FwP%6%EH)3$[C%0F##FGLA%wQ5[6)_P#P#|6@O7U196$E196T24B#M93C99K5I<G#C39)6#V&0$A4#O7G$0111B1E(zN8#)L#99+~7316111,2F0T220E38;B$+4%A5C387931&$H9?6#D2M?U4358726U3&K2<R$K1$6112021231B10161$01327161R131410361.J2O1O1U1O1U1O1U1O1U1O172#H?0#M4#H80E0M41E#$GU65)L61G2611145#T#10%G#C3D2940.1UH#P=M#9)M#A>5613111E1)4B6#9$B49#(631Q1110201913101060401010121110201010101011102316131310191G52141G%,K9#!6#,|V#0&#P6)T2(^1E*,GF]D$<2?T#>2&YA5&$V_~.G*F"),
  ("ID_Start",
    "$1P6P#F0A0405M1U1=94BE47010&141123106012101J1$I1&A8(51#5206#8$7Q43#D#A#311%210F171A220G01TT$OB0O#091405L409030NO7A5N15H#9#Q#L30I079FF47212L16103330G0D112E1A085412L16111111V310J2G8121L16111430I0F1N0B7212L16111430U112F0H015321331101131323BM0#K7121M1F30Q22021U047121M191430V111F1H8121#820G05282O55H3N181026#Q#F11C6#Q110141N101911902410L3#00#V71#3R4%J#AK0G5433031724CC0H#510502#A1.C132610132#8132#0132610132E1#O132$2#5FG$L253]B2G1P5$A3A7HDIEHEC12F#J#3040$3$O7#8105$5AU#HT24B#B4P#MM9#K$I0$T#EH7#MTD1A#BQ#3#92A#32A5#A22#931511305(V$0+L252#525271010101U2#K1610321633254C5216%K0D0GC%50402910256010101F235440H#8$]N*46331C#510502#N70GM9616161616161616@62P874244$L441$P135#A1$THV#GF?0)<V$0_^C$3#D2+C3FA1K#EGU2$F#782%62$2211017LF12131MT#JE#H#U53011BRAMPS7#ES0G419A41#8N217KM303#H1031242010O22A72C5252596161#A1D6%IT.x3CM4#G++4:D2%9#66C450191C141011111%B#1:AI#V2#L#8B%K41&6#4P6PB$O35252522#3B1P1I111E2D#2%Q$5#K+BS3#G#FVDT5#5AT2#34714#A&TI#34#34#78#JCA1E16111A1E16113#JC,M9LA7O51#918$55201#B11302MAM9U$1I11ALAP$6#N61$00F3121S#AS3S#371RR#LALAIDH%E$8#N#ID#ID#3#6R9M*Q#961G2#RSA08L#AH#EKRMC#K#P120D#C#0OQ#3T0208#230C#FE3L010#3H1OJ1#V610131E197#E#67212L16111430I0C4U910201#510P010#C#KI3K2U#FK110(O#E#93#4#FK0#R#AD0$7Q#56(P#B%K#VV72027111NF010$U72#6G010S0A#770L0B#DJ0I$8)7#0V81#4H0#HT%G6111#5L0P5111VE0.7IF01C1#1%S0$FwP%6%EH)3$[C%0F##FH5P%wQ5[6)_PT#~2@O7UH$EHTI#FG3VK5I<G#C)J#V&0$A50$2C$0110S(zN8#)L#99+~7316111,2F0T220E38;B$+4%A5C3879(Z6$K1$6112021231B10161$01327161R131410361.J2O1O1U1O1U1O1U1O1U1O17#XKU65+5#T&I#CA6G0.1TI#B>4R*4T20>F613111E1)4#R$370#(K31Q1110201913101060401010121110201010101011102316131310191G52141G&.4#,|V#0&#P6)T2(^1E*,GF]D$<2?T#>2&YA5&$V"),
  ("Ideographic",
    ";!61P8E2y5)<V$0^>V|+0:D2%9x+A0R(zN8#)L#99,%7;B]+4#,|V#0&#P6)T2(^1E*,GF]D$<2?T#>2&YA5&$V"),
  ("Join_Control",
    "+!C1"),
  ("Logical_Order_Exception",
    "%[04%R4$~G220#&*Q12011"),
  ("Lowercase",
    "%1P#F0A040#4N1710101010101010101010101010101010101010101010101010101011101010101010101110101010101010101010101010101010101010101010102010122010203140203220201010201110203010212260202010101010101010111010101010101010112010301010101010101010101010101010101010101010101010101010101016202110401010101$41#371U4%00#B0103023I0R#21132101010101010101010101014102021#J#F101010101010101010101010101010101090101010101010101010101010101010101010101010101010101020101010101011101010101010101010101010101010101010101010101010101010101010101010101010101010101010101010101010#G#8$Y7#A13~O5$&2810%L(V$1010101010101010101010101010101010101010101010101010101010101010101010101010101010101010101010101010101010101010101010101010101010101010101010101010181010101010101010101010101010101010101010101010101010101010101010101010101010101010101010101010101885A78785A7878D2787878411603211832187A211%P0D0GC%D03130R04040218340#1F40YBP#Y6#F10311010104011173010101010101010101010101010101010101010101010101010101010101010101010101010101010101010101010101011701040C#51050y+J010101010101010101010101010101010101010101010J010101010101010101010101012&5010101010101210101010101010101010101010101010101010101010101010101010101019101020101010104010201210101010101010101010505010101010101010401020301010101010M21012XL#A1D6$F]Y06C4##9P#)D#7&8#3&RA1E1611=30221#918#+5#I%TL$XQV_;0VX;QPQ61HQPQ310161AQPQPQPQPQPQPQPQPQRSO15QO15QO15QO15QO1510#XK91J65+5#T$(K#1"),
  ("Math",
    "#B0G2V0T010#D040#50V0|O220Q122?F2)?D0R2B030D0E3L4B4$1C403144I04029102560312112153D10$4N1511414V1061E+B83K1$Q0UQ10O0B6<T1C945412134E01025B751#P010T392.G#V+0>V#GK25#]yS0XN510(20G2T010T010&3063%<11#@]G$K1$6112021231B10161$01327161R131410361.J2,32#H(?031Q1110201913101060401010121110201010101011102316131310191G52141G#K1"),
  ("Modifier_Combining_Mark",
    "#[K120&306031>111230V0"),
  ("Noncharacter_Code_Point",
    "#z=GV?E1#zzU1#zzU1#zzU1#zzU1#zzU1#zzU1#zzU1#zzU1#zzU1#zzU1#zzU1#zzU1#zzU1#zzU1#zzU1#zzU1"),
  ("Other_Alphabetic",
    "Y50TC[0D10111110$8A#GC16G0%56432140#30UF%6A%51381213%A0#SB366J#M12E1152A1T2#Q62121A0A1T2#Q4412140U130B2#Q71211L1M242#Q6212191A1U0#R43212A0#84#P6121281B1T2#Q6121281B1F0C3#Q61212A0A1T2$B51017I1#T026I0%302511G0(3I9A1#3%EB1023N342122633DB10A3#]K1U1U1U1$2I(S1#20%MB48)U4#P92J$A1B2#H4#GE#S2U821#PA#II;S#1#|1#J$*MVy%K7#21:2080N4$O1#IF10#P0#64SB#D3#GB#50$3DC081#D2#I0122150#C450*D7]XJ0$$N4#^621153WK3$10.11$F0+32#LD#D1B2#D890#T2#4BI1#P2#GCE1$S8206020&T9N3#Q62121A0A1$K810201311%7C12%AH*D626T1$IE10%AA%7D+1C*N511213010&E62540S9#A413IA#ED;N716$JL1D%Q53011121030$241113.S39110#G632?=TG%@001#M73$T1](C0+Z161G261114%40$(N0#z8P6P6P"),
  ("Other_Default_Ignorable_Code_Point",
    "YF0%?F1#[J1$(F0&*U0#]@R0$F8Y!!701T%0%V*G%?F"),
  ("Other_Grapheme_Extend",
    "$<U0O0:60O0%60O0*A0I1%70O0%N0F0%.L0#)M0&#11#]ZE1&wU0O0.O0C0*H0w00#=#K084W:_D$V"),
  ("Other_ID_Continue",
    "(N0|F0%z18#]80#@H1&*D0#]]90"),
  ("Other_ID_Start",
    ")&51$&H0L0%ZC1"),
  ("Other_Lowercase",
    "(A0F0>L871U4%00#K0%;10%#F#UD0#2#4_H0D0GC)JFYGP#wI1y?U1)I0&1231Z2390~!M0221#918#|%L#T"),
  ("Other_Math",
    "$U0ZH220Q121*#00R2B0#03O1E1$1C403144I04029103460312112153354$B4231111101421414H2110161061,23(8110O0H0<T1C854512134E01025O1#P010T391.M1V9;JL#V3#01#_%301040)J010#_)1$K1$6112021231B10161$01327161R131410361.J2O1O1U1O1U1O1U1O1U1O172#H(?031Q1110201913101060401010121110201010101011102316131310191G52141G"),
  ("Other_Uppercase",
    "+:0FY6P%]%0P6P6P"),
  ("Pattern_Syntax",
    "#1EA6Q310Q3#2610111011404030N0V0*WON8E2I19,H|F(0]LU#%B?0%V;124OF0#]+D1+51"),
  ("Pattern_White_Space",
    "94I0%40*w81O1"),
  ("Prepended_Concatenation_Mark",
    "#?05)N0#H0;01$G0$#yQ0F0"),
  ("Quotation_Mark",
    "#2040&30F0*YS7P1%?70=93D2#]@13(T040$Q1"),
  ("Radical",
    ":^0P1$OC)L"),
  ("Regional_Indicator",
    "%w>6P"),
  ("Sentence_Terminal",
    "#10C0G0#.90&J2(K0#B2*M0#T01031,51#~41WM041W50)61)C050,Q1:23(E121T1(S1$11xS192%>40D0M1<D0x*S0+E1*3030:U1$M1$V0&O1&J2&G1*P0^]6031(90C0G0$10$~K1#*T4#C3(T1%L3%V2&1160G1$O111%C0,A1%L1:L15E%91*P2?5010*R1$N1<41_K1$A1[X91&50$11B0@91,80]?60*>80"),
  ("Soft_Dotted",
    "%91)40+P0U0#K0K0.00%2010)+90#J0D030&40&T0<50)M1$XI0%,x51#I1#I1#I1#I1#I1#I1#I1#I1#I1#I1#I1#I1$&60,H1Q0"),
  ("Terminal_Punctuation",
    "#10A010B130XU080?10#P0$80E012(K0#BA10*B1#MEV0+51#*K1(C045,N1WL7W50%S2$71&T230#7321,Q1:23(E112T1(S4#U1xS192%>40D040A01131<C1x*R1+D2*34:U1$M1$V0&N2&J2%V0G1*P0^]4213(90A010B130$1020##Q0#G0#&60)70,M1&O5$45$P3xO4#C3(T6%G3%V2&1160G1$O4%C0,A1%L2C1:633E%91*P2?5010*R1$N141;U2#D0^51$A1#,B4@>P1&50$12A0@91,71]?60*>73"),
  ("Unified_Ideograph",
    "<!0)<V$0^>V|?E11011A0101122$#=M#,|V#0&#P6)T2(^1E*,GF]D&<2&YA5&$V"),
  ("Uppercase",
    "$1P%5M16#101010101010101010101010101010101010101010101010101010102010101010101010201010101010101010101010101010101010101010101011101031101112231112311110101110201112101130702020201010101010101020101010101010101020201210101010101010101010101010101010101010101010101010101010107111201310101010,10103080601210111G18#30223010101010101010101010105020112#I#G010101010101010101010101010101010901010101010101010101010101010101010101010101010101010111010101010102010101010101010101010101010101010101010101010101010101010101010101010101010101010101010101010102#5$Y9#51050|I$L$&J06#A22.001010101010101010101010101010101010101010101010101010101010101010101010101010101010101010101010101010101010101010101010101010101010101010101010101010901010101010101010101010101010101010101010101010101010101010101010101010101010101010101010101010109785A78785B010101087$83C3C3C4B3+6040322220346010101323A150QFJ0XIP#XG#F#G0122010101310208210101010101010101010101010101010101010101010101010101010101010101010101010101010101010101010101010801040y.D010101010101010101010101010101010101010101010J010101010101010101010101010&7010101010101030101010101010101010101010101010101010101010101010101010101010A010111010101040102010301010101010101010101414101010101010101310113050101010O0_XBP#)5#7&8#3&SA1E1611#~A#I&TL$XQV_;0VX<0PQPQPQ01120212317QPQ1132716R113141036RPQPQPQPQPQPUO#1O#1O#1O#1O#10&,L#1$!EP6P6P"),
  ("Variation_Selector",
    ")!B210#X>GFY!~G*F"),
  ("White_Space",
    "94I0%40Q0(=V0$:VAT150#F0%x00"),
  ("XID_Continue",
    "#G97P401P#F0A010205M1U1=94BE47010H%K11321064101J1$I1&A142(51#5206#88#C101111108Q43TA5$94%517291I20G#Q2%4E#L40202#DIR4A5N158$A1&0291I17212L1610332821238041142BA0102215412L16111111201441223073107FB218121L16111429121220F329961217212L1611142821227241142910G115321331101131323B4432132060E9GC121M1F2812137112202329G317121M19142812137161132912CC121#I1214537429A5121H3N181026304510176921D#P5E19#7110141N101M2410161923#00N169B01010491#34J1H1#390#P$96$D2#510502#A1.C132610132#8132#0132610132E1#O132$22298EFG$L253]B2G1P5$A3A7L9LBJCC1211C$J304129#121A6$O7#A5$5AU1B4BA#724B#B4P6A#5R4#U1S2A69D08D1F#H$C39H8C%JC#N893#G2A5#A22G21#65?L252#525271010101U2#K1610321633254C5216F1#H1J0S0D0GC#JC403BH0402910256010101F235440H#8$]N*468C#510502#N70FN96161616161616161V?52PE14244$L21221$U5#A1$THV#GF?0)<V$0_^C$3#D2+C3RK#F491%I#582%62$2211017L#L40J#JC$5A96N301#G2#3CS3$0EA6U1#M9D296M3$8O22F24A5252596161#A1D6%Q11296.x3CM4#G++4:D2%9#66C45B1C141011111%B#1&A6)PI#V2#L#896FGF31O2#1010301010101%TJ97P401PA$P35252522#3B1P1I111E2D#2%Q$5#K&80&2S3#GF0VVDT5#A5T2#34714#A&T296#34#34#78#JCA1E16111A1E16113#JC,M9LA7O51#918$55201#B11302MAM9U$1I11ALAP$6#N61$031157121S2240#0S3S#371TP#LALAIDH%E$8#N#ID#ID#7896#5341M*Q#91131G2#N#0A08#0VL#AKRM9$6VF9#R70DO796#K19438#3209$4431C10#3H1#463#U610131E197#Q596317212L1611141921222060562634B910201#51910201317D1T$A5943U$51089(6#L28N5#2$030B9#6#O796JSQ2E4966(P#Q%5$9L72027111T1128C9$672#D2711R#U808$930I$8)7#0F9681#C18F9OT2L1D$96111#B3011188965111#4111579,MM9G1#834DA$L0$FwP%6%EH)3$[C%0F##FGLA%wQ5[6)_P#P#|6@O7U196$E196T24B#M93C99K5I<G#C39)6#V&0$A4#O7G$0111B1E(zN8#)L#99+~7316111,2F0T220E38;B$+4%A5C387931&$H9?6#D2M?U4358726U3&K2<R$K1$6112021231B10161$01327161R131410361.J2O1O1U1O1U1O1U1O1U1O172#H?0#M4#H80E0M41E#$GU65)L61G2611145#T#10%G#C3D2940.1UH#P=M#9)M#A>5613111E1)4B6#9$B49#(631Q1110201913101060401010121110201010101011102316131310191G52141G%,K9#!6#,|V#0&#P6)T2(^1E*,GF]D$<2?T#>2&YA5&$V_~.G*F"),
  ("XID_Start",
    "$1P6P#F0A0405M1U1=94BE47010&141132106012101J1$I1&A8(51#5206#8$7Q43#D#A#311%210F171A220G01TT$OB0O#091405L409030NO7A5N15H#9#Q#L30I079FF47212L16103330G0D112E1A085412L16111111V310J2G8121L16111430I0F1N0B7212L16111430U112F0H015321331101131323BM0#K7121M1F30Q22021U047121M191430V111F1H8121#820G05282O55H3N181026#Q#F10D6#Q110141N101910A02410L3#00#V71#3R4%J#AK0G5433031724CC0H#510502#A1.C132610132#8132#0132610132E1#O132$2#5FG$L253]B2G1P5$A3A7HDIEHEC12F#J#3040$3$O7#8105$5AU#HT24B#B4P#MM9#K$I0$T#EH7#MTD1A#BQ#3#92A#32A5#A22#931511305(V$0+L252#525271010101U2#K1610321633254C5216%K0D0GC%50402910256010101F235440H#8$]N*46331C#510502#N70GM9616161616161616@62P874244$L621$P135#A1$THV#GF?0)<V$0_^C$3#D2+C3FA1K#EGU2$F#782%62$2211017LF12131MT#JE#H#U53011BRAMPS7#ES0G419A41#8N217KM303#H1031242010O22A72C5252596161#A1D6%IT.x3CM4#G++4:D2%9#66C450191C141011111%B#1&A6)PI#V2#L#89%N010301010101%T#4P6PB#N2U35252522#3B1P1I111E2D#2%Q$5#K+BS3#G#FVDT5#5AT2#34714#A&TI#34#34#78#JCA1E16111A1E16113#JC,M9LA7O51#918$55201#B11302MAM9U$1I11ALAP$6#N61$00F3121S#AS3S#371RR#LALAIDH%E$8#N#ID#ID#3#6R9M*Q#961G2#RSA08L#AH#EKRMC#K#P120D#C#0OQ#3T0208#230C#FE3L010#3H1OJ1#V610131E197#E#67212L16111430I0C4U910201#510P010#C#KI3K2U#FK110(O#E#93#4#FK0#R#AD0$7Q#56(P#B%K#VV72027111NF010$U72#6G010S0A#770L0B#DJ0I$8)7#0V81#4H0#HT%G6111#5L0P5111VE0.7IF01C1#1%S0$FwP%6%EH)3$[C%0F##FH5P%wQ5[6)_PT#~2@O7UH$EHTI#FG3VK5I<G#C)J#V&0$A50$2C$0110S(zN8#)L#99+~7316111,2F0T220E38;B$+4%A5C3879(Z6$K1$6112021231B10161$01327161R131410361.J2O1O1U1O1U1O1U1O1U1O17#XKU65+5#T&I#CA6G0.1TI#B>4R*4T20>F613111E1)4#R$370#(K31Q1110201913101060401010121110201010101011102316131310191G52141G&.4#,|V#0&#P6)T2(^1E*,GF]D$<2?T#>2&YA5&$V")
  ]

end FieldSelection.Text
