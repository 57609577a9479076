import FieldSelection.Text.Packed
/-!
# General categories

The code points of each general category of the Unicode Character Database (version 16.0)
that is not made of others, by its long name, as packed ranges (`Text.unpackRanges`).
Surrogates are left out, since no character is one, and `Unassigned` holds every other code
point that no category names.
-/

namespace FieldSelection.Text

/-- The code points of each general category that is not made of others. -/
def categoryRanges : List (String × String) := [
  ("Close_Punctuation",
    "#90#J0V0%_T010#YU0$<90#N0F0]Q010U0##U0101010101010$G0#0010101010;K010101010101010101010$0010#10##50101010#C0101010<C0101010103010101021#]+U0)P0T01010101010101030H01010(A0#J0V02020"),
  ("Connector_Punctuation",
    "$V0*yV1J0#~=U1O2*F0"),
  ("Control",
    "0V$V#0"),
  ("Currency_Symbol",
    "#40%T3#*90%R0>I1>I170*L0+70[50$;R0$)4#0##ZN0_=30%C0&Q0)R131*zM3#?WU0$<G0"),
  ("Dash_Punctuation",
    "#D0#.S0#J0%[10#!50$!95%?1020V140S0<U0J0%F0#];G1#50A0(90%]00,U0"),
  ("Decimal_Number",
    "#G9#@69&69)69;S9%M9%M9%M9%M9%M9%M9%M9%M9%M9%09%M9$69+M9$69#Y69#69,C9&09(6969(M9$M9&6969#$=69_69#69)69M9$M9;M9^WM9#;69$&6969WS9&09#S9&G9+M9.M9%M9:M9%696J$C9<69%69^M9$M9*M9$69<69?=M9$,69$M9&69?M9~ZM9$|K#H$.09<69>M9*N9YL9&^M9"),
  ("Enclosing_Mark",
    "#&81(@K0#?U312##;B2"),
  ("Final_Punctuation",
    "(R0*YT030S0%=80104020F030"),
  ("Format",
    "(D0#.I5M0)00#H0;01$G0%XB0#zS4Q4#H419#~^F0*P2&)10F0+Z2F#$%03()F7W:^60U$V"),
  ("Initial_Punctuation",
    "(B0*ZC02120P0%=80104020F030"),
  ("Letter_Number",
    "(~E2$]F#223%]U0P8E2x_B9|[G#K=C080&64+#A%E"),
  ("Line_Separator",
    "+#80"),
  ("Lowercase_Letter",
    "%1P#Q0#9N1710101010101010101010101010101010101010101010101010101011101010101010101110101010101010101010101010101010101010101010102010122010203140203220201010201110203010212260202010101010101010111010101010101010112010301010101010101010101010101010101010101010101010101010101016202110401010101$41Q)10103032I0R#21132101010101010101010101014102021#J#F101010101010101010101010101010101090101010101010101010101010101010101010101010101010101020101010101011101010101010101010101010101010101010101010101010101010101010101010101010101010101010101010101010#G#8$Y7#A22~O5$&2810%L#B#VC1#1%6010101010101010101010101010101010101010101010101010101010101010101010101010101010101010101010101010101010101010101010101010101010101010101010101010181010101010101010101010101010101010101010101010101010101010101010101010101010101010101010101010101885A78785A7878D2787878411603211832187A211+I03130R04040218340#L0$_B#F10311010104011155010101010101010101010101010101010101010101010101010101010101010101010101010101010101010101010101011701040C#51050y+J010101010101010101010101010101010101010101010J010101010101010101010101010&701010101010121010101010101010101010101010101010101010101010101010101010101017101020101010104010201210101010101010101010505010101010101010401020301010101010Q030XL#A587$F]Y06C4##9P#)D#7&8#3&RA1E1611#W3#I%TL$XQV_;0VX;QPQ61HQPQ310161AQPQPQPQPQPQPQPQPQRSO15QO15QO15QO15QO1510#XK91J65$>N#1"),
  ("Math_Symbol",
    "#B0G2#T010#D040#50V0~U0?F2)@R0D0#72D2&B0#7460$445140202070V12010V+B#01$Q0UO#85=L090#M7%F0.G42UAF+0&2M#U4V2+1#GK25#]yS0XO012(40G2#T010&3063%<11#[,H0P0V0P0V0P0V0P0V0P0(XC1"),
  ("Modifier_Letter",
    "_GH4BE47010&5050=U0*60(41+D140V09030(00(70#)K0%V0@L0#|Q0%B0]30=G5(E#UD0#2#4_H0D0GC$yV1*H0(V0=L0#B450%11$T2ZWM0#*25+E0%I0S1%P8$G0N0%9231=L0M0&90%C0L1%7390_!60#D1#z051#918#;J0#00~=G3>S2#81@6C$0110?!C31611;#H#T)96xD0#$V0"),
  ("Modifier_Symbol",
    "$U010$70604030?93CD56101G%L0E1#+20(XK012B2D2D2D1&&S1x]3M91%71yG0E1^$6GZR010(20#x!N4"),
  ("Nonspacing_Mark",
    "W0%F+J4+9#C10111110$8A#GKG0%56252113#30UQ$RA#Q890O3181214#B2#R8#AN1V#N010474036A1T0#Q04380K1Q021#P041412230U130B1#P0441140K1M510#Q020138071B1U0#T0C0#I030#N012521371B1T0#Q0206051K1S1#P14380K1T0$807210$Q026C7%2028B6$91R01010#ND14115A1#390%63151121P142G3D02160F0_V2xI2T1U1U1$0116802A90#D210%L1#20%M2419062)R120#Q0161010276920#GD1F#H3#G0141050#88C1#032112#O0113012#Q721&O21C16406031)6#V|GC403B$zU2&D0%0V@A3%B1x=K049#01$G1+G03040P150&N1QHD0#67PA#E2#G02321#70$352121C080#F0#J012215110#A180*E02040]XG0~1FGFyD0*20&L4#^621153#8240(51@T3$14,T1$F3$6A#H3%R0#ME#9021A2#H32170#T2#4417#U0C1#K8A320$V220116020&T037L1#P130#5634$65D01010E1$L72210N0$K5104111*E36111R1$L72011%A0102510%522314+3811+011040&G32140#09#8523809522#EC11;M61510$IL261111%Q530111610$813010.R1B1#K45010N0(*506E:)8B32$=04#R6#!O0#V3$H0](O1&]1#D2M@02H726U3&K2#xR#M4#H80E0M41E#.G61G261114%40(06:N0#T3>S3*U1~06%D6W(xL*F"),
  ("Open_Punctuation",
    "#80#I0V0%_U010#YU0$:U030#60#N0F0]Q010U0##U0101010101010$G0#0010101010;K010101010101010101010$0010#10##50101010P0I0101010<C0101010103010101020#],10)N0T01010101010101030H01010(A0#I0V03020"),
  ("Other_Letter",
    "(A0F0+0043)G0XRQ43#DV19#311%210O1A220G01TT$OB0O#0LL#AO7A5N15H#8#R#L30I079GE47212L16103330G0D112E1A085412L16111111V310J2G8121L16111430I0F1N0B7212L16111430U112F0H015321331101131323BM0#K7121M1F30Q22021U047121M191430V111F1H8121#820G05282O55H3N181026#Q#F11C5#R110141N1019119024N3#00#V71#3R4%J#AK0G5433031724CC0%H.8132610132#8132#0132610132E1#O132$2#5F%H]B2G1P5$A677HDIEHEC12F#J#80$3#21#K742#1105$5AU#HT24B#B4P#MM9#K(G#EH7#MTD1A#BQ#3#92AT%H3151130##Q3$zN#NOM9616161616161616@70#L04$L801$P405#A1$THV#GF?0)<V$0^?K1#%M$3#78+B4FA1$20#H$5(90%703612131MT#JE#H#U53011BRAMPS7#E#D428A41#8N217KF15303#H1031242010O13A70E525259616&H#2T.x3CM4#G++4:D2%9$30191C141011111%B#1:AI#V2#L#8B%K41&6%991#C2U35252522#3B1P1I111E2D#2%Q;5S3#G#FVDJ176#5AT2#347&0$D%2#78#J$S#JC,M9LA7&O5201#B11302MAM9U$1I11ALAP$6#N61$00F3121S#AS3S#371RR#LALAIDH%E$8(N#3#6310,G#961G2#RSA08L#AH#EKRMC#K#P120D#C#0OQ#3T0208#230C#FE3L010#3H1OJ1#V610131E197#E#67212L16111430I0C4U910201#510P010#C#KI3K2U#FK110(O#E#93#4#FK0#R#AD0$7Q#56(P#B)J72027111NF010$U72#6G010S0A#770L0B#DJ0I$8)7#0V81#4H0#HT%G6111#5L0P5111VE0.7IF01C1#1%S0$FwP*6)3$[C%0F##FH5P%wQ5[6)_PT#~2@O7UH$EHTI#F#JK5I<J#7;L$A50(F(zN8#)L#99+~N,2F0T220E38;B$+4%A5C3879+]G0>L#C#10.1TI#B>4Q*5T20>F613111E1)4#,R31Q1110201913101060401010121110201010101011102316131310191G52141G&.4#,|V#0&#P6)T2(^1E*,GF]D$<2?T#>2&YA5&$V"),
  ("Other_Number",
    "(I15022$,L5:O5%O2&56)P6H8<H9##LJ#%J9>00#^L03569)6F#90|M#R$EL]MT#:90#&K3&A9U71E#09#7Ex:G5|)H#C$13H1.LQ#43#,K7P6#78$B4M5(012F2#D$08#K1U2$B4%87O7#96.A5:0U&U9#A3%G6&6J:RJ#.51<E8Z7IYJK[w66WUMX#9JCJ%CO(.E8x1#Q1213$C#C1Ey2C"),
  ("Other_Punctuation",
    "#1212201011A131R0$4050E170_U080=I5#90#M02020#C1K111D012$A3%60#BD*92#MEV0+51A0&C0%O0%P0;60C0:F0$Q0A1(8E10%G0$A441%F5(B0]48W50%S2$71&T212#5513,P1)O1&0615(01A6S2%S3#R4#U1$07B0Y21878823223A1019%&Q311%G0&F1422028111021A41923101C22<C2#P0(T0x!21+D2%30A0%J5:S3$M1#8210#H1#F0%1CG1%S3%U1G1*P0^@4620M0K1233213726011&L212201011A131R0#4021;Q2^S0#G0;U0~70)70V0+G8#60%G6$26$P3xO4#C3(T6%D113%U3#G1$F340D012$O5%B0,A111%I4A110%80*QM%92SC$C0&22*S0+82&R0$S7$J214$T9)N0$V4#A1^51$AC(F0#%G4$ZS1=]R1&50$1480@82,73.70](S0*>74$ZJ0YU1"),
  ("Other_Symbol",
    "(60204010yH0+A1%V1)E0A0J1*N0?30:L0&2510&40)F0#90;72F01225K01010&57151153)51~G9|J0|I0&T#1:1998#;311311A0116510101040B1E01110#Q194231111161U21101U+C74J262$G1TP#76$7MA$H$DM(M181#L8%E1*N#C#B$0*V?0#FL16#62V1%8*55:51#EP1$OC)LQF40D1C0L161.G149#0#590GUBT80FVA#6F,V)=0#V_^G#MZ13A110@T2^|6F%V0#D2>403041D1,P8#PG221C30#F#C#]Q1[F0%%M0$&L74G[YA350^.M0%Z3*FG<J&S%J#S*LA#62#R52M17T4#SL$130(Q$M#(9>V#N3#I71D11#|80$YS0&10|H#B4%3CE2E1E1#4N(0#OSD#B4871E5&Q*Q5|N4G3C3%M4$U6B40FB4#N896#78T2B41#U.JCD2C395#N7E2A687&I1$R"),
  ("Paragraph_Separator",
    "+#90"),
  ("Private_Use",
    "#W!0)*Vw#W0#zzT2#zzT"),
  ("Space_Separator",
    "#00%V0(=V0$:VA#40#F0%x00"),
  ("Spacing_Mark",
    "$+30#N0228311#I1#Q26121A0#B0#Q2$20#Q28011#L1#Q0106121A0%61113212A0#92#T3#T1#Q014211191S0E1#Q25212A0#A1$B267I1.A1#V0(B1406021P1A226L12520A2#]O0U0&107711.Q3224115*01#Q010901185&H0#G0501411#T0U04120#S0221031#G781(B0L0&XM1xzJ120$O1#IF&E1#F0#G14122%E121O0#D010%D02150*D1111110X!J010%V0#D241%J0O1#R0#G291D0$T23110(A2V1#Q113212290A1$K27020131110%528130%A2601320*D26320%H28110%D01160%9140+5290*N511402010&E28340$K0T1#U0;N0E0%A07020)L44110.U1C0#G18110?>82%@4#M%81W:J165"),
  ("Titlecase_Letter",
    "=502020#60*;L78787C0F0#F0"),
  ("Unassigned",
    "ZO1637010K0;D0#61#I130#N7R36A+E0#S1%5D#R1#H1F0S110B4V024*D08121M0701241912147132051P1306321M07020202110532132164016H9309030M0702051A030311E41C670308121M0702051912136332051I9206230422010222232C3523041151DL4D030N0G190304620311141A6M030N0A051903046252041A03BD030#J03063G1Q030I2O090117213601085A13B#Q3T#4201050O010N1501070A14V$80#43#70#40F0D#4)601411:P041701041#9041#1041701041F0#P041$31#02Q5$M161^T2$P6M8O8KBD0302B$U1A5A5Q5$P6#B4$69V0C3C312#A15A#C3Q5B2#U1$10T1B5A5E1V#G$D0(67#S2F2#U4#B1B7#B4?M161#616180101010V1#L0F0E160J13090%50C1R0D2#1E#1E&C3^QLBK#WK1#00.T4#D01411#O62DO87070707070707070%U#1Q0$PB)MP$G0$M1%74#B0$U0$M8#G0w]D2#N8.SJ(O7)E120108K#R2A5#O7$67C5%KAU2$E0B3#10#N8E1A1%7NS96161687070#S3%U1A5.x4BN3#H3+]E1%A#57B54Q050102020%TF<T1#M61V#A5#J0J04350&7110(U261616132707951C0Q0J020F1E#1%R433#D2$O0D21#E#E&1T2#HES3#48U4#B4U0#53E#9&U1A5#43#43#87#KAC0F07020B0F07022#KB,N8M98N60#A09$46110#C02211N0$879#FJ024#12R41#V#O3K1#I0248030T133A696$0V#73C8#M2T1R4Q64B7$F$9#M#JC#J6#E7A5#62T72)FV0#A0312F3#M#C7#ALQ#5SJN8$E3#48$4911P6A5#L0I7#78%00KAI0#F#T701040F0B5#R4A5408121M0702050A12131151471725AA01110#60A0111040A0272S$S05T$87A(5#M1#6#1$5AA5DI#Q5A5KRR1F3N(O#S%3$JB81118020U021C8A$581#E1BQ$87$JC$96A(L#2DA590#D0E9T2#01M0E$87020#C2102097A56020#502066A,LP6H0#92T$K1E#ICwR%5%F05A)4$[B%3C#$M9%wR4[7)_O#Q#|5@P6V0A3$H0A5U169$69A070L4J<F#Q)5$R%4$B3#P6H#V5A2D(zO7#)M#8A+~6407020,3E1S311D47;C$+3%B4D296A18%YR*Q5<K$B#E1N8%K#R*M9#71)2K$6%PKBKB$N8P&6$L0$7021112140C01070$10418070S040501270.K1,41_UE50F#$FV56)K70H1702054#U#01%F#D2E1A32,VVG#Q41=F#A)L#B31=V704020F0)51G#8$C3A32WG$4$B#T)140R0201110A040101513101010302011101010101020114070404010A0H43050H#J2+D#C3%4BF1F0F0#59(E#NTC#C3962D6&PyO3H2D2%N3$V5C31EC3#O7A5#87U1C32#T.KBE1D2A4#O6F1B596&J0%6#!5#,~0V&#Q5)U1(^2D*,HE]E$<1?U#>1&YB4&%0_~$G1T%0%V*G#z?F#zzU1#zzU1"),
  ("Uppercase_Letter",
    "$1P%5M16#101010101010101010101010101010101010101010101010101010102010101010101010201010101010101010101010101010101010101010101011101031101112231112311110101110201112101130702020201010101010101020101010101010101020201210101010101010101010101010101010101010101010101010101010107111201310101010,10103080601210111G18#30223010101010101010101010105020112#I#G010101010101010101010101010101010901010101010101010101010101010101010101010101010101010111010101010102010101010101010101010101010101010101010101010101010101010101010101010101010101010101010101010102#5$Y9#51050|I$L$&J06#A22.001010101010101010101010101010101010101010101010101010101010101010101010101010101010101010101010101010101010101010101010101010101010101010101010101010901010101010101010101010101010101010101010101010101010101010101010101010101010101010101010101010109785A78785B010101087$83C3C3C4B3+6040322220346010101323A150#T0$]S#F#G0122010101310208210101010101010101010101010101010101010101010101010101010101010101010101010101010101010101010101010801040y.D010101010101010101010101010101010101010101010J010101010101010101010101010&7010101010101030101010101010101010101010101010101010101010101010101010101010A010111010101040102010301010101010101010101414101010101010101310113050101010O0_XBP#)5#7&8#3&SA1E1611#~A#I&TL$XQV_;0VX<0PQPQPQ01120212317QPQ1132716R113141036RPQPQPQPQPQPUO#1O#1O#1O#1O#10&,L#1")
  ]

end FieldSelection.Text
