import FieldSelection.Text.Packed
/-!
# Ages and text boundaries

Packed ranges (`Text.unpackRanges`) from the Unicode Character Database (version 16.0): the
code points first assigned in each version, oldest first, and the code points of each value
of the grapheme cluster, word and sentence break properties. Values with no code point,
and the value `Other` that every remaining code point takes, are left out.
-/

namespace FieldSelection.Text

/-- The code points first assigned in each version, oldest first. -/
def ageRanges : List (String × String) := [
  ("V1_1",
    "0>L4T#O$O7#E19M$5Q1I1403056101J1#B16301010101HDB1$11B1#89#K21213R2721#N#5261#610#6918CQ54N0E0301P5IDD2$7241E1T29?721#K2H243OG217212L161033201621229041142K7025412L1611111120144122B3107EC21610121L16111429121220F059H217212L1611232731228141124AH11532133110113132371244321390FBE217121M1914461213719149I117121M191446121371701149I117121M1F452213908149&H#P4S#51102110206316121010211C122410152921=2#5A#6404$P5$35$H%!6&Q5$P6L252#525271010101U2#K1E1D251I22181#E1M#363QHA#5HU#OQ#FD$QL*HE01%O&5#4RAL&AL&LA$FGJ6$L&H3132R1#21013301626EU3N1D$$1#N701$J452$T6#74$T1F%0S3#3SR3#HFB4#E1%M4%22U)?1^<5?$Q)@D)I6C46O141011111%B#1:CG#V2#L#8B#43CK491I1342101&6201$T2$T352525223616E2"),
  ("V2_0",
    "#;HG1CK0$,R$71#07Q45101K3610%~10?F0#$YK.x3$S#zV$*zU1#zzU1#zzU1#zzU1#zzU1#zzU1#zzU1#zzU1#zzU1#zzU1#zzU1#zzU1#zzU1#zzU&!!1"),
  ("V2_1",
    "+(C0#~YF0"),
  ("V3_0",
    ">M3U72H%L4#H0A4$N8J0%K030101010U0C0$20C0#A123$S1&S0)82%2150F0#A41D1T3Q#L#G#=H11H3N18102630451017I2:L0#B0N270121E20#G#1141116336P<661#U10132610132#610132U101326101326161M1U1013261#61I6R#3$KC]L9S3$G&F$S39ME196$N8#9#w50O5$V2#I1$L1$80%78+D0%P01T&A1=97#10$M1;E*V#;0P1$OC)LQB#S230:1N[8)<L^[A#&C3H2F1B1210_[M0#)R2"),
  ("V3_1",
    "zK1#y=QV#+GU13CQ(L#52#5#[xI*LA#63(J@2$K1$6112021231B1013111$01327161R131410361.H4,14#H.!0#,|M^,9?T|#>30U$V"),
  ("V3_2",
    "@00,E0JC%81S0&J1#P12121#HF.U1.10$.51#?7C16BM9JCC1211$)J0644074D0#U1#I6$IE(8B*ID%S0U#J+SJ&N9$O7M1$QB29)UD$QR4F+0>V#,R2$N181$U0*GF$HE$HEw>21G0C030_:A#QwH03F#L1#C0*B1"),
  ("V4_0",
    "@10I2%N1#VG$G752&N4?4398$02&L1F0#D2T2<K0(O0$3010&80$K2D0$30#R0&17)11$WV0I9+6S3B4B403#924%BVW0%B~71*60^J1,E0+K1%K7E1#$UD#WF1#H0#B1$E3(73%31V0)=0#V#:zT0$91<NB1P1I111E2D#2%Q524#C38[0T10&61#6$F29YM5201#B113020#[|0$M:A0W:#U*F"),
  ("V4_1",
    "@NA+M4&V3*M1(A0#22$30I0#Q5*HT?F0$G0>70#F0z91,7110+A0#V0#V0#70V0V0V0F0#70N1VP#>6#96P6941#0R21YC$N^H116#H4T3#L0$G0F0^4A@S0%51IA5F+E6Y75*C#E1#E#1%AE#CA#L90GM9616161616161616#1N41x2F(E0Z,7L#Y4M*9#B^[4%9XM9X6$A?L#34D#@A31157121Q424888#@x7$5#$U1"),
  ("V5_0",
    "[2D,B2.H0#A5G3(60?5#Q;0111Z21D1%?D$B4#C[76#J1~C3$T1#L0[NB|A0+K3Y9653,SC73y^V351+U#NW&8P50(~0ZE&H%2D3#:~CH#$O1"),
  ("V5_1",
    "ZG321$N0(N0&CF*24B4#04,EH>H1)U0#30)E0T1%C0%C0Q181K7(T060T1C536>B1%1032$D050207245Q#V41$!A0|L#A3B$6#N3E3#I.BR(L3$Q5:40&B0$U0#L3#+K0L933+80V3XB44#834+O21245:2VO32I~S0(2JZ=O7#,S,BKV2H8R&342%A%E4&0$49B#6$JB0(0#M9D2923^y42Z9B#K#D&2S3#G#[FP50#@z90*|M#B4%3"),
  ("V5_2",
    "#,41|Q#D2E)10$D060#31&00#=P3)13(S4$44$I5?00]M8@G$5(K1#E0$5#U1S2A696D@2#2+A0_O2&N2#M0[U0_L1T2491I104N$N0zT4+M0D1%B6,V0#!IBZ:K7#+4#F<0$N,O9(6R%4S3$D1A41&0R4$2O4*0#D29.xMM4#G+]F2%=IL18(Q1.4V&0#L3S2Q57&0$8?NU?1$1*XU##E#>)HA5U20B0102030348070P01120A320%F0F#1E8#<(N&#K"),
  ("V6_0",
    "#,61*O0#U0>0R20)R1J061R4>Q5<H0G0J0@T3$91w21$%1#J83>S0^O7S0XFA|Q0J013T041S0#30104291#K2O0E0E1#<00E0##O2x(51,B111E9$G0W6525259616^&3F(#U$D4T_wG@O@=71?&UE2D2E1E$G01A10111212571619681021194119$BP11#F8L1(E#0F51$53JC#414LGF#U101(L133#TIN&J41F1210101012152310231B4A#G$5#Q%J#>yC)T"),
  ("V6_1",
    "#;F0%K0^R01A#NQ>H0zD1>7050#F2$_B2C5+07#B3$|K010#,41#J050#O1)A9w;G0#_77#30*I1M0$D1~6M]XN1%YG#N61#WGO796#K1D#S$879#(6#N89|#M$4B#EGGz]031Q1110201913101060401010121110201010101011102316131310191G52141G#K1]O1yK3(S0G0301010103061401140"),
  ("V6_2",
    "+(Q0"),
  ("V6_3",
    "#?S0)[93"),
  ("V7_0",
    "ZV0<87$T1%M0^R0B5$C0%O070]V0#J0$C0%V0*49$+17@41;HE@P1*DE|52XM6W50#$C2AP2V2#13B17]A6y$L5*MBB221$50>8U%T3(G#F41^|16YT1J0,VR#30#G#A;5#78#JB0&G,M9LA7*O#U88=GV#0#64B&9H73C6#)F0)G#6$M0C06JBH1#A%I#Q597217212L16111428212290562634+B$789(6#L2H#M$4B9[6$IC0=0#O$%M#9)AB50@=BU1941%0T25A$5A9161K5I^%G%A5C387927.YS)42F#z80#0LL1?KB90$60MB#50535BH6$7010(M041#V146TH1#81$L$61D#F$69GC33&C$K#BB4#N896#78T"),
  ("V8_0",
    "$(J1#E0?L0:00+40#^L025%)00)B1$]03wyT8#|80*G0#25.41]23C$F^]E1$_GI1154(S12F2#D^0#ID#I75#)93E4(0610131E1A$M0$F0]PJ,2P3E4F%$P0*6)3*_S[6#$wNA#?N^BF41E)%T2$E1$F4#47*V0$B4*J1&B0@V8%74#R0#>[V(^1"),
  ("V9_0",
    "$(M7MEwT0)E04216N2%W78:I0#>V3$[41y:90+M0|)71X1#34#3%.20=1$P1010?2C#;J81#C1DAS3V2L1D^X90V(zCJ~I_+D61G261114$)L$A5941$#RH&E0XU0#90,C1#12@2517802B1B4E#6C"),
  ("V10_0",
    "$%0A;H1*S5?00#Q1%xQ0*U3|50XV0#yI0]I4~40Z_7KWY22(|G$78#J2M14[T6111#B30111889^^70?#0+S$H;B>Z45#%D1#21?7BJ08711P0IC#65#OM#_)9*,G"),
  ("V11_0",
    "#:00#70%60?D2)J0,A0%N0;D0%V0$zJ0#!N#A22%~Q2MO4E[B4~00Z_R4#xV081.41W,K1I0_N#789=6#78#9:J0%M2>K0,20_R0*5#R]10|25111#4111579,MO]Y7$Q).I4[~EJ%U6)*O$3#%Q0#=90)R3:K2S4233013OAD971#4O%0D"),
  ("V12_0",
    "%%N0?E020201540707120D0%@V0%|E0#L0[F0y:A524wV1X%OM#%80[O0~772#D2A&V1#,Q#HD0(#G8=WC540#F8$Q1)!E5..O2H3:wO#C3D2941:G#P50#[B0xL#S##E0#:80#40*5B,12#F0#H090#9531A53722#G$JS34252D5"),
  ("V12_1",
    ";~V0"),
  ("V13_0",
    "$(U9^D0<E0%S0%,T1&)M0_O2Z84)zM9^@GC#yA3#A1#L0XR3_@G0%*3#91221*UR:R0&61^A051#&U62027111T112B99#[M0^#J0B1)W1>2#A8X!42$T2#T0#,81#31<J1$Q0%5041#A162T0(80E3FI7692D6#9&I1#M#59#.|T6|,2&YA"),
  ("V14_0",
    "#?T0[IU1167L0IAZ90#00%V0$@F07090*F0_HD%T0#G1]R0|50$ZE0#F0>JAw;V2#y01E11014O2^yD0:TF%V0#E1#ZGA1E16111A1E1611=351#918#xLP*65$C0#>M0&66Z9F()G%2=]T$E19@,631611,03*=T#D2M9%J@51%+LUZHU#,H613111E%|U2+G0;80$I0(E1#C3A382H26786#.z71&$L3"),
  ("V15_0",
    "%*J0=Q0$!#E2XV2$(U9zMG1#83R()L09Sz)S0#20+:AJ%$H5+5#T#10#$0#9&>20&N244$P0^R2F1#42B210E1A1C0E1#>$00~!M&$V"),
  ("V15_1",
    ":zS3>F0(=?0]D"),
  ("V16_0",
    "$&N0&_M1#F0+91#wS2%<Q1x>52C2~>3#J#YC#53S81,I2#N0#&3910201#519102013191181~DJ#)S#1E9Z00(+5%wQ*+5#P%!6#P*w50>W0*P6<J(WS#A40&_I941=7050#E070L02090*1#4")
  ]

/-- The code points of each grapheme cluster break value. -/
def graphemeBreakRanges : List (String × String) := [
  ("CR",
    "D0"),
  ("Control",
    "09111H$V#0D0#:E0&>H0#zS021O6#HF#~^F0*GB<#KF#$%03()F7W:^5V%0%V*G%?F"),
  ("Extend",
    "W0%F+J6+7#C10111110$8A#GKG0%56252113#30UQ$RA#Q890O3181214#B2#R8#AN1V#N010474036A1T0#Q010238090A1Q021#P041412230U130B1#P0441140K1M510#Q011138072A1U0#R010C090#8030#N012521371B1T0#Q02020305171B1S1#P110238090A1T0$8040221080$H026C7%2028B6$91R01010#ND14115A1#390%63151121P142G3D02160F0_V2xI2T1U1U1$0116802A90#D210%L1#20%M2419062)R120#Q0161010276920#GU#H3#G61050#88C1#032112#O0113012#Q721&O21C16406031)6#V?C0)3#0$zU2&D0%0V@A5%91x=K319#01$G1+G03040P150&N1QHD0#67PA#E2#G02321#70$352121C080#F0#J012215110#A180*E02040]XG0~1FGF:E1[T0*20&L4#^621153#8240(51@T3$14,T1$F3$6A#H3%R0#ME#9021A2#H32170#T2#4417#U0C1#K8A320$V220116020&T037L1#P11010M0E634$65D01010E1$L72210N0$H02510201111*B0236111R1$L72011%A0102510%522314+3811*L0A11040&G32140#09#8523809522#EC11;M61510$IL261111%Q530111610$813010.R1B1#K45010N0(*506E:)8B32$=04#R6#!O0#V3$H0](O1&]1#D2M?U012448726U3&K2#xR#M4#H80E0M41E#.G61G261114%40(06:N0#T3>S3*U1~06%D6$_G4W%#0$V&0*F"),
  ("L",
    "&+0$V#)!0S"),
  ("LF",
    "A0"),
  ("LV",
    "#:!00R0R0R0R0R0R0R0R0R0R0R0R0R0R0R0R0R0R0R0R0R0R0R0R0R0R0R0R0R0R0R0R0R0R0R0R0R0R0R0R0R0R0R0R0R0R0R0R0R0R0R0R0R0R0R0R0R0R0R0R0R0R0R0R0R0R0R0R0R0R0R0R0R0R0R0R0R0R0R0R0R0R0R0R0R0R0R0R0R0R0R0R0R0R0R0R0R0R0R0R0R0R0R0R0R0R0R0R0R0R0R0R0R0R0R0R0R0R0R0R0R0R0R0R0R0R0R0R0R0R0R0R0R0R0R0R0R0R0R0R0R0R0R0R0R0R0R0R0R0R0R0R0R0R0R0R0R0R0R0R0R0R0R0R0R0R0R0R0R0R0R0R0R0R0R0R0R0R0R0R0R0R0R0R0R0R0R0R0R0R0R0R0R0R0R0R0R0R0R0R0R0R0R0R0R0R0R0R0R0R0R0R0R0R0R0R0R0R0R0R0R0R0R0R0R0R0R0R0R0R0R0R0R0R0R0R0R0R0R0R0R0R0R0R0R0R0R0R0R0R0R0R0R0R0R0R0R0R0R0R0R0R0R0R0R0R0R0R0R0R0R0R0R0R0R0R0R0R0R0R0R0R0R0R0R0R0R0R0R0R0R0R0R0R0R0R0R0R0R0R0R0R0R0R0R0R0R0R0R0R0R0R0R0R0R0R0R0R0R0R0R0R0R0R0R0R0R0R0R0R0R0R0R0R0R0R0R0R0R0R0R0R0R0R0R0R0R0R0R0R0R0R0R0R0R0R0R0R0R0R0R0R0R0R0R0R0R0R0R0R0R0R0R0R0R0R0R0R0R0R0R0R0R0R0R0R0R0R0R0R0R0R0R0R0R0R0R0R0"),
  ("LVT",
    "#:!1Q1Q1Q1Q1Q1Q1Q1Q1Q1Q1Q1Q1Q1Q1Q1Q1Q1Q1Q1Q1Q1Q1Q1Q1Q1Q1Q1Q1Q1Q1Q1Q1Q1Q1Q1Q1Q1Q1Q1Q1Q1Q1Q1Q1Q1Q1Q1Q1Q1Q1Q1Q1Q1Q1Q1Q1Q1Q1Q1Q1Q1Q1Q1Q1Q1Q1Q1Q1Q1Q1Q1Q1Q1Q1Q1Q1Q1Q1Q1Q1Q1Q1Q1Q1Q1Q1Q1Q1Q1Q1Q1Q1Q1Q1Q1Q1Q1Q1Q1Q1Q1Q1Q1Q1Q1Q1Q1Q1Q1Q1Q1Q1Q1Q1Q1Q1Q1Q1Q1Q1Q1Q1Q1Q1Q1Q1Q1Q1Q1Q1Q1Q1Q1Q1Q1Q1Q1Q1Q1Q1Q1Q1Q1Q1Q1Q1Q1Q1Q1Q1Q1Q1Q1Q1Q1Q1Q1Q1Q1Q1Q1Q1Q1Q1Q1Q1Q1Q1Q1Q1Q1Q1Q1Q1Q1Q1Q1Q1Q1Q1Q1Q1Q1Q1Q1Q1Q1Q1Q1Q1Q1Q1Q1Q1Q1Q1Q1Q1Q1Q1Q1Q1Q1Q1Q1Q1Q1Q1Q1Q1Q1Q1Q1Q1Q1Q1Q1Q1Q1Q1Q1Q1Q1Q1Q1Q1Q1Q1Q1Q1Q1Q1Q1Q1Q1Q1Q1Q1Q1Q1Q1Q1Q1Q1Q1Q1Q1Q1Q1Q1Q1Q1Q1Q1Q1Q1Q1Q1Q1Q1Q1Q1Q1Q1Q1Q1Q1Q1Q1Q1Q1Q1Q1Q1Q1Q1Q1Q1Q1Q1Q1Q1Q1Q1Q1Q1Q1Q1Q1Q1Q1Q1Q1Q1Q1Q1Q1Q1Q1Q1Q1Q1Q1Q1Q1Q1Q1Q1Q1Q1Q1Q1Q1Q1Q1Q1Q1Q1Q1Q1Q1Q1Q1Q1Q1Q1Q1Q1Q1Q1Q1Q1Q1Q1Q1Q1Q1Q1Q1Q1Q1Q1Q1Q1Q1Q1Q1Q1Q1Q1Q1Q1Q1Q1Q1Q1Q1Q1Q1Q1Q1Q1Q1Q1Q1Q1Q1Q1Q1Q1Q1Q1Q1Q1Q1Q1Q1Q1Q1Q1Q1Q1Q1Q1Q1Q1Q1Q1Q1Q1Q1Q1Q1Q1Q1Q1Q1Q1Q"),
  ("Prepend",
    "#?05)N0#H0;01$G0#%B0$!ZE0F0*K1?D0#:D010*O0$95_S0<R0"),
  ("Regional_Indicator",
    "%w>6P"),
  ("SpacingMark",
    "$+30#N0228311#I1#R16121#M0#Q2$20#Q28011#L1#S06121%I0113212#K2#T3#T1#Q011112111#70E1#R15212#L1$C166J1#V0%V0&A1#V0(H091P1#C0#^G0U0&107711.Q3224115*01#Q010L5&H0#M01411#T0U04120#S0221031#G781(B0L0#$XB120$O1#IF&E1#F0#G14122%E121O0&T02150*D1111110X!J010%V0#D241%J0O1#R0#G291D0$T23110(A2V1#R0132122K1$K27020131110%528130%B160111020*E16320%H28110%D01160%F0+5290*O411402010&E28340$K0T1#U0;N0E0%A07020)L44110.U1C0#G18110?>82%@4#M%81W:K060"),
  ("T",
    "&<8$N#@=B#G"),
  ("V",
    "&:0$7#@?8M"),
  ("ZWJ",
    "+!D0")
  ]

/-- The code points of each word break value. -/
def wordBreakRanges : List (String × String) := [
  ("ALetter",
    "$1P6P#F0A0405M1U1=V6#1%G41123106012101J1$I1&A8(51#523101#810%80#C#A#311%210F171A220G01TT$OB0O#091405L409030NO7A5N15H#9#Q#L30I079FF47212L16103330G0D112E1A085412L16111111V310J2G8121L16111430I0F1N0B7212L16111430U112F0H015321331101131323BM0#K7121M1F30Q22021U047121M191430V111F1H8121#820G05282O55H3N181026,P0#V71#3R4+J#510502#A1.C132610132#8132#0132610132E1#O132$2#5FG$L253]B2G1P5$A3A7HDIEHEC12(F$O742#1105$5AU*1M*E#EH7#MTD1A#BQ#3#92A#32A5#A22#931511305(V$0+L252#525271010101U2#K1610321633254C5216%K0D0GC%5040291034601010131A235440H#8XD#J#WM*46331C#510502#N70GM9616161616161616$G0=L0#L1)8#A1$THVZ[0#&C$3#D2+C3FA1K#EGU2$FO)5211017LF12131MT#JE#H#U53011BRAMPS7#ES0#G#8N217&KA72C5252596161#P6%IT.x3CM4#G+W46C4#O%1#1:AI#V2#L#8B%K41&6#4P6P$5U35252522#3B1P1I111E2D#2%Q$5#K+BS3#G#FVDT5#5AT2#34714#A&TI#34#34#78#JCA1E16111A1E16113#JC,M9LA7O51#918$55201#B11302MAM9U$1I11ALAP$6#N61$00F3121S#AS3S#371RR#LALAIDH%E$8#N#ID#ID#3#6R9M*Q#961G2#RSA08L#AH#EKRMC#K#P120D#C#0OQ#3T0208#230C#FE3L010#3H1OJ1#V610131E197#E#67212L16111430I0C4U910201#510P010#C#KI3K2U#FK110(O#E#93#4#FK0#R#AD0.7#B%K#VV72027111NF010$U72#6G010S0A#770L0B#DJ0I$8)7#0V81#4H0#HT%G6111#5L0P5111VE0.7IF01C1#1%S0$FwP%6%EH)3$[C%0F##FH5P%wQ5[6)_PT#~2@O7UH$EHTI#FG3VK5I<G#C)J#V&0$A50$2C$0110*+R0:W0%A5C3879(Z6$K1$6112021231B10161$01327161R131410361.J2O1O1U1O1U1O1U1O1U1O17#XKU65+5#T&I#CA6G0.1TI#B>4R*4T20>F613111E1)4#R$370#(K31Q1110201913101060401010121110201010101011102316131310191G52141G]KP6P6P"),
  ("CR",
    "D0"),
  ("Double_Quote",
    "#20"),
  ("Extend",
    "W0%F+J6+7#C10111110$8A#GKG0%56252113#30UQ$RA#Q890O3181214#B2#R8#AN1#0#M21H16A1T2#O016212290A1Q022#O014412230U130B2#O0171212K1M512#O016212272A1U0#R4321390#84#N016121371B1T2#O016121371B1F0C3#N116121390A1T2$60451017I1#T026C7%2028B6$91R0101041#HJ115A1#390%4JN342122633DB10A3_V2xI3S2T1U1$0V90#D210%L1#20%MB4B)R4#P91S20#GU#H4#FG#68C2UC#OD#GJ&O21K406022)6#V?C0)3#0$zU2&D0%0V@A5%91x=K319#01$G1+G03040N440$J1#IHQHD0#67PC#C3#FD#40$3DC081#D2#I012215110#9451*C711]XG0~1FGF:E1[T0*20&L4#^621153#8240(51@T3$14,T1$F3$6A#H3%Q2#LE#9021A3#DA70#T2#4DG1#C0C2#GD8311$SB6020&TBL3#N116212290A12634$381020131410E1$IHN0$HJ*B628R1$IG%AC%5E+0E*L511231011&D62630S9#8613809A#EF;L717$IL1D%Q530111610$241114.R39110#G634N0(*506E:)8H$=04#R6#!O01#M73$H0B1](B1&]1#D2M?U4358726U3&K2#xR#M4#H80E0M41E#.G61G261114%40(06:N0#T3>S3*U1~06%D6$_G4W%#0$V&0*F"),
  ("ExtendNumLet",
    "$V0*yF0F1J0#~=U1O2*F0"),
  ("Format",
    "(D0#.I5M0)00#H0;01$G0%XB0#zV1Q4#H419#~^F0*P2&)10F0+Z2F#$%03()F7W:^60"),
  ("Hebrew_Letter",
    "#=GQ43#x,A0191C1410111119"),
  ("Katakana",
    ";#H4%513$Q13*GF)G#E1$N#]!E#N#;$I3161110+V2#I0E3"),
  ("LF",
    "A0"),
  ("MidLetter",
    "#Q0%S0|F0=N0&K0)@I0#~>B0$10)40"),
  ("MidNum",
    "#C0E0Y20?A0&21$U0;B0)$B0#~=B030#R030(N0E0"),
  ("MidNumLet",
    "#E0*z91A0#~@D0(K060"),
  ("Newline",
    "B1%O0*x21"),
  ("Numeric",
    "#G9#@6910&49)69;S9%M9%M9%M9%M9%M9%M9%M9%M9%M9%09%M9$69+M9$69#Y69#69,C9&09(6969(M9$M9&6969#$=69_69#69)69M9$M9;M9^WM9#;69$&6969WS9&09#S9&G9+M9.M9%M9:M9%696J$C9<69%69^M9$M9*M9$69<69?=M9$,69$M9&69?M9~ZM9$|K#H$.09<69>M9*N9YL9&^M9"),
  ("Regional_Indicator",
    "%w>6P"),
  ("Single_Quote",
    "#70"),
  ("WSegSpace",
    "#00([V0$:V612$K0%x00"),
  ("ZWJ",
    "+!D0")
  ]

/-- The code points of each sentence break value. -/
def sentenceBreakRanges : List (String × String) := [
  ("ATerm",
    "#E0*zL0#~@D0(R0"),
  ("CR",
    "D0"),
  ("Close",
    "#2042#H010T010#D0F0%]U3#YT1$:R7P1A1#M1E1]P3T1##G57D$F1V9;JL#V3#01#!2DE129O0I7<B92712#]+U1)N1SF21G5(91#H010T0101111#xWI2"),
  ("Extend",
    "W0%F+J6+7#C10111110$8A#GKG0%56252113#30UQ$RA#Q890O3181214#B2#R8#AN1#0#M21H16A1T2#O016212290A1Q022#O014412230U130B2#O0171212K1M512#O016212272A1U0#R4321390#84#N016121371B1T2#O016121371B1F0C3#N116121390A1T2$60451017I1#T026C7%2028B6$91R0101041#HJ115A1#390%4JN342122633DB10A3_V2xI3S2T1U1$0V90#D210%L1#20%MB4B)R4#P91S20#GU#H4#FG#68C2UC#OD#GJ&O21K406022)6#V?C1)2#0$zU2&D0%0V@A5%91x=K319#01$G1+G03040N440$J1#IHQHD0#67PC#C3#FD#40$3DC081#D2#I012215110#9451*C711]XG0~1FGF:E1[T0*20&L4#^621153#8240(51@T3$14,T1$F3$6A#H3%Q2#LE#9021A3#DA70#T2#4DG1#C0C2#GD8311$SB6020&TBL3#N116212290A12634$381020131410E1$IHN0$HJ*B628R1$IG%AC%5E+0E*L511231011&D62630S9#8613809A#EF;L717$IL1D%Q530111610$241114.R39110#G634N0(*506E:)8H$=04#R6#!O01#M73$H0B1](B1&]1#D2M?U4358726U3&K2#xR#M4#H80E0M41E#.G61G261114%40(06:N0#T3>S3*U1~06%D6W(|L$V&0*F"),
  ("Format",
    "(D0#.I5M0)00#H0;01$G0%XB0#zS021Q4#H419#~^F0*P2&)10F0+Z2F#$%03()F7W:^60"),
  ("LF",
    "A0"),
  ("Lower",
    "%1P#F0A040#4N1710101010101010101010101010101010101010101010101010101011101010101010101110101010101010101010101010101010101010101010102010122010203140203220201010201110203010212260202010101010101010111010101010101010112010301010101010101010101010101010101010101010101010101010101016202110401010101$41#371U4&C0103023I0R#21132101010101010101010101014102021#J#F101010101010101010101010101010101090101010101010101010101010101010101010101010101010101020101010101011101010101010101010101010101010101010101010101010101010101010101010101010101010101010101010101010#G#8$ZJ0~R5$&2810%L(V$1010101010101010101010101010101010101010101010101010101010101010101010101010101010101010101010101010101010101010101010101010101010101010101010101010181010101010101010101010101010101010101010101010101010101010101010101010101010101010101010101010101885A78785A7878D2787878411603211832187A211%P0D0GC%D03130R04040218340#1F40YBP#Y6#F10311010104011173010101010101010101010101010101010101010101010101010101010101010101010101010101010101010101010101011701040C#51050y+J010101010101010101010101010101010101010101010J010101010101010101010101012&5010101010101210101010101010101010101010101010101010101010101010101010101019101020101010104010201210101010101010101010505010101010101010401020301010101010M21012XL#A1D6$F]Y06C4##9P#)D#7&8#3&RA1E1611=30221#918#+5#I%TL$XQV_;0VX;QPQ61HQPQ310161AQPQPQPQPQPQPQPQPQRSO15QO15QO15QO15QO1510#XK91J65+5#T$(K#1"),
  ("Numeric",
    "#G9#@6911&39)69;S9%M9%M9%M9%M9%M9%M9%M9%M9%M9%09%M9$69+M9$69#Y69#69,C9&09(6969(M9$M9&6969#$=69_69#69)69M9$M9;M9^WM9#;69$&6969WS9&09#S9&G9+M9.M9%M9:M9%696J$C9<69%69^M9$M9*M9$69<69?=M9$,69$M9&69?M9~ZM9$|K#H$.09<69>M9*N9YL9&^M9"),
  ("OLetter",
    "<R043)G0#466BQ010&50>40%MQ44#C#A#311%210F171A220G01TT$OB0O#091405L409030NO7A5N15H#9#Q#L30I079FF47212L16103330G0D112E1A085412L16111111V310J2G8121L16111430I0F1N0B7212L16111430U112F0H015321331101131323BM0#K7121M1F30Q22021U047121M191430V111F1H8121#820G05282O55H3N181026#Q#F11C6#Q110141N101911902410L3#00#V71#3R4%J#AK0G5433031724CC0$1#A2.B132610132#8132#0132610132E1#O132$2#5F%H]B2G1P5$A3A7HDIEHEC12F#J#3040$3$O742#1105$5AU#HT24B#B4P#MM9#K$I0$T#EH7#MTD1A#BQ#3#92A#3I#A22#93151130##Q3$7223$x7#N70GM9616161616161616$G0=L2P874244$L621$P135#A1$THV#GF?0)<V$0_^C$3#D2+C3FA1$20G0#0$F#78%8060%703612131MT#JE#H#U53011BRAMPS7#ES0G419A41#8N217KM303#H1031242010O22A72C525259616&H#2T.x3CM4#G++4:D2%9$30191C141011111%B#1:AI#V2#L#8B%K41&6%9#N2U35252522#3B1P1I111E2D#2%Q$5#K+BS3#G#FVDT5#5AT2#34714%Q$D%2#78#J$S#JC,M9LA7P1%T5201#B11302MAM9U$1I11ALAP$6#N61$00F3121S#AS3S#371RR#LALAIDH%E$8(N#3#65V0+G#961G2#RSA08L#AH#EKRMC#K#P120D#C#0OQ#3T0208#230C#FE3L010#3H1OJ1#V610131E197#E#67212L16111430I0C4U910201#510P010#C#KI3K2U#FK110(O#E#93#4#FK0#R#AD0$7Q#56(P#B)J72027111NF010$U72#6G010S0A#770L0B#DJ0I$8)7#0V81#4H0#HT%G6111#5L0P5111VE0.7IF01C1#1%S0$FwP%6%EH)3$[C%0F##FH5P%wQ5[6)_PT#~2@O7UH$EHTI#FG3VK5I<G#C;J$A50$2C$0110S(zN8#)L#99+~7316111,2F0T220E38;B$+4%A5C3879+]G0>L#CA6G0.1TI#B>4R*4T20>F613111E1)4&60#(K31Q1110201913101060401010121110201010101011102316131310191G52141G&.4#,|V#0&#P6)T2(^1E*,GF]D$<2?T#>2&YA5&$V"),
  ("SContinue",
    "#C1C0#,20(E1>A0&!9050$!A1%zC0#]?E110T1T13020A0(81C0$90"),
  ("STerm",
    "#10T0#.90&J2(K0#B2*M0#T01031,51#~41WM041W50)61)C050,Q1:23(E121T1(S1$11xS192%>40D0M1<D0x*S0+E1*3030:U1$M1$V0&O1&J2&G1*P0^]A1(90T0$10$~K1#*T4#C3(T1%L3%V2&1160G1$O111%C0,A1%L1:L15E%91*P2?5010*R1$N1<41_K1$A1[X91&50$11B0@91,80]?60*>80"),
  ("Sep",
    "&50*x21"),
  ("Sp",
    "9011J0%V0(=V0$:VA#40#F0%x00"),
  ("Upper",
    "$1P%5M16#101010101010101010101010101010101010101010101010101010102010101010101010201010101010101010101010101010101010101010101011101031101112231112311110101110201112101130711111101010101010101020101010101010101021101210101010101010101010101010101010101010101010101010101010107111201310101010,10103080601210111G18#30223010101010101010101010105020112#I#G010101010101010101010101010101010901010101010101010101010101010101010101010101010101010111010101010102010101010101010101010101010101010101010101010101010101010101010101010101010101010101010101010102#5$Y9#51050|I$L$&J0:M01010101010101010101010101010101010101010101010101010101010101010101010101010101010101010101010101010101010101010101010101010101010101010101010101010901010101010101010101010101010101010101010101010101010101010101010101010101010101010101010101010109785A78785B010101087O7878784B4B3C4B4+5040322220346010101323A150QFJ0XIP#XG#F#G0122010101310208210101010101010101010101010101010101010101010101010101010101010101010101010101010101010101010101010801040y.D010101010101010101010101010101010101010101010J010101010101010101010101010&7010101010101030101010101010101010101010101010101010101010101010101010101010A010111010101040102010301010101010101010101414101010101010101310113050101010O0_XBP#)5#7&8#3&SA1E1611#~A#I&TL$XQV_;0VX<0PQPQPQ01120212317QPQ1132716R113141036RPQPQPQPQPQPUO#1O#1O#1O#1O#10&,L#1$!EP6P6P")
  ]

end FieldSelection.Text
