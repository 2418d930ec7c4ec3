/-!
# Data of compatibility normalisation

Decompositions of the characters that identifiers are made of, combining classes, and the pairs that compose.
The syllables that are computed have no entry.
-/

namespace CallAtlas.Text

/-- What the tables of normalisation are made of. -/
def normalAlphabet : String := "0123456789ABCDEF,:;/"

/-- Three tables, packed, with `/` between them and `;` between their entries, all numbers in hexadecimal digits:
`gap:parts` for each character that has a decomposition, where `gap` counts the characters without one before it,
`first,last,class` for runs of marks of one combining class, and `first,second,whole` for pairs that compose. -/
def packedNormalTables : String :=
"+L%jIFebYQOgiTDG?AvQPAyzXF&xOp3R|=O>eW42^zJB.~wQ2UzM/+SfAJA&HQVmT0xKUKxs+&845e4gsOTfygyLrIBhu$+TJoDv,s0e6+a=2Iq$LiRucrVn
Pwnhimoe|N2myP72>%dE;tm,Dv.aD7oEj%0mm;,V.0EA2iu2;5DO5Y;5K9$xar4H~C*dGE,%yA1&DMtXRro,4REe?^O.rTu*hy6/f!>D?9&/yCm|4y~vgNg%
dU6<2MY+/~V,Y*ioW5__3|WH0hFo.v&JPNdI2PLvZ&7&4*t0M4YeIZdaTNVUaCRr.z$vN3Ei7O?MO,OQ*>*bLQ~eViCr+%UESms^k~UX!/hz99ydM/Y%woAq
v/4$dvwoD1wq3NcP>,?tYBrU!xq?4IoOSSnpjGGf43tqZq&!2JSE6$vLYPj0w4z~9pXnLM+JhSI*eOti7$Cvg9,9QDe.2Ql|!Ks8IEOd~S6%3!U+7jn$gStG
Xew4xVa%&2Te+t3BV/Lh>c4dZ6KEVGPIWV~^PoHS*Ghvnj3/B,g9>/||4dVl0A5>eBqE*D%T$BPHaN$Qvy7OY+P~S$+VSxus&hAhI%z_gr3Z==l,JS+fmv,*
UB0$%A|,i7xK7DO2BC<V!^sFX,ESZ!x0*mLed>J;oz5gX4rS;YaKBewH$V^5u7kZ$8U6o0/f380Hl>zw5N$q2ddRwZ;bPkYt;1~h%x&Aqqm,pa&d,m9MVl6%
Kvgi7vj/U8rtCWkm0Ppuz<zF==5Nb;iYl?uz!%QQv/9*$sSF%xLKT91hgs*/7^!>FhN+z3K$H3.md.Y,na*4gHBTh*6JVo?5AYyuE2vB7,l~0^JubSYWZ.ms
=oH*Z$LxPMKoMm$twkOJ*Hk1Z$DO6rsirXXn,ND,l?HVy,<se69&k$*nxN935tzf9L<qDT9C8N,NwCyts$lxDn8xtWFx&YkPdB=_l;ts?9j3K./qav~zKCX+
$J/+i^_ZrXK3=;.oqYQzoS?*!ub5;By*rB*q.LYU=XhLMX5_$25tiC;=;Z3j87r!v,H4K~E,8/r82qH3>eLw7Qyn;2^A|a4Fz*U!Lyls!&*zKb1.VPTvExKB
O3A0!W;z=%uE__u?.?C83S<dJ/$r8_oK^4+/Rzc^?e8364s+a+bk2;0uAS.;AG5~e?A2=89;g/QGCaQV4Z?1Wk;B0P&d;_$,a9arrquqkKFQ2H;;B!LtLW/u
_w9C4+/IRal,%ZFdFzR|CcXpDjR%j&=y/uUV~FuB_CTpAcvs_sO<4?~Jz.a0;7akgxsgmqqD_5Ffk5Hhty=>UdV*s,ebxcsyQL/?rPIR+$NR%n%=DFb!?|pI
Xud~BIcBct_5$i!6tAbQ=AHxHuexKJqx<=R5EwwP2Hsh4jOwmtfHZODIHt7d*50V_o13nxjQd;kr4vGhFKp%Lzw^luBdkAvwx86ZGo&$^4i0yz7FAZG;l9w1
%Q%leJyNZOzl7O<dD,p30p+uY5+e%B&,WK_Azd|^zVXbeAhB04DYZS7J>hr8pwpLyTykK9j+wmAW!Na>nw<l8eZFxF*TKM93Cx~i2EVW=hp42G1oa*bEpP,=
YThoQ=VsJRjeZ3eLJLCwj||Ix=uyS9.zK&F4tv$|rr;6iOo.FNpu!=AUcGHpD,|RNGCn%KFV222y%bckXzOc?OY5JANd~Uyn0~|.U!!$_xTByuPoiGd0LDl&
V~Ti*MX<k?VZc=lhZ&N15=Z<zLXTBtw%L*9PF;D7XxosszyDFEii7.BmL_m1lh<UDc=*p8eQc%e_a+|kYx^S90.vJ8oj=$3Z,_jF,NUzp8CNO8mG3FMl?00O
H..fZWq7^Zr$8_P6?4f!di;dmWVw%gof6tFnvBlo5^=T_br0xzW!&P!9ulS*8sVDP&2GGx?B|I|LoQf%&uefQNS4T^uKwe,0q7a228eEePp4AOUADqgdMQf$
0T<oa+jOGxfoR30oM%Ab^nMMSqTwqW^LS94Q>aR;Sg25?O+HlN>YDi|6iWmli5tTZHxdU^PSldb/y<5<mmlBV^JrL|fb^=X=4_Q?PJZUcDGQ$n9<gX1??i0q
XgDATIOTVA913tIBQJ=^DF5!dO<BR<I$Y|xKGK~IlkFy*HE_Sx>XbzU_lXgFCtiuvoGzNjlT>T%/f=YOezIN/TK|qV7kz>lg1O.CZD6cGhrXu4ow/q/!Dv+;
q&bO0XMSnx?8jp^PHF4n.Ix!Q5|^GEv8*Imxeb&EaRIb,|bn>W$83RC_2>h$_t!iWh0z/Qy_uXkI&!wUaOAr$Dl$LhwyFa/7~=BZh?nYk6elWjBwMhl4K;Rb
C2wgI^T0CYb2^H*8hhX04?%agC|qX;5G^i=O>C/QOn1D0|s6k=oL&kw45xL<q<?uZl1zRK0.EV.kF?YnZgUji66&P%+>&TivdbrbH+xc>A!fBWm.DWKy6TN0
x>|;ZMscZ/RkqJHE^aW+hSuy$BRQ,*dz>>$kGBex9J&~T.GaJ8L$5dX?iTQQwcDrM8VuYl3CPMqH1Zx&?m=nucImwU2MEp88uOX.qeGUp9F8hQk63tq3b3kZ
ilGX_^%j~CX4dugZv>/LofC1ZfX61t|*Jhj,e~D.xuAd8WXuN4;K1A6mgc*3!4_oGUF2g56o6$=shdEs5~_uFW5&t|Gae/GaSHt9n$+5l3wmJKPXxjDun1/t
LERBc%>*_K3JwDI|XzeDU!r?XE>p,^pCmVFi08UhDTtHIL_D_OVu4u33<q=!R1gv8=^k&+M6lnyKF9TO0|1c>UH&Pa.JDBXN8RK6<QJ$EMc&t/PzXbhnkyz1
FXm<$0QwUaU0%|I&I>B?uQ_hDY|y<!YFIG^,tZ9GJ*oE71gN|j9;&1;zOvN3..s91=.4GgH9jei1a^HZ7=eSXwc$q2zhv_w;OkNYVyBQTMM2>txABptC<G?y
&4PNT8x6XK6VR|nWSWP2DD7syE=uqox=mXTYJ^9WwQD0oe^%I+$,;snyf1z*fXna1wZn+neUumpEhjDIwZAh&915MBH$;;1.RnjENXyJ0q,~a8sV2df1>g,y
Lkb/NSz%SCP*;nFVdpIF0=2H=*O?$%cu+cEOCszE!KKW<q!7X8J71fIzWMtfAJerRb$SUy*rfSC|VOYGz2X;F&;KTm,>%_YaF%PioBq%5vAan$Bh=jbYb1fB
qIBmLD|y_AH_=4A>>BW.YiHsoy,c=1Ev/0^5;w?EsVzO&9$c5&.<Q/j2sNlr$Q25SOwx<VdpU6XiU71dc,GdU.Xkfi2J.aE3N!QB~g7OSg%dWiH^5xHmw1FN
DQoWoiWBWkee!B+i<^J8G8v~qLYPRTU?uT+aIFmNbZbLK/%Fm.a^.33hn!<*vdMVfwf81?S;j31bsf/S7vJU2p$f+w3<b!PSad%86q9TWA*UqqT2IY;6f3CL
qSAD_W^A9EPo$GH%Cb_fCT;$%Yf/&Y=hl>JI~=S*y9v%;3KD$9B_!?3FZ2/7pzER,nEJ%SbzHLyLA69NgDkj6/ne&TzX^z^<Ynh19+>66YbM,p~6+=2bmpoY
.YA<dv<~NrBtj3;~X_VO+.8*DBCO6/I1K<SVRP$;xyt0yw_Z;3E%p?%ASZ?lW2l;UiqMD8b1HmNdkNb4!4fJTxCN!M~03h.%o1Z=QnpRW0~gof5.8gUB<2v=
%6$+CAl,L1PiqRu4P,e6=?Y2hs$a$u~cReniU9BpFR^0qVBnjW!wLT3RSEMQ<lu8zJjS|sCj60PJab$t;>VqA^<ecGWnu&/_XIIv7>4ND?S6|Wnf1$F=td1F
K3^Gnn?rT3Sq3R5pGfC5m^A?LA%kOS~f0xTFDNsW%.oz?V03nzPH|bxq2$xa|p6&q.GUXkHglPww/>Wzi8jE12$z>D=9KTbpSR79$sc9W+5pw%9iVAyN3P1F
0+;Pg2X<<i&Y83!_XvR8Rot9j$_bmZOfS24f2/=vHvgeHzZ9$w$4Vic$GE0Dobd=gA?a=iilGc*NHZ=&~|8xrJ4Maf50IsnNWfc/KNN_$caM7$p2XPs7yBaL
zLs8|d62S*^=t1WMJWeVMn4leSn8vVTHk1/2gxcjm0,/Jp!E~MU0xrR_/90+V>Jo_5h,*WD;5,I;usTI/b^YU$C2wgbwMgC!.kp/m6s4rb9>IN=8,nInpT4j
JOSAdVNj,bz^p4Jej_gJOK|rUiwj3*%K;u/=D!3~_4/06c&1u6;7It3py1htUp!m=pXpMje%7FTuJon/?9k?;>VN7o_/!Lq1e3VWauin.UP1d2b,%xNzU^L2
,Z6kb6!hIjXJ7B37mzn=VIk6dBXG*x!_%rbImOly>M=,<E>!qgZ.%QQ=5%qAx7y2q&%Mx3x+e|GkSVN&ELF4pb,zRSVrVRY0FrYMqq|YoLlcH$;wnPSsHrl%
kY9z4bryT70zrb5$!4|1Qlev2mPwtouBUS!SlY;ncmfziX>8cbU04%bsGy%StZ3?j_tr0E!M52nizM8tLswXB78Rc3hGtBQwNAHKFZ_0hf<Yoa2M~0H5G*O2
j$N_uUrzAflB,4*<4,u>F4sX?JljMA39ay0S2>4M^z3y5aB|G3mDk3CTE_yIEUN,9/*r=.o&k$!a=vhqGSHc%9%3Pw<x?yIyLc/jiFawN&JOk_2w%TM/Qt^N
=X4>++62XJCJ_~!=VDt9Yf3C%C0XWg6nGZ?7e2OvMom_d=89pYuKi9xB3Pmux!vgj0r!92/w~R%jT<3Ij4gip7^2EakbHq8HLo4MIx5GL$_xWfFS8EUi|HI?
/8lcanm+q0KMr_jpX3p,gn|Z*Dv.u3gq=TRKTx==eO3N+Jlip1^0*e/i$<ysMP=f?;Ft/8q9_%xKKE5S|xfG5H.eYECMGPybqh9IyWI|g/z5mlYZ*&MW+5<0
Lk5eCe.<KxxiY5T/F823j!1~|pqXjTB*iO>+6^pbR;EU53MvT+XrTkOkSgFWk4$KGV;MD/m+6cY2DVpR69wfIdMjP&WN0H8*%BoHGSeQT|u,cmy|JujbIdb7
G|/VdAD9dO_$>mV%Ss^wFw2d*yZvajOtJbAeFo>GNQKK=o96u1bKHWHX3N/o5s%DMiKL0Z68ZYH^IAaCN$|Z<PVXMbQLn!9.CPdpL3EB<EPFsBwf;h5uN42~
?RIW7=2^+~7K7Cy2ebuDSJAuPRFc|zE!*=%YKUs08K>Y7^^nAcl+1Q+?$wPYkYK4S6KQNG2.$6rjEvr;g~4^.cuHuBoI<$R?_CZ52?qd8w!8TVLkAI8jKf>j
Z*Y9M5oX=0p.RC,*%PC6sl4UzFGD,yQqTKCyouswVq=wh4YJ=mTsvVgieOQfwKbN|nJSaUE6!xNJn>UwgRYqCePbbsS$1Ia!U6yElXgiFwW2Xvxj!+lLy1+V
3vb;uFTal69tuKYUwTE>6G~uDk9sAI>Gw0T*79B<2o0zx=FApc?&zqO9Mm~x=RV.Ba.WjvP=S?6TUr_$IBNf1CC6+51SGFdwaI.?5a<fOI%;X!NwEW32ASSK
g6&Od6*_R&2%F<|A!Q=KG?Ot,2a$YW&>go9!EBdKtkKC|*mguL/0a8;s%p8y>sgesN8Ti4wN,Ff5^>Jb0|KKY3VM,;2Y;Luhm+ne+yb|a3ct96Q&5>YQeXX|
GyGO&~?gLt.PZ90AJlo0%5nTqaHBoCQ8x4f7FJp>Od8zfw6x11=3?12%pZBEvX6?K32,$OK/kP.&q=PP?jdAawc2j=lPpO6j!VuL7Sy$+Y4xL$Ap,mUu2%Q$
9<<M.5<OsZxr7MD2kRjX$ZqulJt+fuOl2GiPDSR<ydNr9QiU*7rcgjsU34tDvN4P_6juGJ+|,s4nDhdCstZX8e~uPaq9>c4U&I4A.<bIR5*tym0F,3_Od_13
5IbnKRlgWDQgEN.Xe169l~x%UyO>A/QO.7I,jEu/$g9e|Tg=bmvp7$yEt8oJkl*8NT6D6fJoTUK.>RdoBwrLPFmg%1A0=~kN*.%>m8CE4YmO|3fz5~5udw$n
ircSGli&WW>vqh$A+T.|d~Z?S2iX<dboQh8$h&~,sf*Gbu8lboGTx&aors;%6.*JV9w5/3BI~fprOf>*JPgmffGS<v^FA,1VBl6QTrO~uj_/5_yYnSZX0yO~
|WRLA_X$sWdDEsWO.c5Pa^7nX;CeraW;1aaOcfGu9;>JfGtx5N?<+8e/|Qdlnm2g5p<LYb!v4h5jYNsu5k8_98vW/HV?F9K^WmFOW6+2j8~HN6UYpUB%UWmJ
/_&xmE;1qs=Aol4!PQrjPQbAL1^WxH=p,Um~nZL;xFXfvPba+AvasR/~U?^|Xy&P^W?Kr8$5yE_;c.Zo6|m575b;~^Iy_R1ipTD.=HtKKPbiiNtrsWFqDCK,
>c/t^.wYu$95I=;vcHjtcO+^jdxaBA|!rYlHWqwq!/>1jwcJ8+l_j2PXZsO~!y7HyEdxq<b^&;/OYQ>~uf/NFTSw0FWkRZ?$GBk_T|UUC7ye71+;+qj|Wa2_
?hM>e;w?mRLEfS?QF693YM^.jmirkE,<XVAA6m0vQJoNSCtq*FqmdPkXH%03u0YyvT6RE1T9le?T7Q&JDY/+nSNDy8!jZ&*t!hf!EiZDFZ1cnH1S>~Dy*ocU
LHh*/U3HUx39,>zfQXqoqGONFPdj1dpoMt.Cc7$,ozsKPh+2J9j90dl6wTkho1tx;iDO$6Kk~uM.8vI9e8.9q.pclzz;xSa!SW0%u|&h58idV%8Tq|igkRo_
^>+ZCG>FvyqF4SwR_xZ5jP_?5p9C$5CEox^3BEcRODbISVob99mvtR%BbE.qzsLOgF9_dP!v*e3P*j0dM&^R3QnC$0tGME*fsC;G%dZxgA3Ge,_0>JBgde.L
vZv<?^5lF4j5FnoDhhtL6cyRN7|!.AO9u2PVJ!aav_,bbkQYeK0pwMD%4xn^%l2z891>Glm1,Iz~%;B2VRMbi!^CRU<jc4,716p=Ld&LnbulUkw*//tP,Jlc
lQqdNFN$LXGJnCXXfuWA!V<X<44ps*Z5E1Z>d%GL5_vxZ.=1tS9mX,yWM6_|H^bjr+*!|p.tINU3890m$OTS$D6X+T^cz!rd!$Ib?.!U6T9$7&|h!RfqT~vl
jLnOlMX+1hZ/v,9EG$Kq~cG2+G,GmW$mY4N~Ir4&&F7ZsNT5RvvSjL7PLkk^G=<kM9R|lN40F8V?uCA$<J0g4!Wq!0TF7OxzT,/C$/OdpLXJ3n6Ub/Du2ijE
DGwPQdOmjsvG5pu7arJ2CM3+nX40ZYreDUUCIOE6vDdSvTU3B/DCg.S1c?C/j=*l7Y=857,&~3P!8d9JN306X|/q,&s5|^I&EPZCvq<ejuo|+_%26R0.GPJl
._ecyws7!qhp+7dI&1Nkh$Siw&kx>~MNxHPv~U1KhJlRvqF<1Q0RO^R7dD3?eUT&~6bd!k%Mn$+Ja3nf~%K%Et&z^PXl~Jp$2.mb24Jt5w85^x;H2H2bDFdX
KYlH5xrAv_JRX+Lv4TWMDFLcE6$4_.+Kfq!^FvZTF*oAQ_<_YMX~ylxTFyyrFnFQN.0*SGoG=?xQBZTfxn7,8Hv2wi^S3slYaP8RyW6o6Uh1b;1o9LjZI&SJ
cBfSx/=rb|!/A%d;+F.*lspHCa>wk04=6.dgB?yNLX|W=GB?qdMllh3J2&x>q?IZ.R!=yPQouE~kvDiM2BexZogIbhUVww&*PSRuJ~KfVB3lQ>Nfsfv<sCKv
Zu111>9%OL1f6<0Ww4s<iJtLO5;$RXb+Cyv$4clOffRlRX*;>vzCfHRYDgBUNyy=w,fi.lrj<6fmHbtGZ.mDr5JGY>.EyYP|<_EvrSYDQ/>%iS;Pv!qXXhNf
XyXU+wG|?h9Zh_M1qrEoVB^?v||94k81j2J6u38<p%Ya_8E<^$Py_^K*Gad1pwyf1_$Gz;%aEU%!yz!NLD_Jl%;+jIp.1cgZ~fb|MfOvoL.PUMxTUUJ.VjsX
e%6EiJW&$J2SKWbs9nw_=l|KN7kI<yuUFrX.mXXZ5kC7sUTXu.BTTwcR?G4%vHSQ9^JNrH2nq1,Q4hbeDldHzmm$75nx|co+OOp;,?.<Ak2R02skwV.D$o9W
cigCbB*Z.?s|GEPGge^D<fI2aeXw3><be^GJmPS>Gsa3p,WM&AcF*~yh7VW+iEt&g;1Q15R3!0;c~NRvt2,$XdDG9ws6Q!QDvmTWPfXdAkr_.^f9A2<.,qEI
NWaV,apz69gnU;hobh/=!f+XTgEixJHvu|hFG/YM95.8?8VUWqsNO?%x<%i&/xDhY2l~Q5C08d%zvnI8_ZxT^qj61AA!^4w=%bg6t5$kM;P2^t+X&Jz&&~i3
mV|2c?uFv^iU~yUSZxkIEcJui;LkzUIN,RK.Nqe_$Wp43~twf;6Nb2!zTBo4?kAwRDKCiBjYN1.?9N*=x~HDY8Vlbx5WG5&SGPO%qKbgDEDZB=yW.gVz;4|I
o2=etQmr<.gtHQ^ptz6SboebnE%Q~lgT3/g<?Dfk~&m7DQCOS&wZF?gO,loQodOKX%?jGm?hJkZZ>O&uI4+QrVhj4.Gi9C5,KBWXRDnh*CudH;e&cWzsZiWe
4x.Xl2oQdjn%ell2iDYTE5laN_GE?$ry|w7=ahWtq~yT7%<LX.x&GBlS+L!Ta&,Xmyov7+U?kuh+&>m/JxA7~EPOP64,Nmy$l<%izAg6y,*y+S;mN|x~4<08
XWW0DqCmwHouU8a!wK.!AGWeGD+Sjj.=l539NF<dT?u1E5Ltjp;_.c+6WUk*T$wu1bS*TUx1x<gy+Q$sLDnLc=5!2oM<S9/zuIo+?Grxq3!ZT0*GroBcA/7r
<EM_~Bqt0;qKaAJ$ckC<R3bCj2cfHQ^6b8UR8<12eCfhPUz^%ixQK?Af%$82rMH|+bh!VeumKyYhx|Q0smWTFWequ2Pn!HtWSk3ujuod.N^+ETHn|mvSwQIU
;Ak|mr!?W,pz?c=~Qg45i$u7eA7MvM<cS_$?+=;mock3TAsWQ/k.1QD1SE+Dc.RVu_yR?xqEI2Y&&spzdGs>Zo|Nhe7uX~31zoegSs8/F.D$KIvT;0W!Mfuv
lp&?&T.=7zyxW%9_w4sko<o,EZgBBv5Sk1y%^ww>n%NHzF*g6F+~nm;cTPyUK~*yu|=dMye^c9+9*;4B;DPdv!.MhMBjL=eMC,+5n1?aTKT0V%1KXP_A7O7?
cu,LmDXRR~/oC7t=f6HZDe%$W+x+UoMtgfsCI!4Sqdx.gP^U4./OnY/I<JEMXrJOEK=S$PFuQ6zh&pad&5iax_iknL<QC|VF7j^ArAxX57dJd9_,;JA?k.xN
fi1maPf>D=4w3s|?<4lkNiQp=6%8JsZ4+y/S1ilW3wgi%^QL$j/?tPh6JVGy*KU,1Zl1/Jzc^2Tat;zcZWdOuSpv8=i$N=3wOmYcwy,Vw%4LIK4>2kxjt,0?
D41j4zX^ommbG+ZHdPZGiSnWY_P7F>B2isbE5A~RmDJ82l/8WXh_O!Mhkg1UvJC|P6GiWSS?1bMg|29uCz>SeFn10BBtxZC.EL/$di3+r+=2N09h>WayRs&w
^Mlx&x1f7EeQWVEjBe+uNMCE1^g,I5&kX,Q/kQfUrRdFm!$Nb2>8x~jnk~R275V2;|G^G_CKu&$~24$&L9j!gE1qP|P|zxDx9t|zWXvM^JH//962nW=O04vl
I+fImKrRVvOG|DQyczvLlCdjOH%KqHjiT$7mZbOOr8MAQB4,?MDyh3%q2wp8~t_QXrLhh.Pu&f$>A=T2Yj25yAdYyKVJAArK7yqWBf728k.|8bcV/tE*zYAO
,w/Vky3ko|DgX/aN5A/|YP*PXBADafcICV;hS5yWyqal3%<&GjRE>Fp&$WPmK2n7v?RVasKNGh<6L/4|Ohyy.pa0~~$PuBi?ksWydjTPa3A9PvN*?Yef!/cU
dlq%^7z!99vER8%DH<qHZ~e+FZfZSvE6Zg/16v%.qh7M>JbW9bw2cPjW5LMqHgvS1l5!_easi$L&97/1=+$?,id$KrHdbyjRn$4Tx/1A3LkDsm6ew!+CRM;.
kyo~sJkoN?5i/Eh=hQ^R<7%RthX&DXx9OqH8C6EUAkBc$%QqZ*jJ?*<qu3MrDB0XmQV>zK!!^n!5ah=MXj;*fffV=n,FHaPb|nZf4J>u3v+F|%bEc,9x>|/p
_5rb&9*uIe9+mip4TVL1!IABPBTqvHet&OxEk1yPz;V;*0vd&dtCaqYCOIu9~*n726QWLXOQ>0nOiT*beLcH07BV^Dfhb&d3a;Y3fh1^^Dench1bb+e=rRQv
>^hCKT<e$qDa9FNkiR1Hdg4v!c5tcUsJGKzc%mHhU<gZQj5VQ47N7zy+7|+MVm0&T&qrTV;SH&sJ!rYODIHBjpy0M%aJ?hGgygiwl>OXJbbtpI^=2xoALK*K
Yux,efoyytbJDNNsNg2C%.X?6Upb7uTx,cC$1=Da|GpS7~7yu9ho276qRVGeJ9?T?DjGaUof$0~bk$A0|8Q&W?vIgG_QaNKA./eM|%vUn5&W3XQ>;w$EODpE
YUU8g<EHwc2Yjr*,t7.78o.+,8wa~cDXle9IgzP314!xAIOPtOQS$B<hvOY9Z,?Wv,8iN7gRV!Yeg6^fQO&fZ|;KlhFADbgiBvdXJO!^!g*M1T.3?~7yV3ed
D/v?wnAIC0~6g4.&quuz+e8^$bp7kCgI7X6+&3y*PQxk>s?Hf~,UMv;h/|atk_Dl^>.;Vs24A/i4m=i^4VmTnRhZl*LzxYT+<,xMBKCHLjj&TchWIt>9pa1r
sCbkpK6=8.IpC%<=%0i0<O;x5*eCLQ6wZmGVHH<PG4Ehj1Joy^Gop+1ExwC6Slkz0nf$hb09QT/pt3TiAR3^6,dyBfQ6GA9<R;R/0=|hA1d0iDOTF6fx<v=%
+6V<9Z^>LRo^5qzS+u;++PfEmg^<~KRSHPby/Psh>kqN28~^s^.54U73,gs_9$g!^$||.mwg~MFakeo6Ib>qS?d$7ts~sUfcaMY+3S~0~Ik0l=.ilWl~~xxC
_vUt+9bWhZe5+J%P2oyO+M.r5pdD7JgOHB?n*sSeowEc*gHHMmCHlPAWFBQ80.eOr3YT8w0RVuqSoPwWOoLWB<INZWt*c4g2zMR09S,?ey$INpYji.4ie4u5
rb;NhQd~|R9t5s1_UI<8vHc.68E%,BO7kW+3%phRdk$0Moh4VcmTBvoRDdZofF&jn~I7Bb&X,u|S6_VC&v6ay4mvZk_,*$13Vv/5Xg2W3mFF+bn,3RP4<$Rr
NqTQebYiOgpXa!Z3T*.|<IYfU91KCNJ8_ke/1p1ks^wt.;y/RQOri;fwHPLhoBvEIz$i*2t0Hn!%hn5wd41BFg9e_jZ+Hp^r|8N_fS6>/;BE+sC61Sug9U+L
+wD$QL$cpDhqB4ZSW/?DB4TXs!b7Dn!KzYuE5^*Ci3?QUat9R;uOJ$GbQzWuzx8s9r6wrc!Dx4Cw6q^z~dn1<O1iXnYMYUyF~tR%bQ9x7VXkkIYT<QRBSPLG
x2Ilu/gki6oJmCQ_dc/_.P|W|IaaQ2yqewyf?+Y+0F3qQ<0I<Qu=S|s$q/n*R%?qWXii4bSuYGbYiWxBmXrC,>!Og+Xt>LM4~Fpc+zC7^IB3r3~4SE2%HMkX
68o<l_NgLW$xoGFfB8XFASQVKloFclLh./$4si42DSnu=9>f%rCQlCN9!uz12aIEGv1uteMtjJt3tloVQBNDdy;SfW$=9a!lJp>S%^XCO2cZZFe&<35WRJ6n
SC~_<zHoPKebG%7bqVyz3+orIQ08YxreVW!Pp;s**UR^1hgzRvEh;*Q|gPdhc20%$KEw$w$QDqsoz^lL$3xoL;hI?aast>8~U2z^32>e!jVN4z%Jxl*dslf|
p+iQ^aIIoep>_+C17FS&0|QpvW2VXFt.iZtBz4HSrlgA2%m>T4riQ!GZ&sGej!1h~m*<<x1;lLpu9tg6FLb/l54D|aY4khFF6_sWB~ZlEihgLi~lhdN49TSM
rF,Bg8^u&s.h7OV/1HVb+%N^wTx?&4hb;cbml1MEeb+ijk.CP+J0gdG^+DfN9orrKQdtYX9N2?k9$Mu|M.r4G$eY,C$MTKMGaOYx?+vt2nm~.9>Ohq>o+I6f
sbI+8=,kCltepH4r<ld/DV<lMMm>oZco2ZR0jeXHL+WZ>6c+&Yp6>6y0=$p.f<gSmD4RW6%T$CY^CZqg0oS3WyysJ*M5o<1e~TJm2SEF04!^!2I4btgFzUq6
NMT$$~t/wrw2M&_xqwy%nLVIwN$7W.xx|!so3fnqCJIX_k^nv?1G9CYBceSH7hcE.Ac9BoXMn.P*rSJg?7GjtEr>I=zNvYL0|L^wg4.4mslihtaWK2CrP?>_
>lR9?pN;hdieKC?1fQAe$4HF_Dg6/kpd3KWjac|N^+ue<O$%~Fq^|d8oqF7O6$qZBuy=PLu9;;X+hW_p>bP10EPQ9!?,h~c7+/*yN1cawFgwZ6hhw!eK2_fQ
pm>,G5Y?w2B&pU~b0=|b1P?q&O.$o65|?zwE4JGQn4o~mR/THqxBYzmW5KbBycFRrU|SnfRg7BmxsgegEWx00lsAJdnaC&H7*C=Lb$Ro63Ukrvt<rHEVjIsu
XmF|IcjnHmFQ;j<Zo>GQtLvnlq=.q>txU3BOaA7P5vJll_z^v~Pf>5B%nm*vDc7~X+^>%!+tbI%OWyBEnkm2NDwmSDu9b%Bq*cUR%|3aKDsH;J5T*/d5%LY_
5VoUgt1x=poY%PEiZ+L7aXZQQasxDc,^3C&LSY7;u8u*5Vm5&gI18%C7tMAyuWUo.HKJj7Zb,q<Uk;clxBHP<VfK7Z_z%Nh7FSip/iNYD+maowu~&=3J,3cN
NHYgdUaKS&XunwaiYV<=1$bKwh<KDRp.|P7yG$RDQqrZe>BkEVqm=B|=dX9BWEM~d.Xf$Lw&0F$*IGqFfPy~J>iE0wK0w<rGFAslQExofZ3M,qppxwPYadCV
o9%S=lnPN!Z*z%FQ;%b<.Ho<DAnnVz>x=!S5YnmyGzfiQp52SmhpF%3c0>!IpoH7?RoC!4,iWplm_JF8C.NCop6bT=;1,59,g<CM5DDGtiRrwpx?HaYAMz~P
Lg8BhI2Bgm|q8Yiz&BMj_gR^.!O+qPi.To~cXdXedI;c^WepLO;!WRBK=PB+Og6<RqITw.87*t=S|j9Pj7b8Dxmtn,LNepdYwHM9VWSs~xZdJ,cyNRw<aK|r
;Qy*;p<3<<20n%jK$hOq*g%?bOBJo&1zU,+8%~E7WIfl$2&*3Y4CPSi;4cw=KiG8..T+4RuCsgNFJ%9mC.oby2||m7pYvWfIqK$3aytD+xiuk|_1n5LFd9S^
5^fHHL69PF7jD+/MhvX>khhJQ?B.BDXzz9yl0%g+AU.Zb3$+R&%&gA&V+13L/U0xgrsfm2m!rKt,l%/jV<!albg.AdL&4Vn.%|$8~xx!LzfBK+PEBF<w14RB
3>lEw~LrYzYX*OEI%oz~8&Ne_RIbcBN0vSY?M26GLwg*+__prX$?q>B6rV^$Wesxoz.|cUCTY%hJuoABsC_EQapaKmPPd?r3WIk,zGG4/D/2^d>!I+/9nhPc
yZgvNO8QGH=nvb._iC=+HZ&BWTk/nq;kldkUPNfStDIqFzXRcsdbRSHW/eogg2j&UDGzoqzDyu4dR!rY7|N*Y$vqkO/ez01RRxPcH28YIIcIJ8zHaihPMgI5
pAVL>Iil>9sg+60+NHwql2*uuZV+9zIfuc|Yp6R/^OAA6FxX6iuyWjJazPF+.il~qlw5NQ!Pu3+<y3kXXuV_pk0E2x031RFY~3U.GHjcKb~sx~mr3zjdB;Pf
+o1WoO;16pgVzUzS?4wIEplbyENOI7*5CIc*DRceeD6TyXsM0^TEnf+jR>KjH.j_XZD875uMBnr>VfgmDmgK5u3cA.,Xl+>YJmo2_YKbDJ10qPU=*UM8TN9+
+j>5KK5nrDjZlMa2Z3TT^3yK*o?W&/EGi/;A|<K0bQsctM3_&8n>!i2Nf~^&z!9Dwo*m8H2ROEl0|wE2v3USkbugg%uQ2i!J~FNSNbwxY19ij?mec07zV%_E
eJ,_%Gx~ceNHI=4$^id^Q1.BELGZvdLtw+m$5J?G0ie6;_=$0/N~&N9>Di7QTl;*ElMQy;qPnnW*SxJS$UsXZ1jJ<717cK&FcuAHu*=l~|=%opwtURKAmjuv
G&=*|Lp.ei^WX~R76iq?f=YJ;H!Ysk|E6=qxG2Sdb&$gd5RhorpK4u+3k;=xpi2RY?OXQC~8j=L<kxtY0XIH4VoD*B?mhwa2PHW~oyRa&4mHByNeHl<0lKJ4
Wh+>_mV1KwW,L%hXt%NBGeX,i9Y<I3,~rw?yVOgkw,KJxe.HPMB9j1t$yQeg.T>84kkmof8qfwQ.A0bYBz6MjehGbj.>xW4$a|jd!yz/rg;s^3f,zL|MH3T$
isbMpe=TQtbHi|.OBJR+llB,+Xruln%Quk5gB<nlb,pb~BUXKoq!H+Zu=hD$a6wAj$,c=kxgpeFz8YMz^&!arPy2HvA%EB*;KGY1zAm>Dba47j58YQ41JnQ6
F<4D>DBw9,|p/&LZV$q.Cm_DH!/*k8p?NZXU13/jTPi+.OTFo.sh;/XBih4;MT7l7,Oekf$duDuk_ZrA/&Eq^xrCoAcfHke$<V4hOG~95lB$S_j_?HickaPT
FDZRlsh|~;pQZZl=tQFYmBgS~|wXd;+$%i1xj|.JeVzgzwQD/<+FzMb+gtCc?F%NV;Rkrnhrurgcbv"

end CallAtlas.Text
