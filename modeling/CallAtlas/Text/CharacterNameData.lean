/-!
# The names of characters

The names that characters have in version 14 of the Unicode standard, other names for the same characters at the end.
-/

namespace CallAtlas.Text

/-- What the name table is made of. At the start of a line a character stands for its number. -/
def nameAlphabet : String := "0123456789ABCDEFGHIJKLMNOPQRSTUVWXYZabcdefghijklmnopqrstuvw -!\n"

/-- The name table, packed. Each line ends in a line feed. Its first character counts the characters that the name
shares with the one before it, and the rest of the name follows. A line that begins with `!` is no name: it gives the
code point of the next name in hexadecimal digits; otherwise code points follow one another. -/
def packedNames : String :=
"3v7CWz4Bh|il2xKHzmJ4Zy^qIZnf,;PnuzWR+axERoiOTmq*e9WhS<s!+pT7+HX+ah?^rpHQzi,Mg7949!chbR&~!To&zWDy6%|N$T~k1dcf>5u7UFnj=<Xm
OS0nO$B|$v?gG.709ccP0rI*=9I<Jqz?P|W2.4ov5eoS~cPERFyRMn.4hzfe0K4y,C|;6*P*b3tI3vBX7&HEUb2?0j74dN3$>/1qx|9^8..j^f.MtHo$cylK
&q_nKi4;l,7kpSKfFVbiBjljaV!$^De?5v.RcDB^nMC3pZ;_J/&l!Ou!&rG$>A8RYdH4nBbVR;tljlaiNd_dhzMD9o1%plok_Pr4cwAJwif~tKGY9^3ux?dy
IEbCl=x>t>f5AI4EBA.q.+3%U?D5e>v4|He<T9Zb^mBWr1P7*tX%CoYeeRO^*P13tCfR$6Ni*WH47m7__8d7N?b!QOLrYY+Z;e7LajciQu,Bj4d;DX5L8hIW
c9Y1G9F3pP~+Kt!/PPFVsagS3OKe+9N,3R<>hgKERt967yn2^44vNsirjDWBruqTY=;>z*|CZyIgdlO=I?^|TyzpwPh$K%H~Iw!?Vn=KWtNi7;*YyPsAr9kI
O0%04t_H&Q>pfJ2!L,5QOvKQSP8Mfe1/dBzHtbJoPJf^FaPj<SFdj+.1Fgrnq3~n?xHXd,Q$D0+aV~<^~b%+s&vmE/MlX920v_pBWLPM3n*xGycQu6uetmpZ
bQq.=DCkq/ct0ls.4JmlUdm9;K_Ya,.;4JsvLJt%.xRlg.qs,~UOtsv/GCA<ft.Q27CbbHPVb96_=r&VphJ=u$Clk.b^?w<%=Gz?1TMhn&Zl6UPY>fJ?sllk
;>kH/ejw;b4=;1J^S$Q$Tks>$=<ugac$iYunA_325G<L6dYX,g8*W>I&L5G!~SB.1r+W;lJ5HM;$yi4z/tRJyZdQ2wyjbIvfV*6rzf&cPb4&?q$TPboe;ncd
9F=0ucdpKy4!3bvmt|gxP3RvKPYYbKwvxBUWL8UPSD=!bhtcByWU~pe10hTnfqrUX%G$U3173gZVTbyi;4|w.o~Ry!S=Oka;*^lP?UfedDbCt=zif6,3;,sH
Q<YL=J$W^wKbf$RTN,L+2=xtl?6J_^25+bn11$;8g+?>G0_qS|1RwWhUGpqTdDo~/WUq5FzPi9>r|MrUKZ+TuNLyayV&ozXj5D,<,h*3_3D*3Aj_o=b?$JrL
uuRh/THL!z&XyXg0<swbp*dHe64XSe,SsU_I|*aBAu>$DgVp8La9m0&NV^DD_/3P,4|uaWOQ.W=J9K.kV*r0&E+$p5,4Z2HDmsW~0;Njc7;LB=Hzrb9jubZ^
GuMHPO~j_Fz^jDzgam.Rw_2WaK9|TwMnL5*j?sAL0jX|H!KWFHMXkVelcBpp47HFQiH9%nA~ljt8$&>*mR1He8^Dv.^Q>!dC=Ic?+v3s<%,xM|dos+g9B89s
0OeJ1Q0Sf4cVEEKhOBoEajTCBgJFGWKO&zAU/33Dq|VHf5ifNcphfYXqJ86T;MmCv<RGg/T3E1Zz+;|=7L!p2f~uI,_wa|xD4zRS0/!v=>RMn*Oo~T=VL,yH
%LOpR<sSLj3cgfZ+G.h.C<vNh<S~vOuT<&$FadH0KXxdryUYoXKseAr_Q1ebJyoIE67*K/kQMu8TiSYofDVnLeQ=r!TW$2S%3MSLZY/i4QY5<So~JG7j_c2T
xBw3XHQdEqvYk9KPS9Myei*mxIjXYdWXqxItWWxRE2.kxRPq15DjUAEbjwvs2Z8knJW8VZY!6wUrPnR_Qqr=hZ;afp*MG*<FBGC/ZE1^JHQ^;.16Bu>TNQ%k
MpBpI6crEKAu5xFora5KKA<SJTQy!|zdku=WgO_kk%Is,r;is!9+0Ap_AhPDjY3sed2B0L=b.P=X>xxk^Oeq3vb$cK;iLv!,E,ivLCqa,+zA0s^XY%RFq~D,
IDJ;w,1fXr4gEUqlZK6.+2!3cBR|Hc2L94W6<?S~0~sz6*oU~ipS>DVjIU!9mce9Zw+6?oV/cDHpLkfGgPx|jw.t+G~uF9k7r0<C.iDe,pFio2YKkx*R;B,k
Y$%<cb1~OO!$lH7=;^,kFNH9vdhnB^P>qFx6/1OyI4|D|;ZUV3GD7Pp3opN|9h/9tjhgG5Uwy5~Mk%HR,zBwd<q~dAPbx2Ivo_JM^MrsxIes_h*SHh;IT8dC
2zd32Hx7Q3EjyfkGT6+ciI^WYN_Ody;uqGDV/Sc2^nT^zu%cPVN?$WytuDcnrj_jp|B3c8ZgsohNWhZt52fNQVc3XaIF~qUZJM^TqeEywif4,Y/%Nltlo*N%
mV7XHB<,16MkDk^^56g<<d?i1C!42BoQD7|yfoKHH9a<0Y7$6NH=A,Se6tOmPND~;+|i8S6%kYYv&htU=NXTfHOFg!25F7Ot<aDVzFD0Ea4N92>Y93RK~~A9
kga&R!AeZCR09KGTc/GaviTs,JOz&&jDbnVeA+x$&3nM+dBRfL,t7%h;OPT8D&WpGHFTEv$>!9L&X7f9M1V/T%M9DXf_I*r0uAO>bD%mP6XI6$ZzO0*P;|Ag
Eb~Lau6z4CcD3dFZY|SbpF!o<YSQ+m*bFd0=q!WF*,<JIah>oDwha<elTKBt6VFeSkrdy5!0d~>j$aqVj.nNd,=<M0lToykS%5*4w/+d>8OVof41Y?~X4zHr
5Nmo_6aif.;/vX_XTIam*!LJD3T$eX9S,$ledzp$jNmU1u>nl;Ku^P<4R8j4=h+ug$wyAuNe&4iS>dLq2tvTJpWYeVh6^A!^VJVn5~e/4c9mpy,3<s~vV5oC
~!6OMNo;nBQ!WXbYU7O*2>BM_P<Icg|KZ<NEWC2zvO544FX6a*a=jiL9.YPSXhpL^5Fu>gbB$VfDrQcq~.~4d^2C+PXqGksLN,%kF7g8ei9^_J!WMN=5Yr7b
|~KwQFJlwgnmH$NC1!=d$&|ipS~Ei;qTM_wAH?PoBHc!mz&N4r/,$=Hz*4Zgz,0sBXus>zAa|VUqn7Cxc7W8fDExh4eVL6F$xU+n.1g52KUBJuy*&$I<j,kn
IkKht/55wF7LRo^%aw,Y_S%uigwNCPM8c32,hD/zKLhz>hPPCpjlTJ89VKz|NP8D>dYF>7zm3O=+I;<Lwj4zr0crcJbBpGqS;H2T$|SMD7urSX<Umhf<$IFh
xbbh=NW%LPlO~0L$0T+$_nShKjeN~/IN8!BqHgCL^J9UhYFB_7P<3X6smIY8G1e,T;p??DWmgsg^>U%Um!+rXO7dhYAI0dM8+w*;?Aggvmb73iR&<cfhB^V1
KgH+iJ,jAgdsedCM&Tq2=K%*I3/cU?L$9^<A>wO4q?ME?pFdFP.W<Nwh;7;kzBpKW67/U=j=H5Bd/USs!Ctf*IgDYkw/wxCsO3yQ>1_E|D7_,KKPhPcjshUZ
~+C$2CIJ,IF7;Y=!&|v,f?XmCjz5R^lY5=?nU1se=p0F*TSO2|~^jg%6b3$u4kX&&HRE71!Ni1!2ZtfkcE5l0bt_7bbLB39Q&Re&rZ/YBVenywOg~mGPE4L+
0/w66f5S674afyk**M;hJQXgz7ezGAGnkLg+IgN?%A0iscsSJZZ?Nh$tNj+<8~3/RSkVzEJgvw6|B2+x_*+p.JD|+rAIP2U!toBIa=EqKAqVD6Y5=2J1x0X$
JsYUIgy6>!0*c6IlHd2QX3a3orCKq|rJM</okU;uv<C?VMk%P~$/^41HZ+cQto=Z3PB%oqjAt>wS3yIM^WmLN,7*CRTZGh7C?LC<54h+N0E/>se4!1IU?|h>
.LFoT;SzP/*DIOD_Y$gzJ5SYWr$c*<m6wlIU!~9?sYQ2Iy~?UZ_>hWwg+>YPK_t<Wu/UD~%bmSTN8O1w?|ak;<u*SrHWl&1ngXPn9548i_K93rD9eyttD/hJ
gpvMT|JM1X?p*A8,_WOEmhHUu^ItSogEpfb9<S4t_=m,VTQ2KJXMk^P4MPew<nZxqP01!1evJbjAc1ZsGr~H*~ZZ=ngxNxq?CMWOlo~khpu+KLM200AMTgZR
%|?9|2dGNz<Ap&5iw;%Gns|I4?pNe/gZ_s97uVFTHU/6^qm|B1gUKG_IdZfeCL^$bcYBNV6czJJ_%+D>hJ*VVr6V/tdTAzaOsY&QKwnCc!bC>LWYlKnw._Np
Wm;2.ec$8ie.k8pFKi%wdPS&U,Bne$YL9fBqtDo9o<F2Y5L+36,c?cG1*GL|h28>vlJU|ozHMlU.4q4OOdp87&^!!YonP/CDb,_CnS%;b,%konygO&11YF%f
>uK<?y8_2fPV.H~J^y|!TmhYPOe,UKZNcci^=9rU1Jm8x|F^^28/1ROh*Gp.4Gco/C^8D$KLmjK&x7,fh5+>O*=BB1|GK;c|Cm$&M5QxOWP7sSUy*lRy0S$~
!Ekh5SNp+_ygyIRq>A8swz/_%CqJTDq*K6;G~;,O4K&f+b5F&j|kts3Go?t$05*QX%tlyB7AbjlTJ89SKLtT$ch4ayX7Ug!>?ZgGvRu,KtjhiOeRN=J<BeQF
U?Xf224Py_jos/$Ti<<ysV+l!Jbf7Hrv7F<ccqWS~|1Q89U7af4.YrO0vc=s_UKC5u<C2|ts&/vfo^%Ku5!bpFBV31nlUE%PaGxA!*i4edVm7,M;wNJY+P=y
u!g8UEVsEpZ,Gb3>N*jZi=U|?2BjDBhiaS7amFi^S8,a%,5O9nI!_^.EIIkqAGUdKEhU~6kygBVHX_q78j.~SC?$X.yvM2oKe%<qe*IPgUHW>LEshyTq49qK
VVi3NYaWxCe=+5wE2xSH1;>jsP!.c0Gi.udp!svz8nNObuHqGw</vB1oW+byH4~IvnTCeLEk&ZjCzRa3_JR1~6Oc,K~%p8_~w=qMP$xR;*PT,0*sRZYq1D45
&u=9Y7n,o+w=s3cbIz7r2<15SNnTrcV|SUx4$Mr7Uxjz_fu2AI29o;FvTU4K<hD&!I^HoENydRc+cNtjZ2Mvx%YT9uFn,ZE8xs|vBvAl|G&B%e44qltq!Css
E6r607<x2uJ>>T<ol7lOWE~njltw;hXVVm3iS8n<7kv5cky6ST&quqGrS$.v;Es~<M|.fTIW^y2wx%hmwScu|WFnxwB.HdO4BggFBD%NEPKb^Xp!3<zaw.Q/
|&3!=V3ZW~?dUTSF5ndOjaABxYwV.A~W_js$p=Z>Y9?Wm5TZ&RUq|lc&?!b%AO%ce|p<R_cp3b>zQnR;v4/<NdYZ=.__&/w~KDRhP61;i%klw83%DGMA=%!U
rZ644z_*^N9a,3EYHlo1P?73%FMIPsvr=1.Am7kmY.Lhxof,Xr!cKRP;I6Qo>p7q,hcK+F+^C%g<&>n7Pge60DRD+4kkmGG_F~v.GDF&P5JBC~RO8S<uBE6.
0&*pgC+WQI&Xot2y,.3Hf~ZUZfo_W?,k9oe38|d?d1diG~tok~$m2KT.&SUiDO87jmU!/s1mZWtFmdPTDB4_AEo5u%r;qI!m59?*I>RnN8y2<Pf.cQLp9rH5
!U%xR_mj==~Z15xeec8mR?^KF|2X7noKegMWVlc;f>54cF/r8N=td_Hf37l9+8*&?uY8YbIW;WQh~r9c_W,6Ssqnx*5symU>D_vK$R?S,+5yiCF><r$.En.C
fUm2D1h.Tv<ug19UvFag+^/PK~a6b~Kv.Xg8f;DoA$I03LpsW>N9SpFc&!uEllqkq_G_87=HvCVPo|Emk2=Z/eQx7BoDqpsOG_.FFB;SiAPz!9hx9,w*gCK&
T1*QLVF+yaMb|0Y1a_l3oCwQOLCzgaDn7PE;M~&VFH.cgwe.7vBc$6_M=/$Su%R;fCN_Ax;$?$7=UWpxtJ;TVif/p6D=u>i.dJ+e9E?mInoR<v,WitIEXAH.
c>VN9kq&_nqi7y>x+!$/$I?z,Kjq/rov7RWPfX_6kf,Clc;J6fy31;2lYlmfP;qJwzGOo,Td*EWF+Dah2P^Apb~A?w20tfa|9DXh>Odgx%ILq3f5R!mcnHz+
tepby!O_1^1$k..|PV3Dw9bf%%k_xipD$1RJKMv5>=O&kkHFi*p68XYrIN>4O=Jw<>yx2P6o4OH;Ix,p6z>/VtVb6?=DXpXUs7Tkc_mkn8!!G>n0!Hx=aSC.
QK6n;B$E2~vC*=So0*fK|f.F3B7>MOhphbzh!B=BR1^4y6i<2tuKR%%uU..+3RlWujGdYg*qeEEmhO;$k0Ix,cHrndpuEhDb6>f0$ZMFr^|ozEZdrAIwq~7s
AXUuCkza6NhtPx;BgO81elIh,/6;4rcU*GgV=y%UdC=x9TWGZ%kD~$ACpKi/94.Hu4MO/O52PRvxxJ/HF%hWP~n9.fdcpwQSz3q0KQLk?,d6~1cRH+Q<g8S0
rCwrGMCW3~6f5fWKCSxR+ig>c2h_qhx*7TN23/?S8Xjj<5&QlH1QIW;.5s7v$?!aM=|A_L/;qYgeySdWvxDi%27iRg?HNJ=k~pbLYBbTxZ%mEjw&IXX*FMSf
s~&kPb>NvKvrM~76e$.qdOZ/cuf_jc.>bgsPyxmz/yl2Ah0~aNR5g9xJgAOvokYhi%swsdwDbUZl;DMpme>58d+pI8Ben^nS,1;Ogte9yNb;<wJIhE>BeS9G
jCjVXsQc$eN9reMd/kq~/6n;avbPB*HiSV6xMu_W_*OxP!R8V_W$V!T+h%Ji8<$K8JOuKABK*Y0C$4Bn,gD~>OAx9fxWVm3tWo5vEPhWdZHxxv7Y$Mf/y;Wv
ClCiAK|3=yYF|df_Hce.$2lVIBaGjYszha&oR|AwL0U4787>AfUfnQ9abKTu?8qnXOa,NGotgPZm4HA1e5Tu~47lE<ry&QR9jqOiW=;=BEi5Hu2WHf^7O2zg
vRN,IyTMCu4j9C$&pJa4H>A_yj60MD^i|yQ8iMv=6Imjk~hA=16FH4ZpQ?ZwkZ_^y?Ge&FyJdvJU!,6heLvFf9NbFwaTNP*IXd0ByJ7M~HLFaYlOz7=HF5JD
ju=93ZIFbubUO=Wx8Z43QD_?nSe1qYkjx6CGDJghfEnMJETrghCQ_0du=V$+f;96/JNOIMgJNSicPasPy/R%I+zZ;qQE/YL$GVL8wiDvsOUNN7!!GwQHfT;U
A01Lc2kueUGp^YL9j,jrHOS*|^Eml,p4qZ1M40|?VurOg?e29w<Zn6p/QDnwbcQDj=wrjM5jea8n8mxYMRrf*cjE,Z_IM6;5T48o>w$Cm*CT<|pcBDKdWgTx
7x43<DNg51cRAyP1wvrt2v=m~pMsez/BzJG15W=aRqpi2DCBpW0b?orCkxW$P?8T$vfdDcx+!I^.5!50ZB&0_pLhA%4h_iLCyIWzK;_ZT.f..Hms_Q~<&K&C
Cc2SV_z.0y5+d_W2OnstXqmv9=v<6WJxnyZ*p+.<jTTrT6!z2b7/g&3<G*g/lAv&w%=u%K.NuSg%!E;MPw8CJKfKG*cN<;=IYi?3z0BAB,/?P,K/;MJ<HlT?
q*=VUQS,lbNL~FksK;Txue^6djWcog/oC$u=lsCza6$8gkyDNT,wMKcb|W.elm<f4Z^h++6kOyRuEe2|sy,%ZPfb;PW9rp4W+z8~?0k<8hJf*HSoUptYtvR5
grlDA!W+$6+BivCVnwS9&ty|0z~Xr;40kJ&vZadT3?_biVF9TA1bYC~+1f,S+rC.65UzVfT%R=2?p<66Qd57!EPe/ytdSTgEFk?=7zhCc2Du6UiPKzg6SKY<
/YedfU0.uR/htlTYMEYsh2!?|uMbgsxT0;%rxu,Ol8gFJDhgZ5$*^DseVmjNYv~PRKkLY7~xxyM9PN0ex=;S0nio$a%HaK_oqckj7dFzWbPZb1l%oKWq;02s
|Wd4WUl!oM^dWD4SiQED4Ts10e8aEKX5Y;av>Ka4VcEWPW;0R6?Qe.Z;$?m%s4v!j!/xIknTyEUL3QzTj4UhjN2Y86|?qj6_fOe3krO0ug4~$C7f3~?&Q6KV
xNa7JG,_SyX8cN9;zy3Lv2kXx=S7*!~Y~1>3iO_7+y|T+oI$>V;cD!x!w!$BMP;_,c!e~%GD,.Aj5jrB=/27BRO_qq?NKg&nf8e;+S4WprqdFd=01h;<$*7?
kT51JJ7ZGy%g5u0QeAF^|G7TtaP=HCE1kziXz&h=ydS0016?386Fk>d^xVT>Seg4bTWZUD*QVulX0h,z+sqg~Bm,,5JPr<E>Y.?xQO2esGCsLBf4.FnOI%T=
IbgCr1A*e/!KP5^_<xMV5+xki~EoQ=lUhn_7Z0,>%a$4a%|k^Nm8Aj_aLxa9WrU1!Lk88dQ,kuf%rGnC<h^9Tlwp/y9;+xsy_r9$k%5iXLf*YVnWZ<Fwvf$j
w/GVhB|MkBdvKcghgk;x.LpC/%B2AL~rW7&/E||=,nY0YQTm8B~dz|z?$VyibG6M4H~UrWw>_?fEyYf46^n?*hg?>SMMH.cKV6o0FbCM&>piAxPL|^nC4pW<
si6y/95L8,n!CkdXqCBK_Eq!tYkydi!.oJIZ1><88$?/wQQl2V.c&eeSb5ZZtt9xR~=4smNWKyNVw,M3vXLKn^Oyvmx2NVAbXX>|1CgVW>P*&8j=04%k&FH1
Z<&VeoraK%&xDA>v6U<,g<L.wi_6t%lUNGwD!6a!TNX.=4A;>NjVndskWWy7pwQNvD~AY|E0MHX=bC4c*%w>zd0S2l9AgoM9%VmK5b+!visJdqI11xH??clc
ayuw%V/WVS&LV/kKjY6>WWweG.i,XSZl4~!e/TFG%y^Ygv3=hRo;MVTwH;EF*K7z3d$pgpI,^YA;=x$dD$ZOx$$k.wV9T_vCXJdgwh!F4Jvnw,17>c4DnTj2
gU_5hGJYn4cocUs3RJqtXq3R=A<Q1+*sH0gRSwQb?HqFm/RN26>RVtL&aEWa4xmGTfp&s+B=qS1D*l02r>pCZvVjf;zyNEa+cKuW5/knwBifW|%JZ,43vHE7
&D,;X;YR$mh$hIc^MrGeSc;lBQR|f!zOm7Bdwp%COT,0W,QOsWh7R3kU|q~_Yn&ckPgg1g33<kWj_TZB<UGoHZ1CpDd6+sIsloVTK88DO/O3nWOx,ltKHssK
nGSpfIhHRPrcIdAUFlC_gf%.1P/dIt|~<9>^dM9xOyV$S9Z%y*Cj9iWu>NYzi8d8>gcV<8t0qN;Mm|1Aoe%=2_&1ryjuefTbJh+SZeh?+LgbedUuAF<2xf.t
hwrN!7|$wf0TcupV33qFVJi0M35Yv?C|.^WwT$zLg$yW.xK_,c39>>5Rdwt6oDekK8aTm/;Tno3.7AIDwUmu<dlK&do&X,~AI0xwKefx>E!>Z<q0Rd$n,$Tt
K&mtg61iMZQT~MP/x+R>7ZPHu7=Db5u+sbCx.;Pkymud,1JDI&f|,;;^d;;+HCF<aO8KX3iisXp!vN&qOL18>f9Lx!T3GJ&NV0m~g,ZXgHcOct!cKliUoG&v
A|6J$GoTq4DzS$uaU^xQ6PH^*Y3g_ZXb;RvWRVi<.PTc5=ea!yP8J?g$6y^,km;yVZ7^o?c;|||=i9OKb<Z3wpY%Hq9NfFIoU2/XZkd^_0Xm6iBYL>?yp&bq
_PA~$UHf?ht%75QmVGGl+Kz2$&E=CaYOi;ivhJra5k;YZY!%pE|9IQ?F&*1>A$i^C*l/IvVNc4fkct.uKw7vvbC^k86jGLZw2~t648Q48LW*tLl/A?jqAUJo
0+EA,mP=eZ52nn/Lvp/zAvmnt!UrpGYuoPMgULj%^ebD3pz_g6ZS0oDndx_snkW.leV;oSJTxUUOHVxqvVKGz71GXxgYYY4Mn0q5lTp6lZJr^<S,69$pJC9V
3!E;0ZXmx4;Htf3?vSYUtSOYN7LwJNjw<gvBNkNXb+1BGJ1.tmHCm9PWrrhXegqzfwF>!.y4w;5LoD0,J^0q~,<l$/LK4=%|TNjR7S;KUNZ6$E;i*oF|6My_
+oT~&Ysu|>Pjge3O5o5IQXB.s>.FQBtk6$TLg5Bnw<7y/|<5SBB.inU/x$2/uyoy%rb?b&!2iE+E8tjxfN<*rBFvhCS_1.Ad3<*QFy73^xv,I*?|_W+^cPEY
!e$V*$H4xN!GCG<GhvR_HoP;FI5<REu;ns>C9.SMdbVq>7eWJ/e8;5_IgvWn07!4;IDD^4W7^/>y?nCxVxdlR;h&LgBcM0*PDb8br$NVMtqumF!D9tr<X&;6
qib849/ZY^;Rh1oNH&QSJj31ZX>LQz,R&r?^FGHnTjo2&bJ|pLW!wPkGVi6mVBs&I.D^p=0?IS%5;R!%cc>G7KcgW$m%vTLZut9.dEz,5v6dsuUtH?hzyG;e
aITDR6d9R!HkCAuK1b05S|qUKNyP;6xC7LTW+ZIkbj86nR1Y22xH<G|O4m|W6x<OS?4d.7n6|xMs<c2AKs=$k<AHPp~mjWr+,s1xx_gdfNU1E;t?2>4/WS;K
X,RFi_pl8NH?4IO*.!&NsY=7pP=vuUEGN$4Qp?&7Ud~p6ho.%!OQm4ow6R&7HFY.&f3XdT?7y&%.o1w18s?NrU4ysuKYHeN.Dx3**<YCBO4oIXRLZCr2/Sa/
SMtK$/h1$xfgJNT>nnQjK!+FMP0ok$pqAR;&ckVzEl,iHM;uO$~~~uyO51iZ0dO1!F!DO*1w=*hloTa9O^=MpQLF91K+4/*1odTbqbioeJr/.wLTFOb*j.1g
5.jsx2uO<|tEY>9BxUe/&Jb%T&;m3..fWPM<UUMtakP</B=*?<Fq<ZSg+Q3E=cAq7r>Su7nHeDmFILPydlqEC$ftVx7^pYi8QOgMF>SW02rho_hj_Oj&QT9;
c,7?*qv_^T2EtTBUNN~D0M;Ud~Q,Cr%y150K83YyyZo~91~ASO>$0QsOZ0x!7ucr65j,D7gqDM~SDL,W>4qvdJkPc5=boDwIUDaX53PdHPan~2~Be/L2r<17
&Hr,Az|7E*kdhSP_n62=9;o6fFGTdX+,a.ENGZ/bxiK?nN=R|fO0,U>Sh<|axVg%z=5KL%Cm=nOrJ+MKi.W8U|rMF6qYUQ3,+Rl.i6I|nKD~d=4nKOy0gV=&
MiO=EGnj4h*,Pyg+V!secQl&Mpk.d1TetLehGRAs1xkQi1$KzU49ghBUqq=S|u*%kj6nxg<xnIl<x4jF!Q~Bwk|s+|r_/,I;S?%y|731~CWOo9lJn_Cx^bVy
Lyzsct3m9Vx/CfigJZ>gkLygOiYEkYTgaJCWKnyhuqHAbayo,CbwtB%8=uWP&1g5hYt1VEW%77^/OjIGPId!F2dC4olwIe1_nI5bBbggKywM^l<NTa&M%W4L
Sw1sz;0xRWe*kdD^;MyuR+?6/Pf&znQM5|ytHs7L~mHItZjLJO,,s22&zzD_P_D5IeURW4A6hQjqmWq<mU18l,n3lN7xC0Svs+8F/=QEL$n87AJ^K_xXy!Bs
yG+&66mWFDH=0h~,pK4%U$!R4kpElGHA!DNwa?ax9c?$Sm~Rpt0K~bV%20A_1yetX*qUE,dd<2rl2vQuCS/E|FO57f!_gE8sqB|zJaCLJ_Lwgui8>rwg5q?s
eqBbDHcgSqY48tgsCsRsSqYTCji;;4?2wX$;hG*cBXTpiufZDjvY/lia!XY|LmJNqIajIj^W%cyAGP%W~6T=nIe3P45&33QO2c.*E3gtGWS5tbA+gn_15ydF
I/89g6dv9+?AapIl8TYs%q?Hgm,9ukw+/|stmUa;a./>Nv!Z0RoFeKBN%fMU*SW<V>X;~XCDgJz0MRLJT|*<uA!^8r6oLqbR$dwykbs^rbUa.Et$dJMuRpbS
R,_C=u1SLtT5OWp*~8?,VzC|O7z%mNO6DcDyU59teytX!*hU$5t~t%7ssAAcy7Dm2&/Wnju&A9u!v=KQnbmScgMgnCBP%OM;AMaV~x=&SmLT3fz9cQ9Zr=?a
6pMDi56BIe%$ng=%>$EUEvLazmBVt<L6OszBS1w~v<,;k,YuZ^0g2yL~CYfJFhICW/zVZD>loYlN6H<,tIKEHga|78$hGb4C1VylpUguNcg;,lo=ZgBG.%vf
BVenjGL3UB?&ZKg|%dYxqZ?dt%|^1ifcEppFAIL0cl=6&8!oLGgL8FRiEkufVNSk+p+|Kmu5wza,AeGncl/p6spsPE~O4VHa4;=P1A&qWlrSgrS<EfbcS>+i
KoM|SwTmLMDy.3H|C,j%jZDoKj4az!usBw~1.%^&h$Ao/CF+_bw07tLXVyzGCSFYJ73?$Gsy1GqwdZ|/8jGj9DM3WkREKjvbSC3W^t9sB4zoF8CwNO=,iNxB
5Fvx^L=.xt=utCb.ZZcQgx^bjLYP9+59kTC<>jr+,<t%*wa9H&H+W9/jQ8<o~1L>8GacY0i4G,3Z3vgzm9/Qh$wXzcWTcq%PLBABe/cawNFL4lGjE&63>ch4
rDOmXt%Sf|EnyU0If<SJiauU^nf*YCLRJCT^73Oz_1$65;n4_fh?|8+erVDI_/atMH2vy<o~oT42v/KvO5.kjQPLw<Z3qc2R/wSn2,5TMIzcWfN&X<k9~mcj
1Rxodt;m~L|8.4V/Pms*$+=Am_a^ejVC2jd^~|51GL*BnG!t|cKMlh7uPE=4wA$ol.jymosa=20K17q.m0Xy*U*QD>&8cai6hnMTiO=hf<I4PylB|E_jIcxB
B4jWOouPF/s9V7O|;2KEnPNtq84Jp.4Jv&~+JsnGr*PxKMZ~+DS.^sLLwD<OMCn8clKfWd13ni<2h55SKP?22F=s?_d*vjh?VNBu3!EyAQ1|!r7bR3$S92cJ
=vQ?D!m5Fa*&qQg;C!.Ke^e=66oQHd+8z2e%tuJdA.*D;xOhG7g6NT&/0?MR2i>bi&Zs2_ZD+7gft&Gv=PzqVME0oD_dlcboOj,?ed0PT%vz4WP<uk^X+8Av
hF+xMckUR*D=2|/;r*%eKs?4lXF_tlDB0TsQ$jL8l$Jf^+Qk/0sa5tjyD*iI$PeVTuN2_x7YL/=aev%zfO|F|gnj9m.VU>l2pMsi,>q5/UUSRLA2GuG%Znb+
kk;e,zP+r5.D.5yz;UlBYMEoOdQEs,B^&~ZVw^QnG.F9&keXC,Ak|Ni1igjsk!=jNbcRe2b=mItTgNAg>48=Pc4c<nXQ3dWPaT*hw4RVj_2ZweLv&ELB>_KK
G|~TGtVdo//poVR_agzqzYphxYg!ow_rD|gi&Ks=krSx.Rvj2AW?BlCWej8T<S+&/GNnAS6YNj<I28n6?cX?l=LJ8i$|7Oozr8y?~z%NcugwELPt^PbpPbBA
n*Df^K,+TsV6~+LZixhA+H+NA?QVB;<XLjd~_.B9v/3mTBSHxT_,DElZLz.nL2,,&!XgwlqxFx^SwUTD6$,$WrFbv5Oqq%DXqOX1LYRwn&V^2LTPz0,/,E$v
sBVBew=Yq;5<>508X~Wyq<heNyZJVg1y*YOLws.si99$dxpb2aWLe5P2qH8~aT|K<t?+?uHvyVO4Jn/^6D5seL4_SP/sqBQ8_vWeU,c2E87WG|q+MCeCd=E1
MdEJmo?resonpUy7bDY&1ekLY/VMvEy=K;;ef~q$.5ksNuD_.B!F0OKe=lHfET5l8y_XdP,lk!5e&CIrI?a.p&^q4QqUFYF?yIK|,Q9~.qg/a2=.eB&EV9G8
AW4DK6%>Ed!A7b29q.zAd3<X1Cots8BXud9Hsu+3<3I6*+*iGNH<Y_t;oyvr&g~yh=Z=HjvjGXU7U~Y|;M+|?gkus9t?=4goEL+6S1UOCX<eObWo4pRg*tn1
9r.F?9<od5+wAJqNmu,NT.ZsgsxWo/;QAZIv18erANgLHEnHWr6D52B2+Pd~f<dy0uA&2HXWQf5rcX256a?|k>un9??oYYK;SuS=1Z/k!RTgPqDDGgFq8sqa
Vz02<FRD4Yve4tp/|d+EHmSrad0EXQxU2%TL3~Ng,;YTppeSKQeCi+xw0,~x~T;hD1WE%MZ3ySvWf|yaTi.a^%6s,u|r0G*jP^o,4=Bm>nD>F^K!mPvJv?,F
Q.,XGOS0MpfwCU^w6ert/d?pu>KnK<?K_e<++xGrfwL!b>K6F3u4Rza%3z^R>Zj5Irg%CA^!%shL5/b?F?IAlN_7bC*t0CxkYP0fk84jhFd>M,bZlkzqd9|&
Y2ONd.;l2S~MDzoFd8icz9uCz6E&IlAyfrrqWOt16n*VFm<vDBr!pIb_$R!tpWn%iD$T=P,wl/5_?d5/H$LZwQjo;wzY~e+T3H0EyJ^Gxz2Y!rCvI,QoCt2*
ZMTxohCIG6,oEGd3N=U=szYSo1Mu^WF,F/H_hWEZsaECIzJ|9^jFo|CID2M=1Sh31!m+9o^Yu?oi*ks6&yaqMDbIL4qwv6!n~MOJFR0qFSV,1doQw7jPu/Fl
Q+JU18VumU2n,Fxj4c;XLj|OAHifrbeni?zko9A1,!5C;GDfauO<,H2SVF?TLqiYw^rbYoKQ?J*1Aq$PION%Jk|k6XuxL!ny&aD|F9JC?atk;.>pv?oDm^fL
Y=1u7v8>5PX0w_HoMzZmpOa/NiWE<nFDN%AA|2a~lP+_!~bil?G8,Lv=*7ObmfK7T/Mhj=3<.&c/S49N/Z1I~SXYs>wBQx;~<3|.pjoyuMabJv49A6Zp8f3e
M50rC%$$!!W/Ay5.ad4+XZS%e&hL$s/;Ceu6|ZK2EYhaNifnE+<Mj1WtK,A//H*%8ynau~Sr?kW*6i>CvU$!eiUNd.b;!zYX.**;c,5BN3dlo=Xc+&2ihA!Z
&m3ZCr!K&bH+Q~/M^BjcGVKb1DC/MM|EP^GG.Y<QO>;D$7$B$25nQ?|Hzgx17MM7K+soc|rT>J$PxtNtynbps=V7,GHb&=>4aBboh.p;?32bMKOrvCHz|+7X
peQ,sD&G=M$vcyrPz%UtD$vAQFWg4^51>;<mS2jl|2cSYopW1e.8GcAb8T5tkLGPd.2aCx7?09W+H9Q$k<Xr2U&I^R,+JC._YW/U!iA5?~dHqPV=KUBF*|mE
FUsj0R<c6<51+UJygiX|W%6DpLfATO!8^LRyt,<&j9a&a^S;U&K1iZ=HSRumAUS1CM=h<JK|s<^TnE<QNU3na6,/;xFG>7Tx++sL$e5g$zgcIE_pPX%RkjIv
L65mn%/8|^l+M>OW&,<8;N_F7$a1s=?6j7Xh7*!SHJ+^*qi&q.EPq;=Zc_n48g1QEJ>bnyEZd<C7MKLz.R^8fQ18j*RzX1l6>Jy=KP6!9k9Kt~1j^WjTvh6D
I!~!<gxO&ZUfN1F6zDTJkuir0+pu5+u8Ir~s$HaYG<Sb_o>A|<9$H^z2v2ui4kjATsz.RliB3x,bcYy_YDY_HN3RRYbmpcj^t3hV4D/u.K<8t9I1c^5,YxM8
9yo*HqdZ+7y!7Dle;JQ~%Y<w,0$&s34mY<2q1rt+H2B,YP=?I?SXwuliI6^7~kp$|Do~QVMRO0>1M40dyF>zA$,k>uAM13$.23YekF?1!Jvaj3_1If_9T.!1
fHVD2~A!xLiy<%*9YzB=..2iPkU9;x0S|gD|Wf_c6JYoAxj,Zr7t/Q/USaAS~if7rc*2AFEM1NxXBT3kilv>+W~K7*3uj.Q1&PVkHX/$4*eZ3&TJqBPNXy.I
D|VSfm>Q%dWW3LnEZ>G~$yG$UNv8g^H+bTKKFRxJuw?%JeXqBzCPHCiel!kZI.h?6k.$1$xgH^GSQ609JI+Ub<P$hZOC~BD7V=AvhyD1Nnqv4Tl%pItj?awQ
+vsRUZ~bp?Qf$1J$r*1M<yZBv,I/qP8X*C;/?XSjN;pY/~xXqhIKyG+ea5xdW^M!_,n;qS.l$5FfhM;dKu0,3&I7/Tutqz~<?ZG<U0p/~h4hI0~/stfrj~E4
5E1IDc8~F4FwYz=JyfNN/7Q1e&>~g^p*_c1!RBc&KMWR*=<ur~;!kQO?_n0$jtK%$e=wGqnLqQWb7M8HV*ipZV92mz4OiQc~>O.FDdvy+9eGC.W9Qg=%oPB/
x1>8_0=t^t,8qtfvoBgnuq9dQQ;$ltAY+y^QLZSEi=iG!yY/n6+^qGo17uEKjmpJF^NX_4FsfT43hSWY*<ktGVH3<A$rI8>m5JFLyN^rr3T>1&xP1K2oLM12
oBnQyYTcdZG8639XmgjnzAIbl02fXpO>2+M;,2=HE35dIq6<U1JP2CYvz3Z3>RWjD4|45eUiF8*v4P+7yi_sGA^4Iu&Q4WD9p^c$Nxx*3>DLJyPGQq1N9df!
hFah1JJsvF2LY89v%4m9^6nC,NthvG^Z<g+n,I~2^Sd>x^STc>1q_!l&d1ghkDQE,=2?E8ZRq,Q.e50&C=c$Aobt|*<j<<IwHah&XHaX$n./nMQuyzYrf,iE
?WyJ=u6LMUzDEIuNY&d0*HO_bKo6,zW8uuN_qWZ;F/Ge58d5W9aJ8Ld+0vh1oyL16?9.~apK,HsyH5J2T1Mbx<O~Lp7k%Yl4G;piOa~?5.j~0YXtc|^tsQn6
/r=/sAu=/vIksmeg0<,Ykvxe&RBor&d00O!S~OchMvd!gY|O+cCrV0~GC7_JXOif_vmQpgxUWaU||S<47!F9&Q%LFue!5js,xmC9avkBDpKbHX~e6g4r_1?q
IUdWhkA8z%anYFI<LOy19pBsM~4nivpk6Q|9knI^mOwrAaL~,i.^/&H9~|PdTAJxSt<C5IouxAmwq5b7fYmwElfaZurG0Ww.2CC./%n4a7N/z04X~rHGOw?=
mNxhT_Xe=!jS.u3d<=HiG6c9wR?2$8j!~tjNZ1IqAg6Y?uiD9dy<lN$7CPjG04CVW$/zUo<EE$Xy;caz*_O!mt2NqGnITGTt_P,Hs>vjH*.lTv5,M^C3oCU/
_A6k1n<sbi,jeUDVPASgOKrhgzw9sGXvJ6lp~bt$xD5S;XQz,,wj8MTlVFBmhQP3/b*NHw/C?AV7r|z3dI^A6>g0?3CKAgLfxq/azBAxg%4?VlrT%X3=VNRp
R!vS,eQ/=WQdUDG6;A>xo=O7&ocArRjZi/Cak/v$~>QNRRU6Emh*w>V+mv_cXWZ!~>D$y.|zl!k|0y_O^7xe^YIf~HG^Sv!fIreSKpbSokDz|<2g%MFp*VeM
*PhQgaN0<4<.uA0GXRp_v,.iahLsk?rEs!E!Py+r5A7kIiHk;1>vhQS,OOMHq*Hu0sZRy*kZWcsesj?b7hR7MF~D1mQ+S4KBL6Q1X9ZDA,~eq!3xNkd/^zS7
9gi1=QC10UkVtTu0d+2Aq;;CH%SEoLMo>zYOstYXQt0xpLqOq=a07M+kj+HAa8g;cY,m7adf86Hbx323?fk0$lt&G2Pn1fG2gYmaL%hlZaoiuMU/NZURfn%X
Bzd;B,=l66U1|q^If1^^ojDo<;wdpTzg/zHfw^79Q=vf2;%oNH%Si,S>wm*LiKOTvU<_$XMmV,kgtbQ4z%wKkq!2V,BEPZuGP.E9L+wcdegiqb6XsR8N?;%Y
2!TzLTU*!f&^k=VP|s4s2u5cXfRMuLq%O1C.gE01jiFB6pvgriiSg^Myf8ic*QVAx,=<LQgsW2XEdx|gPY;a6_B4r!V/?J,$FMTg+FF/Hf2t!oT3^S6s3cQ3
+*U~3&$yEh2xhdPOATP7~iJho8Sw_eY>v3Qp_L!_4NvV$b=Q+a839*IN;HI9|9+8,0F+O_i%wxTa04fl6X/xyVA+9HLrw|&rCC5l<v0pgHqw|=RI%**o.PO<
/c~RScQ|iT&CXQsR%CRsMGKPa9QQ22y88k7!ixjAI8%sFiIoHd.3qkG~*o4TKM^g<Ah53,xLjcCsBrvQdiUbPb$ct^/;IOpF/AZ,5R4I<a6Qz>uXHtAnOONa
~1f^0DP0tIN?^51yv/a+MKonR?qCxH9.2sU3n5Wa+xJK?uGe?Ro8LJXoZ4pgDD32QiP|X?Pe6/Mzt,6l5Kuu<5Ybi$*Y&+XN!MI9<uKa<muSw/ONhj3?A_<p
4JbFjxuA<>;D4VfHv3/mdB1LLQP*<heZla?10T^sq~gNWyVzD^Fgwzhb0LTZpRz5z,ddu>,aF9Kb61FkM1Cdo.4tv.XJq|_Md%I9>gqGHC$SCUdYb1H=eV&|
pChc2oUVrIZ_HQSgug?a&/L~.7QRl89cWE;37s*?19NBrCU;*gJCJI$~oGi/5;|D^4>4$KdSL/IIx75J&1,3j4YAXKwoXloWS/rY*JB_WVYdyt^HO3hk3bNf
J9X%3h8Xg49d?sx?7|KNm7Zrw1*Bmzl?*qH0?zPH6sFT~3U|Tq&K^LFxfQCom+=?;Ta$r6r/lvAj;z,1r2TA5c0GM+=jc>pjUOT77cELQu9a1o!^WJs>J.~D
>_Xp&tL=XAV|PxD_HUU+yrRN|wwwFoQdpL2jT4n!yea8fbi~EQMZZWFCwgTR0auj1V5$W=.6zUMR>U|Y2;WnK&Wzxpfzk/F$j1x1^.3m8_w/E*oZ33iocqw+
de8otGe&23Qpog~+3NJHq;DWPGI<S4hBqHIaL<%2rMeq4v>ygOQLYR*Yuf;ocPo?nM,CC2inJl649vQjijlKO3=l6+6v3?UD+G&,9c4Rt371uPio;J7l&3>J
>edGr3u~&^/=OHzoqhdj8idO2kM>UO8ZUrejW^Xxui!lWCkwdHKL!CW4|HBrRfwh574~N7j1r&D!NeIMv&3.qL*lNZ^~Aushv0Zjo,Z?WlqeQOpPCMm>s8Kl
!NPQ5NZrrrZceyg~D0SCU3r;FiWXl4K5hCCH%K_zMmQG%g2H^E0hr^m,.Al<3WnXMrN^X44%Zrae%.cwmsS|wSL~o/uQ_aGU?&%2*S3/Qcf3Y^o=OxLq?A^&
4J49XGQ_q8MOIH$^4cfqQTb6A$PetUPVaQM,m!B&_P+gL|$dlYyA_Po$&qN3RY<v?lSd$~T+n3x6>Wzc==S/jUne^B,YT>E/vsraB3r$?163sny^r$;sNfic
!GEr%6=bWT/_<jsi,o37LlK%,~dd7;!u2m^IEKgg0|ZJDa<Xjtp15wvhwZ|!tYsd45Fu~VFn4QTXfBG*&Sf/>*4Y.TTCCZlkQ^zli;|ywE0?K8Gi9wWTE3Zd
Bn.n><bci>gV$d?G7J8~S4KwspY&*+lTpS4$THAZit_$;7VmH5Hu93wqNvSY%bBlL=stobSX0dKrN~s?+1vB16~MkVZ_F<L!F4V7%bkcvmU&HUd,f5GkLbBF
Ha_M$v6;gGoI2C5&f|>nhxjl/4?zr7q4V?K/VGjs<bPur/Jet^qP<Y.xheZ|TRJKxU0FQnUwd^k7e22|j<h*AIq&CbQ%SEi1$c.S+bAarwj<kIU47>?yh.4x
.PsKzn?zy%kj013>,ng~lh1NsPakjWlx$28~Y?!4rzkW~q*N~>NA$%ZB%tMa?1k,!xWJF<cc&Krsd>Op3Tx0r>SV7G=y4u9_jRB~6fwvvq;VryW&W0l<r_ZZ
%oI2%&6<WPf$~J&E_l1>h+^oyU//,is/DU|9kUNi$^rf?.RX*NrQX~CM.!VPt/ro2naYFT/K;1>d_PTP3.2zKrY~xHCJH0n~CLSTtN1h+i9;4|;if;ln2A!O
wdSD0kyKj,GnC_SlFKx*G7ZNlY;Zz.8JsB$dnd6aSHAqLj>JkKO_Z~OIP&StXFG.nK.6J=*ZJCRdN2zlGIv4+c/<26nAxvaprO*M>jepVkXdRO5o4aT~E+hA
1/hvDuB.adtCU/U?|f7t3.|7__/BE4|Q;q~2y^hYO3zhXraBsXHvgFP9O<q7I+5YDnEQ9|s>f!54.N%uT&Rmgtij_3K*xW/%1Z!;d9rM9lH*pp0/!~P<nK1y
7nx1zY+tefK%LYhf,.?b9UTePnE,Ja5K7TaJ13vP1rl_?=De+JLq/^hK?j$N~SUQ1QalPJ7Gk;21l%,O/MlgW9>.qC?nzcAxSB%E913;h~gDCNsO!e|gG9A*
UBIgoQe3b13oEiP/PEw~UyDp,CtUlW42t~=a6nP!q+5dSwQ_0QQ;=Gy<gMLHY/v;zcfG*H%i;+rBOWx;$0Vk;fL8OHLPFs8uDq3!eY~BM;=GKc%v>SA0l/Vb
B~=.+t&36JL0YlNv/!!iLfTkMe_6DhbhM0m8w!!V^<zA*23&ohYSSH^uJtkvV8Em>7jE2bmE/6QNWaF*pxXYavVrx~f<0%n1Jz8cxn1ABrEh%FCFYSR8O!Nu
B+H;lMswQUAgW.YLm3Hx,vDLq36_5*G>0;0rjk.rCow~,Q*bSPR,i50$LKoK3$Rp$!*iQI9fg+anD%Gctuf25,Oofb40UBDVn8|DrvO,~VZBfNz6DHqHoUgX
UMEUzE4GF*2zMky;QiNZLAmyS4QcM4P*BQic4HkZStJ9>>sDIjl2M+!Y~W.Wd63a<a>_4;xzG$g~g84_q<TR=n~cCGK?kO7lZ&.uEV!e&%y%^*Sw$CWk/zX,
mT8tLBLzZs;kUhnRr,e;SSiMeGO>_;Q84DyUodS3^KXCR?3loOf~A+gj,xNrJi0cP86z9ww>el*mL%kXDpjLZ$bxdddmcj~o+V>HEX~EG?jdm2K*85VFU0NJ
e/uIi.BVuyd?zo^S*5X,g/RTvXq,7n<mwsHQiAjdFe~+sV9CDl806a^0Ec<~SqT8kA84U*2Z0iqwo?E8FGGum$fxCdQD>Ukze|guvkf=+G2A8f3cCJmHH%zC
J*78.b6R,^X|>eok<4n3T&S>745&B9x!9Me4&|5U0;lY?&7~Xd,jD+QgBmMW,JMcHa6KtGbEHH5_J!~*K>0co^Yykz*G&ovLiN3j1SS~qAL%Q|It>D~a8*NW
~e!VvUjBkJ^E1krXBKl,o%7X,9=qFsc%1ZEaIg0Q*wDO6!GNl5^jAAn_g49hx_PB&hipkSx/$~~N;,u=XD^0h5jC2ppgXJ%mMdR!ZuaAnA00p>NJSjB3|;UQ
~qvFnA!LYfPz|RcyTTf_1J4wPS/r0SqSBkd%ar2JZ9&_gofTI6MMK$z$V+<<*Pi,EjrFyuPEh>NSD+M%f^V5Y7zj%rZ?eMImoaY<K95Hf~^d=d2X;PVxwsCU
J.*6TUIQ8~nExcc4,Otu?ID/,lHQxjEZfb/3teHKmGT/G=umqapW~91,V|$oBgvWIeT|qtz28fY>*N0h%2|LcNF>7sYNnptpYfK;f~=%<l6gQIEr$n<~BAX;
CJ<x+I=.L=yL7aws4!u?vPCX$gv/KRDC&Z,50bqT83f!,!cz8l5/~3Kzx^l>1w!J&KfJ!001uBZHMllJB6ivJDlI2s;k6_d;t6Y_w~Fb||f2DqWG_zVT,q.&
yaKjVPqJ2zm,+eKyB6m|I1ROcK$Be+sg3VyYaU2Q$eiSMUU>vFh&*QoV5R,41Xlxb>w^|<JqT7F+Xq1tFZJ1v0q7qWvSn86R2u<l5Cj0Bd0u?1jw>2>U*xpS
FkSSIZ/CGfq0ZqrVTe4.8p|YyUdI*EU?;>;MW;Y.zc,s1w_yEs;LKqE&2d^D|nx0nQO|uJNV>Gz,UYxQo,*TZ%75YJBUg/TZjFwnIOrHf3FskW4;C!>bX!E2
J71SWoIbeqr1_!EZVIrxqK+H&odSaJn10Rgm_UQp4ne1q9%^V<Ju&tPq;5=j+2NjN^?3B=dhnE4kuIjVP%UNxT%,Nq%aM2hGR=nOnl?DqMjoABRA92Ll7wmY
Hq>M,lBv?0ZZYVUP5z3TR+uIv$2.1OoN+Qf6bduwRJEgWJZR%6+T&!NX1p|w;GSHcYy=4Y+6_<u|Q%Llzr?+<cA63OsEkrWCU+M|f93/;$oxA/voR>;Y6ee2
8^?r1F..n/l%x8D39k>EKrNrWIlB93!7O_=r9RdMfsMz.wY=nX>ZHg!hy_c~Lqte2$*,AcY!T6xaX%+.arcx|=0Aq4CDWxnsGZ<Jd/Y!3JiS|eao5P+74I8y
qjlqLdfJmas&=gZblet0pbna58FeY3v.WL9N!<1oi^vh8gN52>B1t..3k<~r*<%~JU$mTK*VvsxC,zMHy+iiQP;XzvZO^Hs*F;Fx+>CITr*t*TLxU|.FCh>4
dH=ituS^x9GYc/i<j?$35m?$+zVncsTk,b4G32.qw_m?nOUGcoJ;uE2eLrZCJi2>4k~qWw?/E|!*TQO?SIkQ0J29h<>g8h&vTtS+7~$jSa6y5sF=6Xf?ZVe/
nL<u+8nx604am~bnGXXHHnY*Ih=JME4m1R+/,>=6_~$vjzzNBeCo5B7x53%~HPdxpNh?CExT>2MHjIISaZ/M1_.317tv?H*r30wyv/y$o/aBp;Mv4Lct7>s!
m0;!4K5JM3paZLv^49Qmg%w|ejyZ;QpY0UgTReUb.tD.MWNf9xXG8L$lnt1B.Nz^DWq~g|FG<Nxyo<8QBv%J9d*Nd;m*S?9vbX&r%qPsnn~^cB?Z_FEQ%0e_
j/z^iky4vNZ0SRX/f*mm?n,=nI|LURK9ljSloXIfauX^|khq463x=uruP^hH&K%p%i$,<zFb>U$_j5rKOD$Qg800DBAEM1^dvI7;9SH16~.x?yCcg7QMWGd?
+K9t._9*w;fmw$De!>?G>^EgzM7s$kGn7C!3ly!z1ghMBpFIb%$;uZLIRgN>ZtPpTagbc3=ah9|eMAu%QqhVMV,6L!=M35Md%MF+u==$s5i<USiIT<fWUbrB
_la.UZPxg;un1_HOE6yxWQ8|Kf%s=T6NP0OA&ZS0,NB51oNMBUu0/j6tubiE5*lcW<41zTrMiADi5/m1b++K2!c~CzPi<GLs^!M|LRO<eez&nIB!0.MlyPOS
46H=anz7%IX;&5ldY$2E$r?!S9+Gtp=r$YRioHxZBRZI<xW%wVIsm0otf+Ta4<U|,&eVh&fx4e<^SrYExyJH|.&8,33w&8Xe>NK.q.o6jrFZdsLKG^LuEMr5
8A_3/LNU9+/3ftUh_?!$$q^~NBw<Q&Ra8P;3>Rv45&VQUoz.R3X,uj<Z83&j5Dja3IZ3$mkIIAB%e>v&KZyYong5QX+s0.WQ7M~v=m7&EU?k|kdNTGM4ZSs3
lGkS0P?TlIw9M!.cvp.B^8p=,y_z58<sQHPsS3!w=E|6FQ+pm,Z>Q?fyJ0T><WGu4796p;$9bWwz2fl~GvrSRIMJnS&.FJO8ptJ;.QhAT;v>ykF~dhd|d3Ax
CEmnI=9%TWzCz23wd1nUP<xjIqKJaB,8rP~t~6lp!N3QHg>FTF6gAnz.^UP1z+hnpxwp<s7NX!,L5Q<nIOR3&+&&*YJIg<u8%6.xBvH9q5T,qZurHrb|>TpC
Udr?n*j!>&4!BLRmn8GO?j3tiZ=m6!Sn*&HeLDyKUfPB+V6Zizm^b,TP3=twx2?$4uVGC/vLo~QOyGLCMCvo6&%Wt/7sEcSVsI^!p$bZE4t,uOjAo9k?.v0+
&NJ~I4^btW4V7WjC9jRrH*QRF^IYfwv&wVTNOG5O&vS=GxTyPTAI9,G3+S1VV<g!UD;b*1lb;/h*BUKX*uomskCM2eqfwScLu^nq?7j$o!,?H.<OG+EWkijN
pEP&jsjNSjJEZ,/<<^>OE~+0,0.1fHKBmMA8;d3IOPNSX+bLT!M4+9~<MM+kTP&!?m,Pu1nxpfewv9iZL4AK/wd,qzISEyiw60a!zpwyxnIvB6F+JS*%yH?r
QjvIka&^inS2ShZ?aVWB.euOIfhH+rT|le2hRoiTyRW^LtN3QC;J3HcxSLr4097Q*&uYRKq5/=oh+Rdd&l<>o3mOcNaCKV!nkh!;C|yHVlGe_M^w*aCrt>*|
%zQ!ZBEkJ0=t!UcwDiQbhKS0Jcs,F<8zTSw05WEi7~77g|C+~dODd<*ypHw$F|A*88GH1Q?/G5P>3D*bdM%FPraw?2y/R?EJvHq^F&~hx8<KK|^a|SU7FrLw
IGYUzGGO$zW!+36t,l5Pu%sZZHj^.+,fwvWDKwZv+XsCX=nra2;FdaFb.+I=rE&n9oWj1..P2D1OkbuZvp97Zs^xXiij0Zdi~C%*4jl<xJ2bkk<_j6p;FM.+
b,4MTr;HrS>4gaDsC1jRVmD>=Zy_jipm*8Hz3$x;0fvx;Qvx~8Hy5|A7IkqrgK,%bYg9RJh5fy5~D/jdShB!v,d$96+f7Tb,hGRb2|<tZvvhb9L!qTdYEi2H
n+Z~q++EkU|89*Lnr;LNM.o|vda/=UyGyMYp,gh9F!yH?/u$ffc;%RS482t7d8^R<54iZ=|9EiMD0|o2sxvQXW%Kz&vQ_ev<yUPx5,BjrUwO&<uR$rb=fpUW
CzdmdQQ+2Zm$gj$|xQswE8&9E0Ln3?mPyz?gJ5R_Onx90f_YX0mtin6e^~fk7gs_psu,=T6,BBDfP6v&.4,gPHIalF=p!*,X>SrAUq|oB!2zCZXDrV&c7v_T
~ODG8,Iga2gsH00Axzw3v1>uR|r/4IMewJuEyh>+vj$EF~VjU=hS<mi1.~Y=eMD;/zHwle6jK0QBSE/xpChFXEX3MURmYV%o+np_go8tn0~Us7v454Cp<c<r
=4poD1ch6ufFuR;.yQ&QH.q?smC<F!r4G12,syYWUGfOJ=<?/>031ZMxai5kz;*&w?+E5rUOhj^~1oPd>G!yEVJnrfKHI8.eJu>hKIJbGmLWxnNpuXvWocfb
wjL~A$vF5+FC6~~Rwjl0~gh9pK<FH=f_c+cK?~4|/k3c46~ZId!C8hz,iW_enT+!gnqp_Q5lf1lXNp$3Z&3A.4oNwdfTDCNAYP,;5rbe0plIx<8VD/s$Ply%
no*O!+C,D2M~HkP&pdtyp|J0ajn?dB^S~$,Cf1A7cUOz4TxRHC+XRC9G&g>BK9sLMy?arptcSA6R2,L|KA=pYZ/?Xs9>YBaZU3H$W0dNDrP3jqfkW;3hdfxG
7.yZrtA_w6rSFtNNclb%ujU+L=Ly!%2><oCXKP2RM.c0SU|Da0Dn2Y$,51Edk_~lk2osUu;HD/QZ9CJLq_!<nIR^C8e~Q_bg?VNsNZI.O2ss%we6g/Fxo*Dc
_n;!TQ7H!qOIZ3|2.7qg?cQYSspVAT7~E?IJ^k~MpkFw/,Ue+t^;|^ZpHxGh&E;sW93TF82!mtxcr0iV;_ezt3ra.CEHeg.U9k/nH1*c^v%.ijs6iaUCH2VB
x?t|ZwqLZ$0&W,OD5bfp5g/V!u|UHSZwqixU+|_LT?HHz$3$0U^~gu3BXiF1jo2E~=lats?kcLdf<G=zgMAHR5Yy+L+Q..z6<TM&+3AR>WA|ufGdvlzOCFVB
IP<EcY8Cac7mKG6$iB.B0|=Lu;$L=;N12TrCdd5kxf0B7;BJS3unLnQb~.=Cwrg.|MAi=xFm_<WSmBFhfuA?+S&5qcmh4!JkzRbGfdx4p0X;VHWPpszpL14=
0E6cLK_BHwsra||XRB;%&^9_kzG<~.XS$q&QN>dFUXVxZNGJ</*+qrf%,BXTc96RZ,Ao^nljn+rEF4=w2gfN<06gvhL7qMWEEHoWe!.4=smNCzOv_wP6C12u
*ByOZZ8c^2+~3^_MUlr9=8!qT5RT%mtRs_d6UX!DC^WBgsL_DWRd%2%?ajhl|+&HzfyJ=3!flGILC!TEp9DNv$*BHMhjHs=UqsR_gcH2vYH&7Oh~7U*U=^fc
050.NamU_hTbK10~UIJF.I?xgG_IokQ7U;h<04,i.ATLGvmn%T*P$VrTQbLO.rZonkYN/I!8KXwU1KugL379~g2q8A/OkzFsyn>U8Rn<<5rnkntU|sRy<%e<
k%*=F5r!nH5=p|J!VL!!~TkFmdSvIBIsmd3gRmE.zG+t&&!<mw+fs!Y?6Zo8SvfYF_s,K_jE53!R6phx,xQp,8b3OsdH;NBC^wu/60MW+!zx;;5hPzRCRO|B
eW01GDsSU!<l<BxP?7oD0XQx8pQG?i_t7>py.pvRyiqU98OuiELFnZr$hw/,gM3u?wTW104f~Km0OZC^d2o__t!f+wOHSL>~JeA2NnwI^a1yY1Y=Qw.LxLXH
El<P%q/nclnlqSmAwd!K?RVjhiq=^am>72J_u&?3TS|K3dCQZe!QzT=xhE%zkV5s8heC$;4&P?If.dA=Xn+dQi1NRd0e!C!<3+SYYb7C&T/i3A>=vorW_TiB
Io.WcsoANL!sB!hm/uQ>gAsRXCJkZlWk;a1v%x|H_6Yse$oHsBC|%RXWcN>?jDNqgnQakA3.Fv0XH937D67f1~|,5=j3Fl=Kbr;gPlN^oQq4X&sZsX6|B//N
Jj>4+gNW+U7tASz.LK$qK^>sl7qS8BX$^qA^jdT^uz|3d/SR3QtyqSOBAa=gnj9O6.7l|8Q?yma3o?dq|$RxElGmjQYHlqvV.h=~Zpg+u*y$j9VIOi,1eh_T
lA%V4I;6k7R~k4u0d+s.h92+dnX_?POFsvy**|+Hjg,<4o1lTx;troi,YwVEijOuC4gy$,Ldu+H$EF|3qGcBbqn!R2|RCXf*o2mJ&aR|A?6j<LWQ6ttWFT;g
92b3L>qBW_X!iLJY$PK;QrmDviJ!J^.?IwW,0Z2S6oB2|evMW.Adx1Tmk6I>LbXJ9>ai&pzsx2m^8+.mxa5!Knn>VMq0XTi_0IRod>D~tgpU9_l$rIaD65Gy
1kFWR+;keSbbl~upX+T%4p%rDF3?hm|Bvv8N0DaK=Zn=t9^wBfR!*qgyRIqca/9OZBW5K&XCVKql7K>|kGx|K2F%;0oSN2=fh~Z;2dAG=P~y&dsjfM?6vgR_
^=,YbkX|^5ny4X4C~g|XT_hiMefB+pxGR73J2%Fur.*0=U|4LMvcFP=nJ1viTeRId&Qod^QB9xEq2WTw.1w$BS8xMQ.GQJ5FUSn14Yh995rv>FxwZnk=MBsl
q,QdYac7t3bZ47*Ax3F5|f.4ua&/&jdRO=ysMTUJ^xL9|8*UgSH?v1gBE=LA0rm1b9iuEwAuqQiyAz.gY*?y,$,+8JG;+$!D,ifb_yS>BkAJ<ait0a2.;7ZN
/Kh/$2NCU4zcS=.wB3xXvaEWbrkDqzePErN+A>B!TB7,tFiCBy,OY7*<%/2~CKH4E_kWCL=KwJvR<w,0n3wVE.sILUuUaExTXn1NkZ.NLQYw2|b<+fAleLz_
VL.uO,oaF.Sc/Hm6eK64cmD*Tz2^SsU,>gaaUghd!LfBRIkdCFdRpMri>$brSA5G~CgpJ!rqSiKGW!8U7Hq%nYi;7UlRHN?V|,xlxx!s&4/T=_/^K2S82>Qb
.uH8?plJ9YQwFG4zv+f6<sq9|Knw2!mUtajJ/OkZB0m;OWnM3O|$1F5x76*qj|cNY/UCIM6$m,d>ah&LqUDa>^<phIb8>B<OzA!E;zTVY|3~dTFdXjKIa!?g
?%$h5l.TN,ogA.poAD~Bla/=FP9Seqa,4!wES^4Dx508j|M&sjksqFfJnE<KP0D!*DDU.R,Av?QSKArn*7LdB~rqk1APV/EzjK,i5.Kel.Ngbsk24W;X7yUY
EYfik%T24X+W|fo5Z0C=VAjAYXt_5YFB79Yy;$sQmTP/P9ZdpW+rF!Hzri9S0t~w/9iEvP/Ga&LDjmm~$/vskCl%eLhzta4_6.kCi2fCap==!trRNxxi5T/+
aNL>&Rs^8U0C&0j|.Bs;kAba$AVUX=NhhkgIg/wCyyVU+3zjRPuAMsCtX/?!vTAB>nEQAi8iqR;lr26q/FRdLEC2z/y4I,ufgvsKp&pKzp$~.vqt.dbKJ?/I
%eoBG7sqOhiYna?8qAq27PW6mQT*tB&lK1NWTPGpDt~|2Ilcnq8/HD<>nNiZfGdxZGjS4TWX4BLKZ/f;!V/&b<50KNVuz1hLUZ,Ns<3LxQ>oqwkus&jY3_zg
9*Y6WS=*e3jLy9vX<Oi3aAQF%HrwFEin0r%wtXkI9ZK_|NYUq<kb_qu^d9swngFqdVbUYyC;=WrITZkM>L5g5dPHgT5dY<Ms<VJTWv18mtx^=oY$u1ej1knN
WO3%*<$BqCDqg??fnP6!vB3b+U8Nog*3rN/k1.Cp7<9Knuh1w?Yvc&wa~K9%ZLBX%9XXMevd,p&06f,fQ!p63I,B1i/6x5LyQx=lMW%?wQd6;Z$4WS/dS75<
L!L0TyikXI1ywG6K3a/tKyQ5iZ~L^t|~L+FP8T3trykTtXLVH~Xq0P9y>,?x*0>HJ5tWcalAu!e%RX+b1uu,D2IT>~uD>AF7>YGJY9jRplFZFs,K$/F7GLLb
dR>xt5_0Wzo?J;5V5EVqlB=fRemAB!r2n8aQT^Azxbv^U8_qCW9MRkRf?Onv..Aj!sy^PBz7,rrI&sR>+ka<%vHy&.i1IgHXF2!?2FehTex5EhYP.81yk6Ee
_=FJ9,&JLY$cdAiMKqfQC>Foyiw+riMod,=F6b6SOE8K>98GS_7VVSyI^JM,Xo0q*6nDz?G?zmQB0O*N~*c14reD5HmZ6j;MmF5MGil!2cH03Hh9xu05ZKhn
vu4D5L~kCH+VzUHG&Mf<_$+zB+4>v=32JY^Lv!=Abq%&4*uVCV_HYDdzwmj0yamUr2EC>7FUYf7Y>;Zt..9iMJ3+iQTBaWDEYV^Y=3;A%,7e|tDKVvLt,A7|
YOA,v0dXk?Nx8Oa~ThRIf+hzDCq,o1znJ?XG>&gQVd;M&BJC>B99f;&osj6V%?;Ij&r>9tslRKLQA4;jmbQ^hEG/_&/vkAC;7Y!j!jht!+kDsOw1D*AlkwHj
%LBIxSC88d?bC/%5_v5+0M9aDMMT|;sJcGBE;G^*^=h6y!rHsFgxw>X30*FRjKEzC70?_um+yB>?k,T=;t&iZuZjmW/^O5EsS~Au4Wu9NhJonp3>d9BarPAK
8C8|RRik2aRl3$~>~mwuyrLABO&Wt+W+/z9,wWudDMT~78a.iTr*wK,^DW&5r&XRQoP$e618a_?r<i3tC3xz;B8vAorPKUc%+V7fb;XJ11yFP0W1;k+b!.$|
n/EkpgQF/G&wM?AHx9rv6=ry1xV07ZrY8OBMYPzdf.K1l=X>9e.%z1L%<vB03Lfqy_xyjON+YyrLRxPUG.zH8b2i5PDtBIzj*&rDU?>hc^;5QzcjIb3/l%HG
NTKsH=T27f/crk!9Fdp$6PWl>Wy<KW;8AM*MU&0UJsZ>a8dEG6HHqOR<NBiDv/5_~q.mXvwQq*0RoKHRb8m^K^b?+%,ysi~WQcko$HQ,18l4qpSrNTv~>kYZ
>YGvP8i0qWlr22a3bk16&Y*dLN%hV2E/A&VYfziDM5.Y7ks/xI|4Qpd5ln99i,fztNTTnYA1VRe$f;+F^W_^kg&6ykpUod^A?38FkJUdREU*~NDU<ndBITfu
nHHZO9XnXKvZgO&y8rj3C%Qf4,=7j79O=O$dU;^EDdLSxaKfVObzreut70jI1Wu4O0N9SC/U_%r/?~HydDg8jf3!&Kv&Ni~$/;j4hx.oGz.ilnq?hHALH31.
v+|PgtH9XF0+%SK&gON~31wqvowvpQxfPX74R=Q_<=CBgG=l<!%SQeXn^Kf=3d^Ntf_lJ+bzQ+GTX*ec2R>dQgT^k2Qq5oGpg&NXy<nWY0m9?wElwvngQE?Y
_L=N0!+,4,F>2A_,>=*m=E|tHU_d4w%EwuKDHP+|Y?!z>7oOEAt<+/K51Tbhy4wyu&Z7Rhx$oLa/$v,OWu!p1f/y&+1iDgOs1mi0isZ/oyv>gCPniVVzW>w=
Cm7p5EMqS4rTb?~kkfH&vJdMio<rIM_N?GXGJS,9.9MO7Cn74Ob05%pbz>uByUpn<1pksp&18%q_lwa*XLJyoy.NoQpHoh>1mHO>wJ+h,&JxU,$7?L80YUn>
W^MBJ_uwW3pFrxTrKdeiah9zwFu$|Lmc.vCGNDZ~7IzFxxw+F0tXPe52bOYC>n|nfd3gHF6JY1C?^li!;D<+Yj~/LCNZ3TlgCLIz^OFB;gbAoZzYj_KQU5K6
!rWk!|!*b&aI7f8/$x?;EI5$dp3Rl/oHW;|_nf!HJ31ji$uQ+BVV%4$51Xq8CL3FVcQIOA+d,?>|OX/blu%oE=tn=m_$W4kA741so~WG9XpV!CX/5F,BKGR;
8vM7!,Ns7N>pq8&X8x~a,IjuST^|~|*.<Br6oHnP4$$plq,sMdgDV,S0a,zthQ3Wg.zy~_L~t_tL9cKNh<tMa.bO;hfro6u~u&mUE~YU*gyAsT0Xgb<1=JKb
7Y^AunOV5,0/<qo?wp+9*eAlCBQu/.r7%?LhsSmLuOD/r7o9!+MdjcBh<|i_o9C8/BNc4|zJxcgFb;cUBu5ue?MV;lBP%HO^wDZvQ!xZz,as1<DY/97bteii
Ov8Bo|I$=Bo!kMxdg1~N^IXcmOD*4X?X.5/9|w!D~UZDixs7edseLz!2,zfZ?cW!6T%6!fKt4dthF.,u46eMqX_hL62||1Z~ui<ZBq0zUIRRM3rURZ^?dP4Y
<9|VEdUM=0ra2;,RPmT6H,r$0Bq7%raOS5=D;wpimGrj1D%SqP*!z!8t/UfK&H>M<QDgJX;_!fFogPv=2J,$zyuPlJbUWe7e5KmwadV53?bY/&0/+RtecHjq
OU+MMscgDSy.K!9BHN%rgg2Vxkw>m4>vY<0Yt49rrR1??W&XU1!uO6=fI$80LtzgXApI~qiD&Sl+y*t4brOCDV=ugd/n91*cLII*zqM05<G=XVz|Gz|EA.j?
Ho!2ZrX<pSfAbR=|VQ8QpdOFmOg!D6igO2?MN,!!QYraHsP8jp*JXbNKa_<mj/<_8YS.g9S9%Ap|+>|bHdjCAf4Ht1ejL<HN8<0JL&$p99n47=d$0viI|,lr
muh_K2ggc;uFN.vPG58tJsVg6Q_RNjNMRnJ_AUjQ,Zti&w2XUzh1,>9cd8mWYTTinUFHwCE8bYxxDN/R8rE|$7Qty5<IlCt*HRn16Mp4iZNP$3>,r=aW23Oc
VTn9wi.6L72G8T5RPhaH;=d?_=YFFi^nCfxr^~4~5AS&LHZ/_vbq6^vmBcDji>N%^>ReA~St3fU+.gMcCCU4eAH326LwyP!VDO$q8/K*hLTAucEH1>O>TWpU
0$S?y9Ts_!$w_f.dmLArp_&jH.3Jp1txmQGaGfdr;C1~yEgHbEsTJM40ewmz510QVpYaoC|O1aP3?Ve8JChFmWbfCi;UB&/U|9ylyjhDBawS+CdRToTV!8=l
C=zg=9JyxQ|FE2lMsDXP$1CEz9zI27Dc1=dYSuwdq7~wwv%0evrtswN!drWhzd~O>>dByglOIJ3v.%oT5Jsd*U6oim|~ka<G$l~+D0V>8r%+IY<N~8QzZy,8
MTUia6,Ou.JbN7Dn~8FIKD/8<>PIyC5ohJCQX/HE,6yJzhG2mtEJ2BHuDOi~1;v1w.v?CL|Ufj,DVPI8Uy/BUIjFBDmEUvsboVL<MHb5Zl2p%wLnd$MOOw*q
9by5SXdNzqs<RM8rO$bYSd9Y0el&U9hWd6a=F0wB;H>GP;UL~m?Aay+=s.XbGmhOt&e4~HK_oesqmt=6/Kb|p.>XUcde3$db~n./M|kUtm$xP%jMTZXfx>UM
ujs8&=*VdXD.z0aDru3~jXo|ng=yKB<y%LkZ_<UbHJ7~DNLCKLaVc%=01It/,PvtfW1fpvYPHH=Ui.stJc;bWfAGg,JzMGokJ,+~FUk$14.D8pv4?3Vw370k
EqCn61AWDVmXY$sUwKOo$ZN;PKB4HV2r?7!CdD!8od.EHJ~Sp*lL0,t&vL0roN_9BfNE0,/^GOaNTv=D,6JtRaQaGyYr3W5H*AQ|EcVbL*4%lvZ3fRIiArw+
WE/J2eM7n68B8?Pcup>TWdYhn5^Z<^S;G|uMUrAMtl|HbuKexeP!2r%|pp.Ydnr,*NLC|>s+>|4P!^fKDTcS=zoxgAGU*ON&C31mY1EEODz0U4568V;C1Eb6
*xF7=+i8VdVYAi17LuU,R0VxJYjK+>8JNTwruGKh0e6rTS+7y&1EU>NRU8SE7z_K45YE5my_I*kA<AcZ3NQp,~E3R_F8k,3Q9jb&>ijYieVUe9ZdotA^v4JG
4!wN+,U1YdW^cU;0d49h0A?t05_we|TX3EKSQg!Z=eY_PhDO+^RjJE.JpR5HAUF!2*_Y4y&aeHTgMu5rlGAz%B+!?K23,Gx;25*IHOT&,!|L|OEmz7$umcWS
cLz^br.eyqPk6IgVV6,7K2^TmeMpEw1A5RPi6z41,C=z$CE/^rlNcH%~iKX~wqP+q%8udq5D.eNq26$|LN=v!whczhk?jjR6xiKb<~NuO0vf/QE,cALPBQZK
w.gh.L8=cgtz;4oU$8nt<mD0Rw89<B7gQayZijMxaoM2<G$d3k+x.t|b?ny_^aJ^4tYS5nPfI8&.I1KDwu,8Sx!VTTPMBlD0;1s&70aikl<TL!_~~BOUUX%p
&&AL;?HI.9IMXyk;R^L^dczf38Z;JvS_by<2XcpoK=KzU/qISbtj,rEwg_g2wTI_&2o*Rh/tV0^r9YLw!v%X<b9;8_,+F~TN$nl2dmkYVolG?6*Vj<C$a3>~
~wT32gQ~cg>Z%r!!5?E?JibAsXYEVIBN>YsjH,4b=$|55J8jJwNO5/.!Ghvg7IdG!yB,wtc1iR+m$TYv.lK<XQyOOR.0RjH2m$sV+%mq><C/%Oprxfdt;Qu+
D?IEjAb7k~_otHkY|ET5o8|UxLMjO6!bKCW%^y.Eii88xBCu$cPGXh;OZLinq>R^FxyZXSGWl/EZjl!mKePJzn$+Fd6N*+OR$QmAbh0^9SU%$fOuZK>d8K<i
P_K>rk0zz.|D7ib~_>&yrgrHzTt^4_,3RDj|3p96Eb/XT*mU2?Jpp$;RuYP.ux8sHGmlsyo|u163S!9dQoz>CNSfhyZu,r^&<BpQDI+v$bnN7+EjSCv%vdxS
JbgEf5;McZKUc>~i;Xj_ZOr=5^*k,,UGrNOH4?c0k4>_D8x&+6pAo;cJ$KwdkAWS=d6,W0T*!Bt|9cZmw</OCJ5dTcwLwakMH1<t!GpWV6TJ<.zdJ2g*~yxE
y,eNG9nID4074w*Bm68$%*XK/l8jh;13^aS/~D4F7GvZth!$EmaO,C7FZffKec*s?I0~vK3V+,f<oY_</<o;Ds*4bki?LHo;6gOQ|zURV;0>sIdNi+9U,1rs
dvM6c4*bJC*nr$t4Gt/vQ1$0RkfA4YT;NGgMdMbN,|OGgTvOfJyg14EE~r3Qdy?2wAds,C%+1Q;RoJvxFVrOXGq7=^&ALBIR5CSO?XOM4hs69+j>KzY1r7W+
6Tsat$ti^nF~BTzw!E5Nx7OqhncB!dKP2FpUz|+D1N0Ff||HxRY~_8BAbHoMA6Ex_c.iVaC20$c<KThEeX&V18&Ka.q5E1~HtJ/;1gD$BEXI4nF!fNgR0rJ^
vE3Qmp4|35U|5H,R+7w|R2l=;R!^CC<dLdUP4bFbaT;7N2+r4gkfj7So1VFdy2r;fI2*nb2v^X_nG>vLCf,d|DNn$=KMveh3dC4W7dnqvD?vxagwK9xGtN<D
_7%KzW/a6^<Em7axl65QPvHz9ul~fUh.tBY&GjX!K%JUR/?hZrPZuibsPTLr!U^,0=3X^.a7EG^W!E2;pq!+ob?8kNzJ?WKhLBNw6<couHo7d&qORXxAT<S+
oK_^i6A&_!o,Bt!0eR7+ura0bCzgH6FR/P4$6k3p$t~_xYPXr*o<R7bm/TkkRLMdFoBwe91lT>auFq^VuYasDGEbmrkaN?DXAcm&NX78bh$miexQU?=qW*BU
C;mJ%Z+CbqTQdUM7Bp7z2kWer9<l3f.NadSon<tL51*NDPZ4!^NCkHzHuZLq*zyCi7GwAt4Q>7?xXC.?Et=yU1ejnXr|&0L,tTNKOB%<suZ;4/>I~HmzkM=G
/~Iggu%d7Xdxq9VC>CRYqqHXon;uXG~o|*0A7XPWmm~XEpWqdyZr~7kVaIz.x8/,$MNMK|A/,oIaVnD8UznSzGBAj0O4?>Z$LJIq9jg+lZGqY.4^^2jeU*JR
tWu!fa!Gwv9,L%KY>$7O=0c.k5F.<%%/eXp%I=GF?E$P5;f3</CJ*cqqbWe^CoOxHL=iOCR5bXWhh|rM|^h%x3<nIto^A53*7KDOrA>O4pmw8.~>vKi$iPMi
B$dKa03Gt/P$Tzb<w$ZHmwqGe.vcH7kg;jOL+W4&|brQgtc;nabF!RWV4xFxKWe+2Rh0LsosKB/RyP&k?~vrZS&1DPO7bdwPB&WtUgiwQ.Q~GUi>&Soa,<SS
*075>qUSgY$&KZ3jR0Tic~3gFI^e>Fh1F8dvnGVz3NbMb>6TM8cTma1;EiamG086s_O2%HWGywK!ai8BGzSRIAZ!?0~DXjzgph78XG<^FX_Fle8C0*5hWNJ_
5T>;EX*;ElUOONy.no%V0n/d>lELcR$?0SfBdnt1NASU2BK.i,;tY;yAR_tg=EexSXz^A|UuIC3prC%dd*h622HQ.O9es|F6D;O?&l;YhL>VL<<!h!JyFmI?
Ld,k7wVCWQDaJ8g2dKwSSLj9B1VOpHIUqo7=_7d.tbuU3t~Le64nVF5;1Xn8%.7gRttVwR%cjNqXf8kjbEMcZ!Ew>3hS*v3kNzRv7O^8M!D/=<?7ZDqBU*D6
|l%WD*gJoUNMQ*u^C5PYIK^fYLk066U5ihg44N4d~>4.bQ$aZ%Pk3sg<g23~th$Hi+Q?GyS71XP<bPX$~R1j+kzZECo%OUJZ5kKx1h4eDhjQ2!lTHEE5F9E?
xTRW4etej;m<gAqG^L>,SfnOINyTQqi,2$UCximd6llR^$J.Yk1!S6Za<Bz*lJ+/JqhL<vvTK9WBw5gg&9s&IR.!bqneviKiXWbowiA/Tgr<lPK.+5tOF9c|
~/*jD^z5oCQcUfZ;K6%,6~eC%fbOGeNq<EMpFEl~Zkc,~.3qY4K04A7CN5~p45N&jP=~J;+a0~l9tmbtrniSW;lt$3D4zda!,hV!LRMgNrLhW!F?g+3GW<~S
_af2*6AaQhD5gjXi;+p&R%PUQw6wtBzMp/6vtNHAa&mPxIjPmoHxjcy2oDl>1CM.djdz.sEeH6=r4K^^>59t.;Ku7<R%5%?6|le;gc_M*LYR5^?a7+ExP$o<
Z?n?vLmZ3p+5>=/IwRbAcQK&78B/;MKsF_eCFDZpmKDA,_GmgjmRcLSVvqyL$$Rq+,rGe_.dspLd,fFfTJWURq^/;MF6*5>>CHS6=pZehjex~8/|rO%;JrM6
w?DuLQ~A2~X%>nF=ND!8$I*ED?.GMR;yr>x%s~vYOP+puaV4YZnsM2cs%zd&!tD~cDf0%arTi+Yd>O&g0!s,2?8zhfsUeOcy+JBncl9lDi>LG~?+*O9lOa0~
bY=1etbB6+$7s^49X&10;.Ts;OEU15UsLj032,ft%2Vmpu81Z/pVOq$5L9dxzUOur,799V=|C9.jH2leWnQEhr|^>cveh28maZ^;2~gBl,ZU+$hY7J4r2x%Y
a$aR!ZE2oevYcrn5+cb*sjY5|m9Na0&L/A6OASe9=19,YCothgmmLeGWMPI=kkY^O<yzt__o8rY7/U*NiQ>PUB*&U<KsThxxWR78R|^Ck=,9<mw25YZXsw70
d1ps<GZ4wAvsvEM&rdx8!yAjPHla$RB9~qShG85~Yymh>WPAPC^oE4&Nya2ftnX6$oDu<?5Hl+ZHt~V5+~.a.rg8MZ9hx6^SL%Pydm6f9xdfYCLN9kV8zq9=
pO6|Sngr0JY&ebo!xu.A.*,b%IQ.PLLK%6f;YYWe>C>RVqMg~9X^r1ALu.MIr=C*o9P7g.RWDRj!*;glmb%92L_1;&SKx+=H7jayaBoRTINlHQzuTF89=^;6
*4vgj=N.+Dglu4G3%A1HE,wt0AgVrCCTDStgl7vnJ2nDLvcBn6;0XdtOg21N5i1%uk+fx!<Wn%$0kBs<GFWUJPk_KKBVzn~CHkpXK,_IK+sVl0TukbHZg+$&
?3WEFNS0,7a,s9a|l2h>z*9HR~DQ6DkWlXkqD9Z$gw7v.|Hg6x8mcXJ_v6Kt?wsE2G7BF/kF9X;tO%6kU9?*n~KaOVzl.^;+Ln1+U<?+cG$0&VrV6Siq&L|F
u!shIXVITeL|?pN,<mqu2$OG6<;=vj0rS+QhV~PfA<TqU~rTqIE1hW!vaEHOjk|G;F<SlRTZ=^B0xxhS*<>YMJqP=8Av0%R?ZYY,oHVoJ6|T3t1J8wVj0!wr
s0<L_cwg%oi_aEsF|ZHfZZsRIYiiDngcVC$0mc=iIdzsCjP>RMN|mw&N0broAoipZsnm=|SQy5C4pad;PoJXeV4JM;3,LSjE8PYxRSf8_5mx3l~BEV+t7*GS
T,JHo6cHPjXVn0UZajDg%yyknF6FCsk+!E1nl8KC*wpiFsLCI|iiW25Dg&,1t1U._/.6PLsc%87S$EbMojWz/D2|Tk!%$nqD~+5ieqB.9wwp0&O;H+<kB|Fc
zG_+Z!xv~;jEf$YX6BG~F&PM*c;CSIA1QZ.E6C/LoZjJO,g_5gyOoMpDZ6xB~EOk_z7C<NAw0%5j6a5;9D&R56+Io**ZkwlZE,uH8pq&EMTzFdZDtJ/Cm?0z
OrNRy>pH!Bg>4qG*%*_WTzlL*payldf0lo0SYp;!/m*7;P*o>HGp9V;C*kjJXANf!&l3avxGZZgNyQ&RoiRNkwe&4&j0ipr<X72/=CDADO<GjR7UPAKdvn|l
!S<8L<TbLmFtWV~8qv^m7|u%k%+eM,1ySz19rmz;;wqF4_Z;pLw|j2f.R9NBMm$M&Q5lEhM,f;TqsAEc&vwZ0&N*7X/UXf4SE~Ls&OFh2+5?VRY0EXy4wop^
i<?H/IiIWc|DO4J<&EcwdpQBj$4Bx8.M|oJP~>iOk/;<W,U2qHhHCZ;%;k90ZZ+sduDguK~2Em+S7Cu>.B<m=TDY&1W=J.ebY7iT$tvIe|Y/A?L<dB396z6v
hVBzcp4Q547iofA7p!CO4DfkKDE+$AxN|;/QgwrMXr2,;IsuCYB%n;rJdNRnIX%>WmVo3$2r1f*vh|rMNxg_ZyVV?0$NM?&DO6aDzGw+fu$UsqriE0ERg*iM
&SmB3IB6<5VbxFI=cK=B!Ri8cT_3to~7bk_h67kIuoc_xLaet&>JUKw/o%lCIf5rz>Jy~8lB*adJgpS9~qV=LAhNxH;Id.jfzE;u=I%DLqQ?Q3ultyA.ryx6
e;0$YPVWr;IbZm+5!YcMRyA?cVi.Vd8P|,o^d8Q*d.94Hk<*+CbWdXp/5H4e!Vyr/wf7z^4,=8$3A!YTlY1d|R4.!VLWimZGlF!U7BIXJTLs3zJY+U?Nn=vH
xT^M^UZQF%B,3=Bg&hfyRpHgXU7AYX?Rhb,F3x<;SH=U=C5!Y_9Q9G6n>jFoIr86VkCPJ%RyZkAzTj,lp!+N>6yI8Vf_/RzI5%OP>lE_4sCk/Z+WSSE?eP.k
q;m/zI1>tn=_faobb7?no%t85WAhK2sD!F&sG>/3WUmuWrL$n1.uTXuE!GFi0.Uwu1&t4Fphg!X?/53oKS/o5Z+,BS$2WeQ7uTM2;&Au4BV%7TiV/5O%mwo?
9Y9j$M2xL!!2_fkocSDrUZblybr%|tQHzH6!;muL5.uJ5V;zIaoXo5w/PbWl<z~DhVZOth8=%t7>yCLZR1?2>zR|JV2oBhI~aVSDKkkF,xv!6|6q%6V_3MRo
wJSYnz+c?k~G3noXZb.qnH.86DDL+128MG?8l242g;D$$k&OnC3rP6zmo$ys*q3wrXUA>KG|,N_qOos/XN+avmTSG6/z^1.41sgZmoQW9eD70H6s~NI>yMIX
5kE.s<65bZ$i4<m|h&Vvb7m*58QSe=,p%Uv?u6BuKl%S%V<*Y0xBmi,YDl!DIefG82&iTzb62N.FCx%=vjeprJn=tco<XYGGE3MbNqS&*pTl^lavfM2=lQNH
dqOKUY*7?$I?+^oMEl;i$T/kGtEoo6J+>J~9~ORLZRu5pYQr!$C!wleA;FPpV&dq/w=sM;ku/DchZ_Po&HvVpINk!7JeZ74>v3YFZxReY0.IYc$7~;md+meT
1sVxq/wZ4/cHtW$fcsa^TwqAcHCw>>2Cn6ZWBK0;ldwQ%+^=D%?rPkN%.O65lWTIQ*+D51v.QlH7_6cPw<ZLRJU8r24m/RNBYeLdgn!cW1Vt1Ge$td&K2X6S
Rk_S1<6R8zcM39=XEvgPB=V$sM/aK+HExUqQ&~^~e;Cz^N4b1lsHZ?qR+T~TCExKUix72GT~kw~c2E9ydp+,ru&s_gWP$bp?w25XtkVaRbwuh|$rxExFu|fh
%gL^*;!r^~acSmcz.+iyKq&7C~oXF$kgPeyQvhdk|6sRXkz4hGXKsPJYPUx<rvJF<PQs?~b^Bv.WMQF.DMO8*pb%XZ.;I%HooGJ|x3*cDUWalQskZ/^QM8rJ
&=R6l,Hx/3O~xAcjOVfBnJh?$qpN&.5n7~HEDsd;4$D0FxUINNW6NLr!r8ZVJWHidE4isGgCcl~BD4ukn7w*yoBQ2q6rqSX=+,==x%VUNquBijbrxRRqiy>t
u3FE5cI3Z~2ZX=Oq4.4hzu&cdzaUf.nOmjzvDBGIro6c3vCe3A!Jpv;Y1$vchqSgJN2FqwC6u1V5oM9a=xHD<H5d?_41WA%?V2$5,~sIqRjWCkzjVX7gnayV
mDj%yH=v^de~V/~+e+n6Tf1C4Nkhad5LJi5?zO%%jQ~DA_Z4aO<mWJm<vZn7<o6xaD=rSI.Xx^Fv&$gz_+l.r&;1>P~C;?rrzB2Oo&>j1PqS3M_>9r!!|+nA
.2xT1ZR</lOM!ak$NK5S<=.,,XU$Uv*SXq6oZ_ypwz;*41z<9<kHXtG0aDjnsC_Frzi+<GRvxx_1MzUjxR2HOq^|yO^~%SV*Jp$DYscPriyIjScT,_q?59vF
3K*Q16zSWwoGN*xTe,lALdCmgdB<U!U_w30O||bx&,u+$1%|EI35,<FzYm0~/?tk3z42h?aFc*KWMPD0maSpLdFWJF/7_qk$5qyt.|fU<ec_fJ1W0bo&gdE;
qy.LzF5Xh_u8cN2rS35stn&Y%,9$mm+uNeE1?X4Zy.d7vW>kofUQ$$qW;.y_fV^q!QbD_x;9flRCOLK1?4Jngcx.Nfc!F&NtH=vERJSy1.YY>?dq,9LoCqg~
aKZLhfx+;LD,Nh1,,8D4bW9vQoMYIxlyTJ<R5u97qG/XB+frKmW5SIDU;Y7yg1v7/9&&DF8wsk0**e8*mw8LaKju1lJ5UOK!GLNPUPzW1HFC9<>OMYwGTkX=
LIe,sO=ToU%%C*lMc&M&u9tut0>%aq7O8VDDRG8;iugjZtV;/YRLsKEL?sUP5PItlwW|j,xPhmqvg2~,+u6awxj%be?T*8Z|B|HTaxkrds1_v8dL|8PtcEsv
LDFWpRGufBs9V+<<o4ki6!iB&wlVXevKJU<ByY+7|F1/VEiifZvycX!PTgU*L8_9SLM.w>7>uiK?iU,Abg&h2qCyUKoLf6x~7/cYl;F!Jd^/!/|QjsC?+YJk
ECrhKos_|WHKJjB5wfExhbG5,cA*zF/xGIFX8VmA^EUy<Pj%Y61B/%tWGQE=u2+386rgh>Fk8vyoD40iyLWY4ZxTo,Z2lL68x;i?qbiKiAS7bypP?lL,FoUt
6jF21!*9hY7Y!Vg41BnbdjfTD_37m<%T/ppJ$bL=ga$AZaZ/^CaSWxKkR^92HjfIwfn8MJzPFgJSVZTpv2LH5kvIvrl0mVqv37$Bpar,BrkL,*c,y?mZexm6
mhX7E=Av&oe4s5,W?$Lxi7>|DvCpoDWD~X12Y~rG%1xuld9uS;NinN9,3Od2$M8,!fLZiD7dBEZ0x>Aivv;OOe,T?*0!r|Dc4ol7pla=gZAJ%b%0*ZR0VcMO
7IsKLCef4K9_R9jMq3iC^=9Y>9AuF,8N*9P!fjGw5u|u_qT=dQcJJl5>dbDxU_S|2&!8=nOS^IEcs<$4neh0tQ3=~,qo82GjMlP7F>kCjc.?57=$57I,tMMs
o=M49I;opM8qmIkvoVmYio&FIC*m>W%^3NuH&/tHo+,jcY^FW4Bk8Ii/MF8_tg.Sv+o0I,OcIefN=s9+Y76|Qx11,|0A&J0*GLn_/tcG;Jk!Nzno2akc_$V=
R76VWhzOyXp1&zoD.3mJ|yHD.t0AgR/BFwpM&sJ8.KXm2wW8>b&zi=MYUvnp9wuvd9c6AZA4_2*nzb48MR|Q>sfLhjNfWUM9nnP,MAS5~<b0~dfuJ/%FbLYP
.W20$RGnR9C+.<+XR.y&Sul>4zWUDUml/&>l8Zu?LNOc<YoV4X5Ks34Vpg=KbVlfJbAAGkb^io,1yCle34,Il^RgNCYRyD&7*cmyC^IAI,3el%Y9*7Dig_+B
~*csGvaMqYC9I5Xt,$T<m9,U4Y0Cxo+VmHG|RY0VoH4U?PitfAG?,lH>SCKxP+3v_e<>pogH%Y=d6WEbD>heBx<V_nsinvL;9FImym<d*W~i16osr&genhDk
xn%Nl,pPqHO+_P|ZF7KR4qmyH0?U+kNkPW0en>YQI1DGW0lYDPBN34X^VRc^Ao?Csvc8MHQRpsl4$^i%SASkumMp7n$~K^JXt;NW>WgY3b81KD3e9VqeqEyJ
BjsC~H,JcP_G$FWPlop4ojElliGA2Y,gyF1e+REl,zD5h&oxADGj6wq/teW>vM0uDU<*,JmwR>AUPJ98eWClJNRFsw/IoBV.ObNxG|cexh7vDzNJX1vHl/II
CAe.=go*H/jm;^?t4H*%ZqMApyQRW82~we>DW>n/WF$n*c6oxxs_^oYd9,F$NK7EP?cWJpywT|49jW1Qtp84K2I>_aH&COP&/ajLb$^ei*DI~La0ZyHBwOCy
a&h<AJZtPlQ>nlze9Tsv5PWAF42IsHcsZe8apc3TT|yk!zP&Zx7SV?BsYJ|k0ZU=Mq^1ZfinyBIdruqS1x?^o~3?38<6lTc?X<orBDNXG5lrYg$sWQzqI43>
DmovI.3G_cISVYBOeF5>uUJQSG<~M~hTZ1w^Lao$giAR^jnNlAl;69M,zK$UZ5dJe&qREEu|EP^m|g$N3M3;>APUM^*Vd^27oMZIKH40KZtxYBIcy1>tpTUy
u?zO1HY=m7Bi!+>I6rEGZHyU|it6j<Sfa7lI.HxRDU%nSZy?iQlyw=uj~~D^Sl|b&nV89TT~/=YZY~?yVqOG?oHg00+=//&CvIX=yyPR>GIunQVLye.weEi|
Q3arFri1DFT_5!+3fQ00CV|tqdeVgwYDMVMN/c|P>ZI8hZtZ+Iw2HUQ&E+wyW$F4wC&F&d/|,s8Ku~/&dJQMy!?RcKRGEyPNT^DMMA+jQdbPRfvZnjAVn+nn
z8E<^xzF78o?2/v;g18G7$dP0CWSm<Ou!>h6ktL9qAD6z29S&FClJLnXcd%4ct27J.kBdSB_wBD3x~Os~<^i|VQ1mIj.~o90W<l9a^LyYHWY^T;8FTBR=?Y~
8&yxF13a%JOAKPMbs0o=<Ib30ea~M9tFVHo^PXV=Nk.,23Uk8GC4rGxB3nQxo$PqbReFiBnIkkX15VZxF1wQJk9=3ln|DCfpIijC!s$ISUnSi+;g96?T~W9q
3Wjsf00L|9c&Qi^i9D1QNoy5kb9ycl=C$y__1OShKw15gA;&~?7CYq?TruHL~qJ*O/S<dHU.hJ9Dlij>R0y|9Ebi^%/R=$1P;k3;zOJi8df&LtL5tS_0lWx!
O.V0N/x50i_!<WVwxRzJWLTU7qV&<<9Xx=UXo%H3ACKOkKzZe9d!Vztil<;D7CWOtO$jim!k4R+1|JNcOgHpzjq*peo%7no<tEzM+x!L=B8zfPB$a;E5^?6z
bjpfJWarjYVMEhQNqw6zSy+5?>|~U*%XwqnqITth>UU~LVqX09AbjQ;!^rd8y*~I8m.6<a<^9t_e.?KZ!q6z2+G$Wmu/kgYk8&iwi5J=J;S;K,s1kiR2|9fV
MmiQSx__K2&0<>pa/dVFSzr4!AW_m+,&U<qx9fQ4Z3lLY71EZ+5_/i7FPbz&X.^j>+u&9wWXuKwE4V|w5y$1wjh%neHb.yY8nZ_dxM+~qNNg,ox!LrJyDx?z
VjR+4^*$we=_GKhh>|Ns5c7Z$|O!y?QrhXJIR|vY%0EUS.^0xvnLVsL,c6/<KoghA;ao^+$OVu0y7S*ihP+VXxyUUOU9Eiq6ylFFf$?Dhl>;t93oJ,Aj1fN+
Aa|>lvzKr_P^%vD?S&Ef.VQ.2d|L+taXzl|,yiNLLUy!+x!WZ?0<D!/sUxPspWhQ%tE6hSf20WL9$V=Aesf9b;S4<Xq.,1XeRXp4j6c&xi4?OppKlL%20hzR
5Nz9mZcN6288*BVj,|Y~rp08FSRLb?w!hlU,I$uf$1FM^a8<3r~_9bD3ruvh5L7Y$/=7en!+WpLYt*vpp^HQYu%mEAaK6o$|HqP!BUDgQ<N2+y/t*vFAHdM=
&ono*t|9O9^$|L8+&N>j$u/QGq?OkS|I;SXa;0NBA4e/uPO4k~nMSR9Y&d&rBQvzc%iC?qSLdzxt8z,fg;<Hsdtw3S+eDdN<Chj|m6gcWO;~2CDv8a+t9N,&
3KwG3Nwhq*>_;kRKdaYh96AHZCC+^ly16><<Gd4zjVt3^43%cfgEIP5x0Zj5M!yp5BOwmd/VmE%menDR!SGTGh|CxM%6?bP&nTRSj4EzCA42i93gZ.Zm.2IZ
J&X0V5kNFW8M$1JP&z1i5DcSKKObXkEN&KhEY.Qe?z!QZn.|=A!Gi2mp$uD%Y%~H_Gt^/vpHGy~Mw.h5SYjJxHllHiZ+&=VEljO2snYx?zp|FI+kdZJeo^+u
g%mY&Ts_zkXV^,l^qPvxN^.WDXl.W;7?33_HRsRJcsmagWLjOQ%42_9JqjwdUwdD>K$%wP=&7$3bc0a~t|lDJnq~;|RZp^Qnc9YQSj89s2/;VdI/_$E$?7_y
&uC!WcbvQt.OEW9D0Q6v%mgqI0r,z8gVk*a3RL8vnOHgY9Tz,A62UuU*R$bGF%JSho29Np.dh.Dxe?TV?l%+AsnEJ6P&K_kpPs/NwC!RAA|QQMc1gIZ=C.k6
x;H9pP6tiyIAx$ExOK11Z..O|%woN<0_h0IC+u*hcxL.OwobKsJ=<aI4nRgQT%q,pZ^.n/a5sun61y21ctvW?Y~RtkETa5EgEav;<VO>0=U!63sqIY62BFh<
YI3qL+.Cdc^a;kjVotnV,Bmdvn^,Qr8m=0i_>/xs/.e|.&.xnb.e|SyILjUgQl=7kzgG9T/Vj^^&/3X|mUu+mdd5lH$GOZ_;ga!s/LL<8AWuSj5/5Ft^UaRv
4JEIR?d8|x4;m6h!Nxu&Bth|$rgmpypZ3SZ1w;%qApZ7+.GBz<3T687V$jHw%wSkctQ1z8%37S9V13pe!PB1~9Fy16cNVM<B/gBjs;HoY1ocvpNFH4GES7Kf
RRl_7rvGo8,kJ2gUnz&Wa.%?3PNP!1yoncfk/ab5UJ,>,XfY^OR>uFWM?ZWS4H?0%GhIslCRdRoo+AHs<NnH$V1CLB0RS%vM>6q_Qzb3Keu?vU4,3hUL~C4Z
;tO7HRqHY0JP3mXHeBssy^f=o4~Tp7Px_oFLcm<,dOe333*|NAKw&*+$R0bjHy3>YZq!w0vBjPz2&damP6ICmX|47p^,Jya<EtjUd3U^$8hL$CX&p+;gKe_r
gRh8cSr21wDuqmNHQN^j.0%^e,!J*M^oB;AzrOm/LMqrO?ZndH55En,>!HB7w9Jad17l5e2oD<.zKP$cXMtMWsHWYZeK5eZh?o;vPn!6%*wSweyR|.O~>Txm
SHf$do1Ym|=efN4Qu<L5~2fjdo5TJRuAbErjZsH,kOTj4+Fv>tOl3Xg=vP=hR9E=hCiMMx!WcJ6VEj<gqB>!FoNL0W3cQUcYjG;QaeYCENX=1cnBf<i;Ax*F
GLc*k<dU=1t;2YHN.2e;J^ZJl271DJ%U_xHc3xSqo^8K<E3NbHCbON$yjfhNrPcNMI=5N9%!hPhAfpEMv0FOuF3=2FOJG+X,XSqFDzt;p,abte>2KGf;~0MG
EUREszoUThJoxYP/z=<u,yTsL1VFoMiW/+Xj+WK56eeB=j9wpCAOM&7ZSC<Tx.U5!iFu7IqANqvs+hR,VV9353xxr__dObrE7Hu=UQAWoFF$d0S5BxaC5y2&
$Iqy/5uzWi;p|*n<Krp,U^+6Z5Ro|rRL$I9S2RF!cdslvYzWdurD3Tgj%JzfOFMd366N_r=?RMRPd&RsLN|HW9%~oh^*j4!t?aLiq2Em6X1?|G^2xS6MG_h2
had;l6XjUE3khg;8fk!oLZlisViYeaMw.QbUV>eRSslk5fk1c?G+qFW>Fz?LeNAr$3&Zk.ZTwN1jehWEf<S25u,OzJ.>kX~m6xqYT.r,HdC7h18qj7w;39=<
,Pbsp0ctl!^3W.T0&P=$8O$izJZpCMWpn3t5W1,T?tOugm37dE&p*AWx8xuF1*H6SPQG/b<k_,^aB?Ks5zVuca9qlC||S&Xh!hrY4AaKzfTae*%AO/>6bvvw
IhvK8.Jct=/Br!.WtZ=d%$F_KWNM<OIG/xqZLfUmW0IyT|u<KnPuOlUR,EsE6M3Ni0CEz>_fwRMB!S4k+,~a/+Vz9zi,Y/Or>YnTpcu~P8W/H|ZTYj1Xp/!/
yO$V.EVD+>4=4h.Qi?FUsISq*X8<IxHX?C%W4>^8ukQyT9YA7PWhVy7W?uS8+hjk<7GkJb1ReB~P~Tr$$.n,3o?K;Qj2|U,6D*iOvF$8QR^Kb_Psyfv80HV/
b;dFhecf!5To$k*Qkm|9%VFCo.;tVrv.FC_/KxAK$/CrMn4z!eMvaW!HvY|eofK<+|2aK=$E|dlgChAGgR65tY&A&*nZew=l1TcCBhYyc04SzNYhl1VgOI.m
;mx60zh,Hqm?No5QzdB77!TjhVCA2.j4MJygdg/_J&HIaL^=6?9Z8L69316x5ld+2<uMH;>kg,y5bqpX|1Np.W^YKw*djpV;3J%%,|vTGIgby~/6GUplWo4K
p1bG+,5eNeEaS2?zvek%vSHPVKqIxoSweTU0SeiO5Zdu~US5$P=<mP=?^OQd,E,x1~B?~_H5GRRyNn~da9tkaz_HA%$CH<z=G$9%3YRWbKvzDSxIWgC0+D,s
Z;m7cZ4ba!4Rfqmdkv$%QSue_W+SSP<k;qN,M?G0jD!I5~|T<Dz0EpT<h8qLps7|~S4wZ9*5CB%SL>s~1o?*;=nghXbYa*,tI%JXsFx_S$M+sQ$$tQ/$8Z3P
6RpCM^CL,gEgo1krX_ivk=Q1o4pbBrl=jBmWsi>DS>ct<P|kENWrdq%*e8XaUk|>F3*wJKbHq<CJNE416LPL|A6$b7VpDpYI7F!7EBO+tMsXp5$?7lt?pKW*
w$wO/&Bylbpy;XcbAjAAr,ahy%/^Id84o4ZPY;z8D_i>f5u;2O0,rH~.n6jnVJ&y?=Xb9lAt8x9h*chP>>D5k/e~lke.EzQp$0mfn.?LE^svZ2_5c_PIhTK=
F?Ib3Y!DU*?8*IHw<l8kbRhM!y2Sj3DPYa<7fgcSWzniipwzk,0ryudzAVBZB7vJ!2qqh1ub2XUmN1a+v$3TC/_m&&BQWcJUHrFCFN=W^WXe$+$kCQ,;v.7?
U6hl6qXv0bGGRebvannHQOuolok~ckoxY4~=TGLslPuXfR0xMEFgOM|G&egF0?Swy|>.STrkp7RfHZ3^Qnb?fLPAJeO&4GQqViZw^h2zxni!l_T;v+$&j1Gq
BbJ8pEG;A+t7,ITUv.33S8rm+f.7w&1/_oJGHVD!xVogR2|+4i?=eoi&<1gd+,2&x9GCMg^fwrGu,2S|?Z+56tS<tVRK^6=|%t6J,X&6zGk~rmM0sNTRH^r<
Btt7$!=Wrx%<i;GN<2T+hLdk5j04B|/=6uxr+|WMJNe>!35%Jz>0lg%yW3MXVnxj%QwJ|%dx^K|AWM3S|*l0~=%$vrI6i;CytP?aqX&u+K3HT_Lc7!T%r8DU
HjR>KJj1e+1Pn$do?|.WOVqHvvks!Af<%+qdK2juOG?AVK0,J1tdM*pEE/VYqqn21hHI^=k*i/l3G$nH&3Toe1IT~c8NEn8n*,W>gI*.>y9!>YK,~T4VyO|6
Nu?tAT7,wT*ovj.Ub!97Yu1,w6L|1w9nUe2dSe?,QPz&ePY4p~>PpF5aVCy<t>bR7*i1jBKi,WZ^t|VajFsmLKb0^D.J35KAc,B0j_r2Do.FV02bsIHU3Cbt
j|nA<8a_dIkQS^u4CDd4/7?,sJ&/h+Yp,1X5mjkUe%C8+>Ek8I&a%Xdt&Q|NIm9|/umi,8dh2qzy213v8M75sO7hFnt>$qp3>WJ8KB,+~?s6=m0Wt,xF?MbD
5w5$g=b=^n^|fQRd1V3uvlPhe>VVYj>wBLbZSx3VOIuzZ>1bYh_G^qqm.tE~c1rbw<~cQ>DF31MIaam;yicsZ>9i+YWkFSU<|CA;qT4IPy~PE?xKG5|aUA!h
GFPT4$Zz/ff%YM>?L*wba^duMdQTC9V?_5&WUg*KsVF11YH?5_Q+01y.n=y9VuSV3Mbo.4_P^1ueFPlb=W+ia3lcuhAund9u<fY=z+^/ad$q|UR+TEqRq8YT
bZ?maYL5U7>I/YMmd6=HpAFmrgAV|/zyWCdDfUf*mo7%5*m6vQ04c2ijpLZGM3K0HZH;0hC8*~>&V!w&9gL~8oz2W|Hwbo~a<q,Qv5IUW%*MrqeNHRFBIKX<
|$Z^?clJxqebUmUz<ql8+rNIQf2vtRyl1CO9BXT26BrbpyZM!=Lr$w8ir7<7x4.,$7m5ls7LT1!k9g21|zs?v?_^*JQB3,EXFH^Ksoil4%Rx&<m0*~|~$xi8
X6RMiy/$+1~KU+^r3KQrV&gak+Z0*/U+HhOl2onw&QD;$v01l~^P_cGrEE?>Qk6Rvi|PdZ%^Khdye9Nv$r$9J5JjzHGLcE^5b;Vge~%~^uCK.9IDBXU+XtdW
B+rxL5tdLw$6HQDT!8MM/k?LTNO;gV<C1e*q^t&my~F6W</uw$l7iPZ/fY?;esc4cn;SkQ_Qqli2D!sSG=Tq^5~?XZJ3uU>98IDjrfj+?a|Odfb7EdwpO?_e
/7Dn%RWRYHyD$hu&zex5>iocEonA_vBIZ%Vl0MkDUAWCUX!kmDI=7;k;zKFl5+*!%NdgGh3>w!h<,dqbXBMF/s;&$i|K^jHq!>v6f;j^4a9hc7sZaeJs*rZ3
lMyAMJ_8>jxJZEXe=rvU!|?d8EOPV4ScH*M$9onYTy5nNB?EKJ/d>g6/vg4BEDe^uf.?jQW>gCgQy4kyx.>st,7oKvwcO!>IuP!<w/%B5FE!wppECpr!+6_;
RvK>SDFGr9Rc>?3K21lW~;~giycVZT&ml=gbpRMeNaa1$BRS4g2wpAlR86yylv^wPm_;|Q2Ne|4akt,T?j1Juz7O8je$?qpX^%kD,H0ADm0z=B~*GT<bA0ek
FR;%Od>AjkAGg%19aGpvo^CG|+7|7eSgR^|oGFdj*ZTxnShw2QEXu1T5EK*w,4TP4ilswlv*I=yJsKZK.AaSoE>0l,jHO6hFJRKY,rYcFsBL=UJwh,v*eeyI
n4R5|s$Zu%I!s&xWA/gX<Bb1*$9i2cl6gWKvwm3g7?05_etc$yQCnVwpH7o3bsK*/<24*^dFO*uU6_gsAjpjhBW_TO|p>Hacpmo.xRihD+wDV~~kEljMSXnb
CUm!NQs6<~hAlLrQY&S!pMzzpE;e4s$|kR&^ImIus3*DEq9Y$<PAGmYys%G5GQpi~44fQt1lai2OrrjM$!|=nv9ZaAUwK867s!.~>JAl?/+CaX,?obTrt=6L
ix2!tcYOEwKNnD_><bLb>?4lLCqXR3hVDGWQLw9C|u56hDDNyvO.6!cIdHo;8/ioHcmZW0<S%WTVXP4Pr6hp4GAQ9NetCU,Du%bQ/QU<LA?mDeETEsQFTQUa
y5=4cGR&Y4Hoe=x7lbhTsb311L%B;AB/zK!AwFEKSnAG!Z|=5z^zvGB/e0T^.*3jpwtb?UYJyyzP$iW_KE;xM/^bMViI_MaUZuYbv&+jPMl/ftr3hp<buqlG
,RB,n+&1/I+/2Te=uV6ghwk&BJ9dwy.WdT2jL=m/3ze1mOOfHm?yKh~C29hZljPz8~YzcQq3_ZALKpvo$Mt^A;A&s_h=InElSK9t3=PogEE>P|f?5DOz!cnN
;gPsh16bIDil571Krm>,Ec_.8=DNOmM3~1^WU^E/aroC|Un&pkRkU^&+DM5hagzHTq==3.MS&L3GeZr3kyx.&QwGjMvERq$bPDdHQ&b^<CURX!SNInP.ioMi
5KVsT%~g7s>xy;ASDCQNsDj|3*0Pm3N6!>g|umGM7D_tyHkcSB3!_>KWCdYeXN!_<,j~Ee%H<Glm_3Q;~BUr.*,kUS*Rn20ZTGHltGlski5+PNqaY6k3uG,3
!.eP_k~_s5o.E0l>06C%aGb;ll%zSJbe,8t?Uu.W!5o<cGzKZ&BJq8hc5vEP%13vpaWVR!TxXRwFNA&8WUw=g|ru+X2ebLXuKP!cMvRD&?y!sEh!g^cNqETV
YdpUdRDQrrvt+?MJnV93,6=h6>3RMUH%xH,$x9%5e/T0q4&NojEUaOOZhwy,ab3O>AOW9A,KK^+69a>*pO^KW%^3w84Rc0fc&Q<c/u_H&DQo7EXnlY;J_~CP
+H%|9UJIGg>g%G9G~=*<V;=N|s%gA8E|A2s*Z*Zs_<X_.L./*^y?MN0RNabP=jKE0N,WHj;9V8E5a4e3CXVq9CH=M+z0re2P.0aHn2X;yI!LsM3DihW5y3zr
D!_DDeGFJET3zowEV1n;o2;sB+,+i&!m1y1;~T2;YKgz%7AQ;EUcWxib/_uL>Ur!=yl%Q$P+%iy5tEQ%dgwJC*>i&Bt/|teMaW;Pi+8FCQIkc?*ZVi/4/n!+
6n8eod7pAZUUi/rNPM73/d1&fOwI*cV>dboU2xQ~qEbOWgkAH%e2Yv4d0Nn6N.OLViL&JnG5joSwl>!P;eu.IOps*rcIjN3K!zBfy2UL~vdIKcq;aWSkx<ek
q5E/NNCcwChk+fXF_52_lH^Cxyig9O99N9nA0W&.z08Ck^d_4uk~A+&zfb*ynVEe1%Qv1zsLcGC$L_&QNH0tZ.AyI.zO0G^LFXr_jk?|i/BRC_k6ie=$Ejm8
V^,xo7oSGgf5eVI>lu6w&=_RoLT/J1~/bF8FSy<bxOR<<t;eRW4L%|8Y2b>Qq1=d&maIYddxAeATY^,;/=+<4.YV&N+yWy<?rOxM;fi.TBsc4^v^Y~2L?3C<
+T|q/2?MOHdppQktJuVKQ$L?0~,AKM;LaJM.sc+<JmRVI306PZ+bM;phYyN6EjFjJXWX$HRGjihuMgE06=.hrIOc4mWNVEViHBSh0&Pm<vaax_65Odfydclh
Pc&zruom.&;p07J~!=JGPzBt/G3iu52!4o$zFU~L2FODO.YdHtWTm*R&N^Ra~uL/T?7Xv/+qz+%Qn^mPHfHnIrxEhTmRTPL$oFrB6QCG63&PaL$LDfhT<DN1
|/|UnogO!HtztEqt/E7^Pts6Dx.LWBK7lrTqS+Jt1DaRx6=io/7hH6df;=*p.vfbk7l<.3JwQzc3v%!OM0ua>|=P0>kavV54r63I<^&9Qu6=%>OEQJqhxdG!
qZToPC|4AV93De/Dh7Ol%w|*7I/L|>Qju>98Blk^3b7=wR0X4nKRsmG&oOqm|D3_7jFy$1QLi+lXqV7QUZal=J.bJCsecAjcfKw2oNJldOE%25|whjpL8MY$
U$66g*Ms+/xxDDj6~k_5O|J~7ffA4$I/!w1K*i+*il+d6xnFezhH+|pvY|c1~3UOkZ;E=.uOrs5+=xdvWmI%NE7r$nFdXb4&BHDnKp&*bTb%bEBLwW.8F~7B
N*~T&NOaAn>3qDfULu744&UogPd<ydsj^DuNnoNOa3~e!XcW8JZ2QPr|,aG9$h6YWc.6z&uz_DWT=hxVSWH<e1O29P6;zF0i$+/7D&1U&aPxvGUxuQ&deTD$
+wWBSbY^tgT?O.=&x+R,sKLS6BAxHu^/B3l0g?rM9EEZp_t9AIr~zO_TH|?Tz~u%+Dbu/bJtldxhG*mDGb!e!4be;PpeC?bSe/Inp5XGzVaSE06^VRo9~vn_
ZanJU?p.+rNiIg?Ol|!maOYOXjcKgR7.~fF0eScpbl*8IJND1yWCd.i0wqO1Z<,m2;2e|F~1v=AB4bjo>aiq%|kbuergUh,hd63b^>IS,2_OQi_znf1<ea|2
&x/7Z50KWnO1r0G7j*rF<i^sdgYj=lr2t8O!S9fCXzw0ff6H;o<FbZXlala~gkjX0O<HH|0ZZ_;eTWr>Ru=n.Y8&FS9nc|WiZizKnhUFpHJ$h%lYSyk;7+ik
dh7cD32rSYtMZ!Qd/Crk_Uu2;6Y8fpUYC1qObBsQNY6M8,92H|ZNL%!z1|U33.,S!I^AAtp|YOr|on<I4AS.kkhEMK8J&M&C|vyKDaF23|3eo/|_pMdpSR3h
acx%WW%A4W;EA%ArALa>&KP;F_$9zD%5sO,47%iOV00E4JITSrj,;lDYlE0/ZXanmA2;OGwIP~a_Xbno~TV76*vGQ~DZCTNX4C<&%Ibiy0mbYR>2>HLrn~7D
QX8~2=rF;_ze5EA5PWJrV<cyTOX+nX3i6*v%gluvA_DKG_,/93zKJJ&X|lYhGW8TGpKLY&M7H<1Z01?F_;oCiGx%^Mo$jN+*,Su.6phKISsKGdT8HtRO^6+T
vgMxlh7Dn!S8ZZeu2C0_DL123,FA?,hzR1O*4P+CUtjiFCH|^BpjWt9qc2pIq1FBl.%AKbCC,M9hYHn_U82_PWU0.$?Y9IcUN67HDA_2w<7hHBklb7?u?tDC
g2rCzIVinfkdk.t_D7BN,ct^qjNoTV0as,^KYFe5^6,&r%t8mukU%Sz.nL>g3^n_R^~b9OiIy.PBH>|0VMNxl^tmREJ*,T^Q9XlKEaGHRIqWvteHoWr~ol+O
x0qMV3a?vPG4xDok2<8_^w/up6dUz2i%k4q$rC09_/H?0f5HAVs;1b=M1O~g.$Dm7LpZ922SC~|tC;sVmmZwN7*7Xfzh0wH%<12;A..G+6_2/o4!%ZmgZ0Er
d?Bv^gtsIm3|1vA2rJ0*REJezI6C~es+v!/!%CKAj<V|1wLx!DpL<X1GCb7i5KTJ$B2LvRowEKq*eBs6GE|SE7pcJLIyh>+MjbNEG.?A<~wN*%ObY=~2N0*V
QX7!O;pvuetCEZWuOuNpA.km6Dx9/$vwZCvOe18<dh&xQSAFs_wUq&vKz$KtyZ1b8/FGq&LB$NLRHpl&bOHWpcFMC%%mL6SwuFmDVZZ+65MKE81TZ/ayactp
k!l+b=!6rp!G;.YQBoQt34684PMrKL8jyk0Ad.siOZxFTWC5H3C494MzmpKlMCGEZO.o|UQ6R3r4%_Da;sGa+ILe8x*l5t5yo.MqTP5a.M5qshpm$>!C0f>z
I+Sy&+<%|VY>?7uH3.2HqK,>gpL4Zpi2aKwoBTlI9gdJ6$r%AJTSHlYW5Fxb^d^rcDvjr=c9Nz7f;i/6czGKrog!Sl1,YJ6~xX$vDPrTXfq<;KkVH_yhP9Y<
v~5wLulODct_vzL,ef>K?oG/ZOgL~CdH!+QSKR/R;?VQ2Qnrrbd56y<wjV<KeS<O>Z*qwGD+qQaMX*qk_lbZ55B?0AUd==Ya1Z9g5bSsLQKv/JLP<OmhmsjW
3m/3~7xL?1Lq0qePc+FE^5>PkmpgR%jZ,4TBd!7Aqu6/2wHFHAH6Nx$;GHcf%bPF<CRN=*oLx5DxRO169njBOKcx~y++!|2TXJAYRE%PBZ<WPGe7f7PhacK^
628E;_,9I%IYQvFykx4=uXRj_y>ULdjEPRG6+/O~UI!=~.U6IWA&&BtQ~kC1J3FWS%Tu/elunmCgg10bTnlrIhyWGXSbuQ<jcPtxx_UDa~fw/nUD*UCkAG^z
|7Ejp/2QVGx_5n5vx|Os*P!2mTZMXJjU+&s?AGS!Ln54c;aaT_Lnr8;<D9Vh^|KXXSm!i+A<fqJWX$+yC1IN/X,kYfyrfwgAQS~iK04,,0R,,*RrE$CVR$nL
mVik=^JA*m_8;!z7Cpjc4zui$8/CM64x9Y1%zs=W_jqTDXsK$X|ug7?rzICs|3wYB=D&qP2^me1GIWdF<>!N,2bq1Aw?e>Xbv_sLp1Va?.OGR;&+Qd7KY,8b
O52<.>^7+Z&ggU>,G<d/jOjq8TV0J0+KUay;_bl7X~2zwyRqh/9zOggAtQP7b?%Oom$ZGa3LY9OZtZ6I!0X2jhQyrrU+8hTL$a.xMAFF;_RLm7!GJAo8j*k6
N2!>|S$+&aa?5<I$PV~IaPvI^?kuJjkeywQzN?IImgV,%x7nh4pkV$~GZ?OZO<$b.,gTG?Fr6h^C05k7/1M^$zTR%dDYIgmet/Q5KSomASe?C1l_C5X4cAF7
EvjQ86kH?hN6jM&haW~Z4vnkA<S12WiW5KG*!nuJm;PR/UM!bE<M52htT>LB+2kUkOkuRc>fhgzX;Z?4q03f=&gMZ+Q0&usp_s<$/HHwo/^$>Fk=agD?yO+9
KHt1_h7n>^6sFjZ5ZP6=IJ5G$m6u!TX6vcTw4vI0?rOyJC;od3l+,|8W|imTn5L0pCTgqFt>paohwF0dhEaYqAG~6&QFjKk_lrF;NuP^*PMvCKhvdDIXJQO7
bGT9u3F^oNkab2$d,J8JI<XX=GfQ5uiZ7MYzw+peJ+$n^ib<e1K4gT;p*Kpvjc5nMbqM5GQ>Af0Aj>m$4Qbz?l3FA50QI=Tlg~sa8_dJ*5mTVuW>+PQ!/rB&
LEsrUC2vCg!eQ9h2i<K,=VJGgYiY3=R4kE^AEV42q^Z|wm5cL0A><=O9Ct,HSS,,PL8HoAxeZa~,6AlE%Nw6k>jTKs0%z+!1XPJz+_%8L;~C?jc<^XjYF|3W
$Qy&CUZ0l=nDK4!8BGV|U.kr*nShG<E*P*>gACEqTr^f9p0SFJUy&u=wK04Sf%e?SWNp8lzpWEMvB9DAeDeq;lEq26I6Z4hv~cg$!09sr,HbD^R2,2o~31Sv
q|U&hHDbqbHc~vmKY22Gb6V3p2UyaoU~z||kojJed7R.9n!dY99WbZ*FJwqaxTw=~BVC5oQUhNv,0WV$?kQ!22HA9vZGJvfj!^mZFy?ym$FP758CBiW4XqxH
91DG?5A7b6w00EIx^=qu5x,+*~;4gb?I3|B/P$6/B&U+gt,$avyyBfH?AJO7n?/$fi7^gkysX8>FjiVDuDK0N~PXzejws1w>0v/h80gWds~YFP1aJOlMIWM0
FOxLKGZ5*KEZu_Q!LwVhsR*BH!nM=.h.$w_&K48^y|!oIl,E,9IMjkBH%|S!t,4a1&>Hgr*uveRU=sYrHyzNIr~T02ef!yeKmGM4I_,YgU9Ku>b0%>S6pH!z
i~Z&kDQU$3+X1;NQG824JDtp,$_Rx%IVKU^1xK=OAWw61gF$MBIPg7.S?k3>761&6MX9CS8AAe0Og*+Ca>F^ytXt$4I,>JVL.c/*mNT6uJ40ezgjmJp~~d?^
P^TV1Saur$pZMT9S*D^X0d4%MKcsf7Q*2~d~VAPmv<SXge&WkgN%Q/<G;.*z^KUeT7HRU&.wiQ&nLJcYU^hd4h*xfB;a2MIK~I_R9/I713jtGxVfZw/TqZx5
66muV<N.1fI_WaBY|+**YA*jNTm|jVdViIuoKCZsqm*!NJJbu?E/h?+Ger+_iT6VZmotW$;y>Uwy2Y3UIQh~|vp4UEpqaImfIHvZ0S9%.L.rytNfvC*Bcwa6
ff/q|^&4^4V?U~*Q4%Ry*Mr351oPnZL4U6;P^PK|sbaGo7ym&;rdH5eS7hTKTJHzbt_DuJ_,6LwAhPKjX^~Nd9e>T^Lba.ORIkwAabCotB^bv;A9fOiZrX3i
0v=zsAdy$X5eP20/oIR5/3&q?aX+mJDN,BEnZ8w5$V+,QZzz%M.9+xs$0X^Jv!=vD4S*X8QP$wHSBqSya0&?b^1Jew2D&n5pWLDwKx;kQERP1^*vFyGvI/9y
d?MR%R<2DBkUaf9pHt38m+MRNEmy!T|BnR;%~n/yLMr>7+fe.9k?ilr$HF|VXbi/X_urW=N3HWl%wNM8AgBVY3PCjhSUsMUpH$nChYY31?|ro*cN;0+FBc&U
VQlh09Bflqg^uL|xO$DE%_Dql8H_24>|jVdxQ|/FOsOYe4GV8r$QPx9~mRb9EM$6t<*~Vmn|>$!pX=U5oXid$;4~5?*OjfIS$Eb/NtIA7+6DAZfB$WwEEc!*
hwG/I?IaMK|Qeb1cr^i$SrvGli^%*1!$^cqwtQt4>YJhSSLEes23V5sCRCi8kS26t5MYzyHKXvJVGp$u1/W!f3GjS09M>iYywyJwr7^9L_|tm,Ea5KW5+IQP
cf5VT9cTxxeDkM3y?Z9vSI<iRG+c|I<9p1soB6%<OgO.EvTVsL1i,5ps+zNSS+!<S*JNC!M?7;AkPDke7$3SG=G4E*S=Fk2M+WwoeJh02.x%O+;99d!7DWH;
%w?ad4Qmq3/e4np+sVaeL4_4>%PNS9$_vTemoZ9_u%HPXL&J35gQI|>;Xn4HiWYmd*.Gv+m&KV<zak6LgOcU3AawMrGVh,4vT_M!*6GL5kNSogShJoBBne>S
AFtygJutjHWVZinw+w19D<P~?47EK|Ym5wzoeIXWl5TV!t^IRNkrjp>q|+IuIJDHd1nnFuUQ$&SU?Uf!s=+0XYsPBGV7gIR*e>509DdmGo<ll$*>HTju>F|q
jZcR73Cbh.D6c;A69en92K.mX<sW2bg>;at<2?f%96^NJ=XGnl?=+>>&^ozYkx|O&R!DJqR64;X2Zd,syCGefL!wXz+%Nh%tMCqb3,V!A$eAWpUU+TfCN?<_
CoP>^kQFEu.ftG,J3th$z3vs70zIVLlQeJfqa1KjOTLdlW6++Hp;C!9z~Rk3,1n1BI3?!c%l97/r65IBUIlk!mkM=7p!Y~^HUjHRwvghuS5nPc,L;eUYckKW
z4ZQC4FDtUrOP6Fp07a7_wS^Hf&zqKCEGgwYG45o^uV/gRNuLzrewk2x^|Z!Bo3iW1VN;mMX6V~N/b&TZ0C*WYP6^p47M%t%DmSU!MbvGIXqxsaf^RVtDZ29
.3n&3TEVu1GjuQB5HkMNW_IAVR+olDtt*?m?N>x+0lVg0RJLsgYZRNHt.+y=A?5OU;64%^Oy/sjyK*J116DG~nZ=p|^cHM6bLz^LhY.MP,Ky|t&SBkWBObEP
E73+dm$l*c6Z~bbX1OM%!<+_cP&WND?75i0KdMY3Ob|p=JXG.l?~f<jhwOk=DR8.&o*v5GVnQ,O7lH^T;n0fBb3kfYhGTF6m+aM/*^xoHGs+LJqjJNE4O|Yc
V;hmiG<mMklie/t7FJTZH7XYV,qvBQ<PlA!IhEQ/Pzhx/E3HUb&x%nHWgvM<cuYdaFTxvMOroT~Efm6.bOhZH<vcK>Dpv*/Y3XUw2nY?<AGH,N2RPEsc6O|4
OEad.NPi68g~o/&0CK2=^^|m>~LxOmbQc;~p5Nh;XKXb^sgrFmSREK;&6;ClW8C^bM8D6<imszt,0lwn.$Y_8e~AYR+UDEjsB^JCDEpkPrXzVk<l!_dAlW>~
DAdiDfItcm?$X7MNlNg!ul,Fw3pBHsNOFq<0/.dqE/6hnB6ncc8S&kVwvL,fI4Zr5M8|2A2?zxGqxIFt$ly&$aKIXHG3T>5V|V_~bifa5;!>b0_bQP$b6qWm
ivg5=wXW^558.L2Kow&4C*D&STQHZOm+*~1ucv4h|^5*SS+_QNF<J%boB6+|bC89?kFBFx*v6Z^pyq;DAP?=/j4Cx_lTjXRfbK;%aTtxAU4/!xY,UwCXn?GU
P|kVX&Zeszs|i_3sq+<lVJ!uZp97Y;<Gwr3pg+Cy%Cx<gS3<j9U1cYF%k.|F3Zaqr*.C2kZs$OV9gP4,FaicOvC9h&eLlL58!OSUe$Shwm0b_N6q~aHj7_$I
RmmlZT9C+j?zr$rA<Qamb0bhlo5|rdXQAzIje9S.cc+F%RNkQVvUA6A$IG0^PC~*6Yow%weudY4Frb68/JDGtUTBK2~KZq&Ic&A9j*3T;YVtD|qu4Xz%I>pk
S2viFUh0vX,/GHO!3L<39Q*^SH.|i=|<B=!Wv?4x4eFoG6ZFG/9|TY2Cc9^IK^w&Ju*v*aY;OZjIsw<|kQIj>p5XrbnsUMjV5O2<,?81vs8,2d$2$UBTk!&,
vqOed5OxBgi2ZlRCk|d&xvCE^MD,dQK~z162!4_fXG|Z6do;mSABiv>sM,O0|9qbk|aBumV%tm2W.Yn0;V11_7S?xs_c8%mRR_<Il8%r8N8LR_b1zaei<+f<
udL!h0Eoe_p$sQmgo8uAd!t!A9W_Dh!i;K*|hL;bE/V29_IAWvr,*^?,Am,CDkenM5=%IR=88Fh1Fb&aT+<T2?OWF/*rt0mfl7OY/S1r|huCcjZWEVQ91Qd0
C;n0j8<+!q6X<0e=S7StFC?|FOwBIE&g4XJsE+$CQ0Yj&WS41xCyrEd|6~nY2naXhBAtepnC44ux=MaTAD>D2^;V2a813Gd/G=nE3t/*UdBgQ&;aOws~0~Dc
GZO8Qsy4DCk&cOmGJ^B=VA03giV%xZ*^/^KV8lkf,qdUra|?M0gD=DU9<ubhO?p48$LMRAKICJ!OZS?_3g91,j+1z;|u3R2awUl~t7A~X*dwiuH/Hyx,xLkR
PbYP!D!Sm%iODM2n;;l7q8m.UAQes~5p6Ou6owxQw?U=GbeV!.XCNz,^JE>Fl>Fxu!EUNoyh2dOCIdREx*F6*=.Mn$BsoQYN?l~vcs6BbAUbJDiybSrO7YKW
V7nwR^9tFow!KaxD,FE7gJiXiFj?!//QaX!qj^f?3aS,be8u~uQIbPQu7TLyhh9NG/|Tgfi;P;wUElI/Q$Ne>0xV0az_o7rkK|,FVDneja9ZU|!^LvNdOxC%
Nu9JdjCU2y33UyFh<Kp2v$DNzd6I2,zsM3rvVbI..D=zv6Wyit*|BJ*g$yD4ip0>R?t31^2kXkeIt,AnXPUX3gv>GG9z29DzmE=As*/$GIQab_<n>m2&rnuI
JyhlxtRNON7RIZ4IZy7Qby4?kQ?!!TlZQcf*Tt!|eTEN&maBUPN/PnFs.+ksRSL9fm!n<1sQ7?^fWrNDyC>3C8BLhL=&=cq>Y9STd8<LPuD=,gg2mb.b/X_+
+A|M|PnZwR7_zNE9,YV8^y4|C$8PUY3E3ZmC.+ND7*WlvJI9~RaW<SHv69$&ix|uRJVwYIm$,u5|ta;Gpj797V2n,5u8;%2bgaH^x3JTzCcDvou$MI1clbM%
_&ClL+gwMdD_lkQj<emiQ^QruCQvO_7&F/&1sOPDwNXCl1T98^BW2I.G|5Yl8Z?w~Q~p2LzjV7nLh^ABr+lHnorMU4fQWcV|XkxhTiuiS0P<7EeanF/QDFl!
?f4x72!%!tddY!ZuM~<0OUE;RQ&O?>S_BI1/Eo+Grqsb1nRs/8qRZPft.H_Di&DvtJz$N2%|pWbsGWhSBvX3Fpi6K/YYdGIX$,^4&R&FWIwcMLEWsPFZi4,V
l$|66&;Cmb+$trtn4eG%JE*u6jIPpZW*g*Modeivj~mTR^X%yvK386F,|^P>Epzwzegd9GVqIr2Y2%_Iw_iDF_xebZ/fn0vjRjLmPTq0gXzC1QDVeCkv=m$<
=_&A^iHmA_Ej.ptW_ITLBiK5DLQx&G^?1Ep9W2SfQIMD<fkpf*a0yR2z5xp48cvtRWyn+&ps5!+O$RA=aVX_4DdnbxQk&n8liRC,2HT32|0KwbuAHfyU2iYX
_leDXi?/zjD?wKpEqm$U5MlGrd5NHL0Pffi4K77aQNi~6/Pt,Vax7pkgHqahy%22p3jp2YYVdAb=07,NYCS?hb5x~ZX%aIVRf12Y<Wt8/TFE18Ho+!|b8U%X
4CGXr*=sY5zm8n>4iRWTWHioApb&w5,?DUyewz%;cj1+j1jXXuW3eL%v>6ppOSD3wvMk>|R*0aG~*_Y%3AqRd;p&FB6rUGunFezUr7HO!IGmMSuG;S?TMu1u
8fq;~hEkiFuMdZ1Z^LHly+WClP?Hu/4CM|FzQ,cMouMd/jkjf$_kUW!Oz1rJ?iQsmLoOhR4F3U^99_8R!BIl33>+K~RqpsGYtR7HltiC/94ISszHc&Ed1K<l
s~iHML<=9Aicm,Bc|!75N.5nWA!7tj2G+F6Gt~LY.lUXY<AduQuj8bB6l~BT71|Wrj=G7*y;ttzg2^~jb2*w^L3POBR0^ZC~Kh;*T~n;cTxKVLM|zP8s*kfY
<EV!Dan.Th9ws,vsAi;JHgvyvItrNGwXbmSxL<HbKh=HOXXDvDik~zsjrF>rA9M=v.dZL$f+gH8PiAFO69Bc*NQ8jfE=p=gYF4HHz=W|4b|Fl.~b6+~k=cUs
3G^Cmm.^K7YP4q?4P=sI$IBsh<t?j+=zOiqiQt<U0G~y80216I7feDKU;Y;WltqxtWK/Qdba~E.qg5~b7_Szzx7S+zaC+3?aHa*;eLWfC4<b68~n<Vos67BD
5X2YYEkCVhldkRbY/5=apRN1i1UbKP8w$bPRNvnNf=k<&6Zj|n1B<Ktck?IvMXEs4su,d^x&Xb=0/JD218oza=R&pc<X~n$sX!KMfbFH%J&t8Ls0DBZDXupv
e6O0S!t%qXE.RzvPVJP=Nr<r&mz;//5M2/7ldP,fCJaS~tM<3JY7BIbz!C3LfXDZub%Gvpc63$5Vpm<?$y&>93IxLOS</.ix3RkvK7OQ_OXA<Z1nqXGChCi8
GQ&~9U8Xq~W?Bm0h!Z%oPSPujZQf5Ne7Yd~<LFJ&BWWPa1hipcR.Ng$FW4anOIMYbqm+hdG|MyKXl&DOMQN51MNrLnM1G?p%UmBOA6kh|SHr&CGXS9!GtPgH
9kOb$4AcC*oP!0giIf.&XWb.pt;1.jYq$niT|L=yTU!hPPYpHvtpZ|$Qc61bTh~6i=2Hrg;kpql!C>&I_UQR>V,=KCFZylIeAA1qWdX6QD0Fae2r0|k?yp^f
G6_M|z|31q4A=6uc0O$0>tWyErg78SWnMrvPa1JRYPhKTeiX9jXXKa4FUt;PT3Z,ivhg6e$5IpUcVhi~4oa%.DU+jH9GYom5AAC|_0gaUlJUNqgRj3J4*P_I
B$e$9mE=yn%$S.>ZSW10.MTrKn/+BcPIJ,BEx&fh&7IIfbS<EC3dv*6F?.&*ZPeIQeaw$wsYeTQ84$fCCu>cLjhIax6YI$lHuBVMmKF>wxLkfiOmP0n<9mSa
hUjAgpAhur+*Zv$oa_$lcKCieB<dj|ml=Tlv*KR~/McN/fW<dyFM0dXv^b|mDggrLbnl~io;nG*5NtJGEVCd!Mrp;ss|c7SH7&qqzcz+HpqWbE|PVgKvxESE
2t82zNy;.pUcibl?.7_JB5,drwN6.Q$!0pr;Qx_RE~j^7uNUoQCw8I5/ys$^f3TpYr>m<s7ayNwesi0Vk3HOMUP?w<Qml;GzDSLJb1~ZFa=Q~Lm9hUd7|wP;
tD~~nqyfUH&e90PpHN?m^?Mceokke3EBV/Vn?dj^obLMhLWz9Y6K.T/mUOJ^0RC*W6$<WPh$FA8NLoHz6E4<Q&w|IaFPByJ+><myCKqzdRmn/l<fQO;8vH*U
!o5w1TI2G2~4LMy^ZDLW8D?u|U?RHJRCF*LN>pb0JY+*VQ;fq6Svs=.1MEj0m6Z_HRGBIXaWO43~|Hyhb|Oq%FpB|OM8_5yME|&/d|H9!6z;Dwp/Pk_r!_qH
_iVsEttpRf,8qHuQmS8Vu~F.P4WUvJT7mI_dilD,I$.**x6.UHba16O$<1jBZ0S,XB/9<7qE%e2%oRSE/^449b1,u/i0JuAky|Hd~5$;O8T;peFHgRi~h~oV
3,tC6m6sJc.xjIycg8d<pq1~RdbOPZPsTKd5KXg?pti%U?To>*<q*NfTJGVxj8~nMqk3~q,Fv!M/9j8c!RGD.YR,soc%zh>*JOM_.;T_>%X?X12Nx$rhw|&T
LSPo0BsU4Wp*&5Uv6.n7Xcuot3u4BD+yu4_txl<NcJ*4lvHa,oGQNq&v$1KtbBcwYY/r0Uu4VlYI!*cJ|uRfOyJ=2MH,f_||S9Kt^a+BC9K5vjx4O<iE0HBO
vR_<wgwdeU4w=KwO?>&Td^=S~XQ||CV>Hk<Iw7|qT00nvG9GBKk7R*9+S,t<z+U0.fTEmNWfw3Y9gGB8=<5Xuk$92uZ/Klx5EX,0L;MHfNKAJ;2Jz!1?,D/A
gu|SiQ6%PQfXoh/N4LeL%HK4RhzDt!N,,d0Xfp!A0gUXV1Yvq8brDS$8Je&^j$*JRU_ffUluXtu_8y37>T~dcVRce6t~?rllF;1Y1=FBb?3dLqVz;nNNfkGq
Qhn!e1QbkLSdNHpuAWnV;Stlk!|YD3M.^tecu;W4+o/kxeSENQATf2*k=9z9KoKXj~lG$N1Rk+9Ym<Fr?vhcGMpME^DYrTZA&7<+KWu4+d=oj/kfDIvliPXX
?_^h0Ly!K<<_Cgxu~xvQ,ya*cbUyyNZ*xqVi%,Yy%8*Wm9W!|sjd*L.036y,niyD|$bXlRl9y,b?UY|A9jLT|9>vrr.+X*q6G%lOpKnwp$%Yf9cD/4u?*LVJ
4jNO*I<qv?m?_l&jo|N9_CoBr2>y0/*eHruv$Ky7g5b<h8rFj,1jE_1v/>6ye*6D6Ns0kojcuB7R+/ypudo*LGsH~M8h>q|IZU2MByofIn=7?,We>_dt|Ha|
L0,F=AM,nVkeNdts9dZSo6|5+U!c>ts5d3g~Ef_EW7.*eyOOPgMi9qauH5ZHqR?6Zc9VEUW_pu&k1NFV>tti9NdkBoDd5OGbJZ~v8!bmh>rGH|++wO9L7CKQ
~IXtp.riD8o|nMm4XC9YM<_B$e5rO|PtrYCnfbDC/xDAp&iy7a8Y0e>5vp?LX&=4w^lqUBoi4qxn*$;u!UJ8afS?ymHD,EI_j>C8V4R^7iimNGv!284nYZZ4
evIC1~m$b>1AERR%.nwosG0Y0AT0wMOxH_A^JMYP^G.ZX~SUo^Wl.9ewN4$HR1wxkp3%vwYlm|?ACXnst&//1tc8!8ASTheM9Tt1zkY>2kpLBaV|$,G_K,+$
?pWsXhiQsxnRkO?k9LpAD4yC*BKT3;t>.JZ~!PBqr4pmr,GXwIz2q4veeXL3T;rjeCl.+DO^W|;Xb/jtly&uA7z2qe+|0wHksQivy_qIEXXQzyBvPb4GDdDp
=2Z9&BRQZ5>_ca!SJYB+a~v9a+YjdoZ3<_0sZSF7^U~zM|Sz4DrpRbJ>;frnWS3rt~=Y1so9sHhMH%<R0vpSmaP~xXGh07O/eIV/XApXvCu7sjiItIwX&$IZ
u=gw45+St7=5v+cy&8UpQA$NW0W=,OhE1CKKqe!_p2qKSTGCETIfj^Oh;=9,*q!x_z4&!CP5*nLtpxKey%eO|uO6CB$|e5HpB&t~RcLtEgPq$5ltPRnB&brh
jd3tcgyrjQu+AF>3oJjK9E6%=L8eR~Zp,2&zG_e~0cY8jLGujV!vnPXw>78HRVkwt&vT6AF4Bu>i&Uv_C!!.kjLzHvf^hS2_Fq6EB.9o9Wr,9_;HwLCw3s40
V4M9J+HtY?tM%i^L+u?tHCKe^,*IvNi85pxwa!f,X58eSuz.M0RVP*YWGzjpljK$NB=6<Zks/zfxy>=2K0xGGKaAHP;v^emE8=hIs+XGy2fP%P<mzpK?wtqD
pDh!>A,=8Kg.iU80TU17Ew,6rS~VQ_+02xUJRhhXM%Nn37&sdGvbOlHla%ZySA9vV9QoH/Dd7.eVg?!f_XqU1km$awS^xi_Ba2>17ctqndie!;~UnF=VsI!2
pn9~$ia.*~YfaxbNxEM~ew~O<&VxK$Tm4Sw_uy&AV>JLjw?C0|_9d/811LgdAsi=,vfs?Tf/8riFIhv~O;ldjV*nhSJhM+*s.i!bxk<pon+J2wvfT_Xw^t^y
bx1E%Kk0SRxANN$_>1oRD*M.4pkNKbOr;3~h/*&|!Tho8vq^>DF77!3A1&sRHT>z?lZvtLbqUJFETR<mfb*l6zscV=Cwm%F*RqH7g!MYW~3g&+ccu1M*uR56
9R0p>B3uUR>GFA0~|f>E;<Yh7b.a.O2bNcN/a=wqA,qQoT5?<Ciwls8Eg5u9xUlK8.z1ZcbmdJ&pIecp96!ifRRvO?s4%bORwMA/n_PGjsX7vdgXCwjuA/2B
v^MWW4DSN9eJFi5q*_Z?9Kf;TD=nO9sS0c*8f%?WQci=cAM<O895,GhhLZ?+rl_LH31;*TcYz<*v?XW+dXKAzh0oFMSV4ZP;SqYAE;g2TC+ui>IXwB|4nAt=
=q6l^~Grefbhrr,18FRm>4&a06&q8e8sqprleb5H0.4&GS/nC&FFZyda^gTScf$j.RqD6=D,t9iHUc|zwRf*Y6/Pkz+q7Ic*YZCNKySx+*Jg<=Z,?OZnhum*
&,H!hNnd=vRY~AYon2ax=fVKSjG;G,>TYC_?a/aFIeUWJB*X8?^19cD>8B|2$=~btDvFt~Xu<sgUi+tm2<PSxwhMxoa>RdLeB;q8TQ1%p!hcM<7!GGO2/8V!
nIPY^+k7MkxU!ROh&a$e2^5aTN=>em.MwZb47MN.UGhRzBg1;s8VLSNLfYj~Tqxe<&Kj,v/mf2X%?<L!2_j2JgZaUvk6n40xXT>&*UM<pq|GgtG^U.lklLEI
S+i!MlCVVf7zcGO9bez3nY0mCsEONDUlfqg4F1NrWazdzvL+AX+I/CzCcri|Y;FX,u;Q;s^!gYF~FHt6n5p_patp71lv~H_Szr&fj+D;b8HIAs|HHHGX.iTq
vNQQmL=!$.ziB!GMpFPCT=>QQ9d,l4^3F,KMcVz<AJXgAgy4rC45f~u|N&CPQtbhnlEt73wAh79+e>KcpuB!qTKITDbV8sApZnp3,~bQCk35n<%lwkrkzjgp
|$yBcu_*E%hwEq>E~v%QBO%p!g^$?0PebNoQ|8?%=pfLyEKO8;7?2WqQVZ>4n+I<%CbNupMAr&!s5jteD2N!ShgqKd$R>f,x*HF$I~0TZEoedb_a^8,8ZUEQ
Pr<z6^ZfU$Ym3f<0k,=1Q<SGR3b0qBQG+9zo4ypw/Tw1bl_6s<&$S!2CYE.y,g>*d=Jo+S2YI+8+i%IyPtv1ie48XE3YL&m=hJ+si+<<sR8N|V,_STfSF~KA
eo=7pPucq%pV.Ikf^!qS03xTF$;MRubC|MJXe00e0.weF1bqPnmvwB5g6o9h_Ue$Ux2CWHdSX5C;ROovlQmsE+PUZlg_6x^;Amr4rabVHB0X!53<^gqB*0hv
I4nzG7e5hDt>DnjhDqjj6K_Bbv_UJ1ExPXH^.k8L+8VTU48Lo/%Ph=_rmqf~s6%s<Ohhciy+7J?SWpNtx4Lb9M;iPswtuHD^6%Gq4i>=ul1bBe3ct/t+bBgL
Y4;qPP!MM%C!aTW|HC^Kj,q;BZ.HgVtR5yHbJ0iCP~gAUqtVh^VSE62s*py,o7PblR>x7bLZ+A7Zx^*j6eg?6nn0GX?w~wzJc$LFaIEv?Eb*ou*ne85?/xbc
AlRXfV2J!2&/305~KY>zPgU4YK,w9QnwzjmIJOgi+!XeXqH^Dd$>x%WCgUFnJ,Hg%Ky|?xXxQ2pVH.wehhcp;%WTO1I7;5fbnj!eA$4k+YeR!?mHuWdJmhi*
GhUqfl+%%DLNUe37v>,7A^rMCn,!vD*$&UIwA1Zt1M.YcUi|3CkyUHRNlGkd^UB%lC|%U4ZLgin1OBoF.<h8Um=*I$_u$e%eEN?_MGxhK8iNyM9Xc<6x=ntj
V0J46l~Al*WBbb%WwcB&D_bZ?!&qD4>S,Bz=LY6TG89<otqhP,;p>_hDe<0$W;X=X;4,6aH?M%9zJlZBxe$zZJ2D6ZkGE>ZNHlN&p,13ozku;NloL<gQDriH
OZ~0yq2ZSOd,9t6Xv+x*Q!XRfW+l**fdJ^XfV$+SZgR.SOzTqg7xic=iYrd8BY%~~M0zDTnPXZ!nZc.cD*4<>5iv+4t<<,p;z6;Q;oTpanSbz!k7QD$j+J64
V3=z6FA~beW*a44MpJi4VRvoHO/6TYI,!4flEUmM0s=Vw0?06_zYkgtbt3y4w/h42hy*pAr=bfZE=j&jVx?10|.dn=1H^Q_dgtuQH5?tZp4.JesYmq%,O.Fv
$$i*z$*UM7,!mQbg%*z<++Ue8ivwVs%*jBP5u5s$VJK&NM%%EvA|bGAoe1%uDClQg1!X5zetFgE%5Q6a4RLRTxaIUHVSmtbe*d5a+Jcg~P%v~Y$%HHCfPhzp
~IYMtk?h6.dgpeFytD=QKi&;6?O$THjb9$HCHJhw1?eB>|6MX%~!HQ30*N/r|fIG/Wty!?jaySq6T4Z,BnxDm=Cs$,OjLO_bqWwMr?Ew,Q_b3U0o+xc_p/,k
k3mx?hRp2=bLX7fQdxKVvkF$rnw?s=OF8K+P>Q=6r8j.c1P>,C8v$dHXTGyJf&_%&~FbZhX82VYz^9J_S7G?ZaU*BwDNlIL/zisWWtRK|HEALY+Hz?%^Yxkj
xesutua714_SZOCP!0+WuurFRy!EtG>S$i^jF1+OZXViB8.ZOmmsWnNGp>6s1pBdboi3MMK_=o~CCRba%SbYX,0%2d4?+YX%A6UhGUd5.qPV<U9DkkOzD<~m
?fSFlY7dQ&%=!867rtOASz<xgOQMf$yRvmqCieXHReyq~qWlCp8BG0P5rH0=,z8j~n98.vBuvDU3ph$kqR!..NDhN;P$YA*BhV~Ek;1*pNPtm0F6I>tHBy4w
4d!;k7P=5U5Ld!_z0L+2_hDXUdod7=R9at+ixhhvGYqxp,iVROEsHnYHh1?,VG1ZWie<VgHwCtnl>*hxbJ*XLST?S>0UpwtbTn9caHL!jB3AlYAGk0d8ONGS
dgK/P249uKAMijomQk|7KkZ;5tEYl?W<UjUPM?c1,>Ptx;w1^OaY?LYf>DXXNN/fKBp;FLfAFkC5/9|Y1Sp6d$*$,>Wdw6v5*~kfeNg2L3xfOblsg/QzmuHQ
/*eq~VoPluENwUJ_oim|wQx&y9E..Cs=&~8O.RGC42IaS;X!D*PNU,DyWP20nm9;Esm=5/~0,PWv9.%.$0&ME7%_U3^?iS~SbaNRm=bCa6KJ.p4Q8Hh!>Kb8
%R~,n9U55h<x4gq3;2?rjv>,*L~v8mlj*.LAJ!R7pAO_S?~6+q~EB.+CX;9eQtQV~7sUQ?wGpuD>KZ1S.vqsSB7eZW18>2jg_1,W7FZkH?n?C^YVv64pR4mh
w*n2I%rujT1OY=/01BxzL7oO.>KoZYZx>>qy%6H&M147XYlvq.~m;pkh~%tS/|7vu=^tfe>|b4J0YPq<4dyhW2PoM*wm%yW!9urx=>?K&F324~5Ol<zCtW+R
$O7WrY&S/IqNt<3uR~_~MJq2bH>9EonvMYYqF.?3=?_0e6v*21bE=GN%dhv4V82;Wtd+JWJ$<KmPXZlC;~MmI+*u,UYo7zxwqEEmjXVsbkK7lBkVZ!KSLVf3
f%$!%~UBrMiwM80/TezQMH1Bq|BR5K8I>RXdu<_A8aFZ.cRXh2w3eF%p4W.eS40CNOz.iB%f^0eW|IdKK/;5nc8MC1=a=hI54jpCBuG3z0~RkDxSDlr=Ocbb
v0DH7r%tQ_SAC,tFi4mv0^fveK3T>N=+Y15y4ZJN2Pak/a=2=u;JCSa6AxO0?YJ^;^PlC;.=NXB+pWojPjGc&2TsLnKTU/|MYQg%JSZBE~VX|;edyUAZNo6F
E_Zq<?cSp*wvJjcGYWj^?m*sAW$%nzpshAiyOsLjJ?ZMt%%Gc%=<ayJ.S$NcLLq0|7~$MHOtFtrIIGaRd54YH;B+SWi!/C/i&U<<9%qIw>&JwrUKeJ%SMFUl
TV.<7BDNOs+,Wf7Bu%Wqc2UIhel49a3J^YdDOnRM3x|0Q9&I4|AVPPbYI9rxO6M$aia7dBX!d%EjBC*ZcrXb$MV//ctAu~tNTWCCplDH<5RwNr6dHC9Vz,dl
K35+PGeEAlxGPh4ZJ9!0gsJ6tbP^AWBALa+K8%V,NU=D$tU!Hin9ZR|Sl<y=fyM=BrqqL_eyEEzS~W55nOAh^q<dprh6rj<|ZisFx7=S|GRFdu,&Yr~LLZ7+
ECOXaZiS%RCwJ,LiyPdO6Ws%*Km3REWm,1O$Eh^+iXMF9v849DyttMJKaBkEnmxzKlgBt3,Gu1wtKXPSY=3I+YPIvHq=ltRGdT!uim$HwaKjbi,_5QF|F;CB
kJ/Q^L*Qu|x%Ra%A%u4Z0Dl>3ivu0++_^&$ma!eEB&$z9ne/~awsAi&>apXyj7bFjfq,3iY5^gl0eScKYEmP!|x+N3X3wa&VWH^ZaV5I%KZ1!0y=s>0!NJ|U
HG6MxWAlNk7S&e?3a>E~MGwlq?i85Xyusa/EVJdokfgQ~7^y&KD*V~9zqmS0kMy$m;hiAu0?L1;gxnb6fpa0fyMtHF1~6D%TlVoqQSFR.h&k/KCOdQ61mItC
H.dotuha<pGZEQ!TRRqpF780|GVMLKg3YMpTXb=AMzGZZ;pArgC3_?N!3bQ1REhv6jR;=;%G,Hcj$ER=YN/*oPTnC|7+7?+a>C|pABRVjdn$==D4I4_T5;~A
l9<kP~<?Z13lkfCbLGYp.0UKjk+|DqGCcZv^*JYb~3|%O/tjp>CcdVy|x9xA3!R0?sUzIy>LSB+e%HxSymOn3nMkzqV$$CyC3At8//<R7Ozaq/x^PDH1N9V*
58wRNSuyzcn$D<<TL~S.kwxH$r&Z|Yb%U2vI7&wWGjIOAqIfS6fOPeDMfgNmHLt8uP~x3n>,,<!yXxoXJ;/wkXn^a$k^e+1xOsOouIrza*>FSnV~^LL<4yIq
Wu,rmkOu8_8yx.$I6H<+20gb~W?*TERxuV_Wp!.>%dNtknu2HXHvbLKrTTnENoplT5C;Wujw.c$vFYWMOrl;uE/s16X6_GOgp&_DXawXYf;ew=Mz/cmrxC65
IuWdh?3Si|2/gy=9qlHYlT4>lfp>E$Wn^0EsKN9>*L_IfTPt9;CmC<M<,=S=U>%BAqfsp77Qs|!|JIqz4S=/0dH<28R+?=/58hKAL^LPI^<DIu*/|Nh?R>jk
<$O>4>.mZwts<ii0O?EOULGKI~+hzMi9n;~L$IrufAiA85q|<?GM=>VP2O;.0+N~;C2.BT5eP,Ayy.sN_yMXjR!K>+4F+ni!4cc=qP|/UAZ,+jD8q>B2xcmo
$wGMi8hL0!LkjZb6RGH_>>n?Kh_xxGK$s_Qd$arviww_ruXShW?L_Z8X6wV.Bu^&usV3k>rTJph.Kt7m&5naG$Qke*mI//k%Py<bHSCGOWs_wlZCOIYjQ*N%
IeoPCTUTo,s4GC3Le,,|htazvL9l=qz<<GhiA2vT9xOqQA$/Dupz8~%X+C?0w9B.U3qpu<TW?CJ?>aO2Oja7wP5>*kXr&UEp3g!*x,hKyOJfNb7o2/<lk?l|
i%B4TJK^R5z>q_N>D/dq^Tsz$HRl>FebVafpEeOK;GOb4C%&%mAWKi5/ee^Gz+S3hwhedo8nyul~MfW9KOP<Kl%?QTZJYWhMQand3W&5>5,f4iLFqfdb_bDt
7sYaDm$Ez13!+=!Qoxl884/yI$*X+P|EWS*KN?6t*,>Y_VBIki3eECGHm4t?lwZOSMjN;_VrH%kT?5E^fFK!Nk,*t2sHkk$/6C<no|~gimn+^31dmoM/S~%o
i/FX~9AdE.W|3tj~Qec3l95R$8^QEqvB_8e^zQoLF^sZt~XS;s4>DBQvFbeFeIt;AMe$bq$ny5lXcxS>1Pxd>yqtw15~E|=M|C1Q_hTLAOkpyTqkOJ;!Stnc
IUb;LtYK^~ejs7QGRDfD6cdRF8v,7~vKlcKK>14^5MxJmkkKm+pLaH3i6U^Wz5.z3Yj*UuF%lKEse+6wp!wgzG4/E4~~?;;8xgsxovG,FezJ_D%k1I00,ai<
N>VRrI=h/a!,2|e?90hY42!mg3p.XJb$pJxxbok|>rNeuT,NBGbD7_LqIn8;Ik6SWuyE_Rk^0rXZ^,ZYswBlfhmsfA|*SSf2r/Ni/m27T4as9C*/lrYgv,rz
=V1QF~8HUKWKZxnf0M2C=fy&ZbgNkjS?v|aVPL3%apN2UuWx5sabIap7+~7SY6bJ1O^2%V_7zH~T?pNDPu26uQ=Y^FGlOxkAfZoC6QtdYwiyLLsy.$T.mdCe
t&*fX+o;5BLJ%G|?Ze5i2,VOms<TNfzaZk*Z7,_K5lU*?&H&=d,yb,pd>7ZixXBOubVERm8X+GiK4JrKTuEBJf~$DRX0*w9DqT*rB?zS+M&9R1;xfoM+3.x+
znM=5M37N=Exna<JtlE;E&z^.hlv5xMjzvRplr7kaOIxkl|bwHj$=6|DHgmxISb<V&hWJ0J5;Iln_i;J8KWrU7cB$zqkq<m<MxT%B$/hWihu&n%frj6xSlwE
w^|Kt,tB.5IzOAC=/3o+,Px<FMI/3I6<oIbQnoDF9HbBDwXIZWE0KvuIXm!DdGU.pSB9<61r&sk;Fh*_~z3UOP1xt=X.&vgBSEwj<,Ebo?_h%!Ta8ib80q;v
z1lJM,OR9c.ic3IJ*Xr,A_O*hlP*~$DeBdppta0hEQ3x73H5P|88ww%/!+v78XyVljX+IShr5?BcEg!,Dsr.h71LP=/1<=C0,C2Nv__RnVu1O?710+3V?>B1
$8W%m9foAykUH!GDRNf0+O%l3YTiVxW3YyaxF~<bzjqDjDumea^ga_<4AhB$kU|VK0>az%0^~8ZAg<WM=Up76_CwKRa?gfOhVyM$xa>lFFlsB?pCE0Sn_d;6
?Iy+Z|fc0Gzsb990aftgYSm16o<jZKS;Wvy.o?o*06EwzyF&$KPNlvZswE<vxbo9bb+_TbSr4wvObbUP|8$.VM2<PffJ7sP|28_2m?5=9c%T;Uz7b$kD?b^Q
My<5VTW?^ub6YBHr<2b|D~K3I*T<i,hkC7,SKJyU|PcbuSSC5IP~%sbpGR^Ub5YywX~aEIqj9p%HUWPAmQ5$Lj,I!mu7OC7x/d^c8kxiThQemFQ;^*XoV,8e
nX>VaAs1u~3,w7TGN6>s8>jn4,km<pV?dz!<.0SFY+uTEy*BFcqfW5WyP?TmgbobOS!,/k3SbFs%W?3Xgz$iH4sXgs&yd1hyX3nt|;!C~?l~TRqS.RRL.wjE
dWQJY/eHQ.Y=vui>wl3S,SDmiv~XD!IzI5HPo1jN99L$r6<qFF^tAWAfnod&r=1v!7zf^657N6p|b2,Lbr=7i3F;4Kmn46C_<>_*KvM~7y1xNCgqc=6o|VcB
iUnZd%3Uc%6;!+CP34?O.AOZxdWr>CbA<_cl|,Rw+oZ7PSn&s3,<?r8WIMyu3!G|&2Y5T~C3dXebKISw^|<?$k;>VdB68afxf&/I_3*ft!^?1KL?Hup/Y5T,
0hv6R5k>wbopZN7;l98HV?ef0Ct,BE?xJZg.Rs.,fvXC9v^K^0ud%^.ktBE9GD5jBRE=dUYtD!8T><p=|$/k~GZkcnFSFWik4v?0nuuRVXX>x*ed>p~S/v.p
x1qJh~M;M>$$uVG5B^nuYf9OMXWQ1=,mxYzvjE9>nbQPAKoIB_ajoivb>ByuH4*?f14Z%_mvUEJJKDes2*MW4d!mLpZ5?m/7+&0hNJ!l>Sjir8Rm.l?z7qV_
O^x8n2jjz5vu8I<b+5_/>2zS55=!ji2uy6Z><LgHF0V,e~ub/F>0H4y.va?LPIdA/QD?Acf;,DojvuWws%|h5cFn!S|NxQwjbxUba7wHst<Ab;cJ>oxf0LlD
QP5nWqDwpHU2nPJ1JOBAuWK7oJ<!C=!?6tal/A_D;&N6Q003Ghty/shh;Pg*$O79cde;fvUaNeGmA~NfpaARJuP=ek>ae8,k3^D3nR>Z|Lqz8pFUTEdvNl9j
e6V6i2Ro~_Z1c=raa3=TO37>|/>xY6ck*2?Dc?aKZCNzO%=;47+5w=7R_X+Vb%&AV=Y>it+9v<3,5/KSdb?wzzkvy<v9749*k|C,<!V5^Kip1,__f~KGy^6A
_qI^zRq~2TOd.X8f!SBz_edO1sXO44%j~$rG.%^KvRRm3$YyFDY^I%&9/KD9iqOGJr|iBR~f$xFBCvtX<R%1k.kAnX!|S>6Owo^81VVc+NS&$A8=>TQ+oQSt
cpW.tLT3bV2g54XQU8wa!H~L5?=6o;pGpFn7,Vxi<^0*5eZ/m~Etl*vQMe8ZWIOOI|W=wH,nQI4,A3fUHXL2L6|P7mgaDT,KufVryJ0c/Efmbh3/tmWIe<W,
~Ao!K%fbuP;/LKVux&R%pXH2TckSej22>/aS_kY9i+V;Gv9NWaaN>g6~E22O,OLZeZ7=OV=_pg*JKx2vxtT>KN^epF~jGgyg9XLJt5|wLST/b^.af=L~2yx*
d9Q_4wwQB_I%MIPTdQmJ.Oi69M1OfG1Ym^tA/~H/vfWRdTc60p36|_sfEq&OHa?%GF%i=?AN7CtBghiUc2/+zwD*6St*6_;<He/3f1~Kx&w*LOd$fKr&<HV^
750CpvQ~g+X<mEdOiIbTMGt9=Q1rr?1?Vcx_^bJ5N|jBQu<$93me3CeV|eF/mk!|zA|QCQ?%ao%%*6zprSMDiHqd7sS2ItF/^6dnxH4KBAW6CGtW.ker~x3$
;vU3dc;^UZY.H5%Vy8QSh1eMfeJ&96GAGAG9G,5/*tSmCDKyb5u2Ch^YwEJTDqs;OBwQL8RFR/ciFBFVj3!V5Ix>!bow2MMel|y>nDbx;>;k+&<HC~n~XE+t
WdjFgy|Gga&C=h2=8,,Xi27Ws4,57?o*DKu+p>GsVxVrKRKOry1q!Fo4i^$>ZztdXKY_dC%mP=e$+zO72yuMUv+>xcC?z;%*jg_rgo+*ADPIT.|62LcB133W
~*IYN;_0%DjI/*Fa2.XHamVcjn,jH4xqRMaAHl/WC4BlsYBR;^MhD?WI*.bFq?y>Ol7Ooyy5UWU$FLr;BTJI_Iq%/rDC0KOS.UWA&yd,bYuPgfCIb>3p_G8V
p*Hw!+6$t=hJj5hCv/LuhY<tLpL=K5loXn$aViMr,hGX.wb+;+Trq~H7/n0*!yMFW7VsOYTfoR0ol_+qPm6,jnc;pZI748MJhgn8sBto0Uul52NcUT0%Nl7c
G,oT&t97806?VLhV~cF.O16hC5^MVfmfu4cRLn,i<8OdE<+e^^oWiwgcz_Kv5<i8SGcnNOjpHRU9tSgv3Rovr>k<MN=Y8$wfjKu7uHW|.^3tiE!VHXT=xk?,
2WXjy%6Tl5WtzYGn5FNp;M<.;/O%wS0=BRCGsIhZ6G0+n~;SG011dWABem/b7kme2n7Ybnu*t*gs!2Q^0LK<Tl=Z~nR1y0.&?;Hj=ZSnouxZ7S.lQWKRSWKq
AC4>vj!M?NJ%wswtv<1OE*;0;NB*,hQ=YBVtc$t3aebHlt./%pdHEX&Kc9RL%e,i%b.%3azH!cSCTVPzeUD6acYBk~e$uQxDgcaRDHOQN4o4v0;Ipl9?Ewc^
3dnfn>?R1VEis^RqaGv!>s.8IgT/e~1vbMiPH_DL2kW.s/~h!&qBJ=7w^RxLm&/o|;LOB4MKYJ/j6QB&l&zVW0IiyUyutmKZMfiEoAUx!A9Y6iN!04FGwNqC
Sty&QrYBMwzOR4Tk+NYC8mL$n7tiH4,lM1=!$OI+9mYH%~%QVZbK*DKnll9viGZZM$XzP9?w?SjJ_rlL2i>1<nz!Lk$^Yt;ruaL|/3yoISt<20c+14^8;uUP
.LbWEeug=E;;8u2A%$C3nNj7mOJn3oGDlu2VyPr5b0Ka4EO~210U<HsCFQDW^O$=AgfJApY|q*XbaMj_z~2C6VH.Nsb5V+eCg^>=lZTx$c8.DnWdXovtepK$
>,nB%F~s/_C>8>X6T%G,B?MvWcmQNw|K>y&Fp6LJFw;71nMuD&.j~I??.aPNm8.vWKx,X_!igOynu!^r25_y+oQxXb/=?MiX!<nk;pB9.VKX&h>I%Doc^hqi
ZE7jtr3PIAXQJ.gn2k=1FS9+qeqIZSPsV;XTE/|VPY71~PW0PD_FDbxZ*=c|wZ4qcc?,LM$ORv9_>Eii0OnmnK|=UnA>%NKDeUmewNRcv9k~OgHUP5eKF.=5
jo6H!|9^+NCgGkYtMX_NOu0rNJ45|P*;P<_mDvJRCHA<*OQv%Zo5Q3Dg^!hacCE~s~HTyv+T.jf4WdXXH<IIz$SPT;9!xc>jE7$.RX/fkz?u;G4>B4J1iCGr
19C.kl<VvB>3va*A_|,k!C;vZd~T12Pn_YW^!VrH0H=>/!?ShEwBRC_hn/^&5vjRwA5PjsU_EkaKOGid68k6GcA*e19ue.8m*26uT8LV%!tNPorIh7vBdH3a
;W5vn0d>nJsEo7a6JDi*h&uxakb+tyq4mx+PT^Bg*BFfmxu1=kO;8?!lX*,1x2A4<Q=0SwV177jnvCojSvU,+tns8>/uRkIV17cTe%F$+xr_J49kh,gPVrkl
EyYRT^b73N9Ot/qaaEV/Fyhk8dos7/n94L~6RB8AF~lVSrwfT2+F8j<Z/6%TYj2=7,fu5ou69XyBt3i=8o90!WM%TXL3hk*fQJvCYUnZ5mb24%X9n>hP^q=<
guE8.f?b+MJGaM$CL>u!|?XEFFPV;$tlYLbvB%qBy~k$6/P<i;45|0ZhyR56RDOs8f/wO?pkB$/c!QyECaHa<JBgv^Z_qOki0>wNejWSo/n_5k7L3nFBEsi_
.&ReDBvW=J1?e9Y!x4O&!kN7.zAGNh8Z!&nOKDyo%2K.yW~BR?$%N_=0RtnUnksBj7r/Mxq_m<*M|KDnbIjyfYgiPQ>mgCm_L0*oJ!X?sH&yD0P9wr%nN45+
9vIEeO$HwtM8jdF+c<aiG<CKyGyqDJKu2GfL=OPVA*F~bURz%Vuu<qXYG%?KTV&<hNn/Y?=O_9>Md<f9Hw6DhX8+YNlsBGDfNW&zX1gvnA+CuVYL*%lgAb8w
7C|jSJ42^PWd3sS~D_ole>7r+ls,,M?lrbyQ|31Jst?x*ukc5*DwBfV$qUcj,czXW4uWM.ecoB~wZ;EG848oO7>=/4WaAX_ae&8$!zghdRVX~^xd+;~%F%4=
3=yrI=bk!y%0A~x+4<=yM$<lNJ63Ma/BW8Oj^,TZ<ZVx<UZqIylMs*9M^VD/^=VG3EdlYeUNxEBWSuKeY^Hh4c,UyN.;62$Dl1i*YnQI4Dl7Hay6%4n|o,RK
N>lL~ZPWi20dNIq?3|uw&MO;a=jsg/ebSCeRxY,%;99xAY7XL5t|lVbIfmnaI5~_POIZUX5yubLRDCT/a%4oK>ht0>q2_0L9o2%2B*D<xT!T=f?!ugo=mYXx
sDefwV8NE53,PoiHHNa^KuJ?9+&kyqTNrKjrcYkF!0LQS0_BqWc*>.+N5;2REX!IOE5WWF?3|C3+WVZ4te,~mle|0v_THUZc0FsO<vl,trH3H3tc+~BQj7v,
=N<fx37u,=IctIc9kjfp+/Q>^ptNtxV2hKUAS$hQ<_*z8hLz;/_&;>w8g+pH.KjbbBJZkh_B3gFO6;OlgrkLE8R,w&hqZc^5nN^pUGo!/CdBC<cjMG*jOyNs
4>k48VWgkZ%!1sR~78Sl3hhVnZ=U?c9K_N>>W9Zl^lT*oQ_7kJZ>CPy.KGTIIHIdJs_cCRzyQ!L<tMPf=>k2B+yhWuSETQecgS,FtjeBL.l<J.VWaPWKU4E1
nK_qcsS?Q5X,yr/7A71QKPYQA*,0drfA..Hw=VK<XVC!Z;f0dUADVRV//TiZx$t!.HSx+OROv0m,FKQ/My9JtoER=$Z3*QdLo2olS;c0CTSD=U<AG6&l?h5A
aLLZEROZVJs&TTUVkb1JsKvItl/QY&nu_k2Y|J5/r,0%>K$itc%,5TkxVKGJ8M^YKV=IH~V*E+uS75GH%Xl%XP&!|4%8o9jkaG>se5Yf1mR!>F=.=;Sj~>ca
39|*pPGBNoxp<uEoC;g96Q;M?PY!OYw>p|$5Ouw3;NvZh1=|QcrE,vN_9!M8K~M1D&XT/KM$gBt|3tVBV86_vHL%hALEEreds+EQFUNDaM1Qsc^k>qDPXp>z
w2uvgojfKy~r$hFC=gh>SKkaYOR.IlIX+>hHYCTWbUXI0e,.3PO$qmP08$E+xZ;/yP!,$j_,9Bdr!1dMD~b<>^yKDUB4c6ouNmW$?aJx%kJRvoZu*$$5Rcl<
f4EIb8eqY|,5QXv.!8j4&,O*XTa,et,fw3&=o.F_rxK2|zHZ6W+eAwTcou?kKqwJOw>~,Ay3/~VCng^3=D0d_&%_>M=HVGfPNV30^/ko$3s!c4u3m=VvwQVX
_G|3F4aHM6Zc&/=dP~R*;LMg%W$;TI+rn5*mbuqtSbk15&=y97Cmqyh=xV9t;xtY5M>R%B+vjXiUVLcPKaFu5n!dUhco$**syByd5>e$Uv;?I_/Wh;~M.WQ.
&ku3hX>b,,Z=a+KL>NBWRVhFRsU*Q7U8r%+l~xQPv>pTYqUoLAuKYTpXHG=!~e!a!BIJBwFBkHfn+5XWUS~jhDGvX,I1;/0^wT8DYdg4z8f*jj^xCSTzL/fw
P6._uX~|i6=FmV3bae,LwMirDqcDferr~e7!0lq$5A!c<xw.|DnVgVRMi0$2l*G1DrN9qn7d9V?Sg6cIGS*ZWR6PBDNJTY_CF7>jOpw6By?OcJ;S^l!Z.j^K
.UD+bE2kR3szHOANv/arp?FvSRPf3I=JOR6V_+4E31deeYG,tviGN>GDnKCGAe~&Zz,_7wKI5>^mIRP/n*LAoXM=m|WzUQqaBoJcYVV&8ZXb;XdI1+.w5.Fr
dvUk~%dhCfN%Ow.Yi$M&HN//Bzf5kY/D$1Zho+x_lY=.K8Wa5TwoaR!q%>e$QNBSaIL&!>KxA50Q,;9/7Lj.>~pcC;F4la2~0t6Jdlqjd4RMauQbKv|M,Mk/
l>ERH$U+rR|zG4y<PEZ9KoqO3F/<2K0H$Dg<a8LJKr*zK87rp05_qbc81+6V|G2a?OFfO>!KMF%O7%GLV>i&18w%A&3&m|k6l_77_Z,iQ+N<OW233hijWdX7
VF7XT4zw1z2^VsgOqq!eJ^RtKJiM4fOMn|Xxda/?<f%xTkCKPP<ulH;Dt+tj_WPr>LDP/8v|TU_xRYLR+,QCppZzL_gHt7Zz~ZyJc9YsIh?IE$Hrv%/5P3h2
=$&xMl2ZSAc0hE=eP9ekW<W>_crUK4|sBjoK*7vALpyWSRR73.,~pjde>H~dbGIIh$K&P&^I>3iJp~fI?^_xylD8BKVJkFb5ndPg*G=bJ?l5/Eb.a,kHGqAe
z7wir%T~bl^W!wntp<TT|G=ms&_O|H?Wc,erk*L_iPGSnoq*tg%j0tzCx7W~DG%!!O!Jt4E._VAJTG/16D=jwogXe*ht~Qy+vn,o?73Wp>otri^?<+~f9C+^
,H;LquGE7H58&Pia8!Yirx/hWye0^oiDmQ+Fqm7fEWyRg43t|p;B1g.*;yX!wSZqt<xQmNI2A47<!Fv4~uRYYdGLwYG+FdCS<gTWDi7r%&x;u1jc50T<RIHt
g/jvb$iop>aFwDo?t&V+dXE/WnQrbHyYNX.xo7wh,l!T1S79?C;>~oo>lB=U/3^KD~3p_MyEiMO!>I=dBS4JPG&/oKnRuldj|h,kN6kDh+Go+Tv8If,N,uQp
1CYDijik<y3AzEh.ZAC5!Id,i1gvMGdQRFqjC;l4A$Nz!WA>sP8DwDD_C~DlB>rzINjYiOB2ry!K/~MGANG6O_ZK.oXP_S.eLtq&,S&qvLE!1a2KlNV4sJk/
;Kj^I9FHa2txKxaGjmFHP=ot0IPp,T3s+K09uWC,N?fuZJaSa|iAxe,>CR&c>vJX0bmCVh%=Ioa8t3CC&*3u&Exm6uUZ%$ntbti+E0hHCc_f%9$SZ0V/&|7!
P0J,,9ga7n;goxC1?jio?Xl6M0<OJ;|I8dB!v/oQoaPfS<7v5M<gyunMm&6^!Pfb~6rs!H7D*RCr2$2KOB7z<_3uQ5z3zm.ZW_|fWS!J5Go7gWeADx.8;nB7
%Z~P|p9wzr$67zf7;;B%54Z0M7QHQ^ksqP1nJw<Y8Qw;vxnkOczBR*v3q31JE13%.C.bgyjn2$!UgxK,JUZ1S6m>VI4,|j^v|GQ1_4_xC<VD6U7=Hr1&<Uy!
oj3ckxxgkc4_jwxOlGpcMM^dS4VMT<9OkHrGKwkCt020,IEIkr5pHhP9ldP,=SyqnpvJU;.&c9s,0OWHc+54_s^yN&D=iLX$+kALUwN/V2Mt;U,T|ry=Ah,O
ITa^^rh|pd<Sy.JT^dGr~Owq8A9Sdh,748PvxflM1Ps,VsQ5Mzvot*_rIoNl8P1skiw0h5tK9Ps=d1%42kw$nsXv~*GA$2e0,&Es?^>jyS+sUp~7^bM>!=p6
|Un$ec*cvI?a&,+=S44UoP|%$Bq80SH^H.s!>x;QMe;hE~gld9/guCUjx5Mgj~dXMbJCI<q.&Lv!fok?I/KP%3om<KUu7;A9Oh%XA^1hcBIR1Y,,o/$cr%I9
iUvuH^<aeGn$oD&l&4L*|1Q&z$$,o?eB4HE+<ynC;zvvE~0FcFMA9q02ctcM$9qy=XbbWAv%cg=&h1n,zRZZI6P^Y?Zw63fPrJ%<^Fhw$y1$&<3NaQs<^yGr
y9;3MMWMk0~q711.4uGr6dYT>i^~pji!90G<ms?smZ*XZOCQW_$E/51bTdcuFdoKFEG9ncESnL%QU!IpOZ!*gu31eyztr.uCDtYrr&x$fKp4oy>,OjR,6<Gd
8JbekG$2dwTdWbW7?!.Hj6e9,cVf8pO/qPk.Mq=Vm5;Y2=LXQRvcKSsuX$v$i6NV=iXM8CO/*pRw$$&k>P*qk~m!0k9^%bH9K7*!QpPon0_~4drVB6370/TI
/f+geSP7bJLxk$.ZTzMgbT41&D1k0=1gAsL_fx5RHXGmb9?mTj?s;6ur~dn/+MGTzlnJSOgkEpvGFC_Sq8o~6LkGWOFEzrOw$dExNsMT662pOnqA6F;,8Ub=
kKj=H||Fbyp_dvqtZM%rIyBxCUt7+ZH,9qG=z*MqK~MZWt8y^0b+e52bO7suAO,KoRG%sr!5~twhZ4=;%ueHS>T&Kv;=Ik6AKJyh0q,9aRqzxAkG~n.z?K8b
p_nFNL+J?<Q&evO,%/C1D4X%eufNzElh>;s59tB7>TLk+*5wsa|54KZsyyG;+Ag8a$j*>Bwq_q<5_kJvjk$nMd.;!n,&xRoYy>zoh,Su0r_dSnNUuJS*VUj+
u344LJ9m<BR3t4~Wgmb3,1%n0Md,r97,cK3bkQ!MWEE.$Q?<PypZQf8;l0|Q?49%!TaIwOVp=f_HD>C8Nn,ty|SnddQ~EqmQjB$09PgcT3H_|U6me.jY*D1s
t?n71_M1^Gj~LMVV6Xn&lmQB28LruOAV.I=BmIWPSV732M_MIMh0>Q$oSZ%WG;8IKkYssN_nVeSKe%|CuPJgqK4eX~6c=G1%Orp+Lp*0a=zevTt^=iVc.nGm
4vL6OAF0a.nYgB%p2&IUDbrIR!C8vQYZ4|.eE0fG1f2hXtrU;K0fW74^Pwh_XL/IdGr+L$Az&DqbYbInM3;R?Z2&cZ^YH;hY0YMm/Yt%w_mhlqHrmKsC0FsF
eeHLXB$5zZBJL~5c=*Td+o8,$P8d~Zcz1CYgo*d=e~p7g4/!v,9rA%Vrwp+hvs79I4K?yDSOGlo5VNt_=eoe7*7lubHX1OXQZ9bKlsiI=Zopum.Dhd=%4z/P
tvji5NL>!|liXJ2i;NbJ<BmkPzCyQaLb*E+vQPnq8_Y=BGEvk2DCIr,R9/+hQD|^!cVXW$~>HIChPg&jmq03?zBaJ~81iBYSW.~kq9KFe~w!7.z,Y,A,h8yT
.CUU$?g/Emq!cyYFTao$hu;D>s/>w^CV1Q_ywgK9AbZNr360A~|e+>,S;p2=KfX<$vUnq+Ru>g8YePDq3omm4Cuh4RSBwh3T*NTLC1|LZfLt4UdMiRg4o>En
1j?mihNod7ZCiNVcabT6QddsnUyk,1/*50?_qd8IA>Ix4cm5PFXzz9i_1Nbu;Y9lUWYu;UfNiPkut2Cen3P$HlRw6zLuGNGV&^xM506UL~xvcaN3=idq$qH6
60m.|4=nw6ez+/_w=z>Ob&CMvHh2;LeATg_MY3^6be>>Rc|eH8&Emniy2~YNI$nr;,$^*ZX%T+YLFwdELbE^l7z+D$QgyaC?g40O7b64Xq&u71ui_I5.,F+6
s5Ifa^|6f;GBQ!oDye?&g,9iGsS=wPoR;xVYPRwu0UR|uanqd$PRA*iE_+NgtY~z7v8H05p6pS%c~qoxM%0L8AxvXcSTpahmeK10DufyiNo&mSy!pqaxw^&T
spqi_WBSk5&^Q4lIOelWUEy<W5$eVbG|gc1DMas_3.~m.4N<,,Evh,xJg1.YUyw_bTO<?r*PR,Q&K,z74Z=2JpsBv7$xH!qfbJfR_|THAn%y,7y^T+!ZWQe5
$Wiy10Yq_ilb<rEwrcEfs2!>lf%*;1C%CmuOXH<.h0LOb%OhvWIYF9UnWMc8>JB7QfzvUgWT*!Jc!IQhU.4_Z*Qk7ZwQ$<+7nkL8SII~~hMK*H1qme5tGo?R
vk^Ujx$3OIdN,2V8hDXO7QM<gu!qVQ;IO7zePVNmmPfC8++%+ECkL~9T~b6IE5LD0kzvmuTVS~4gq<FZtg1<+t,~*Q?HHcAJaG$8.XveI2jNtOG.v=d~J92~
F;%ND=SY_eXiszx_p8DsWU5K932wgpZ,Lu*4Y.PfidspObVCN>lVJ6>yowAgqkW7ohKDG1WQlM*Y|vczHC.!?P5EGa_gh9q=.5PP25m,+A,T8tg$$mgO1i?O
LX6pOhBST^N+dJ$<oc^z83cz$^hoOP?Xwa4Ln!0vi4xIxn~/l/|Wd5q!V9A.irn~!Lu*fklnTh1E=,X+;Gd45$S!mpxsNjH*cY;Xg?QT+Y/|o18*9Z/nSicX
/k.RsOH^~uK<jfEXfSU%2Z5_jr=^O*?xj9R2=k3C.ihDUcPGv>.ox2zXNK8zKLG%J/gpndv/mK?e|4S1I0;RoCgC~l|Qk2k8izFZKu6d927jVGr03|XW&Y+T
E$5y~dPEGOt4lZenawBMQOVtew0>*vL/1rwivaE8m+.e|G+gl?vlruLC;mB507x<<S/U,v7aFa~CW,H!>IKvUY|YS/pkPNm7wdU^SjOatIH5s>TPanL/Zd&D
V*6XxEjqg/AEJOt3kGs^FIwL!>e94mUCFED^~^BFIRpVj$hR4!Pn~OymndIP^I3FJi<Rb!kKd<5oCu_MHpRU^vt&F0CE7m1G/JqEt$wHAhhWz|+$Ai6LXBy5
7d~M00iVeTwu1kqjF$zLMGFg8e.Zo%KgVUj3Am3Dy.>1aHtFamsy%oktvlGRxu1gg=t^ZArc?v&21|.ZJD;i_4ENi8TMvadd1T0;Mt;KgnO4$|ONUa&fGhD3
8b!r%w*xx9MJ*^%rAWkJg|b&h42^Tc=L!4KAHbTb/3;7A0iN5QT*iC,IcP2*9KpGd*lI=mWH+5_>VpKb,B~gbql0uScih|p|ru0x3U~iK$y8qW^vlP~YtBc,
/2$NBiARJjp2ZSb=eme*N9P07TJ8mLraxgSX2kyW2*/~>t86Pc_19!<?mcLSv8Eczr.kugCMtQYPaJo*1%tU4ybeZx_f,|V,s^!nuh/q/$+uRpv_L$pnfkyN
2SX_EM~=_CJx?nsgn990a|m6ndZ;s&4+v,A26_R8Bh&DC8A,7XvHy>D!%Yf?ElD8m5.CgR=HR>daVRSWU!B;BM+536p;VLcl08XM<fjXmff=4Vylfdbq</I*
ryW&PhJDnqMv0vRAKe;gZ,P<hs95=%z?m!n!79K0_$=&5PhY3&Jy!0*>!?r<_tl;K+8.dcN+uXff;RC.KcylOt;d7U9k43ZGVZvS&h02|NMT&0/;pA,VLP4u
<ri07fqc9I!fz2rMk_iWYZz~;=aGt<;daLnRBl,aCntK&3C.Wx+EPp&D>Sx1k._^e;wCHZ%jfGhjgR$IvojKvFUi9X7,eWiaR|Go8Zorq?mizvtoe6/~ghbe
UH^U_VufKXlwuAPlb3|NFxKI3A**GGU!BTSnkYhaPxvHk?P,oXwxvB^4GTbQl62MlWa.;bxkY;qnrdMjLQ%dgv=S$JGc/YL2aR~LGUDZW$jqVG,c^Jdk^DO<
L+57z;;bX%M&U8zTBZk1&t;FjMM1Ayih6jby<.3.mGy,~,f,T2!q$eu!?3N?7o5ZoZ>>OWcXRgwL0sjtQ>RgBbH5afgIIU*C0NW?PzWvWy2XXj.CQmGRCx<b
e~~J|Wu~rJ?Dokz6s=b1Eue/Mgzl|cls64p65<PXNVT~BS7eVYZmpJ6dh|+,qaN=/qTP3n5fj~pGJHQkHTx/tfnernsx^/+!DpwHQTyJ&Ta/b$P!xnAgxkb%
JEV,%c9zoLauSZ1biV||Rx/!,?JC33T9$IM_>Fc3=!iNYxuo7&_xNPg6d9UEci2ia_/hj<|b.vh9+!S2CPNNH9cG*z!8<KwwP<I6!*&d$<=vMNwJ^Ihesvv|
RMUkv+>9L_7uLrlLB;W>9ON1!TKLJm.t|.HfT6fOqHT85&LqYlV;Ujj8N_.Kf3BA,wLfA&t/aHpxdGe8g<E6R4~3=&nInmHbFlA|66M^F_sW3W?$iiw3CUZU
Cg5k.nr8hOh7d.5HwKKuuR~8B6PNf9,M4y=I=bi6.C=nQpsTYdT$g^Z0=2k!,c2a2~Z2!uLWY.6pW3$a5Ip*Fpq5w2yP4I3.D<fabq2KMd*;XCm$E>4mMzDM
n9NK7Pw!ys,%X%I&YH1I+/O^voZWwBA/IU2jC|Q+si>FDndLsH3F8~*j$VwfqOq7phb$4K<s5FNOrNDR5&Yw/zUbXZFcoE=,OiGN+4ex.cLR>6^SS&5.t==l
5*LGub5uTOmTKV|AHA$cVhfVf?NiEG_eO$h5U*d=EBJv*.oY3rsZ3tx5/gU342,~dcNGJfG3V.gk4X6,G3rIO7VrU3e0T1sxUIIE?>fO>uL=PDTCx=KWV13h
ywYa;!IxyiMZ3Mmu1!$<az&ZxjqceSMIL5_<|psZ;tT=6?dn^|t4v;yS.GIIhswUmyUojZ0h0y_hZ6thpot!eQ|p?S+5a%3a_t&IXB<vufa$K*va$d,rAt?P
UnEVbuPpxX2;|Kz!%6nb%cTSvDtf$?OoGvK,VY5>.I<z9w0Z1j7=/jsA!buQ;cc2BE7+52hRosWQ7=U&Iz5v%*!Sg>m5>enp7BbSvCouzGXxtO2?|OA=6Nb,
EQLEwe<upL1;rk;=S=./9*wdbyN_vVO5aeIPgr9Vudn$4gI2l;?S?p7M&97=UBRoXoC.wO&<Vqo^iGS09mFbradhxbA7W1$2Vds%F^YPV/bUp$*2En+ldk&t
IlC7ux33s3>R?ykk?BS.PVM6qIa1bezVavKguzOqYVW1>vrMYI^5wjQBMYjR^cYfo6Kh$r|z0WcuwxY28;XPt*51WDlSlADO!RctIXWwO8U.rQ>f=sH~b+u&
kV3ejw>g,>%n3_gi=Gzr0rB=Lot<yndx1lLMPoZt3.paZY;*A+hu4|^HS~962yk2MU2|C/QP02<1kIjUSpjUZZMD_ED1zk*Q4UUJx27kh_0dZY9eqR<Y&CX9
=.h2R>k=E2X,O2il3+Rt&gxEkHqe=94z|wqMatT=0V5Al0^A^.9<=GxSRF,B1dB*8&6oRCkIt.*=%yS?s>9IB,PlqEEL25vcK64v?bqtbrzt3N&7P9DhvmK/
h~+JibOBZ0,cdwc8uYRR/sO3;4QIx!B.H<0FIfq.BT%H!?;b7<4Q~Q8R6K7A5B9%q<%ZIl3JgA1LH+C6A6>zrruLN?AMq9k*ohoz,rUJ;~J+!lKITG.M1/,S
mU/<n|c,.fk+CVq=li9m!u9yTbZ4_bq|yT0GhbkqHy,I&^sB/lOOBp~cmc9E/Q&oZLck=KXJcbY!<eU&2zF!BCW;%fg1uwZ*Q|KJH&bTRd3E<QMc0x>7EN|b
Kkh;$ESA.+VkMfc_iE$Hd7|xVIB=+iL>yshTa1hqTYN~Nr|ZCCGf?VL/oH7%4lJKC*ULc07h1zVhCi74L<W9>bsjD&CvVJyxrpAH7w$kygi*8;Tb~;O.FG~P
;HIf;tsyUJDxHXd+&vPh>5ST/M5uHITylgru.E%~$a$&K2FI11|EOm21!qo5ew1dPaQOD|G5UZ>6m*iid%CBwGeaB*op4j9+bdq1waXwhk,>i=PeD8z~Ups~
HbsYTxb,w>=vc5lfFS8=e*f3==*v_k^0HE=MR^w03WHdc5eU?%k%TOua3?9C9WBycft*QNaxVOfWWH%W_R=G8R%+1JYqy>^|f^^K_RlKAToWunt>pG0PEdHs
JW8Fb=vc*$nXQIfD/!W98O;9=UPd.fZuoFFvmon2?~iYGE3oqGTW>cQnPZCRDhyIWWA%dI7F+m/9SNBlsK^/vxPGpffSJ<%=*dR;aLm9x&x%7tSsul//f.x7
kL<zi~i.^Zh$SQ;vHCiHp0W$Q1KdGBEBSoygRa.A%=>HXN~;c0.V5qP9YZ/cn;b|2gUXCS=.?Mx7!UH^w*/?/%IV_Kch*$kH~mF;xHc^V+ce~YDzZ8J>ywH|
,cgzW<|aUWNy7GCso!KSJ$<StF<2os!^RaMG_t,?+SRsqL/D$ap2k&e_z;Vsof1lILi.nJk=hf%ez9~0^4o/8R+/$m%%?0CYbafKpZ8r+H=8gUw_WD?pZkRL
*<|qJyXi&ze7IND!_z3MD*9sN,k<HRWSdrhM^IZzxP9^_I_%iZ6v4|l+dH9z=J_qBN5l_75!2!vgeJzj|GXWChVvn&HPmIY0||sqddMD2N|^qBjJ5NyNVq!_
HOuYBSAqV3e^H41f+>Ld*jO<n2rahk|$RTYA3aYRywyvaR<6aNMTMJljpf%jpWesVnYl=szrL,U7oBcrZImB6ux&9LievlP|;J3>.M!>njywR^f^lj9gA!1&
w9J3cT3mx7I1wruZa!3w$$1L8VgmR4U/;j7RY7PHsTXj%m$YU9y3?hH*SFaR5/Wau?77N0H|j3$8JxoZVysT?N_x%?09*8jn!^ikyBrCF8^^OWi|C9rNTv&C
!_OY?J?k+Z?zm1H&HpWWESY._Ffi^+Oq$wj7epJIr2E~=i.kooQzW5M5qtxrhY35kd?u|6COC=kis~mDk97AL^b6T*0OMC*>6!nbCZ0s<d5lIcgwYxGbih1X
&q6Ru^1I^2_gj~CcKOK;DLb3+sRFYzTUt3prptZ68%68EgDhVfi0U<pLw^jdhu3WH$;Dk_0f9KML1$MRKFA81Lgk%Jhxy2nBno;7.;pkIHSs,F;uS!Au2kie
bSu07bVD5epr;Dh%~Yzm/.DCx!DDT5!cBbgsUo.6pA!C;1*kq8%G/|j,$a/EV^pCTdSG1UJ1z/pGP^6mmj~bQwME=v?;PHEd?fQ<ok*uE?Feqq3IK|BffMxx
m?p%VqMS_jT3eCx9r?sFBbM!rs9MHanS~fjT?7nIrn>>GvMv<Yz|W!KVVro<w5kHqGAr4W.V>0ts+~;g~&u5U*cG<1,O^m|Wz,wp?*3FhyOgmtoW7Sn*ihzc
IJ2pFOAX*/8fSLo<LIn;~3y!Xj0zuQ1eu=CIAc=OWz9t8<WgQ4_Mrq!oP9,Tj~T=>g5VrK239_^6^NPB?*22t^,|Q/E<=k_pG0RhG;re_KxA2QF9fJDx8Idt
*52^3bfV70^~q?RCgPWc~8%d.AUfrOewxQ5?V1HG_1tbsnL=nnBc8+z6W$~Dk<fy_<HwpHzhSmFh92?gk6KLllm.0?t_Sku%tkoazjeF2Zpn$9L62wuqS&gW
%>YfPu^c%=f4$zL0>Hmff0aNpYrvF>DbJ_E3t,~yBAjr;+Ui.!PeY?&0XgL/0T,~fm+s3aVx_5Li~C_R!Az2r1/j%C|g=gb~2snk1x,$jG3e+NGZrmD9aKGj
G3XlMQ<W|MzFwewGtcW$xb9To9=$?!$jmY33SEZrHD?Yv+Gk3Tm*oH1FIRwOF*XWoJZw8W&5pkDLo^cv<6~/*^qQCD5+=pD>><GVcK/Mii|<b=7K8FdogP>N
6Q2J~^lDe8WWLXjz?<h=x8;PX.m.8Ip~Z~&HM,Hl+*<Wt<Eu&,HC/_tT|$kWfFzwWJHB6=&&e%P,V,LG_n==kPOerDzSXTVP.tU3Kd53Yil>pGf,ki4+ol3<
jtud=,rI_MbaTLG4ZXG^8mx.;vg8Dd518CqD7kEr_Ssstgw=qRzqRSE?VvZ8RsGdD$O%*c+&!Ywm&PA*O,YJh&%PW.yQJYZeVn*D&o4p!rUTioStvJ=NlUo/
o>P|LyFs!6,&FZDxeyhZOIOL$KWL=N7dk;IV=HX,x6CEu!u1|0Dc7c.*UOlIuJCPJv4$TOIEcA.!ZPipTf?wskDwQyhar6?,;n6~>i4lW,FXtaXmMT.nLQ;J
s=tFdz^i258LJWeFK%huI!,rL6F?W+MG8XPC9jx^0=4O5IfkWhK?4b~QXC7w>wpLqZjt?hCGzMhgfS4CxTNP;=WkzHpp*hLakc/w|G$J7Bm!KO/ppncs$70a
3.;7JR*ZUkK5Sw^=zasVod5Xe9.QqEoj$2Du/K<Lvic>7C*/mGL~H>;t3G4j8k&WL0P*4xxWA1n%~7xZB,=6iS;KfmhxF/hSNcyeDTcy5P0mUeucd|Uot^sO
WeEj$zNIRqXzDnf!^G27Hlq$$7Y+Z!EbU|nnn<CAC<w8V!KG4sm&/ss<FFHo0Kx68wx|Ebk.iSCFdv7=YBOjC=^&tED,8/XJ^$TgMoRB?j+Jp5s?<9D0*4Bq
4U/z0yvKqI!md$q?6C_|E4AC^,GX&pqqwmBvVs&6Oj=~GkoEXjsZ9oLGV1&yK!D96EN1Vs47mP3<*zPW%7z26^pCaxnJ$cYCy_YDW/5vOXCaDZZIPxe~k7LS
61gRo5OSmCw=kFcQ$bXHBm~<_%*i8pf0Gh<eW$?~=?/JHz,M~i%X?l43ZA%J4Us^1>r0,lpNJ=/W$Mcb6w%vv$6IJfS*ZV4^odLA<=fTO3z/jyT%WGMSniGd
SKQ8VGzt1Bs/Po&^.H|V2Nx4p%bosk9w47/K^9YKGkVpn*dvF/i/J+n;^w.FiT|uI&eTd%_LaA>kr;3*zd<G40iyE2cLR2RIid/hICxG$7KRstiMl*nDRka+
6xM$W*9<8k4y$!UkpbP.YHt%jG!n34<qxxjMQTX6Ssb+4HK_?7H1!j?Ll8P2htqGMEpQiklJDz3v?UYklxfvJ~Uaf9ZTK4Yq1bDDO?&.Uuh+%lqP~KSx9?/_
?!^YHtK?gW,w7<IFW&+A*dYzXH|T;Z|+vOq,.v82</|VoL?0*G<p?YpQJbIi/A1yfCsVC,EFqyztFhuYO24nW$kBVKhJeez0fN.t;%Xem2?lCCjqb^Lkw?ur
*<$oJ?gC55QTn,c^fCZa,7a2u<8iX$4wD5zHK_;X32OX^J4>,obMjRk=u9qBjoDvEC?yC!&+Kq0BSlgp!raa$8/,|+m;SU>9qHD4Xz/vVaPDwR%%$x71PoW!
S%K,=1Kfs$+OI4PB1EcBzlRX=I*2JYC2ptS|28o$dlrOuyFdTF7lJ_FxKi=XBcvrB!Ttro%tAnG|.5J;_Md9zW.<!2^SK0;.^xP|&bTr4QXKC3n$sx$8J?=^
B!HQUIn+y+AacFa3v.H;&JqbR<ts$W^OG2aDN;S^qTNb8oF|MBqvd/41v6E90rMbya5pIkbObCF;Lqx=vWg5^gJ1odg>^eXbtq1mG^7a3|gSEOl0*0zo^ajm
<~RGX;AJEs>hz_fP=U?^7K?1HTL/7g?*y$2P3xJvQ1h*9|%~r6iGJ$YVpJ,2a%G7aK+,6<r=IoZO11,jSD6,<JC|2%$0&ij$Rd.!wU$<!|WbKfq,;obVZ7Ri
Df4f*/Yq!|T;;BEBs8Y,X!Dv*D4%JUXOJJ;<7T<E3agj914&A%K0+0.IK.3CEZPmzbARQ*7BuBe?QShM~5;pL4E|*Oznt7CW40+fy>sgJQHBOaR<<Aod,LDP
SVQbBi07PGwP.kP64C939N6Qj?b!_AKFptR22dgSPQOx*.dN49DPHbz~A9Kc&U%^l!knvYe2coA6<WF,>$8gY?P*hMkjJ~>lCdVhhvI<TTQwmmhSSEgM<Q93
UDWYBPJrzNeNRvf4x6kiqh^nUyXmLiy5>L+B5a_dLPloqbyi1J6!dF4R+eYDv.p6I9^6;k*&wul^XA>dAs9F34H?VOj*>cy;LOos?pT|9KgS&zgD$xWj;sva
Ov*Bcia$=DVm%DQYDHbWE0wuT8WR6fuX!OMZby>DKUKzc=<;hZDjo$fb!=fn93M+?ew97^f7QTzg93=WGh.^apg4pKyhwc2^mv%89Yh9w.zHkfSpp+A1?qv2
+PhYGFWRqu~SSFp,H$k7zq|0TuX;tP1;zZ?+ajvBv2*Kmp~NUYIzqpztHrmn4OwkzeBBCVm3ov|e6Q0&M~vB$^h>0INhg$dgXK^67ZZ7oJ>f|uhmTF5~_=Kf
2!fv<?;FUx$QQ;49_n&dXaA8J<**Uhn.e~lV2xe0Lo8k>pXm;2Kg~O<ub,hGpp>7MXuO!zn0?5wQZnt>cZ$PI4.C3413,LPKN!>5Ym8!SUsh<cg,ch&3=*Ii
Xft6&;^l9|TIqQsiOkhbDsT%IfT4bTfnwOYBlgdJLoL1Iv~>NIy,ah~mEm.ZAy+FL0pi>dX4;F|K!bmpwpETdh^gU&WV~ipk5j4tfDY&R?b+Y*VQZ/*6+mPs
Taw%dTfId/?Ng<HN*wLl*7HM1Q!RyFM0XMpmQA//.yGuD9gnBOPH4=NJ!XkHCrtm/I_jA9>KdUsoQchI1VMI=hB2Tag_aEcP/?Z3b6N9i^^In%q*6Y+X52WO
y*+&%r>y?>Uy5n?FY/&PJcca;qJidct~xlj*hY~d>J9pxf6=Ki8b2;&0_/Yz!EGr<.xwaekiJKtGBoDZ4f0b*Tz<FPwLxjATW|>2Sd%vG9z.5<b$wX8AV9.5
N<kxnbVOjGks9zrh=|zlA<?G8Uq?fp$IocEFij+3Rn9yD%?cY8x_bK6Gg6Gwe*4UEA%JO|0tBnkq~Gj6Qf%/RZR1JcX|ueIS92?9Lci?whSNnsDfPE$Zo_i%
tC?x5hnLYgT..XI*RN0K_FH<%z3E&mkZjm/0eM<_E!JTe8h>3J%bjGvjwPoSFw%Zv&jm?YRtd=p+$<=<<xki;B4cpLd?~F__!zU1p2dPi.Tyjz^tRmaJrQsz
|IcP/xRaqLuukf7,X~,SOt/Y=j%dE+wC!pD=qC*A^KLnU4TlIY;zwNAr0=mPr~X7LkT_A,N37Vp5r2hsAIyZaiLP/q98voSo*8Hf/>5d8LK/~QuQmAiHpjo.
ncCY=FWCW?3mI_P6cco,!4%oCvG7E2VKl/lK~WM7htuw%.x_DC&wS8P~o7G!+*~AAqXc&tbwYu5EAnCgn=.UHE&ug*bolev,?GU,w1AFX|OQ>8PmIqUs_M|Q
>YPM&&prGJJmN;m~WmHn/>xX3x_jxq.cmxIPL/SIjks~|c4NRS!,t9%|lN2UIchQ~c70ABa+u?L+_YRQi8|g|OetMxXJn|TNYP2<&B4^tZXB~5bJ.,0uVbtz
k!pORF^eV%P<aUC%LQG7hb<^Z,~~gJ1SWhDz5uvD8OjLmlme|Dirypf<5JicD|V+sU!a4ezx1B4yO&i6v&Z%>ph%I~?WeeQKDNML1qE=&v+pgxRnRnO7MFF|
hvTnp;tXqTADc6CIPNz+l34hG^B/FDKxa,eHF,eB1u>UR2RJtybC1h7Ru0~yE;h3^wqPx||yHi9ydO=9TDgSwubc3?T3!jhXwB1,FzH;k!o^MU+4D0Vck9VJ
WwUzHI!KgVOmodDox_pH^YaMcar0bX?+PmB!R.IT7A80**b86hDbmlLop2P,u.,~*pn9u!ZFY3kxquMH$uAsVO0PTdhMkXRp1/N42UattRI&LW_kSd&j3A3H
0c7kP01T_/QUm=F94H5~QwjqX.;F.n9FTi~<gABNf8?vJ+sKD!u7S+bnDM|.vS3rojB;sw~>3PCH%jBuyl;X_Suo,LK.+,F$&ml=sn7!Gnz12OvqS8w;2<Vq
5yKKzW&jv/fO.n3cP=6ogxxb4IP4RA+2vq1GwAoobazl8wru.d7aue>rvuyvvK4E5hi?kZ=<m0?!/A;mAXZifB7V.0WyDZ=5qwCXto>?.wl5S^w9;4<e;Nt5
%pCkBVY%C5t|6TQQ9fY~%<dD+2O0?f+q^gm2zlB_u76!z9RLA/6EIk|6iT!X~Xd?wU4Ty2Ip=,c08K.9KZPUuNBqTBmms91f_E?ua08nY7hXm^iWRR1eW/J~
?gr*3v+qFqYNc1m=+E6Nln+7,_CW%chsZ/2Fm4*4bAWdGgWC$K=0L&~Z=X.3K/&,HUpyx&4RqBg^r*pslSYn%$QVC;8tSfDB=^+BILCb93jrXGv8oooC_WgW
P^Y;*6NI,u5WuApFwm^PecKb1t9I/Nw7MULgk.*lYE^hX/z4HlIYOK/hU,Boju/QB+3f5wr6GR!gd_!>k3!ET|wz%^q8$+5%A.TrecayfHu1yZ|>5||cm8DM
48vo&*YE0nGOCSlhRcf!sY!w>c!&|bp&2U;OC==8kxZ.lu.QmL!Pk44F2s+BInsem=|mOfJCFJ$g~$^d&9~$RhfOF2c^Y~HyAi~e2M0MHvNuQ<!4ZQn^jwyK
hKygbyaMbr$OEc+Hl7WD4Tp7?v0k41VCcR0TBgY%u$hL,<6s_ZmG0tUHsu!ZTDnQ!G>NGbxs&q%A!oP+7A9gPVk8qsz_82*RreNcHNI?OgrpP%oS<,^ChgV8
*Qdq!RA6Zuo/!;/hmqcOZ4>1iQNeYw5M7s2&wL+KAr>L%Tv$FTs6~!|<kF~q4hHeR+,uM^iulnt5GUv_PyIA=wW$kKxC|B,$Ka,fPrR%kMGD|pAv!_f%99fL
VANZNN+2coz6=+~6H_GC<C|k093CNZnymgd!<J_kGNsr=syzz1s;gs?YsAb4tm=WyDaY%a>dz1.pZxGBa8?tXBEc?0aOScdrpG|,/3ambdpDc=L4/62>,XIW
8EEL6gnMyfF7b=6NHvh/|QG?~V!2_Y=W~sxpsZ|tr|R!lq>PT.Rx=D3,3JiD>2fD&Xf+Csx_LgrdQY~ixbzBHc_?%!uk~7KtBZr?bl~M0ximE$|it93^j;a!
pk^zz~NrCMT!Aql!.^rYG94N$LXv4icZ5n2vnp=3Z>H_YtqacqFqlBy0t054A$?fqRcXx|QeVyIE9kv/R7dp*>rYn4Ypzz^tB2?l31UC7mF4tou/q+v?!XlJ
pQ?&d5Xi,nO2,QwUU/,zZ2%0g2WU9=s>xX/J>|mufgo%^?RW^em1Zrt,k0qFR<7roUN1qJy%flfof9;OM1bOhli$Sf<v<mF;=es7?^Hlv1nV6WcUb767CKNq
6kjBs.wAR7~v&V6akm=YhMGY3AeIMru/cpv^?|Ws?FqQejyFYk=;dRQw9CF/cnky/E6juRCvxDPQHZsiCAHiOh,HGCLfT7zE*qvN>LIjob|_RMRcZ2$k~YP?
|V/4^5?BoJPz1LeAx2vqrLY.dcxA4G./7D0%<Uog6bB9Cg&IU%~66~zi3=;Ztvnf9v9EK~VWJ?GNBRL0f78fjldjLp=LhYhXPDqkb5^8PYr?qdywB1pI!qSK
8^lg_vNsWo^xH4q~nKr~PYxx$,ck*ofyz50<N|^1uEFu=&GWl;R>w,bI>D~f8bSmPVcJy|=RAz*=c4Qq.~rSe02~6u/pba%3YD070n,6NG9dDGvpJ~y.h*cE
Id1^rLjC+=kcUb;1aB<a_QpzULf?gkh3nlhc4f>K%KB3htsM^k&>BFc,ql!0bjNzSTCIqB_UFuD7aUtbe.g;9VQ%q3.naz%H1+kG_R|UC,TEwe2G1cy8=itH
QE?TC?NzhKO9L_|ggP~54tkZz.&pG23o,f_/zCWoO=7E!oCwMD_CErK6|>dvt9|ddh1,qw%_qx&6>u!!GzbGd2iG8yoM^W%/B|NJ+4s62kkwL,HT+I.%sPM6
+E2*VvQ$<K|dFt=J6Tlhb/gKi7$NthN._JM$vvQ|Lbcz1*+OeJ,qRXfC9N8O$ZQJSm2_f/W0Gqt8y3kh?l0~_H^LB5u!&wb%g+_cfmLH||d%WZKtSq0~W^4x
XY,%?f7Deq&cUcE&WzfwJ3V,^EAtEQBCr>2&G0zgwoDlmFcBi3=!egY,hSq*IkLnf~yZ+EeNl^&5^1i>&lMfwIqXA4O3MAIn,mWJIfg^/D|t2*b0CgtDlaRK
w?12kb,U%ytROpRRMS>SVN7hxHlVtu0m$K/l/^WNnNvIe04KFI4kXJ$0|VKWD3Yt~U5.g+TJ=4PjRP;iWhX?vS|CY>U;u|RlY/|NFQ^H6y+Y!xwL$,c.q1z1
YsUwsye1t%J=FWZp?WRm%nbT$a=/le85_=d;1f6A~lMx!P*A.rk37_LqWPWaBqbe?^E928uN,kJQK9EY|72l8yBi~eK*GE,nvsFq3d^qzsJ9heyF^!bQ2y=Z
IDpi12c/cyB4F2<aV>,cCDOGaMhkcThrDEIu.PtP+IYSU?UC<6~pcTwkK,p,^9RHXFbL7qg;Q4uj1a,Dm$EyV0>?risYnWq4cT65=nn+pD31?s0%MxCC9*og
btDzj^SgZyu+j%VB_SQP/CMf~++tvePLa>4,dU29N7&7r%*OFIT1hivm1q9YYo4%ftRWlzYz0>KW~w4vD0u4jHTU/X=DGVpowlsCrtvwLr.LzVdVL6cl20?S
SEf;U17fOmc,VXzjdXo=Uh?t53o5S9+vkx%7P<|A*^P%Z<>PMqRcxfvijb2F<!4^VFAQU+CzrpeL~;D;+qrN++_jn>.Gy*/~fVRLdif*eOdZS>KidHDDI+gB
hU/W2yAJW~W^1>!IhSmXj_1%|4>I&.sOBQUmt%tF<fDpd9SZoVLCELkg7nB7yz>V3%7S_^KOV6,mpAZnu3+xCnSL;+*_&_zGtr3DTUxJhgO&gRFvk~jL1LE1
HJ2OTUnot%!<+NzGakI+?EuUn/bF.>0wKeVsEPh0N>NIzJX1A=YPNGVSbDim;$Lh3J3$=Cenxw+ehtuC?t+%E%j9.U;5aiGiF&1<Fs4|1fb_^08kSMlx5x5z
1%tKT$LK6Or;pV1FD0EWI!|QWB_Q<_xcCQpIPdwh7_r>+ToxG|s~^jP4lVnG+ZSuNumtUaF<5ZdkAlJeulE%z9A!,UcqJsqHDIwv&Lwl~2mVE|3VFlk/lpWE
B66hD?W/LHN43aHYO~TN&8I>f!P1+o+l<E&8?L0$4KG/%TVgXMo8kUDJMgr9pk/IsD.EYaUUg/_/fnINh37z5F~hu_~sB,wz_2<=MI?%3,gsq0U63!3_!L.9
r*+IgNo;0UqK~zh=qG2HwP7/c02QA25tNi4+ilS_od4%|tEyOy8wNzUUveN<FUOvHmL,CHK>4jS|ufX/o.V=<C*P7yKxGNshvLx27wM>j+.m+/&LhWHWFPNR
SJ<HCUNQ_Eh1D^>HaZ!npQ!kv$8NRp,$j7MRP5IBNKpz<&41M,YcLIWbv4sgb.5/V4si<=Vb>N6soCz>OWHsld2kbtf4SvX28oH!G6UW7h+f28Q&Pc^FPa=Y
AGE1.lqP3Wb!RTe;A!dK&8MgC7mnzGSZldF3QA040rK9cUiyqgU3D2yNG*%;QRopzjrg|DSDB.?,CtfebT/F|f8FJ$_ADIwj8%^;/B8_|d>jAl~;j?wa9,i0
r/K$NA%EH*VIn+nLY8UvV,EbSY2>2_Lb;4dI_+aGwc17nR.tjjfOwZ^.&EsYm%;+8T3YdS5yiHW_iG10qhTTfQ|&R65Jd9WCP&6^L6=|jz*gJx>/4;8NQvLm
Eu1+;mrRj?.1pOEC5so+HyOXWGbl9;^IY>$F8>iK6Q!,HQNRybHtCvn8.cxe~nd;WcrcQZZT<Zk,vY?Kfc,2zgzg;1~+.i^Ho1A&9CK0nfcVjM>M$j+BHjzQ
nw1X_NN.i_;zgznJcvL/K$Dw+Uy|QsUSo7uspMP5_M*jj|Nv8hmueP|2KjlFT;?j5VdRT!PlO&p7!.,tm+ri.e+Jd/hfMu$HpxyfctgN8t8=PPISD5eMzr,J
.7.6Xr/ogd0;/LP^_;d&XQU>cHAKEcm7MVqCzHW^?n?AC;u>oMVUuPWrV/5!1xX08FU0i|+flrGk9dnvmI0Z&VezGr5J_w08KXd6;hYo_W,Z9o36H|7!EPI1
g4r1*k8p?>X,%*XhJsCpaRH|km7n!kP5SKggRX*o<6fYa;>.PD!L<0==sUZg<VZ%_.,!,8^JORE^rrJJz84yrZ?y=,M2nXkq;=cOL%QP3tW_A*2U&$jM7vA*
EDcq=r=!/*KQ$ypLfj5u$AFWh~_hTa>iF<Tt<%DZ|1~0uOz0Lle?Ll%jA.RQAe5Og,e?l.^+$hB%,3gH~N1^Ycm5w4PSXZqqqdNTiR*JaIYzbTO!mDq1j|Jd
cpJw*bZZjRRJT1xD;egK+2X=5<ct>W&&<ny8gnlro=t;IIAB8|~qV;e*;BTwuh|AfJ<24.uHcj^Nub?u^DA3>v=P6hcSplS1g$<rDEhAaxv.T3Qj&^^D.oq|
MI1ruDT^z$MhXz5rAplOY90g<yNGzccnQY9tynSB1E/0YGEG5K>D~GJCujCT0d.Ab5qVSvM%NRvXj5R%!NT0/ow5Lud;V>zNg8TE$P~=R*Ch^uu,?Jpdz8%!
cguVy==Vna$YQokgqTqFhMD!j<8<NKR.GyZjnq.bRqwS5yoo0ZPb6F%?nozgjzZr*Hv86Pp7|sFPzJ|&,>?S43j9t/BxN7HNOqVu1C9O_^8oZ|w9+C=!LUr|
S+8^D&2+*E!kUAIUX+^KC4,$gOyP&%jeOXu41dzM~oWE**fykXHRb^jaJLHde?S7MEWQAl<TmbuROqAVreL!Z_6BjF&r|7Xhw%3Kn=~/nmp3Nz8YT+9/a+$w
J0IvI<HFYBOn=42TmoBY&V3O3Ilj<jL0A?GsQwL>$B,G>$,,ua7wwqc^gMg&UmBwM0n14j|Bc**caESssV2T&?RZ4lq;e^DZv?53bpu=8,KN&>N>$s1*F|s=
uY6Wa3+H|q11hz0c0aQe%>pSYhWCl%H60%%>~%xwQSZ0B6zGX!bo9+XrdXt^A!EtsmdJ8t|55$b6!L2h&^D7!2;?GTn4hr34Lsh6.VR;g=~Hbrvyk2Hz1DNg
7>jDIK|$0jq*i&7tvoeEUH8*_NlJpdCWQ<>DqEowD,P3u7Tyqc$!/ycC*kM16w>eDE47NaRgTaP53d;.VCRt~_2e1a+nkfgi;<be&0>mg%&e5K&^6ciKBiXO
gF&2pI%i_1qgb7M0HUCS+xE2Us^>iMS=L$UARX5c0TY!gb=4rI|tYN^%KaeH<9QhNsUaDElabf&7Q5Xz$Uyf5Sc>n,%sA4;?U<D/U6eDbQ^v,+4?8Nd$vuVr
v;sE$<r4+DR;*/qpEc&4NRFN/wYoc4>xE_AiMfU$ogoW8q~?RnrDbQwW;E8|mKx319~!BR_yzBn/p<61gq5GN1wlZwffRrS.zc$GeFz&iN;nK5xdvdv,t6~^
$%&X_o%e7g3Nz5pT;im/SbZT0&9!S4sJJSbRrO7NAOP=Q2bC~w0A,lTqC3tw5sbEKIi>MW39.iZ+%gW;CHW7o=$?%K_DnJ2%Ou*qF;0MtP2/$%|r%DnQH,tD
+*V;CKSo^j/wL>rwUA>A61D^0ueUVeES.&|_rPnQgGcD7j^rstoGz~_fBs<8u9p55u14k78hYT_3<wG_0b_IARY;~I/YFfsf8T^.Ox58jGuTDq,OLUpF<e$1
e=e_oQDVydt$a/A_IJ=vaW!yT3VqxmPKug1OwjwIp!?&H?Mn;gpOh<MJQueDv~^xXBI;UncxsPfI!%XUUUAC,hPLYJZ.xc2nBSvDK;^BbpR5Bn^RcgZEvvAL
kcsX$Tb0*?nJ;<VO.lSi19|i$Wi7r;zd,~sB~JCWt4JCiI,.9Au.g3ROf?fj+MXq/4Qc$3LLtLBrQ,^Z~Yy4Mi<y&rVQvvU8=bd~xx5PckCc_CMw1+UXkSnr
CGkMK40k$*eCMfxlk,.khF2iig<GKB?8LoadlUy9YxE+>y1BaL=QnVcGZBWRAW&/Ia,wsZa^i^jxU!nz?agt4Gz~^,%&5!zh_Qxc.vqjlH4/iS>7LR?QH5Le
lB^K34k_2v=O?6U>B5d5RxxeMoTbF!b,<o7xsLs&COYK&%m8.bshponY?99dZe4~>7rJ$4..^%pbNKq?~53i7r0R6Q~m9tzg!RPJBO6FFj8h3l/Vn+7B$ve^
pS76ygqqL2^?uuDJ?EzRb.1ICygy?BzDwqPyxVd0Q$_F3o%SCK1+!5%q,TU+$=*mC5;cDhd91D2|_/+R.8sA>eTcCs2+J5G?_>CMfRJO<IMP5vA;J1Tcp|IR
eqinwjm7~TLqR.9;V!k6q_y%!6CuFsphA09><m?l9cP%^pFd_w;JFCVC.u^xDdi=/X7;LfUnwfzRHiHzbG$z&.>/TrD*qXVSnIYE8ZcH*gT3Pe4N8ju~Gqzw
?0;QP?Wblg&rqUL^9$i&rKS_bMH7=/2_<8dGW=qu0XHEW%p.zqKxv?Y>FTDvzUOHZBF$M2Jw<FMeBWSK!Psh!ol|F3t>in7nUyJ8SMV7hFOIhkMEx*jZB2Fq
7?/ZcVO!gxd9>0^jUVmfC/R+N4WJRnUelDv9sS$OAUl;Z1wYA<KEdpKTkgfq./UJkmDoNL^.vXyS=Emye.qIy&I4=R>sMK**r;>o/I,eL3oo~%EKoMJqLF&x
?,gb8,fg%*N,lm3dKWf%|l|4&KFAtbf$k2yccqq0&GrWC$yBXDZuZ%9n.VIWZuZ6a=deBPI>5G=S/L%Cj1PuutpVFv$rP3nzUN5Z21*zae$J+fMrgoe6J!$%
>DZdTi*c^7LQOTfMU~V8ZataEbBak!jePY&^cMr+LSo>Y?6egFLS?fDv91;_Z>tZEm0X*H1=2?6h~NA|Im6W|?,upxE$H7g^rF$cGc>jq..8o!5C_ruO9Ew%
0IgC,7uk|+FpN=x8A=Su!eeruY.Op+~95P!^2f!?&$^g|5w<YpTXY*cpN;?LZ6wsYtv+z~<u5sWVKZNlK^HEO/t+v|DYr_HB8X;3+=eFo8OKeVAIKAbwEYzt
PT|jtt^y!Mjl0v~*>f2fglGYTHZq_jFAb5o6cAzLq*~LIcG!.0CB%$!+y,55fND<LP4Z$;^*V!taOo;jkoKMZt63;!_inWImZ3NvkPlZ0+3rGuhdX6eyT,zp
NVW;q?pBKGREhp&D4VW?%hX=V/Egi8Y/Cuz4G$mFb;<BQADyaHRcS*b*gJ06v;vJIWoE*39RKSKV_9<r7T3;vD~rX=E;D745eN7=xT&?dRiim!w+d~7F6La*
xY4zknhrfPfoI8vEspE/,22epp?e3KC!W+e=$thiQB+RTAz8sxd$W+;LbjIZQO!=8s3,3$J?g5kVMdjBGlSkrtqpFGK=YJDD6l8!2SrO6^y21q7KXTCNXz!1
qxWT<lbblXP1_uoUscVt;5qf.6n*Xzv.vkBbNMRe2GRQC%IP_lx8i;7$K;TqEY3Jch2F,1..y2fJk/8Mt+K5s.gZ9Lw&LEX/;Zlx,MR.!LZssxBO;GIU^n2U
&PrfsxOBh*W|$9=w%.GUVS.KoG%mcAux!;pFzG64V,qv06^+arNg.HJCA2BADuBOjB&e8;=Vdc7ux|macjTXvz&X*&^higy5>PKIHhoU&hW=>BUShodVhKc|
FSv,7BH$Ft<U8ljYza5|%?dyxYJZ_>p&7&UKMvT;CX_vefqmR8RYGrQtg+SmE2k&&y^_w!oEr5!&Rge*&y;w.s?Pqkt81X;7IR>AEQB~uQO?3.;goP!Bz^Sk
A~%GCreFi>PmuA6BKw_Uf.0z+~3>BoUkE>&M0^mQ?BJ._EP*Y%xJ*Go!NPvcR!8,y/L3CXrvELnL=U5doj9qQPpT+G$PM20brgw5Jv39d94*Wr0EBGJm_$D8
QC&3q,;gJVnAu5HhZ4q,r.xJazI^n$iOl4*p6Rok5l3_3nzqGp*|IaPL%_n43E%ybPKt<&lv^AY3ujf06cU0T?pBtj>|ry>ZIB2wcA?3&ZOIG+hPx=kub17P
Q0GQU6Hts6^B<f4/nh_%F2~D/hm=FTrOS*VY_Hdlvq.aCn2*Vd4<p_/_KOVna==Pj>v|Yl*I<unr8AYU9%iiceyxi/|ohzbM=PLAl&H^uJksfA&m/&R8&bMP
HQplJqLBW3Mm0DxzMsNm&u,bNmD8JO$2jzfd8vMS,rgPZ|XOIHaTJnd,GDL%*KwHv&P60Z.QO+=dNDaRH!Zps=ABapDe/B,n!1_YfBBlfQ$XGIFsNvP7ukjI
yZq,?2a&5A12Cwyla,HjD9~wz~uC<fN&4+49nMFDRCU803a;/zss5yW8397VWw!9h|Z7?yZDH~tc1L=u4&wBgLqiCJa,qS/=ga~RQyapaVJSw_;xL>?RzPSG
iS_T+R2~G60s~+wo4Y5?F;_zdo*w??^w|y_Z=2sH1iy8<Oi.0%uKc7.6MMMWxr>ikRL1<.4v?tU,6oCX*npWRTx8nX7PlU~ZmX64A3t_*vDi65tg?xc&O+&D
d&&eScP&O6aK;u_<kkwNi/t!0C>a4|=Jy4ZvVR$TsQ^l=yQZoJ$Tm?rm2m2>!LylO^Y!<DM5Bp39,z8b^T8JExO2<KOCjKH/4zg~<$P9^Z,Ll1e;~JRuiWD0
nB+!JHB=&.6CHy?f_mu.kfcuqLTEfP%^f0yt!wM<j>FUa7aIXJKRg,M6uzYNzKMW=2*e<Qg*|=7I5Ts6?GgI5nk11B$p,<6|lqhHUXS&np/lDum,tuI,bHB|
.Ww8A$|2TTNo0%YuFM%*fcM*mXhU%iiMscri0>QwRxvN$^i!>2B^kw>D/DV=?CDc|?qHudid0lGZ!eCT$Vd7gz<p^ruiJZXwNIc72Sx,d&r7gs%GxF$uy4F,
g8Rnked/TSYNezD9OA+5h6&j2|3|jkiYidH!Xu<_B6^Xw_DyKMc%5|E~;L?hP>+~f!RmMdpyTrwN9hja;YG%PnXhs5rQTi?MhaS/RyUp~cphef3*UL$hpg0J
*TcUR9gp1RI92IN*DWRNeufQ*a1l!tev;4isyKzzCz6Zp!+KD=EV,5SkZk$q5_Y^uVxnd1M9%Fwa<mDoAn$AsfPL&*t<7==tVxX2j;&O3Xgrj9ttD7G$6hP1
pO!59+?r.!.NjD0&FuDX^zbtuQ0>eIbD,W;^UfcP07sP37S|zF9U2Xc7PESR>NzXA>fWsl|F<Wn|Nh$i?dpxopqtTuUBLSHHXoFj~DL*<M*_aCX*b6RRAjI^
.T4&>AwwvDx,tPiOvboH&a=+kNy+=ZUwci^yZaox6aveq^v?eC.y~Hz,pcQ!,<*o^?5=,V*?F=NcaI|zUN;&zJDfdJ3Ha~cb4D_DIubDw$VNVW~+^EN0.Vbr
,.>KbGj0353d24QI1KuW~Q$aqS3Y3ejpr2>IoU.w3.^m_2Uf0TC*Y6z4a6iokRU$3qGUULJZvljb!F/Vt,<MJaK%k=7|KR4ke1B|0|rg%AuFn;vDVB~7=Z%8
OJ1O?s9_.&+R?;?PL_5Xyga0kM4!KE0HXb&9?J&,wI%zW7.w9jty3ca|dd/0OcZCvS5F|k;MyJgt4DfLD2T77/;b9+cU/QP*x!3_H3vUl$~ps9Aq..P_EWjj
h?8J.KnBGGnAyl5;del0H8Y0>;E=$k|WoqY7KED7bcUMwwH>Xb64,f?dz.l6vzoIHH?T.CQb*+5hk9%~q8yJ|0^9>kG4slO^F0c*4k38GaFgBo~AH.vWN2L4
YC~~YAo8c2tcpkkwCfS;L&WiAZe*i*ggG;nRv$RtDJg+&cIpdSKXVlj2>rM~MwYdj24He|d=>6AcrADI2Of_uvI|.AA!VKf4W,/TEIUfP5U&2cZJ$s,bQ2MZ
w9BXJ.,pibdSdH>Z%w2piDuREOPS3Q$DrWMY^nO$v+R1l20GTE7Qj>e0LYhZSXjWr&zVvRa+cMC9Qpu7gWj>x!&39ITh!ZOO9D$2A+s5Hj9?lSENfgxhcW$G
x+^_xroZ1Nim>,,N^6KDc7ck7t!mCA0/ge;o1M_bNq!I2p=2C>z.58~M~7h%WPYz7rT/e2Ve1S$tx!4_;MSkm;$~,6jZ1T*LtT*rz+t<8j$_8aswa5T5/+L3
pF9PPzIyR!7sw$u,iTcsOQd.DN4*JMGk8UXAiX/KE%lx.wPCqiE>v=s|662P4Av4u9g=TyEnDAqzLbNqRX9BuxN43Kub8V2xTKoW7fAFL9TJL>Pb..Jva!4D
jBQHq7zC%q_/Fo%vP$L%o<mY.>0PkeNbb3m&F&R<j>*C<jvol5Z.iW!h+N=zWQ.ZT*<qK9YHUR5Dm<U&%*DYxr!J9x,^A0%hF%wXOAB^<A+?Pau*9VM/c1nx
5*Dc/<G5I/.5bAf>uEHj1!iyXtK.o2+?s/;0Csc_xnrKszYs,<k5NtLR*uZar_OU1lHVHFSB=YUYll*Z0f&neE|=.65c1Uh5m8tyDP&;suc^A;hsVCNi<xov
+6u_*g&13FB*51dOlIvEB0/tgW6m^GPG<ePGY!hg$>OrGQZZH+VJ8XhudOWrl5Hl_+B*OroLMvoSPz.cPib%NkJ$8mf5EwdrE5IKR^X97B01;/bV|0k&nr,W
_?ay_caT$85XAak~TaFPdy0hA+|~k0N5vS_tJ*dSOVKr!KUcM/S*J=r&!l=amq4qV1qgXHA.6lWM$h$uo=_/zts?I3ZW.tteLZVT9pIC|d<^kZX;VUR1FvN|
YJ9Txo?<JU6>g?x8PHQMSu!i3=XC/hy;3JqsK8Dh^vAZ8$mQnT9!0ry&hbn=Bwyjm9c>;2zuPq27.~7klLAipbzJ!Bu8ok^S?<=/>p&p&==|vS$g%lkc=j3/
c9+psk5*RB/9Kt5dPLUt+nr.&TT0|r^f**lflO=Ky*wC8?Tve/pmVo.|%f&S=ddAIby,%+9goV?=P*3gpHjv79Nv4t&WNJ^1KtGOXDs+TbILl67VF*,OD|1j
k=62AXbg.rFWAe^ekXLEiwxrxEF49=MDyR.,2<%Bb>6J5U^veOJ>XAf,h^Tl;C?2v&!FUV!;n1.*/?.PmgFH&WwD5$V.WhN,cYxK;C9J^0!R.PyP^sUprpdY
sZMxiHOyl;O=azwvaaRwq4<iM$O34JCo>3=^ArR1vu4jvdsQ,SNwjCHjaM!cvahFK4pw+7&H,p0+B=S9=VT;o1vu7nwzm;ubh=F<bS/tzD0q<KP/+.<h9s|p
3zcP.c^AA7N4K63SSjL>C0uwpAC2vI|QYmy?X/IT_!ung1gITr?;%YDoeloJ4D%pP__?&|6P73oAVX<xdzq=pvw^X5_xY66$kYbremKhlj2CHw$a+8T*osTI
1tb9ex4Y7HI??<1QmeC.QdMfgSSf,Mk?.9Gx%7K~6ca7B^+OVpZ.4gyj.aM$E?Wc=*QCr9uZazW>0s;MxVaot$kuZ?=Rf89XipLrwsSv_WAbB>hqE6v!!5Xw
Z<WbdM;3.NZ+kRDg^y|H|7k2Yz.~xvnoQpb?t%,dEbhIG7fAnavY38_pe$Zga+JJ64gAJ5bihCg<H9ls7FUt%53Jd+sXkiUYnlzu/oWy0>e3E?4v|=*>N^DU
iZmIYt|ADZXYW*o>yy/6Lgb|?K$c7_$E=&&>8T,|ifua+L2s.%r7<X3GA~sxSoVwS29<bKPsvxWFrD%Kf~0k.thjFYvYo3q2L$q9ggNbq,0f|C6B%BJ8%j|z
xe7|N<.R8eK|n3GB9bGM?D5^uyJpZ7^Xy5zfFcgf~q!B+**okV>B|YJ5qejwA0PIqToXakraxuJu^$iWt9a8u%ECVaCX!9w7^gGQf|a^ay!S3+QJAT&FwH>v
X,HP=ea$JF+Ibt~aD%BbxYRL^>!uH<<BhQdl^;jS%Ro~F5s4imO.M4RI2jyiO%&KjbY7O=K/jhYna4=4G<!qB6azh>%B5ZMk>;%YH>Drhl<RIFUi%7G<|d=M
cG1ipP0zAU~iMYsLzm,Gw*pXB94CeTB7VJtt<O$^EdcR$U1398TOcojQdw3mL%?3*bt1H>5=,KBkwkeZod*+*4PB5a^0?/2SP6d~I>lWo&1M?vHEXU!CdccK
WPW/>!n3,uujc9!jOVLmeh&TIxXC&,hXC~|v%?bU$7C?D&qta5B,nO+=NSa<eK^9m~mqNVV&iAx4B|ljR/;C9Q!^0a=oyn;m<DE^1ePuwI^*ny^q&+NMS;nk
88,KM$BdR4ew.T>,WIOOu*Z&<JeA%i=|^1|L3%dU!YQu7YDLG!n/^GwbS5O?kbYzW?|7jLZqv_^CI/wa!&57c;H1Hk>94y=m9Prsz<_.evBFQfL%hC^o*^vn
|$ybr=^4YIC*Sx^iZsZpGOSI47TOWEnF$<!Ps9>E<Mr7SXX7r+c=F~Aa+Xhrsq=UV&qS1Hsm5+,6Tlm+DVohlFly09_O8HSfbIID%MUP2RvQ0^DOd|0&5gdH
DI+0he2XDxyYPmtc/Oe6CjA_>K?;xo8Iy3U3j89u7Z9~nLiaj*WZShs6Qr0u$q0*^TV8O$a%%qMi74GkvQ?mvk~eGFtEYsq$$zQ=sAV*yv;H5!gV&USj;OKX
IfJ97jvOkN17uRJbZNiWXRcnuK9hMsd=l37.s/,16alX^rY;2dAO%x6Q&F,hJqJWYANrh~%4Ut!3ZXJ./Z5ujXcaS?.*mz*d24~&ZQWybL|rZky.3tNEN%E&
|>T.O_3mjC^4zVMcEY_|~/^h_^RZ!5Sr406oy+9hp?+wK%+o|RFtsbzibP>Yg8d9_xGQU~_Z$ZXOz_piOTv|8=tCBS/+/k!BKFce|F!9D_9qJ__OOQLZ0kks
pyBEB$>>HTCe/bS$RDZyNHv>H>r<6u.HUx^Ogi$*<9dy6Af_yFRqK^N7zKkA6y*!_bD.UCC24=q6M9r+EzHKqdg.J?biE=.K&wB4ED+9xx1yZnQJ2&gLi^81
=DX6DK+hQd*+2S>2J*gbIXRn=~PSqu|7^~C%^Y2,k=*X9cS,_NfCpJ^fU2k&ddyLjNjj,6xb<>4X=$w1nT9|eG*y!Rggy%WJtUyyIHs7EI!j,NsE~Uy>DBSc
LdWb8K<lVMb?T5s=<fN+&QQrm;aP;?LH3z<APr*FQ6b?v>btflDXW9Kg;fMl|mTH+$y9n8=R=0v.EO_3,q4~~RY*XV+gLb+58GE0*s?>4Ox=,EzD&<OZ<n*.
BCn=Vawh+|p^vrOcL%|OnU/EVqfY>Rox^*P/ZfnEs4XQIsR_&yxI/4O<Vl=tXU.!Z?7&JA5!tm&l^SuCf/Io=FAcGj~9r|h!5PA^qnkk3i|TBxJfK1zRk?lO
t&3|/U6$_Rerc8n4&h.Fs8Jv!JFWT*.IR929Q64P5u4~__cRf~Ii*lInPM%u$lvdZJ7bE>6&8SW>%.NyGN2|BGHT..qqbGHFv_Vz%B^Jvk,ZjEw!S63Wa0Uo
Q=sy5%OMyda^aIlbAPMG<D$el6c?hbfJsp*II>z9Y$%&Se.knLTB/zSzm3gfv~qI%50;^dkGis%lb2I72VO0EyK.E%3LBx~n&hCpj>VOa%4$HZ^+VTLww7Gy
%H~nlG>!_qa0tFKRNhm7X<dc7mvgCT!2fDdwg$TK,C9f8R*YEe&%VkyI^EB0kclpBo8X26Nvs%g1*U.7Tf<UKo37sVdoI++9$Zw3*HybpKpf_Z~ROqd<ki;t
oSHe;8=uwtp1MT|Je~9|I8fJSf>nU%H8fJ<;g20J<VgDx,GiLe4__hbV^MoWfE;O0mcG~3YfEMjqKnu^m*3Q2wJgyVMLIuj6h5~26n!HN4lI!sp3f&qxhdU_
ycP!2CsmeMX^3ean4^6mJDOfziOkGk|mvvfERekSLq6n7nnZ|<xHz_m?E1=Bm,7YQ;u=t^>^X~|KjW~r%1cFL.Zy2pB;64RujI,uM?i%^iMd|RtaKdW3YDO&
WyPxH0W$>S|0eb/xMjsY4djk;AID2NI4v1Y?U%~BL,HD6~u$BnYD4r,>ucp7Y!P!_BO/slX>c^M7&+9<vKrHG1cLO8KC*+.di4OfvXlMdW6pByEm^3j+S,sy
9x~?c9w_!c+E%YhD^o|%cBsGK4oehei|v5Xn/LUDqX=&eOnDnZ%FrgpK<|mqkGEk8m%!o&Z^r6$5De&sp<JjPzW9l4kKQ2sHJ9Jz1V2Jj.U?pcalWNbdRAB&
KZ>p.65eV=ZVDj6Ep2/8!l19J?e8HP?,fpXxC38&7bcT%KFWMhk;tv=GRMB2B~V~C8Loskx=qpHd;*lAqi66~S6Gio~HIaMC6JI%XPrUcCEi>n5kBPaRFSPk
08vwahSY%*;mzyU<u!<tCIm2Se9cl4zOVP~Wp+|EpBcYLDO6<HUNpoGhv3B2v|MBfKczf.Th.Nl~Qn_,7ZkPkOicOZ1Ay*SDm%iw6L/m8+rQ*6olWTftK*=E
U7u2wZuUr!CiXP0zcxM0>8udgHGL6+eX%V$yv&;CgEox>GxaLyDmVtIPi;oVUY^^UrkN*+Zb;lO|2Hxkuz=~GPXYT|RKP4_zd7x9w?KAfZIwq^Hmyv+=%c!_
//LsYc58QZ3.u$>dt/C56Y!RboDS^QTU7c/kEvjx;DT6&$+m=.sF!FgW.B=s7LC7Ywqn8kEY_56AN,2|J=4l4^5evDza?Vqn=;6<K9FRn_&7>FqF|hw0eT/Y
obEMh>qbZOiiez/w*>fx.gb140YR~CJHjyn0nXvvIi%QH52z,l9uK$VQO0Js4dzQms<jSVNlSY$%2qMY|!olGw^In0&_JpQcF$i*q^D2ZeHr$QzY=Cq4>ol&
C&*QZEHlzpN5W!UZuoQ,~Ygh,r<4<+^.%e4HsE5,Gw6=gd&5UR.u^z>gke<dBy=n*Ta$^CCWzU1qhtv~EV0*os_QRNPNdc9Kdo&G.Z^8T+slDlXyQ2fA5N>>
mxx!9e9^T,MrRc6xjit!>RPUBW;YvPDK|j=&k3.8>D,^R=^Gymmtf_2Q|bcNm;yJ?|$75Whj!B99lLQ8BxWJJu1y9zLswd0>KVrC7FFofY9^e^Bu.?vlqrwH
.J?qnQd|&87YtNhF^PC^z|L&M02E&&Em|1B!ZZ*te!cR/T|M<lpCr$dNsDD$!W7v*9bkkQ_J;Pzp2Q_gz86rr$4c3<w!5oVmapOrZ$HnN+791BM7K7gVnav%
!a2uD;0XD?Ikruu;xmw,2eMo15=orYq7>ReR6G0<*Le6iO/WnbJrwS24%7O>/9*//cz^uDfo*0?%|eKbLlcz6LKVDL^H^ZfDiB5Mwb,$fGhos>ogUadUn8Vc
iSZW%jFI~G1Oo=OQ$h1Z!YJYJg~Z_t%uB=<?Gm|;u.UkcJ5;pdQ*bsXqZgdOq4p=D+atVDJ!dte1pJuWNcE1Wlt13u=.UfioIDr|%YtEO7ZO|_ISh==LzJeD
Hd7?ekU%b8SdA>5MZoGp^//F$Cuu^3.B6vm;Fi4;%!f%qI;K;3bNWF+3qyHXbQly8Sm2L7bdLK8npsnG>8x$|GT|87DZO?Xaw/8|~^BnQPc2BfXc5=1cs_x.
CKeRt%9S^c^an6~XU=X~%F/fY9Nx&paX&A2cERfhq>btP0Ck_e2P>?zkuFU|Qd/Gmp|WJNM8gZX1,f3*~WriAlC_vDX%?s$R^z2^hbPrjF$?Co~fD3?jk^<D
WH2zRu^cGDm&N<ap=f?YF./4vNDBpF_2onoa&F3x/*u?*dV^,/l^p0BfEUEu+uv!FWn%$^_rXu0I1_A6x%WPF04xzcd7pUEsLhDz*qFQwtuVXL/JxZ^e/j><
<Of%GUxTlzyr3Ry,YhXz|&wY=SSZ~b%;z*lQxoxzjziiD0oTxQhR?jr^XF0CChEpEor+zhYa?gvgRy~Xd~<fOkfXu4S3S>RXnvLeXTXQKJAzY8m<>N68dki5
x!TVt$ywe|<MubsL%nw1BZfq08m*6Py1WFQLVHb=BJ~AeVrK2<=ubl0oY4l5!,;B7~b7e7y|sQc<cWch%H2dY<=S9ZVE*,^.75qI,U82WBeuAt8YwbFS1jDp
$D<Y%Cqc%00AsDq4q/,&v1m9^^tVtWT<t=urSLf$SXV/o0fC9jqdU9>;ix1HtppJ=3_xFxP4pbTe.xTRhWRsu=0crzyrkOnzuNSv12%RVc*>J=3QD$qsbe5>
xSk_r.;DptPrVrk^xx<t2=I%Ly/yamuneF+&|OvaKcpv.or_Rts6.n&Ro9YlB=k0%!fXtJ~?cL*UGt+cH82L40YVj_8s0Ua%CyxoEZZ6fP;Y$CZ>KccxivKP
_+=aW|Fhdfl+38ijmPz>$xAbf8V*rPE/c>gy0B5.a411L|%mJc8!OscnK70FWk11V_h</$lX;,ZRd1moAKxHuI/Bgk?23Krzx<.!I>n,HRS_79rcr$cY&~pC
TGfCE?v7npEC6.33zVw?78DFyG+GET9;u$bGnLOIfShAn$70NEgdYf<;rKyWf^qX,zQQc37&SeHX;L1!VnsR+r/Q!FZuD$giCG.SyXO&2uq_+eV=wx|diRjm
giGG=c?jeweGh,m=.jn8HOH1ixw8ri1d+14~kY5~6S_7N?Y89x.Lh4*~vX^V2WdywF!;pwUo0ya0_x,Pv??OA/x>lVP>0PJ8y5Aq&~OZD1y_H0A*U_63W2eb
DwPK*YWuhbX<sx~Ej68aS^AFO3|Ur3ftBZg!^o=wo0Zb6ReGp$wQBvT$;$DkHnz6+U&;wPIe1&a^,zXjx2LdaAX6Sg=ld~q8mvCGDONR!WE*insHN8DoWvZt
ndATW6Q*NP|WFoKI%j0X3ST5EuaU^0o,XOJl+jrZ3MCfg4.BsBL/t3fE!FmG^H4~NO%mg&xcb3kl1j+l/F!j+8r9A%$vg,or?S*dpBf8UR0|jUPyDSYkJB!M
f5N!IP&gzc*v,xQAVyOA>F>Q4J+Cmz5n!zpMqcP6GHZcv.bAqUhHO+6Om~y9WRr3$BEck3HJ>>X~Eyb,*WJB4BR7/5mXJ8oHXXy8.ED|c,01RB?^YKdN%zKD
Rqm;Y0pTiMg~Qw.gm!!1^&u9k57md1HqFQX%Z7|/6G5f|!kxM*O8i|>r<_%Wh&Z*=!Jo?B^rr?m/ONvLA4VGc~_O3F.M+aunIGT&.RXhli%dHlQE||tTOK=b
TIC>S$G~V_>A1^8+XDQy!$~tzD7XCaEPhHysU&COh>PI*kJW0ZD;158PL*uC0hZpVE9gm!a<z=9Qe,y2$7Vc_x_u?121*B<i.I=!PrV9,m>=4;_&D.nr.?rG
8Ucgatddf4,lgFL~~|*l&Dmke_Wek3FYdda;zZA/^7bQdxmxI=qsjxqUWhRk,q>+NwtpwHX+0dI~JAFK;uM3PK95RLHMmKhI+>%vHngi0p8VytX*Em<Wk+mZ
/58/<F0POuF3+B4!3KTygxOG5$IsTcg!m1v>$klnAU+iQeSHuYLlwJR<wLiD*/x,=aZ+y0Gtq<>h2NQ>2vP?WfTeL|O8+RGlN^U.uwcJ$n4ZN<VQ/YwG!^m,
GhmIP,O1=mW0q%tE7|RL<kIFcKPEqR^WPR$_K+3F/zjt0wwiMP>h>%Vc$J6/Mf?vr%IVlB~K.|h+&!f<Yabzi|vy~hH9/8rlzI,B7W~&H1RwSQrhtE.qRlxn
R1qfFibK%1u?OZ/Q>t;mK~=Ww*aT$>hFXeh>TF3UfJ9%m!NeXM>NcT9P/?UZ.v_F6Ylb.EDy4$&kLEZmjSWwm6<qVSI3&FI_THT9,5SYZ.I=YSVmEU63NxR3
.Olaq+O+kA5|?ZzYYpkS;4$%</QN56zwKnEFgK*wtTHISD;og5.&Mr9=&52Lb?jR;YSPLvur6f+WBfV6fMJs7;zP/hV8%TPAcv=NYxd|p<iDU&i+Gt.Wc.dq
o_%2K~6aM0mhHX8xKfQKz!ZHJo5dO1pTZ!..h~F1N4A<70>OGBo2Gw,lcgV~kW7yx?7R2kq,LQBFZihVbS9?WHXhw/VIUiCYfv>Cz3o/^jU/XG0YbX1ue;IE
m,a1$~^gJoClIqYl3WFVN.mcWhn_IwZ_jX.SYmzKokgf0X8*Cs<x4+Uq>v1=QtX.6w6N+7PIE<y/.4_D.<pLRwIxT!T^uVwwx<8/^^sF3DC|c~XRVmj+!vb;
RGzQ3~Um4mrpPHaZo8;upO$dCXljIR4Jc%Zz_202gL$*sFd!b|E+|Mz?08JP0EtMDwbW~gefIh&yfpWB_o%QmEy5c|O~pL!ZVgz_&+&7L+zZA5UoX>|+!iYc
tWqrUcA;v~~>r5_P5LZjLp%KyAehE2BcT9&*Xlbq7R+CQqvX*7B^6Vu,!;sdh&$t/E$kg<qA&Eyz1o=ZqF709At3>kb$A?&G,<3X=%~_F4Fn?uQ3l$%ln$TV
VH^Lj;4yKISAE%4L|e7=.%R7Cs!TfG*DvZShW^+Pu^J&DuAX>m*=uCK!Ef>gZ<?6;dlzIoJx|Pr&PC5|eTE1%Qs;k>.K>dk2<sUt!^OGp9Cgm!/g%89pA0N;
WPN+PH?;i^koD~ck6W.|0<A^R~_8DQwNr!D5sWOp_tIH2CDSpIEz^u;GHW8kfd4aC8q.74dPQE1nfpkbt+7Df$k/V*kc&%kaWdjF~t|gFDJGq_bnYdphQqj=
ni^eb%kW^MJ?$?O|L0,VukUS|_I^Z4.&_R*RdmuehPw7,Qw^dnl80j1YCTSXMbmIW/EoSY9nwpZhC?C8_P6>ZHE%.W$2I6fz,ng%f?XYfm8su<QwPFuC.oy?
F<l%dexW/xkrKqd=s!2atxYCag4,coe%wZ/O6|b26PlZgKMFZ03gn3?*%;.i?Sr9j8N^6^GvIuov^rWjeP_4+EjbCwAyc8vhE1K.K?o&oba/8qLZL3$u$2MY
X$te2VC/pXhfhJfw?p^~q7k^!aF/w32zl+5D_sMR7?L9o^goI$^4Kn~ot&wgOF?tr/l~GdvPW.AQ,D+u1zgYSGE3$wH~MI,O0;OaBetfbXp/V/4LvTmA0aq!
c61CzI/I&x5K3t*~*,s*IRa<=HF1&hukImF02jS~KDOO=HnfWx|%Tu8jM9;dK>mS*~9KNDAHaInrgAQp8rDlfl&j1Fz8G3l;IwFd!8O~h,%iaD0>8U*=%Un+
a?sRy$^j!r<GobLMXkZjtk8*pA&t8fS2xgj9.54_%<HOBI720d6L%Nr7.O*1n._6G^i|>P6FzElIO6?lILf!Yj|JqK6VrssyhU+JE<^FP.tLbk*Eu~tT22xf
Y11Rj=7&N>LYaZ6KU<^nF.,oryB&,|o,sLU<9xAjbsr|jVe9y?jHN?n7uyA=<i2Iaz5uKx&&p3H;*MZh_6.<bW7w;vd9qPHxT1q_*hNCEE1B2A0.X%ULDMkU
%5MxI~YRh%wQ$f^EVDxb2_|i9RP4sG;dha5Uz;G4J^oy<kTKysX&fz2GDLWh&.kygayLzmM0.7Ws|aHdLaC0c4H8B1q!A4rS~F.sX67m8b%YC!pUZIIX2gQt
Y^;V/$ns/Vq.e17KhVO!bQ$PiHKv;>wDZi8an*x8h!lrn^a7~2xgC/9/iMS*fwZzeXM56+CGUOgtks>K;G|bg4xfP|ba;Vpp&DUCv+6jF.Sk~g=0P5~uMWvf
P/SNnw8,42=W/ZN77sE4TtANmuf?i&d_A?*z>aci.FL3aS~xpQ=O9!OAI^F/O=8hS2tQSB2VT3eiQZLTl4jHit8UNw30ySuT/^HOz~swk<o6*hU<|u9FDl&R
OtgL?o90>M!d2z~NxsWqQJNINcYYC>wlo^N6uyy17=KWVjYVf$LML6;.Sb12j.,7metTe5,Iu?IKp1y3Oo0$jfu8xuSjhR3ei9=83Ug<zC$c+9,_332r=zJ*
j*omgA*!xVZ%4.geB>PF3.N3fe7j%/|reI6KS0!1|xhlzFMk<btz49hSop~Cd2;.3..OLkAoP/Y<lGXViKq!3s23saSmKTm^o$P_fd1<k_d4U<!n,_xa+y30
Ze|^$l9IW.1>vD*TV^=6anH*Xt?k4%&l%j?6v|=blEsYL%0O/;8Hn?=6>q$4!Y>BRz^cDs1H?sssCl3R>67!Wrcl^7CLLO%Hh*2GgXT<YQacVJ&|EBx;;S*K
^KREiAlKwrUin3qvw+FnqZRL^sjeeEtVq_DOPvRaS,rp6md5s%_~0~BU>GsFGH7JV12EKzs^dvwhUNJjD<mht_m$e7$8U<zlOYVS^S76mLeTF9$RB|Q/C33=
w&86c8*,f_LZ!/GbI.lc,iQavWu0ea6eRFP1|y?sscT+BI,QK3X7!$xD^y<bP;IpIDkEbL5|v%kqc+TD8ecjAJrG?~9p+;OupqxomJ_m3LO<8BqWF$aBxI^U
fmpVtS3V4LEF^G0NPrQ,d<*u_7%>_5Vb7Y&/!Cp0&,k6OH8DoGP,2&8i$kV<6Xo696ie^X7;C,GYI|zByn=Os~zqc*zIBfOdrktTgX.M/jX6$VnSpn9>EAQu
/b*AitDBeNwAd>i>HQKJ^;%vnAWvzsor97yLQVi$g&iYJXp<r9W3C!DKk<q+WVN|3f%u6AJH..0fNjF9<_BOj8IX30>n8OMnZ94RteIN/J$4Wyc.Z9f,L2Vo
V<Cf3~yukMRAmsFwi.S7qkJ^Zbh|SQ7P,_qD!TkT%bru.b<J2?~B|WBoXfJbCcA+zQFKCMd*h0LuPWbBI4jU.HwK+kqE^ZWxx*yFrV9~Q&BdHf7K_oGHNruC
=/^MG+%ew7s&N!%0T2dCsI6vmi%LKBpLeN.A~LxnFDfd/^MwbMeeeVd1!561|_VMlDbv1?HL=.!;TIT>5c$60;W!*w3^j6PKum>iztk;CKiW~I3sRz3mmm^N
FBt%Q9>o,LgeU/H4E+j*a6<MVAt68edD|CD=sGki*PJ<P3i/Bw$+l>kkw.+U&Lrb6tUb;p?qvaMkCxMAxM,L7&&uHk$?rQ,Q!kmEvoFTrtn9*bYy>jUe$u<B
fyPU!w76&~Mi0^jSMr0!AuEo<X.tXtqEj=5;&R!2jt^LUA|u=NGW,D0pe=SI6lyZgKiJP|Up%Z1u?^1!.5IDFq|g7S~M_+mR5YmZx2./Uk|<po%2H!Fz_*lA
Ur!m!J6kp9XM;3yHs^>lwYTLI,ad!UMU|<3KQFAB3bfym4CsS*>$c|>>X4NRc&fr!lEE=b5<~qyi?I?7m_MjbRWo;Sw%<&AvFs.^>aW+E2i*fP!uyEn^dCHi
ds^xgwLhMxGEj8RP~S%V&YjA?kyzK40Vpn.ofzE%V6fs;GYEu^OCK5eL%?rzu<;UJ9o96vH.C5$PhcyU0kBbKN*Yq|ely*RwoYO_d/>9iQUk&?aP!omp5vv.
8nVRkSmNNS3vL$xc^PE6Zo!d5!8weJMuk=_+yv!BsPMt^p<GmTJD0aWl2NSP3OsWaOZ~1!Q+Xaq!sAy%.9TQXD3BqN52e~x;WpW6edpdZUVoP?Pas.$tq3k4
Jp>VDta&=oqeoLdAA|sQl>=&h$,P/On|Df/<??a,lx$mBG7iEP2t5i_q&sZ_yPTYh2Fm_*WY*<x_IDMs>QeeKR;7*Ea*DW5%$1JUGd$V<oa2EdNnq4e$%J$2
17;D8MmRAS0hRsOq~Ik9UM=;M&4jF|yM.,=5u<4h,R!I&k>ffKWPj>GTokqB;~fZ7g!&arDPmj/5j;828P.QHuPXGCHp39B+lNkjVL|Hr%B?b2*+S_Xl_zd_
mno?,ePTRyoj0Fs6>+;7i*19GsQ!u3EISjw6L7NkP8>Gm=BDnq!v6r=xePjp3xvt~=.P%Cfuk1~+b+!;3HUc*$mB.ZL7UuxlC~%bh91ZYQa9CVP*mCxnD/q!
&D/wHOA*z>qYvhFzUl$Zqw<5zk1pZdT03twnuc_^gN?h=$4WSdqYxG$Z?UQ^eub~$5g9s1L<lm!ZDn_Gg;00aXto=;Ou&<_!RaiiK?kCB4cS^54;1M+IqLFH
~3dvodU,J5<8NA54ZZua0$/=vxtdeoZsSQ%sT+7n7sU1*&xyfUk6n%O.hx+HU!a,eFiK,,00BNza,KH$UBWFfD*!bMUoHHFT7.pRKT8_7T!G<QiokNjB63&S
pJBMDdy>._ISQ,?b2!yPA,?fDLh!HsZ+eQ9*3&pT,s^?h;DWl9dziOCCGP0AXK0u|_G3.Bfhhp8D,iaf2?7KtJpnyVf%3fBXT_b9XAl,3&,!R,mRTt;rjfg/
4;;c>pfP85F;4VZr+Zy5koOLf?XGaD?o$P%z;g7I/fzOO4G*6zz6!PCidqQV>c0*q.Rfg2L$&Ji0n<aN.2bh>wN?FPD^ydRQNEdTCZfS&N1.$kXrBG??Fm!l
veYSqTXypz5B1ELAd&IM&dTz^SaxEsgu.tSY.6%rY+7<4*>Z~W%X?z^7Gd23AFVSvfm!svBlQN9Dnh;4zHDK+_^0iYr5te4>4>=8b^q=/6uspi$a08&0MejI
4tX>In*QrD7q~FnstxQIsq~LK=zF0TFL9=uQ&P%Kj3ilA/h=|.|2SAvgWBSG!DxoCeHI^6O~OeZgiiWehb13~;ZW~Ue|xqX8$*izUiB6O_3R%;u3<%hKg>t6
pA|4+>QY^0uAB~U85I?<0UYH~U1R^<iIHdz!BWQ%RuCG7B8C3tiuf//xHve,SoTr|sMYNhBuNOtP5/Ou1+H|v=PDsL,Z3tobB&ijF33DqupphbWWN,C=dRHp
*fy.r+2KJG^zPWNCpE7s<09^~Y==&$BvOuarH*I4<%vI.a<jwIg%Ik5<&aH~IR$euo=~EpU&tiFDs9dToh<BS,M8$O8A4^H<K/ennhv=j9iAunsY_JNiI12v
1K+mEZgA>vqNOnVdUi$24F.&SAP=LMl8O8d,uuoClM6hkJp?FdwacIQYOzt_RBN.aQkj?UfPWrlh%ZGmrev3F>r05HJ&Bi;/X6iJ_M%$QFv/XJ8Tbtuw<U0J
Cucl!urDfm|,%bU>17=3iWwGZC2ImDKv^GWUKJ%5RM8p0Sn;ttLJVQoORZfiv8f?m0+f<9S|jcKU?<<l=ikE%?KF/y>FVfRJadUm^vd5KY%l&sb~237N>3Q+
2Phwzz/QU23_%3b+cyt+q&_$.F%69Iq_AWXqDjCB<L<1_rZ_|haIwr~R!s_!1jlGiCWQh3SKmPJJa~eBa.JA$CsD.eNKaMkuLgLTB2zaPUrgXp9qKF8NYReU
&6WxGQl|G2Ay+/^44zpUV<ED%;uE%u?^zK&E;*Q$9?VapqSBoO!UrJBUSkDipsuS^WrZ|;PwlYlWpjH8,<5Qdvt.;~0mioC/9G5*JT$T+4a0Rbu3dCve7c72
nz0/Xms$2Agh;JBxG|11fzsLbXhtjn|mmV<m+5ip?FpOWE01,sK3yKS|<XGQ~QkEVNYw&tu/KrWAfzitr$ivUrLybK%rmUxg|wUa>_3f/R3dubi!C?w.l^Tb
G%BY$FDz6Gplg!3b/3S=Qn^taHDfIj2ryfonKdAa%Cgmf?5lrQKtZOyA_H3z!+lHbBRW&FKk>e9*Fdt0|y0FedXGGCNIrPOZ1ff/X?r3AsOku?bn$/*bvIZZ
C8GjL/$llQFR,L9%XcXD<0zVlfSc+DhH5PAs0g/xWTVC<Xzr$R9+RhwU6J6HA,C!,3!D8!Rg6CqtEc/WvO>$vdDw?eOf=,rt|^EEKhCKznV_x!YFMjl+/Z=*
H&=L5S!Yh$Q_pD>S4EDnIELP!W90WjEeW&|Kv1=zf/^riKTG1o3N*FhZg.>HN0w5gvCQRFjOXJQ$Z_J=GT1cx<lzSTyJtWEt6ql,|UjQS2~Q6H^i;S6_kLSk
VB&s^Fw<v3O>t*..9;PU5M5Z9CM&ZvcWY^l9U3,5t&vMDNRdIp0ph&ycBc6pU;ky,T;thDh&ei%3DBORo^k<=SMR5gJ!%_CIu5M+9ft&ara<+kyE0!AL*T;F
/XfW&6cn8Yw&vDw*quN0lQQ87vK7U!;/z=5YHTE*&_P;E<t=ObTrP2Y%E,.knBtClUvA^g./zJqKP2DL%//~a&i/gO1;$KXQOLEh0k~u/2Qe,/k~$z.cID6n
Z<nT4c,,ZMmqIjWgOvNHCW/xmgtGMHnd;tojnyz29encwRoD7vC,,Wf_B4idPO2KzdJiwx*o0M1G$7uYp?Yxf=vlDM+.eRq*HUcA|qBv!rfol%B2U|G+q5J6
mvEucJp6Xmkb|/cdIZR+Mm^.bKW6S|cZ6+4!|AWzcL&Jx;biYNXzsHZNEPqa.lk;jzgN+4,<GFQ/R;w6P5lGKarH+,K7Z$lsxKyDL/g8X+7&vQoG;P/RL?!D
$3G+ox+$4bRB&yxfF<DUN0Ds~Ew8cx7!kwOF&5n4mK3!o0aA&hxaev4dwrTAiRI^CVh$L/zyT|GiDG6vhc9ft_^6p?ZeWt|^h*&.l8ZNZ?b;Cwg$!0+R_qc=
M*TdJZ*>KD/Cya8B67/s5FYg.fqtUExesUs<~_Js|>!B$xu*65Cucez&_xy+VpXl8cA,.a$fp5/|Jg^HwIE6vln,Su,x4zav%0b<bNmIchI;EIwme|DqntK,
/dc<Hm3%/clgpG=zs+DKI^6^Sh7&>?23Dt_*Q0oHEJ/m4eicvV&^2>8h$o57~k=gO.Z<qL2+D~d423VjH.y4Rr>x8~Bs^qS87&cn3<WLS2TZ!Oim4kk$m?Sn
+O2,T?$FO27~>=Y9_c=jiHsPwh94^tQ~M53KdofZijxV5KN95mXxA|XHVZsG^yp9?3qxFDKLB|?=.chWbZ0^zLr+M6kiKlkDv5$NlNroD5w+1/pi~YGX7$J7
92t_Qj>0p.k3E29LHMxz?kpY8|pBLt87YlNcEIH<XWtdgkt6~3i~FH_GCF/hugs6ql0V_QR*9lw~A~FOG9uujdfsPw<~Yfz9ovntasu8Zw^PZotYGd^nxVUT
I2APeK0pG8=PF6Om^4<Wpot~wwMfoa%Af6S9^%s1UpOYwGs?BjG_<C7rGjdx?ThSdXe,<_fg748Ql;fbDkotnrK%QnihzJPv3,fl.;%,ZEo~icOhOw!1gR*b
TZ3hKckbz~wNdElWiWval?dhmXR<Sdun$7qaxNyas1q!jGxAgQ/k./s&E|ko;Ai/V|Lbz^J|5KQKTwcD2Sax!Z6w9kuydT=&~pAWk.sK2!Zt,RLGd!X!aW29
Xx<Fp/ZaDS48rmfnDr,b2^2HxBsAj1OMmwun<n<=FRdk4L9<Nbo|R>9yrek77xR+.v2U%&LOt=h/x5,e1VnyqrqO9rl*bY.=!t+F$iE<rWD&$.D?~c>qRelB
qFNLnL3+P0I.iErDo&SS<3mb6/e;r*>2reLUOVi?!670,%37deM~QHj!^gygwDZqA0XkvgKhpQKWo$GzX$Bu&uEaa7MP+vZ,o|_h6=HU2IhAt?5wOe*9oqUz
R,>>fBG;1qM!^^*g4J4F0>f|%j|zg&Fz7*e2>dix$hwd4KTo8OBlLS0M7=LRoIps&fS2>M.+|jIen$yry~gEIp+HQ4M^3csoJ1;7zbTvCMX"

end CallAtlas.Text
