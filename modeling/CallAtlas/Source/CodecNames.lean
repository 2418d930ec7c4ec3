import CallAtlas.Source.Codec
import CallAtlas.Text.Packed

/-!
# Usual encodings

The encodings that are usually there, with all their names. Most have one byte for each character: their tables differ
little from one another, so each is kept as what it changes in an earlier one. Encodings with several bytes for a
character are read as far as ASCII goes; their tables would be longer than all the rest.
-/

namespace CallAtlas.Source

/-! ## One byte for each character -/

/-- The encodings with one byte for each character: the name, the encoding whose table is changed, and other names. -/
def bytewiseCodecs : List (String × String × List String) :=
  [("iso8859_9", "latin_1", ["csisolatin5", "iso_8859_9", "iso_8859_9_1989", "iso_ir_148", "l5", "latin5"]),
   ("iso8859_15", "latin_1", ["iso_8859_15", "l9", "latin9"]),
   ("iso8859_11", "latin_1", ["iso_8859_11", "iso_8859_11_2001", "thai"]),
   ("tis_620", "iso8859_11", ["iso_ir_166", "tis620", "tis_620_0", "tis_620_2529_0", "tis_620_2529_1"]),
   ("cp874", "iso8859_11", []),
   ("iso8859_8", "latin_1", ["csisolatinhebrew", "hebrew", "iso_8859_8", "iso_8859_8_1988", "iso_ir_138"]),
   ("iso8859_6", "iso8859_8", ["arabic", "asmo_708", "csisolatinarabic", "ecma_114", "iso_8859_6", "iso_8859_6_1987",
     "iso_ir_127"]),
   ("iso8859_5", "latin_1", ["csisolatincyrillic", "cyrillic", "iso_8859_5", "iso_8859_5_1988", "iso_ir_144"]),
   ("iso8859_7", "iso8859_8", ["csisolatingreek", "ecma_118", "elot_928", "greek", "greek8", "iso_8859_7", "iso_8859_7_1987",
     "iso_ir_126"]),
   ("cp1253", "iso8859_7", ["1253", "windows_1253"]), ("cp1252", "cp1253", ["1252", "windows_1252"]),
   ("cp1254", "cp1252", ["1254", "windows_1254"]), ("palmos", "cp1252", []),
   ("cp1255", "cp1254", ["1255", "windows_1255"]), ("cp1258", "cp1254", ["1258", "windows_1258"]),
   ("iso8859_14", "latin_1", ["iso_8859_14", "iso_8859_14_1998", "iso_celtic", "iso_ir_199", "l8", "latin8"]),
   ("iso8859_3", "latin_1", ["csisolatin3", "iso_8859_3", "iso_8859_3_1988", "iso_ir_109", "l3", "latin3"]),
   ("cp1256", "cp1252", ["1256", "windows_1256"]),
   ("iso8859_16", "iso8859_15", ["iso_8859_16", "iso_8859_16_2001", "iso_ir_226", "l10", "latin10"]),
   ("kz1048", "cp1253", ["kz_1048", "rk1048", "strk1048_2002"]), ("cp1251", "kz1048", ["1251", "windows_1251"]),
   ("ptcp154", "kz1048", ["cp154", "csptcp154", "cyrillic_asian", "pt154"]),
   ("iso8859_10", "latin_1", ["csisolatin6", "iso_8859_10", "iso_8859_10_1992", "iso_ir_157", "l6", "latin6"]),
   ("iso8859_4", "iso8859_10", ["csisolatin4", "iso_8859_4", "iso_8859_4_1988", "iso_ir_110", "l4", "latin4"]),
   ("iso8859_2", "iso8859_4", ["csisolatin2", "iso_8859_2", "iso_8859_2_1987", "iso_ir_101", "l2", "latin2"]),
   ("cp1250", "iso8859_2", ["1250", "windows_1250"]), ("mac_arabic", "iso8859_6", []), ("mac_farsi", "mac_arabic", []),
   ("iso8859_13", "latin_1", ["iso_8859_13", "l7", "latin7"]), ("cp1257", "iso8859_13", ["1257", "windows_1257"]),
   ("koi8_t", "kz1048", []), ("koi8_r", "koi8_t", ["cskoi8r"]), ("koi8_u", "koi8_r", []),
   ("cp1125", "iso8859_5", ["1125", "cp866u", "ibm1125", "ruscii"]),
   ("cp866", "cp1125", ["866", "csibm866", "ibm866"]), ("cp737", "cp866", []), ("cp856", "cp737", []),
   ("cp720", "cp737", []), ("cp862", "cp720", ["862", "cspc862latinhebrew", "ibm862"]),
   ("cp437", "cp862", ["437", "cspc8codepage437", "ibm437"]), ("cp865", "cp437", ["865", "csibm865", "ibm865"]),
   ("cp861", "cp865", ["861", "cp_is", "csibm861", "ibm861"]), ("cp860", "cp437", ["860", "csibm860", "ibm860"]),
   ("cp863", "cp437", ["863", "csibm863", "ibm863"]), ("cp850", "cp865", ["850", "cspc850multilingual", "ibm850"]),
   ("cp858", "cp850", ["858", "csibm858", "ibm858"]), ("cp857", "cp850", ["857", "csibm857", "ibm857"]),
   ("cp869", "cp856", ["869", "cp_gr", "csibm869", "ibm869"]), ("cp852", "cp850", ["852", "cspcp852", "ibm852"]),
   ("cp775", "cp850", ["775", "cspc775baltic", "ibm775"]), ("mac_cyrillic", "kz1048", ["maccyrillic"]),
   ("cp1006", "latin_1", []), ("mac_latin2", "mac_cyrillic", ["mac_centeuro", "maccentraleurope", "maclatin2"]),
   ("mac_roman", "mac_latin2", ["macintosh", "macroman"]), ("mac_turkish", "mac_roman", ["macturkish"]),
   ("mac_romanian", "mac_roman", []), ("mac_iceland", "mac_roman", ["maciceland"]), ("mac_croatian", "mac_roman", []),
   ("mac_greek", "mac_roman", ["macgreek"]), ("hp_roman8", "iso8859_11", ["cp1051", "ibm1051", "r8", "roman8"]),
   ("cp855", "cp856", ["855", "csibm855", "ibm855"]), ("cp864", "mac_arabic", ["864", "csibm864", "ibm864"]),
   ("cp424", "cp1255", ["424", "csibm424", "ebcdic_cp_he", "ibm424"]),
   ("cp037", "cp424", ["037", "csibm037", "ebcdic_cp_ca", "ebcdic_cp_nl", "ebcdic_cp_us", "ebcdic_cp_wt", "ibm037",
     "ibm039"]),
   ("cp1140", "cp037", ["1140", "ibm1140"]),
   ("cp500", "cp037", ["500", "csibm500", "ebcdic_cp_be", "ebcdic_cp_ch", "ibm500"]),
   ("cp273", "cp500", ["273", "csibm273", "ibm273"]), ("cp1026", "cp500", ["1026", "csibm1026", "ibm1026"]),
   ("cp875", "cp500", [])]

/-- The changes in the tables, packed. For each byte, `=` leaves the character as it is, `+` takes the one that follows
the character of the byte before, `-` takes it away, and four digits give its number. -/
def packedChanges : String :=
"xsg.^8ASHI*hX3Ooa|Ut77O?cyG7&2~9$%vY2%R,cD=tuUhz;^l4~<G%W6+sIDs,kWvP$X&Oyw?Uh_R^Y;/wit6BtO!s?EFvi0+UPKKtSDFUdJsbvrL.xBo.
iC$4^;SjtD+R14EFCLQSEY*AaGGFPz5_Acx>%V8C2F%C;h;QM,;mf*%?YGLKDl~F<=0N|Hi~5aA,9/;H2LUH8C3ImDF6FPGh<X28PW5,<9AwKy^>xjzpz_F4
MDIz%0r,Dvtc3h1<bJ*<,u|GoRp|p;Hk&TYWyWd^$w6wh0g!;vL<IbqkA*9vdYn*%78LzzL>%;B;BujlID8Tvb?BQXfR5oQIP4Ww;Sv.7LIMCpxNX3o+.3?k
*v7c%$j|rhbRw9sT+cdAMkcf&&T5a4Is,Z8f<Z0J_hU8dj90/TA6I5cPqsTe/nXI?$Sf1$Zpj6POk9D$ZCoP<Ot.f^Cw>cM,z;Um0$a/oRR&c3~7deJS~3/g
=_n^9.O3V35pKNc5rvki_t=;cCL+m2TeIhjJh5+u_qbU.&5ZiWGzeh>/w7UMiYo=xU$Uq0IDU&7ev7/N868O35In,C|eVACVcAqimtAMdVK6%LZZ0NqujS<!
py+d4!t<cl!&MP|Wd/T/QzJ*R9oD7KR%tqFmzm$.wu+bkM%D2p7ZQ0Wr|.E5hUAkvM<ij91kgAW?DLisLmST/XVKH5X/5_JRGCP0hTq|%2|7dgR6Y>YDI0OS
>!!=.AqkcjiBV7^cD?V5K!cuzf2gLXR.OBV;Q|sPqFmOjuB1vJcXslVE,FoT^zjpnu4ajS!fn*bD~v=Ro=uajrYm~e.1/ycq2S1KZtXEse!*;L5;>SOWQyz/
S0f~SH_GiGmK0*!6SOs/KBbJj1~JAlkJ/eRzQ>n;4oLw~FJC4/EY6ELkkdAYkaQ<iAMnZ_4gH!lmC<;dbid*uM%A^F%p^<+3S;e2H6ZjH~u.Fw,vTDHJiN95
6m_TWT9P~t9<8T!yKJ7H/IkUPKCPu7,1*i!e>~hBatUF9WuSCI,^;3UVCxTb&C|MQ_+HK_YGM~hx*>ic5~vJZBDjpEuN/IpV2toXKkXRmlB%GSMaeWjqotDL
w6F?5sKNyhQMlB,Ho^q?/VcBqpc<tbw6f~g9iN,mlS6ErD+lTDSO3KzTm*3NBO%9K.wKNz247E.Y5>A4~=MV,$P;W_r1W18DTbjP6rLNPzfI4.K~WDf75yZE
S>4<&Z&j~FSJ~61*_p||qzejAL/1SZ,HS4j_2|!GRZ0Qc$QF1jP|XCIgb1G>BgtbIrsa%lGUHMu&pPQbs_kd_Bf/K<xjccvDI6?>,1P&XIkI!*r3QUo/|fQg
nCj7>lYjyVg^RFui6STs_y0VmNSJ$Hdvd$Z0c^Nk9dX9VXI1nr!p_%O>A08,fGoV%0eYLUj14B=Ay5KBFeH1jVX643Sf$w+f**J*0v7Ax>V!z,ujC2IH$o%^
fz?gu~80E|bc<U_orcf7Grx+,h8Klts8odl33.CSq|jQcpQZGQ%TUs<5LsNY<V&HvZbT43s/7Cje;|2FQMY7Sd4v61B2N>WM2ePkL!Xj=a4nTKOaHCn+>|>=
5*;/!,i=G<1f5rdW|a3f_e44D.smy4u^1K|K4Jh?HfoyOclPmM>J&3l<r*.AGK2.,LiHMzA3okC6n84$id?_BQ;NNM+$Mf14M8D3rx_7!|Lasawm>y1LFoHp
cZnVu0~t/jdC?yzyGPNdZX<4SLUw|~__T*$rh56D=IytaKfapvIy;R%+I$Y5zbDt8I1^V?&o1gGg9!daO;DS4E$lsO=9V>wClBsmlx/,hd+VB!uenQYw&<aj
vy^xkjt&fl^z7?zQ9tvF5sk1/Vq,NB|UK%D?S^|Tl&T0lTlTKWM3;35ZXN9Rp,RLT/C$9Ld+rDXi2VC^l+RG*ozUgZs,$iycomm<,>S6JkymxoBkqt+^od8/
>d*piGNLY.qsthKd,?9>lz0*2J14yFQAO7Bx*DZ<MyaappZ,gT!VNPSI/S2.1^=6Pncj5*3BH~3TSc1u9V7hJxmzT51sox93s~Pn~x8;~u92huojag.HE_7$
8n3Y3uSK6xeM6T^G=>HDKRnCJmG8delkM!4n,xm/F6$=Ic=njhuR%LQN6UterIter|VN~C349b8GqzMMWi<Tgk;T+bt>z,+rTbttcuQnT<E+,+Hon,z+&aoj
AUE8kzO$LnmwDIVUmI4dJE.Exk00ECnvMaucS8C*1|CRE?j;=3u+V0J~WjQ,h?^Zx5AcivXPkZXeaiz5vbBdDqnOZUsWg.;S3&bS|Tp8hu$zi78f5*SQtA08
yzmB&&td*$HZ~Eqrq5<74~riT_f&1Ph8r~oQR%hoC7RJOb/<MX~;Fjrc;=^M&C6ysSArggxdtH49VUR?aznG!C*M?IkEsGDeX>f$vr5?0JO67F1R~ZD~K_5i
s8|HY28T+J41jNxKYscgs.K,!.VX.zFFUwyk%tRrw1dD|C*~pdKgU^P!^C6eGXBIrneEX8KdnD2!e7AcQOYv63R0ViaY!JPVe%w79C!|y^/BuvHzUPL_Y1W|
LSSp!1eLtBt0nj/LPkG~Xmmh%MQtfKwPd73H?XZrMtE|+M2>C&B;u8s0iYf_>.+xha|8wGOh7dKSuE7bVwe,zysRJSISzt09cp!f7EP&k%el_W_gi9NLmks.
rUHqnCSu_.!!_;Q^kFfw_+AM%_!aPU=L<eLS>0/MQe_8iFyz1bxmjEyiwueR1ny4t3wE22z0IBibTmk1B3njd|+s+coUPq$_7lyX!S_N3n2%E<yUN,DayaZL
A&OmozYbgGKY|;P~sci*sS7a973fbZNslSM?U!_863+UoH2bEOX5E3UfrrqVxaV&vS8!/,^ffbvf^h,539^P6HqO&Q>ez$V^>qxHa/rgb%UGbfNRKt6zWs9v
8WI7>HKGIBcXsLg5o/Q.QqQK&O%L;2NzssS,d$+.ab%cTA=d9.W?mlugUPKX~k0WeuGM%ST5;YW&ahOoBEg4oHX&lhrMiMOyCWPf/CRR,/qam.W0Ky8!I6f3
Lql6cOyyk=mOqv.hR0^bE/XpU&6k3|9%=a?4TM&b,bg;4GCnajHMiiB%&fDBL5||G_=z97Rj1ZgMZMX.Zh6j?97.~Kv.=B4Q7t!r>Ep!~sn.sBqd$M?/>!vD
X+UyAotF1VMv95g&u42k6s8qTd*k!Tk?5x>QE3~v/t~ZOZP/MSSSeF?OX+&ym!Ci.virRN$ox,|Oi=o$.DH5je.dxn,;SF2nt_T0O+E.V=7c.JR*u%LyjzZX
&*MigD|2=_1!Y0swMoN;|~aXV/~~aa=KxCL*_H/S0LDZV$.IdwtCL7FWxH%^U1SN0,Yl,k/v>w.W!2v1,UvHQHMmq=6P;kerG3T1BGnAFCh7yll?r5wENglT
lxOVFOe8Tas~^T$1l<^YSu3*4;4__IuXI*^W8pdLclJ|626FX1NLT_%4z*k*Wbw/c3?12QY%2O_K_1?|Q$FBi$EJ=6RbQIqJrw*4+J9fS9O$w<9;Xhc0Potl
rW|^WpEp;MY?R+g|01ZlIpKjh4WOrd1y<KAo.%!R8qVXgIy75ypA1U=gUBpotVYkU*Vv|Jl.t2>O54qQN97nGTiSBB3EVG7;F;N;F_FK_fmbYlO%dPjX=spf
~0<+Ube&FbW=|cH!|<zz1z~^oXb9HQjJAWOttjJT1D,Ew6W^f4v<wcU3!<VNw*VupC>ehE_r3qmfvdXtLpiWAN!3=b8&0T!zt%k09j7/>&0zF&fxaQM!L_hl
t%M2AiuR4IY7PTTeq?q2B|mbaYm1k.dB|8_A?Dkt7zmyc=|wF>gJ*t49_V2;+C,f*8Q^0kOkfG+PS.qn_=_AvP&Sm4JzPwd|xxVFf%;28;!_>MH|JabwtvoY
;d0X?nPZBXh7zJW<+gW7s^Q%Rn.x3l!1AL3t^nB&~Nj63y;NyfE<+At.tD2Dj&32STbL&*eN^Q9bW$$VLLA65KG!kg&F7^Xmdtd28of_y^tNd&Y6YUWNSQ$u
HTz~aUsaOzA?2E7*tr~K2MP952Z!=,tApf5L&c/OiB&Dc7+qLMoV._~j2%suAT8WrPtCtXwYYqn$qTS>9Cs+0+yMVrpp%XBxsbOaWnp0YwB~7Ctjd35hUvft
KG<HsfS1ZGA4XFc,k/W>1<O4P2_MtHG/$oo/YAn4P=5UMImh=RO8Fv|m$b<G_1Fsk_JkIRsK74r6V9Ualp_OYy4h%R8Jh3MOB&o;3&P*f_JHipgwu2%.,nq_
dgTh<Ssc8/&6ms;TE6e!+FOl3o+,OZa3r/PCKTmMOW+f*Fpd=%_9>I6,&9&d!HGbQ_3Qk$9Tl0E^D3~h<.dn36h3IyPt8ktRe7g>iQ+jXLq2R?2s*VFIALzL
wKUtDV,e<6;Eec8!xc^o5e_/dAim;*$9Y=|KoxK6hvu%>3Mqe!0Z,yO/r%p,%ZIdrM!K>Rz||iu0k+;PX;Qd^SoSpjWKrr7bdmujY8*%>^3jO3FV*9^=peF6
mSE2gJl5F/MEl2N5j+5BVyXP?Q1vhcMoirZ|P8N.H;1.qtcRsCzF*a&CJYZJRHfM0bSEBbWxy!Ukoq</+iD|$G7kH6/t;OyS;DlUB7xFNM80p,t*<*^.bHGL
e1r3Top2chlyjPodu+XB1X"

/-- The number of no character: the byte stands for nothing. -/
def noCharacter : Nat := 0xfffd

/-- A table after changes, and the changes that are left; `before` is the character of the byte before. -/
def changed (before : Nat) : List Nat → List Char → List Nat × List Char
  | [], cs => ([], cs)
  | code :: codes, cs =>
    let (code, cs) := match cs with
      | '=' :: cs => (code, cs)
      | '+' :: cs => (before + 1, cs)
      | '-' :: cs => (noCharacter, cs)
      | cs => (numberOf 16 (cs.take 4), cs.drop 4)
    let (codes, cs) := changed code codes cs
    (code :: codes, cs)

/-- The tables of the encodings with one byte for each character. -/
def byteTables : Thunk (List (String × Array Nat)) := ⟨fun _ =>
  let start : List (String × List Nat) × List Char :=
    ([("latin_1", List.range 256)], Text.unpacked "0123456789abcdef=+-" 23703 packedChanges)
  let tables := bytewiseCodecs.foldl (fun (tables, cs) (name, base, _) =>
    let (codes, cs) := changed 0 ((tables.lookup base).getD []) cs
    ((name, codes) :: tables, cs)) start
  tables.1.map fun table => (table.1, table.2.toArray)⟩

/-- Reads an encoding with one byte for each character. -/
def readBytewise (name : String) : Decoder := fun bytes =>
  let table := (byteTables.get.lookup name).getD #[]
  orMalformed ((codesOf bytes).mapM fun b => (table[b]?).filter (· != noCharacter)) >>= textOfCodes

/-! ## Names -/

/-- The encodings with several bytes for a character, with other names of each. -/
def multibyteCodecs : List (String × List String) :=
  [("big5", ["big5_tw", "csbig5", "x_mac_trad_chinese"]), ("big5hkscs", ["big5_hkscs", "hkscs"]),
   ("cp932", ["932", "ms932", "ms_kanji", "mskanji"]), ("cp949", ["949", "ms949", "uhc"]), ("cp950", ["950", "ms950"]),
   ("euc_jis_2004", ["euc_jis2004", "eucjis2004", "jisx0213"]), ("euc_jisx0213", ["eucjisx0213"]),
   ("euc_jp", ["eucjp", "u_jis", "ujis"]),
   ("euc_kr", ["euckr", "korean", "ks_c_5601", "ks_c_5601_1987", "ks_x_1001", "ksc5601", "ksx1001", "x_mac_korean"]),
   ("gb18030", ["gb18030_2000"]),
   ("gb2312", ["chinese", "csiso58gb231280", "euc_cn", "euccn", "eucgb2312_cn", "gb2312_1980", "gb2312_80", "iso_ir_58",
     "x_mac_simp_chinese"]),
   ("gbk", ["936", "cp936", "ms936"]), ("hz", ["hz_gb", "hz_gb_2312", "hzgb"]),
   ("iso2022_jp", ["csiso2022jp", "iso2022jp", "iso_2022_jp"]), ("iso2022_jp_1", ["iso2022jp_1", "iso_2022_jp_1"]),
   ("iso2022_jp_2", ["iso2022jp_2", "iso_2022_jp_2"]), ("iso2022_jp_2004", ["iso2022jp_2004", "iso_2022_jp_2004"]),
   ("iso2022_jp_3", ["iso2022jp_3", "iso_2022_jp_3"]), ("iso2022_jp_ext", ["iso2022jp_ext", "iso_2022_jp_ext"]),
   ("iso2022_kr", ["csiso2022kr", "iso2022kr", "iso_2022_kr"]), ("johab", ["cp1361", "ms1361"]),
   ("shift_jis", ["csshiftjis", "s_jis", "shiftjis", "sjis", "x_mac_japanese"]),
   ("shift_jis_2004", ["s_jis_2004", "shiftjis2004", "sjis_2004"]),
   ("shift_jisx0213", ["s_jisx0213", "shiftjisx0213", "sjisx0213"])]

/-- An encoding with four bytes for each character: in such a text there is no room for the name of an encoding. -/
def readNothing : Decoder := fun _ => .error .malformed

/-- An encoding, by its name and the other names it has. -/
abbrev CodecEntry := String × List String × Codec

/-- The encodings that have no table. -/
def computedCodecs : List CodecEntry :=
  [("utf_8", ["cp65001", "u8", "utf", "utf8", "utf8_ucs2", "utf8_ucs4"], .ofText readUtf8),
   ("utf_8_sig", [], .ofText readUtf8),
   ("ascii", ["646", "ansi_x3.4_1968", "ansi_x3.4_1986", "ansi_x3_4_1968", "cp367", "csascii", "ibm367", "iso646_us",
     "iso_646.irv_1991", "iso_ir_6", "us", "us_ascii"], .ofText (readBelow 128)),
   ("latin_1", ["8859", "cp819", "csisolatin1", "ibm819", "iso8859", "iso8859_1", "iso_8859_1", "iso_8859_1_1987",
     "iso_ir_100", "l1", "latin", "latin1"], .ofText (readBelow 256)),
   ("iso8859_1", [], .ofText (readBelow 256)), ("charmap", [], .ofText (readBelow 256)),
   ("utf_7", ["u7", "unicode_1_1_utf_7", "utf7"], .ofText readUtf7),
   ("utf_16", ["u16", "utf16"], .ofText readMarkedUtf16),
   ("utf_16_le", ["unicodelittleunmarked", "utf_16le"], .ofText (readUtf16 true)),
   ("utf_16_be", ["unicodebigunmarked", "utf_16be"], .ofText (readUtf16 false)),
   ("utf_32", ["u32", "utf32"], .ofText readNothing), ("utf_32_le", ["utf_32le"], .ofText readNothing),
   ("utf_32_be", ["utf_32be"], .ofText readNothing), ("unicode_escape", [], .ofText readEscapes),
   ("raw_unicode_escape", [], .ofText readRawEscapes), ("undefined", [], .ofText fun _ => .error .unfit),
   ("base64_codec", ["base64", "base_64"], .notOfText), ("bz2_codec", ["bz2"], .notOfText),
   ("hex_codec", ["hex"], .notOfText), ("quopri_codec", ["quopri", "quoted_printable", "quotedprintable"], .notOfText),
   ("rot_13", ["rot13"], .notOfText), ("uu_codec", ["uu"], .notOfText), ("zlib_codec", ["zip", "zlib"], .notOfText)]

/-- All encodings. -/
def codecEntries : List CodecEntry :=
  computedCodecs ++ multibyteCodecs.map (fun (name, others) => (name, others, .ofText (readBelow 128))) ++
    bytewiseCodecs.map fun (name, _, others) => (name, others, .ofText (readBytewise name))

/-- The plain form of a name: lower case, and one underscore for each run of other characters than letters, digits and
points between them. -/
def plainName (name : List Char) : List Char :=
  let pieces := (name.map Char.toLower).splitBy fun a b => isKept a == isKept b
  let kept := pieces.filter fun piece => piece.all isKept
  List.intercalate ['_'] kept
where
  /-- Stays in the plain form. -/
  isKept (c : Char) : Bool := c.isAlphanum || c == '.'

/-- The encodings that are usually there. Only among the other names of an encoding may points stand for underscores. -/
def usualCodecs : Codecs := fun name =>
  let plain := plainName name
  let own := String.ofList plain
  let pointless := String.ofList (plain.map fun c => if c == '.' then '_' else c)
  let named (text : String) : Option CodecEntry := codecEntries.find? fun entry => entry.2.1.contains text
  ((named own).or ((named pointless).or (codecEntries.find? (·.1 == own)))).map (·.2.2)

end CallAtlas.Source
